import NewApi.Sessions.Tombstones

/-!
# Revoked logins

Every function of the session control plane keeps the states sound, and a call
that reports a revocation leaves the login sealed, as long as its final
tombstone is not refused for an entry of a newer version.  A check of an access
token that starts later does not return the session.
-/

namespace NewApi.Sessions

open Interleaving Transactions Shared UserSession Outcome Evolves

/-- The revocations whose final tombstone has the version that the call read
before its transaction. -/
def Call.outdated : Call → Bool
  | .rotate _ _ _ _ _ => true
  | .revoke _ _ => true
  | _ => false

/-- A final tombstone meets no entry of a newer version. -/
def tombstoneLands (op : Op) (shared : Shared) : Bool :=
  match op with
  | .eval entry _ => entry.status ≠ .revoked ||
      shared.visible.all fun cached => cached.version ≤ entry.version
  | _ => true

def contract (ttlSeconds : Int) (call : Call) : Contract Op Shared where
  rely := Evolves ttlSeconds
  guarantee := Evolves ttlSeconds
  assume := fun _ op shared => call.outdated = true → tombstoneLands op shared = true
  ensure := fun _ _ _ => True

variable {ttlSeconds : Int}

/-- The program keeps the contract of the call from this state on. -/
def Runs (ttlSeconds : Int) (call : Call) {α : Type}
    (post : α → Shared → Prop) (program : Code α) (shared : Shared) : Prop :=
  ∀ trace,
    Meets (Shared.perform ttlSeconds) (Shared.Sound ttlSeconds)
      (contract ttlSeconds call) (fun _ result later => post result later)
      program trace shared

section Rules

variable {call : Call} {α β : Type} {shared : Shared}

theorem runs_done {post : α → Shared → Prop} {result : α}
    (holds : ∀ later, Evolves ttlSeconds shared later →
      later.Sound ttlSeconds → post result later) :
    Runs ttlSeconds call post (.done result) shared :=
  fun _ => holds

variable {post : β → Shared → Prop}

theorem runs_perform {op : Op} {next : Answer op → Code β}
    (step : ∀ later, Evolves ttlSeconds shared later → later.Sound ttlSeconds →
      (call.outdated = true → tombstoneLands op later = true) →
        Evolves ttlSeconds later (perform ttlSeconds op later).1 ∧
          (perform ttlSeconds op later).1.Sound ttlSeconds ∧
          Runs ttlSeconds call post (next (perform ttlSeconds op later).2)
            (perform ttlSeconds op later).1) :
    Runs ttlSeconds call post (Program.perform op >>= next) shared := by
  intro trace later relied sound assumed
  obtain ⟨evolves, kept, rest⟩ := step later relied sound assumed
  exact ⟨trivial, evolves, kept, rest _⟩

theorem runs_read {op : Op} {next : Answer op → Code β}
    (reads : ∀ later, (perform ttlSeconds op later).1 = later)
    (rest : ∀ later, Evolves ttlSeconds shared later →
      later.Sound ttlSeconds →
        Runs ttlSeconds call post (next (perform ttlSeconds op later).2) later) :
    Runs ttlSeconds call post (Program.perform op >>= next) shared := by
  refine runs_perform ?_
  intro later evolves sound _
  rw [reads later]
  exact ⟨refl later, sound, rest later evolves sound⟩

theorem runs_now {next : Int → Code β}
    (rest : ∀ later, Evolves ttlSeconds shared later →
      later.Sound ttlSeconds → Runs ttlSeconds call post (next later.clock) later) :
    Runs ttlSeconds call post (request .now >>= next) shared :=
  runs_read (fun _ => rfl) rest

theorem runs_bind {middle : α → Shared → Prop}
    {program : Code α} {next : α → Code β} (sound : shared.Sound ttlSeconds)
    (first : Runs ttlSeconds call middle program shared)
    (rest : ∀ result later, Evolves ttlSeconds shared later →
      later.Sound ttlSeconds → middle result later →
        Runs ttlSeconds call post (next result) later) :
    Runs ttlSeconds call post (program >>= next) shared := by
  intro trace
  refine meets_bind refl sound ?_
  have transitive : ∀ {one two three : Shared}, Evolves ttlSeconds one two →
      Evolves ttlSeconds two three → Evolves ttlSeconds one three :=
    trans
  have progressed :=
    (first trace).progress (Evolves ttlSeconds) transitive
      (fun _ _ step => step) (fun _ _ step => step) (refl shared)
  refine progressed.weaken ?_
  intro trace result later soundLater holds
  exact rest result later holds.2 soundLater holds.1 trace

theorem Runs.mono {strong weak : α → Shared → Prop} {program : Code α}
    (runs : Runs ttlSeconds call strong program shared)
    (weaker : ∀ result later, strong result later → weak result later) :
    Runs ttlSeconds call weak program shared := by
  intro trace
  exact (runs trace).weaken fun _ result later _ holds => weaker result later holds

end Rules

section Writing

variable {call : Call} {shared : Shared}

theorem runs_any {α : Type} (result : α) :
    Runs ttlSeconds call (fun _ _ => True) (.done result) shared :=
  runs_done fun _ _ _ => trivial

variable {entry : UserSessionCacheEntry} {cacheDeadline : Int}

section

variable (active : entry.status = .active) (fits : shared.Fits entry)
  (timely : shared.Timely ttlSeconds cacheDeadline)
include active fits timely

theorem runs_writeActiveSnapshot :
    Runs ttlSeconds call (fun result _ => result ≠ some .refreshReuse)
      (writeActiveSnapshot entry cacheDeadline) shared := by
  refine runs_now ?_
  intro checked toChecked checkedSound
  dsimp only
  split
  · exact runs_done fun _ _ _ => by simp
  split
  · exact runs_done fun _ _ _ => by simp
  split
  · exact runs_done fun _ _ _ => by simp
  refine runs_perform ?_
  intro written toWritten writtenSound _
  have fitsChecked := fits.later toChecked
  have timelyLater := (timely.later fits.present toChecked).later fitsChecked.present toWritten
  have writable : written.Writable ttlSeconds { entry with cacheSchema := userSessionCacheSchema }
      (min cacheDeadline (entry.expiresAt * second) / millisecond) := by
    refine ⟨fitsChecked.later toWritten, fun _ => ⟨?_, cacheDeadline, timelyLater, ?_⟩, ?_⟩
    · have bound := min_le_right cacheDeadline (entry.expiresAt * second)
      simp only [second, millisecond] at bound ⊢
      omega
    · have bound := min_le_left cacheDeadline (entry.expiresAt * second)
      simp only [second, millisecond] at bound ⊢
      omega
    · exact fun denied => absurd active denied
  refine ⟨evolves_eval writtenSound writable, sound_eval writtenSound writable, ?_⟩
  split
  · exact runs_done fun _ _ _ => by simp
  refine runs_now ?_
  intro completed _ _
  split
  · exact runs_done fun _ _ _ => by simp
  split
  · exact runs_done fun _ _ _ => by simp
  · exact runs_done fun _ _ _ => by simp

theorem runs_writeActive :
    Runs ttlSeconds call (fun result _ => result ≠ some .refreshReuse)
      (writeUserSessionCache ttlSeconds entry (some cacheDeadline)) shared := by
  unfold writeUserSessionCache
  rw [if_pos active]
  exact runs_writeActiveSnapshot active fits timely

end

theorem runs_writeDenied {cacheDeadline : Option Int} (denied : entry.status ≠ .active)
    (fits : shared.Fits entry) :
    Runs ttlSeconds call
      (fun result later => result ≠ some .refreshReuse ∧
        ((∃ row, shared.row = some row ∧ row.status ≠ .active) →
          0 ≤ entry.version →
            (∀ written, Evolves ttlSeconds shared written →
              written.Sound ttlSeconds →
                (call.outdated = true → ∀ expiration, tombstoneLands
                  (.eval { entry with cacheSchema := userSessionCacheSchema }
                    expiration) written = true) →
                ∀ cached, written.visible = some cached → cached.version ≤ entry.version) →
              later.Sealed ttlSeconds))
      (writeUserSessionCache ttlSeconds entry cacheDeadline) shared := by
  unfold writeUserSessionCache
  rw [if_neg denied]
  refine runs_now ?_
  intro checked toChecked checkedSound
  refine runs_perform ?_
  intro written toWritten writtenSound lands
  have fitsLater := (fits.later toChecked).later toWritten
  have writable : written.Writable ttlSeconds { entry with cacheSchema := userSessionCacheSchema }
      (denyExpiration ttlSeconds entry.expiresAt checked.clock) := by
    refine ⟨fitsLater, fun active => absurd active denied, fun _ => ?_⟩
    exact ⟨checked.clock, toWritten.clock, lasting_denyExpiration _ _⟩
  have toHere := toChecked.trans toWritten
  refine ⟨evolves_eval writtenSound writable, sound_eval writtenSound writable, ?_⟩
  have seals : (∃ row, shared.row = some row ∧ row.status ≠ .active) →
      0 ≤ entry.version →
        (∀ written, Evolves ttlSeconds shared written →
          written.Sound ttlSeconds →
            (call.outdated = true → ∀ expiration, tombstoneLands
              (.eval { entry with cacheSchema := userSessionCacheSchema }
                expiration) written = true) →
            ∀ cached, written.visible = some cached → cached.version ≤ entry.version) →
          (written.eval { entry with cacheSchema := userSessionCacheSchema }
            (denyExpiration ttlSeconds entry.expiresAt checked.clock)).1.Sealed ttlSeconds := by
    rintro ⟨row, found, revoked⟩ positive newest
    obtain ⟨next, nextFound, _, _, final, _⟩ := toHere.row row found
    refine eval_seals writtenSound writable nextFound (final revoked).1 denied positive ?_
    exact newest written toHere writtenSound fun outdated _ => lands outdated
  split
  · refine runs_done fun later evolves _ => ⟨by simp, ?_⟩
    exact fun revoked positive newest => evolves.isSealed (seals revoked positive newest)
  · refine runs_done fun later evolves _ => ⟨by simp, ?_⟩
    exact fun revoked positive newest => evolves.isSealed (seals revoked positive newest)

theorem runs_confirm (session : UserSession) :
    Runs ttlSeconds call (fun result _ => result ≠ some .refreshReuse)
      (confirmUserSessionActiveSnapshot session) shared := by
  unfold confirmUserSessionActiveSnapshot
  split
  · exact runs_done fun _ _ _ => by simp
  refine runs_now ?_
  intro checked _ _
  refine runs_read (fun _ => rfl) ?_
  intro counted _ _
  split
  · exact runs_done fun _ _ _ => by simp
  · exact runs_done fun _ _ _ => by simp

theorem runs_published {post : Outcome → Shared → Prop}
    {session : UserSession} {success : Outcome} (sound : shared.Sound ttlSeconds)
    (active : entry.status = .active) (fits : shared.Fits entry)
    (timely : shared.Timely ttlSeconds cacheDeadline)
    (succeeds : ∀ later, Evolves ttlSeconds shared later → post success later)
    (fails : ∀ error later, error ≠ .refreshReuse → post (.failed error) later) :
    Runs ttlSeconds call post
      (do
        match ← writeUserSessionCache ttlSeconds entry (some cacheDeadline) with
        | some .stale =>
          match ← confirmUserSessionActiveSnapshot session with
          | some error => return .failed error
          | none => return success
        | some .inactive => return .failed .inactive
        | _ => return success)
      shared := by
  refine runs_bind sound (runs_writeActive active fits timely) ?_
  intro result later evolves laterSound _
  have succeeded : ∀ state, Evolves ttlSeconds shared state →
      Runs ttlSeconds call post (.done success) state :=
    fun state toState => runs_done fun final toFinal _ => succeeds final (toState.trans toFinal)
  split
  · refine runs_bind laterSound (runs_confirm session) ?_
    intro confirmation final toFinal _ other
    split
    · exact runs_done fun last _ _ => fails _ last (by simpa using other)
    · exact succeeded final (evolves.trans toFinal)
  · exact runs_done fun final _ _ => fails _ final (by simp)
  · exact succeeded later evolves

end Writing

section Functions

variable {call : Call} {shared : Shared}

variable {session : UserSession}

theorem fits_of_found (found : shared.row = some session)
    {entry : UserSessionCacheEntry} (version : entry.version = session.version)
    (expiry : entry.expiresAt = session.expiresAt) : shared.Fits entry :=
  ⟨session, found, le_of_eq version, expiry⟩

def Withheld (ttlSeconds : Int) (origin : Shared) (outcome : Outcome) (_ : Shared) : Prop :=
  origin.Sealed ttlSeconds → ∀ session, outcome ≠ .session session

theorem withheld_failed (origin later : Shared) (error : SessionError) :
    Withheld ttlSeconds origin (.failed error) later := by
  intro _ session
  simp

theorem runs_getUserSessionStored {origin : Shared} (evolved : Evolves ttlSeconds origin shared) :
    Runs ttlSeconds call (Withheld ttlSeconds origin) (getUserSessionStored ttlSeconds) shared := by
  refine runs_now ?_
  intro fixed toFixed _
  refine runs_read (fun _ => rfl) ?_
  intro loaded toLoaded loadedSound
  have fails : ∀ (error : SessionError) (state : Shared),
      Runs ttlSeconds call (Withheld ttlSeconds origin) (.done (.failed error)) state :=
    fun error state => runs_done fun later _ _ => withheld_failed origin later error
  cases found : loaded.row with
  | none =>
    simp only [perform, found, Option.map_none]
    exact fails _ _
  | some row =>
    simp only [perform, found, Option.map_some]
    refine runs_now ?_
    intro checked toChecked checkedSound
    have fits : ∀ entry : UserSessionCacheEntry,
        entry.version = row.version → entry.expiresAt = row.expiresAt → checked.Fits entry :=
      fun entry version expiry => (fits_of_found found version expiry).later toChecked
    split
    · refine runs_bind checkedSound (runs_writeDenied (by simp) (fits _ rfl rfl)) ?_
      intro _ later _ _ _
      exact fails _ _
    · rename_i stillActive
      have active : row.status = .active := by
        simp only [Bool.not_eq_true] at stillActive
        exact status_of_afterFind stillActive
      have timely : loaded.Timely ttlSeconds (fixed.clock + ttlSeconds * second) := by
        have clock := toLoaded.clock
        exact timely_now found active (by omega)
      refine runs_published checkedSound active (fits _ rfl rfl)
        (timely.later (by simp [found]) toChecked) ?_ ?_
      · -- A sealed row was not read as active.
        intro later _ isSealed
        exact absurd (((evolved.trans toFixed).trans toLoaded).isSealed isSealed)
            (not_sealed_of_active found active)
      · exact fun error later _ => withheld_failed origin later error

theorem runs_getUserSessionCached (sound : shared.Sound ttlSeconds) :
    Runs ttlSeconds call (Withheld ttlSeconds shared) (getUserSessionCached ttlSeconds) shared := by
  have lookup : Runs ttlSeconds call
      (fun found _ => shared.Sealed ttlSeconds → ∀ entry, found ≠ .hit entry)
      getUserSessionCache shared := by
    refine runs_read (fun _ => rfl) ?_
    intro read toRead readSound
    cases shown : read.visible with
    | none =>
      simp only [perform, shown]
      exact runs_done fun _ _ _ _ _ => by simp
    | some entry =>
      simp only [perform, shown]
      split
      · exact runs_done fun _ _ _ _ _ => by simp
      refine runs_now ?_
      intro checked toChecked _
      split
      · exact runs_done fun _ _ _ _ _ => by simp
      rename_i valid
      refine runs_done fun later _ _ isSealed => ?_
      exfalso
      apply valid
      rcases (toRead.isSealed isSealed).visible readSound shown with denied | expired
      · exact Or.inl denied
      · refine Or.inr (Or.inr ?_)
        have clock := toChecked.clock
        simp only [second] at expired ⊢
        omega
  refine runs_bind sound lookup ?_
  intro found later evolves laterSound missed
  cases found with
  | hit entry => exact runs_done fun _ _ _ isSealed => absurd rfl (missed isSealed entry)
  | inactive => exact runs_done fun final _ _ => withheld_failed shared final .inactive
  | miss =>
    refine (runs_getUserSessionStored (refl later)).mono ?_
    exact fun outcome _ absent isSealed => absent (evolves.isSealed isSealed)

theorem runs_createUserSession (session : UserSession) :
    Runs ttlSeconds call (fun _ _ => True) (createUserSession ttlSeconds session) shared := by
  refine runs_now ?_
  intro fixed toFixed _
  refine runs_now ?_
  intro checked toChecked _
  dsimp only
  split
  · exact runs_any _
  split
  · exact runs_any _
  rename_i valid
  refine runs_perform ?_
  intro stored toStored storedSound _
  cases found : stored.row with
  | some row =>
    simp only [perform, found]
    exact ⟨refl stored, storedSound, runs_any _⟩
  | none =>
    simp only [perform, found]
    have evolves : Evolves ttlSeconds stored
        { stored with row := some (session.withDefaults (checked.clock / second)) } :=
      evolves_create found rfl
    have active : (session.withDefaults (checked.clock / second)).status = .active := by
      by_contra inactive
      exact valid (Or.inl inactive)
    have noEntry : stored.cache = none := by
      cases cached : stored.cache with
      | none => rfl
      | some item =>
        obtain ⟨row, rowFound, _⟩ := storedSound.fits item cached
        rw [found] at rowFound
        cases rowFound
    have sound : Sound ttlSeconds
        { stored with row := some (session.withDefaults
            (checked.clock / second)) } := by
      refine ⟨storedSound.revokedSince, ?_, ?_, ?_⟩
      · rintro row ⟨⟩
        simp only [withDefaults]
        split <;> omega
      · simp [noEntry]
      · simp [noEntry]
    have timely : Timely ttlSeconds
        { stored with row := some (session.withDefaults (checked.clock / second)) }
        (fixed.clock + ttlSeconds * second) := by
      refine timely_now rfl active ?_
      have early := le_trans toChecked.clock toStored.clock
      dsimp only
      omega
    refine ⟨evolves, sound, ?_⟩
    exact runs_published sound active (fits_of_found rfl rfl rfl) timely
        (fun _ _ => trivial) (fun _ _ _ => trivial)

/-! ### Rotation -/

def Outcome.ReportsRevocation : Outcome → Prop
  | .revoked changed => changed = true
  | .affected total _ => 0 < total
  | .failed error => error = .refreshReuse
  | _ => False

def SealedIfReported (ttlSeconds : Int) (outcome : Outcome) (later : Shared) : Prop :=
  outcome.ReportsRevocation → later.Sealed ttlSeconds

theorem runs_quiet {outcome : Outcome} (quiet : ¬ outcome.ReportsRevocation) :
    Runs ttlSeconds call (SealedIfReported ttlSeconds) (.done outcome) shared :=
  runs_done fun _ _ _ reported => absurd reported quiet

variable {now : Int} {reason : String}

/-- The final tombstone of a call that revoked the row with the version it had
read before. -/
theorem runs_finalTombstone (outdated : call.outdated = true)
    (positive : 0 < session.version) (fits : shared.Fits session.cacheEntry)
    (revoked : ∃ row, shared.row = some row ∧ row.status ≠ .active) :
    Runs ttlSeconds call (fun _ later => later.Sealed ttlSeconds)
      (writeUserSessionCache ttlSeconds (session.revoke now reason).cacheEntry none) shared := by
  have writes :
      Runs ttlSeconds call _
        (writeUserSessionCache ttlSeconds (session.revoke now reason).cacheEntry none) shared :=
    runs_writeDenied (by simp [revoke, cacheEntry]) fits
  refine writes.mono ?_
  rintro _ later ⟨_, seals⟩
  refine seals revoked (le_of_lt positive) ?_
  intro written _ _ lands cached shown
  have landed := lands outdated 0
  simp only [tombstoneLands, shown, Option.all_some, revoke, cacheEntry,
    ne_eq, not_true_eq_false, decide_false, Bool.false_or] at landed
  exact of_decide_eq_true landed

variable {row : UserSession}

theorem sound_revokeRow {stored : UserSession}
    (sound : shared.Sound ttlSeconds) (found : shared.row = some row)
    (active : row.status = .active) (expiry : stored.expiresAt = row.expiresAt)
    (version : stored.version = row.version) (now : Int) (reason : String) :
    (shared.revokeRow stored now reason).Sound ttlSeconds := by
  refine sound.later (evolves_revokeRow found active expiry version now reason) (le_refl _) ?_ rfl
  rintro other ⟨⟩
  have positive := sound.positive row found
  rw [← version] at positive
  exact positive

variable {userID : Int} {presentedHash nextHash : String}

theorem runs_rotateLoaded
    {graceSeconds cacheDeadline : Int} {again : Code Outcome} (outdated : call.outdated = true)
    (sound : shared.Sound ttlSeconds)
    (repeats : ∀ later, later.Sound ttlSeconds →
      Runs ttlSeconds call (SealedIfReported ttlSeconds) again later)
    (positive : 0 < session.version) (fits : shared.Fits session.cacheEntry)
    (timely : session.status = .active → shared.Timely ttlSeconds cacheDeadline) :
    Runs ttlSeconds call (SealedIfReported ttlSeconds)
      (rotateLoaded ttlSeconds userID presentedHash nextHash now graceSeconds
        cacheDeadline again session) shared := by
  have quiet : ∀ (outcome : Outcome) (state : Shared),
      ¬ outcome.ReportsRevocation →
        Runs ttlSeconds call (SealedIfReported ttlSeconds) (.done outcome)
          state := fun _ _ => runs_quiet
  unfold rotateLoaded
  split
  · exact quiet _ _ (by simp [ReportsRevocation])
  rename_i stillActive
  have active : session.status = .active := status_of_inactiveAt (by simpa using stillActive)
  split
  · refine runs_perform ?_
    intro swapped toSwapped swappedSound _
    have unchanged : ∀ program : Code Outcome,
        (∀ later, later.Sound ttlSeconds →
          Runs ttlSeconds call (SealedIfReported ttlSeconds) program later) →
        Evolves ttlSeconds swapped swapped ∧ swapped.Sound ttlSeconds ∧
          Runs ttlSeconds call (SealedIfReported ttlSeconds) program swapped :=
      fun program runs => ⟨refl swapped, swappedSound, runs swapped swappedSound⟩
    cases found : swapped.row with
    | none =>
      simp only [perform, found]
      exact unchanged _ fun later laterSound => repeats later laterSound
    | some row =>
      by_cases current : row.userID = userID ∧ row.inactiveAt now = false ∧
          row.refreshHash = presentedHash
      · simp only [perform, found, if_pos current]
        have rowActive := status_of_inactiveAt current.2.1
        have evolves : Evolves ttlSeconds swapped
            { swapped with
              row := some { row with
                previousRefreshHash := presentedHash
                previousValidUntil := now + graceSeconds
                refreshHash := nextHash
                lastActiveAt := now }
              exchanges := swapped.exchanges ++ [(presentedHash, nextHash)] } :=
          evolves_update found rowActive rfl rfl rfl (le_refl _) rowActive
        have nextSound := swappedSound.later evolves swappedSound.revokedSince
          (by rintro other ⟨⟩; exact swappedSound.positive row found) rfl
        refine ⟨evolves, nextSound, ?_⟩
        have reached := toSwapped.trans evolves
        refine runs_published nextSound active (fits.later reached)
          ((timely active).later fits.present reached) ?_ ?_
        · intro later _ reported
          cases reported
        · intro error later other reported
          exact absurd reported other
      · simp only [perform, found, if_neg current]
        exact unchanged _ fun later laterSound => repeats later laterSound
  split
  · exact quiet _ _ (by simp [ReportsRevocation])
  split
  · exact quiet _ _ (by simp [ReportsRevocation])
  refine runs_bind sound (runs_writeDenied (by simp [denyEntry]) fits) ?_
  rintro result fenced toFenced fencedSound ⟨other, _⟩
  split
  · exact quiet _ _ fun reported => other (by rw [reported])
  refine runs_perform ?_
  intro stored toStored storedSound _
  have unchanged : Evolves ttlSeconds stored stored ∧ stored.Sound ttlSeconds ∧
        Runs ttlSeconds call (SealedIfReported ttlSeconds) (.done (.failed .inactive)) stored :=
    ⟨refl stored, storedSound, quiet _ _ (by simp [ReportsRevocation])⟩
  cases found : stored.row with
  | none =>
    simp only [perform, found]
    exact unchanged
  | some row =>
    by_cases current : row.userID = userID ∧ row.inactiveAt now = false
    · simp only [perform, found, if_pos current]
      have rowActive := status_of_inactiveAt current.2
      have evolves : Evolves ttlSeconds stored (stored.revokeRow row now "refresh_reuse") :=
        evolves_revokeRow found rowActive rfl rfl now "refresh_reuse"
      have nextSound := sound_revokeRow storedSound found rowActive rfl rfl now "refresh_reuse"
      refine ⟨evolves, nextSound, ?_⟩
      have reached := (toFenced.trans toStored).trans evolves
      refine runs_bind nextSound
        (runs_finalTombstone outdated positive (fits.later reached)
          ⟨_, rfl, by simp [revoke]⟩) ?_
      intro _ later _ _ isSealed
      exact runs_done fun final toFinal _ _ => toFinal.isSealed isSealed
    · simp only [perform, found, if_neg current]
      exact unchanged

theorem read_facts {loaded : Shared}
    (loadedSound : loaded.Sound ttlSeconds) (found : loaded.row = some row) :
    0 < row.afterFind.version ∧ loaded.Fits row.afterFind.cacheEntry :=
  ⟨loadedSound.positive row found, fits_of_found found rfl rfl⟩

theorem runs_rotateRounds {graceSeconds : Int} (outdated : call.outdated = true) (rounds : Nat) :
    ∀ shared : Shared, shared.Sound ttlSeconds →
      Runs ttlSeconds call (SealedIfReported ttlSeconds)
        (rotateRounds ttlSeconds userID presentedHash nextHash now graceSeconds rounds) shared := by
  induction rounds with
  | zero =>
    intro shared _
    exact runs_quiet (by simp [ReportsRevocation])
  | succ rounds ih =>
    intro shared _
    refine runs_now ?_
    intro fixed toFixed _
    refine runs_read (fun _ => rfl) ?_
    intro loaded toLoaded loadedSound
    cases found : loaded.row.filter (·.userID = userID) with
    | none =>
      simp only [perform, found, Option.map_none]
      exact runs_quiet (by simp [ReportsRevocation])
    | some row =>
      simp only [perform, found, Option.map_some]
      have rowFound := (Option.filter_eq_some_iff.mp found).1
      obtain ⟨positive, fits⟩ := read_facts loadedSound rowFound
      refine runs_rotateLoaded outdated loadedSound ih positive fits ?_
      intro active
      have clock := toLoaded.clock
      exact timely_now rowFound active (by omega)

theorem runs_rotateUserSessionRefresh {grace : Int} (outdated : call.outdated = true) :
    Runs ttlSeconds call (SealedIfReported ttlSeconds)
      (rotateUserSessionRefresh ttlSeconds userID presentedHash nextHash now grace) shared := by
  unfold rotateUserSessionRefresh
  split
  · exact runs_quiet (by simp [ReportsRevocation])
  refine runs_now ?_
  intro checked _ checkedSound
  dsimp only
  split
  · exact runs_quiet (by simp [ReportsRevocation])
  · exact runs_rotateRounds outdated 3 checked checkedSound

/-! ### Revocations -/

theorem runs_revokeUserSession (outdated : call.outdated = true) :
    Runs ttlSeconds call (SealedIfReported ttlSeconds)
      (revokeUserSession ttlSeconds userID reason) shared := by
  unfold revokeUserSession
  split
  · exact runs_quiet (by simp [ReportsRevocation])
  refine runs_now ?_
  intro checked toChecked _
  refine runs_read (fun _ => rfl) ?_
  intro loaded toLoaded loadedSound
  cases found : loaded.row.filter (·.userID = userID) with
  | none =>
    simp only [perform, found, Option.map_none]
    exact runs_quiet (by simp [ReportsRevocation])
  | some candidate =>
    simp only [perform, found, Option.map_some]
    have rowFound := (Option.filter_eq_some_iff.mp found).1
    obtain ⟨positive, fits⟩ := read_facts loadedSound rowFound
    split
    · exact runs_quiet (by simp [ReportsRevocation])
    refine runs_bind loadedSound (runs_writeDenied (by simp [denyEntry]) fits) ?_
    rintro result fenced toFenced fencedSound ⟨other, _⟩
    split
    · exact runs_quiet fun reported => other (by rw [reported])
    refine runs_perform ?_
    intro stored toStored storedSound _
    cases current : stored.row.filter (·.userID = userID) with
    | none =>
      simp only [perform, current]
      exact ⟨refl stored, storedSound, runs_quiet (by simp [ReportsRevocation])⟩
    | some row =>
      have currentFound := (Option.filter_eq_some_iff.mp current).1
      cases inactive : row.inactiveAt (checked.clock / second) with
      | true =>
        simp only [perform, current, inactive, if_true]
        exact ⟨refl stored, storedSound, runs_quiet (by simp [ReportsRevocation])⟩
      | false =>
        simp only [perform, current, inactive, Bool.false_eq_true, if_false, if_true]
        have rowActive := status_of_inactiveAt inactive
        have evolves : Evolves ttlSeconds stored
            (stored.revokeRow row (checked.clock / second) reason) :=
          evolves_revokeRow currentFound rowActive rfl rfl _ reason
        have nextSound := sound_revokeRow storedSound currentFound
          rowActive rfl rfl (checked.clock / second) reason
        refine ⟨evolves, nextSound, ?_⟩
        have reached := (toFenced.trans toStored).trans evolves
        refine runs_bind nextSound
          (runs_finalTombstone outdated positive (fits.later reached)
            ⟨_, rfl, by simp [revoke]⟩) ?_
        intro _ later _ _ isSealed
        exact runs_done fun final toFinal _ _ => toFinal.isSealed isSealed

theorem runs_ownTombstone (sound : shared.Sound ttlSeconds) (found : shared.row = some row)
    (revoked : row.status ≠ .active) (denied : session.status ≠ .active)
    (version : session.version = row.version) (expiry : session.expiresAt = row.expiresAt) :
    Runs ttlSeconds call (fun _ later => later.Sealed ttlSeconds)
      (writeUserSessionCache ttlSeconds session.cacheEntry none) shared := by
  have writes :
      Runs ttlSeconds call _ (writeUserSessionCache ttlSeconds session.cacheEntry none) shared :=
    runs_writeDenied denied (fits_of_found found version expiry)
  refine writes.mono ?_
  rintro _ later ⟨_, seals⟩
  refine seals ⟨row, found, revoked⟩ ?_ ?_
  · have positive := sound.positive row found
    simp only [cacheEntry]
    omega
  · intro written toWritten writtenSound _ cached shown
    obtain ⟨next, nextFound, _, _, final, _⟩ := toWritten.row row found
    have frozen := (final revoked).2.1
    -- What is cached is of the row, whose version no longer changes.
    obtain ⟨item, itemStored, rfl⟩ := stored_of_visible shown
    obtain ⟨other, otherFound, older, _⟩ := writtenSound.fits item itemStored
    rw [nextFound] at otherFound
    cases otherFound
    simp only [cacheEntry]
    omega

theorem runs_revokeUserSessionByRefreshHash :
    Runs ttlSeconds call (SealedIfReported ttlSeconds)
      (revokeUserSessionByRefreshHash ttlSeconds presentedHash reason)
      shared := by
  unfold revokeUserSessionByRefreshHash
  split
  · exact runs_quiet (by simp [ReportsRevocation])
  refine runs_now ?_
  intro checked _ _
  refine runs_perform ?_
  intro stored toStored storedSound _
  rcases perform_revokePresented ttlSeconds stored presentedHash
      (checked.clock / second) reason with
    same | ⟨row, fence, found, active, rfl, outcome⟩
  · rw [same]
    exact ⟨refl stored, storedSound, runs_quiet (by simp [ReportsRevocation])⟩
  have writable : stored.Writable ttlSeconds
      (row.afterFind.denyEntry .revoking (checked.clock / second) reason)
      (denyExpiration ttlSeconds row.afterFind.expiresAt stored.clock) := by
    refine ⟨fits_of_found found rfl rfl, fun entryActive => ?_, fun _ => ?_⟩
    · cases entryActive
    · exact ⟨stored.clock, le_refl _, lasting_denyExpiration _ _⟩
  have fenced := evolves_eval storedSound writable
  have fencedSound := sound_eval storedSound writable
  rcases outcome with refused | revoked
  · rw [refused]
    exact ⟨fenced, fencedSound, runs_quiet (by simp [ReportsRevocation])⟩
  · rw [revoked]
    obtain ⟨sameRow, _⟩ := eval_frame stored
      (row.afterFind.denyEntry .revoking (checked.clock / second) reason)
      (denyExpiration ttlSeconds row.afterFind.expiresAt stored.clock)
    have fencedFound := sameRow.trans found
    have nextSound := sound_revokeRow fencedSound fencedFound active rfl rfl
      (checked.clock / second) reason
    refine ⟨fenced.trans (evolves_revokeRow fencedFound active rfl rfl _ _), nextSound, ?_⟩
    refine runs_bind nextSound
      (runs_ownTombstone nextSound rfl (by simp [revoke])
        (by simp [revoke]) rfl rfl) ?_
    intro _ later _ _ isSealed
    exact runs_done fun final toFinal _ _ => toFinal.isSealed isSealed

theorem runs_revokeRounds (rounds : Nat) :
    ∀ (total : Nat) (shared : Shared), shared.Sound ttlSeconds →
      (0 < total → shared.Sealed ttlSeconds) →
        Runs ttlSeconds call
          (fun result later => ∀ outcome, result = some outcome →
            SealedIfReported ttlSeconds outcome later)
          (revokeRounds ttlSeconds userID now reason rounds total) shared := by
  induction rounds with
  | zero =>
    intro total shared _ _
    exact runs_done fun _ _ _ outcome returned => by cases returned
  | succ rounds ih =>
    intro total shared _ reported
    have affected : ∀ (error : Option SessionError) (state : Shared),
        Evolves ttlSeconds shared state →
          Runs ttlSeconds call
            (fun result later => ∀ outcome, result = some outcome →
              SealedIfReported ttlSeconds outcome later)
            (.done (some (.affected total error))) state := by
      intro error state toState
      refine runs_done fun later toLater _ outcome returned => ?_
      cases returned
      exact fun counted => (toState.trans toLater).isSealed (reported counted)
    refine runs_read (fun _ => rfl) ?_
    intro loaded toLoaded loadedSound
    cases found : loaded.row.filter (fun row =>
        row.userID = userID && row.status = .active && row.expiresAt > now) with
    | none =>
      simp only [perform, found, Option.map_none]
      exact affected none loaded toLoaded
    | some candidate =>
      simp only [perform, found, Option.map_some]
      have rowFound := (Option.filter_eq_some_iff.mp found).1
      obtain ⟨_, fits⟩ := read_facts loadedSound rowFound
      refine runs_bind loadedSound (runs_writeDenied (by simp [denyEntry]) fits) ?_
      rintro result fenced toFenced fencedSound _
      have toHere := toLoaded.trans toFenced
      split
      · exact affected _ fenced toHere
      refine runs_perform ?_
      intro stored toStored storedSound _
      have reached := toHere.trans toStored
      cases current : stored.row.filter (·.status = .active) with
      | none =>
        simp only [perform, current]
        exact ⟨refl stored, storedSound,
            ih total stored storedSound fun counted => reached.isSealed (reported counted)⟩
      | some row =>
        simp only [perform, current]
        obtain ⟨currentFound, isActive⟩ := Option.filter_eq_some_iff.mp current
        have active : row.status = .active := by simpa using isActive
        have nextSound := sound_revokeRow storedSound currentFound active rfl rfl now reason
        refine ⟨evolves_revokeRow currentFound active rfl rfl now reason, nextSound, ?_⟩
        refine runs_bind nextSound
          (runs_ownTombstone nextSound rfl (by simp [revoke])
            (by simp [revoke]) rfl rfl) ?_
        intro _ later _ laterSound isSealed
        exact ih (total + 1) later laterSound fun _ => isSealed

theorem runs_revokeAllUserSessions {rounds : Nat} :
    Runs ttlSeconds call
      (fun result later => ∀ outcome, result = some outcome →
        SealedIfReported ttlSeconds outcome later)
      (revokeAllUserSessions ttlSeconds userID reason rounds) shared := by
  unfold revokeAllUserSessions
  split
  · refine runs_done fun _ _ _ outcome returned => ?_
    cases returned
    exact fun counted => absurd counted (lt_irrefl 0)
  refine runs_now ?_
  intro checked _ checkedSound
  exact runs_revokeRounds rounds 0 checked checkedSound fun counted => absurd counted (lt_irrefl 0)

theorem runs_advanceUserSessionAuthVersion
    {expectedSessionVersion expectedUserAuthVersion nextUserAuthVersion : Int} :
    Runs ttlSeconds call (SealedIfReported ttlSeconds)
      (advanceUserSessionAuthVersion ttlSeconds userID expectedSessionVersion
        expectedUserAuthVersion nextUserAuthVersion) shared := by
  unfold advanceUserSessionAuthVersion userSessionCacheDeadline
  split
  · exact runs_quiet (by simp [ReportsRevocation])
  refine runs_now ?_
  intro fixed toFixed _
  refine runs_now ?_
  intro checked toChecked _
  refine runs_perform ?_
  intro stored toStored storedSound _
  have unchanged : ∀ error : SessionError, error ≠ .refreshReuse →
      Evolves ttlSeconds stored stored ∧ stored.Sound ttlSeconds ∧
        Runs ttlSeconds call (SealedIfReported ttlSeconds) (.done (.failed error)) stored :=
    fun error other => ⟨refl stored, storedSound, runs_quiet other⟩
  cases found : stored.row.filter (·.userID = userID) with
  | none =>
    simp only [perform, found]
    exact unchanged .notFound (by simp)
  | some row =>
    have rowFound := (Option.filter_eq_some_iff.mp found).1
    by_cases stale : row.status ≠ .active ∨
        row.expiresAt ≤ checked.clock / second ∨
          row.version ≠ expectedSessionVersion ∨ row.userAuthVersion ≠ expectedUserAuthVersion
    · simp only [perform, found, if_pos stale]
      exact unchanged .inactive (by simp)
    · simp only [perform, found, if_neg stale]
      have active : row.status = .active := by
        by_contra inactive
        exact stale (Or.inl inactive)
      have evolves : Evolves ttlSeconds stored
          { stored with
            row := some { row with
              version := row.version + 1
              userAuthVersion := nextUserAuthVersion
              lastActiveAt := checked.clock / second } } :=
        evolves_update rowFound active rfl rfl rfl (by simp) active
      have nextSound := storedSound.later evolves storedSound.revokedSince
        (by
          rintro other ⟨⟩
          dsimp only
          omega)
        rfl
      refine ⟨evolves, nextSound, ?_⟩
      have timely : Timely ttlSeconds
          { stored with
            row := some { row with
              version := row.version + 1
              userAuthVersion := nextUserAuthVersion
              lastActiveAt := checked.clock / second } }
          (fixed.clock + ttlSeconds * second) := by
        refine timely_now rfl active ?_
        have early := le_trans toChecked.clock toStored.clock
        dsimp only
        omega
      refine runs_bind nextSound (runs_writeActive active ⟨_, rfl, le_refl _, rfl⟩ timely) ?_
      intro result later _ laterSound other
      have succeeded : ∀ (session : UserSession) (state : Shared),
          Runs ttlSeconds call (SealedIfReported ttlSeconds) (.done (.session session)) state :=
        fun _ _ => runs_quiet (by simp [ReportsRevocation])
      split
      · exact succeeded _ later
      · refine runs_bind laterSound (runs_confirm _) ?_
        intro confirmation final _ _ confirmed
        split
        · exact runs_quiet fun reported => confirmed (by rw [reported])
        · exact succeeded _ final
      · exact runs_quiet fun reported => other (by rw [reported])

end Functions

/-! ## All runs -/

/-- A call in progress is not about to write a final tombstone that an entry of
a newer version refuses. -/
def lands (config : Config Answer Call Shared (Option Outcome)) :
    Action Call Nat → Bool
  | .step number =>
    match config.threads[number]? with
    | none => true
    | some thread =>
      match thread.program with
      | .done _ => true
      | .call op _ => !thread.call.outdated || tombstoneLands op config.shared
  | _ => true

def startConfig (clock : Int) (row : Option UserSession) :
    Config Answer Call Shared (Option Outcome) where
  shared := { clock, row, revokedSince := clock }
  threads := []

def Call.revoking : Call → Bool
  | .rotate _ _ _ _ _ => true
  | .revoke _ _ => true
  | .revokeByRefreshHash _ _ => true
  | .revokeAll _ _ _ => true
  | _ => false

/-- What holds when a call has returned: a reported revocation has sealed the
login, and a check has withheld a login that was sealed when it started. -/
def Returns (ttlSeconds : Int) (call : Call) (origin : Shared)
    (result : Option Outcome) (later : Shared) : Prop :=
  ∀ outcome, result = some outcome →
    (call.revoking = true → SealedIfReported ttlSeconds outcome later) ∧
      (call = .get → Withheld ttlSeconds origin outcome later)

theorem runs_returning {call : Call} {origin shared : Shared}
    {program : Code Outcome} (sound : shared.Sound ttlSeconds)
    (runs : Runs ttlSeconds call
      (fun outcome later =>
        (call.revoking = true → SealedIfReported ttlSeconds outcome later) ∧
          (call = .get → Withheld ttlSeconds origin outcome later))
      program shared) :
    Runs ttlSeconds call (Returns ttlSeconds call origin) (some <$> program) shared := by
  refine runs_bind sound runs ?_
  rintro outcome later _ _ ⟨reported, withheld⟩
  refine runs_done fun final toFinal _ other returned => ?_
  cases returned
  exact ⟨fun revoking reports => toFinal.isSealed (reported revoking reports), withheld⟩

theorem runs_code (call : Call) (shared : Shared) (sound : shared.Sound ttlSeconds) :
    Runs ttlSeconds call (Returns ttlSeconds call shared) (call.code ttlSeconds) shared := by
  cases call with
  | get =>
    refine runs_returning sound
      ((runs_getUserSessionCached sound).mono fun outcome _ withheld => ?_)
    exact ⟨nofun, fun _ => withheld⟩
  | create session =>
    refine runs_returning sound ((runs_createUserSession session).mono fun outcome _ _ => ?_)
    exact ⟨nofun, nofun⟩
  | rotate userID presentedHash nextHash now grace =>
    refine runs_returning sound
      ((runs_rotateUserSessionRefresh rfl).mono fun outcome _ reported => ?_)
    exact ⟨fun _ => reported, nofun⟩
  | advance userID session user next =>
    refine runs_returning sound
      (runs_advanceUserSessionAuthVersion.mono fun outcome _ reported => ?_)
    exact ⟨fun _ => reported, nofun⟩
  | revoke userID reason =>
    refine runs_returning sound ((runs_revokeUserSession rfl).mono fun outcome _ reported => ?_)
    exact ⟨fun _ => reported, nofun⟩
  | revokeByRefreshHash presentedHash reason =>
    refine runs_returning sound
      (runs_revokeUserSessionByRefreshHash.mono fun outcome _ reported => ?_)
    exact ⟨fun _ => reported, nofun⟩
  | revokeAll userID reason rounds =>
    refine runs_revokeAllUserSessions.mono fun result later reported => ?_
    intro outcome returned
    exact ⟨fun _ => reported outcome returned, nofun⟩

section AllRuns

variable {config : Config Answer Call Shared (Option Outcome)} {actions : List (Action Call Nat)}

theorem respects_of_lands {invariant : Shared → Prop}
    (landing : GuardedRun (machine ttlSeconds).act
      (fun config action => lands config action = true) config actions) :
    GuardedRun (machine ttlSeconds).act
      (Respects invariant (fun _ _ _ => True)
        fun _ call => contract ttlSeconds call) config actions := by
  refine landing.mono ?_
  intro state action landed
  cases action with
  | start call => exact ⟨trivial, fun _ _ _ _ _ _ _ => ⟨fun step => step, fun step => step⟩⟩
  | outside elapsed => trivial
  | step number =>
    intro thread op next found code outdated
    simp only [lands, found, code, outdated, Bool.not_true, Bool.false_or] at landed
    exact landed

theorem sound_outside {shared : Shared} (sound : shared.Sound ttlSeconds) (elapsed : Nat) :
    Sound ttlSeconds { shared with clock := shared.clock + elapsed } := by
  refine sound.later (evolves_outside shared elapsed) ?_ sound.positive rfl
  have since := sound.revokedSince
  dsimp only
  omega

theorem sound_start (clock : Int) {row : Option UserSession}
    (stored : ∀ session, row = some session → 0 < session.version) :
    (startConfig clock row).shared.Sound ttlSeconds where
  revokedSince := le_refl _
  positive := stored
  fits := by simp [startConfig]
  bounded := by simp [startConfig]

/-- Every call of a run keeps its contract, whatever the others do. -/
theorem kept_run {clock : Int} {row : Option UserSession}
    (stored : ∀ session, row = some session → 0 < session.version)
    (landing : GuardedRun (machine ttlSeconds).act
      (fun config action => lands config action = true) (startConfig clock row)
      actions) :
    Kept (machine ttlSeconds) (Sound ttlSeconds) (fun _ call => contract ttlSeconds call)
      (fun _ call _ result later => ∀ outcome, result = some outcome →
        call.revoking = true → SealedIfReported ttlSeconds outcome later)
      ((machine ttlSeconds).run (startConfig clock row) actions) := by
  refine Kept.run (fun _ _ => Evolves.trans) (fun _ _ => Evolves.refl) ?_ ?_
    (respects_of_lands landing) ⟨sound_start clock stored, ?_, ?_, ?_⟩
  · intro _ call shared sound _
    have runs := (runs_code call shared sound).mono
      fun result later returns outcome returned => (returns outcome returned).1
    exact runs []
  · intro elapsed shared sound
    exact ⟨sound_outside sound elapsed, fun _ _ => evolves_outside shared elapsed⟩
  · intro number thread found
    simp [startConfig] at found
  · intro number thread found
    simp [startConfig] at found
  · intro number thread _ _ found
    simp [startConfig] at found

/-- In a run from a sealed state, no check that is started in it returns the
session. -/
theorem kept_sealed_run
    (kept : Kept (machine ttlSeconds) (Sound ttlSeconds)
      (fun _ call => contract ttlSeconds call)
      (fun _ call _ result later => ∀ outcome, result = some outcome →
        call.revoking = true → SealedIfReported ttlSeconds outcome later)
      config)
    (isSealed : config.shared.Sealed ttlSeconds)
    (landing : GuardedRun (machine ttlSeconds).act
      (fun config action => lands config action = true) config actions) :
    Kept (machine ttlSeconds) (fun shared => shared.Sound ttlSeconds ∧ shared.Sealed ttlSeconds)
      (fun _ call => contract ttlSeconds call)
      (fun number call _ result _ => config.threads.length ≤ number →
        call = .get → ∀ session, result ≠ some (.session session))
      ((machine ttlSeconds).run config actions) := by
  have keepsSeal : ∀ first second : Shared,
      first.Sound ttlSeconds ∧ first.Sealed ttlSeconds →
        Evolves ttlSeconds first second → second.Sound ttlSeconds →
          second.Sound ttlSeconds ∧ second.Sealed ttlSeconds :=
    fun _ _ before evolves sound => ⟨sound, evolves.isSealed before.2⟩
  refine Kept.run (fun _ _ => Evolves.trans) (fun _ _ => Evolves.refl) ?_ ?_
    (respects_of_lands landing)
    ⟨⟨kept.shared, isSealed⟩, ?_, kept.ensured, ?_⟩
  · rintro number call shared ⟨sound, sealedNow⟩ _
    have runs := (runs_code call shared sound).mono
      fun result later returns => show config.threads.length ≤ number →
          call = .get → ∀ session, result ≠ some (.session session) from
        fun _ isGet session returned => (returns _ returned).2 isGet sealedNow session rfl
    exact (runs []).restrict (fun _ both => both.1) keepsSeal
  · rintro elapsed shared ⟨sound, sealedNow⟩
    have evolves : Evolves ttlSeconds shared { shared with clock := shared.clock + elapsed } :=
      evolves_outside shared elapsed
    exact ⟨⟨sound_outside sound elapsed, evolves.isSealed sealedNow⟩, fun _ _ => evolves⟩
  · intro number thread found
    have inRange := (List.getElem?_eq_some_iff.mp found).1
    have meets := (kept.threads number thread found).restrict (fun _ both => both.1) keepsSeal
    exact meets.weaken fun _ _ _ _ _ beyond => absurd beyond (by omega)
  · intro _ _ _ _ _ _ _ _ _ _ _ step
    exact step

/-- A revoked login stays revoked: once a revoking call has reported that it
revoked the session, no check of an access token that is started later returns
it, in every run in which no final tombstone is refused for a newer entry. -/
theorem revoked_login_stays_revoked (clock : Int) (row : Option UserSession)
    (stored : ∀ session, row = some session → 0 < session.version)
    (before after : List (Action Call Nat))
    (landing : GuardedRun (machine ttlSeconds).act
      (fun config action => lands config action = true) (startConfig clock row)
      (before ++ after))
    {revoker : Nat} {revocation : Thread Answer Call Shared (Option Outcome)} {outcome : Outcome}
    (found : ((machine ttlSeconds).run (startConfig clock row)
      before).threads[revoker]? = some revocation)
    (revoking : revocation.call.revoking = true)
    (returned : revocation.program.returned = some (some outcome))
    (reports : outcome.ReportsRevocation)
    {checker : Nat} {check : Thread Answer Call Shared (Option Outcome)}
    (startedLater : ((machine ttlSeconds).run (startConfig clock row)
      before).threads.length ≤ checker)
    (checkFound : ((machine ttlSeconds).run (startConfig clock row)
      (before ++ after)).threads[checker]? = some check)
    (isCheck : check.call = .get) :
    ∀ session, check.program.returned ≠ some (some (.session session)) := by
  intro session checkReturned
  obtain ⟨beforeLanding, afterLanding⟩ := guardedRun_append.mp landing
  have kept := kept_run stored beforeLanding
  have done := kept.threads revoker revocation found
  rw [Program.returned_eq_some.mp returned] at done
  have isSealed : ((machine ttlSeconds).run (startConfig clock row)
      before).shared.Sealed ttlSeconds :=
    done _ (Evolves.refl _) kept.shared outcome rfl revoking reports
  have keptAfter := kept_sealed_run kept isSealed afterLanding
  have split : (machine ttlSeconds).run (startConfig clock row) (before ++ after) =
      (machine ttlSeconds).run ((machine ttlSeconds).run (startConfig clock row) before) after :=
    execute_append _ _ _ _
  rw [split] at checkFound
  have checked := keptAfter.threads checker check checkFound
  rw [Program.returned_eq_some.mp checkReturned] at checked
  exact checked _ (Evolves.refl _) keptAfter.shared startedLater isCheck session rfl

end AllRuns

def loginRow : UserSession where
  userID := 1
  userAuthVersion := 1
  refreshHash := "first"
  expiresAt := 1000000

def steps (number count : Nat) : List (Action Call Nat) := List.replicate count (.step number)

def logoutRun : List (Action Call Nat) := .start (.revoke 1 "logout") :: steps 0 7

/-- The logout is published, so a later check does not return the session. -/
theorem revoked_login_stays_revoked_of_logout :
    ∃ check, ((machine 60).run (startConfig 0 (some loginRow))
        (logoutRun ++ (.start .get :: steps 1 9))).threads[1]? = some check ∧
      check.call = .get ∧ check.program.returned ≠ some (some (.session loginRow)) := by
  obtain ⟨revocation, found, revoking, returned⟩ : ∃ revocation,
      ((machine 60).run (startConfig 0 (some loginRow)) logoutRun).threads[0]? = some revocation ∧
        revocation.call.revoking = true ∧
          revocation.program.returned = some (some (.revoked true)) :=
    ⟨_, rfl, rfl, by decide +kernel⟩
  obtain ⟨check, checked, isGet⟩ : ∃ check,
      ((machine 60).run (startConfig 0 (some loginRow))
          (logoutRun ++ (.start .get :: steps 1 9))).threads[1]? = some check ∧
        check.call = .get :=
    ⟨_, rfl, rfl⟩
  refine ⟨check, checked, isGet, ?_⟩
  exact revoked_login_stays_revoked 0 (some loginRow) (by rintro session ⟨⟩; decide)
      logoutRun (.start .get :: steps 1 9) (by decide +kernel) found revoking
      returned rfl (by decide +kernel) checked isGet loginRow

def bumpedRun : List (Action Call Nat) :=
  .start (.revoke 1 "logout") :: steps 0 4 ++
    .outside 61000000000 :: .start (.advance 1 1 1 2) :: steps 1 6 ++ steps 0 3

/-- The final tombstone of the logout is refused for the newer version, and the
revoked session is returned from Redis. -/
theorem bumped_login_is_returned :
    (((machine 60).run (startConfig 0 (some loginRow))
        bumpedRun).threads[0]?.map fun thread => (thread.call, thread.program.returned)) =
        some (.revoke 1 "logout", some (some (.revoked true))) ∧
      (((machine 60).run (startConfig 0 (some loginRow))
        bumpedRun).shared.row.map (·.status)) = some .revoked ∧
      ((machine 60).run (startConfig 0 (some loginRow)) bumpedRun).threads.length = 2 ∧
      ∃ session,
        (((machine 60).run (startConfig 0 (some loginRow))
          (bumpedRun ++ (.start .get :: steps 2 2))).threads[2]?.map fun thread =>
            (thread.call, thread.program.returned)) =
          some (.get, some (some (.session session))) := by
  refine ⟨by decide +kernel, by decide +kernel, by decide +kernel, ?_⟩
  exact ⟨_, by rfl⟩

end NewApi.Sessions
