import NewApi.Sessions.RefreshChain

/-!
# Refresh rotation

Any number of clients present refresh hashes while others revoke the session.
Every hash is exchanged once, the exchanges form one chain, and what a
presentation does is decided by its last read of the row.
-/

namespace NewApi.Sessions

open GoStrings Interleaving Transactions Shared UserSession Grows

def Call.nextHash : Call → Option String
  | .rotate _ _ nextHash _ _ => some nextHash
  | _ => none

def Op.isFind : Op → Bool
  | .findOwned _ => true
  | _ => false

def lastRead (trace : Trace Op Shared) : Option UserSession :=
  (trace.reverse.find? fun item => item.1.isFind).bind (·.2.row)

def presentationTime (now : Int) (trace : Trace Op Shared) : Int :=
  if now ≤ 0 then (trace.head?.map fun item => item.2.clock / second).getD 0
  else now

/-- The presented hash is not current, and it is not the previous one or still
within its grace window. -/
def Refused (presentedHash : String) (now : Int) (row : UserSession) : Prop :=
  row.refreshHash ≠ presentedHash ∧
    (row.afterFind.previousRefreshHash ≠ presentedHash ∨ now ≤ row.previousValidUntil)

/-- The presented hash is the previous one, after its grace window. -/
def Reused (presentedHash : String) (now : Int) (row : UserSession) : Prop :=
  row.refreshHash ≠ presentedHash ∧
    row.afterFind.previousRefreshHash = presentedHash ∧ row.previousValidUntil < now

def Quiet (ttlSeconds : Int) (trace : Trace Op Shared) : Prop :=
  ∀ item ∈ trace, (Shared.perform ttlSeconds item.1 item.2).1 = item.2

def Continues (call : Call) (trace : Trace Op Shared) : Prop :=
  match call with
  | .rotate _ presentedHash _ now _ => ∀ row, lastRead trace = some row →
      ¬ Refused presentedHash (presentationTime now trace) row
  | _ => True

/-- What a call relies on and guarantees: the chain grows, by its own next hash
only.  A presentation reads again only while it has changed nothing, and ends
when it is refused. -/
def refreshContract (ttlSeconds : Int) (first : String) (call : Call) :
    Contract Op Shared where
  rely := fun start later => Grows start later ∧
    ∀ nextHash, call.nextHash = some nextHash →
      nextHash ∉ start.issued first → nextHash ∉ later.issued first
  guarantee := fun start later => Grows start later ∧
    ∀ hash ∈ later.issued first, hash ∈ start.issued first ∨ call.nextHash = some hash
  assume := fun _ _ _ => True
  ensure := fun trace op _ =>
    (op.isFind = true → call.nextHash ≠ none → Quiet ttlSeconds trace) ∧ Continues call trace

variable {ttlSeconds version : Int} {first : String} {call : Call}

section Traces

variable {trace : Trace Op Shared} {op : Op} {shared : Shared}

theorem lastRead_append_other (other : op.isFind = false) :
    lastRead (trace ++ [(op, shared)]) = lastRead trace := by
  simp [lastRead, other]

theorem lastRead_append_find (find : op.isFind = true) :
    lastRead (trace ++ [(op, shared)]) = shared.row := by
  simp [lastRead, find]

theorem presentationTime_append (nonempty : trace ≠ []) (now : Int) :
    presentationTime now (trace ++ [(op, shared)]) = presentationTime now trace := by
  simp only [presentationTime, List.head?_append_of_ne_nil _ nonempty]

theorem Continues.append (continues : Continues call trace) (other : op.isFind = false) :
    Continues call (trace ++ [(op, shared)]) := by
  cases call with
  | rotate userID presentedHash nextHash now grace =>
    intro row read
    rw [lastRead_append_other other] at read
    have nonempty : trace ≠ [] := by
      rintro rfl
      cases read
    rw [presentationTime_append nonempty]
    exact continues row read
  | _ => trivial

theorem Quiet.append (quiet : Quiet ttlSeconds trace)
    (unchanged : (perform ttlSeconds op shared).1 = shared) :
    Quiet ttlSeconds (trace ++ [(op, shared)]) := by
  intro item member
  rcases List.mem_append.mp member with old | new
  · exact quiet item old
  · rw [List.mem_singleton.mp new]
    exact unchanged

end Traces

/-- The program performs mild operations only, and reads of the row only where
they are allowed. -/
def Calm (finds : Bool) (version : Int) {α : Type} : Code α → Prop
  | .done _ => True
  | .call op next => op.mild version ∧ (op.isFind = true → finds = true) ∧
      ∀ answer, op.expected version answer → Calm finds version (next answer)

variable {finds : Bool}

theorem Calm.bind {α β : Type} {program : Code α}
    {next : α → Code β} (calm : Calm finds version program)
    (rest : ∀ result, Calm finds version (next result)) :
    Calm finds version (program >>= next) := by
  induction program with
  | done result => exact rest result
  | call op continued ih =>
    exact ⟨calm.1, calm.2.1, fun answer expected => ih answer (calm.2.2 answer expected)⟩

theorem calm_request {α : Type} {op : Op} {next : Answer op → Code α} (mild : op.mild version)
    (allowed : op.isFind = true → finds = true)
    (rest : ∀ answer, op.expected version answer → Calm finds version (next answer)) :
    Calm finds version (request op >>= next) :=
  ⟨mild, allowed, rest⟩

/-- What a calm program leaves: no exchange, and the same last read unless it
may read. -/
structure AfterCalm (finds : Bool) (call : Call) (trace : Trace Op Shared)
    (shared : Shared) (later : Trace Op Shared) (state : Shared) : Prop where
  continues : Continues call later
  read : finds = false → lastRead later = lastRead trace
  time : trace ≠ [] → later ≠ [] ∧ ∀ now, presentationTime now later = presentationTime now trace
  grows : Grows shared state

variable {shared : Shared} {trace : Trace Op Shared}

theorem calm_meets {α : Type} {program : Code α}
    {origin : Shared} {start : Trace Op Shared} (calm : Calm finds version program)
    (reads : finds = true → call.nextHash = none) (linked : Linked first version shared)
    (before : AfterCalm finds call start origin trace shared) :
    Meets (perform ttlSeconds) (Linked first version) (refreshContract ttlSeconds first call)
      (fun later _ state => AfterCalm finds call start origin later state)
      program trace shared := by
  induction program generalizing trace shared with
  | done result =>
    intro later relied _
    exact { before with grows := before.grows.trans relied.1 }
  | call op next ih =>
    intro later relied linkedLater _
    obtain ⟨mild, findAllowed, rest⟩ := calm
    obtain ⟨⟨linkedNext, grows, sameExchanges⟩, expected⟩ :=
      mild_step ttlSeconds linkedLater mild
    refine ⟨⟨?_, before.continues⟩, ⟨grows, ?_⟩, linkedNext, ?_⟩
    · intro find rotates
      exact absurd (reads (findAllowed find)) rotates
    · intro hash member
      unfold issued at member ⊢
      rw [sameExchanges] at member
      exact Or.inl member
    · refine ih _ (rest _ expected) linkedNext ?_
      refine ⟨?_, ?_, ?_, (before.grows.trans relied.1).trans grows⟩
      · cases find : op.isFind with
        | false => exact before.continues.append find
        | true =>
          have none := reads (findAllowed find)
          cases call with
          | rotate userID presentedHash nextHash now grace => cases none
          | _ => trivial
      · intro noFinds
        have other : op.isFind = false := by
          cases find : op.isFind with
          | false => rfl
          | true => rw [findAllowed find] at noFinds; cases noFinds
        rw [lastRead_append_other other]
        exact before.read noFinds
      · intro nonempty
        obtain ⟨traceNonempty, sameTime⟩ := before.time nonempty
        refine ⟨by simp, fun now => ?_⟩
        rw [presentationTime_append traceNonempty]
        exact sameTime now

variable {entry : UserSessionCacheEntry}

theorem calm_writeUserSessionCache {cacheDeadline : Option Int} (older : entry.version ≤ version) :
    Calm finds version (writeUserSessionCache ttlSeconds entry cacheDeadline) := by
  unfold writeUserSessionCache
  split
  · cases cacheDeadline with
    | none => trivial
    | some cacheDeadline =>
      simp only [writeActiveSnapshot]
      refine calm_request trivial nofun fun now _ => ?_
      split
      · trivial
      split
      · trivial
      split
      · trivial
      refine calm_request older nofun fun written _ => ?_
      split
      · trivial
      refine calm_request trivial nofun fun completedAt _ => ?_
      split
      · trivial
      split <;> trivial
  · refine calm_request trivial nofun fun now _ => ?_
    refine calm_request older nofun fun written _ => ?_
    split <;> trivial

theorem calm_confirm (session : UserSession) :
    Calm finds version (confirmUserSessionActiveSnapshot session) := by
  unfold confirmUserSessionActiveSnapshot
  split
  · trivial
  refine calm_request trivial nofun fun now _ => ?_
  refine calm_request trivial nofun fun counted _ => ?_
  split <;> trivial

theorem calm_revokeUserSession (userID : Int) (reason : String) :
    Calm true version (revokeUserSession ttlSeconds userID reason) := by
  unfold revokeUserSession
  split
  · trivial
  refine calm_request trivial nofun fun clock _ => ?_
  refine calm_request trivial (fun _ => rfl) ?_
  intro found expected
  cases found with
  | none => trivial
  | some candidate =>
    have older : candidate.version ≤ version := le_of_eq (expected candidate rfl)
    dsimp only
    split
    · trivial
    refine Calm.bind (calm_writeUserSessionCache older) ?_
    intro result
    split
    · trivial
    refine calm_request trivial nofun fun outcome _ => ?_
    cases outcome with
    | error error => trivial
    | ok revoked =>
      dsimp only
      split
      · exact Calm.bind (calm_writeUserSessionCache older) fun _ => trivial
      · trivial

theorem calm_revokeUserSessionByRefreshHash (presentedHash reason : String) :
    Calm true version (revokeUserSessionByRefreshHash ttlSeconds presentedHash reason) := by
  unfold revokeUserSessionByRefreshHash
  split
  · trivial
  refine calm_request trivial nofun fun clock _ => ?_
  refine calm_request trivial nofun ?_
  intro outcome expected
  match outcome, expected with
  | .error error, _ => trivial
  | .ok none, _ => trivial
  | .ok (some session), expected =>
    have older : session.version ≤ version := le_of_eq (expected session rfl)
    exact Calm.bind (calm_writeUserSessionCache older) fun _ => trivial

theorem calm_revokeRounds (userID now : Int) (reason : String) (rounds : Nat) :
    ∀ total, Calm true version (revokeRounds ttlSeconds userID now reason rounds total) := by
  induction rounds with
  | zero => exact fun _ => trivial
  | succ rounds ih =>
    intro total
    refine calm_request trivial nofun ?_
    intro found expected
    cases found with
    | none => trivial
    | some candidate =>
      have older : candidate.version ≤ version := le_of_eq (expected candidate rfl)
      refine Calm.bind (calm_writeUserSessionCache older) ?_
      intro result
      split
      · trivial
      refine calm_request trivial nofun ?_
      intro locked lockedPlausible
      cases locked with
      | none => exact ih total
      | some revoked =>
        have revokedOlder : revoked.version ≤ version := le_of_eq (lockedPlausible revoked rfl)
        exact Calm.bind (calm_writeUserSessionCache revokedOlder) fun _ => ih (total + 1)

theorem calm_revokeAllUserSessions (userID : Int) (reason : String) (rounds : Nat) :
    Calm true version (revokeAllUserSessions ttlSeconds userID reason rounds) := by
  unfold revokeAllUserSessions
  split
  · trivial
  exact calm_request trivial nofun fun clock _ =>
      calm_revokeRounds userID (clock / second) reason rounds 0

theorem calm_published {session : UserSession}
    {cacheDeadline : Int} {done : Outcome} (older : session.version ≤ version) :
    Calm finds version (do
      match ← writeUserSessionCache ttlSeconds session.cacheEntry (some cacheDeadline) with
      | some .stale =>
        match ← confirmUserSessionActiveSnapshot session with
        | some error => return .failed error
        | none => return done
      | some .inactive => return .failed .inactive
      | _ => return done) := by
  refine Calm.bind (calm_writeUserSessionCache older) ?_
  intro result
  split
  · refine Calm.bind (calm_confirm _) fun confirmation => ?_
    split <;> trivial
  · trivial
  · trivial

/-! ## A presentation -/

structure Presented (userID : Int) (presentedHash nextHash : String)
    (argument : Int) (trace : Trace Op Shared) (outcome : Outcome) (shared : Shared) : Prop where
  exchanged : ∀ session, outcome = .session session → (presentedHash, nextHash) ∈ shared.exchanges
  revoked : ∀ row, lastRead trace = some row → row.userID = userID →
    presentationTime argument trace < row.expiresAt →
      Reused presentedHash (presentationTime argument trace) row →
        ∃ stored, shared.row = some stored ∧ stored.status ≠ .active

theorem meets_step {α : Type} {op : Op} {next : Answer op → Code α}
    {post : Trace Op Shared → α → Shared → Prop}
    (step : ∀ later, (refreshContract ttlSeconds first call).rely shared later →
      Linked first version later →
        (refreshContract ttlSeconds first call).ensure trace op later ∧
          (refreshContract ttlSeconds first call).guarantee later
            (perform ttlSeconds op later).1 ∧
          Linked first version (perform ttlSeconds op later).1 ∧
          Meets (perform ttlSeconds) (Linked first version)
            (refreshContract ttlSeconds first call) post
            (next (perform ttlSeconds op later).2)
            (trace ++ [(op, later)]) (perform ttlSeconds op later).1) :
    Meets (perform ttlSeconds) (Linked first version)
      (refreshContract ttlSeconds first call) post (request op >>= next) trace
      shared :=
  fun later relied linked _ => step later relied linked

theorem rely_refl (shared : Shared) : (refreshContract ttlSeconds first call).rely shared shared :=
  ⟨refl shared, fun _ _ fresh => fresh⟩

theorem rely_trans {one two three : Shared}
    (start : (refreshContract ttlSeconds first call).rely one two)
    (rest : (refreshContract ttlSeconds first call).rely two three) :
    (refreshContract ttlSeconds first call).rely one three :=
  ⟨start.1.trans rest.1, fun nextHash issues fresh =>
    rest.2 nextHash issues (start.2 nextHash issues fresh)⟩

theorem guarantee_refl (shared : Shared) :
    (refreshContract ttlSeconds first call).guarantee shared shared :=
  ⟨refl shared, fun _ member => Or.inl member⟩

/-- The fence of a reused hash is not refused: no entry has a newer version. -/
theorem meets_fence {start : Trace Op Shared} {origin : Shared}
    (denied : entry.status ≠ .active) (current : entry.version = version)
    (positive : 0 ≤ version) (linked : Linked first version shared)
    (before : AfterCalm false call start origin trace shared) :
    Meets (perform ttlSeconds) (Linked first version) (refreshContract ttlSeconds first call)
      (fun later result state => result = none ∧ AfterCalm false call start origin later state)
      (writeUserSessionCache ttlSeconds entry none) trace shared := by
  have calm : Calm false version (writeUserSessionCache ttlSeconds entry none) :=
    calm_writeUserSessionCache (le_of_eq current)
  have after : Meets (perform ttlSeconds) (Linked first version)
      (refreshContract ttlSeconds first call)
      (fun later _ state => AfterCalm false call start origin later state)
      (writeUserSessionCache ttlSeconds entry none) trace shared :=
    calm_meets calm nofun linked before
  unfold writeUserSessionCache at after ⊢
  rw [if_neg denied] at after ⊢
  intro checked toChecked checkedLinked _
  obtain ⟨checkedEnsured, checkedKept, checkedNext, afterChecked⟩ :=
    after checked toChecked checkedLinked trivial
  refine ⟨checkedEnsured, checkedKept, checkedNext, ?_⟩
  intro written toWritten writtenLinked _
  obtain ⟨writtenEnsured, writtenKept, writtenNext, afterWritten⟩ :=
    afterChecked written toWritten writtenLinked trivial
  refine ⟨writtenEnsured, writtenKept, writtenNext, ?_⟩
  have accepted : (written.eval { entry with cacheSchema := userSessionCacheSchema }
      (denyExpiration ttlSeconds entry.expiresAt checked.clock)).2 = true := by
    rcases eval_cases written { entry with cacheSchema := userSessionCacheSchema }
        (denyExpiration ttlSeconds entry.expiresAt checked.clock) with
      ⟨_, ⟨active, _⟩ | ⟨cached, shown, newer⟩ | negative⟩ | ⟨active, _⟩ | ⟨_, same⟩
    · exact absurd active denied
    · exfalso
      obtain ⟨item, stored, rfl⟩ := stored_of_visible shown
      have older := writtenLinked.cached item stored
      dsimp only at newer
      omega
    · dsimp only at negative
      omega
    · exact absurd active denied
    · rw [same]
  simp only [perform, accepted, Program.bind] at afterWritten ⊢
  intro later relied laterLinked
  exact ⟨rfl, afterWritten later relied laterLinked⟩

section Rotation

variable {userID now graceSeconds argument : Int}
  {presentedHash nextHash : String} {grace : Int}
  {trace start : Trace Op Shared} {shared origin : Shared} {outcome : Outcome}

theorem Presented.later {later : Trace Op Shared} {state : Shared}
    (presented : Presented userID presentedHash nextHash argument start outcome origin)
    (nonempty : start ≠ []) (after : AfterCalm false call start origin later state) :
    Presented userID presentedHash nextHash argument later outcome state where
  exchanged := fun session returned =>
    after.grows.exchanges.subset (presented.exchanged session returned)
  revoked := by
    intro row read owned unexpired reused
    rw [after.read rfl] at read
    rw [(after.time nonempty).2] at unexpired reused
    exact after.grows.revoked (presented.revoked row read owned unexpired reused)

theorem meets_return
    (presented : Presented userID presentedHash nextHash argument trace outcome shared) :
    Meets (perform ttlSeconds) (Linked first version) (refreshContract ttlSeconds first call)
      (Presented userID presentedHash nextHash argument) (.done outcome) trace
      shared := by
  intro later relied _
  refine ⟨fun session returned => ?_, fun row read owned unexpired reused => ?_⟩
  · exact relied.1.exchanges.subset (presented.exchanged session returned)
  · exact relied.1.revoked (presented.revoked row read owned unexpired reused)

theorem meets_rest {program : Code Outcome}
    (calm : Calm false version program) (linked : Linked first version shared)
    (continues : Continues call trace) (nonempty : trace ≠ [])
    (presented : ∀ outcome, Presented userID presentedHash nextHash argument trace outcome shared) :
    Meets (perform ttlSeconds) (Linked first version) (refreshContract ttlSeconds first call)
      (Presented userID presentedHash nextHash argument) program trace
      shared := by
  have before : AfterCalm false call trace shared trace shared :=
    ⟨continues, fun _ => rfl, fun _ => ⟨nonempty, fun _ => rfl⟩, refl shared⟩
  exact (calm_meets calm nofun linked before).weaken
    fun later outcome state _ after => (presented outcome).later nonempty after

structure RoundStarts (ttlSeconds : Int) (first : String) (call : Call)
    (presentedHash nextHash : String) (now argument : Int)
    (trace : Trace Op Shared) (shared : Shared) : Prop where
  nonempty : trace ≠ []
  time : presentationTime argument trace = now
  quiet : Quiet ttlSeconds trace
  continues : Continues call trace
  notReused : ∀ row, lastRead trace = some row → ¬ Reused presentedHash now row
  fresh : nextHash ∉ shared.issued first

variable {row : UserSession}

theorem Linked.revoked_of_inactiveAt (linked : Linked first version shared)
    (found : shared.row = some row)
    (inactive : row.inactiveAt now = true) (unexpired : now < row.expiresAt) :
    row.status ≠ .active := by
  intro active
  obtain ⟨stored, storedFound, _, _, unrevoked, _⟩ := linked.row
  rw [found] at storedFound
  cases storedFound
  simp [inactiveAt, active, unrevoked active] at inactive
  omega

theorem meets_reused (linked : Linked first version shared)
    (positive : 0 ≤ version) (found : shared.row = some row)
    (time : presentationTime argument trace = now) (nonempty : trace ≠ [])
    (continues : Continues call trace)
    (read : lastRead trace = some row) (owned : row.userID = userID)
    {rest : Option SessionError → Code Outcome}
    (accepted : rest none = (do
      let revoked ← request (.revokeReused userID now)
      if revoked = false then return .failed .inactive
      let _ ← writeUserSessionCache ttlSeconds
        (row.afterFind.revoke now "refresh_reuse").cacheEntry none
      return .failed .refreshReuse)) :
    Meets (perform ttlSeconds) (Linked first version) (refreshContract ttlSeconds first call)
      (Presented userID presentedHash nextHash argument)
      (writeUserSessionDenyFence ttlSeconds row.afterFind .revoking now "refresh_reuse" >>= rest)
      trace shared := by
  obtain ⟨stored, storedFound, sameVersion, _⟩ := linked.row
  rw [found] at storedFound
  cases storedFound
  have before : AfterCalm false call trace shared trace shared :=
    ⟨continues, fun _ => rfl, fun _ => ⟨nonempty, fun _ => rfl⟩, refl shared⟩
  refine meets_bind rely_refl linked
    ((meets_fence (by simp [denyEntry]) sameVersion positive linked
      before).mono (fun _ _ step => step) (fun _ _ _ assumed => assumed)
        (fun _ _ _ ensured => ensured) (fun _ _ step => step) ?_)
  rintro fenceTrace _ fenced fencedLinked ⟨rfl, after⟩
  rw [accepted]
  refine meets_step fun later relied laterLinked => ?_
  obtain ⟨⟨linkedNext, grows, sameExchanges⟩, _⟩ :=
    mild_step ttlSeconds laterLinked (show (Op.revokeReused userID now).mild version from trivial)
  have sameRead : ∀ state : Shared,
      lastRead (fenceTrace ++ [(.revokeReused userID now, state)]) = some row := fun _ => by
    rw [lastRead_append_other rfl, after.read rfl, read]
  have sameTime : ∀ state : Shared,
      presentationTime argument
        (fenceTrace ++ [(.revokeReused userID now, state)]) = now := fun _ => by
    rw [presentationTime_append (after.time nonempty).1, (after.time nonempty).2, time]
  refine ⟨⟨by rintro ⟨⟩, after.continues⟩, ⟨grows, ?_⟩, linkedNext, ?_⟩
  · intro hash member
    unfold issued at member ⊢
    rw [sameExchanges] at member
    exact Or.inl member
  -- Either the row is revoked now, or it was inactive and has not expired.
  have settled : now < row.expiresAt →
      ∃ stored, (perform ttlSeconds (.revokeReused userID now)
        later).1.row = some stored ∧ stored.status ≠ .active := by
    intro unexpired
    obtain ⟨current, currentFound, currentUser, currentExpiry, _⟩ :=
      (after.grows.trans relied.1).row row found
    simp only [perform, currentFound]
    split
    · exact ⟨_, rfl, by simp [revoke]⟩
    case isFalse unchanged =>
      refine ⟨current, currentFound, ?_⟩
      have inactive : current.inactiveAt now = true := by
        cases active : current.inactiveAt now with
        | true => rfl
        | false => exact absurd ⟨currentUser.trans owned, active⟩ unchanged
      refine laterLinked.revoked_of_inactiveAt currentFound inactive ?_
      rw [currentExpiry]
      exact unexpired
  have failed : ∀ error, Presented userID presentedHash nextHash argument
      (fenceTrace ++ [(.revokeReused userID now, later)]) (.failed error)
      (perform ttlSeconds (.revokeReused userID now) later).1 := by
    refine fun error => ⟨by simp, fun other otherRead _ unexpired _ => ?_⟩
    rw [sameRead] at otherRead
    cases otherRead
    rw [sameTime] at unexpired
    exact settled unexpired
  split
  · exact meets_return (failed _)
  refine meets_bind rely_refl linkedNext ?_
  have calm : Calm false version (writeUserSessionCache ttlSeconds
      (row.afterFind.revoke now "refresh_reuse").cacheEntry none) :=
    calm_writeUserSessionCache (le_of_eq sameVersion)
  have continuesNext : Continues call (fenceTrace ++ [(.revokeReused userID now, later)]) :=
    after.continues.append rfl
  have startNext : AfterCalm false call (fenceTrace ++ [(.revokeReused userID now, later)])
      (perform ttlSeconds (.revokeReused userID now) later).1
      (fenceTrace ++ [(.revokeReused userID now, later)])
      (perform ttlSeconds (.revokeReused userID now) later).1 :=
    ⟨continuesNext, fun _ => rfl, fun _ => ⟨by simp, fun _ => rfl⟩, refl _⟩
  refine (calm_meets calm (by rintro ⟨⟩) linkedNext startNext).mono
    (fun _ _ step => step) (fun _ _ _ assumed => assumed)
    (fun _ _ _ ensured => ensured) (fun _ _ step => step) ?_
  intro last _ state _ afterTombstone
  exact meets_return ((failed _).later (by simp) afterTombstone)

theorem meets_current (row : UserSession) {again rest : Code Outcome}
    (isRotate : call = .rotate userID presentedHash nextHash argument grace)
    (trimmed : trimSpace nextHash = nextHash) (current : row.refreshHash = presentedHash)
    (read : lastRead trace = some row)
    (starts : RoundStarts ttlSeconds first call presentedHash nextHash now argument trace shared)
    (meetsAgain : ∀ later state, Linked first version state →
      RoundStarts ttlSeconds first call presentedHash nextHash now argument later state →
        Meets (perform ttlSeconds) (Linked first version)
          (refreshContract ttlSeconds first call)
          (Presented userID presentedHash nextHash argument) again later
          state)
    (calm : Calm false version rest) :
    Meets (perform ttlSeconds) (Linked first version) (refreshContract ttlSeconds first call)
      (Presented userID presentedHash nextHash argument)
      (request (.exchange userID now presentedHash nextHash
          (now + graceSeconds)) >>= fun exchanged =>
        if exchanged = false then again else rest)
      trace shared := by
  refine meets_step fun later relied laterLinked => ?_
  have issues : call.nextHash = some nextHash := by
    rw [isRotate]
    rfl
  have stillFresh : nextHash ∉ later.issued first := relied.2 nextHash issues starts.fresh
  refine ⟨⟨nofun, starts.continues⟩, ?_⟩
  cases exchanged : (perform ttlSeconds (.exchange userID now
      presentedHash nextHash (now + graceSeconds)) later).2 with
  | false =>
    have unchanged := exchange_refused exchanged
    rw [unchanged, if_pos rfl]
    refine ⟨guarantee_refl later, laterLinked, ?_⟩
    refine meetsAgain _ _ laterLinked ⟨by simp, ?_, ?_, ?_, ?_, stillFresh⟩
    · rw [presentationTime_append starts.nonempty, starts.time]
    · exact starts.quiet.append unchanged
    · exact starts.continues.append rfl
    · rw [lastRead_append_other rfl]
      exact starts.notReused
  | true =>
    obtain ⟨linkedNext, grows, newExchanges⟩ :=
      exchange_step laterLinked stillFresh trimmed exchanged
    refine ⟨⟨grows, ?_⟩, linkedNext, ?_⟩
    · intro hash member
      unfold issued at member ⊢
      rw [newExchanges, List.map_append, List.map_singleton,
        ← List.cons_append, List.mem_append, List.mem_singleton] at member
      rcases member with old | rfl
      · exact Or.inl old
      · exact Or.inr issues
    -- Only the snapshot remains to be written.
    refine meets_rest calm linkedNext (starts.continues.append rfl) (by simp) fun outcome => ?_
    refine ⟨fun session _ => ?_, fun other otherRead _ _ reused => ?_⟩
    · rw [newExchanges]
      simp
    · rw [lastRead_append_other rfl, read] at otherRead
      cases otherRead
      exact absurd current reused.1

section

variable (isRotate : call = .rotate userID presentedHash nextHash argument grace)
  (presentedNonempty : presentedHash ≠ "") (trimmed : trimSpace nextHash = nextHash)
include isRotate presentedNonempty trimmed

theorem meets_rotateLoaded {again : Code Outcome} {cacheDeadline : Int}
    (linked : Linked first version shared) (positive : 0 ≤ version)
    (found : shared.row = some row) (owned : row.userID = userID)
    (read : lastRead trace = some row) (nonempty : trace ≠ [])
    (time : presentationTime argument trace = now)
    (quiet : Quiet ttlSeconds trace) (fresh : nextHash ∉ shared.issued first)
    (meetsAgain : ∀ later state, Linked first version state →
      RoundStarts ttlSeconds first call presentedHash nextHash now argument later state →
        Meets (perform ttlSeconds) (Linked first version)
          (refreshContract ttlSeconds first call)
          (Presented userID presentedHash nextHash argument) again later
          state) :
    Meets (perform ttlSeconds) (Linked first version) (refreshContract ttlSeconds first call)
      (Presented userID presentedHash nextHash argument)
      (rotateLoaded ttlSeconds userID presentedHash nextHash now graceSeconds
        cacheDeadline again row.afterFind)
      trace shared := by
  obtain ⟨stored, storedFound, sameVersion, _⟩ := linked.row
  rw [found] at storedFound
  cases storedFound
  -- A presentation that ends here has nothing to settle.
  have settled : ∀ outcome : Outcome, (∀ session, outcome ≠ .session session) →
      (now < row.expiresAt → Reused presentedHash now row → row.status ≠ .active) →
      Presented userID presentedHash nextHash argument trace outcome shared := by
    intro outcome noSession revoked
    refine ⟨fun session returned => absurd returned (noSession session), ?_⟩
    intro other otherRead _ unexpired reused
    rw [read] at otherRead
    cases otherRead
    rw [time] at unexpired reused
    exact ⟨row, found, revoked unexpired reused⟩
  have continues : ¬ Refused presentedHash now row → Continues call trace := by
    intro accepted
    subst isRotate
    intro other otherRead
    rw [read] at otherRead
    cases otherRead
    rw [time]
    exact accepted
  unfold rotateLoaded
  split
  case isTrue inactive =>
    refine meets_return (settled _ (by simp) fun unexpired _ => ?_)
    exact linked.revoked_of_inactiveAt found inactive unexpired
  split
  case isTrue current =>
    refine meets_current row isRotate trimmed current read
      ⟨nonempty, time, quiet, ?_, ?_, fresh⟩ meetsAgain ?_
    · exact continues fun refused => refused.1 current
    · intro other otherRead reused
      rw [read] at otherRead
      cases otherRead
      exact reused.1 current
    · exact calm_published (le_of_eq sameVersion)
  case isFalse superseded =>
    split
    case isTrue unknown =>
      refine meets_return (settled _ (by simp) fun _ reused => ?_)
      rcases unknown with absent | other
      · exact absurd (reused.2.1.symm.trans absent) presentedNonempty
      · exact absurd reused.2.1 other
    case isFalse known =>
      split
      case isTrue early =>
        refine meets_return (settled _ (by simp) fun _ reused => ?_)
        exact absurd reused.2.2 (not_lt.mpr early)
      case isFalse late =>
        refine meets_reused linked positive found time nonempty (continues ?_) read owned rfl
        rintro ⟨_, differs | early⟩
        · exact known (Or.inr differs)
        · exact late early

theorem meets_rotateRounds (positive : 0 ≤ version) (rounds : Nat) :
    ∀ trace shared, Linked first version shared →
      RoundStarts ttlSeconds first call presentedHash nextHash now argument trace shared →
        Meets (perform ttlSeconds) (Linked first version)
          (refreshContract ttlSeconds first call)
          (Presented userID presentedHash nextHash argument)
          (rotateRounds ttlSeconds userID presentedHash nextHash now graceSeconds rounds)
          trace shared := by
  induction rounds with
  | zero =>
    intro trace shared _ starts
    refine meets_return ⟨by simp, fun row read _ _ reused => ?_⟩
    rw [starts.time] at reused
    exact absurd reused (starts.notReused row read)
  | succ rounds ih =>
    intro trace shared linked starts
    refine meets_step fun timed toTimed timedLinked => ?_
    refine ⟨⟨by simp [Op.isFind], starts.continues⟩, guarantee_refl timed, timedLinked, ?_⟩
    refine meets_step fun loaded toLoaded loadedLinked => ?_
    have fresh : nextHash ∉ loaded.issued first := by
      have issues : call.nextHash = some nextHash := by
        rw [isRotate]
        rfl
      exact toLoaded.2 nextHash issues (toTimed.2 nextHash issues starts.fresh)
    have quiet : Quiet ttlSeconds (trace ++ [(.now, timed)]) := starts.quiet.append rfl
    refine
      ⟨⟨fun _ _ => quiet, starts.continues.append rfl⟩, guarantee_refl loaded, loadedLinked, ?_⟩
    have nonempty : trace ++ [(Op.now, timed)] ≠ [] := by simp
    have time : presentationTime argument
        (trace ++ [(.now, timed)] ++ [(.findOwned userID, loaded)]) = now := by
      rw [presentationTime_append nonempty, presentationTime_append starts.nonempty, starts.time]
    have read : lastRead
        (trace ++ [(.now, timed)] ++ [(.findOwned userID, loaded)]) =
          loaded.row := lastRead_append_find rfl
    obtain ⟨row, found, _⟩ := loadedLinked.row
    by_cases owned : row.userID = userID
    · have answered : (perform ttlSeconds (.findOwned userID)
          loaded).2 = some row.afterFind := by
        simp [perform, found, owned]
      rw [answered]
      refine meets_rotateLoaded isRotate presentedNonempty trimmed
        loadedLinked positive found owned (read.trans found) (by simp) time
        (quiet.append rfl) fresh ih
    · have answered : (perform ttlSeconds (.findOwned userID) loaded).2 = none := by
        simp [perform, found, owned]
      rw [answered]
      refine meets_return ⟨by simp, fun other otherRead otherOwned => ?_⟩
      rw [read, found] at otherRead
      cases otherRead
      exact absurd otherOwned owned

end

theorem meets_rotateUserSessionRefresh
    (trimmed : trimSpace nextHash = nextHash) (positive : 0 ≤ version)
    (fresh : nextHash ∉ shared.issued first) :
    Meets (perform ttlSeconds) (Linked first version)
      (refreshContract ttlSeconds first (.rotate userID presentedHash nextHash argument grace))
      (Presented userID presentedHash nextHash argument)
      (rotateUserSessionRefresh ttlSeconds userID presentedHash nextHash argument grace)
      [] shared := by
  unfold rotateUserSessionRefresh
  split
  · exact meets_return ⟨by simp, by simp [lastRead]⟩
  case isFalse valid =>
    have presentedNonempty : presentedHash ≠ "" := fun empty => valid (Or.inr (Or.inl empty))
    refine meets_step fun timed toTimed timedLinked => ?_
    refine
      ⟨⟨by simp [Op.isFind], by simp [Continues, lastRead]⟩, guarantee_refl timed, timedLinked, ?_⟩
    have noRead : ∀ row, lastRead [(Op.now, timed)] ≠ some row := by
      intro row read
      cases read
    dsimp only
    split
    · exact meets_return ⟨by simp, fun row read => absurd read (noRead row)⟩
    · refine meets_rotateRounds rfl presentedNonempty trimmed positive 3 _ _
          timedLinked ⟨by simp, rfl, ?_, ?_, ?_, ?_⟩
      · intro item member
        rw [List.mem_singleton.mp member]
        rfl
      · exact fun row read => absurd read (noRead row)
      · exact fun row read => absurd read (noRead row)
      · exact toTimed.2 nextHash rfl fresh

end Rotation

end NewApi.Sessions
