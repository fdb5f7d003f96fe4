import NewApi.Sessions.RefreshRotation
import NewApi.Sessions.RevokedLogins

/-!
# Runs of refresh rotations

Clients, and anyone who has an old refresh token, present hashes in any order
and at any time.  The contract of one call, kept along the run, gives what the
calls together do to the session.
-/

namespace NewApi.Sessions

open GoStrings Interleaving Transactions Shared

variable {ttlSeconds version : Int} {first : String}

def Settled (call : Call) (trace : Trace Op Shared) (result : Option Outcome)
    (shared : Shared) : Prop :=
  match call with
  | .rotate userID presentedHash nextHash now _ => ∀ outcome,
      result = some outcome → Presented userID presentedHash nextHash now trace outcome shared
  | _ => True

/-- Presentations with a hash that is issued for the first time, and
revocations. -/
def Begins (first : String) (call : Call) (shared : Shared) : Prop :=
  call.revoking = true ∧ ∀ nextHash, call.nextHash = some nextHash →
    nextHash ∉ shared.issued first ∧ trimSpace nextHash = nextHash

variable {shared : Shared}

theorem meets_revocation {call : Call} {program : Code (Option Outcome)}
    (calm : Calm true version program)
    (issuesNone : call.nextHash = none) (linked : Linked first version shared) :
    Meets (perform ttlSeconds) (Linked first version)
      (refreshContract ttlSeconds first call) (Settled call) program []
      shared := by
  have settled : ∀ trace result state, Settled call trace result state := by
    intro trace result state
    cases call with
    | rotate userID presentedHash nextHash now grace => cases issuesNone
    | _ => trivial
  have continues : Continues call [] := by
    cases call with
    | rotate userID presentedHash nextHash now grace => cases issuesNone
    | _ => trivial
  have before : AfterCalm true call [] shared [] shared :=
    ⟨continues, fun _ => rfl, fun nonempty => absurd rfl nonempty, Grows.refl shared⟩
  exact (calm_meets calm (fun _ => issuesNone) linked before).weaken
    fun trace result state _ _ => settled trace result state

theorem meets_code (positive : 0 ≤ version) (call : Call) (shared : Shared)
    (linked : Linked first version shared) (begins : Begins first call shared) :
    Meets (perform ttlSeconds) (Linked first version)
      (refreshContract ttlSeconds first call) (Settled call)
      (call.code ttlSeconds) [] shared := by
  obtain ⟨revoking, issues⟩ := begins
  cases call with
  | get | create session | advance userID session user next => cases revoking
  | rotate userID presentedHash nextHash now grace =>
    obtain ⟨fresh, trimmed⟩ := issues nextHash rfl
    refine meets_bind rely_refl linked ?_
    refine (meets_rotateUserSessionRefresh trimmed positive fresh).weaken ?_
    intro trace outcome state _ presented later relied _ other returned
    cases returned
    refine ⟨fun session same => ?_, fun row read owned unexpired reused => ?_⟩
    · exact relied.1.exchanges.subset (presented.exchanged session same)
    · exact relied.1.revoked (presented.revoked row read owned unexpired reused)
  | revoke userID reason =>
    exact meets_revocation (Calm.bind (calm_revokeUserSession userID reason) fun _ => trivial)
        rfl linked
  | revokeByRefreshHash presentedHash reason =>
    exact meets_revocation
        (Calm.bind (calm_revokeUserSessionByRefreshHash presentedHash reason) fun _ => trivial)
        rfl linked
  | revokeAll userID reason rounds =>
    exact meets_revocation (calm_revokeAllUserSessions userID reason rounds) rfl linked

/-! ## Runs -/

/-- The calls of the run are presentations and revocations, and every next hash
is a digest that is used for the first time. -/
def freshHash (first : String) (config : Config Answer Call Shared (Option Outcome)) :
    Action Call Nat → Bool
  | .start call => call.revoking &&
      match call.nextHash with
      | none => true
      | some nextHash => !(config.shared.issued first).contains nextHash &&
          trimSpace nextHash == nextHash &&
            config.threads.all fun thread => thread.call.nextHash ≠ some nextHash
  | _ => true

structure Stored (shared : Shared) (row : UserSession) : Prop where
  found : shared.row = some row
  version : 0 ≤ row.version
  unrevoked : row.status = .active → row.revokedAt = 0
  trimmed : trimSpace row.refreshHash = row.refreshHash
  cached : ∀ item, shared.cache = some item → item.entry.version ≤ row.version
  exchanges : shared.exchanges = []

variable {row : UserSession}

theorem Stored.linked (stored : Stored shared row) : Linked row.refreshHash row.version shared where
  row := by
    refine ⟨row, stored.found, rfl, ?_, stored.unrevoked, ?_⟩
    · rw [stored.exchanges]
      rfl
    · rw [stored.exchanges]
      intro presented next last
      cases last
  chained := by
    rw [stored.exchanges]
    trivial
  distinct := by
    simp [issued, stored.exchanges]
  trimmed := by
    intro hash member
    simp only [issued, stored.exchanges, List.map_nil, List.mem_singleton] at member
    rw [member]
    exact stored.trimmed
  cached := stored.cached

theorem rely_of_guarantee {one other : Call} {before after : Shared}
    (different : ∀ hash, other.nextHash = some hash → one.nextHash ≠ some hash)
    (guaranteed : (refreshContract ttlSeconds first one).guarantee before after) :
    (refreshContract ttlSeconds first other).rely before after := by
  refine ⟨guaranteed.1, fun hash issues fresh issued => ?_⟩
  rcases guaranteed.2 hash issued with old | own
  · exact fresh old
  · exact different hash issues own

variable {config : Config Answer Call Shared (Option Outcome)} {actions : List (Action Call Nat)}

theorem freshHash_start {call : Call}
    (fresh : freshHash first config (.start call : Action Call Nat) = true) :
    Begins first call config.shared ∧
      ∀ (number : Nat) (thread : Thread Answer Call Shared (Option Outcome)),
        config.threads[number]? = some thread →
          ∀ hash, call.nextHash = some hash → thread.call.nextHash ≠ some hash := by
  simp only [freshHash, Bool.and_eq_true] at fresh
  obtain ⟨revoking, issues⟩ := fresh
  cases issued : call.nextHash with
  | none => exact ⟨⟨revoking, by simp [issued]⟩, by simp⟩
  | some nextHash =>
    simp only [issued, Bool.and_eq_true, Bool.not_eq_true', List.contains_eq_mem,
      decide_eq_false_iff_not, beq_iff_eq, List.all_eq_true, decide_eq_true_eq] at issues
    obtain ⟨⟨unissued, trimmed⟩, unused⟩ := issues
    refine ⟨⟨revoking, ?_⟩, ?_⟩
    · rw [issued]
      rintro hash ⟨⟩
      exact ⟨unissued, trimmed⟩
    · rintro number thread found hash ⟨⟩
      exact unused thread (List.mem_of_getElem? found)

theorem respects_of_fresh
    (fresh : GuardedRun (machine ttlSeconds).act
      (fun config action => freshHash first config action = true) config
      actions) :
    GuardedRun (machine ttlSeconds).act
      (Respects (Linked first version) (fun _ call => Begins first call)
        fun _ call => refreshContract ttlSeconds first call) config actions := by
  refine fresh.mono ?_
  intro state action freshNow
  cases action with
  | start call =>
    obtain ⟨begins, unused⟩ := freshHash_start freshNow
    refine ⟨begins, fun other thread found before after _ _ => ⟨?_, ?_⟩⟩
    · exact rely_of_guarantee fun hash issues own => unused other thread found hash own issues
    · exact rely_of_guarantee (unused other thread found)
  | outside elapsed => trivial
  | step number => exact fun _ _ _ _ _ => trivial

theorem kept_refresh (stored : Stored shared row)
    (fresh : GuardedRun (machine ttlSeconds).act
      (fun config action => freshHash row.refreshHash config action = true)
      ⟨shared, []⟩ actions) :
    Kept (machine ttlSeconds) (Linked row.refreshHash row.version)
      (fun _ call => refreshContract ttlSeconds row.refreshHash call)
      (fun _ call => Settled call)
      ((machine ttlSeconds).run ⟨shared, []⟩ actions) := by
  refine Kept.run (fun _ _ => rely_trans) (fun _ _ => rely_refl) ?_ ?_
    (respects_of_fresh fresh) ⟨stored.linked, by simp, by simp, by simp⟩
  · exact fun _ call state linked begins => meets_code stored.version call state linked begins
  · intro elapsed state linked
    refine ⟨?_, fun _ call => ⟨⟨?_, List.prefix_refl _⟩, fun _ _ unissued => unissued⟩⟩
    · exact ⟨linked.row, linked.chained, linked.distinct, linked.trimmed, linked.cached⟩
    · exact fun row found => ⟨row, found, rfl, rfl, id⟩

def DistinctHashes (config : Config Answer Call Shared (Option Outcome)) :
    Prop :=
  (config.threads.map Thread.call).Pairwise fun one other =>
    ∀ hash, other.nextHash = some hash → one.nextHash ≠ some hash

theorem distinctHashes_run
    (fresh : GuardedRun (machine ttlSeconds).act
      (fun config action => freshHash first config action = true)
      ⟨shared, []⟩ actions) :
    DistinctHashes ((machine ttlSeconds).run ⟨shared, []⟩ actions) := by
  refine fresh.invariant ?_ (List.Pairwise.nil : DistinctHashes ⟨shared, []⟩)
  intro state action freshNow before
  unfold DistinctHashes at before ⊢
  rw [calls_act]
  cases action with
  | step number | outside elapsed => simpa only [List.append_nil] using before
  | start call =>
    refine List.pairwise_append.mpr ⟨before, List.pairwise_singleton _ _, ?_⟩
    intro old member new isNew
    rw [List.mem_singleton.mp isNew]
    obtain ⟨thread, threadMember, rfl⟩ := List.mem_map.mp member
    obtain ⟨number, found⟩ := List.getElem?_of_mem threadMember
    exact (freshHash_start freshNow).2 number thread found

theorem DistinctHashes.eq {one other : Nat}
    {oneThread otherThread : Thread Answer Call Shared (Option Outcome)}
    (distinct : DistinctHashes config) (oneFound : config.threads[one]? = some oneThread)
    (otherFound : config.threads[other]? = some otherThread)
    {hash : String} (oneIssues : oneThread.call.nextHash = some hash)
    (otherIssues : otherThread.call.nextHash = some hash) : one = other := by
  have earlier : ∀ (low high : Nat)
      (lowThread highThread : Thread Answer Call Shared (Option Outcome)),
      config.threads[low]? = some lowThread →
        config.threads[high]? = some highThread →
          lowThread.call.nextHash = some hash →
            highThread.call.nextHash = some hash → ¬ low < high := by
    intro low high lowThread highThread lowFound highFound lowIssues highIssues before
    obtain ⟨lowRange, lowEntry⟩ := List.getElem?_eq_some_iff.mp lowFound
    obtain ⟨highRange, highEntry⟩ := List.getElem?_eq_some_iff.mp highFound
    have apart := List.pairwise_iff_getElem.mp distinct low high
      (by simpa using lowRange) (by simpa using highRange) before hash
    rw [List.getElem_map, List.getElem_map, lowEntry, highEntry] at apart
    exact apart highIssues lowIssues
  have notBefore := earlier _ _ _ _ oneFound otherFound oneIssues otherIssues
  have notAfter := earlier _ _ _ _ otherFound oneFound otherIssues oneIssues
  omega

/-- The last read of the row, with what the call did before and after it. -/
theorem split_lastRead {trace : Trace Op Shared} (read : lastRead trace = some row) :
    ∃ before op state after, trace = before ++ (op, state) :: after ∧
      op.isFind = true ∧ state.row = some row ∧ ∀ item ∈ after, item.1.isFind = false := by
  obtain ⟨⟨op, state⟩, last, found⟩ := Option.bind_eq_some_iff.mp read
  obtain ⟨find, later, earlier, split, others⟩ := List.find?_eq_some_iff_append.mp last
  refine ⟨earlier.reverse, op, state, later.reverse, ?_, find, found, ?_⟩
  · rw [← List.reverse_reverse trace, split]
    simp
  · intro item member
    simpa using others item (List.mem_reverse.mp member)

/-- A presentation of a hash that its last read refuses has changed nothing. -/
theorem quiet_of_refused {userID now grace : Int}
    {presentedHash nextHash : String} {trace : Trace Op Shared}
    (ensured : ∀ before op state after, trace = before ++ (op, state) :: after →
      (refreshContract ttlSeconds first
        (.rotate userID presentedHash nextHash now grace)).ensure before op state)
    (read : lastRead trace = some row)
    (refused : Refused presentedHash (presentationTime now trace) row) :
    Quiet ttlSeconds trace := by
  obtain ⟨before, op, state, after, split, find, found, others⟩ := split_lastRead read
  have quietBefore : Quiet ttlSeconds before := (ensured before op state after split).1 find nofun
  have unchanged : (perform ttlSeconds op state).1 = state := by
    cases op with
    | findOwned userID => rfl
    | _ => cases find
  cases after with
  | nil =>
    rw [split]
    exact quietBefore.append unchanged
  | cons next rest =>
    -- The operation after the read was performed with the hash accepted.
    obtain ⟨nextOp, nextState⟩ := next
    have splitNext : trace = (before ++ [(op, state)]) ++ (nextOp, nextState) :: rest := by
      rw [split]
      simp
    have continues := (ensured _ _ _ _ splitNext).2 row ((lastRead_append_find find).trans found)
    have sameTime : presentationTime now trace =
        presentationTime now (before ++ [(op, state)]) := by
      rw [splitNext]
      simp only [presentationTime]
      rw [List.head?_append_of_ne_nil _ (by simp)]
    rw [sameTime] at refused
    exact absurd refused continues

structure OneWinner (ttlSeconds : Int) (first : String)
    (config : Config Answer Call Shared (Option Outcome)) : Prop where
  /-- The exchanges are one chain from the first hash. -/
  chained : Chained first config.shared.exchanges
  /-- No hash is exchanged twice. -/
  once : (config.shared.exchanges.map Prod.fst).Nodup
  /-- The row has the end of the chain and the hash exchanged for it. -/
  row : ∃ row, config.shared.row = some row ∧
    row.refreshHash = latest first config.shared.exchanges ∧
      ∀ presented next,
        config.shared.exchanges.getLast? = some (presented, next) →
          row.afterFind.previousRefreshHash = presented
  /-- Of the presentations of a hash one succeeds, and it is recorded. -/
  winner : ∀ (number : Nat) userID presentedHash nextHash now grace trace
    session,
    config.threads[number]? = some
      ⟨.rotate userID presentedHash nextHash now grace, .done (some (.session session)), trace⟩ →
      (presentedHash, nextHash) ∈ config.shared.exchanges ∧
        ∀ (other : Nat) otherUser otherNext otherNow otherGrace otherTrace
          otherSession,
          config.threads[other]? = some
            ⟨.rotate otherUser presentedHash otherNext otherNow otherGrace,
              .done (some (.session otherSession)), otherTrace⟩ →
            other = number
  /-- A presentation changes nothing when it has read that its hash is neither
  the current nor the previous one, or the previous one within its grace
  window. -/
  refused : ∀ (number : Nat) userID presentedHash nextHash now grace program
    trace row, config.threads[number]? = some
      ⟨.rotate userID presentedHash nextHash now grace, program, trace⟩ →
      lastRead trace = some row →
        Refused presentedHash (presentationTime now trace) row → Quiet ttlSeconds trace
  /-- After the grace window it leaves the session revoked, unless the session
  has expired. -/
  reused : ∀ (number : Nat) userID presentedHash nextHash now grace outcome
    trace row, config.threads[number]? = some
      ⟨.rotate userID presentedHash nextHash now grace, .done (some outcome), trace⟩ →
      lastRead trace = some row → row.userID = userID →
        Reused presentedHash (presentationTime now trace) row →
          presentationTime now trace < row.expiresAt →
            ∃ stored, config.shared.row = some stored ∧ stored.status ≠ .active

/-- Refresh rotation has one winner, in every run of presentations with fresh
next hashes and of revocations. -/
theorem refresh_rotation_has_one_winner
    (shared : Shared) (row : UserSession) (stored : Stored shared row)
    (actions : List (Action Call Nat))
    (fresh : GuardedRun (machine ttlSeconds).act
      (fun config action => freshHash row.refreshHash config action = true)
      ⟨shared, []⟩ actions) :
    OneWinner ttlSeconds row.refreshHash ((machine ttlSeconds).run ⟨shared, []⟩ actions) := by
  have kept := kept_refresh stored fresh
  have linked := kept.shared
  have distinct := distinctHashes_run fresh
  have once : (((machine ttlSeconds).run ⟨shared, []⟩
      actions).shared.exchanges.map Prod.fst).Nodup := by
    have hashes := linked.distinct
    rw [Shared.issued, linked.chained.hashes] at hashes
    exact (List.nodup_append.mp hashes).1
  -- What a presentation that has returned has settled.
  have presented : ∀ (number : Nat) userID presentedHash nextHash now grace outcome trace,
      ((machine ttlSeconds).run ⟨shared, []⟩ actions).threads[number]? = some
        ⟨.rotate userID presentedHash nextHash now grace, .done (some outcome), trace⟩ →
        Presented userID presentedHash nextHash now trace outcome
          ((machine ttlSeconds).run ⟨shared, []⟩ actions).shared := by
    intro number userID presentedHash nextHash now grace outcome trace found
    exact kept.threads number _ found _ (rely_refl _) linked outcome rfl
  refine ⟨linked.chained, once, ?_, ?_, ?_, ?_⟩
  · obtain ⟨last, found, _, current, _, previous⟩ := linked.row
    exact ⟨last, found, current, previous⟩
  · intro number userID presentedHash nextHash now grace trace session found
    have own := (presented number _ _ _ _ _ _ _ found).exchanged session rfl
    refine ⟨own, ?_⟩
    intro other otherUser otherNext otherNow otherGrace otherTrace otherSession otherFound
    have theirs := (presented other _ _ _ _ _ _ _ otherFound).exchanged otherSession rfl
    have same : (presentedHash, otherNext) = (presentedHash, nextHash) :=
      List.inj_on_of_nodup_map once theirs own rfl
    rw [Prod.mk.injEq] at same
    exact distinct.eq otherFound found rfl (congrArg some same.2.symm)
  · intro number userID presentedHash nextHash now grace program trace last found read refused
    exact quiet_of_refused (kept.ensured number _ found) read refused
  · intro number userID presentedHash nextHash now grace outcome trace last
      found read owned reused unexpired
    exact (presented number _ _ _ _ _ _ _ found).revoked last read owned unexpired reused

def storedLogin : Shared where
  clock := 0
  row := some loginRow

def raceRun : List (Action Call Nat) :=
  .start (.rotate 1 "first" "second" 0 60000000000) ::
    .start (.rotate 1 "first" "third" 0 60000000000) ::
      (steps 0 3 ++ steps 1 3 ++ steps 1 1 ++ steps 0 4 ++ steps 1 2)

theorem stored_storedLogin : Stored storedLogin loginRow where
  found := rfl
  version := by decide
  unrevoked := fun _ => rfl
  trimmed := by decide +kernel
  cached := fun item found => absurd found (Option.some_ne_none item).symm
  exchanges := rfl

/-- The second client wins the race. -/
theorem refresh_rotation_has_one_winner_of_race :
    OneWinner 60 "first" ((machine 60).run ⟨storedLogin, []⟩ raceRun) ∧
      ((machine 60).run ⟨storedLogin, []⟩ raceRun).shared.exchanges = [("first", "third")] := by
  refine ⟨?_, by decide +kernel⟩
  exact refresh_rotation_has_one_winner storedLogin loginRow stored_storedLogin
      raceRun (by decide +kernel)

def expiredRun : List (Action Call Nat) :=
  .start (.rotate 1 "first" "second" 0 5000000000) :: steps 0 7 ++
    (.outside 2000000000000000 :: .start (.rotate 1 "first" "third" 0 5000000000) :: steps 1 3)

/-- The presentation of the reused hash at second 2000000, after the grace
window, ends at the check for expiry, and the row stays active. -/
theorem expired_reuse_is_not_revoked :
    (((machine 60).run ⟨storedLogin, []⟩ expiredRun).threads[1]?.map
        fun thread => (thread.call, thread.program.returned)) =
      some (.rotate 1 "first" "third" 0 5000000000, some (some (.failed .inactive))) ∧
      (((machine 60).run ⟨storedLogin, []⟩ expiredRun).shared.row.map
        fun row => (row.status, row.previousRefreshHash, row.previousValidUntil,
          row.expiresAt)) = some (.active, "first", 5, 1000000) := by
  exact ⟨by decide +kernel, by decide +kernel⟩

end NewApi.Sessions
