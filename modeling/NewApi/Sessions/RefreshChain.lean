import Mathlib.Data.List.Nodup
import NewApi.Sessions.Tombstones

/-!
# The chain of refresh hashes

A refresh exchanges the current hash for the next one; the hash just exchanged
is kept with the end of its grace window.  The exchanges of a session form one
chain whatever the calls in progress do.
-/

namespace NewApi.Sessions

open GoStrings Interleaving Shared

def Chained : String → List (String × String) → Prop
  | _, [] => True
  | first, (presented, next) :: rest => presented = first ∧ Chained next rest

def latest (first : String) (exchanges : List (String × String)) : String :=
  (exchanges.getLast?.map Prod.snd).getD first

@[simp]
theorem latest_append (first presented next : String) (exchanges : List (String × String)) :
    latest first (exchanges ++ [(presented, next)]) = next := by
  simp [latest]

theorem latest_cons (first presented next : String) (rest : List (String × String)) :
    latest first ((presented, next) :: rest) = latest next rest := by
  cases rest with
  | nil => rfl
  | cons other others =>
    simp only [latest, List.getLast?_cons_cons]
    rfl

variable {exchanges : List (String × String)}

theorem Chained.append {first presented next : String} (chained : Chained first exchanges)
    (current : presented = latest first exchanges) :
    Chained first (exchanges ++ [(presented, next)]) := by
  induction exchanges generalizing first with
  | nil => exact ⟨current, trivial⟩
  | cons exchange rest ih =>
    rw [latest_cons] at current
    exact ⟨chained.1, ih chained.2 current⟩

theorem Chained.hashes {first : String} (chained : Chained first exchanges) :
    first :: exchanges.map Prod.snd = exchanges.map Prod.fst ++ [latest first exchanges] := by
  induction exchanges generalizing first with
  | nil => rfl
  | cons exchange rest ih =>
    obtain ⟨rfl, restChained⟩ := chained
    rw [latest_cons, List.map_cons, List.map_cons, ih restChained, List.cons_append]

/-- The hashes that the session has had as current ones. -/
def Shared.issued (first : String) (shared : Shared) : List String :=
  first :: shared.exchanges.map Prod.snd

structure Linked (first : String) (version : Int) (shared : Shared) : Prop where
  row : ∃ row, shared.row = some row ∧ row.version = version ∧
    row.refreshHash = latest first shared.exchanges ∧
      (row.status = .active → row.revokedAt = 0) ∧
        ∀ presented next, shared.exchanges.getLast? = some (presented, next) →
          row.afterFind.previousRefreshHash = presented
  chained : Chained first shared.exchanges
  distinct : (shared.issued first).Nodup
  trimmed : ∀ hash ∈ shared.issued first, trimSpace hash = hash
  cached : ∀ item, shared.cache = some item → item.entry.version ≤ version

/-- What becomes of a state: a row stays, a revocation is final and exchanges
are added at the end. -/
structure Grows (first second : Shared) : Prop where
  row : ∀ row, first.row = some row → ∃ next, second.row = some next ∧
    next.userID = row.userID ∧ next.expiresAt = row.expiresAt ∧
      (row.status ≠ .active → next.status ≠ .active)
  exchanges : first.exchanges <+: second.exchanges

theorem Grows.refl (shared : Shared) : Grows shared shared where
  row := fun row found => ⟨row, found, rfl, rfl, id⟩
  exchanges := List.prefix_refl _

theorem Grows.trans {first second third : Shared}
    (start : Grows first second) (rest : Grows second third) :
    Grows first third where
  row := by
    intro row found
    obtain ⟨next, nextFound, nextUser, nextExpiry, nextFinal⟩ := start.row row found
    obtain ⟨last, lastFound, lastUser, lastExpiry, lastFinal⟩ := rest.row next nextFound
    exact ⟨last, lastFound, lastUser.trans nextUser, lastExpiry.trans nextExpiry,
        fun revoked => lastFinal (nextFinal revoked)⟩
  exchanges := start.exchanges.trans rest.exchanges

theorem Grows.revoked {first second : Shared} (grows : Grows first second)
    (revoked : ∃ row, first.row = some row ∧ row.status ≠ .active) :
    ∃ row, second.row = some row ∧ row.status ≠ .active := by
  obtain ⟨row, found, inactive⟩ := revoked
  obtain ⟨next, nextFound, _, _, final⟩ := grows.row row found
  exact ⟨next, nextFound, final inactive⟩

/-! ## Operations -/

def Op.mild (version : Int) : Op → Prop
  | .eval entry _ => entry.version ≤ version
  | .exchange _ _ _ _ _ => False
  | .advance _ _ _ _ _ => False
  | .create _ => False
  | _ => True

/-- The rows that operations answer have the version of the session. -/
def Op.expected (version : Int) : (op : Op) → Answer op → Prop
  | .findOwned _, answer => ∀ row, answer = some row → row.version = version
  | .candidates _ _, answer => ∀ row, answer = some row → row.version = version
  | .revokeLocked _ _, answer => ∀ row, answer = some row → row.version = version
  | .revokePresented _ _ _, answer => ∀ row, answer = .ok (some row) → row.version = version
  | _, _ => True

variable {ttlSeconds version : Int} {first : String} {shared : Shared}

theorem eval_cached {entry : UserSessionCacheEntry} (redisExpiration : Int)
    (cached : ∀ item, shared.cache = some item → item.entry.version ≤ version)
    (older : entry.version ≤ version) :
    ∀ item, (shared.eval entry redisExpiration).1.cache = some item →
      item.entry.version ≤ version := by
  rcases eval_cases shared entry redisExpiration with
    ⟨same, _⟩ | ⟨_, _, ⟨_, same⟩ | ⟨_, same⟩⟩ | ⟨_, same⟩
  · rw [same]
    exact cached
  · rw [same]
    simp
  · rw [same]
    rintro item ⟨⟩
    exact older
  · rw [same]
    rintro item ⟨⟩
    exact older

/-- What a step that exchanges nothing leaves of the chain. -/
structure Stays (first : String) (version : Int) (shared next : Shared) : Prop where
  linked : Linked first version next
  grows : Grows shared next
  exchanges : next.exchanges = shared.exchanges

/-- The chain is that of the row and of the exchanges. -/
theorem Linked.keeps {next : Shared} (linked : Linked first version shared)
    (sameRow : next.row = shared.row) (sameExchanges : next.exchanges = shared.exchanges)
    (cached : ∀ item, next.cache = some item → item.entry.version ≤ version) :
    Stays first version shared next where
  linked := by
    obtain ⟨⟨row, found, facts⟩, chained, distinct, trimmed, _⟩ := linked
    refine ⟨⟨row, sameRow.trans found, ?_⟩, ?_, ?_, ?_, cached⟩
    · rwa [sameExchanges]
    · rwa [sameExchanges]
    · unfold issued
      rwa [sameExchanges]
    · unfold issued
      rwa [sameExchanges]
  grows := by
    refine ⟨?_, by rw [sameExchanges]⟩
    intro row found
    exact ⟨row, sameRow.trans found, rfl, rfl, id⟩
  exchanges := sameExchanges

theorem Linked.stays (linked : Linked first version shared) :
    Stays first version shared shared :=
  linked.keeps rfl rfl linked.cached

/-- A revocation ends the row but keeps its hash and its version. -/
theorem Linked.revokes {base : Shared} {row : UserSession} (linked : Linked first version shared)
    (found : shared.row = some row) (now : Int) (reason : String)
    (sameExchanges : base.exchanges = shared.exchanges)
    (cached : ∀ item, base.cache = some item → item.entry.version ≤ version) :
    Stays first version shared (base.revokeRow row now reason) where
  linked := by
    obtain ⟨⟨stored, storedFound, sameVersion, current, _, previous⟩, chained, distinct,
      trimmed, _⟩ := linked
    rw [found] at storedFound
    cases storedFound
    refine ⟨⟨row.revoke now reason, rfl, sameVersion, ?_, ?_, ?_⟩, ?_, ?_, ?_, cached⟩
    · rwa [revokeRow, sameExchanges]
    · intro active
      cases active
    · rwa [revokeRow, sameExchanges]
    · rwa [revokeRow, sameExchanges]
    · rwa [revokeRow, issued, sameExchanges]
    · rwa [revokeRow, issued, sameExchanges]
  grows := by
    refine ⟨?_, by rw [revokeRow, sameExchanges]⟩
    intro other otherFound
    rw [found] at otherFound
    cases otherFound
    exact ⟨row.revoke now reason, rfl, rfl, rfl, fun _ active => by cases active⟩
  exchanges := sameExchanges

theorem Linked.selected {selects : UserSession → Bool} {stored : UserSession}
    (linked : Linked first version shared) (selected : shared.row.filter selects = some stored) :
    shared.row = some stored ∧ stored.version = version := by
  obtain ⟨row, found, sameVersion, _⟩ := linked.row
  have storedRow := (Option.filter_eq_some_iff.mp selected).1
  rw [found] at storedRow
  cases storedRow
  exact ⟨found, sameVersion⟩

theorem Linked.loaded {selects : UserSession → Bool} (linked : Linked first version shared) :
    ∀ answer, (shared.row.filter selects).map (·.afterFind) = some answer →
      answer.version = version := by
  intro answer answered
  obtain ⟨stored, selected, rfl⟩ := Option.map_eq_some_iff.mp answered
  exact (linked.selected selected).2

theorem Linked.revokeReused (linked : Linked first version shared) (userID now : Int) :
    Stays first version shared (perform ttlSeconds (.revokeReused userID now) shared).1 := by
  obtain ⟨row, found, _⟩ := linked.row
  simp only [perform, found]
  split
  · exact linked.revokes found now "refresh_reuse" rfl linked.cached
  · exact linked.stays

theorem Linked.revokeOwned (linked : Linked first version shared) (userID now : Int)
    (reason : String) :
    Stays first version shared (perform ttlSeconds (.revokeOwned userID now reason) shared).1 := by
  simp only [perform]
  cases selected : shared.row.filter (·.userID = userID) with
  | none => exact linked.stays
  | some stored =>
    dsimp only
    split
    · exact linked.stays
    · exact linked.revokes (linked.selected selected).1 now reason rfl linked.cached

/-- The row is revoked behind the fence that the cache takes first. -/
theorem Linked.revokePresented (linked : Linked first version shared)
    (presentedHash : String) (now : Int) (reason : String) :
    Stays first version shared
        (perform ttlSeconds (.revokePresented presentedHash now reason) shared).1 ∧
      (Op.revokePresented presentedHash now reason).expected version
        (perform ttlSeconds (.revokePresented presentedHash now reason) shared).2 := by
  obtain ⟨row, found, sameVersion, _⟩ := linked.row
  rcases perform_revokePresented ttlSeconds shared presentedHash now reason with
    unchanged | ⟨stored, _, storedFound, _, rfl, outcome⟩
  · rw [unchanged]
    exact ⟨linked.stays, fun _ answered => by cases answered⟩
  rw [found] at storedFound
  cases storedFound
  let deadline := denyExpiration ttlSeconds row.afterFind.expiresAt shared.clock
  let fence := row.afterFind.denyEntry .revoking now reason
  obtain ⟨fencedRow, _, _, fencedExchanges⟩ := eval_frame shared fence deadline
  have older : fence.version ≤ version := le_of_eq sameVersion
  have fencedCached := eval_cached deadline linked.cached older
  rcases outcome with refused | revoked
  · rw [refused]
    exact ⟨linked.keeps fencedRow fencedExchanges fencedCached,
      fun _ answered => by cases answered⟩
  · rw [revoked]
    refine ⟨linked.revokes found now reason fencedExchanges fencedCached, ?_⟩
    rintro answer ⟨⟩
    exact sameVersion

theorem Linked.revokeLocked (linked : Linked first version shared) (now : Int)
    (reason : String) :
    Stays first version shared (perform ttlSeconds (.revokeLocked now reason) shared).1 ∧
      (Op.revokeLocked now reason).expected version
        (perform ttlSeconds (.revokeLocked now reason) shared).2 := by
  simp only [perform]
  cases selected : shared.row.filter (·.status = .active) with
  | none => exact ⟨linked.stays, fun _ answered => by cases answered⟩
  | some stored =>
    obtain ⟨found, sameVersion⟩ := linked.selected selected
    refine ⟨linked.revokes found now reason rfl linked.cached, ?_⟩
    rintro answer ⟨⟩
    exact sameVersion

variable (ttlSeconds) in
/-- Whatever is done besides an exchange, an auth version and a login leaves
the chain as it is. -/
theorem mild_step {op : Op} (linked : Linked first version shared) (mild : op.mild version) :
    Stays first version shared (perform ttlSeconds op shared).1 ∧
      op.expected version (perform ttlSeconds op shared).2 := by
  cases op with
  | now | hGetAll | findBySID | countActive session now => exact ⟨linked.stays, trivial⟩
  | findOwned userID | candidates userID now => exact ⟨linked.stays, linked.loaded⟩
  | eval entry redisExpiration =>
    obtain ⟨sameRow, _, _, sameExchanges⟩ := eval_frame shared entry redisExpiration
    exact ⟨linked.keeps sameRow sameExchanges (eval_cached redisExpiration linked.cached mild),
      trivial⟩
  | revokeReused userID now => exact ⟨linked.revokeReused userID now, trivial⟩
  | revokeOwned userID now reason => exact ⟨linked.revokeOwned userID now reason, trivial⟩
  | revokePresented presentedHash now reason =>
    exact linked.revokePresented presentedHash now reason
  | revokeLocked now reason => exact linked.revokeLocked now reason
  | create session | exchange userID now presentedHash nextHash limit
  | advance userID now session user next => exact absurd mild id

theorem exchange_refused {userID now limit : Int} {presentedHash nextHash : String}
    (refused : (perform ttlSeconds
      (.exchange userID now presentedHash nextHash limit) shared).2 = false) :
    (perform ttlSeconds
      (.exchange userID now presentedHash nextHash limit) shared).1 = shared := by
  cases found : shared.row with
  | none => simp only [perform, found]
  | some row =>
    simp only [perform, found] at refused ⊢
    split at refused
    · cases refused
    case isFalse other => rw [if_neg other]

/-- An exchange adds one link, of a hash that is new. -/
theorem exchange_step {userID now limit : Int} {presentedHash nextHash : String}
    (linked : Linked first version shared) (fresh : nextHash ∉ shared.issued first)
    (trimmed : trimSpace nextHash = nextHash)
    (exchanged : (perform ttlSeconds
      (.exchange userID now presentedHash nextHash limit) shared).2 = true) :
    Linked first version (perform ttlSeconds
        (.exchange userID now presentedHash nextHash limit) shared).1 ∧
      Grows shared (perform ttlSeconds
        (.exchange userID now presentedHash nextHash limit) shared).1 ∧
      (perform ttlSeconds
        (.exchange userID now presentedHash nextHash limit) shared).1.exchanges =
          shared.exchanges ++ [(presentedHash, nextHash)] := by
  obtain ⟨row, found, sameVersion, current, unrevoked, previous⟩ := linked.row
  simp only [perform, found] at exchanged ⊢
  split at exchanged
  case isFalse => cases exchanged
  case isTrue selected =>
    obtain ⟨owned, active, presented⟩ := selected
    rw [if_pos ⟨owned, active, presented⟩]
    have presentedTrimmed : trimSpace presentedHash = presentedHash := by
      refine linked.trimmed presentedHash ?_
      rw [← presented, current, issued, linked.chained.hashes]
      simp
    refine ⟨⟨⟨_, rfl, sameVersion, ?_, unrevoked, ?_⟩, ?_, ?_, ?_,
      linked.cached⟩, ⟨?_, List.prefix_append _ _⟩, rfl⟩
    · exact (latest_append _ _ _ _).symm
    · intro lastPresented lastNext last
      simp only [List.getLast?_concat, Option.some.injEq, Prod.mk.injEq] at last
      rw [← last.1]
      exact presentedTrimmed
    · exact linked.chained.append (presented.symm.trans current)
    · unfold issued at fresh ⊢
      rw [List.map_append, List.map_singleton, ← List.cons_append]
      exact List.nodup_append.mpr
        ⟨linked.distinct, List.nodup_singleton _, fun hash old other new => by
          rw [List.mem_singleton.mp new]
          rintro rfl
          exact fresh old⟩
    · intro hash member
      unfold issued at member
      rw [List.map_append, List.map_singleton, ← List.cons_append, List.mem_append] at member
      rcases member with old | new
      · exact linked.trimmed hash old
      · rw [List.mem_singleton.mp new]
        exact trimmed
    · intro other otherFound
      rw [found] at otherFound
      cases otherFound
      refine ⟨_, rfl, rfl, rfl, fun revoked => ?_⟩
      exact absurd (status_of_inactiveAt active) revoked

end NewApi.Sessions
