import Mathlib.Algebra.Order.BigOperators.Group.List
import NewApi.Billing.QuotaCache

/-!
# Credits and reserves of a cached balance

One user and any number of requests.  A reserve takes its amount from the field
before the database; a credit reads the committed balance, and later runs its
script with this ceiling.  What the requests in progress hold back keeps the
field below the balance, unless a script adds what the field already contains.
-/

namespace NewApi.Billing

open Transactions QuotaCache

inductive CacheQuotaResult where
  | insufficient
  | ok
  | miss

def QuotaCache.cacheTryReserveUserQuota (cache : QuotaCache) (userID amount : Int) :
    QuotaCache × CacheQuotaResult :=
  match cache userID with
  | none => (cache, .miss)
  | some quota =>
    if amount < 0 ∨ quota < amount then (cache, .insufficient)
    else (Function.update cache userID (some (quota - amount)), .ok)

/-- `compensateReservedUserQuotaCache`: a field that is gone is dropped once
more. -/
def QuotaCache.compensateReservedUserQuotaCache
    (cache : QuotaCache) (userID amount : Int) : QuotaCache :=
  match cache userID with
  | some _ => cache.cacheApplyUserQuotaDelta userID amount
  | none => cache.invalidateUserCache userID

/-- `persistUserQuotaDelta`; `none` is `gorm.ErrRecordNotFound`. -/
def persistUserQuotaDelta (quota delta : Int) : Option Int :=
  if delta < 0 ∧ quota < -delta then none else some (quota + delta)

/-- `reserveUserQuotaDB` and `decreaseUserQuota`; `none` is no row. -/
def reserveUserQuotaDB (quota amount : Int) : Option Int :=
  if amount ≤ quota then some (quota - amount) else none

/-! ## Requests -/

inductive QuotaRequest where
  /-- The credit is committed; the ceiling is read next.  History: the field
  was hydrated since, so it contains the credit.  No step reads it. -/
  | credited (delta : Int) (contained : Bool)
  /-- The credit script is next. -/
  | ceilingRead (delta ceiling : Int) (contained : Bool)
  /-- The reserve script found no field; it runs once more after
  `GetUserCache`. -/
  | missed (amount : Int)
  /-- No field again; `reserveUserQuotaDB` is next. -/
  | absent (amount : Int)
  /-- The field is debited; `persistUserQuotaDelta` is next. -/
  | debited (amount : Int)
  /-- The database has refused; the compensation is next. -/
  | rejected (amount : Int)
  /-- The field is too low; `reserveUserQuotaWhenCacheIsShort` reads the
  balance next. -/
  | short (amount : Int)
  /-- The balance suffices; the field is dropped next. -/
  | payable (amount : Int)
  /-- `DecreaseUserQuota` updates the row next. -/
  | dropped (amount : Int)
  /-- `DecreaseUserQuota` moves the field next. -/
  | paid (amount : Int)
  /-- The field is dropped next. -/
  | settled
  | returned
deriving DecidableEq

structure WalletState where
  quota : Int
  cache : QuotaCache
  requests : List QuotaRequest

namespace QuotaRequest

def afterScript (amount : Int) (missing : QuotaRequest) :
    CacheQuotaResult → QuotaRequest
  | .ok => .debited amount
  | .insufficient => .short amount
  | .miss => missing

def advance (userID quota : Int) (cache : QuotaCache) :
    QuotaRequest → Int × QuotaCache × QuotaRequest
  -- `cacheIncrUserQuota` of a positive delta
  | .credited delta contained => (quota, cache, .ceilingRead delta quota contained)
  | .ceilingRead delta ceiling _ =>
    (quota, cache.cacheCreditUserQuota userID delta ceiling, .returned)
  -- `TryReserveUserQuota`
  | .missed amount =>
    let (reserved, result) := cache.cacheTryReserveUserQuota userID amount
    (quota, reserved, afterScript amount (.absent amount) result)
  | .absent amount => ((reserveUserQuotaDB quota amount).getD quota, cache, .returned)
  | .debited amount =>
    match persistUserQuotaDelta quota (-amount) with
    | some persisted => (persisted, cache, .returned)
    | none => (quota, cache, .rejected amount)
  | .rejected amount => (quota, cache.compensateReservedUserQuotaCache userID amount, .returned)
  -- `reserveUserQuotaWhenCacheIsShort`
  | .short amount => (quota, cache, if quota < amount then .returned else .payable amount)
  | .payable amount => (quota, cache.invalidateUserCache userID, .dropped amount)
  | .dropped amount =>
    match reserveUserQuotaDB quota amount with
    | some decreased => (decreased, cache, .paid amount)
    | none => (quota, cache, .returned)
  | .paid amount => (quota, cache.cacheApplyUserQuotaDelta userID (-amount), .settled)
  | .settled => (quota, cache.invalidateUserCache userID, .returned)
  | .returned => (quota, cache, .returned)

def reserving : QuotaRequest → Bool
  | .absent _ => true
  | .debited _ => true
  | .rejected _ => true
  | .short _ => true
  | .payable _ => true
  | .dropped _ => true
  | .paid _ => true
  | .settled => true
  | _ => false

/-- History: the field is hydrated from a balance with this credit. -/
def hydrated : QuotaRequest → QuotaRequest
  | .credited delta _ => .credited delta true
  | .ceilingRead delta ceiling _ => .ceilingRead delta ceiling true
  | request => request

end QuotaRequest

inductive WalletAction where
  /-- A credit is committed. -/
  | commit (delta : Int)
  /-- `TryReserveUserQuota` runs its script. -/
  | reserve (amount : Int)
  /-- A request goes on. -/
  | advance (request : Nat)
  /-- `InvalidateUserCache`, or the expiry of the hash. -/
  | invalidate
  /-- `populateUserCache` of the committed row: a live field stays. -/
  | hydrate

def WalletState.act (userID : Int) (state : WalletState) :
    WalletAction → WalletState
  | .commit delta =>
    if delta ≤ 0 then state
    else
      { state with
        quota := state.quota + delta
        requests := state.requests ++ [.credited delta false] }
  | .reserve amount =>
    if amount ≤ 0 then state
    else
      let (reserved, result) := state.cache.cacheTryReserveUserQuota userID amount
      { state with
        cache := reserved
        requests := state.requests ++ [QuotaRequest.afterScript amount (.missed amount) result] }
  | .advance number =>
    match state.requests[number]? with
    | none => state
    | some request =>
      let (quota, cache, next) := request.advance userID state.quota state.cache
      ⟨quota, cache, state.requests.set number next⟩
  | .invalidate =>
    { state with cache := state.cache.invalidateUserCache userID }
  | .hydrate =>
    match state.cache userID with
    | some _ => state
    | none =>
      { state with
        cache := Function.update state.cache userID (some state.quota)
        requests := state.requests.map QuotaRequest.hydrated }

def QuotaCache.refusesCredit (cache : QuotaCache) (userID delta ceiling : Int) : Bool :=
  match cache userID with
  | none => true
  | some current =>
    delta ≤ 0 || ceiling < delta || ceiling ≤ current || ceiling - delta < current

/-- An absent field is hydrated only while no reserve is in progress. -/
def WalletState.hydratesQuietly (state : WalletState) : WalletAction → Bool
  | .hydrate => state.requests.all fun request => !request.reserving
  | _ => true

def WalletState.refusesContained (userID : Int) (state : WalletState) :
    WalletAction → Bool
  | .advance number =>
    match state.requests[number]? with
    | some (.ceilingRead delta ceiling true) => state.cache.refusesCredit userID delta ceiling
    | _ => true
  | _ => true

/-- What the field will still gain for a request that the balance has, or that
the balance will still lose for it. -/
def QuotaRequest.held : QuotaRequest → Int
  | .credited delta contained => if contained then 0 else delta
  | .ceilingRead delta _ contained => if contained then 0 else delta
  | .debited amount => amount
  | .rejected amount => amount
  | _ => 0

def QuotaRequest.amount : QuotaRequest → Int
  | .credited delta _ => delta
  | .ceilingRead delta _ _ => delta
  | .missed amount => amount
  | .absent amount => amount
  | .debited amount => amount
  | .rejected amount => amount
  | .short amount => amount
  | .payable amount => amount
  | .dropped amount => amount
  | .paid amount => amount
  | .settled => 0
  | .returned => 0

def QuotaRequest.uncached : QuotaRequest → Bool
  | .absent _ => true
  | .dropped _ => true
  | .paid _ => true
  | .settled => true
  | _ => false

def WalletState.held (state : WalletState) : Int := (state.requests.map QuotaRequest.held).sum

structure WalletState.Covered (userID : Int) (state : WalletState) : Prop where
  field : ∀ current, state.cache userID = some current → current + state.held ≤ state.quota
  amounts : ∀ request ∈ state.requests, 0 ≤ request.amount
  gone : ∀ request ∈ state.requests, request.uncached = true → state.cache userID = none

variable {request : QuotaRequest}

theorem QuotaRequest.held_nonnegative (amount : 0 ≤ request.amount) : 0 ≤ request.held := by
  cases request with
  | credited delta contained | ceilingRead delta ceiling contained =>
    cases contained with
    | true => exact le_refl _
    | false => exact amount
  | debited delta | rejected delta => exact amount
  | _ => exact le_refl _

theorem sum_held_set {requests : List QuotaRequest} {number : Nat}
    (found : requests[number]? = some request) (next : QuotaRequest) :
    ((requests.set number next).map QuotaRequest.held).sum =
      (requests.map QuotaRequest.held).sum - request.held + next.held := by
  obtain ⟨inRange, entry⟩ := List.getElem?_eq_some_iff.mp found
  rw [List.map_set, List.sum_set', dif_pos (by simpa using inRange), List.getElem_map, entry]
  omega

/-- What a step of a request may do to the field and the balance. -/
structure QuotaRequest.Accounts (userID quota : Int) (cache : QuotaCache)
    (request : QuotaRequest) (balance : Int) (written : QuotaCache)
    (next : QuotaRequest) : Prop where
  field : ∀ after, written userID = some after →
    ∃ before, cache userID = some before ∧
      after + next.held + quota ≤ before + request.held + balance
  amount : 0 ≤ next.amount
  gone : next.uncached = true → written userID = none

section Scripts

variable {cache : QuotaCache} {userID amount quota delta ceiling : Int}

theorem reserve_cases (cache : QuotaCache) (userID amount : Int) :
    (∃ quota, cache userID = some quota ∧ amount ≤ quota ∧
        cache.cacheTryReserveUserQuota userID amount =
          (Function.update cache userID (some (quota - amount)), .ok)) ∨
      (cache.cacheTryReserveUserQuota userID amount = (cache, .insufficient)) ∨
      (cache userID = none ∧ cache.cacheTryReserveUserQuota userID amount = (cache, .miss)) := by
  unfold cacheTryReserveUserQuota
  cases found : cache userID with
  | none => exact Or.inr (Or.inr ⟨rfl, rfl⟩)
  | some quota =>
    by_cases short : amount < 0 ∨ quota < amount
    · exact Or.inr (Or.inl (by simp only [if_pos short]))
    · exact Or.inl ⟨quota, rfl, by omega, by simp only [if_neg short]⟩

theorem credit_cases (cache : QuotaCache) (userID delta ceiling : Int) :
    (cache.cacheCreditUserQuota userID delta ceiling = cache) ∨
      (cache.refusesCredit userID delta ceiling = false ∧
        ∃ current, cache userID = some current ∧
          cache.cacheCreditUserQuota userID delta ceiling =
            Function.update cache userID (some (current + delta))) := by
  unfold cacheCreditUserQuota
  by_cases empty : delta ≤ 0 ∨ ceiling < delta
  · exact Or.inl (by rw [if_pos empty])
  rw [if_neg empty]
  cases found : cache userID with
  | none => exact Or.inl rfl
  | some current =>
    by_cases full : ceiling ≤ current ∨ ceiling - delta < current
    · exact Or.inl (by simp only [if_pos full])
    · refine Or.inr ⟨?_, current, rfl, by simp only [if_neg full]⟩
      simp only [refusesCredit, found, Bool.or_eq_false_iff, decide_eq_false_iff_not]
      omega

end Scripts

theorem QuotaRequest.accounts_of_reserve {userID quota : Int} {cache : QuotaCache}
    {missing : QuotaRequest} (amount : Int) (positive : 0 ≤ amount) (unheld : request.held = 0)
    (missingAmount : 0 ≤ missing.amount) :
    request.Accounts userID quota cache quota (cache.cacheTryReserveUserQuota userID amount).1
      (afterScript amount missing (cache.cacheTryReserveUserQuota userID amount).2) := by
  rcases reserve_cases cache userID amount with ⟨before, found, enough, same⟩ | same | ⟨gone, same⟩
  · rw [same]
    refine ⟨?_, positive, nofun⟩
    intro after stored
    dsimp only at stored
    rw [Function.update_self] at stored
    cases stored
    refine ⟨before, found, ?_⟩
    have debited : (afterScript amount missing .ok).held = amount := rfl
    rw [unheld, debited]
    omega
  · rw [same]
    refine ⟨?_, positive, nofun⟩
    intro after stored
    have short : (afterScript amount missing .insufficient).held = 0 := rfl
    exact ⟨after, stored, by rw [unheld, short]⟩
  · rw [same]
    refine ⟨?_, missingAmount, fun _ => gone⟩
    intro after stored
    dsimp only at stored
    rw [gone] at stored
    cases stored

theorem QuotaRequest.advance_accounts {userID quota : Int} {cache : QuotaCache}
    (amount : 0 ≤ request.amount) (gone : request.uncached = true → cache userID = none)
    (refuses : ∀ delta ceiling, request = .ceilingRead delta ceiling true →
      cache.refusesCredit userID delta ceiling = true) :
    request.Accounts userID quota cache (request.advance userID quota cache).1
      (request.advance userID quota cache).2.1
      (request.advance userID quota cache).2.2 := by
  -- The steps that leave the field alone, or have none to change.
  have same : ∀ next : QuotaRequest, next.held ≤ request.held →
      0 ≤ next.amount → (next.uncached = true → cache userID = none) →
        request.Accounts userID quota cache quota cache next := by
    intro next held nextAmount nextGone
    exact ⟨fun after stored => ⟨after, stored, by omega⟩, nextAmount, nextGone⟩
  have away : ∀ (balance : Int) (after : QuotaCache) (next : QuotaRequest),
      after userID = none → 0 ≤ next.amount →
        request.Accounts userID quota cache balance after next := by
    intro balance after next empty nextAmount
    refine ⟨fun current stored => ?_, nextAmount, fun _ => empty⟩
    rw [empty] at stored
    cases stored
  cases request with
  | credited delta contained | returned => exact same _ (le_refl _) amount nofun
  | missed reserve => exact accounts_of_reserve reserve amount rfl amount
  | absent reserve => exact away _ _ _ (gone rfl) (le_refl _)
  | short reserve =>
    simp only [advance]
    split
    · exact same _ (le_refl _) (le_refl _) nofun
    · exact same _ (le_refl _) amount nofun
  | payable reserve => exact away _ _ _ (Function.update_self _ _ _) amount
  | settled => exact away _ _ _ (Function.update_self _ _ _) (le_refl _)
  | paid reserve =>
    exact away _ _ _ (cacheApplyUserQuotaDelta_none userID (gone rfl)) (le_refl _)
  | dropped reserve =>
    simp only [advance]
    split
    · exact away _ _ _ (gone rfl) amount
    · exact away _ _ _ (gone rfl) (le_refl _)
  | debited reserve =>
    simp only [advance]
    split
    case h_1 persisted decided =>
      refine ⟨fun after stored => ⟨after, stored, ?_⟩, le_refl _, nofun⟩
      unfold persistUserQuotaDelta at decided
      split at decided
      · cases decided
      cases decided
      simp only [held]
      omega
    · exact same _ (le_refl _) amount nofun
  | rejected reserve =>
    simp only [advance]
    refine ⟨fun after stored => ?_, le_refl _, nofun⟩
    unfold compensateReservedUserQuotaCache at stored
    cases found : cache userID with
    | none =>
      rw [found] at stored
      dsimp only at stored
      rw [invalidateUserCache, Function.update_self] at stored
      cases stored
    | some before =>
      rw [found] at stored
      dsimp only at stored
      rw [cacheApplyUserQuotaDelta_self found] at stored
      cases stored
      refine ⟨before, rfl, ?_⟩
      simp only [held]
      omega
  | ceilingRead delta ceiling contained =>
    simp only [advance]
    rcases credit_cases cache userID delta ceiling with unchanged | ⟨accepted, before, found, added⟩
    · rw [unchanged]
      exact same _ (held_nonnegative amount) (le_refl _) nofun
    · rw [added]
      refine ⟨fun after stored => ⟨before, found, ?_⟩, le_refl _, nofun⟩
      rw [Function.update_self] at stored
      cases stored
      cases contained with
      | true =>
        -- Only a credit that the field does not contain is added.
        rw [refuses delta ceiling rfl] at accepted
        cases accepted
      | false =>
        have credit : (ceilingRead delta ceiling false).held = delta := rfl
        have nothing : returned.held = 0 := rfl
        omega

/-! ## Runs -/

section Runs

variable {userID : Int} {state : WalletState}

section

variable (covered : state.Covered userID)
include covered

theorem WalletState.Covered.held_nonnegative : 0 ≤ state.held := by
  refine List.sum_nonneg ?_
  intro amount member
  obtain ⟨request, listed, rfl⟩ := List.mem_map.mp member
  exact QuotaRequest.held_nonnegative (covered.amounts request listed)

theorem covered_append {quota : Int} {cache : QuotaCache} (next : QuotaRequest)
    (amount : 0 ≤ next.amount)
    (field : ∀ after, cache userID = some after →
      ∃ before, state.cache userID = some before ∧ after + next.held + state.quota ≤ before + quota)
    (gone : next.uncached = true → cache userID = none) :
    WalletState.Covered userID ⟨quota, cache, state.requests ++ [next]⟩ := by
  have away : state.cache userID = none → cache userID = none := by
    intro empty
    cases stored : cache userID with
    | none => rfl
    | some after =>
      obtain ⟨before, found, _⟩ := field after stored
      rw [empty] at found
      cases found
  refine ⟨fun after stored => ?_, fun request member => ?_, fun request member uncached => ?_⟩
  · obtain ⟨before, found, accounted⟩ := field after stored
    have below := covered.field before found
    simp only [WalletState.held, List.map_append, List.sum_append,
      List.map_singleton, List.sum_singleton] at below ⊢
    omega
  · rcases List.mem_append.mp member with old | new
    · exact covered.amounts request old
    · rw [List.mem_singleton.mp new]
      exact amount
  · rcases List.mem_append.mp member with old | new
    · exact away (covered.gone request old uncached)
    · rw [List.mem_singleton.mp new] at uncached
      exact gone uncached

theorem covered_set {number : Nat} {request : QuotaRequest} {balance : Int} {written : QuotaCache}
    {next : QuotaRequest} (found : state.requests[number]? = some request)
    (accounts : request.Accounts userID state.quota state.cache balance written next) :
    WalletState.Covered userID ⟨balance, written, state.requests.set number next⟩ := by
  have away : state.cache userID = none → written userID = none := by
    intro empty
    cases stored : written userID with
    | none => rfl
    | some after =>
      obtain ⟨before, live, _⟩ := accounts.field after stored
      rw [empty] at live
      cases live
  refine ⟨fun after stored => ?_, fun other member => ?_, fun other member uncached => ?_⟩
  · obtain ⟨before, live, accounted⟩ := accounts.field after stored
    have below := covered.field before live
    simp only [WalletState.held] at below ⊢
    rw [sum_held_set found]
    omega
  · rcases List.mem_or_eq_of_mem_set member with old | rfl
    · exact covered.amounts other old
    · exact accounts.amount
  · rcases List.mem_or_eq_of_mem_set member with old | rfl
    · exact away (covered.gone other old uncached)
    · exact accounts.gone uncached

theorem covered_hydrate (quiet : ∀ request ∈ state.requests, request.reserving = false) :
    WalletState.Covered userID
      { state with
        cache := Function.update state.cache userID (some state.quota)
        requests := state.requests.map QuotaRequest.hydrated } := by
  have released : ∀ request ∈ state.requests,
      request.hydrated.held = 0 ∧ request.hydrated.uncached = false ∧
        request.hydrated.amount = request.amount := by
    intro request member
    have idle := quiet request member
    cases request with
    | credited delta contained | ceilingRead delta ceiling contained | missed amount
    | returned => exact ⟨rfl, rfl, rfl⟩
    | _ => cases idle
  refine ⟨fun after stored => ?_, fun other member => ?_, fun other member uncached => ?_⟩
  · dsimp only at stored
    rw [Function.update_self] at stored
    cases stored
    have nothing : WalletState.held
        { state with
          cache := Function.update state.cache userID (some state.quota)
          requests := state.requests.map QuotaRequest.hydrated } = 0 := by
      refine List.sum_eq_zero fun amount member => ?_
      simp only [List.mem_map, exists_exists_and_eq_and] at member
      obtain ⟨request, listed, rfl⟩ := member
      exact (released request listed).1
    dsimp only at nothing ⊢
    omega
  · obtain ⟨request, listed, rfl⟩ := List.mem_map.mp member
    rw [(released request listed).2.2]
    exact covered.amounts request listed
  · obtain ⟨request, listed, rfl⟩ := List.mem_map.mp member
    rw [(released request listed).2.1] at uncached
    cases uncached

end

theorem covered_act {action : WalletAction} (quiet : state.hydratesQuietly action = true)
    (refused : state.refusesContained userID action = true) (covered : state.Covered userID) :
    (state.act userID action).Covered userID := by
  cases action with
  | commit delta =>
    simp only [WalletState.act]
    split
    · exact covered
    refine covered_append covered _ (by simp only [QuotaRequest.amount]; omega) ?_ nofun
    intro after stored
    refine ⟨after, stored, ?_⟩
    have credit : (QuotaRequest.credited delta false).held = delta := rfl
    omega
  | reserve amount =>
    simp only [WalletState.act]
    split
    · exact covered
    case isFalse positive =>
      have accounts : QuotaRequest.returned.Accounts userID state.quota state.cache state.quota
          (state.cache.cacheTryReserveUserQuota userID amount).1
          (QuotaRequest.afterScript amount (.missed amount)
            (state.cache.cacheTryReserveUserQuota userID amount).2) :=
        QuotaRequest.accounts_of_reserve amount (by omega) rfl
          (by simp only [QuotaRequest.amount]; omega)
      refine covered_append covered _ accounts.amount ?_ accounts.gone
      intro after stored
      obtain ⟨before, found, accounted⟩ := accounts.field after stored
      have nothing : QuotaRequest.returned.held = 0 := rfl
      exact ⟨before, found, by omega⟩
  | advance number =>
    simp only [WalletState.act]
    cases found : state.requests[number]? with
    | none => exact covered
    | some request =>
      have member := List.mem_of_getElem? found
      refine covered_set covered found
        (QuotaRequest.advance_accounts (covered.amounts request member)
          (covered.gone request member) ?_)
      rintro delta ceiling rfl
      simpa only [WalletState.refusesContained, found] using refused
  | invalidate =>
    have dropped : (state.cache.invalidateUserCache userID) userID = none :=
      Function.update_self _ _ _
    refine ⟨fun after stored => ?_, covered.amounts, fun _ _ _ => dropped⟩
    simp only [WalletState.act, dropped] at stored
    cases stored
  | hydrate =>
    simp only [WalletState.act]
    split
    · exact covered
    · refine covered_hydrate covered fun request member => ?_
      simp only [WalletState.hydratesQuietly, List.all_eq_true, Bool.not_eq_true'] at quiet
      exact quiet request member

/-- A credit never lifts the field above the balance: in every run whose credit
scripts refuse the credits that the field was hydrated with, the field is
absent or at most the balance whenever no reserve is in progress. -/
theorem credit_keeps_field_below_balance (userID quota : Int) (cache : QuotaCache)
    (below : ∀ current, cache userID = some current → current ≤ quota) (actions : List WalletAction)
    (guarded : GuardedRun (WalletState.act userID)
      (fun state action => state.hydratesQuietly action = true ∧
        state.refusesContained userID action = true)
      ⟨quota, cache, []⟩ actions)
    (current : Int)
    (stored : (execute (WalletState.act userID) ⟨quota, cache, []⟩
      actions).cache userID = some current) :
    current ≤ (execute (WalletState.act userID) ⟨quota, cache, []⟩ actions).quota := by
  have start : WalletState.Covered userID ⟨quota, cache, []⟩ := by
    refine ⟨fun value found => ?_, by simp, by simp⟩
    simpa [WalletState.held] using below value found
  have covered : (execute (WalletState.act userID) ⟨quota, cache, []⟩ actions).Covered userID :=
    guarded.invariant (fun _ _ guard covered => covered_act guard.1 guard.2 covered) start
  have held := covered.held_nonnegative
  have field := covered.field current stored
  omega

end Runs

/-- The first credit meets a reserve and its script runs last.  The second is
committed before the field is hydrated, and its script is refused.  The third
arrives around another reserve. -/
def liveCreditRun : List WalletAction :=
  [.commit 10, .reserve 20, .advance 0, .advance 1, .advance 0,
    .invalidate, .commit 15, .hydrate, .advance 2, .advance 2,
    .commit 5, .advance 3, .reserve 40, .advance 4, .advance 3]

/-- In the end the field is the balance. -/
theorem credit_keeps_field_below_balance_of_live :
    (execute (WalletState.act 1) ⟨100, fun _ => some 100, []⟩ liveCreditRun).cache 1 = some 70 ∧
      (70 : Int) ≤ (execute (WalletState.act 1) ⟨100, fun _ => some 100, []⟩
        liveCreditRun).quota := by
  have stored : (execute (WalletState.act 1) ⟨100, fun _ => some 100, []⟩
      liveCreditRun).cache 1 = some 70 := by decide
  refine ⟨stored, ?_⟩
  exact credit_keeps_field_below_balance 1 100 (fun _ => some 100)
      (by rintro current ⟨⟩; decide) liveCreditRun (by decide) 70 stored

/-- A credit is committed, the field is hydrated with it and debited after the
ceiling is read, and the script of the credit runs last. -/
def hydratedCreditRun : List WalletAction :=
  [.commit 10, .hydrate, .advance 0, .reserve 20, .advance 1, .advance 0]

/-- The credit is added a second time: the field is above the balance. -/
theorem hydrated_credit_is_added_twice :
    GuardedRun (WalletState.act 1) (fun state action => state.hydratesQuietly action = true)
        ⟨100, fun _ => none, []⟩ hydratedCreditRun ∧
      (execute (WalletState.act 1) ⟨100, fun _ => none, []⟩
        hydratedCreditRun).requests = [.returned, .returned] ∧
      (execute (WalletState.act 1) ⟨100, fun _ => none, []⟩ hydratedCreditRun).cache 1 = some 100 ∧
      (execute (WalletState.act 1) ⟨100, fun _ => none, []⟩ hydratedCreditRun).quota = 90 := by
  refine ⟨by decide, by decide, by decide, by decide⟩

end NewApi.Billing
