import Mathlib.Logic.Function.Basic
import NewApi.Billing.WalletLedger

/-!
# The cached balance of a wallet request

`model/user_cache.go` and `model/quota_reserve.go`.  Every ledger transaction is
followed by a write to the balance in Redis.  The write is computed from the
payload of the call or from the ledger row, not from the amount the transaction
moved, so it can miss.
-/

namespace NewApi.Billing

open Transactions WalletStep RequestView BillingAdjustmentRequest

abbrev QuotaCache := Int → Option Int

namespace QuotaCache

variable (cache : QuotaCache)

def invalidateUserCache (userID : Int) : QuotaCache := Function.update cache userID none

/-- `userQuotaDeltaScript`: a live field is moved by `delta`. -/
def cacheApplyUserQuotaDelta (userID delta : Int) : QuotaCache :=
  Function.update cache userID ((cache userID).map (· + delta))

/-- `cacheCreditUserQuota` with `userQuotaCreditScript`: the credit is left out
when it would carry the field past the committed balance. -/
def cacheCreditUserQuota (userID delta ceiling : Int) : QuotaCache :=
  if delta ≤ 0 ∨ ceiling < delta then cache
  else
    match cache userID with
    | none => cache
    | some current =>
      if ceiling ≤ current ∨ ceiling - delta < current then cache
      else Function.update cache userID (some (current + delta))

/-- `ApplyUserQuotaCacheDelta` with `cacheIncrUserQuota`. -/
def cacheIncrUserQuota (db : Database) (userID delta : Int) : QuotaCache :=
  if userID ≤ 0 ∨ delta = 0 then cache
  else if delta < 0 then cache.cacheApplyUserQuotaDelta userID delta
  else
    match db.users.lookup userID with
    | none => cache
    | some user => cache.cacheCreditUserQuota userID delta user.quota

/-- `syncDebitedUserQuotaCache`: the debit of a transaction that is about to
commit. -/
def syncDebitedUserQuotaCache (userID amount : Int) : QuotaCache :=
  if userID ≤ 0 ∨ amount ≤ 0 then cache
  else
    match cache userID with
    | some _ => cache.cacheApplyUserQuotaDelta userID (-amount)
    | none => cache.invalidateUserCache userID

def perform (db : Database) (cache : QuotaCache) : CacheWrite → QuotaCache
  | .invalidateUser userID => cache.invalidateUserCache userID
  | .userDelta userID delta => cache.cacheIncrUserQuota db userID delta
  | .tokenDelta _ _ => cache

def performAll (db : Database) (writes : List CacheWrite) : QuotaCache :=
  writes.foldl (perform db) cache

/-- The debit inside a refund transaction, and the credit after it. -/
def afterRefund (db : Database) (outcome : WalletRefundOutcome) : QuotaCache :=
  let cache := cache.syncDebitedUserQuotaCache outcome.userID outcome.cacheDebit
  if 0 < outcome.credited ∧ 0 < outcome.userID then
    cache.cacheIncrUserQuota db outcome.userID outcome.credited
  else cache

end QuotaCache

/-- The cache that a successful transaction leaves; a failed one writes
nothing. -/
def QuotaCache.after {α : Type}
    (cache : QuotaCache) (transaction : Except BillingError (α × Database))
    (write : α → Database → QuotaCache) : QuotaCache :=
  match transaction with
  | .ok (outcome, db) => write outcome db
  | .error _ => cache

def WalletStep.cacheAfter (scope : RequestScope) (db : Database) (cache : QuotaCache) :
    WalletStep → QuotaCache
  | .reserve now amount =>
    cache.after
      (reserveWalletPreConsume db now scope.requestID scope.userID amount)
      (fun debited _ => cache.syncDebitedUserQuotaCache scope.userID debited)
  | .increase now delta =>
    match increaseWalletPreConsume db now scope.requestID scope.userID delta
    with
    | .ok _ => cache.syncDebitedUserQuotaCache scope.userID delta
    | .error _ => cache
  | .refund now =>
    cache.after (refundWalletPreConsume db now scope.requestID false)
      (fun outcome db => cache.afterRefund db outcome)
  | .recoverExpired now =>
    cache.after (refundWalletPreConsume db now scope.requestID true)
      (fun outcome db => cache.afterRefund db outcome)
  | .apply now req =>
    cache.after (applyBillingAdjustment db now req)
      (fun outcome db => cache.performAll db outcome.cache)
  | .rollback now actualQuota =>
    cache.after (rollbackBillingAdjustment db now scope.key actualQuota)
      (fun writes db => cache.performAll db writes)
  | .refundReservation now req =>
    cache.after (refundBillingReservation db now req) (fun writes db => cache.performAll db writes)
  | .collectDelivered now req =>
    cache.after (collectDeliveredBillingCharge db now req)
      (fun outcome db => cache.performAll db outcome.cache)
  | .reserveTrusted _ _ => cache
  | .markDelivered _ => cache
  | .ensurePending _ _ => cache

structure CachedState where
  ledger : LedgerState
  cache : QuotaCache

def WalletStep.runCached (scope : RequestScope) (state : CachedState) (step : WalletStep) :
    CachedState :=
  ⟨step.run scope state.ledger, step.cacheAfter scope state.ledger.db state.cache⟩

def WalletStep.Addressed (scope : RequestScope) : WalletStep → Prop
  | .ensurePending _ req => scope.Sends req
  | .apply _ req => scope.Sends req
  | .collectDelivered _ req => scope.Sends req
  | .refundReservation _ req => scope.Returns req
  | _ => True

def WalletStep.Commits (scope : RequestScope) (db : Database) : WalletStep → Prop
  | .reserve now amount =>
    (reserveWalletPreConsume db now scope.requestID scope.userID amount).isOk = true
  | .reserveTrusted now amount =>
    (reserveTrustedWalletPreConsume db now scope.requestID scope.userID amount).isOk = true
  | .increase now delta =>
    (increaseWalletPreConsume db now scope.requestID scope.userID delta).isOk = true
  | .markDelivered _ => True
  | .refund now => (refundWalletPreConsume db now scope.requestID false).isOk = true
  | .recoverExpired now => (refundWalletPreConsume db now scope.requestID true).isOk = true
  | .ensurePending now req => (ensurePendingBillingAdjustment db now req).isOk = true
  | .apply now req => (applyBillingAdjustment db now req).isOk = true
  | .rollback now actualQuota =>
    (rollbackBillingAdjustment db now scope.key actualQuota).isOk = true
  | .refundReservation now req => (refundBillingReservation db now req).isOk = true
  | .collectDelivered now req => (collectDeliveredBillingCharge db now req).isOk = true

def QuotaCache.Follows (cache : QuotaCache) (scope : RequestScope) (db : Database) : Prop :=
  cache scope.userID = some (scope.view db).quota ∨ cache scope.userID = none

/-- The amount that an expiry recovery has collected for the request and not
given back. -/
def collectedBefore : Option WalletPreConsumeRecord → Int
  | none => 0
  | some record => if record.status = .refunded then 0 else record.collected

/-- The write of a settlement hits.  A refunded reserve under a live row drops
the field.  Otherwise the field is moved by the payload's delta, which is what
the wallet pays unless an estimate was collected before; and a credit reaches a
field only when the balance was not negative. -/
def SettleCovered (view : RequestView) (live : Bool) (req : BillingAdjustmentRequest) :
    Prop :=
  (live = true ∧
      ∃ record, view.record = some record ∧ record.status = .refunded) ∨
    (collectedBefore view.record ≤ 0 ∨
        collectedBefore view.record = req.reservationQuota) ∧
      (0 ≤ req.fundingDelta ∨ 0 ≤ view.quota) ∨
    0 < collectedBefore view.record ∧
      collectedBefore view.record = req.chargeQuota ∧
      req.fundingDelta ≤ 0

/-- The write of a returned reservation hits: the ledger row has to carry a
reservation for any write to be made. -/
def ReturnCovered (view : RequestView) (row : BillingAdjustment) : Prop :=
  reservationCredit view.record row = 0 ∨ row.reservationQuota ≠ 0 ∧ 0 ≤ view.quota

def RefundCovered (scope : RequestScope) (db : Database) (requireExpired : Bool) : Prop :=
  ∀ record, (scope.view db).record = some record →
    record.status = .reserved →
    (requireExpired = true →
      record.clientDelivered = false ∧ walletBillingAdjustmentOwnsTx db scope.requestID = false) →
    record.amount = 0 ∨ 0 ≤ (scope.view db).quota

def WalletStep.CacheCovered (scope : RequestScope) (db : Database) : WalletStep → Prop
  | .apply _ req =>
    (∃ row, (scope.view db).row = some row ∧ row.status = .applied) ∨
      SettleCovered (scope.view db) true req
  | .collectDelivered _ req =>
    match (scope.view db).row with
    | none => SettleCovered (scope.view db) true req
    | some row =>
      match row.status with
      | .applied => True
      | .pending => SettleCovered (scope.view db) true req
      | .rolledBack => SettleCovered (scope.view db) false req
  | .rollback _ _ =>
    ∀ row, (scope.view db).row = some row →
      (row.status = .pending → ReturnCovered (scope.view db) row) ∧
        (row.status = .applied → row.chargeQuota = 0 ∨ 0 ≤ (scope.view db).quota)
  | .refundReservation now req =>
    match (scope.view db).row with
    | none => ReturnCovered (scope.view db) (req.pendingRow now 0)
    | some row => row.status = .pending → ReturnCovered (scope.view db) row
  | .refund _ => RefundCovered scope db false
  | .recoverExpired _ => RefundCovered scope db true
  | _ => True

/-! ## The field after a write -/

namespace QuotaCache

variable {cache : QuotaCache} {db : Database} {userID quota delta : Int}

theorem cacheApplyUserQuotaDelta_self (cached : cache userID = some quota) :
    (cache.cacheApplyUserQuotaDelta userID delta) userID = some (quota + delta) := by
  simp [cacheApplyUserQuotaDelta, cached]

/-- A user that is not stored has no balance to credit against, which is the
same as a balance of zero. -/
theorem cacheIncrUserQuota_credit (positive : 0 < userID) (credit : 0 < delta) :
    cache.cacheIncrUserQuota db userID delta =
      cache.cacheCreditUserQuota userID delta (quotaIn db.users userID) := by
  unfold cacheIncrUserQuota
  rw [if_neg (by omega), if_neg (by omega)]
  cases found : db.users.lookup userID with
  | none =>
    have empty : quotaIn db.users userID = 0 := by
      rw [quotaIn, found]
      rfl
    rw [empty, cacheCreditUserQuota, if_pos (Or.inr credit)]
  | some user =>
    have stored : quotaIn db.users userID = user.quota := by
      rw [quotaIn, found]
      rfl
    rw [stored]

/-- A field that was the balance before the write, after a write of `delta`
while the committed balance is `balance`. -/
def moved (quota balance delta : Int) : Int :=
  if delta ≤ 0 then quota + delta
  else if balance < delta ∨ balance ≤ quota ∨ balance - delta < quota then quota
  else quota + delta

theorem cacheIncrUserQuota_self (positive : 0 < userID) (cached : cache userID = some quota) :
    (cache.cacheIncrUserQuota db userID delta) userID =
      some (moved quota (quotaIn db.users userID) delta) := by
  by_cases credit : 0 < delta
  · rw [cacheIncrUserQuota_credit positive credit, moved,
      if_neg (Int.not_le.mpr credit), cacheCreditUserQuota]
    by_cases short : quotaIn db.users userID < delta
    · rw [if_pos (Or.inr short), if_pos (Or.inl short), cached]
    · rw [if_neg (by omega), cached]
      dsimp only
      by_cases past : quotaIn db.users userID ≤ quota ∨ quotaIn db.users userID - delta < quota
      · rw [if_pos past, if_pos (Or.inr past), cached]
      · rw [if_neg past, if_neg (by omega), Function.update_self]
  · rw [moved, if_pos (by omega), cacheIncrUserQuota]
    by_cases zero : delta = 0
    · rw [if_pos (Or.inr zero), cached, zero, Int.add_zero]
    · rw [if_neg (by omega), if_pos (by omega)]
      exact cacheApplyUserQuotaDelta_self cached

theorem syncDebitedUserQuotaCache_self (positive : 0 < userID) (cached : cache userID = some quota)
    (nonnegative : 0 ≤ delta) :
    (cache.syncDebitedUserQuotaCache userID delta) userID = some (quota + -delta) := by
  unfold syncDebitedUserQuotaCache
  by_cases zero : delta = 0
  · rw [if_pos (Or.inr (by omega)), cached, zero]
    simp
  · rw [if_neg (by omega), cached]
    exact cacheApplyUserQuotaDelta_self cached

/-! A field that is gone stays away. -/

theorem update_gone {value : Option Int} {target : Int} (gone : cache userID = none)
    (missing : userID = target → value = none) :
    Function.update cache target value userID = none := by
  by_cases same : userID = target
  · rw [same, Function.update_self]
    exact missing same
  · rw [Function.update_of_ne same]
    exact gone

theorem cacheApplyUserQuotaDelta_none (target : Int) (gone : cache userID = none) :
    (cache.cacheApplyUserQuotaDelta target delta) userID = none := by
  apply update_gone gone
  rintro rfl
  rw [gone, Option.map_none]

theorem cacheCreditUserQuota_none (target ceiling : Int) (gone : cache userID = none) :
    (cache.cacheCreditUserQuota target delta ceiling) userID = none := by
  unfold cacheCreditUserQuota
  split
  · exact gone
  cases live : cache target with
  | none => exact gone
  | some current =>
    dsimp only
    split
    · exact gone
    · apply update_gone gone
      rintro rfl
      rw [gone] at live
      cases live

theorem cacheIncrUserQuota_none (target : Int) (gone : cache userID = none) :
    (cache.cacheIncrUserQuota db target delta) userID = none := by
  unfold cacheIncrUserQuota
  split
  · exact gone
  · split
    · exact cacheApplyUserQuotaDelta_none target gone
    · cases db.users.lookup target with
      | none => exact gone
      | some user => exact cacheCreditUserQuota_none target user.quota gone

theorem invalidateUserCache_none (target : Int) (gone : cache userID = none) :
    (cache.invalidateUserCache target) userID = none :=
  update_gone gone (fun _ => rfl)

theorem syncDebitedUserQuotaCache_none (target amount : Int) (gone : cache userID = none) :
    (cache.syncDebitedUserQuotaCache target amount) userID = none := by
  unfold syncDebitedUserQuotaCache
  split
  · exact gone
  · cases cache target with
    | some quota => exact cacheApplyUserQuotaDelta_none target gone
    | none => exact invalidateUserCache_none target gone

theorem performAll_none (db : Database) (gone : cache userID = none) :
    ∀ writes : List CacheWrite, (cache.performAll db writes) userID = none := by
  intro writes
  induction writes generalizing cache with
  | nil => exact gone
  | cons write rest ih =>
    apply ih
    cases write with
    | invalidateUser target => exact invalidateUserCache_none target gone
    | userDelta target delta => exact cacheIncrUserQuota_none target gone
    | tokenDelta _ _ => exact gone

theorem afterRefund_none (db : Database) (outcome : WalletRefundOutcome)
    (gone : cache userID = none) :
    (cache.afterRefund db outcome) userID = none := by
  have synced := syncDebitedUserQuotaCache_none outcome.userID outcome.cacheDebit gone
  unfold afterRefund
  split
  · exact cacheIncrUserQuota_none outcome.userID synced
  · exact synced

variable {req : BillingAdjustmentRequest}

theorem performAll_settlement (wallet : req.source = .wallet) :
    cache.performAll db (applyBillingAdjustmentCache req) =
      cache.cacheIncrUserQuota db req.userID (-req.fundingDelta) := by
  have token :
      ∀ start : QuotaCache,
        start.performAll db
            (if !req.tokenIncluded ∨ req.tokenDelta = 0 ∨ req.tokenID ≤ 0 then []
            else [.tokenDelta req.tokenID (-req.tokenDelta)]) =
          start := by
    intro start
    split <;> rfl
  unfold applyBillingAdjustmentCache performAll
  by_cases zero : req.fundingDelta = 0
  · rw [if_neg (fun both => both.2 zero)]
    refine (token cache).trans ?_
    rw [cacheIncrUserQuota, if_pos (Or.inr (by omega))]
  · rw [if_pos ⟨wallet, zero⟩]
    exact token (cache.cacheIncrUserQuota db req.userID (-req.fundingDelta))

theorem performAll_settled {invalidate : Bool} (wallet : req.source = .wallet)
    (positive : 0 < req.userID) :
    (cache.performAll db (settledCacheWrites req invalidate req.userID)) req.userID =
      if invalidate then none
      else
        (cache.cacheIncrUserQuota db req.userID (-req.fundingDelta)) req.userID := by
  unfold settledCacheWrites
  cases invalidate with
  | true =>
    rw [if_pos ⟨rfl, positive⟩, if_pos rfl]
    have dropped : (cache.invalidateUserCache req.userID) req.userID = none := by
      rw [invalidateUserCache, Function.update_self]
    exact performAll_none db dropped _
  | false =>
    rw [if_neg (fun both => Bool.false_ne_true both.1),
      if_neg Bool.false_ne_true, performAll_settlement wallet]

theorem performAll_rollback {writes : BillingAdjustmentCache} (wallet : writes.source = .wallet) :
    cache.performAll db (applyBillingRollbackCache writes) =
      if writes.moved then cache.cacheIncrUserQuota db writes.userID writes.userDelta
      else
        cache := by
  have token :
      ∀ start : QuotaCache,
        start.performAll db
            (if 0 < writes.tokenID ∧ writes.tokenAdd ≠ 0 then
              [.tokenDelta writes.tokenID writes.tokenAdd]
            else []) =
          start := by
    intro start
    split <;> rfl
  unfold applyBillingRollbackCache
  cases writes.moved with
  | false => rfl
  | true =>
    simp only [Bool.not_true, Bool.false_eq_true, if_false, if_true, performAll, List.foldl_append]
    by_cases zero : writes.userDelta = 0
    · rw [if_neg (fun both => both.2 zero)]
      refine (token cache).trans ?_
      rw [cacheIncrUserQuota, if_pos (Or.inr zero)]
    · rw [if_pos ⟨wallet, zero⟩]
      exact token (cache.cacheIncrUserQuota db writes.userID writes.userDelta)

end QuotaCache

/-! ## One step -/

/-- What every reachable request keeps to, whatever its payloads carry. -/
structure RequestView.Sound (scope : RequestScope) (view : RequestView) :
    Prop where
  carries : ∀ row, view.row = some row → scope.Carries row
  owner : ∀ record, view.record = some record → record.userID = scope.userID
  reserve : ∀ record, view.record = some record → 0 ≤ record.amount ∧ 0 ≤ record.collected
  quotas : ∀ row, view.row = some row → 0 ≤ row.reservationQuota ∧ 0 ≤ row.chargeQuota

section Arithmetic

variable {record : Option WalletPreConsumeRecord} {row : BillingAdjustment}
variable {req : BillingAdjustmentRequest} {view : RequestView}

theorem settleAccount_refunded_iff : (settleAccount record row).1 = true ↔
      row.status ≠ .rolledBack ∧ ∃ stored, record = some stored ∧ stored.status = .refunded := by
  cases record with
  | none => simp [settleAccount]
  | some stored =>
    cases status : stored.status with
    | reserved => simp [settleAccount, status]
    | trusted => simp [settleAccount, status]
    | settled => simp [settleAccount, status]
    | refunded =>
      by_cases rolledBack : row.status = .rolledBack
      · simp [settleAccount, status, rolledBack]
      · simp [settleAccount, status, rolledBack]

theorem settleAccount_collected : (settleAccount record row).2 = collectedBefore record := by
  cases record with
  | none => rfl
  | some stored =>
    cases status : stored.status with
    | reserved => simp [settleAccount, collectedBefore, status]
    | trusted => simp [settleAccount, collectedBefore, status]
    | settled => simp [settleAccount, collectedBefore, status]
    | refunded =>
      by_cases rolledBack : row.status = .rolledBack
      · simp [settleAccount, collectedBefore, status, rolledBack]
      · simp [settleAccount, collectedBefore, status, rolledBack]

/-- The field after a settlement is the new balance exactly when the payload
says what the wallet pays. -/
theorem settle_follows_iff {live : Bool} {final : Int}
    (isLive : live = true ↔ row.status ≠ .rolledBack)
    (sameDelta : row.fundingDelta = req.fundingDelta)
    (sameCharge : row.chargeQuota = req.chargeQuota)
    (balanced : req.reservationQuota + req.fundingDelta = req.chargeQuota)
    (paid : final = view.quota + -settleCharge view.record row row.fundingDelta) :
    ((if (settleAccount view.record row).1 then none
        else some (QuotaCache.moved view.quota final (-req.fundingDelta))) = some final ∨
      (if (settleAccount view.record row).1 then none
        else some (QuotaCache.moved view.quota final (-req.fundingDelta))) = none) ↔
      SettleCovered view live req := by
  have refunded := @settleAccount_refunded_iff view.record row
  have collected := @settleAccount_collected view.record row
  rw [← isLive] at refunded
  unfold settleCharge at paid
  unfold SettleCovered
  generalize settleAccount view.record row = account at *
  obtain ⟨full, taken⟩ := account
  rw [← refunded]
  cases full with
  | true => simp
  | false =>
    simp only [Bool.false_eq_true, if_false, Option.some.injEq,
      reduceCtorEq, or_false, false_or] at *
    unfold QuotaCache.moved
    split at paid
    · split
      · omega
      · split <;> omega
    · split
      · omega
      · split <;> omega

theorem credit_follows_iff {quota credit : Int} (nonnegative : 0 ≤ credit) :
    QuotaCache.moved quota (quota + credit) credit = quota + credit ↔ credit = 0 ∨ 0 ≤ quota := by
  unfold QuotaCache.moved
  split
  · omega
  · split <;> omega

theorem reservationCredit_nonnegative
    (reserve : ∀ stored, record = some stored → 0 ≤ stored.amount ∧ 0 ≤ stored.collected)
    (reservation : 0 ≤ row.reservationQuota) :
    0 ≤ reservationCredit record row := by
  unfold reservationCredit
  cases record with
  | none => exact reservation
  | some stored =>
    obtain ⟨amount, collected⟩ := reserve stored rfl
    dsimp only
    split
    · exact Int.le_refl 0
    · exact amount
    · exact collected
    · split
      · exact amount
      · exact collected

end Arithmetic

section Steps

variable {scope : RequestScope} {db after : Database} {now : Int}
variable {cache : QuotaCache}

variable {req : BillingAdjustmentRequest} {row : BillingAdjustment}

theorem settled_follows_iff {live : Bool} (positive : 0 < scope.userID)
    (cached : cache scope.userID = some (scope.view db).quota)
    (sends : scope.Sends req) (valid : req.Valid) (isLive : live = true ↔ row.status ≠ .rolledBack)
    (sameDelta : row.fundingDelta = req.fundingDelta)
    (sameCharge : row.chargeQuota = req.chargeQuota)
    (paid : (scope.view after).quota =
        (scope.view db).quota + -settleCharge (scope.view db).record row row.fundingDelta) :
    (cache.performAll after
        (settledCacheWrites req (settleAccount (scope.view db).record row).1
          scope.userID)).Follows scope after ↔
      SettleCovered (scope.view db) live req := by
  have written :=
    @QuotaCache.performAll_settled cache after req
      (settleAccount (scope.view db).record row).1 sends.wallet
      valid.positiveUser
  rw [sends.user] at written
  unfold QuotaCache.Follows
  rw [written, QuotaCache.cacheIncrUserQuota_self positive cached]
  exact settle_follows_iff isLive sameDelta sameCharge valid.balanced paid

theorem settlesRow_notApplied (settles : SettlesRow scope db now req row)
    (pending : row.status = .pending) :
    ¬∃ row, (scope.view db).row = some row ∧ row.status = .applied := by
  rintro ⟨stored, found, applied⟩
  rcases settles with located | ⟨absent, _⟩
  · rw [located] at found
    cases found
    rw [pending] at applied
    cases applied
  · rw [absent] at found
    cases found

section

variable (sound : (scope.view db).Sound scope) (nonempty : scope.requestID ≠ "")
  (positive : 0 < scope.userID) (cached : cache scope.userID = some (scope.view db).quota)
  (sends : scope.Sends req)
include sound nonempty positive cached sends

theorem apply_follows_iff {outcome : ApplyOutcome}
    (done : applyBillingAdjustment db now req = .ok (outcome, after)) :
    (cache.performAll after outcome.cache).Follows scope after ↔
      CacheCovered scope db (.apply now req) := by
  obtain ⟨valid, applied, _⟩ := applyBillingAdjustment_cases sends nonempty sound.carries done
  generalize shape : scope.view after = final at applied
  cases applied with
  | replayed found same applied =>
    refine iff_of_true (Or.inl ?_) (Or.inl ⟨_, found, applied⟩)
    rw [shape]
    exact cached
  | @settled row settles same pending =>
    obtain ⟨user, _, _, _, delta, _, charge, _⟩ := same_iff.mp same
    rw [user, sends.user, CacheCovered, or_iff_right (settlesRow_notApplied settles pending)]
    exact settled_follows_iff positive cached sends valid (by simp [pending])
        delta charge (congrArg quota shape)

theorem collectDelivered_follows_iff {outcome : CollectOutcome}
    (done : collectDeliveredBillingCharge db now req = .ok (outcome, after)) :
    (cache.performAll after outcome.cache).Follows scope after ↔
      CacheCovered scope db (.collectDelivered now req) := by
  obtain ⟨valid, collected, _⟩ :=
    collectDeliveredBillingCharge_cases sends nonempty sound.carries done
  generalize shape : scope.view after = final at collected
  cases collected with
  | kept found applied =>
    refine iff_of_true (Or.inl ?_) ?_
    · rw [shape]
      exact cached
    · simp only [CacheCovered, found, applied]
  | @settled row settles same pending =>
    obtain ⟨user, _, _, _, delta, _, charge, _⟩ := same_iff.mp same
    have covered : CacheCovered scope db (.collectDelivered now req) ↔
          SettleCovered (scope.view db) true req := by
      rcases settles with found | ⟨absent, _⟩
      · simp only [CacheCovered, found, pending]
      · simp only [CacheCovered, absent]
    rw [user, sends.user, covered]
    exact settled_follows_iff positive cached sends valid (by simp [pending])
        delta charge (congrArg quota shape)
  | @recharged row found rolledBack =>
    have covered : CacheCovered scope db (.collectDelivered now req) ↔
          SettleCovered (scope.view db) false req := by
      simp only [CacheCovered, found, rolledBack]
    rw [sends.user, covered]
    exact settled_follows_iff positive cached sends valid
        (by simp [BillingAdjustment.recharged, rolledBack]) rfl rfl
        (congrArg quota shape)

end

section

variable (sound : (scope.view db).Sound scope) (positive : 0 < scope.userID)
  (cached : cache scope.userID = some (scope.view db).quota)
include sound positive cached

/-- Likewise after a return of the reserve. -/
theorem returned_follows_iff {reported : Bool}
    (carries : scope.Carries row) (reservation : 0 ≤ row.reservationQuota)
    (reports : 0 ≤ reservationCredit (scope.view db).record row → reported = true)
    (paid : (scope.view after).quota =
        (scope.view db).quota + max 0 (reservationCredit (scope.view db).record row)) :
    (cache.performAll after
        (reservationCacheWrites row (reservationCredit (scope.view db).record row)
          reported)).Follows scope after ↔
      ReturnCovered (scope.view db) row := by
  have nonnegative := reservationCredit_nonnegative sound.reserve reservation
  obtain rfl := reports nonnegative
  unfold QuotaCache.Follows reservationCacheWrites ReturnCovered
  rw [max_eq_right nonnegative] at paid
  have balance : quotaIn after.users scope.userID = (scope.view after).quota := rfl
  dsimp only
  rw [if_pos rfl, QuotaCache.performAll_rollback]
  · unfold billingAdjustmentCacheFrom
    by_cases zero : row.reservationQuota = 0
    · simp only [zero, if_true, Bool.false_eq_true, if_false, cached, Option.some.injEq,
        reduceCtorEq, or_false, ne_eq, not_true_eq_false, false_and]
      omega
    · simp only [zero, if_false, if_true, carries.user,
        QuotaCache.cacheIncrUserQuota_self positive cached, balance, paid, Option.some.injEq,
        reduceCtorEq, or_false, ne_eq, not_false_eq_true, true_and]
      exact credit_follows_iff nonnegative
  · unfold billingAdjustmentCacheFrom
    split
    · rfl
    · exact carries.wallet

/-- After a rollback the cache is right exactly when its writes cover the credit. -/
theorem rollback_follows_iff {actualQuota : Int} {writes : List CacheWrite}
    (done : rollbackBillingAdjustment db now scope.key actualQuota = .ok (writes, after)) :
    (cache.performAll after writes).Follows scope after ↔
      CacheCovered scope db (.rollback now actualQuota) := by
  obtain ⟨rolled, _⟩ := rollbackBillingAdjustment_cases sound.carries done
  generalize shape : scope.view after = final at rolled
  cases rolled with
  | @kept row found rolledBack =>
    refine iff_of_true (Or.inl ?_) ?_
    · rw [shape]
      exact cached
    · intro stored located
      rw [found] at located
      cases located
      simp [rolledBack]
  | @returned row found pending =>
    have covered : CacheCovered scope db (.rollback now actualQuota) ↔
          ReturnCovered (scope.view db) row := by
      simp [CacheCovered, found, pending]
    rw [covered]
    refine returned_follows_iff sound positive cached (sound.carries row found)
        (sound.quotas row found).1 ?_ (congrArg quota shape)
    intro nonnegative
    exact decide_eq_true ⟨(sound.carries row found).wallet, nonnegative⟩
  | @reversed row found applied accepted =>
    have carries := sound.carries row found
    have charge := (sound.quotas row found).2
    have covered : CacheCovered scope db (.rollback now actualQuota) ↔
          row.chargeQuota = 0 ∨ 0 ≤ (scope.view db).quota := by
      simp [CacheCovered, found, applied]
    have paid : (scope.view after).quota = (scope.view db).quota + row.chargeQuota :=
      congrArg quota shape
    have balance : quotaIn after.users scope.userID = (scope.view after).quota := rfl
    rw [covered, QuotaCache.Follows, QuotaCache.performAll_rollback]
    · unfold billingAdjustmentCacheFrom
      by_cases zero : row.chargeQuota = 0
      · simp only [zero, if_true, Bool.false_eq_true, if_false, cached,
          Option.some.injEq, reduceCtorEq, or_false, true_or, iff_true]
        omega
      · simp only [zero, if_false, if_true, carries.user, carries.wallet,
          QuotaCache.cacheIncrUserQuota_self positive cached, balance, paid,
          Option.some.injEq, reduceCtorEq, or_false, false_or]
        exact (credit_follows_iff charge).trans (by simp [zero])
    · unfold billingAdjustmentCacheFrom
      split
      · rfl
      · exact carries.wallet

/-- Likewise after a refund of a reservation. -/
theorem refundReservation_follows_iff {req : BillingReservationRefund} {writes : List CacheWrite}
    (returns : scope.Returns req)
    (done : refundBillingReservation db now req = .ok (writes, after)) :
    (cache.performAll after writes).Follows scope after ↔
      CacheCovered scope db (.refundReservation now req) := by
  obtain ⟨reservation, refunded, _⟩ := refundBillingReservation_cases returns sound.carries done
  generalize shape : scope.view after = final at refunded
  cases refunded with
  | @kept row found rolledBack =>
    refine iff_of_true (Or.inl ?_) ?_
    · rw [shape]
      exact cached
    · simp [CacheCovered, found, rolledBack]
  | @returned row located pending =>
    have paid := congrArg quota shape
    rcases located with found | ⟨absent, rfl⟩
    · have carries := sound.carries row found
      have covered : CacheCovered scope db (.refundReservation now req) ↔
            ReturnCovered (scope.view db) row := by
        simp [CacheCovered, found, pending]
      rw [covered]
      exact returned_follows_iff sound positive cached carries (sound.quotas row found).1
          (fun _ => decide_eq_true carries.wallet) paid
    · have covered : CacheCovered scope db (.refundReservation now req) ↔
            ReturnCovered (scope.view db) (req.pendingRow now 0) := by
        simp only [CacheCovered, absent]
      rw [covered]
      exact
        returned_follows_iff sound positive cached (returns.carries_pendingRow now _) reservation
          (fun _ => decide_eq_true returns.wallet) paid

/-- Likewise after a refund or an expiry. -/
theorem refund_follows_iff {requireExpired : Bool} {outcome : WalletRefundOutcome}
    (done : refundWalletPreConsume db now scope.requestID requireExpired = .ok (outcome, after)) :
    (cache.afterRefund after outcome).Follows scope after ↔
      RefundCovered scope db requireExpired := by
  obtain ⟨refunded, _⟩ := refundWalletPreConsume_cases sound.owner done
  generalize shape : scope.view after = final at refunded
  have idle : (scope.view after).quota = (scope.view db).quota →
        ∀ userID, (cache.afterRefund after ⟨0, userID, 0⟩).Follows scope after := by
    intro same userID
    refine Or.inl ?_
    have untouched : cache.afterRefund after ⟨0, userID, 0⟩ = cache := by
      simp [QuotaCache.afterRefund, QuotaCache.syncDebitedUserQuotaCache]
    rw [untouched, cached, same]
  cases refunded with
  | alreadyRefunded found status =>
    refine iff_of_true (idle (by rw [shape]) _) ?_
    intro stored located reserved
    rw [found] at located
    cases located
    rw [status] at reserved
    cases reserved
  | owned found isOpen expiry owned =>
    refine iff_of_true (idle (by rw [shape]) _) ?_
    intro stored located reserved free
    rw [(free expiry).2] at owned
    cases owned
  | dropped found trusted =>
    refine iff_of_true (idle (by rw [shape]) _) ?_
    intro stored located reserved
    rw [found] at located
    cases located
    rw [trusted] at reserved
    cases reserved
  | kept found reserved expiry delivered unowned =>
    refine iff_of_true (idle (by rw [shape]) _) ?_
    intro stored located _ free
    rw [found] at located
    cases located
    rw [(free expiry).1] at delivered
    cases delivered
  | @collected record found trusted expiry delivered unowned =>
    refine iff_of_true (Or.inl ?_) ?_
    · have owner := sound.owner record found
      have synced :=
        @QuotaCache.syncDebitedUserQuotaCache_self cache scope.userID (scope.view db).quota
          (if 0 < record.amount then record.amount else 0) positive cached
          (by split <;> omega)
      have written :
          cache.afterRefund after
              ⟨0, record.userID, if 0 < record.amount then record.amount else 0⟩ =
            cache.syncDebitedUserQuotaCache scope.userID
              (if 0 < record.amount then record.amount else 0) := by
        simp [QuotaCache.afterRefund, owner]
      rw [written, synced, shape]
    · intro stored located reserved
      rw [found] at located
      cases located
      rw [trusted] at reserved
      cases reserved
  | @returned record found reserved undelivered unowned =>
    have amount := (sound.reserve record found).1
    have owner := sound.owner record found
    have credit : (if 0 < record.amount then record.amount else 0) = record.amount := by
      split <;> omega
    have covered :
        RefundCovered scope db requireExpired ↔ record.amount = 0 ∨ 0 ≤ (scope.view db).quota := by
      constructor
      · intro covers
        exact covers record found reserved (fun expiry => ⟨undelivered expiry, unowned expiry⟩)
      · intro covers stored located _ _
        rw [found] at located
        cases located
        exact covers
    have paid : (scope.view after).quota = (scope.view db).quota + record.amount := by
      rw [shape, credit]
    have balance : quotaIn after.users scope.userID = (scope.view after).quota := rfl
    have untouched : cache.syncDebitedUserQuotaCache record.userID 0 = cache := by
      simp [QuotaCache.syncDebitedUserQuotaCache]
    rw [covered, credit, QuotaCache.Follows, QuotaCache.afterRefund]
    dsimp only
    rw [untouched, owner]
    by_cases zero : record.amount = 0
    · simp only [zero, lt_irrefl, false_and, if_false, cached,
        Option.some.injEq, reduceCtorEq, or_false, true_or, iff_true]
      omega
    · rw [if_pos ⟨by omega, positive⟩,
        QuotaCache.cacheIncrUserQuota_self positive cached, balance, paid]
      simp only [Option.some.injEq, reduceCtorEq, or_false]
      exact credit_follows_iff amount

end

end Steps

/-! ## Reachable requests -/

section Reachable

variable {scope : RequestScope} {db after : Database} {now : Int}
variable {view : RequestView}

theorem RequestView.Sound.withRecord
    {quota : Int} {token : Option Token} {record : WalletPreConsumeRecord}
    (sound : view.Sound scope) (owner : record.userID = scope.userID)
    (amounts : 0 ≤ record.amount ∧ 0 ≤ record.collected) :
    Sound scope
      { view with quota := quota, token := token, record := some record } where
  carries := sound.carries
  owner := by
    intro stored located
    cases located
    exact owner
  reserve := by
    intro stored located
    cases located
    exact amounts
  quotas := sound.quotas

theorem RequestView.Sound.mapRecord {quota : Int} {token : Option Token}
    {update : WalletPreConsumeRecord → WalletPreConsumeRecord} (sound : view.Sound scope)
    (kept :
      ∀ record,
        (update record).userID = record.userID ∧ (update record).amount = record.amount ∧
          (update record).collected = record.collected) :
    Sound scope
      { view with
        quota := quota
        token := token
        record := view.record.map update } where
  carries := sound.carries
  owner := by
    intro stored located
    obtain ⟨record, found, rfl⟩ := Option.map_eq_some_iff.mp located
    rw [(kept record).1]
    exact sound.owner record found
  reserve := by
    intro stored located
    obtain ⟨record, found, rfl⟩ := Option.map_eq_some_iff.mp located
    rw [(kept record).2.1, (kept record).2.2]
    exact sound.reserve record found
  quotas := sound.quotas

theorem RequestView.Sound.withRow {row : BillingAdjustment}
    (sound : view.Sound scope) (carries : scope.Carries row)
    (quotas : 0 ≤ row.reservationQuota ∧ 0 ≤ row.chargeQuota) :
    Sound scope { view with row := some row } where
  carries := by
    intro stored located
    cases located
    exact carries
  owner := sound.owner
  reserve := sound.reserve
  quotas := by
    intro stored located
    cases located
    exact quotas

private theorem closed_keeps (now : Int) (record : WalletPreConsumeRecord) :
    (record.closed now).userID = record.userID ∧ (record.closed now).amount = record.amount ∧
      (record.closed now).collected = record.collected := by
  unfold WalletPreConsumeRecord.closed
  split <;> exact ⟨rfl, rfl, rfl⟩

private theorem returned_keeps (now : Int) (record : WalletPreConsumeRecord) :
    (record.returned now).userID = record.userID ∧ (record.returned now).amount = record.amount ∧
      (record.returned now).collected = record.collected := by
  unfold WalletPreConsumeRecord.returned
  split <;> exact ⟨rfl, rfl, rfl⟩

variable {req : BillingAdjustmentRequest}

section

variable (sound : (scope.view db).Sound scope)
include sound

theorem settlesRow_sound {row : BillingAdjustment} (sends : scope.Sends req) (valid : req.Valid)
    (settles : SettlesRow scope db now req row) :
    scope.Carries row ∧ 0 ≤ row.reservationQuota ∧ 0 ≤ row.chargeQuota := by
  rcases settles with found | ⟨_, rfl⟩
  · exact ⟨sound.carries row found, sound.quotas row found⟩
  · exact ⟨sends.carries_pendingRow now _, valid.reservation, valid.charge⟩

theorem reserve_sound {amount debited : Int}
    (done :
      reserveWalletPreConsume db now scope.requestID scope.userID amount = .ok (debited, after)) :
    (scope.view after).Sound scope := by
  obtain ⟨positive, _, ⟨_, _, view⟩ | ⟨record, found, _, _, view⟩⟩ :=
    reserveWalletPreConsume_spec done
  · rw [view]
    exact sound.withRecord rfl ⟨by dsimp only [openedWalletPreConsume]; omega, Int.le_refl 0⟩
  · rw [view]
    exact sound.withRecord (sound.owner record found) (sound.reserve record found)

theorem reserveTrusted_sound {amount : Int}
    (done : reserveTrustedWalletPreConsume db now scope.requestID scope.userID amount = .ok after) :
    (scope.view after).Sound scope := by
  obtain ⟨positive, _, ⟨_, view⟩ | ⟨record, found, _, view⟩⟩ :=
    reserveTrustedWalletPreConsume_spec done
  · rw [view]
    exact sound.withRecord rfl ⟨by dsimp only [openedWalletPreConsume]; omega, Int.le_refl 0⟩
  · rw [view]
    exact sound.withRecord (sound.owner record found) (sound.reserve record found)

theorem increase_sound {delta : Int}
    (done : increaseWalletPreConsume db now scope.requestID scope.userID delta = .ok after) :
    (scope.view after).Sound scope := by
  obtain ⟨positive, _, record, found, owner, _, view⟩ := increaseWalletPreConsume_spec done
  obtain ⟨amount, collected⟩ := sound.reserve record found
  rw [view]
  refine sound.withRecord owner ⟨?_, collected⟩
  dsimp only
  split <;> omega

theorem markDelivered_sound (now : Int) :
    (scope.view (markWalletPreConsumeClientDelivered db now scope.requestID)).Sound scope := by
  rw [markWalletPreConsumeClientDelivered_spec.2]
  apply sound.mapRecord
  intro record
  split <;> exact ⟨rfl, rfl, rfl⟩

theorem refund_sound {requireExpired : Bool} {outcome : WalletRefundOutcome}
    (done : refundWalletPreConsume db now scope.requestID requireExpired = .ok (outcome, after)) :
    (scope.view after).Sound scope := by
  obtain ⟨refunded, _⟩ := refundWalletPreConsume_cases sound.owner done
  generalize scope.view after = final at refunded
  cases refunded with
  | alreadyRefunded => exact sound
  | @owned record found =>
    exact sound.withRecord (sound.owner record found) (sound.reserve record found)
  | @collected record found =>
    have amount := (sound.reserve record found).1
    exact sound.withRecord (sound.owner record found) ⟨amount, amount⟩
  | @dropped record found | @kept record found | @returned record found =>
    exact sound.withRecord (sound.owner record found) (sound.reserve record found)

theorem ensurePending_sound (sends : scope.Sends req)
    (done : ensurePendingBillingAdjustment db now req = .ok after) :
    (scope.view after).Sound scope := by
  obtain ⟨valid, ⟨row, settles, _, _, view⟩, _⟩ := ensurePendingBillingAdjustment_spec sends done
  obtain ⟨carries, quotas⟩ := settlesRow_sound sound sends valid settles
  rw [view]
  exact sound.withRow carries quotas

theorem apply_sound {outcome : ApplyOutcome} (nonempty : scope.requestID ≠ "")
    (sends : scope.Sends req) (done : applyBillingAdjustment db now req = .ok (outcome, after)) :
    (scope.view after).Sound scope := by
  obtain ⟨valid, applied, _⟩ := applyBillingAdjustment_cases sends nonempty sound.carries done
  generalize scope.view after = final at applied
  cases applied with
  | replayed => exact sound
  | settled settles =>
    obtain ⟨carries, quotas⟩ := settlesRow_sound sound sends valid settles
    exact (sound.mapRecord (closed_keeps now)).withRow (carries.settled now) quotas

theorem collectDelivered_sound {outcome : CollectOutcome} (nonempty : scope.requestID ≠ "")
    (sends : scope.Sends req)
    (done : collectDeliveredBillingCharge db now req = .ok (outcome, after)) :
    (scope.view after).Sound scope := by
  obtain ⟨valid, collected, _⟩ :=
    collectDeliveredBillingCharge_cases sends nonempty sound.carries done
  generalize scope.view after = final at collected
  cases collected with
  | kept => exact sound
  | settled settles =>
    obtain ⟨carries, quotas⟩ := settlesRow_sound sound sends valid settles
    exact (sound.mapRecord (closed_keeps now)).withRow (carries.settled now) quotas
  | recharged found =>
    have carries := sends.carries_recharged (sound.carries _ found)
    exact (sound.mapRecord (closed_keeps now)).withRow (carries.settled now)
        ⟨valid.reservation, valid.charge⟩

theorem rollback_sound {actualQuota : Int} {writes : List CacheWrite}
    (done : rollbackBillingAdjustment db now scope.key actualQuota = .ok (writes, after)) :
    (scope.view after).Sound scope := by
  obtain ⟨rolled, _⟩ := rollbackBillingAdjustment_cases sound.carries done
  generalize scope.view after = final at rolled
  cases rolled with
  | kept => exact sound
  | @returned row found =>
    exact (sound.mapRecord (returned_keeps now)).withRow
        ((sound.carries row found).refunded now _) (sound.quotas row found)
  | @reversed row found =>
    have credited : ((scope.view db).returnCharge row).Sound scope :=
      ⟨sound.carries, sound.owner, sound.reserve, sound.quotas⟩
    exact credited.withRow ((sound.carries row found).refunded now _) (sound.quotas row found)

theorem refundReservation_sound {req : BillingReservationRefund} {writes : List CacheWrite}
    (returns : scope.Returns req)
    (done : refundBillingReservation db now req = .ok (writes, after)) :
    (scope.view after).Sound scope := by
  obtain ⟨reservation, refunded, _⟩ := refundBillingReservation_cases returns sound.carries done
  generalize scope.view after = final at refunded
  cases refunded with
  | kept => exact sound
  | @returned row located =>
    rcases located with found | ⟨_, rfl⟩
    · exact
        (sound.mapRecord (returned_keeps now)).withRow ((sound.carries row found).refunded now _)
          (sound.quotas row found)
    · exact (sound.mapRecord (returned_keeps now)).withRow
          ((returns.carries_pendingRow now _).refunded now _)
          ⟨reservation, Int.le_refl 0⟩

end

private theorem after_sound {α : Type} {state : LedgerState}
    {transaction : Except BillingError (α × Database)} (before : (scope.view state.db).Sound scope)
    (kept : ∀ outcome next, transaction = .ok (outcome, next) → (scope.view next).Sound scope) :
    (scope.view (state.after transaction).db).Sound scope := by
  cases done : transaction with
  | ok result => exact kept result.1 result.2 done
  | error err => exact before

/-- One step keeps the rows of the request sound. -/
theorem WalletStep.run_sound (nonempty : scope.requestID ≠ "") (state : LedgerState)
    (step : WalletStep) (addressed : step.Addressed scope)
    (sound : (scope.view state.db).Sound scope) :
    (scope.view (step.run scope state).db).Sound scope := by
  cases step with
  | reserve now amount =>
    simp only [run]
    split
    · rename_i done
      exact reserve_sound sound done
    · exact sound
  | reserveTrusted now amount =>
    exact @commit_invariant _ _ (fun db => (scope.view db).Sound scope) _ _ sound
        (fun _ done => reserveTrusted_sound sound done)
  | increase now delta =>
    simp only [run]
    split
    · rename_i done
      exact increase_sound sound done
    · exact sound
  | markDelivered now => exact markDelivered_sound sound now
  | refund now | recoverExpired now =>
    exact after_sound sound (fun _ _ done => refund_sound sound done)
  | ensurePending now req =>
    exact @commit_invariant _ _ (fun db => (scope.view db).Sound scope) _ _ sound
        (fun _ done => ensurePending_sound sound addressed done)
  | apply now req =>
    exact after_sound sound (fun _ _ done => apply_sound sound nonempty addressed done)
  | rollback now actualQuota => exact after_sound sound (fun _ _ done => rollback_sound sound done)
  | refundReservation now req =>
    exact after_sound sound (fun _ _ done => refundReservation_sound sound addressed done)
  | collectDelivered now req =>
    exact after_sound sound (fun _ _ done => collectDelivered_sound sound nonempty addressed done)

abbrev AddressedRun (scope : RequestScope) (start : Database) (steps : List WalletStep) :
    Prop :=
  GuardedRun (WalletStep.run scope) (fun _ step => step.Addressed scope) ⟨start, 0⟩ steps

theorem RequestScope.Fresh.sound {start : Database} (fresh : scope.Fresh start) :
    (scope.view start).Sound scope := by
  refine ⟨?_, ?_, ?_, ?_⟩
  · intro row found
    rw [fresh.noRow] at found
    cases found
  · intro record found
    rw [fresh.noRecord] at found
    cases found
  · intro record found
    rw [fresh.noRecord] at found
    cases found
  · intro row found
    rw [fresh.noRow] at found
    cases found

theorem addressedRun_sound {start : Database} {steps : List WalletStep}
    (fresh : scope.Fresh start) (run : AddressedRun scope start steps) :
    (scope.view (walletFinal scope start steps).db).Sound scope :=
  @GuardedRun.invariant _ _ _ _ (fun state : LedgerState => (scope.view state.db).Sound scope)
    (run_sound fresh.nonempty) _ _ run fresh.sound

end Reachable

/-! ## Whole runs -/

section Runs

variable {scope : RequestScope} {db : Database} {cache : QuotaCache}

private theorem after_follows_iff {α : Type} {state : LedgerState}
    {transaction : Except BillingError (α × Database)}
    {write : α → Database → QuotaCache} {covered : Prop} (commits : transaction.isOk = true)
    (follows : ∀ outcome next, transaction = .ok (outcome, next) →
        ((write outcome next).Follows scope next ↔ covered)) :
    (cache.after transaction write).Follows scope (state.after transaction).db ↔ covered := by
  cases done : transaction with
  | ok result => exact follows result.1 result.2 done
  | error err =>
    rw [done] at commits
    cases commits

/-- The cache follows a step exactly when its writes cover it. -/
theorem WalletStep.follows_iff (nonempty : scope.requestID ≠ "") (positive : 0 < scope.userID)
    (state : LedgerState) (step : WalletStep) (sound : (scope.view state.db).Sound scope)
    (addressed : step.Addressed scope) (commits : step.Commits scope state.db)
    (cached : cache scope.userID = some (scope.view state.db).quota) :
    (step.cacheAfter scope state.db cache).Follows scope (step.run scope state).db ↔
      step.CacheCovered scope state.db := by
  cases step with
  | reserve now amount =>
    refine iff_of_true (Or.inl ?_) trivial
    simp only [run, cacheAfter]
    cases done : reserveWalletPreConsume state.db now scope.requestID scope.userID amount with
    | error err => exact cached
    | ok result =>
      obtain ⟨amountPositive, _, ⟨_, debited, view⟩ | ⟨_, _, _, debited, view⟩⟩ :=
        @reserveWalletPreConsume_spec scope state.db result.2 now amount result.1 done
      · dsimp only [QuotaCache.after]
        rw [debited, view]
        exact QuotaCache.syncDebitedUserQuotaCache_self positive cached (by omega)
      · dsimp only [QuotaCache.after]
        rw [debited, view,
          QuotaCache.syncDebitedUserQuotaCache_self positive cached (Int.le_refl 0)]
        simp
  | reserveTrusted now amount =>
    refine iff_of_true (Or.inl ?_) trivial
    simp only [run, cacheAfter]
    cases done :
        reserveTrustedWalletPreConsume state.db now scope.requestID scope.userID amount with
    | error err => exact cached
    | ok next =>
      obtain ⟨_, _, ⟨_, view⟩ | ⟨_, _, _, view⟩⟩ :=
        @reserveTrustedWalletPreConsume_spec scope state.db next now amount done
      · rw [commit_ok, view]
        exact cached
      · rw [commit_ok, view]
        exact cached
  | increase now delta =>
    refine iff_of_true (Or.inl ?_) trivial
    simp only [run, cacheAfter]
    cases done : increaseWalletPreConsume state.db now scope.requestID scope.userID delta with
    | error err => exact cached
    | ok next =>
      obtain ⟨deltaPositive, _, _, _, _, _, view⟩ :=
        @increaseWalletPreConsume_spec scope state.db next now delta done
      rw [view]
      exact QuotaCache.syncDebitedUserQuotaCache_self positive cached (by omega)
  | markDelivered now =>
    refine iff_of_true (Or.inl ?_) trivial
    simp only [run, cacheAfter]
    rw [markWalletPreConsumeClientDelivered_spec.2]
    exact cached
  | refund now | recoverExpired now =>
    exact after_follows_iff commits (fun _ _ done => refund_follows_iff sound positive cached done)
  | ensurePending now req =>
    refine iff_of_true (Or.inl ?_) trivial
    simp only [run, cacheAfter]
    cases done : ensurePendingBillingAdjustment state.db now req with
    | error err => exact cached
    | ok next =>
      obtain ⟨_, ⟨_, _, _, _, view⟩, _⟩ := ensurePendingBillingAdjustment_spec addressed done
      rw [commit_ok, view]
      exact cached
  | apply now req =>
    exact after_follows_iff commits
        (fun _ _ done => apply_follows_iff sound nonempty positive cached addressed done)
  | rollback now actualQuota =>
    exact
      after_follows_iff commits (fun _ _ done => rollback_follows_iff sound positive cached done)
  | refundReservation now req =>
    exact after_follows_iff commits
        (fun _ _ done => refundReservation_follows_iff sound positive cached addressed done)
  | collectDelivered now req =>
    exact after_follows_iff commits
        (fun _ _ done => collectDelivered_follows_iff sound nonempty positive cached addressed done)

theorem WalletStep.cacheAfter_none (step : WalletStep) (gone : cache scope.userID = none) :
    (step.cacheAfter scope db cache) scope.userID = none := by
  have after :
      ∀ {α : Type} (transaction : Except BillingError (α × Database))
        (write : α → Database → QuotaCache),
        (∀ outcome next, (write outcome next) scope.userID = none) →
          (cache.after transaction write) scope.userID = none := by
    intro α transaction write written
    cases transaction with
    | ok result => exact written result.1 result.2
    | error err => exact gone
  cases step with
  | reserve now amount =>
    exact after _ _
        (fun debited _ => QuotaCache.syncDebitedUserQuotaCache_none scope.userID debited gone)
  | increase now delta =>
    simp only [cacheAfter]
    cases increaseWalletPreConsume db now scope.requestID scope.userID delta with
    | ok next => exact QuotaCache.syncDebitedUserQuotaCache_none scope.userID delta gone
    | error err => exact gone
  | refund now | recoverExpired now =>
    exact after _ _ (fun outcome next => QuotaCache.afterRefund_none next outcome gone)
  | apply now req =>
    exact after _ _ (fun outcome next => QuotaCache.performAll_none next gone outcome.cache)
  | rollback now actualQuota | refundReservation now req =>
    exact after _ _ (fun writes next => QuotaCache.performAll_none next gone writes)
  | collectDelivered now req =>
    exact after _ _ (fun outcome next => QuotaCache.performAll_none next gone outcome.cache)
  | reserveTrusted now amount | markDelivered now | ensurePending now req => exact gone

private theorem failed_idle {α : Type} {state : LedgerState}
    {transaction : Except BillingError (α × Database)}
    {write : α → Database → QuotaCache} (fails : ¬transaction.isOk = true) :
    (state.after transaction).db = state.db ∧ cache.after transaction write = cache := by
  cases transaction with
  | error err => exact ⟨rfl, rfl⟩
  | ok result => exact absurd rfl fails

/-- A step that fails writes neither the ledger nor the cache. -/
theorem WalletStep.cacheAfter_failed (state : LedgerState) (step : WalletStep)
    (fails : ¬step.Commits scope state.db) :
    (step.run scope state).db = state.db ∧ step.cacheAfter scope state.db cache = cache := by
  cases step with
  | markDelivered now => exact absurd trivial fails
  | reserve now amount =>
    simp only [Commits] at fails
    simp only [run, cacheAfter]
    cases done : reserveWalletPreConsume state.db now scope.requestID scope.userID amount with
    | error err => exact ⟨rfl, rfl⟩
    | ok result =>
      rw [done] at fails
      exact absurd rfl fails
  | reserveTrusted now amount =>
    simp only [Commits] at fails
    simp only [run, cacheAfter]
    cases done :
        reserveTrustedWalletPreConsume state.db now scope.requestID scope.userID amount with
    | error err => exact ⟨rfl, trivial⟩
    | ok next =>
      rw [done] at fails
      exact absurd rfl fails
  | increase now delta =>
    simp only [Commits] at fails
    simp only [run, cacheAfter]
    cases done : increaseWalletPreConsume state.db now scope.requestID scope.userID delta with
    | error err => exact ⟨rfl, rfl⟩
    | ok next =>
      rw [done] at fails
      exact absurd rfl fails
  | refund now | recoverExpired now => exact failed_idle fails
  | ensurePending now req =>
    simp only [Commits] at fails
    simp only [run, cacheAfter]
    cases done : ensurePendingBillingAdjustment state.db now req with
    | error err => exact ⟨rfl, trivial⟩
    | ok next =>
      rw [done] at fails
      exact absurd rfl fails
  | apply now req | rollback now actualQuota | refundReservation now req
  | collectDelivered now req => exact failed_idle fails

theorem execute_runCached_ledger (scope : RequestScope) :
    ∀ (steps : List WalletStep) (state : CachedState),
      (execute (runCached scope) state steps).ledger =
        execute (run scope) state.ledger steps
  | [], _ => rfl
  | step :: rest, state => by
      rw [execute_cons, execute_cons]
      exact execute_runCached_ledger scope rest (step.runCached scope state)

/-- The tables of the request are sound and the cached balance is either exact
or gone. -/
structure CachedState.InStep (scope : RequestScope) (state : CachedState) : Prop where
  sound : (scope.view state.ledger.db).Sound scope
  follows : state.cache.Follows scope state.ledger.db

theorem WalletStep.runCached_inStep (nonempty : scope.requestID ≠ "") (positive : 0 < scope.userID)
    (state : CachedState) (step : WalletStep) (addressed : step.Addressed scope)
    (covered : step.CacheCovered scope state.ledger.db) (before : state.InStep scope) :
    (step.runCached scope state).InStep scope := by
  refine ⟨step.run_sound nonempty state.ledger addressed before.sound, ?_⟩
  by_cases commits : step.Commits scope state.ledger.db
  · rcases before.follows with exact' | gone
    · exact (step.follows_iff nonempty positive state.ledger before.sound
          addressed commits exact').mpr covered
    · exact Or.inr (step.cacheAfter_none gone)
  · obtain ⟨sameTables, sameCache⟩ := @cacheAfter_failed scope state.cache state.ledger step commits
    simp only [runCached]
    rw [sameTables, sameCache]
    exact before.follows

/-- From every reachable state of the request and with a cached balance that is
exact, the cache follows a committed step precisely when the step is covered;
hence it follows every run of covered steps. -/
theorem quotaCache_follows_iff_covered
    (scope : RequestScope) (start : Database) (steps : List WalletStep)
    (fresh : scope.Fresh start) (positive : 0 < scope.userID)
    (run : AddressedRun scope start steps) :
    (∀ (cache : QuotaCache) (step : WalletStep), step.Addressed scope →
        step.Commits scope (walletFinal scope start steps).db →
        cache scope.userID = some (scope.view (walletFinal scope start steps).db).quota →
        ((step.cacheAfter scope (walletFinal scope start steps).db cache).Follows scope
            (step.run scope (walletFinal scope start steps)).db ↔
          step.CacheCovered scope (walletFinal scope start steps).db)) ∧
      ∀ cache : QuotaCache, cache scope.userID = some (scope.view start).quota →
        GuardedRun (WalletStep.runCached scope)
          (fun state step => step.Addressed scope ∧ step.CacheCovered scope state.ledger.db)
          ⟨⟨start, 0⟩, cache⟩ steps →
        (execute (WalletStep.runCached scope) ⟨⟨start, 0⟩, cache⟩ steps).cache.Follows scope
          (walletFinal scope start steps).db := by
  constructor
  · intro cache step addressed commits cached
    exact step.follows_iff fresh.nonempty positive _
        (addressedRun_sound fresh run) addressed commits cached
  · intro cache cached covered
    have final :=
      @GuardedRun.invariant _ _ _ _ (CachedState.InStep scope)
        (fun state step allowed =>
          step.runCached_inStep fresh.nonempty positive state allowed.1 allowed.2)
        _ _ covered ⟨fresh.sound, Or.inl cached⟩
    have follows := final.follows
    rw [execute_runCached_ledger] at follows
    exact follows

/-- An estimate of 10 that is settled with a charge of 7. -/
theorem quotaCache_follows_settledEstimate :
    (execute (WalletStep.runCached .sample) ⟨⟨Database.sample, 0⟩, fun _ => some 100⟩
        [.reserve 0 10, .apply 1 (sampleCharge 10 7)]).cache.Follows .sample
      (walletFinal .sample Database.sample [.reserve 0 10, .apply 1 (sampleCharge 10 7)]).db := by
  have run : AddressedRun .sample Database.sample [.reserve 0 10, .apply 1 (sampleCharge 10 7)] :=
    ⟨trivial, sampleCharge_sends 10 7, trivial⟩
  refine (quotaCache_follows_iff_covered .sample Database.sample
      [.reserve 0 10, .apply 1 (sampleCharge 10 7)] sample_fresh (by decide)
      run).2 (fun _ => some 100) rfl
      ⟨⟨trivial, trivial⟩, ⟨sampleCharge_sends 10 7, ?_⟩, trivial⟩
  exact Or.inr (Or.inr (Or.inl ⟨Or.inl (by decide), Or.inr (by decide)⟩))

/-- A trusted estimate of 10 is collected by the recovery and then settled with
a charge of 7: the wallet gets 3 back while the cached balance pays 7 more. -/
theorem quotaCache_leaves_collectedEstimate :
    ¬∀ (steps : List WalletStep) (cache : QuotaCache) (step : WalletStep),
        AddressedRun .sample Database.sample steps →
        step.Addressed .sample →
        step.Commits .sample (walletFinal .sample Database.sample steps).db →
        cache 1 =
          some (RequestScope.sample.view (walletFinal .sample Database.sample steps).db).quota →
        (step.cacheAfter .sample (walletFinal .sample Database.sample steps).db cache).Follows
          .sample
          (step.run .sample (walletFinal .sample Database.sample steps)).db := by
  intro claimed
  have followed :=
    claimed [.reserveTrusted 0 10, .markDelivered 1, .recoverExpired 200]
      (fun _ => some 90) (.apply 201 (sampleCharge 0 7))
      ⟨trivial, trivial, trivial, trivial⟩ (sampleCharge_sends 0 7) rfl rfl
  rcases followed with exact' | gone
  · exact absurd exact' (by decide)
  · exact absurd gone (by decide)

end Runs

end NewApi.Billing
