import Mathlib.Logic.Function.Basic
import NewApi.Billing.WalletSettlement

/-!
# The ledger seen from a subscription

A `UsageView` holds what the transactions of subscription-funded requests see:
the subscription, and the reserve and ledger rows as functions of their keys.
The lemmas give the usage that each transaction leaves and the rows it writes.
-/

namespace NewApi.Billing

open Transactions KeyedTable Database BillingAdjustment

structure UsageView where
  sub : Option UserSubscription
  /-- The ids of all subscriptions, in table order. -/
  ids : List Int
  plans : Int → Option SubscriptionPlan
  records : String → Option SubscriptionPreConsumeRecord
  rows : String → Option BillingAdjustment

namespace Database

def usageView (db : Database) (id : Int) : UsageView where
  sub := db.subscriptions.lookup id
  ids := db.subscriptions.rows.map UserSubscription.id
  plans := db.plans.lookup
  records := db.subscriptionPreConsumes.lookup
  rows := db.billingAdjustments.lookup

end Database

namespace UsageView

def setUsed (view : UsageView) (used : Int) : UsageView :=
  { view with sub := view.sub.map (fun sub => { sub with amountUsed := used }) }

def setRecord (view : UsageView) (record : SubscriptionPreConsumeRecord) : UsageView :=
  { view with records := Function.update view.records record.requestId (some record) }

def setRow (view : UsageView) (row : BillingAdjustment) : UsageView :=
  { view with rows := Function.update view.rows row.idempotencyKey (some row) }

variable (view : UsageView)

@[simp]
theorem setUsed_sub (used : Int) :
    (view.setUsed used).sub = view.sub.map (fun sub => { sub with amountUsed := used }) :=
  rfl

@[simp]
theorem setUsed_records (used : Int) : (view.setUsed used).records = view.records := rfl

@[simp]
theorem setRecord_sub (record : SubscriptionPreConsumeRecord) :
    (view.setRecord record).sub = view.sub :=
  rfl

@[simp]
theorem setRecord_records_self (record : SubscriptionPreConsumeRecord) :
    (view.setRecord record).records record.requestId = some record := by
  simp [setRecord]

@[simp]
theorem setRow_sub (row : BillingAdjustment) : (view.setRow row).sub = view.sub := rfl

@[simp]
theorem setRow_records (row : BillingAdjustment) : (view.setRow row).records = view.records := rfl

@[simp]
theorem setRow_rows_self (row : BillingAdjustment) :
    (view.setRow row).rows row.idempotencyKey = some row := by
  simp [setRow]

theorem setRecord_records_of_ne {record : SubscriptionPreConsumeRecord} {requestID : String}
    (different : requestID ≠ record.requestId) :
    (view.setRecord record).records requestID = view.records requestID := by
  simp [setRecord, different]

theorem setRow_rows_of_ne {row : BillingAdjustment} {key : String}
    (different : key ≠ row.idempotencyKey) :
    (view.setRow row).rows key = view.rows key := by
  simp [setRow, different]

variable {view}

theorem setUsed_of_found {sub : UserSubscription} (found : view.sub = some sub) :
    view.setUsed sub.amountUsed = view := by
  obtain ⟨stored, ids, plans, records, rows⟩ := view
  cases found
  rfl

theorem setUsed_setUsed (first second : Int) :
    (view.setUsed first).setUsed second = view.setUsed second := by
  simp only [setUsed, Option.map_map]
  rfl

theorem setUsed_setRecord (record : SubscriptionPreConsumeRecord) (used : Int) :
    (view.setRecord record).setUsed used = (view.setUsed used).setRecord record :=
  rfl

theorem setRecord_setRecord {first second : SubscriptionPreConsumeRecord}
    (same : first.requestId = second.requestId) :
    (view.setRecord first).setRecord second = view.setRecord second := by
  simp only [setRecord, same, Function.update_idem]

end UsageView

section Statements

variable {db after : Database} {id : Int}

theorem usageView_saveSubscription {sub changed : UserSubscription}
    (found : (db.usageView id).sub = some sub) (sameId : changed.id = sub.id) :
    (db.saveSubscription changed).usageView id = { db.usageView id with sub := some changed } := by
  have subId : sub.id = id := key_of_lookup found
  have located : db.subscriptions.lookup id = some sub := found
  have stored : (db.subscriptions.save changed).lookup id = some changed := by
    rw [lookup_save, if_pos (sameId.trans subId), located, Option.map_some]
  have ids : (db.subscriptions.save changed).rows.map UserSubscription.id =
        db.subscriptions.rows.map UserSubscription.id :=
    map_key_save db.subscriptions changed
  simp only [usageView, saveSubscription, stored, ids]

theorem usageView_saveUsed {sub : UserSubscription} {used : Int}
    (found : (db.usageView id).sub = some sub) :
    (db.saveSubscription { sub with amountUsed := used }).usageView id =
      (db.usageView id).setUsed used := by
  have saved := @usageView_saveSubscription db id sub { sub with amountUsed := used } found rfl
  rw [saved, UsageView.setUsed, found, Option.map_some]

theorem usageView_saveSubscriptionPreConsume {record old : SubscriptionPreConsumeRecord}
    (found : (db.usageView id).records record.requestId = some old) :
    (db.saveSubscriptionPreConsume record).usageView id = (db.usageView id).setRecord record := by
  have located : db.subscriptionPreConsumes.lookup record.requestId = some old := found
  have stored := lookup_save_eq_update located
  simp only [usageView, saveSubscriptionPreConsume, stored, UsageView.setRecord]

theorem usageView_saveBillingAdjustment {row old : BillingAdjustment}
    (found : (db.usageView id).rows row.idempotencyKey = some old) :
    (db.saveBillingAdjustment row).usageView id = (db.usageView id).setRow row := by
  have located : db.billingAdjustments.lookup row.idempotencyKey = some old := found
  have stored := lookup_save_eq_update located
  simp only [usageView, saveBillingAdjustment, stored, UsageView.setRow]

theorem usageView_createBillingAdjustment {row : BillingAdjustment}
    (done : db.createBillingAdjustment row = .ok after) :
    (db.usageView id).rows row.idempotencyKey = none ∧
      after.usageView id = (db.usageView id).setRow row := by
  unfold createBillingAdjustment at done
  split at done
  · cases done
  rename_i rows created
  cases done
  refine ⟨(lookup_create created).1, ?_⟩
  simp only [usageView, lookup_create_eq_update created, UsageView.setRow]

theorem usageView_tokenMoved {tokenID : Int} {update : Token → Token}
    (moved : TokenMoved db after tokenID update) :
    after.usageView id = db.usageView id := by
  obtain ⟨tokens, rfl, _⟩ := moved
  rfl

end Statements

/-! ## Usage changes -/

def refundUsed (lastResetTime used amount consumedAt : Int) : Int :=
  if amount ≤ 0 ∨
      subscriptionUsageClearedByReset lastResetTime consumedAt = true then
    used
  else max 0 (used - amount)

def shiftUsed (used delta : Int) : Int := if delta = 0 then used else max 0 (used + delta)

section UsageChanges

variable {db after : Database} {id : Int} {sub : UserSubscription}

theorem lockSubscriptionTx_of_found (found : (db.usageView id).sub = some sub) :
    lockSubscriptionTx db id = .ok sub := by
  have located : db.subscriptions.lookup id = some sub := found
  simp only [lockSubscriptionTx, located]

/-- The used amount moves by the change, down to zero. -/
theorem applyUserSubscriptionDeltaTx_spec {delta : Int} {allowOverdraft : Bool}
    (found : (db.usageView id).sub = some sub)
    (done : applyUserSubscriptionDeltaTx db sub delta allowOverdraft = .ok after) :
    after.usageView id = (db.usageView id).setUsed (max 0 (sub.amountUsed + delta)) := by
  rw [applyUserSubscriptionDeltaTx_cases done]
  exact usageView_saveUsed found

variable {amount : Int}

/-- Usage of an earlier period is not refunded. -/
theorem refundSubscriptionUsageIfCurrentPeriodTx_spec {consumedAt : Int}
    (found : (db.usageView id).sub = some sub)
    (done : refundSubscriptionUsageIfCurrentPeriodTx db id amount consumedAt = .ok after) :
    0 ≤ amount ∧
      after.usageView id =
        (db.usageView id).setUsed
          (refundUsed sub.lastResetTime sub.amountUsed amount consumedAt) := by
  unfold refundSubscriptionUsageIfCurrentPeriodTx at done
  split at done
  · cases done
    refine ⟨by omega, ?_⟩
    rw [refundUsed, if_pos (Or.inl (by omega)), UsageView.setUsed_of_found found]
  · split at done
    · cases done
    split at done
    · cases done
    rw [lockSubscriptionTx_of_found found] at done
    obtain ⟨_, locked, done⟩ := bind_ok_iff.mp done
    cases locked
    refine ⟨by omega, ?_⟩
    split at done
    · rename_i cleared
      cases done
      rw [refundUsed, if_pos (Or.inr cleared), UsageView.setUsed_of_found found]
    · rename_i current
      rw [applyUserSubscriptionDeltaTx_spec found done, refundUsed,
        if_neg (by
          rintro (nothing | cleared)
          · omega
          · exact current cleared)]
      rfl

theorem refundPositiveUsageTx_spec {consumedAt : Int} (found : (db.usageView id).sub = some sub)
    (done : refundPositiveUsageTx db id amount consumedAt = .ok after) :
    after.usageView id =
      (db.usageView id).setUsed
        (refundUsed sub.lastResetTime sub.amountUsed amount consumedAt) := by
  unfold refundPositiveUsageTx at done
  split at done
  · exact (refundSubscriptionUsageIfCurrentPeriodTx_spec found done).2
  · rename_i nothing
    cases done
    rw [refundUsed, if_pos (Or.inl (Int.not_lt.mp nothing)), UsageView.setUsed_of_found found]

structure ReserveOn (id : Int) (requestID : String) (record : SubscriptionPreConsumeRecord) :
    Prop where
  nonempty : requestID ≠ ""
  request : record.requestId = requestID
  subscription : record.userSubscriptionId = id
  createdAt : 0 < record.createdAt

variable {requestID : String} {record : SubscriptionPreConsumeRecord}

section

variable (nonempty : requestID ≠ "") (found : (db.usageView id).records requestID = some record)
include nonempty found

theorem lockSubscriptionPreConsumeRecordTx_of_found :
    lockSubscriptionPreConsumeRecordTx db requestID = some record := by
  rw [lockSubscriptionPreConsumeRecordTx, if_neg nonempty]
  exact found

theorem subscriptionPreConsumeCreatedAtTx_of_found :
    subscriptionPreConsumeCreatedAtTx db requestID = record.createdAt := by
  simp only [subscriptionPreConsumeCreatedAtTx,
    lockSubscriptionPreConsumeRecordTx_of_found nonempty found]

theorem subscriptionPostResetReservedTx_spec {posted : Int}
    (done : subscriptionPostResetReservedTx db requestID = .ok posted) :
    posted = record.postResetReserved ∧ 0 ≤ posted := by
  simp only [subscriptionPostResetReservedTx,
    lockSubscriptionPreConsumeRecordTx_of_found nonempty found] at done
  split at done
  · cases done
  cases done
  exact ⟨rfl, by omega⟩

end

variable (found : (db.usageView id).sub = some sub)
  (present : (db.usageView id).records requestID = some record)
  (reserve : ReserveOn id requestID record)

include found present reserve

/-- What is reserved after a reset is noted on the record. -/
theorem reserveUserSubscriptionDelta_spec {delta : Int}
    (done : reserveUserSubscriptionDelta db requestID id delta = .ok after) :
    0 ≤ delta ∧
      after.usageView id =
        ((db.usageView id).setRecord
            (if subscriptionUsageClearedByReset sub.lastResetTime record.createdAt then
              { record with postResetReserved := record.postResetReserved + delta }
            else
              record)).setUsed (shiftUsed sub.amountUsed delta) := by
  have unchanged : (db.usageView id).setRecord record = db.usageView id := by
    rw [UsageView.setRecord, reserve.request, ← present, Function.update_eq_self]
  unfold reserveUserSubscriptionDelta at done
  split at done
  · cases done
  split at done
  · rename_i zero
    cases done
    refine ⟨by omega, ?_⟩
    have same :
        (if subscriptionUsageClearedByReset sub.lastResetTime record.createdAt then
            { record with postResetReserved := record.postResetReserved + delta }
          else
            record) = record := by
      split
      · rw [zero, Int.add_zero]
      · rfl
    rw [same, unchanged, shiftUsed, if_pos zero, UsageView.setUsed_of_found found]
  · rename_i nonzero
    split at done
    · cases done
    refine ⟨by omega, ?_⟩
    unfold reserveUserSubscriptionDeltaTx at done
    simp only [lockSubscriptionPreConsumeRecordTx_of_found reserve.nonempty present,
      lockSubscriptionTx_of_found found] at done
    obtain ⟨_, locked, done⟩ := bind_ok_iff.mp done
    cases locked
    rw [shiftUsed, if_neg nonzero]
    split at done
    · rename_i cleared
      split at done
      · cases done
      have saved :=
        @usageView_saveSubscriptionPreConsume db id
          { record with postResetReserved := record.postResetReserved + delta }
          record (by
            rw [reserve.request]
            exact present)
      have stillFound :
          ((db.saveSubscriptionPreConsume
            { record with
              postResetReserved := record.postResetReserved + delta }).usageView id).sub =
            some sub := by
        exact found
      rw [applyUserSubscriptionDeltaTx_spec stillFound done, saved, if_pos cleared]
    · rename_i current
      rw [applyUserSubscriptionDeltaTx_spec found done, if_neg current, unchanged]

/-- After a reset only the extra reserved since comes back. -/
theorem refundSubscriptionReservedExtra_spec {extra removed : Int} (positive : 0 < extra)
    (done : refundSubscriptionReservedExtra db requestID id extra = .ok (removed, after)) :
    (if subscriptionUsageClearedByReset sub.lastResetTime record.createdAt then
        0 ≤ record.postResetReserved ∧ removed = min record.postResetReserved extra ∧
          after.usageView id =
            ((db.usageView id).setRecord
              { record with postResetReserved := record.postResetReserved - removed }).setUsed
              (shiftUsed sub.amountUsed (-removed))
      else
        removed = extra ∧
          after.usageView id =
            (db.usageView id).setUsed (shiftUsed sub.amountUsed (-removed))) := by
  unfold refundSubscriptionReservedExtra at done
  rw [if_neg (by omega)] at done
  split at done
  · cases done
  unfold refundSubscriptionReservedExtraTx at done
  rw [if_neg (by omega)] at done
  simp only [lockSubscriptionPreConsumeRecordTx_of_found reserve.nonempty present,
    lockSubscriptionTx_of_found found] at done
  obtain ⟨_, locked, done⟩ := bind_ok_iff.mp done
  cases locked
  split at done
  · rename_i cleared
    rw [if_pos cleared]
    split at done
    · cases done
    obtain ⟨⟨amount, mid⟩, posted, done⟩ := bind_ok_iff.mp done
    cases posted
    have saved :=
      @usageView_saveSubscriptionPreConsume db id
        { record with
          postResetReserved := record.postResetReserved - min record.postResetReserved extra }
        record (by
          rw [reserve.request]
          exact present)
    refine ⟨by omega, ?_⟩
    dsimp only at done
    split at done
    · rename_i zero
      cases done
      refine ⟨zero.symm, ?_⟩
      rw [saved, zero, shiftUsed, if_pos (by omega)]
      exact (UsageView.setUsed_of_found (by exact found)).symm
    · obtain ⟨final, shifted, done⟩ := bind_ok_iff.mp done
      cases done
      refine ⟨rfl, ?_⟩
      rw [shiftUsed, if_neg (by omega), ← saved]
      refine applyUserSubscriptionDeltaTx_spec ?_ shifted
      exact found
  · rename_i current
    rw [if_neg current]
    obtain ⟨⟨amount, mid⟩, posted, done⟩ := bind_ok_iff.mp done
    cases posted
    rw [if_neg (by omega)] at done
    obtain ⟨final, shifted, done⟩ := bind_ok_iff.mp done
    cases done
    refine ⟨rfl, ?_⟩
    rw [shiftUsed, if_neg (by omega)]
    exact applyUserSubscriptionDeltaTx_spec found shifted

theorem closeSubscriptionPreConsumeTx_spec
    (done : closeSubscriptionPreConsumeTx db record amount = .ok after) :
    after.usageView id =
      ((db.usageView id).setUsed
          (refundUsed sub.lastResetTime sub.amountUsed amount record.createdAt)).setRecord
        { record with status := .refunded } := by
  obtain ⟨mid, refunded, done⟩ := bind_ok_iff.mp done
  cases done
  rw [reserve.subscription] at refunded
  have view := refundPositiveUsageTx_spec found refunded
  have stillPresent :
      (mid.usageView id).records { record with status := .refunded }.requestId = some record := by
    rw [view, reserve.request]
    exact present
  rw [usageView_saveSubscriptionPreConsume stillPresent, view]

/-- A record is refunded once. -/
theorem refundSubscriptionPreConsumeTx_spec
    (done : refundSubscriptionPreConsumeTx db requestID = .ok after) :
    after.usageView id =
      if record.status = .refunded then db.usageView id
      else
        ((db.usageView id).setUsed
            (refundUsed sub.lastResetTime sub.amountUsed record.preConsumed
              record.createdAt)).setRecord
          { record with status := .refunded } := by
  have located : db.subscriptionPreConsumes.lookup requestID = some record := present
  unfold refundSubscriptionPreConsumeTx at done
  rw [if_neg reserve.nonempty] at done
  simp only [located] at done
  split at done
  · rename_i refunded
    cases done
    rw [if_pos refunded]
  · rename_i consumed
    rw [if_neg consumed]
    exact closeSubscriptionPreConsumeTx_spec found present reserve done

theorem rollbackSubscriptionPreConsumeSettlementTx_spec {actualQuota : Int}
    (done : rollbackSubscriptionPreConsumeSettlementTx db requestID actualQuota = .ok after) :
    after.usageView id =
      if record.status = .refunded then db.usageView id
      else
        ((db.usageView id).setUsed
            (refundUsed sub.lastResetTime sub.amountUsed actualQuota record.createdAt)).setRecord
          { record with status := .refunded } := by
  have located : db.subscriptionPreConsumes.lookup requestID = some record := present
  unfold rollbackSubscriptionPreConsumeSettlementTx at done
  rw [if_neg reserve.nonempty] at done
  simp only [located] at done
  split at done
  · cases done
  split at done
  · rename_i refunded
    cases done
    rw [if_pos refunded]
  · rename_i consumed
    rw [if_neg consumed]
    exact closeSubscriptionPreConsumeTx_spec found present reserve done

end UsageChanges

/-! ## Ledger movements -/

structure RowOn (id : Int) (requestID key : String) (row : BillingAdjustment) : Prop where
  key : row.idempotencyKey = key
  request : row.requestID = requestID
  source : row.source = .subscription
  subscription : row.subscriptionID = id

def settledUsed (sub : UserSubscription) (record : SubscriptionPreConsumeRecord)
    (row : BillingAdjustment) : Int :=
  let consumedAt :=
    if 0 < row.subscriptionConsumedAt then row.subscriptionConsumedAt
    else record.createdAt
  shiftUsed sub.amountUsed
    (if subscriptionUsageClearedByReset sub.lastResetTime consumedAt then
      row.chargeQuota - record.postResetReserved
    else row.fundingDelta)

def returnedUsed (sub : UserSubscription) (record : SubscriptionPreConsumeRecord)
    (extraReserved : Int) : Int :=
  let preConsume :=
    if record.status = .refunded then sub.amountUsed
    else
      refundUsed sub.lastResetTime sub.amountUsed record.preConsumed record.createdAt
  refundUsed sub.lastResetTime
    (refundUsed sub.lastResetTime preConsume
      (extraReserved - record.postResetReserved) record.createdAt)
    record.postResetReserved 0

def reversedUsed (sub : UserSubscription) (record : SubscriptionPreConsumeRecord)
    (row : BillingAdjustment) : Int :=
  let settlement :=
    if record.status = .refunded then sub.amountUsed
    else
      refundUsed sub.lastResetTime sub.amountUsed row.chargeQuota record.createdAt
  let appliedAt := if row.updatedAt ≤ 0 then row.createdAt else row.updatedAt
  if 0 < row.chargeQuota ∧
      subscriptionUsageClearedByReset sub.lastResetTime (subscriptionRefundConsumedAt row) = true ∧
      sub.lastResetTime ≤ appliedAt then
    max 0 (settlement - row.chargeQuota)
  else settlement

section LedgerMovements

variable {db after : Database} {id : Int} {sub : UserSubscription}
  {requestID key : String} {record : SubscriptionPreConsumeRecord}
  {row : BillingAdjustment} {now : Int}

/-- After a reset the charge is posted, less what was reserved since. -/
theorem applySubscriptionLedgerChargeTx_spec {delta charge consumedAt : Int}
    (found : (db.usageView id).sub = some sub)
    (present : (db.usageView id).records requestID = some record) (nonempty : requestID ≠ "")
    (done : applySubscriptionLedgerChargeTx db id delta charge consumedAt requestID = .ok after) :
    0 ≤ record.postResetReserved ∧
      after.usageView id =
        (db.usageView id).setUsed
          (shiftUsed sub.amountUsed
            (if subscriptionUsageClearedByReset sub.lastResetTime consumedAt then
              charge - record.postResetReserved
            else
              delta)) := by
  unfold applySubscriptionLedgerChargeTx at done
  split at done
  · cases done
  split at done
  · cases done
  obtain ⟨posted, postedDone, done⟩ := bind_ok_iff.mp done
  obtain ⟨rfl, nonnegative⟩ := subscriptionPostResetReservedTx_spec nonempty present postedDone
  rw [lockSubscriptionTx_of_found found] at done
  obtain ⟨_, locked, done⟩ := bind_ok_iff.mp done
  cases locked
  refine ⟨nonnegative, ?_⟩
  generalize
    (if subscriptionUsageClearedByReset sub.lastResetTime consumedAt then
        charge - record.postResetReserved
      else delta) = effective at done ⊢
  dsimp only at done
  split at done
  · rename_i zero
    cases done
    rw [shiftUsed, if_pos zero, UsageView.setUsed_of_found found]
  · rename_i nonzero
    rw [shiftUsed, if_neg nonzero]
    exact applyUserSubscriptionDeltaTx_spec found done

theorem clearSubscriptionPostResetReservedTx_spec
    (present : (db.usageView id).records requestID = some record)
    (reserve : ReserveOn id requestID record) :
    (clearSubscriptionPostResetReservedTx db requestID).usageView id =
      (db.usageView id).setRecord { record with postResetReserved := 0 } := by
  simp only [clearSubscriptionPostResetReservedTx,
    lockSubscriptionPreConsumeRecordTx_of_found reserve.nonempty present]
  refine
    @usageView_saveSubscriptionPreConsume db id { record with postResetReserved := 0 } record ?_
  rw [reserve.request]
  exact present

theorem refundSubscriptionUsageIfCurrentPeriodTx_ne_recordNotFound
    {amount consumedAt : Int} (found : (db.usageView id).sub = some sub) :
    refundSubscriptionUsageIfCurrentPeriodTx db id amount consumedAt ≠ .error .recordNotFound := by
  intro failed
  unfold refundSubscriptionUsageIfCurrentPeriodTx at failed
  rw [lockSubscriptionTx_of_found found] at failed
  split at failed
  · cases failed
  split at failed
  · cases failed
  split at failed
  · cases failed
  simp only [bind, Except.bind] at failed
  split at failed
  · cases failed
  unfold applyUserSubscriptionDeltaTx at failed
  rw [if_neg (by simp; omega)] at failed
  cases failed

theorem closeSubscriptionPreConsumeTx_ne_recordNotFound {amount : Int}
    (found : (db.usageView id).sub = some sub) (reserve : ReserveOn id requestID record) :
    closeSubscriptionPreConsumeTx db record amount ≠ .error .recordNotFound := by
  intro failed
  unfold closeSubscriptionPreConsumeTx refundPositiveUsageTx at failed
  rw [reserve.subscription] at failed
  split at failed
  · cases outcome : refundSubscriptionUsageIfCurrentPeriodTx db id amount record.createdAt with
    | ok next => simp [bind, Except.bind, outcome] at failed
    | error err =>
      simp only [bind, Except.bind, outcome] at failed
      cases failed
      exact refundSubscriptionUsageIfCurrentPeriodTx_ne_recordNotFound found outcome
  · simp [bind, Except.bind] at failed

variable (found : (db.usageView id).sub = some sub)
  (present : (db.usageView id).records requestID = some record)
  (reserve : ReserveOn id requestID record)
  (carries : RowOn id requestID key row)

include found present reserve carries

theorem applyBillingAdjustmentDeltas_usage {invalidate : Bool}
    (done : applyBillingAdjustmentDeltas db now row = .ok (invalidate, after)) :
    after.usageView id = (db.usageView id).setUsed (settledUsed sub record row) := by
  obtain ⟨⟨flag, paid⟩, fundingDone, done⟩ := bind_ok_iff.mp done
  obtain ⟨final, tokenDone, done⟩ := bind_ok_iff.mp done
  cases done
  simp only [applyFundingDelta, carries.source] at fundingDone
  obtain ⟨paid', chargeDone, fundingDone⟩ := bind_ok_iff.mp fundingDone
  cases fundingDone
  rw [usageView_tokenMoved (applyTokenDelta_spec tokenDone)]
  have createdAt := subscriptionPreConsumeCreatedAtTx_of_found reserve.nonempty present
  rw [carries.subscription, carries.request] at chargeDone
  have charged := (applySubscriptionLedgerChargeTx_spec found present reserve.nonempty chargeDone).2
  rw [charged, settledUsed, subscriptionLedgerConsumedAtTx, carries.request, createdAt]
  simp only [reserve.createdAt, if_true]

/-- A record is refunded once. -/
theorem refundReservedPreConsumeTx_spec {missing : Bool}
    (done : refundReservedPreConsumeTx db row = .ok (missing, after)) :
    missing = false ∧
      after.usageView id =
        ((db.usageView id).setUsed
          (if record.status = .refunded then sub.amountUsed
            else
              refundUsed sub.lastResetTime sub.amountUsed
                record.preConsumed record.createdAt)).setRecord
          { record with status := .refunded } := by
  unfold refundReservedPreConsumeTx at done
  rw [carries.request] at done
  split at done
  · rename_i next outcome
    cases done
    refine ⟨rfl, ?_⟩
    rw [refundSubscriptionPreConsumeTx_spec found present reserve outcome]
    split
    · rename_i refunded
      have same : { record with status := .refunded } = record := by rw [← refunded]
      rw [UsageView.setUsed_of_found found, same, UsageView.setRecord,
        reserve.request, ← present, Function.update_eq_self]
    · rfl
  · rename_i outcome
    have located : db.subscriptionPreConsumes.lookup requestID = some record := present
    unfold refundSubscriptionPreConsumeTx at outcome
    rw [if_neg reserve.nonempty] at outcome
    simp only [located] at outcome
    split at outcome
    · cases outcome
    exact absurd outcome (closeSubscriptionPreConsumeTx_ne_recordNotFound found reserve)
  · cases done

theorem refundPostedExtraTx_spec {posted : Int} (nonnegative : 0 ≤ posted)
    (postedEq : posted = record.postResetReserved)
    (done : refundPostedExtraTx db row posted = .ok after) :
    after.usageView id =
      ((db.usageView id).setUsed (refundUsed sub.lastResetTime sub.amountUsed posted 0)).setRecord
        { record with postResetReserved := 0 } := by
  unfold refundPostedExtraTx at done
  rw [carries.request, carries.subscription] at done
  split at done
  · obtain ⟨mid, refunded, done⟩ := bind_ok_iff.mp done
    cases done
    have view := (refundSubscriptionUsageIfCurrentPeriodTx_spec found refunded).2
    have stillPresent : (mid.usageView id).records requestID = some record := by
      rw [view]
      exact present
    rw [clearSubscriptionPostResetReservedTx_spec stillPresent reserve, view]
  · cases done
    have zero : record.postResetReserved = 0 := by omega
    have same : { record with postResetReserved := 0 } = record := by rw [← zero]
    rw [refundUsed, if_pos (Or.inl (by omega)), UsageView.setUsed_of_found found, same,
      UsageView.setRecord, reserve.request, ← present, Function.update_eq_self]

/-- The reserve and its extra come back together. -/
theorem creditSubscriptionReservationTx_spec
    (done : creditSubscriptionReservationTx db row = .ok after) :
    0 ≤ record.postResetReserved ∧ record.postResetReserved ≤ row.extraReserved ∧
      after.usageView id =
        ((db.usageView id).setUsed (returnedUsed sub record row.extraReserved)).setRecord
          { record with status := .refunded, postResetReserved := 0 } := by
  obtain ⟨⟨missing, first⟩, refunded, done⟩ := bind_ok_iff.mp done
  obtain ⟨rfl, firstView⟩ := refundReservedPreConsumeTx_spec found present reserve carries refunded
  let record' : SubscriptionPreConsumeRecord := { record with status := .refunded }
  have reserve' : ReserveOn id requestID record' :=
    ⟨reserve.nonempty, reserve.request, reserve.subscription, reserve.createdAt⟩
  have present' : (first.usageView id).records requestID = some record' := by
    rw [firstView, ← reserve.request]
    exact UsageView.setRecord_records_self _ record'
  have consumedAt : reservationConsumedAt first row false = record.createdAt := by
    rw [reservationConsumedAt, carries.request,
      subscriptionPreConsumeCreatedAtTx_of_found reserve.nonempty present']
    simp [record', reserve.createdAt]
  simp only [consumedAt] at done
  obtain ⟨posted, postedDone, done⟩ := bind_ok_iff.mp done
  rw [carries.request] at postedDone
  obtain ⟨postedEq, nonnegative⟩ :=
    subscriptionPostResetReservedTx_spec reserve.nonempty present' postedDone
  split at done
  · cases done
  rename_i enough
  obtain ⟨second, secondDone, done⟩ := bind_ok_iff.mp done
  cases secondDone
  obtain ⟨third, thirdDone, done⟩ := bind_ok_iff.mp done
  have found' := congrArg UsageView.sub firstView
  simp only [UsageView.setRecord_sub, UsageView.setUsed_sub, found, Option.map_some] at found'
  rw [carries.subscription] at thirdDone
  have thirdView := refundPositiveUsageTx_spec found' thirdDone
  have found'' := congrArg UsageView.sub thirdView
  simp only [UsageView.setUsed_sub, found', Option.map_some] at found''
  have present'' : (third.usageView id).records requestID = some record' := by
    rw [thirdView]
    exact present'
  have view := refundPostedExtraTx_spec found'' present'' reserve' carries nonnegative postedEq done
  refine ⟨by rw [postedEq] at nonnegative; exact nonnegative, ?_, ?_⟩
  · rw [postedEq] at enough
    exact Int.not_lt.mp enough
  · rw [view, thirdView, firstView, postedEq]
    simp only [UsageView.setUsed_setRecord, UsageView.setUsed_setUsed]
    exact UsageView.setRecord_setRecord rfl

omit present reserve in
theorem refundLedgerChargeAppliedAfterResetTx_spec (positive : 0 < id)
    (done : refundLedgerChargeAppliedAfterResetTx db row = .ok after) :
    after.usageView id =
      (db.usageView id).setUsed
        (if 0 < row.chargeQuota ∧
            subscriptionUsageClearedByReset sub.lastResetTime
              (subscriptionRefundConsumedAt row) = true ∧
            sub.lastResetTime ≤ (if row.updatedAt ≤ 0 then row.createdAt else row.updatedAt)
          then max 0 (sub.amountUsed - row.chargeQuota)
          else
            sub.amountUsed) := by
  unfold refundLedgerChargeAppliedAfterResetTx at done
  rw [carries.subscription] at done
  split at done
  · cases done
    rw [if_neg (by omega), UsageView.setUsed_of_found found]
  · rw [lockSubscriptionTx_of_found found] at done
    obtain ⟨_, locked, done⟩ := bind_ok_iff.mp done
    cases locked
    dsimp only at done
    generalize (if row.updatedAt ≤ 0 then row.createdAt else row.updatedAt) = appliedAt at done ⊢
    split at done
    · rename_i current
      cases done
      rw [if_neg (by
            intro condition
            simp [condition.2.1] at current),
          UsageView.setUsed_of_found found]
    · rename_i cleared
      split at done
      · cases done
        rw [if_neg (by omega), UsageView.setUsed_of_found found]
      · have clearedTrue :
            subscriptionUsageClearedByReset sub.lastResetTime
              (subscriptionRefundConsumedAt row) = true := by
          simpa using cleared
        rw [if_pos ⟨by omega, clearedTrue, by omega⟩]
        exact applyUserSubscriptionDeltaTx_spec found done

/-- A posted charge comes back. -/
theorem creditSubscriptionChargeTx_spec (positive : 0 < id)
    (done : creditSubscriptionChargeTx db row = .ok after) :
    after.usageView id =
      ((db.usageView id).setUsed (reversedUsed sub record row)).setRecord
        { record with status := .refunded } := by
  unfold creditSubscriptionChargeTx at done
  rw [carries.request] at done
  split at done
  · rename_i first outcome
    obtain ⟨_, firstDone, done⟩ := bind_ok_iff.mp done
    cases firstDone
    have firstView : first.usageView id =
          ((db.usageView id).setUsed
            (if record.status = .refunded then sub.amountUsed
              else
                refundUsed sub.lastResetTime sub.amountUsed row.chargeQuota
                  record.createdAt)).setRecord
            { record with status := .refunded } := by
      rw [rollbackSubscriptionPreConsumeSettlementTx_spec found present reserve outcome]
      split
      · rename_i refunded
        have same : { record with status := .refunded } = record := by rw [← refunded]
        rw [UsageView.setUsed_of_found found, same, UsageView.setRecord,
          reserve.request, ← present, Function.update_eq_self]
      · rfl
    have found' := congrArg UsageView.sub firstView
    simp only [UsageView.setRecord_sub, UsageView.setUsed_sub, found, Option.map_some] at found'
    rw [refundLedgerChargeAppliedAfterResetTx_spec found' carries positive done, firstView]
    rw [UsageView.setUsed_setRecord, UsageView.setUsed_setUsed]
    rfl
  · rename_i outcome
    have located : db.subscriptionPreConsumes.lookup requestID = some record := present
    unfold rollbackSubscriptionPreConsumeSettlementTx at outcome
    rw [if_neg reserve.nonempty] at outcome
    simp only [located] at outcome
    split at outcome
    · cases outcome
    split at outcome
    · cases outcome
    exact absurd outcome (closeSubscriptionPreConsumeTx_ne_recordNotFound found reserve)
  · obtain ⟨_, firstDone, _⟩ := bind_ok_iff.mp done
    cases firstDone

end LedgerMovements

/-! ## Ledger transactions -/

structure SendsOn (id : Int) (requestID key : String) (req : BillingAdjustmentRequest) :
    Prop where
  key : req.idempotencyKey = key
  request : req.requestID = requestID
  source : req.source = .subscription
  subscription : req.subscriptionID = id

structure ReturnsOn (id : Int) (requestID key : String) (req : BillingReservationRefund) :
    Prop where
  key : req.idempotencyKey = key
  request : req.requestID = requestID
  source : req.source = .subscription
  subscription : req.subscriptionID = id

section LedgerTransactions

variable {db after : Database} {id : Int} {sub : UserSubscription}
  {requestID key : String} {record : SubscriptionPreConsumeRecord}
  {row : BillingAdjustment} {req : BillingAdjustmentRequest} {now : Int}

theorem RowOn.settled (carries : RowOn id requestID key row) (now : Int) :
    RowOn id requestID key (row.settled now) :=
  ⟨carries.key, carries.request, carries.source, carries.subscription⟩

theorem RowOn.refunded (carries : RowOn id requestID key row) (now quota : Int) :
    RowOn id requestID key (row.refunded now quota) :=
  ⟨carries.key, carries.request, carries.source, carries.subscription⟩

theorem SendsOn.rowOn (sends : SendsOn id requestID key req) (now consumedAt : Int) :
    RowOn id requestID key (req.pendingRow now consumedAt) :=
  ⟨sends.key, sends.request, sends.source, sends.subscription⟩

variable {refund : BillingReservationRefund}

theorem ReturnsOn.rowOn (returns : ReturnsOn id requestID key refund) (now consumedAt : Int) :
    RowOn id requestID key (refund.pendingRow now consumedAt) :=
  ⟨returns.key, returns.request, returns.source, returns.subscription⟩

/-- The row under the key of a request, when there is one, belongs to it. -/
def UsageView.OwnsKey (view : UsageView) (id : Int) (requestID key : String) : Prop :=
  ∀ row, view.rows key = some row → RowOn id requestID key row

def SettlesUsage (view : UsageView) (now : Int) (record : SubscriptionPreConsumeRecord)
    (req : BillingAdjustmentRequest) (row : BillingAdjustment) : Prop :=
  view.rows req.idempotencyKey = some row ∨
    (view.rows req.idempotencyKey = none ∧ row = req.pendingRow now record.createdAt)

/-- The row of the key, or a new pending one. -/
theorem lockOrCreateBillingAdjustment_usage
    (present : (db.usageView id).records requestID = some record)
    (nonempty : requestID ≠ "") (sends : SendsOn id requestID key req)
    (done : lockOrCreateBillingAdjustment db now req = .ok (row, after)) :
    SettlesUsage (db.usageView id) now record req row ∧ row.idempotencyKey = key ∧
      after.usageView id = (db.usageView id).setRow row := by
  unfold lockOrCreateBillingAdjustment at done
  split at done
  · rename_i stored found
    cases done
    have located : (db.usageView id).rows req.idempotencyKey = some row := found
    have rowKey : row.idempotencyKey = req.idempotencyKey := key_of_lookup found
    refine ⟨Or.inl located, rowKey.trans sends.key, ?_⟩
    rw [UsageView.setRow, rowKey, ← located, Function.update_eq_self]
  · rw [sends.source, sends.request] at done
    simp only [subscriptionPreConsumeCreatedAtTx_of_found nonempty present] at done
    obtain ⟨mid, created, done⟩ := bind_ok_iff.mp done
    cases done
    obtain ⟨absent, view⟩ := usageView_createBillingAdjustment created
    exact ⟨Or.inr ⟨absent, rfl⟩, sends.key, view⟩

def UsageView.returnReservation (view : UsageView) (now : Int) (sub : UserSubscription)
    (record : SubscriptionPreConsumeRecord) (row : BillingAdjustment) :
    UsageView :=
  ((view.setUsed (returnedUsed sub record row.extraReserved)).setRecord
      { record with status := .refunded, postResetReserved := 0 }).setRow
    (row.refunded now row.reservationQuota)

def UsageView.returnCharge (view : UsageView) (now : Int) (sub : UserSubscription)
    (record : SubscriptionPreConsumeRecord) (row : BillingAdjustment) :
    UsageView :=
  ((view.setUsed (reversedUsed sub record row)).setRecord
      { record with status := .refunded }).setRow
    (row.refunded now row.chargeQuota)

inductive UsageRollbackCase (view : UsageView) (now : Int) (key : String) (sub : UserSubscription)
    (record : SubscriptionPreConsumeRecord) : UsageView → Prop
  | kept
      {row : BillingAdjustment}
      (found : view.rows key = some row)
      (rolledBack : row.status = .rolledBack) :
      UsageRollbackCase view now key sub record view
  | returned
      {row : BillingAdjustment}
      (found : view.rows key = some row)
      (pending : row.status = .pending)
      (nonnegative : 0 ≤ record.postResetReserved)
      (covered : record.postResetReserved ≤ row.extraReserved) :
      UsageRollbackCase view now key sub record (view.returnReservation now sub record row)
  | reversed
      {row : BillingAdjustment}
      (found : view.rows key = some row)
      (applied : row.status = .applied) :
      UsageRollbackCase view now key sub record (view.returnCharge now sub record row)

/-- The row a reservation refund of a subscription request works on. -/
def ReturnsUsage (view : UsageView) (now : Int) (record : SubscriptionPreConsumeRecord)
    (req : BillingReservationRefund) (row : BillingAdjustment) : Prop :=
  view.rows req.idempotencyKey = some row ∨
    (view.rows req.idempotencyKey = none ∧ row = req.pendingRow now record.createdAt)

inductive UsageReservationCase (view : UsageView) (now : Int) (sub : UserSubscription)
    (record : SubscriptionPreConsumeRecord) (req : BillingReservationRefund) : UsageView → Prop
  | kept
      {row : BillingAdjustment}
      (found : view.rows req.idempotencyKey = some row)
      (rolledBack : row.status = .rolledBack) :
      UsageReservationCase view now sub record req view
  | returned
      {row : BillingAdjustment}
      (returns : ReturnsUsage view now record req row)
      (pending : row.status = .pending)
      (nonnegative : 0 ≤ record.postResetReserved)
      (covered : record.postResetReserved ≤ row.extraReserved) :
      UsageReservationCase view now sub record req (view.returnReservation now sub record row)

inductive UsageApplyCase (view : UsageView) (now : Int) (sub : UserSubscription)
    (record : SubscriptionPreConsumeRecord) (req : BillingAdjustmentRequest) : UsageView → Prop
  | replayed
      {row : BillingAdjustment}
      (found : view.rows req.idempotencyKey = some row)
      (same : req.same row = true)
      (applied : row.status = .applied) :
      UsageApplyCase view now sub record req view
  | settled
      {row : BillingAdjustment}
      (settles : SettlesUsage view now record req row)
      (same : req.same row = true)
      (pending : row.status = .pending) :
      UsageApplyCase view now sub record req
        ((view.setUsed (settledUsed sub record row)).setRow (row.settled now))

variable (found : (db.usageView id).sub = some sub)
  (present : (db.usageView id).records requestID = some record)
  (reserve : ReserveOn id requestID record)

include found present reserve

theorem applyBillingAdjustment_usage {outcome : ApplyOutcome} (sends : SendsOn id requestID key req)
    (owns : (db.usageView id).OwnsKey id requestID key)
    (done : applyBillingAdjustment db now req = .ok (outcome, after)) :
    req.Valid ∧ UsageApplyCase (db.usageView id) now sub record req (after.usageView id) := by
  obtain ⟨_, checked, done⟩ := bind_ok_iff.mp done
  obtain ⟨⟨row, mid⟩, locked, done⟩ := bind_ok_iff.mp done
  refine ⟨BillingAdjustmentRequest.valid_of_validate checked, ?_⟩
  obtain ⟨settles, rowKey, lockedView⟩ :=
    lockOrCreateBillingAdjustment_usage present reserve.nonempty sends locked
  have carries : RowOn id requestID key row := by
    rcases settles with located | ⟨_, rfl⟩
    · rw [sends.key] at located
      exact owns row located
    · exact sends.rowOn now record.createdAt
  obtain ⟨same, done⟩ := BillingAdjustmentRequest.checked_same done
  split at done
  · rename_i applied
    cases done
    rcases settles with located | ⟨_, rfl⟩
    · rw [lockedView, UsageView.setRow, rowKey, ← sends.key, ← located, Function.update_eq_self]
      exact UsageApplyCase.replayed located same applied
    · cases applied
  · cases done
  · rename_i pending
    obtain ⟨⟨flag, paid⟩, deltas, done⟩ := bind_ok_iff.mp done
    cases done
    have found' : (mid.usageView id).sub = some sub := by
      rw [lockedView]
      exact found
    have present' : (mid.usageView id).records requestID = some record := by
      rw [lockedView]
      exact present
    have paidView := applyBillingAdjustmentDeltas_usage found' present' reserve carries deltas
    have located : (paid.usageView id).rows (row.settled now).idempotencyKey = some row := by
      rw [paidView, lockedView]
      exact UsageView.setRow_rows_self _ row
    rw [usageView_saveBillingAdjustment located, paidView, lockedView]
    have collapse :
        (((db.usageView id).setRow row).setUsed
            (settledUsed sub record row)).setRow (row.settled now) =
          ((db.usageView id).setUsed (settledUsed sub record row)).setRow (row.settled now) := by
      simp only [UsageView.setRow, UsageView.setUsed, settled, Function.update_idem]
    rw [collapse]
    exact UsageApplyCase.settled settles same pending

theorem creditBillingReservation_usage {credited : Int} (carries : RowOn id requestID key row)
    (done : creditBillingReservation db now row = .ok (credited, after)) :
    0 ≤ record.postResetReserved ∧ record.postResetReserved ≤ row.extraReserved ∧
      after.usageView id =
        ((db.usageView id).setUsed (returnedUsed sub record row.extraReserved)).setRecord
          { record with status := .refunded, postResetReserved := 0 } := by
  unfold creditBillingReservation at done
  simp only [carries.source] at done
  obtain ⟨paid, returned, done⟩ := bind_ok_iff.mp done
  obtain ⟨_, reported, done⟩ := bind_ok_iff.mp done
  cases reported
  obtain ⟨final, tokenDone, done⟩ := bind_ok_iff.mp done
  cases done
  rw [usageView_tokenMoved (creditTokenAmount_spec tokenDone)]
  exact creditSubscriptionReservationTx_spec found present reserve carries returned

theorem creditBillingCharge_usage (carries : RowOn id requestID key row) (positive : 0 < id)
    (done : creditBillingCharge db row = .ok after) :
    after.usageView id =
      ((db.usageView id).setUsed (reversedUsed sub record row)).setRecord
        { record with status := .refunded } := by
  unfold creditBillingCharge at done
  simp only [carries.source] at done
  obtain ⟨paid, creditDone, tokenDone⟩ := bind_ok_iff.mp done
  rw [usageView_tokenMoved (creditTokenAmount_spec tokenDone)]
  exact creditSubscriptionChargeTx_spec found present reserve carries positive creditDone

theorem rollbackBillingAdjustment_usage {actualQuota : Int} {writes : List CacheWrite}
    (positive : 0 < id) (owns : (db.usageView id).OwnsKey id requestID key)
    (done : rollbackBillingAdjustment db now key actualQuota = .ok (writes, after)) :
    UsageRollbackCase (db.usageView id) now key sub record (after.usageView id) := by
  unfold rollbackBillingAdjustment at done
  split at done
  · cases done
  split at done
  · cases done
  split at done
  · cases done
  rename_i row located
  have stored : (db.usageView id).rows key = some row := located
  have carries := owns row stored
  split at done
  · rename_i rolledBack
    cases done
    exact .kept stored rolledBack
  · rename_i pending
    obtain ⟨⟨credited, paid⟩, creditDone, done⟩ := bind_ok_iff.mp done
    cases done
    obtain ⟨nonnegative, covered, paidView⟩ :=
      creditBillingReservation_usage found present reserve carries creditDone
    have still : (paid.usageView id).rows (row.refunded now row.reservationQuota).idempotencyKey =
          some row := by
      rw [paidView]
      change (db.usageView id).rows row.idempotencyKey = some row
      rw [carries.key]
      exact stored
    rw [usageView_saveBillingAdjustment still, paidView]
    exact .returned stored pending nonnegative covered
  · rename_i applied
    split at done
    · cases done
    obtain ⟨paid, creditDone, done⟩ := bind_ok_iff.mp done
    cases done
    have paidView := creditBillingCharge_usage found present reserve carries positive creditDone
    have still :
        (paid.usageView id).rows (row.refunded now row.chargeQuota).idempotencyKey = some row := by
      rw [paidView]
      change (db.usageView id).rows row.idempotencyKey = some row
      rw [carries.key]
      exact stored
    rw [usageView_saveBillingAdjustment still, paidView]
    exact .reversed stored applied

theorem refundBillingReservation_usage {writes : List CacheWrite}
    (returns : ReturnsOn id requestID key refund)
    (owns : (db.usageView id).OwnsKey id requestID key)
    (done : refundBillingReservation db now refund = .ok (writes, after)) :
    UsageReservationCase (db.usageView id) now sub record refund (after.usageView id) := by
  unfold refundBillingReservation at done
  split at done
  · cases done
  split at done
  · cases done
  obtain ⟨⟨row, mid⟩, locked, done⟩ := bind_ok_iff.mp done
  have lockedSpec :
      ReturnsUsage (db.usageView id) now record refund row ∧ RowOn id requestID key row ∧
        mid.usageView id = (db.usageView id).setRow row := by
    unfold lockOrCreateReservation at locked
    split at locked
    · rename_i stored located
      cases locked
      have there : (db.usageView id).rows refund.idempotencyKey = some row := located
      have carries : RowOn id requestID key row := by
        rw [returns.key] at there
        exact owns row there
      refine ⟨Or.inl there, carries, ?_⟩
      rw [UsageView.setRow, carries.key, ← returns.key, ← there, Function.update_eq_self]
    · rw [returns.request,
        subscriptionPreConsumeCreatedAtTx_of_found reserve.nonempty present] at locked
      obtain ⟨created, createDone, locked⟩ := bind_ok_iff.mp locked
      cases locked
      obtain ⟨absent, view⟩ := usageView_createBillingAdjustment createDone
      exact ⟨Or.inr ⟨absent, rfl⟩, returns.rowOn now _, view⟩
  obtain ⟨located, carries, lockedView⟩ := lockedSpec
  dsimp only at done
  split at done
  · rename_i rolledBack
    cases done
    rcases located with there | ⟨_, rfl⟩
    · rw [lockedView, UsageView.setRow, carries.key, ← returns.key,
        ← there, Function.update_eq_self]
      exact .kept there rolledBack
    · cases rolledBack
  · cases done
  · rename_i pending
    obtain ⟨⟨credited, paid⟩, creditDone, done⟩ := bind_ok_iff.mp done
    cases done
    have found' : (mid.usageView id).sub = some sub := by
      rw [lockedView]
      exact found
    have present' : (mid.usageView id).records requestID = some record := by
      rw [lockedView]
      exact present
    obtain ⟨nonnegative, covered, paidView⟩ :=
      creditBillingReservation_usage found' present' reserve carries creditDone
    have still : (paid.usageView id).rows (row.refunded now row.reservationQuota).idempotencyKey =
          some row := by
      rw [paidView, lockedView]
      exact UsageView.setRow_rows_self _ row
    rw [usageView_saveBillingAdjustment still, paidView, lockedView]
    have collapse :
        ((((db.usageView id).setRow row).setUsed
            (returnedUsed sub record row.extraReserved)).setRecord
            { record with
              status := .refunded
              postResetReserved := 0 }).setRow
            (row.refunded now row.reservationQuota) =
          (db.usageView id).returnReservation now sub record row := by
      simp only [UsageView.returnReservation, UsageView.setRow, UsageView.setUsed,
        UsageView.setRecord, refunded, Function.update_idem]
    rw [collapse]
    exact .returned located pending nonnegative covered

end LedgerTransactions

end NewApi.Billing
