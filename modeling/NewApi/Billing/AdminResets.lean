import Mathlib.Algebra.BigOperators.Group.Finset.Basic
import NewApi.Billing.SubscriptionAttribution

/-!
# Refunds after an administrator reset

A refund decides from `lastResetTime` alone whether a reset has wiped its usage.
The administrator's reset sets the counter to zero but may keep or clear this
time; the refund of an older request then removes usage of requests that came
after the reset.
-/

namespace NewApi.Billing

open Transactions UsageState

inductive RefundPath where
  | preConsume
  | reservedExtra (extra : Int)
  | rollback (now actualQuota : Int)

def RefundPath.run (db : Database) (id : Int) (requestID key : String) :
    RefundPath → Except BillingError Database
  | .preConsume => refundSubscriptionPreConsumeTx db requestID
  | .reservedExtra extra => (refundSubscriptionReservedExtra db requestID id extra).map Prod.snd
  | .rollback now actualQuota => (rollbackBillingAdjustment db now key actualQuota).map Prod.snd

/-! ## What a refund takes -/

/-- The part of `amount` that a refund takes back, nothing once a reset after
`consumedAt` counts as having wiped it. -/
def unwiped (lastResetTime amount consumedAt : Int) : Int :=
  if subscriptionUsageClearedByReset lastResetTime consumedAt then 0 else max 0 amount

/-- What closing the reserve row takes back of `amount`. -/
def closes (lastResetTime : Int) (record : SubscriptionPreConsumeRecord) (amount : Int) : Int :=
  if record.status = .refunded then 0 else unwiped lastResetTime amount record.createdAt

/-- What a refund takes off the counter, read off the reserve row and the
ledger row of the request. -/
def RefundPath.taken (lastResetTime : Int) (record : SubscriptionPreConsumeRecord)
    (row : Option BillingAdjustment) : RefundPath → Int
  | .preConsume => closes lastResetTime record record.preConsumed
  | .reservedExtra extra =>
    if extra ≤ 0 then 0
    else if subscriptionUsageClearedByReset lastResetTime record.createdAt then
      min record.postResetReserved extra
    else extra
  | .rollback _ _ =>
    match row with
    | none => 0
    | some row =>
      match row.status with
      | .rolledBack => 0
      | .pending =>
        closes lastResetTime record record.preConsumed +
          unwiped lastResetTime (row.extraReserved - record.postResetReserved) record.createdAt +
          record.postResetReserved
      | .applied =>
        closes lastResetTime record row.chargeQuota +
          if 0 < row.chargeQuota ∧
              subscriptionUsageClearedByReset lastResetTime
                (subscriptionRefundConsumedAt row) = true ∧
              lastResetTime ≤ (if row.updatedAt ≤ 0 then row.createdAt else row.updatedAt) then
            row.chargeQuota
          else 0

section Taken

variable {record : SubscriptionPreConsumeRecord} {row : BillingAdjustment}
  {sub : UserSubscription} {lastResetTime used amount consumedAt : Int}

theorem unwiped_nonnegative : 0 ≤ unwiped lastResetTime amount consumedAt := by
  unfold unwiped
  split <;> omega

theorem closes_nonnegative : 0 ≤ closes lastResetTime record amount := by
  unfold closes
  split
  · exact Int.le_refl 0
  · exact unwiped_nonnegative

@[simp]
theorem subscriptionUsageClearedByReset_zero :
    subscriptionUsageClearedByReset lastResetTime 0 = false := by
  simp [subscriptionUsageClearedByReset, normalizeSubscriptionUnix]

theorem unwiped_zero (nonnegative : 0 ≤ amount) : unwiped lastResetTime amount 0 = amount := by
  rw [unwiped, subscriptionUsageClearedByReset_zero, if_neg (by decide)]
  omega

/-- Every single refund lowers the counter by what it takes, down to zero. -/
theorem refundUsed_eq (nonnegative : 0 ≤ used) :
    refundUsed lastResetTime used amount consumedAt =
      max 0 (used - unwiped lastResetTime amount consumedAt) := by
  unfold refundUsed unwiped
  by_cases cleared : subscriptionUsageClearedByReset lastResetTime consumedAt = true
  · rw [if_pos (Or.inr cleared), if_pos cleared]
    omega
  · simp only [cleared, Bool.false_eq_true, or_false, if_false]
    split <;> omega

theorem closedUsed_eq (nonnegative : 0 ≤ sub.amountUsed) :
    (if record.status = .refunded then sub.amountUsed
      else refundUsed sub.lastResetTime sub.amountUsed amount record.createdAt) =
      max 0 (sub.amountUsed - closes sub.lastResetTime record amount) := by
  unfold closes
  split
  · omega
  · exact refundUsed_eq nonnegative

theorem returnedUsed_eq {extraReserved : Int} (nonnegative : 0 ≤ sub.amountUsed)
    (posted : 0 ≤ record.postResetReserved) :
    returnedUsed sub record extraReserved =
      max 0
        (sub.amountUsed -
          (closes sub.lastResetTime record record.preConsumed +
            unwiped sub.lastResetTime (extraReserved - record.postResetReserved)
              record.createdAt +
            record.postResetReserved)) := by
  have closed := @closes_nonnegative record sub.lastResetTime record.preConsumed
  have extra :=
    @unwiped_nonnegative sub.lastResetTime (extraReserved - record.postResetReserved)
      record.createdAt
  unfold returnedUsed
  simp only
  rw [closedUsed_eq nonnegative, refundUsed_eq (Int.le_max_left 0 _),
    refundUsed_eq (Int.le_max_left 0 _), unwiped_zero posted]
  omega

theorem reversedUsed_eq (nonnegative : 0 ≤ sub.amountUsed) :
    reversedUsed sub record row =
      max 0
        (sub.amountUsed -
          (closes sub.lastResetTime record row.chargeQuota +
            if 0 < row.chargeQuota ∧
                subscriptionUsageClearedByReset sub.lastResetTime
                  (subscriptionRefundConsumedAt row) = true ∧
                sub.lastResetTime ≤ (if row.updatedAt ≤ 0 then row.createdAt else row.updatedAt)
            then row.chargeQuota
            else 0)) := by
  have closed := @closes_nonnegative record sub.lastResetTime row.chargeQuota
  unfold reversedUsed
  simp only
  rw [closedUsed_eq nonnegative]
  generalize (if row.updatedAt ≤ 0 then row.createdAt else row.updatedAt) = appliedAt
  split
  · rename_i again
    have positive := again.1
    omega
  · omega

theorem RefundPath.taken_nonnegative {path : RefundPath} {row : Option BillingAdjustment}
    (posted : 0 ≤ record.postResetReserved) : 0 ≤ path.taken lastResetTime record row := by
  cases path with
  | preConsume => exact closes_nonnegative
  | reservedExtra extra =>
    simp only [taken]
    split
    · exact Int.le_refl 0
    · split <;> omega
  | rollback now actualQuota =>
    simp only [taken]
    split
    · exact Int.le_refl 0
    · rename_i row
      split
      · exact Int.le_refl 0
      · have closed := @closes_nonnegative record lastResetTime record.preConsumed
        have extra :=
          @unwiped_nonnegative lastResetTime (row.extraReserved - record.postResetReserved)
            record.createdAt
        omega
      · have closed := @closes_nonnegative record lastResetTime row.chargeQuota
        generalize (if row.updatedAt ≤ 0 then row.createdAt else row.updatedAt) = appliedAt
        split
        · rename_i again
          have positive := again.1
          omega
        · omega

end Taken

section Refund

variable {db after : Database} {id : Int} {sub : UserSubscription} {requestID key : String}
  {record : SubscriptionPreConsumeRecord}

/-- A refund lowers the counter by what the rows of its request say, down to
zero. -/
theorem RefundPath.run_usedIn {path : RefundPath} (positive : 0 < id)
    (found : (db.usageView id).sub = some sub) (nonnegative : 0 ≤ sub.amountUsed)
    (present : (db.usageView id).records requestID = some record)
    (reserve : ReserveOn id requestID record) (posted : 0 ≤ record.postResetReserved)
    (owns : (db.usageView id).OwnsKey id requestID key)
    (done : path.run db id requestID key = .ok after) :
    usedIn after id =
      max 0
        (sub.amountUsed -
          path.taken sub.lastResetTime record ((db.usageView id).rows key)) := by
  have usedOf : ∀ used, (after.usageView id).sub = some { sub with amountUsed := used } →
      usedIn after id = used := by
    intro used left
    rw [usedIn, left]
    rfl
  cases path with
  | preConsume =>
    have view := refundSubscriptionPreConsumeTx_spec found present reserve done
    rw [RefundPath.taken, ← closedUsed_eq nonnegative]
    apply usedOf
    rw [view]
    split
    · exact found
    · simp [found]
  | reservedExtra extra =>
    obtain ⟨⟨removed, _⟩, extraDone, rfl⟩ := map_eq_ok_iff.mp done
    by_cases nothing : extra ≤ 0
    · unfold refundSubscriptionReservedExtra at extraDone
      rw [if_pos nothing] at extraDone
      cases extraDone
      rw [RefundPath.taken, if_pos nothing, usedOf sub.amountUsed found]
      omega
    · have spec :=
        refundSubscriptionReservedExtra_spec found present reserve (by omega) extraDone
      rw [RefundPath.taken, if_neg nothing]
      have shifted : ∀ amount, 0 ≤ amount →
          shiftUsed sub.amountUsed (-amount) = max 0 (sub.amountUsed - amount) := by
        intro amount _
        unfold shiftUsed
        split <;> omega
      split at spec
      · rename_i wiped
        obtain ⟨_, rfl, view⟩ := spec
        rw [if_pos wiped, ← shifted _ (by omega)]
        apply usedOf
        rw [view]
        simp [found]
      · rename_i counted
        obtain ⟨rfl, view⟩ := spec
        rw [if_neg counted, ← shifted _ (by omega)]
        apply usedOf
        rw [view]
        simp [found]
  | rollback now actualQuota =>
    obtain ⟨result, rollbackDone, rfl⟩ := map_eq_ok_iff.mp done
    have rolledBack :=
      rollbackBillingAdjustment_usage found present reserve positive owns rollbackDone
    generalize result.2.usageView id = view at rolledBack usedOf
    cases rolledBack with
    | @kept row located status =>
      simp only [RefundPath.taken, located, status, usedOf sub.amountUsed found]
      omega
    | @returned row located status _ _ =>
      simp only [RefundPath.taken, located, status]
      rw [← returnedUsed_eq nonnegative posted]
      apply usedOf
      simp [UsageView.returnReservation, found]
    | @reversed row located status =>
      simp only [RefundPath.taken, located, status]
      rw [← reversedUsed_eq nonnegative]
      apply usedOf
      simp [UsageView.returnCharge, found]

end Refund

/-! ## Usage since the reset -/

namespace UsageState

/-- The state after an administrator reset and the steps that followed it,
with what each request has added to the counter since. -/
def sinceReset (calendar : Calendar) (id : Int) (cleared : Database) (now : Int)
    (actions : List (Int × UsageStep)) : UsageState :=
  execute (step calendar id)
    { db := cleared, clock := now, contrib := fun _ => 0, extra := fun _ => 0 } actions

/-- The usage of those requests that had no reserve row at the reset. -/
def freshUsage (state : UsageState) (atReset : UsageView) (requests : Finset String) : Int :=
  ∑ requestID ∈ requests with atReset.records requestID = none, state.contrib requestID

end UsageState

section AdminReset

variable {calendar : Calendar} {plan : SubscriptionPlan} {now : Int}
  {advanceResetTime : Bool} {db cleared after : Database} {id : Int}
  {sub current : UserSubscription} {record : SubscriptionPreConsumeRecord}
  {requestID key : String}

end AdminReset

def Database.sampleInFlight (plan : SubscriptionPlan) : Database :=
  { Database.sampleHeld with plans := ⟨[plan], by simp⟩ }

def sampleCleared (plan : SubscriptionPlan) (advanceResetTime : Bool) : Database :=
  commit (.sampleInFlight plan)
    (adminResetPlanSubscriptions .sample (.sampleInFlight plan) 50 1 advanceResetTime)

/-- A request from before the reset, settled after it. -/
def settledAfterReset : List (Int × UsageStep) :=
  [(60, .start "req-2" 7), (70, .apply (settlePayload "req-1" 10 0 10))]

end NewApi.Billing
