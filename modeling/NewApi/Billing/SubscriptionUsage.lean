import NewApi.Billing.SubscriptionReset

/-!
# The usage of one subscription request

`contrib` is what a request has added to the counter of its subscription since
the counter was last zero; `RowUsage` reads this amount off the rows of the
request.  A reset breaks the relation for a post-reset reserve that stays on
record and for a charge applied after the stored boundary.
-/

namespace NewApi.Billing

open Transactions UsageView

theorem billingAdjustmentKey_injective : Function.Injective billingAdjustmentKey := by
  intro left right equal
  exact String.append_right_inj "billing:" |>.mp equal

def maxUnixSeconds : Int := 1000000000000

/-! ## What the rows of a request say -/

structure Registered (id : Int) (sub : UserSubscription) (requestID : String)
    (record : SubscriptionPreConsumeRecord) (row : Option BillingAdjustment)
    (extra : Int) : Prop where
  reserve : ReserveOn id requestID record
  positive : 0 < record.preConsumed
  posted : 0 ≤ record.postResetReserved
  seconds : record.createdAt ≤ maxUnixSeconds
  notDue : ¬sub.ResetDue record.createdAt
  extraNonnegative : 0 ≤ extra
  carries :
    ∀ stored, row = some stored →
      RowOn id requestID (billingAdjustmentKey requestID) stored ∧
        stored.subscriptionConsumedAt = record.createdAt

theorem Registered.ownsKey {view : UsageView} {id extra : Int} {sub : UserSubscription}
    {requestID : String} {record : SubscriptionPreConsumeRecord}
    (registered : Registered id sub requestID record
      (view.rows (billingAdjustmentKey requestID)) extra) :
    view.OwnsKey id requestID (billingAdjustmentKey requestID) :=
  fun row located => (registered.carries row located).1

/-- The amount an unsettled request is counted with: everything it holds, or
after a reset what it has reserved since. -/
def Counted (lastResetTime : Int) (record : SubscriptionPreConsumeRecord)
    (extra contrib : Int) : Prop :=
  if subscriptionUsageClearedByReset lastResetTime record.createdAt then
    contrib = record.postResetReserved ∧ record.postResetReserved ≤ extra
  else record.postResetReserved = 0 ∧ contrib = record.preConsumed + extra

/-- A ledger row that carries what the session of the request holds. -/
structure HeldRow (record : SubscriptionPreConsumeRecord) (extra : Int)
    (row : BillingAdjustment) : Prop where
  extraReserved : row.extraReserved = extra
  reservation : row.reservationQuota = record.preConsumed + extra
  balanced : row.reservationQuota + row.fundingDelta = row.chargeQuota
  charge : 0 ≤ row.chargeQuota

structure AppliedRow (sub : UserSubscription) (record : SubscriptionPreConsumeRecord)
    (contrib : Int) (row : BillingAdjustment) : Prop where
  charge : 0 ≤ row.chargeQuota
  moment : 0 < row.updatedAt
  counted :
    contrib =
      if subscriptionUsageClearedByReset sub.lastResetTime record.createdAt =
            true ∧
          row.updatedAt < sub.lastResetTime then
        0
      else row.chargeQuota

def RowUsage (sub : UserSubscription) (record : SubscriptionPreConsumeRecord)
    (extra contrib : Int) : Option BillingAdjustment → Prop
  | none => record.status = .consumed ∧ Counted sub.lastResetTime record extra contrib
  | some row =>
    match row.status with
    | .pending =>
      record.status = .consumed ∧
        Counted sub.lastResetTime record extra contrib ∧
        HeldRow record extra row
    | .applied => record.status = .consumed ∧ AppliedRow sub record contrib row
    | .rolledBack => contrib = 0

def UsageView.Registers (view : UsageView) (id : Int) (sub : UserSubscription)
    (requestID : String) (extra : Int) : Prop :=
  match view.records requestID with
  | none => view.rows (billingAdjustmentKey requestID) = none ∧ extra = 0
  | some record =>
    Registered id sub requestID record (view.rows (billingAdjustmentKey requestID)) extra

def UsageView.Accounts (view : UsageView) (sub : UserSubscription)
    (requestID : String) (extra contrib : Int) : Prop :=
  match view.records requestID with
  | none => contrib = 0
  | some record =>
    RowUsage sub record extra contrib (view.rows (billingAdjustmentKey requestID))

def OpenRow (row : Option BillingAdjustment) : Prop :=
  ∀ stored, row = some stored → stored.status = .pending

/-- A reset of the row keeps the rows of a request readable: nothing that the
reset wipes is on record as usage of the new period. -/
structure WipedBy (boundary : Int) (record : SubscriptionPreConsumeRecord)
    (row : Option BillingAdjustment) : Prop where
  unposted : OpenRow row → record.postResetReserved = 0
  applied :
    ∀ stored, row = some stored → stored.status = .applied →
      stored.chargeQuota = 0 ∨ stored.updatedAt < boundary

section RequestRows

variable {id now : Int} {sub : UserSubscription} {requestID : String}
  {record : SubscriptionPreConsumeRecord} {row : Option BillingAdjustment}
  {extra contrib : Int}

variable {lastResetTime consumedAt : Int}

theorem cleared_iff_of_seconds (positive : 0 < consumedAt) (seconds : consumedAt ≤ maxUnixSeconds) :
    subscriptionUsageClearedByReset lastResetTime consumedAt = true ↔
      consumedAt < lastResetTime := by
  have same : normalizeSubscriptionUnix consumedAt = consumedAt := by
    rw [normalizeSubscriptionUnix, if_neg]
    unfold maxUnixSeconds at seconds
    omega
  simp [subscriptionUsageClearedByReset, same, positive]

theorem openRow_none : OpenRow none := by
  intro stored missing
  cases missing

theorem openRow_some {stored : BillingAdjustment} (pending : stored.status = .pending) :
    OpenRow (some stored) := by
  intro other same
  cases same
  exact pending

variable {calendar : Calendar} {plan : SubscriptionPlan} {after : UserSubscription}

/-- A reset that was due moves the boundary past every request that was not
made while it was due. -/
theorem ResetRow.passes {moment : Int}
    (reset : ResetRow calendar plan now sub after) (due : sub.ResetDue now)
    (notDue : ¬sub.ResetDue moment) :
    moment < after.lastResetTime ∧ ¬after.ResetDue moment := by
  have notBefore := reset.notBefore
  have still := reset.notDue
  unfold UserSubscription.ResetDue at due notDue still ⊢
  omega

theorem Registered.reset (registered : Registered id sub requestID record row extra)
    (due : sub.ResetDue now) (reset : ResetRow calendar plan now sub after) :
    Registered id after requestID record row extra :=
  { registered with notDue := (reset.passes due registered.notDue).2 }

theorem Registered.wiped (registered : Registered id sub requestID record row extra)
    (due : sub.ResetDue now) (reset : ResetRow calendar plan now sub after) :
    subscriptionUsageClearedByReset after.lastResetTime record.createdAt = true := by
  rw [cleared_iff_of_seconds registered.reserve.createdAt registered.seconds]
  exact (reset.passes due registered.notDue).1

theorem RowUsage.reset (usage : RowUsage sub record extra contrib row)
    (registered : Registered id sub requestID record row extra)
    (due : sub.ResetDue now) (reset : ResetRow calendar plan now sub after)
    (wiped : WipedBy after.lastResetTime record row) :
    RowUsage after record extra 0 row := by
  have cleared := registered.wiped due reset
  have counted : OpenRow row → Counted after.lastResetTime record extra 0 := by
    intro isOpen
    have zero := wiped.unposted isOpen
    have extraNonnegative := registered.extraNonnegative
    rw [Counted, if_pos cleared]
    omega
  unfold RowUsage at usage ⊢
  cases row with
  | none => exact ⟨usage.1, counted openRow_none⟩
  | some stored =>
    dsimp only at usage ⊢
    cases status : stored.status with
    | pending =>
      simp only [status] at usage ⊢
      exact ⟨usage.1, counted (openRow_some status), usage.2.2⟩
    | applied =>
      simp only [status] at usage ⊢
      obtain ⟨consumed, applied⟩ := usage
      refine ⟨consumed, applied.charge, applied.moment, ?_⟩
      rcases wiped.applied stored rfl status with free | early
      · rw [free, ite_self]
      · rw [if_pos ⟨cleared, early⟩]
    | rolledBack => rfl

variable {used delta : Int}

theorem shiftUsed_of_nonnegative (finish : 0 ≤ used + delta) :
    shiftUsed used delta = used + delta := by
  unfold shiftUsed
  split <;> omega

theorem Registered.setUsed
    (registered : Registered id sub requestID record row extra) (used : Int) :
    Registered id { sub with amountUsed := used } requestID record row extra :=
  { registered with }

theorem RowUsage.setUsed (usage : RowUsage sub record extra contrib row) (used : Int) :
    RowUsage { sub with amountUsed := used } record extra contrib row := by
  unfold RowUsage at usage ⊢
  split at usage
  · exact usage
  · split at usage
    · exact usage
    · exact ⟨usage.1, usage.2.charge, usage.2.moment, usage.2.counted⟩
    · exact usage

theorem Counted.nonnegative (counted : Counted lastResetTime record extra contrib)
    (registered : Registered id sub requestID record row extra) :
    0 ≤ contrib := by
  have positive := registered.positive
  have posted := registered.posted
  have extraNonnegative := registered.extraNonnegative
  unfold Counted at counted
  split at counted
  · omega
  · omega

theorem RowUsage.nonnegative (usage : RowUsage sub record extra contrib row)
    (registered : Registered id sub requestID record row extra) :
    0 ≤ contrib := by
  unfold RowUsage at usage
  split at usage
  · exact usage.2.nonnegative registered
  split at usage
  · exact usage.2.1.nonnegative registered
  · have counted := usage.2.counted
    have charge := usage.2.charge
    split at counted <;> omega
  · omega

theorem UsageView.Accounts.nonnegative {view : UsageView}
    (accounts : view.Accounts sub requestID extra contrib)
    (registers : view.Registers id sub requestID extra) :
    0 ≤ contrib := by
  unfold Accounts at accounts
  unfold Registers at registers
  split at accounts
  · omega
  · rename_i found
    rw [found] at registers
    exact accounts.nonnegative registers

theorem ReserveOn.mark (reserve : ReserveOn id requestID record)
    (status : SubscriptionPreConsumeStatus) (posted : Int) :
    ReserveOn id requestID { record with status := status, postResetReserved := posted } :=
  ⟨reserve.nonempty, reserve.request, reserve.subscription, reserve.createdAt⟩

def extendedRecord (sub : UserSubscription) (record : SubscriptionPreConsumeRecord)
    (delta : Int) : SubscriptionPreConsumeRecord :=
  if subscriptionUsageClearedByReset sub.lastResetTime record.createdAt then
    { record with postResetReserved := record.postResetReserved + delta }
  else record

theorem Registered.extend (registered : Registered id sub requestID record none extra)
    (nonnegative : 0 ≤ delta) :
    Registered id sub requestID (extendedRecord sub record delta) none (extra + delta) := by
  have posted := registered.posted
  have extraNonnegative := registered.extraNonnegative
  unfold extendedRecord
  split
  · exact
      { registered with
        reserve := registered.reserve.mark record.status _
        posted := by dsimp only; omega
        extraNonnegative := by omega
        carries := by
          intro stored missing
          cases missing }
  · exact { registered with extraNonnegative := by omega }

theorem RowUsage.extend (usage : RowUsage sub record extra contrib none)
    (counter : 0 ≤ sub.amountUsed) (nonnegative : 0 ≤ delta) :
    RowUsage sub (extendedRecord sub record delta) (extra + delta)
      (contrib + (shiftUsed sub.amountUsed delta - sub.amountUsed)) none := by
  obtain ⟨consumed, counted⟩ := usage
  rw [shiftUsed_of_nonnegative (by omega)]
  unfold extendedRecord
  by_cases cleared : subscriptionUsageClearedByReset sub.lastResetTime record.createdAt = true
  · rw [Counted, if_pos cleared] at counted
    rw [if_pos cleared]
    refine ⟨consumed, ?_⟩
    rw [Counted, if_pos cleared]
    dsimp only
    omega
  · rw [Counted, if_neg cleared] at counted
    rw [if_neg cleared]
    refine ⟨consumed, ?_⟩
    rw [Counted, if_neg cleared]
    omega

def removedExtra (sub : UserSubscription) (record : SubscriptionPreConsumeRecord)
    (amount : Int) : Int :=
  if subscriptionUsageClearedByReset sub.lastResetTime record.createdAt then
    min record.postResetReserved amount
  else amount

def shrunkRecord (sub : UserSubscription) (record : SubscriptionPreConsumeRecord)
    (amount : Int) : SubscriptionPreConsumeRecord :=
  if subscriptionUsageClearedByReset sub.lastResetTime record.createdAt then
    { record with postResetReserved := record.postResetReserved - removedExtra sub record amount }
  else record

variable {amount : Int}

theorem Registered.shrink (registered : Registered id sub requestID record none extra)
    (covered : amount ≤ extra) :
    Registered id sub requestID (shrunkRecord sub record amount) none (extra - amount) := by
  unfold shrunkRecord
  split
  · rename_i cleared
    exact
      { registered with
        reserve := registered.reserve.mark record.status _
        posted := by
          rw [removedExtra, if_pos cleared]
          dsimp only
          omega
        extraNonnegative := by omega
        carries := by
          intro stored missing
          cases missing }
  · exact { registered with extraNonnegative := by omega }

theorem RowUsage.shrink (usage : RowUsage sub record extra contrib none)
    (registered : Registered id sub requestID record none extra)
    (within : contrib ≤ sub.amountUsed) (covered : amount ≤ extra) :
    removedExtra sub record amount ≤ contrib ∧
      RowUsage sub (shrunkRecord sub record amount) (extra - amount)
        (contrib + (shiftUsed sub.amountUsed (-removedExtra sub record amount) - sub.amountUsed))
        none := by
  have preConsumed := registered.positive
  obtain ⟨consumed, counted⟩ := usage
  by_cases cleared : subscriptionUsageClearedByReset sub.lastResetTime record.createdAt = true
  · rw [Counted, if_pos cleared] at counted
    have removed : removedExtra sub record amount = min record.postResetReserved amount := by
      rw [removedExtra, if_pos cleared]
    rw [shrunkRecord, if_pos cleared, removed, shiftUsed_of_nonnegative (by omega)]
    refine ⟨by omega, consumed, ?_⟩
    rw [Counted, if_pos cleared]
    dsimp only
    omega
  · rw [Counted, if_neg cleared] at counted
    have removed : removedExtra sub record amount = amount := by rw [removedExtra, if_neg cleared]
    rw [shrunkRecord, if_neg cleared, removed, shiftUsed_of_nonnegative (by omega)]
    refine ⟨by omega, consumed, ?_⟩
    rw [Counted, if_neg cleared]
    omega

theorem Registered.setRow {stored : BillingAdjustment}
    (registered : Registered id sub requestID record row extra)
    (carries : RowOn id requestID (billingAdjustmentKey requestID) stored)
    (consumedAt : stored.subscriptionConsumedAt = record.createdAt) :
    Registered id sub requestID record (some stored) extra :=
  { registered with
    carries := by
      intro other same
      cases same
      exact ⟨carries, consumedAt⟩ }

theorem Registered.mark (registered : Registered id sub requestID record row extra)
    (status : SubscriptionPreConsumeStatus) {posted : Int} (nonnegative : 0 ≤ posted) :
    Registered id sub requestID { record with status := status, postResetReserved := posted } row
      extra :=
  { registered with
    reserve := registered.reserve.mark status posted
    posted := nonnegative }

variable {stored : BillingAdjustment}

theorem RowUsage.counted_of_open (usage : RowUsage sub record extra contrib row)
    (isOpen : OpenRow row) :
    record.status = .consumed ∧ Counted sub.lastResetTime record extra contrib := by
  unfold RowUsage at usage
  cases row with
  | none => exact usage
  | some stored =>
    simp only [isOpen stored rfl] at usage
    exact ⟨usage.1, usage.2.1⟩

theorem RowUsage.open (usage : RowUsage sub record extra contrib none)
    (pending : stored.status = .pending) (held : HeldRow record extra stored) :
    RowUsage sub record extra contrib (some stored) := by
  simp only [RowUsage, pending]
  exact ⟨usage.1, usage.2, held⟩

theorem RowUsage.settle (usage : RowUsage sub record extra contrib row)
    (isOpen : OpenRow row) (held : HeldRow record extra stored)
    (consumedAt : stored.subscriptionConsumedAt = record.createdAt)
    (within : contrib ≤ sub.amountUsed) (started : 0 < now) (passed : sub.lastResetTime ≤ now) :
    contrib + (settledUsed sub record stored - sub.amountUsed) = stored.chargeQuota ∧
      RowUsage sub record extra stored.chargeQuota (some (stored.settled now)) := by
  obtain ⟨consumed, counted⟩ := usage.counted_of_open isOpen
  have charge := held.charge
  have balanced := held.balanced
  have reservation := held.reservation
  have moment :
      (if 0 < stored.subscriptionConsumedAt then stored.subscriptionConsumedAt
        else
          record.createdAt) = record.createdAt := by
    rw [consumedAt, ite_self]
  constructor
  · rw [settledUsed, moment]
    by_cases cleared : subscriptionUsageClearedByReset sub.lastResetTime record.createdAt = true
    · rw [Counted, if_pos cleared] at counted
      rw [if_pos cleared, shiftUsed_of_nonnegative (by omega)]
      omega
    · rw [Counted, if_neg cleared] at counted
      rw [if_neg cleared, shiftUsed_of_nonnegative (by omega)]
      omega
  · have notEarlier : ¬(stored.settled now).updatedAt < sub.lastResetTime := by
      change ¬now < sub.lastResetTime
      omega
    refine ⟨consumed, charge, started, ?_⟩
    rw [if_neg (fun both => notEarlier both.2)]
    rfl

theorem refundUsed_of_cleared
    (cleared : subscriptionUsageClearedByReset lastResetTime consumedAt = true) :
    refundUsed lastResetTime used amount consumedAt = used := by
  rw [refundUsed, if_pos (Or.inr cleared)]

theorem refundUsed_of_current
    (current : subscriptionUsageClearedByReset lastResetTime consumedAt = false)
    (nonnegative : 0 ≤ amount) (within : amount ≤ used) :
    refundUsed lastResetTime used amount consumedAt = used - amount := by
  unfold refundUsed
  simp only [current, Bool.false_eq_true, or_false]
  split <;> omega

theorem RowUsage.returned (usage : RowUsage sub record extra contrib row)
    (registered : Registered id sub requestID record row extra)
    (isOpen : OpenRow row) (within : contrib ≤ sub.amountUsed) :
    returnedUsed sub record extra = sub.amountUsed - contrib := by
  obtain ⟨consumed, counted⟩ := usage.counted_of_open isOpen
  have preConsumed := registered.positive
  have posted := registered.posted
  have extraNonnegative := registered.extraNonnegative
  have afterReset : subscriptionUsageClearedByReset sub.lastResetTime 0 = false := by
    simp [subscriptionUsageClearedByReset, normalizeSubscriptionUnix]
  have notRefunded : record.status ≠ .refunded := by
    rw [consumed]
    decide
  rw [returnedUsed, if_neg notRefunded]
  by_cases cleared : subscriptionUsageClearedByReset sub.lastResetTime record.createdAt = true
  · rw [Counted, if_pos cleared] at counted
    rw [refundUsed_of_cleared cleared, refundUsed_of_cleared cleared,
      refundUsed_of_current afterReset posted (by omega)]
    omega
  · rw [Counted, if_neg cleared] at counted
    have current := Bool.eq_false_iff.mpr cleared
    have preConsume :
        refundUsed sub.lastResetTime sub.amountUsed record.preConsumed record.createdAt =
          sub.amountUsed - record.preConsumed :=
      refundUsed_of_current current (by omega) (by omega)
    rw [preConsume, refundUsed_of_current current (by omega) (by omega),
      refundUsed_of_current afterReset posted (by omega)]
    omega

theorem RowUsage.reversed (usage : RowUsage sub record extra contrib (some stored))
    (registered : Registered id sub requestID record (some stored) extra)
    (applied : stored.status = .applied) (within : contrib ≤ sub.amountUsed) :
    reversedUsed sub record stored = sub.amountUsed - contrib := by
  simp only [RowUsage, applied] at usage
  obtain ⟨consumed, charge, moment, counted⟩ := usage
  have positive := registered.reserve.createdAt
  have consumedAt : subscriptionRefundConsumedAt stored = record.createdAt := by
    rw [subscriptionRefundConsumedAt, (registered.carries stored rfl).2, if_pos positive]
  have notRefunded : record.status ≠ .refunded := by
    rw [consumed]
    decide
  have appliedAt :
      (if stored.updatedAt ≤ 0 then stored.createdAt else stored.updatedAt) = stored.updatedAt := by
    rw [if_neg (by omega)]
  rw [reversedUsed, if_neg notRefunded, consumedAt, appliedAt]
  by_cases cleared : subscriptionUsageClearedByReset sub.lastResetTime record.createdAt = true
  · rw [refundUsed_of_cleared cleared]
    by_cases early : stored.updatedAt < sub.lastResetTime
    · rw [if_pos ⟨cleared, early⟩] at counted
      omega
    · by_cases free : 0 < stored.chargeQuota
      · rw [if_pos ⟨free, cleared, by omega⟩]
        omega
      · omega
  · rw [if_neg (fun both => cleared both.1)] at counted
    rw [if_neg (fun all => cleared all.2.1),
      refundUsed_of_current (Bool.eq_false_iff.mpr cleared) charge (by omega)]
    omega

def startedRecord (sub : UserSubscription) (now : Int) (requestID : String)
    (userId amount : Int) : SubscriptionPreConsumeRecord where
  requestId := requestID
  userId := userId
  userSubscriptionId := sub.id
  preConsumed := amount
  status := .consumed
  createdAt := now

theorem registered_start {userId : Int}
    (nonempty : requestID ≠ "") (positive : 0 < amount) (onSub : sub.id = id)
    (started : 0 < now) (seconds : now ≤ maxUnixSeconds) (notDue : ¬sub.ResetDue now) :
    Registered id sub requestID (startedRecord sub now requestID userId amount) none 0 where
  reserve := ⟨nonempty, rfl, onSub, started⟩
  positive := positive
  posted := Int.le_refl 0
  seconds := seconds
  notDue := notDue
  extraNonnegative := Int.le_refl 0
  carries := by
    intro stored missing
    cases missing

theorem rowUsage_start {userId : Int} (started : 0 < now) (seconds : now ≤ maxUnixSeconds)
    (passed : sub.lastResetTime ≤ now) :
    RowUsage sub (startedRecord sub now requestID userId amount) 0 amount none := by
  refine ⟨rfl, ?_⟩
  rw [Counted, if_neg]
  · exact ⟨rfl, (Int.add_zero amount).symm⟩
  · rw [startedRecord, cleared_iff_of_seconds started seconds]
    omega

end RequestRows

section PreConsume

variable {calendar : Calendar} {plan : SubscriptionPlan} {db after : Database}
  {id now : Int} {sub : UserSubscription}

theorem activeSubscriptions_of_single (found : (db.usageView id).sub = some sub)
    (single : (db.usageView id).ids = [id]) (userId : Int) :
    activeSubscriptions db userId now = [] ∨ activeSubscriptions db userId now = [sub] := by
  have rows : db.subscriptions.rows = [sub] := by
    have ids : db.subscriptions.rows.map UserSubscription.id = [id] := single
    obtain ⟨only, rows, _⟩ := List.map_eq_singleton_iff.mp ids
    have member : sub ∈ db.subscriptions.rows := (KeyedTable.lookup_eq_some_iff.mp found).1
    rw [rows, List.mem_singleton] at member
    rw [rows, member]
  unfold activeSubscriptions
  rw [rows, List.filter_singleton, cond_eq_ite]
  split
  · exact Or.inr rfl
  · exact Or.inl rfl

def UsageView.start (view : UsageView) (now : Int) (fresh : UserSubscription)
    (requestID : String) (userId amount : Int) : UsageView :=
  ({ view with sub := some fresh }.setRecord
      (startedRecord fresh now requestID userId amount)).setUsed
    (fresh.amountUsed + amount)

theorem usageView_createSubscriptionPreConsume {record : SubscriptionPreConsumeRecord}
    {records : KeyedTable SubscriptionPreConsumeRecord.requestId}
    (created : db.subscriptionPreConsumes.create record = some records) :
    Database.usageView { db with subscriptionPreConsumes := records } id =
      (db.usageView id).setRecord record := by
  simp only [Database.usageView, KeyedTable.lookup_create_eq_update created, setRecord]

theorem maybeResetUserSubscription_id
    (calendar : Calendar) (plan : SubscriptionPlan) (now : Int) (sub : UserSubscription) :
    (maybeResetUserSubscription calendar plan now sub).id = sub.id := by
  unfold maybeResetUserSubscription
  dsimp only
  repeat' split
  all_goals rfl

theorem maybeResetUserSubscriptionWithPlanTx_usage (found : (db.usageView id).sub = some sub) :
    (maybeResetUserSubscriptionWithPlanTx calendar db now sub plan).usageView id =
      { db.usageView id with sub := some (maybeResetUserSubscription calendar plan now sub) } :=
  usageView_saveSubscription found (maybeResetUserSubscription_id calendar plan now sub)

theorem preConsumeCandidates_single {requestID : String} {userId amount : Int} {usingGroup : String}
    {baseGroups : List String} {sawScoped sawMatching : Bool}
    (found : (db.usageView id).sub = some sub)
    (planned : (db.usageView id).plans sub.planId = some plan)
    (done :
      preConsumeCandidates calendar now requestID userId amount usingGroup
          baseGroups db [sub] sawScoped sawMatching =
        .ok after) :
    after.usageView id =
      (db.usageView id).start now
        (maybeResetUserSubscription calendar plan now sub) requestID userId
        amount := by
  have located : db.plans.lookup sub.planId = some plan := planned
  have exhausted :
      ∀ (start : Database) (granted matched : Bool),
        preConsumeCandidates calendar now requestID userId amount usingGroup
            baseGroups start [] granted matched ≠
          .ok after := by
    intro start granted matched paid
    unfold preConsumeCandidates at paid
    split at paid <;> cases paid
  unfold preConsumeCandidates at done
  split at done
  · exact absurd done (exhausted _ _ _)
  simp only [located] at done
  split at done
  · exact absurd done (exhausted _ _ _)
  split at done
  · cases done
  rename_i records created
  cases done
  have reset := @maybeResetUserSubscriptionWithPlanTx_usage calendar plan db id now sub found
  have inserted := @usageView_createSubscriptionPreConsume _ id _ _ created
  have stored := congrArg UsageView.sub inserted
  rw [UsageView.setRecord_sub, reset] at stored
  rw [usageView_saveUsed stored, inserted, reset]
  rfl

theorem preConsumeUserSubscriptionTx_usage
    {requestID : String} {userId amount : Int} {usingGroup : String}
    {baseGroups : List String} (found : (db.usageView id).sub = some sub)
    (single : (db.usageView id).ids = [id])
    (planned : (db.usageView id).plans sub.planId = some plan)
    (done :
      preConsumeUserSubscriptionTx calendar db now requestID userId amount usingGroup baseGroups =
        .ok after) :
    requestID ≠ "" ∧ 0 < amount ∧
      (((db.usageView id).records requestID ≠ none ∧ after = db) ∨
        ((db.usageView id).records requestID = none ∧
          after.usageView id =
            (db.usageView id).start now (maybeResetUserSubscription calendar plan now sub) requestID
              userId amount)) := by
  unfold preConsumeUserSubscriptionTx at done
  split at done
  · cases done
  split at done
  · cases done
  rename_i nonempty
  split at done
  · cases done
  refine ⟨nonempty, by omega, ?_⟩
  split at done
  · rename_i existing present
    split at done
    · cases done
    split at done
    · cases done
    cases done
    left
    refine ⟨?_, rfl⟩
    change db.subscriptionPreConsumes.lookup requestID ≠ none
    rw [present]
    exact Option.some_ne_none existing
  · rename_i absent
    right
    refine ⟨absent, ?_⟩
    rcases activeSubscriptions_of_single found single userId with nobody | only
    · rw [if_pos nobody] at done
      cases done
    · rw [only, if_neg (List.cons_ne_nil sub [])] at done
      exact preConsumeCandidates_single found planned done
end PreConsume

end NewApi.Billing
