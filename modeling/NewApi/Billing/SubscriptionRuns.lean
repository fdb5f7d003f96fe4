import Mathlib.Order.ConditionallyCompleteLattice.Basic
import Mathlib.Algebra.Order.Group.Int
import Mathlib.Data.Int.ConditionallyCompleteOrder
import NewApi.Billing.SubscriptionUsage
import NewApi.Lib.Shares

/-!
# Runs of one subscription

Any number of requests share one subscription, and scheduled resets run at any
time from their due time on.  The state keeps what every request has added to
the counter since the last reset.  Usage is attributed exactly as long as every
reset finds nothing that it would leave on record as usage of the new period.
-/

namespace NewApi.Billing

open Transactions UsageView BillingAdjustmentRequest

def usedIn (db : Database) (id : Int) : Int :=
  ((db.usageView id).sub.map UserSubscription.amountUsed).getD 0

def lastResetIn (db : Database) (id : Int) : Int :=
  ((db.usageView id).sub.map UserSubscription.lastResetTime).getD 0

structure UsageState where
  db : Database
  /-- The time of the last step. -/
  clock : Int
  /-- What each request has added to the counter since the last reset. -/
  contrib : String → Int
  /-- The supplemental quota that the session of each request holds. -/
  extra : String → Int

inductive UsageStep where
  | preConsume
      (requestID : String) (userId amount : Int) (usingGroup : String)
      (baseGroups : List String)
  | reserve (requestID : String) (delta : Int)
  | refundExtra (requestID : String) (amount : Int)
  | ensurePending (req : BillingAdjustmentRequest)
  | apply (req : BillingAdjustmentRequest)
  | rollback (requestID : String) (actualQuota : Int)
  | refundReservation (refund : BillingReservationRefund)
  | reset
  deriving DecidableEq

namespace UsageStep

def requestID : UsageStep → Option String
  | preConsume requestID _ _ _ _ => some requestID
  | reserve requestID _ => some requestID
  | refundExtra requestID _ => some requestID
  | ensurePending req => some req.requestID
  | apply req => some req.requestID
  | rollback requestID _ => some requestID
  | refundReservation refund => some refund.requestID
  | reset => none

def transaction (calendar : Calendar) (id : Int) (db : Database) (now : Int) :
    UsageStep → Except BillingError Database
  | preConsume requestID userId amount usingGroup baseGroups =>
    preConsumeUserSubscriptionTx calendar db now requestID userId amount usingGroup baseGroups
  | reserve requestID delta => reserveUserSubscriptionDelta db requestID id delta
  | refundExtra requestID amount =>
    (refundSubscriptionReservedExtra db requestID id amount).map Prod.snd
  | ensurePending req => ensurePendingBillingAdjustment db now req
  | apply req => (applyBillingAdjustment db now req).map Prod.snd
  | rollback requestID actualQuota =>
    (rollbackBillingAdjustment db now (billingAdjustmentKey requestID) actualQuota).map Prod.snd
  | refundReservation refund => (refundBillingReservation db now refund).map Prod.snd
  | reset => .ok (resetDueSubscription calendar db now id)

def looksForReset : UsageStep → Bool
  | preConsume _ _ _ _ _ => true
  | reset => true
  | _ => false

def extraAfter (extra : String → Int) : UsageStep → String → Int
  | reserve requestID delta => Function.update extra requestID (extra requestID + delta)
  | refundExtra requestID amount => Function.update extra requestID (extra requestID - amount)
  | _ => extra

end UsageStep

/-- The attribution after `db` has become `after` through a step of
`requestID`.  A step that moves the boundary has set the counter to zero first;
the rest of the change is the request's own. -/
def attributed (id : Int) (db after : Database) (contrib : String → Int)
    (requestID : Option String) : String → Int :=
  let wiped := lastResetIn after id ≠ lastResetIn db id
  let kept : String → Int := if wiped then fun _ => 0 else contrib
  let start := if wiped then 0 else usedIn db id
  match requestID with
  | none => kept
  | some requestID =>
    Function.update kept requestID (kept requestID + (usedIn after id - start))

def UsageState.step (calendar : Calendar) (id : Int) (state : UsageState)
    (action : Int × UsageStep) : UsageState :=
  match action.2.transaction calendar id state.db action.1 with
  | .error _ => { state with clock := action.1 }
  | .ok after =>
    { db := after
      clock := action.1
      contrib := attributed id state.db after state.contrib action.2.requestID
      extra := action.2.extraAfter state.extra }

def UsageState.Reserving (id : Int) (state : UsageState) (requestID : String) : Prop :=
  (state.db.usageView id).records requestID ≠ none ∧
    (state.db.usageView id).rows (billingAdjustmentKey requestID) = none

def UsageState.Settles (id : Int) (state : UsageState) (req : BillingAdjustmentRequest) : Prop :=
  SendsOn id req.requestID (billingAdjustmentKey req.requestID) req ∧
    req.extraReserved = state.extra req.requestID ∧
    ∃ record,
      (state.db.usageView id).records req.requestID = some record ∧
        req.reservationQuota = record.preConsumed + state.extra req.requestID

/-- How sessions use the subscription: supplemental quota is reserved and
returned before the first ledger row, and ledger payloads carry what the
session holds.  The clock does not run backwards. -/
def UsageState.Protocol (id : Int) (state : UsageState) (action : Int × UsageStep) : Prop :=
  state.clock ≤ action.1 ∧ action.1 ≤ maxUnixSeconds ∧
    match action.2 with
    | .preConsume _ _ _ _ _ => True
    | .reserve requestID _ => state.Reserving id requestID
    | .refundExtra requestID amount =>
      state.Reserving id requestID ∧ 0 < amount ∧ amount ≤ state.extra requestID
    | .ensurePending req => state.Settles id req
    | .apply req => state.Settles id req
    | .rollback _ _ => True
    | .refundReservation refund =>
      ReturnsOn id refund.requestID
          (billingAdjustmentKey refund.requestID) refund ∧
        refund.extraReserved = state.extra refund.requestID ∧
        (state.db.usageView id).records refund.requestID ≠ none
    | .reset => True

/-! ## What one step does -/

/-- A change of the rows of one request and of the counter. -/
structure UsageView.Owned (view after : UsageView) (requestID : String) (used : Int) : Prop where
  sub : after.sub = view.sub.map (fun sub => { sub with amountUsed := used })
  ids : after.ids = view.ids
  plans : after.plans = view.plans
  records : ∀ other, other ≠ requestID → after.records other = view.records other
  rows :
    ∀ other, other ≠ requestID →
      after.rows (billingAdjustmentKey other) = view.rows (billingAdjustmentKey other)

namespace UsageView.Owned

variable {view : UsageView} {requestID : String}

theorem setUsed (view : UsageView) (requestID : String) (used : Int) :
    view.Owned (view.setUsed used) requestID used where
  sub := rfl
  ids := rfl
  plans := rfl
  records := fun _ _ => rfl
  rows := fun _ _ => rfl

theorem kept {sub : UserSubscription} (found : view.sub = some sub) :
    view.Owned view requestID sub.amountUsed := by
  have owned := Owned.setUsed view requestID sub.amountUsed
  rwa [setUsed_of_found found] at owned

variable {after : UsageView} {used : Int}

theorem setRecord (owned : view.Owned after requestID used)
    {record : SubscriptionPreConsumeRecord} (request : record.requestId = requestID) :
    view.Owned (after.setRecord record) requestID used :=
  { owned with
    records := by
      intro other different
      rw [setRecord_records_of_ne _ (by rwa [request])]
      exact owned.records other different }

theorem setRow (owned : view.Owned after requestID used) {row : BillingAdjustment}
    (key : row.idempotencyKey = billingAdjustmentKey requestID) :
    view.Owned (after.setRow row) requestID used :=
  { owned with
    rows := by
      intro other different
      rw [setRow_rows_of_ne]
      · exact owned.rows other different
      · rw [key]
        exact fun same => different (billingAdjustmentKey_injective same) }

end UsageView.Owned

/-- What a step of one request does: it moves the counter and leaves the rows
of the request readable; the rows account for its share afterwards when they
did before. -/
structure OwnStep (id : Int) (sub : UserSubscription) (requestID : String) (extra : Int)
    (view after : UsageView) (used extraAfter : Int) : Prop where
  owned : view.Owned after requestID used
  counter : 0 ≤ used
  registers : after.Registers id { sub with amountUsed := used } requestID extraAfter
  accounts :
    ∀ contrib, contrib ≤ sub.amountUsed →
      view.Accounts sub requestID extra contrib →
        after.Accounts { sub with amountUsed := used } requestID extraAfter
          (contrib + (used - sub.amountUsed))

section OwnSteps

variable {calendar : Calendar} {id now : Int} {sub : UserSubscription}
  {requestID : String} {extra : Int} {db after : Database}
  {record : SubscriptionPreConsumeRecord}

theorem UsageView.registers_iff
    {view : UsageView} (present : view.records requestID = some record) :
    view.Registers id sub requestID extra ↔
      Registered id sub requestID record (view.rows (billingAdjustmentKey requestID)) extra := by
  rw [Registers, present]

theorem UsageView.accounts_iff {view : UsageView} {contrib : Int}
    (present : view.records requestID = some record) :
    view.Accounts sub requestID extra contrib ↔
      RowUsage sub record extra contrib (view.rows (billingAdjustmentKey requestID)) := by
  rw [Accounts, present]

theorem ownStep_kept {view : UsageView} (found : view.sub = some sub)
    (counter : 0 ≤ sub.amountUsed) (registers : view.Registers id sub requestID extra) :
    OwnStep id sub requestID extra view view sub.amountUsed extra where
  owned := .kept found
  counter := counter
  registers := registers
  accounts := by
    intro contrib _ accounts
    rw [Int.sub_self, Int.add_zero]
    exact accounts

theorem shiftUsed_nonnegative
    {used delta : Int} (counter : 0 ≤ used) : 0 ≤ shiftUsed used delta := by
  unfold shiftUsed
  split <;> omega

theorem refundSubscriptionReservedExtra_usage {amount removed : Int}
    (found : (db.usageView id).sub = some sub)
    (present : (db.usageView id).records requestID = some record)
    (reserve : ReserveOn id requestID record) (positive : 0 < amount)
    (done : refundSubscriptionReservedExtra db requestID id amount = .ok (removed, after)) :
    after.usageView id =
      ((db.usageView id).setRecord (shrunkRecord sub record amount)).setUsed
        (shiftUsed sub.amountUsed (-removedExtra sub record amount)) := by
  have spec := refundSubscriptionReservedExtra_spec found present reserve positive done
  unfold shrunkRecord removedExtra
  split at spec
  · rename_i cleared
    obtain ⟨_, rfl, view⟩ := spec
    simp only [if_pos cleared, view]
  · rename_i current
    obtain ⟨rfl, view⟩ := spec
    have unchanged : (db.usageView id).setRecord record = db.usageView id := by
      rw [setRecord, reserve.request, ← present, Function.update_eq_self]
    simp only [if_neg current, view, unchanged]

structure SettlesOwn (id : Int) (requestID : String) (record : SubscriptionPreConsumeRecord)
    (row : BillingAdjustment) : Prop where
  carries : RowOn id requestID (billingAdjustmentKey requestID) row
  consumedAt : row.subscriptionConsumedAt = record.createdAt

variable {req : BillingAdjustmentRequest}

theorem SettlesUsage.own {view : UsageView} {row : BillingAdjustment}
    (settles : SettlesUsage view now record req row)
    (sends : SendsOn id requestID (billingAdjustmentKey requestID) req)
    (registered :
      Registered id sub requestID record (view.rows (billingAdjustmentKey requestID)) extra) :
    SettlesOwn id requestID record row := by
  rcases settles with located | ⟨_, rfl⟩
  · rw [sends.key] at located
    obtain ⟨carries, consumedAt⟩ := registered.carries row located
    exact ⟨carries, consumedAt⟩
  · exact ⟨sends.rowOn now record.createdAt, rfl⟩

theorem heldRow_of_same {row : BillingAdjustment} (valid : req.Valid)
    (same : req.same row = true) (extraReserved : req.extraReserved = extra)
    (reservation : req.reservationQuota = record.preConsumed + extra) :
    HeldRow record extra row := by
  obtain ⟨_, _, _, _, funding, _, charge, reserved, extraSame, _⟩ :=
    same_iff.mp same
  have balanced := valid.balanced
  have nonnegative := valid.charge
  constructor <;> omega

theorem ensurePendingBillingAdjustment_usage {key : String}
    (present : (db.usageView id).records requestID = some record)
    (nonempty : requestID ≠ "") (sends : SendsOn id requestID key req)
    (done : ensurePendingBillingAdjustment db now req = .ok after) :
    req.Valid ∧
      ∃ row,
        SettlesUsage (db.usageView id) now record req row ∧ req.same row = true ∧
          after.usageView id = (db.usageView id).setRow row := by
  obtain ⟨_, checked, done⟩ := bind_ok_iff.mp done
  obtain ⟨⟨row, mid⟩, locked, done⟩ := bind_ok_iff.mp done
  refine ⟨valid_of_validate checked, row, ?_⟩
  obtain ⟨settles, _, view⟩ := lockOrCreateBillingAdjustment_usage present nonempty sends locked
  obtain ⟨same, done⟩ := checked_same done
  split at done
  · cases done
    exact ⟨settles, same, view⟩
  · cases done
    exact ⟨settles, same, view⟩
  · cases done

theorem refundUsed_nonnegative {lastResetTime used amount consumedAt : Int} (counter : 0 ≤ used) :
    0 ≤ refundUsed lastResetTime used amount consumedAt := by
  unfold refundUsed
  split <;> omega

private theorem closedUsed_nonnegative {amount : Int} (counter : 0 ≤ sub.amountUsed) : 0 ≤
      if record.status = .refunded then sub.amountUsed
      else
        refundUsed sub.lastResetTime sub.amountUsed amount record.createdAt := by
  split
  · exact counter
  · exact refundUsed_nonnegative counter

theorem returnedUsed_nonnegative {extraReserved : Int} (counter : 0 ≤ sub.amountUsed) :
    0 ≤ returnedUsed sub record extraReserved :=
  refundUsed_nonnegative (refundUsed_nonnegative (closedUsed_nonnegative counter))

theorem reversedUsed_nonnegative {row : BillingAdjustment} (counter : 0 ≤ sub.amountUsed) :
    0 ≤ reversedUsed sub record row := by
  have closed := @closedUsed_nonnegative sub record row.chargeQuota counter
  rw [reversedUsed]
  generalize (if row.updatedAt ≤ 0 then row.createdAt else row.updatedAt) = appliedAt
  split
  · exact Int.le_max_left 0 _
  · exact closed

section

variable {view : UsageView} {row : BillingAdjustment}
  (present : view.records requestID = some record)
  (registers : view.Registers id sub requestID extra)
include present registers

theorem ownStep_rolledBack {used quota posted : Int}
    (own : SettlesOwn id requestID record row) (nonnegative : 0 ≤ posted) (counter : 0 ≤ used)
    (takes : ∀ contrib, contrib ≤ sub.amountUsed →
        RowUsage sub record extra contrib (view.rows (billingAdjustmentKey requestID)) →
          used = sub.amountUsed - contrib) :
    OwnStep id sub requestID extra view
      (((view.setUsed used).setRecord
          { record with
            status := .refunded
            postResetReserved := posted }).setRow
        (row.refunded now quota))
      used extra := by
  have registered := (registers_iff present).mp registers
  have carries := own.carries.refunded now quota
  have marked := registered.mark .refunded nonnegative
  have request := marked.reserve.request
  have present' :
      (((view.setUsed used).setRecord
          { record with
            status := .refunded
            postResetReserved := posted }).setRow
        (row.refunded now quota)).records requestID =
        some { record with status := .refunded, postResetReserved := posted } := by
    rw [setRow_records, ← request]
    exact setRecord_records_self _ _
  have stored :
      (((view.setUsed used).setRecord
          { record with
            status := .refunded
            postResetReserved := posted }).setRow
        (row.refunded now quota)).rows (billingAdjustmentKey requestID) =
        some (row.refunded now quota) := by
    rw [← carries.key]
    exact setRow_rows_self _ _
  refine ⟨((Owned.setUsed _ requestID _).setRecord request).setRow carries.key, counter, ?_, ?_⟩
  · rw [registers_iff present', stored]
    exact (marked.setRow carries own.consumedAt).setUsed _
  · intro contrib within accounts
    rw [accounts_iff present] at accounts
    rw [accounts_iff present', stored]
    have taken := takes contrib within accounts
    change contrib + (used - sub.amountUsed) = 0
    omega

/-- A reserve returns what the subscription still counts of it. -/
theorem ownStep_returned (counter : 0 ≤ sub.amountUsed) (own : SettlesOwn id requestID record row)
    (works : view.rows (billingAdjustmentKey requestID) = some row ∧ row.status = .pending ∨
        view.rows (billingAdjustmentKey requestID) = none ∧ row.extraReserved = extra) :
    ∃ used,
      OwnStep id sub requestID extra view (view.returnReservation now sub record row)
        used extra := by
  have registered := (registers_iff present).mp registers
  refine ⟨returnedUsed sub record row.extraReserved,
      ownStep_rolledBack present registers own (Int.le_refl 0)
        (returnedUsed_nonnegative counter) ?_⟩
  intro contrib within usage
  rcases works with ⟨located, pending⟩ | ⟨absent, extraReserved⟩
  · rw [located] at usage registered
    have held : HeldRow record extra row := by
      simp only [RowUsage, pending] at usage
      exact usage.2.2
    rw [held.extraReserved]
    exact usage.returned registered (openRow_some pending) within
  · rw [absent] at usage registered
    rw [extraReserved]
    exact usage.returned registered openRow_none within

end

variable (found : (db.usageView id).sub = some sub)
  (counter : 0 ≤ sub.amountUsed)
  (present : (db.usageView id).records requestID = some record)
  (registers : (db.usageView id).Registers id sub requestID extra)

include found counter present registers

/-- Growing a reserve counts as much on the subscription. -/
theorem ownStep_reserve {delta : Int}
    (absent : (db.usageView id).rows (billingAdjustmentKey requestID) = none)
    (done : reserveUserSubscriptionDelta db requestID id delta = .ok after) :
    0 ≤ delta ∧
      after.usageView id =
        ((db.usageView id).setRecord (extendedRecord sub record delta)).setUsed
          (sub.amountUsed + delta) ∧
      OwnStep id sub requestID extra (db.usageView id) (after.usageView id)
        (sub.amountUsed + delta) (extra + delta) := by
  have registered := (registers_iff present).mp registers
  rw [absent] at registered
  obtain ⟨nonnegative, view⟩ :=
    reserveUserSubscriptionDelta_spec found present registered.reserve done
  have shifted : shiftUsed sub.amountUsed delta = sub.amountUsed + delta :=
    shiftUsed_of_nonnegative (by omega)
  change
    after.usageView id =
      ((db.usageView id).setRecord (extendedRecord sub record delta)).setUsed
        (shiftUsed sub.amountUsed delta) at view
  have extended := registered.extend nonnegative
  have request := extended.reserve.request
  have present' :
      (after.usageView id).records requestID = some (extendedRecord sub record delta) := by
    rw [view, setUsed_records, ← request]
    exact setRecord_records_self _ _
  have absent' : (after.usageView id).rows (billingAdjustmentKey requestID) = none := by
    rw [view]
    exact absent
  refine ⟨nonnegative, by rw [view, shifted], ?_, by omega, ?_, ?_⟩
  · rw [view, shifted, setUsed_setRecord]
    exact (Owned.setUsed _ requestID _).setRecord request
  · rw [registers_iff present', absent']
    exact extended.setUsed _
  · intro contrib _ accounts
    rw [accounts_iff present, absent] at accounts
    rw [accounts_iff present', absent', ← shifted]
    exact (accounts.extend counter nonnegative).setUsed _

theorem ownStep_refundExtra {amount removed : Int}
    (absent : (db.usageView id).rows (billingAdjustmentKey requestID) = none)
    (positive : 0 < amount) (covered : amount ≤ extra)
    (done : refundSubscriptionReservedExtra db requestID id amount = .ok (removed, after)) :
    OwnStep id sub requestID extra (db.usageView id) (after.usageView id)
      (shiftUsed sub.amountUsed (-removedExtra sub record amount))
      (extra - amount) := by
  have registered := (registers_iff present).mp registers
  rw [absent] at registered
  have view := refundSubscriptionReservedExtra_usage found present registered.reserve positive done
  have shrunk := registered.shrink covered
  have request := shrunk.reserve.request
  have present' :
      (after.usageView id).records requestID = some (shrunkRecord sub record amount) := by
    rw [view, setUsed_records, ← request]
    exact setRecord_records_self _ _
  have absent' : (after.usageView id).rows (billingAdjustmentKey requestID) = none := by
    rw [view]
    exact absent
  refine ⟨?_, shiftUsed_nonnegative counter, ?_, ?_⟩
  · rw [view, setUsed_setRecord]
    exact (Owned.setUsed _ requestID _).setRecord request
  · rw [registers_iff present', absent']
    exact shrunk.setUsed _
  · intro contrib within accounts
    rw [accounts_iff present, absent] at accounts
    rw [accounts_iff present', absent']
    exact (accounts.shrink registered within covered).2.setUsed _

/-! ## Ledger steps of a request -/

theorem ownStep_ensurePending (sends : SendsOn id requestID (billingAdjustmentKey requestID) req)
    (extraReserved : req.extraReserved = extra)
    (reservation : req.reservationQuota = record.preConsumed + extra)
    (done : ensurePendingBillingAdjustment db now req = .ok after) :
    OwnStep id sub requestID extra (db.usageView id) (after.usageView id) sub.amountUsed extra := by
  have registered := (registers_iff present).mp registers
  obtain ⟨valid, row, settles, same, view⟩ :=
    ensurePendingBillingAdjustment_usage present registered.reserve.nonempty sends done
  have own := settles.own sends registered
  rcases settles with located | ⟨absent, rfl⟩
  · have unchanged : after.usageView id = db.usageView id := by
      rw [view, setRow, own.carries.key, ← sends.key, ← located, Function.update_eq_self]
    rw [unchanged]
    exact ownStep_kept found counter registers
  · have present' : (after.usageView id).records requestID = some record := by
      rw [view]
      exact present
    have stored : (after.usageView id).rows (billingAdjustmentKey requestID) =
          some (req.pendingRow now record.createdAt) := by
      rw [view, ← own.carries.key]
      exact setRow_rows_self _ _
    refine ⟨?_, counter, ?_, ?_⟩
    · rw [view]
      exact (Owned.kept found).setRow own.carries.key
    · rw [registers_iff present', stored]
      exact registered.setRow own.carries own.consumedAt
    · intro contrib _ accounts
      rw [sends.key] at absent
      rw [accounts_iff present, absent] at accounts
      rw [accounts_iff present', stored, Int.sub_self, Int.add_zero]
      exact accounts.open rfl (heldRow_of_same valid same extraReserved reservation)

/-- Applying a charge leaves what the request has used. -/
theorem ownStep_apply {outcome : ApplyOutcome}
    (started : 0 < now) (passed : sub.lastResetTime ≤ now)
    (sends : SendsOn id requestID (billingAdjustmentKey requestID) req)
    (extraReserved : req.extraReserved = extra)
    (reservation : req.reservationQuota = record.preConsumed + extra)
    (done : applyBillingAdjustment db now req = .ok (outcome, after)) :
    ∃ used, OwnStep id sub requestID extra (db.usageView id) (after.usageView id) used extra := by
  have registered := (registers_iff present).mp registers
  obtain ⟨valid, applied⟩ :=
    applyBillingAdjustment_usage found present registered.reserve sends registered.ownsKey done
  generalize after.usageView id = view at applied
  cases applied with
  | replayed _ _ _ => exact ⟨sub.amountUsed, ownStep_kept found counter registers⟩
  | @settled row settles same pending =>
    have own := settles.own sends registered
    have held := heldRow_of_same valid same extraReserved reservation
    have isOpen : OpenRow ((db.usageView id).rows (billingAdjustmentKey requestID)) := by
      rcases settles with located | ⟨absent, _⟩
      · rw [← sends.key, located]
        exact openRow_some pending
      · rw [← sends.key, absent]
        exact openRow_none
    have carries := own.carries.settled now
    have stored :
        (((db.usageView id).setUsed (settledUsed sub record row)).setRow
            (row.settled now)).rows (billingAdjustmentKey requestID) =
          some (row.settled now) := by
      rw [← carries.key]
      exact setRow_rows_self _ _
    refine ⟨settledUsed sub record row, (Owned.setUsed _ requestID _).setRow carries.key,
        shiftUsed_nonnegative counter, ?_, ?_⟩
    · rw [registers_iff (by exact present), stored]
      exact (registered.setRow carries own.consumedAt).setUsed _
    · intro contrib within accounts
      rw [accounts_iff present] at accounts
      rw [accounts_iff (by exact present), stored]
      obtain ⟨charged, usage⟩ := accounts.settle isOpen held own.consumedAt within started passed
      rw [charged]
      exact usage.setUsed _

/-- A rollback takes out what the request has used. -/
theorem ownStep_rollback {actualQuota : Int} {writes : List CacheWrite} (positive : 0 < id)
    (done : rollbackBillingAdjustment db now (billingAdjustmentKey requestID) actualQuota =
        .ok (writes, after)) :
    ∃ used, OwnStep id sub requestID extra (db.usageView id) (after.usageView id) used extra := by
  have registered := (registers_iff present).mp registers
  have rolledBack :=
    rollbackBillingAdjustment_usage found present registered.reserve positive registered.ownsKey done
  generalize after.usageView id = view at rolledBack
  cases rolledBack with
  | kept _ _ => exact ⟨sub.amountUsed, ownStep_kept found counter registers⟩
  | @returned row located pending _ _ =>
    obtain ⟨carries, consumedAt⟩ := registered.carries row located
    exact ownStep_returned present registers counter ⟨carries, consumedAt⟩
      (Or.inl ⟨located, pending⟩)
  | @reversed row located applied =>
    obtain ⟨carries, consumedAt⟩ := registered.carries row located
    refine ⟨reversedUsed sub record row,
        ownStep_rolledBack present registers ⟨carries, consumedAt⟩
          registered.posted (reversedUsed_nonnegative counter) ?_⟩
    intro contrib within usage
    rw [located] at usage registered
    exact usage.reversed registered applied within

theorem ownStep_refundReservation {refund : BillingReservationRefund} {writes : List CacheWrite}
    (returns : ReturnsOn id requestID (billingAdjustmentKey requestID) refund)
    (extraReserved : refund.extraReserved = extra)
    (done : refundBillingReservation db now refund = .ok (writes, after)) :
    ∃ used, OwnStep id sub requestID extra (db.usageView id) (after.usageView id) used extra := by
  have registered := (registers_iff present).mp registers
  have refunded := refundBillingReservation_usage found present registered.reserve returns
    registered.ownsKey done
  generalize after.usageView id = view at refunded
  cases refunded with
  | kept _ _ => exact ⟨sub.amountUsed, ownStep_kept found counter registers⟩
  | @returned row works pending _ _ =>
    rcases works with located | ⟨absent, rfl⟩
    · rw [returns.key] at located
      obtain ⟨carries, consumedAt⟩ := registered.carries row located
      exact ownStep_returned present registers counter ⟨carries, consumedAt⟩
        (Or.inl ⟨located, pending⟩)
    · rw [returns.key] at absent
      exact ownStep_returned present registers counter
        ⟨returns.rowOn now record.createdAt, rfl⟩ (Or.inr ⟨absent, extraReserved⟩)

end OwnSteps

/-! ## The subscription between two steps -/

structure Tracked (calendar : Calendar) (id : Int) (plan : SubscriptionPlan)
    (view : UsageView) (clock : Int) (extra : String → Int) (sub : UserSubscription) : Prop where
  found : view.sub = some sub
  ids : view.ids = [id]
  planned : view.plans sub.planId = some plan
  scheduled : Scheduled calendar plan sub
  active : sub.status = .active
  positive : 0 < id
  started : 0 < clock
  passed : sub.lastResetTime ≤ clock
  counter : 0 ≤ sub.amountUsed
  registers : ∀ requestID, view.Registers id sub requestID (extra requestID)

/-- The rows of every request account for its share, and the counter covers
all shares. -/
structure Accounted (view : UsageView) (extra contrib : String → Int)
    (sub : UserSubscription) : Prop where
  accounts : ∀ requestID, view.Accounts sub requestID (extra requestID) (contrib requestID)
  covered : Shares.Covered contrib sub.amountUsed

section Invariants

variable {calendar : Calendar} {id now clock : Int} {plan : SubscriptionPlan}
  {view after : UsageView} {extra contrib : String → Int}
  {sub : UserSubscription} {requestID : String}

theorem Accounted.share_le (accounted : Accounted view extra contrib sub)
    (tracked : Tracked calendar id plan view clock extra sub) (requestID : String) :
    contrib requestID ≤ sub.amountUsed :=
  accounted.covered.share_le
    (fun other => (accounted.accounts other).nonnegative (tracked.registers other))
    requestID

theorem Tracked.later (tracked : Tracked calendar id plan view clock extra sub)
    (later : clock ≤ now) :
    Tracked calendar id plan view now extra sub :=
  { tracked with
    started := by
      have started := tracked.started
      omega
    passed := by
      have passed := tracked.passed
      omega }

section

variable {other : String} (owned : view.Owned after requestID used) (different : other ≠ requestID)
include owned different

theorem UsageView.Owned.registers_iff {used moved : Int} :
    after.Registers id { sub with amountUsed := used } other moved ↔
      view.Registers id { sub with amountUsed := used } other moved := by
  rw [Registers, Registers, owned.records other different, owned.rows other different]

theorem UsageView.Owned.accounts_iff {used moved share : Int} :
    after.Accounts { sub with amountUsed := used } other moved share ↔
      view.Accounts { sub with amountUsed := used } other moved share := by
  rw [Accounts, Accounts, owned.records other different, owned.rows other different]

end

theorem UsageView.Registers.setUsed {moved : Int}
    (registers : view.Registers id sub requestID moved) (used : Int) :
    view.Registers id { sub with amountUsed := used } requestID moved := by
  unfold Registers at registers ⊢
  split at registers
  · exact registers
  · exact registers.setUsed used

theorem UsageView.Accounts.setUsed {moved share : Int}
    (accounts : view.Accounts sub requestID moved share) (used : Int) :
    view.Accounts { sub with amountUsed := used } requestID moved share := by
  unfold Accounts at accounts ⊢
  split at accounts
  · exact accounts
  · exact accounts.setUsed used

theorem Tracked.own {used moved : Int} (tracked : Tracked calendar id plan view clock extra sub)
    (step : OwnStep id sub requestID (extra requestID) view after used moved) :
    Tracked calendar id plan after clock (Function.update extra requestID moved)
      { sub with amountUsed := used } where
  found := by
    rw [step.owned.sub, tracked.found]
    rfl
  ids := by rw [step.owned.ids, tracked.ids]
  planned := by
    rw [step.owned.plans]
    exact tracked.planned
  scheduled := tracked.scheduled
  active := tracked.active
  positive := tracked.positive
  started := tracked.started
  passed := tracked.passed
  counter := step.counter
  registers := by
    intro other
    by_cases same : other = requestID
    · subst same
      rw [Function.update_self]
      exact step.registers
    · rw [Function.update_of_ne same, step.owned.registers_iff same]
      exact (tracked.registers other).setUsed used

theorem Accounted.own {used moved : Int} (accounted : Accounted view extra contrib sub)
    (tracked : Tracked calendar id plan view clock extra sub)
    (step : OwnStep id sub requestID (extra requestID) view after used moved) :
    Accounted after (Function.update extra requestID moved)
      (Function.update contrib requestID (contrib requestID + (used - sub.amountUsed)))
      { sub with amountUsed := used } where
  accounts := by
    intro other
    by_cases same : other = requestID
    · subst same
      rw [Function.update_self, Function.update_self]
      exact
        step.accounts (contrib other) (accounted.share_le tracked other) (accounted.accounts other)
    · rw [Function.update_of_ne same, Function.update_of_ne same, step.owned.accounts_iff same]
      exact (accounted.accounts other).setUsed used
  covered := by
    have moved := accounted.covered.move requestID (used - sub.amountUsed)
    rwa [add_sub_cancel] at moved

def MidRow (calendar : Calendar) (plan : SubscriptionPlan) (now : Int)
    (sub mid : UserSubscription) : Prop :=
  mid = sub ∨ sub.ResetDue now ∧ mid = maybeResetUserSubscription calendar plan now sub

variable {mid : UserSubscription}

theorem Scheduled.lt_nextResetTime (scheduled : Scheduled calendar plan sub)
    (due : sub.ResetDue now) :
    sub.lastResetTime < sub.nextResetTime := by
  have positive := due.1
  have ends := scheduled ▸ positive
  have later := lt_calcNextResetTime ends
  rw [← scheduled] at later
  unfold UserSubscription.resetBase at later
  split at later <;> omega

theorem MidRow.outcome (midRow : MidRow calendar plan now sub mid)
    (scheduled : Scheduled calendar plan sub) :
    mid = sub ∧ mid.lastResetTime = sub.lastResetTime ∨
      sub.ResetDue now ∧ ResetRow calendar plan now sub mid ∧
        mid.amountUsed = 0 ∧ sub.lastResetTime < mid.lastResetTime := by
  rcases midRow with rfl | ⟨due, rfl⟩
  · exact Or.inl ⟨rfl, rfl⟩
  · have reset := maybeResetUserSubscription_of_due scheduled due
    have later := scheduled.lt_nextResetTime due
    have notBefore := reset.notBefore
    refine Or.inr ⟨due, reset, ?_, by omega⟩
    rw [reset.row]

theorem Tracked.midway (tracked : Tracked calendar id plan view clock extra sub)
    (later : clock ≤ now) (midRow : MidRow calendar plan now sub mid) :
    Tracked calendar id plan { view with sub := some mid } now extra mid := by
  rcases midRow.outcome tracked.scheduled with ⟨rfl, _⟩ | ⟨due, reset, zero, _⟩
  · have unchanged : { view with sub := some mid } = view := by rw [← tracked.found]
    rw [unchanged]
    exact tracked.later later
  · have row := reset.row
    refine
      { found := rfl
        ids := tracked.ids
        planned := ?_
        scheduled := reset.scheduled
        active := ?_
        positive := tracked.positive
        started := (tracked.later later).started
        passed := reset.notAfter
        counter := by omega
        registers := ?_ }
    · have planId : mid.planId = sub.planId := by rw [row]
      rw [planId]
      exact tracked.planned
    · have status : mid.status = sub.status := by rw [row]
      rw [status]
      exact tracked.active
    · intro other
      have registers := tracked.registers other
      unfold Registers at registers ⊢
      split at registers
      · rename_i absent
        simp only [absent]
        exact registers
      · rename_i record present
        simp only [present]
        exact registers.reset due reset

def surviving (sub mid : UserSubscription) (contrib : String → Int) : String → Int :=
  if mid.lastResetTime ≠ sub.lastResetTime then fun _ => 0 else contrib

theorem Accounted.midway (accounted : Accounted view extra contrib sub)
    (tracked : Tracked calendar id plan view clock extra sub)
    (midRow : MidRow calendar plan now sub mid)
    (clean : mid.lastResetTime ≠ sub.lastResetTime →
        ∀ requestID record, view.records requestID = some record →
          WipedBy mid.lastResetTime record (view.rows (billingAdjustmentKey requestID))) :
    Accounted { view with sub := some mid } extra (surviving sub mid contrib) mid := by
  rcases midRow.outcome tracked.scheduled with ⟨rfl, same⟩ | ⟨due, reset, zero, moved⟩
  · have unchanged : { view with sub := some mid } = view := by rw [← tracked.found]
    rw [unchanged, surviving, if_neg (not_not.mpr rfl)]
    exact accounted
  · have different : mid.lastResetTime ≠ sub.lastResetTime := by omega
    rw [surviving, if_pos different]
    refine ⟨?_, Shares.covered_zero (by omega)⟩
    intro other
    have accounts := accounted.accounts other
    have registers := tracked.registers other
    unfold Accounts at accounts ⊢
    unfold Registers at registers
    split at accounts
    · rename_i absent
      simp only [absent]
    · rename_i record present
      simp only [present] at registers ⊢
      exact accounts.reset registers due reset (clean different other record present)

end Invariants

/-! ## Inversion of a step -/

inductive StepEffect (id : Int) (view : UsageView) (extra : String → Int) (step : UsageStep)
    (mid : UserSubscription) : UsageView → Prop
  | own
      {requestID : String} {after : UsageView} {used : Int}
      (request : step.requestID = some requestID)
      (effect :
        OwnStep id mid requestID (extra requestID)
          { view with sub := some mid } after used
          (step.extraAfter extra requestID)) :
      StepEffect id view extra step mid after
  | idle
      (request : step.requestID = none) :
      StepEffect id view extra step mid { view with sub := some mid }

section Inversion

variable {calendar : Calendar} {id now : Int} {plan : SubscriptionPlan}
  {state : UsageState} {sub : UserSubscription} {after : Database}

theorem UsageStep.extraAfter_eq_update {step : UsageStep} {requestID : String}
    (request : step.requestID = some requestID) (extra : String → Int) :
    step.extraAfter extra = Function.update extra requestID (step.extraAfter extra requestID) := by
  cases step <;> cases request <;>
    simp only [UsageStep.extraAfter, Function.update_self, Function.update_eq_self]

theorem UsageStep.extraAfter_of_reset {step : UsageStep}
    (request : step.requestID = none) (extra : String → Int) :
    step.extraAfter extra = extra := by
  cases step <;> cases request
  rfl

private theorem midRow_maybeReset (scheduled : Scheduled calendar plan sub) :
    MidRow calendar plan now sub (maybeResetUserSubscription calendar plan now sub) := by
  by_cases due : sub.ResetDue now
  · exact Or.inr ⟨due, rfl⟩
  · exact Or.inl (maybeResetUserSubscription_of_notDue scheduled due)

/-- A new request counts its reserve on the subscription. -/
theorem ownStep_start {view : UsageView} {mid : UserSubscription} {requestID : String}
    {userId amount extra : Int} (absent : view.records requestID = none)
    (registers : view.Registers id mid requestID extra)
    (nonempty : requestID ≠ "") (positive : 0 < amount)
    (onSub : mid.id = id) (counter : 0 ≤ mid.amountUsed)
    (started : 0 < now) (seconds : now ≤ maxUnixSeconds)
    (passed : mid.lastResetTime ≤ now) (notDue : ¬mid.ResetDue now) :
    OwnStep id mid requestID extra { view with sub := some mid }
      (view.start now mid requestID userId amount)
      (mid.amountUsed + amount) extra := by
  simp only [Registers, absent] at registers
  obtain ⟨noRow, rfl⟩ := registers
  have present : (view.start now mid requestID userId amount).records requestID =
        some (startedRecord mid now requestID userId amount) :=
    setRecord_records_self _ (startedRecord mid now requestID userId amount)
  have noRow' :
      (view.start now mid requestID userId amount).rows (billingAdjustmentKey requestID) = none :=
    noRow
  refine ⟨?_, by omega, ?_, ?_⟩
  · exact (Owned.setUsed _ requestID _).setRecord rfl
  · rw [registers_iff present, noRow']
    exact (registered_start nonempty positive onSub started seconds notDue).setUsed _
  · intro contrib _ accounts
    simp only [Accounts, absent] at accounts
    have share : contrib + (mid.amountUsed + amount - mid.amountUsed) = amount := by omega
    rw [accounts_iff present, noRow', share]
    exact (rowUsage_start started seconds passed).setUsed _

theorem resetDueSubscription_usage
    (tracked : Tracked calendar id plan (state.db.usageView id) state.clock state.extra sub) :
    ∃ mid,
      MidRow calendar plan now sub mid ∧
        (resetDueSubscription calendar state.db now id).usageView id =
          { state.db.usageView id with sub := some mid } := by
  have located : state.db.subscriptions.lookup id = some sub := tracked.found
  have planned : state.db.plans.lookup sub.planId = some plan := tracked.planned
  unfold resetDueSubscription
  simp only [located, planned]
  split
  · rename_i due
    exact
      ⟨_, Or.inr ⟨⟨due.1, due.2.1⟩, rfl⟩, maybeResetUserSubscriptionWithPlanTx_usage tracked.found⟩
  · refine ⟨sub, Or.inl rfl, ?_⟩
    rw [← tracked.found]

private theorem effect_of_own {step : UsageStep} {requestID : String} {view next : UsageView}
    {extra : String → Int} {used : Int} (found : view.sub = some sub)
    (request : step.requestID = some requestID)
    (effect :
      OwnStep id sub requestID (extra requestID) view next used (step.extraAfter extra requestID)) :
    ∃ mid,
      MidRow calendar plan now sub mid ∧ (step.looksForReset = false → mid = sub) ∧
        StepEffect id view extra step mid next := by
  refine ⟨sub, Or.inl rfl, fun _ => rfl, ?_⟩
  have unchanged : { view with sub := some sub } = view := by rw [← found]
  rw [← unchanged] at effect
  exact .own request effect

section

variable (tracked : Tracked calendar id plan (state.db.usageView id) state.clock state.extra sub)
include tracked

/-- A repeat changes nothing; a new request starts after the reset that was due. -/
theorem preConsume_cases {requestID : String} {userId amount : Int} {usingGroup : String}
    {baseGroups : List String} (later : state.clock ≤ now) (seconds : now ≤ maxUnixSeconds)
    (done :
      preConsumeUserSubscriptionTx calendar state.db now requestID userId
          amount usingGroup baseGroups =
        .ok after) :
    after = state.db ∨
      ∃ mid,
        MidRow calendar plan now sub mid ∧ (state.db.usageView id).records requestID = none ∧
          after.usageView id = (state.db.usageView id).start now mid requestID userId amount ∧
          OwnStep id mid requestID (state.extra requestID)
            { state.db.usageView id with sub := some mid }
            (after.usageView id) (mid.amountUsed + amount)
            (state.extra requestID) := by
  obtain ⟨nonempty, positive, outcome⟩ :=
    preConsumeUserSubscriptionTx_usage tracked.found tracked.ids tracked.planned done
  rcases outcome with ⟨_, rfl⟩ | ⟨absent, view⟩
  · exact Or.inl rfl
  have midRow := @midRow_maybeReset calendar now plan sub tracked.scheduled
  have middle := tracked.midway later midRow
  have onSub : (maybeResetUserSubscription calendar plan now sub).id = id := by
    rw [maybeResetUserSubscription_id]
    exact KeyedTable.key_of_lookup tracked.found
  have notDue : ¬(maybeResetUserSubscription calendar plan now sub).ResetDue now := by
    by_cases due : sub.ResetDue now
    · exact (maybeResetUserSubscription_of_due tracked.scheduled due).notDue
    · rw [maybeResetUserSubscription_of_notDue tracked.scheduled due]
      exact due
  refine Or.inr ⟨_, midRow, absent, view, ?_⟩
  rw [view]
  exact ownStep_start absent (middle.registers requestID) nonempty positive
      onSub middle.counter middle.started seconds middle.passed notDue

/-- Every committed step of the protocol resets the row if that is due and the
step looks for it, and then makes one own step of its request, if it has
one. -/
theorem transaction_effect {step : UsageStep} (protocol : state.Protocol id (now, step))
    (done : step.transaction calendar id state.db now = .ok after) :
    ∃ mid,
      MidRow calendar plan now sub mid ∧ (step.looksForReset = false → mid = sub) ∧
        StepEffect id (state.db.usageView id) state.extra step mid (after.usageView id) := by
  obtain ⟨later, seconds, allowed⟩ := protocol
  have found := tracked.found
  have counter := tracked.counter
  have atNow := tracked.later later
  cases step with
  | preConsume requestID userId amount usingGroup baseGroups =>
    rcases preConsume_cases tracked later seconds done with rfl | ⟨mid, midRow, _, _, effect⟩
    · exact effect_of_own found rfl (ownStep_kept found counter (tracked.registers requestID))
    · exact ⟨mid, midRow, by rintro ⟨⟩, .own rfl effect⟩
  | reserve requestID delta =>
    obtain ⟨known, absent⟩ := allowed
    obtain ⟨record, present⟩ := Option.ne_none_iff_exists'.mp known
    have effect :=
      (ownStep_reserve found counter present (tracked.registers requestID) absent done).2.2
    have held : (UsageStep.reserve requestID delta).extraAfter state.extra requestID =
          state.extra requestID + delta :=
      Function.update_self ..
    rw [← held] at effect
    exact effect_of_own found rfl effect
  | refundExtra requestID amount =>
    obtain ⟨⟨known, absent⟩, positive, covered⟩ := allowed
    obtain ⟨record, present⟩ := Option.ne_none_iff_exists'.mp known
    obtain ⟨⟨removed, _⟩, refunded, rfl⟩ := map_eq_ok_iff.mp done
    have effect :=
      ownStep_refundExtra found counter present (tracked.registers requestID)
        absent positive covered refunded
    have held : (UsageStep.refundExtra requestID amount).extraAfter state.extra requestID =
          state.extra requestID - amount :=
      Function.update_self ..
    rw [← held] at effect
    exact effect_of_own found rfl effect
  | ensurePending req =>
    obtain ⟨sends, extraReserved, record, present, reservation⟩ := allowed
    exact effect_of_own found rfl
        (ownStep_ensurePending found counter present
          (tracked.registers req.requestID) sends extraReserved reservation
          done)
  | apply req =>
    obtain ⟨sends, extraReserved, record, present, reservation⟩ := allowed
    obtain ⟨⟨outcome, _⟩, applied, rfl⟩ := map_eq_ok_iff.mp done
    obtain ⟨used, effect⟩ :=
      ownStep_apply found counter present
        (tracked.registers req.requestID) atNow.started atNow.passed sends
        extraReserved reservation applied
    exact effect_of_own found rfl effect
  | rollback requestID actualQuota =>
    obtain ⟨⟨writes, _⟩, rolledBack, rfl⟩ := map_eq_ok_iff.mp done
    have registers := tracked.registers requestID
    cases present : (state.db.usageView id).records requestID with
    | none =>
      -- Without a pre-consume there is no ledger row to roll back.
      simp only [Registers, present] at registers
      have absent : state.db.billingAdjustments.lookup (billingAdjustmentKey requestID) = none :=
        registers.1
      simp only [rollbackBillingAdjustment, absent] at rolledBack
      split at rolledBack
      · cases rolledBack
      split at rolledBack <;> cases rolledBack
    | some record =>
      obtain ⟨used, effect⟩ :=
        ownStep_rollback found counter present registers tracked.positive rolledBack
      exact effect_of_own found rfl effect
  | refundReservation refund =>
    obtain ⟨returns, extraReserved, known⟩ := allowed
    obtain ⟨record, present⟩ := Option.ne_none_iff_exists'.mp known
    obtain ⟨⟨writes, _⟩, refunded, rfl⟩ := map_eq_ok_iff.mp done
    obtain ⟨used, effect⟩ :=
      ownStep_refundReservation found counter present
        (tracked.registers refund.requestID) returns extraReserved refunded
    exact effect_of_own found rfl effect
  | reset =>
    cases done
    obtain ⟨mid, midRow, view⟩ := resetDueSubscription_usage tracked
    rw [view]
    exact ⟨mid, midRow, by rintro ⟨⟩, .idle rfl⟩

end

section

variable {db : Database} (found : (db.usageView id).sub = some sub)
include found

theorem usedIn_of_found :
    usedIn db id = sub.amountUsed := by
  rw [usedIn, found]
  rfl

theorem lastResetIn_of_found :
    lastResetIn db id = sub.lastResetTime := by
  rw [lastResetIn, found]
  rfl

theorem attributed_of_effect {mid : UserSubscription} {contrib : String → Int} {requestID : String}
    {used : Int} (midRow : MidRow calendar plan now sub mid)
    (scheduled : Scheduled calendar plan sub)
    (left : (after.usageView id).sub = some { mid with amountUsed := used }) :
    attributed id db after contrib (some requestID) =
      Function.update (surviving sub mid contrib) requestID
        (surviving sub mid contrib requestID + (used - mid.amountUsed)) := by
  simp only [attributed, surviving, usedIn_of_found found, usedIn_of_found left,
    lastResetIn_of_found found, lastResetIn_of_found left]
  rcases midRow.outcome scheduled with ⟨rfl, _⟩ | ⟨_, _, zero, moved⟩
  · simp only [ne_eq, not_true, if_false]
  · rw [if_pos (by omega), if_pos (by omega), zero]

theorem attributed_of_idle {mid : UserSubscription} {contrib : String → Int}
    (left : (after.usageView id).sub = some mid) :
    attributed id db after contrib none = surviving sub mid contrib := by
  simp only [attributed, surviving, lastResetIn_of_found found, lastResetIn_of_found left]

end

/-- At a step that resets the subscription, nothing the reset wipes is on
record as usage of the new period. -/
def UsageState.WipesClean (calendar : Calendar) (id : Int) (state : UsageState)
    (action : Int × UsageStep) : Prop :=
  ∀ after, action.2.transaction calendar id state.db action.1 = .ok after →
    lastResetIn after id ≠ lastResetIn state.db id →
      ∀ requestID record,
        (state.db.usageView id).records requestID = some record →
          WipedBy (lastResetIn after id) record
            ((state.db.usageView id).rows (billingAdjustmentKey requestID))

def UsageInvariant (calendar : Calendar) (id : Int) (plan : SubscriptionPlan)
    (state : UsageState) : Prop :=
  ∃ sub,
    Tracked calendar id plan (state.db.usageView id) state.clock state.extra
      sub ∧
      Accounted (state.db.usageView id) state.extra state.contrib sub

/-- One step keeps the usage, however requests overlap. -/
theorem UsageInvariant.step {action : Int × UsageStep}
    (invariant : UsageInvariant calendar id plan state)
    (protocol : state.Protocol id action) (clean : state.WipesClean calendar id action) :
    UsageInvariant calendar id plan (state.step calendar id action) := by
  obtain ⟨sub, tracked, accounted⟩ := invariant
  have later := protocol.1
  obtain ⟨now, step⟩ := action
  unfold UsageState.step
  split
  · exact ⟨sub, tracked.later later, accounted⟩
  rename_i after done
  obtain ⟨mid, midRow, _, effect⟩ := transaction_effect tracked protocol done
  have middle := tracked.midway later midRow
  have found := tracked.found
  have kept : lastResetIn after id = mid.lastResetTime →
        Accounted { state.db.usageView id with sub := some mid }
          state.extra (surviving sub mid state.contrib) mid := by
    intro boundary
    refine accounted.midway tracked midRow ?_
    intro moved
    rw [← boundary]
    apply clean after done
    rw [boundary, lastResetIn_of_found found]
    exact moved
  generalize viewEq : after.usageView id = view at effect
  cases effect with
  | @own requestID _ used request effect =>
    have left : (after.usageView id).sub = some { mid with amountUsed := used } := by
      rw [viewEq, effect.owned.sub]
      rfl
    have boundary : lastResetIn after id = mid.lastResetTime :=
      (lastResetIn_of_found left).trans rfl
    have shares := kept boundary
    rw [UsageStep.extraAfter_eq_update request, request,
      attributed_of_effect found midRow tracked.scheduled left, UsageInvariant]
    rw [viewEq]
    exact ⟨_, middle.own effect, shares.own middle effect⟩
  | idle request =>
    have left : (after.usageView id).sub = some mid := by rw [viewEq]
    have shares := kept (lastResetIn_of_found left)
    rw [UsageStep.extraAfter_of_reset request, request,
      attributed_of_idle found left, UsageInvariant]
    rw [viewEq]
    exact ⟨mid, middle, shares⟩

end Inversion

end NewApi.Billing
