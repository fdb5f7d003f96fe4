import NewApi.Billing.SubscriptionRuns

/-!
# Attribution of subscription usage

In every run whose resets find nothing on record that they wipe, a refund takes
no more than its request has put into the current period.  A settlement charges
the new period exactly once precisely when no reset ran while a post-reset
reserve of the request was on record.
-/

namespace NewApi.Billing

open Transactions UsageView UsageState UsageStep

/-! ## Refunds -/

structure UsageState.Initial (calendar : Calendar) (id : Int) (plan : SubscriptionPlan)
    (state : UsageState) (sub : UserSubscription) : Prop where
  found : (state.db.usageView id).sub = some sub
  ids : (state.db.usageView id).ids = [id]
  planned : (state.db.usageView id).plans sub.planId = some plan
  scheduled : Scheduled calendar plan sub
  active : sub.status = .active
  positive : 0 < id
  started : 0 < state.clock
  passed : sub.lastResetTime ≤ state.clock
  counter : 0 ≤ sub.amountUsed
  noRecord : ∀ requestID, (state.db.usageView id).records requestID = none
  noRow : ∀ requestID, (state.db.usageView id).rows (billingAdjustmentKey requestID) = none
  contrib : ∀ requestID, state.contrib requestID = 0
  extra : ∀ requestID, state.extra requestID = 0

section Refunds

variable {calendar : Calendar} {id : Int} {plan : SubscriptionPlan}
  {state : UsageState} {sub : UserSubscription}

theorem UsageState.Initial.tracked (initial : state.Initial calendar id plan sub) :
    Tracked calendar id plan (state.db.usageView id) state.clock state.extra sub :=
  { initial with
    registers := by
      intro requestID
      simp only [Registers, initial.noRecord requestID]
      exact ⟨initial.noRow requestID, initial.extra requestID⟩ }

theorem UsageState.Initial.accounted (initial : state.Initial calendar id plan sub) :
    Accounted (state.db.usageView id) state.extra state.contrib sub where
  accounts := by
    intro requestID
    simp only [Accounts, initial.noRecord requestID]
    exact initial.contrib requestID
  covered := by
    have shares : state.contrib = fun _ => 0 := funext initial.contrib
    rw [shares]
    exact Shares.covered_zero initial.counter

def UsageStep.refunds : UsageStep → Option String
  | .refundExtra requestID _ => some requestID
  | .rollback requestID _ => some requestID
  | .refundReservation refund => some refund.requestID
  | _ => none

def UsageState.Sound (calendar : Calendar) (id : Int) (state : UsageState)
    (action : Int × UsageStep) : Prop :=
  state.Protocol id action ∧ state.WipesClean calendar id action

/-- A refund of a request takes no more than the share of the request, and a
request that was rolled back has no share. -/
structure AttributesUsage (calendar : Calendar) (id : Int) (state : UsageState) : Prop where
  refunds :
    ∀ now step requestID, step.refunds = some requestID →
      state.Protocol id (now, step) →
        usedIn state.db id -
            usedIn (state.step calendar id (now, step)).db id ≤
          state.contrib requestID
  rolledBack :
    ∀ requestID row,
      (state.db.usageView id).rows (billingAdjustmentKey requestID) =
          some row →
        row.status = .rolledBack → state.contrib requestID = 0

theorem usageInvariant_run {actions : List (Int × UsageStep)}
    (initial : state.Initial calendar id plan sub)
    (run : GuardedRun (step calendar id) (Sound calendar id) state actions) :
    UsageInvariant calendar id plan (execute (step calendar id) state actions) := by
  refine GuardedRun.invariant ?_ run ⟨sub, initial.tracked, initial.accounted⟩
  intro before action sound invariant
  exact invariant.step sound.1 sound.2

/-- The invariant attributes the whole used amount to requests. -/
theorem UsageInvariant.attributes (invariant : UsageInvariant calendar id plan state) :
    AttributesUsage calendar id state := by
  obtain ⟨sub, tracked, accounted⟩ := invariant
  have nonnegative : ∀ requestID, 0 ≤ state.contrib requestID :=
    fun requestID => (accounted.accounts requestID).nonnegative (tracked.registers requestID)
  constructor
  · intro now step requestID refunds protocol
    unfold UsageState.step
    split
    · rw [Int.sub_self]
      exact nonnegative requestID
    · rename_i after done
      obtain ⟨mid, _, unmoved, effect⟩ := transaction_effect tracked protocol done
      have notLooking : step.looksForReset = false := by cases step <;> first | rfl | cases refunds
      have request : step.requestID = some requestID := by cases step <;> cases refunds <;> rfl
      cases unmoved notLooking
      have unchanged : { state.db.usageView id with sub := some sub } = state.db.usageView id := by
        rw [← tracked.found]
      generalize viewEq : after.usageView id = view at effect
      cases effect with
      | @own other _ used own effect =>
        cases own.symm.trans request
        rw [unchanged] at effect
        have left : (after.usageView id).sub = some { sub with amountUsed := used } := by
          rw [viewEq, effect.owned.sub, tracked.found]
          rfl
        have remaining :=
          (effect.accounts _ (accounted.share_le tracked requestID)
            (accounted.accounts requestID)).nonnegative effect.registers
        have usedAfter : usedIn after id = used := usedIn_of_found left
        have usedBefore := usedIn_of_found tracked.found
        change usedIn state.db id - usedIn after id ≤ state.contrib requestID
        omega
      | idle idle => cases idle.symm.trans request
  · intro requestID row located rolledBack
    have accounts := accounted.accounts requestID
    have registers := tracked.registers requestID
    unfold Accounts at accounts
    split at accounts
    · exact accounts
    · rw [located] at accounts
      simpa only [RowUsage, rolledBack] using accounts

/-- In every run of the protocol in which each reset finds nothing on record
that it wipes, usage is attributed to the request that made it. -/
theorem usage_attributed_in_runs {actions : List (Int × UsageStep)}
    (initial : state.Initial calendar id plan sub)
    (run : GuardedRun (UsageState.step calendar id) (UsageState.Sound calendar id) state actions) :
    AttributesUsage calendar id (execute (UsageState.step calendar id) state actions) :=
  (usageInvariant_run initial run).attributes

end Refunds

def UsageState.sample : UsageState where
  db :=
    { Database.sampleSubscribed with
      plans := ⟨[⟨1, .custom, 100⟩], by decide⟩
      subscriptions :=
        ⟨[{ UserSubscription.sample with
            amountUsed := 0
            lastResetTime := 1
            nextResetTime := 101 }],
          by decide⟩ }
  clock := 1
  contrib := fun _ => 0
  extra := fun _ => 0

theorem UsageState.sample_initial :
    sample.Initial .sample 1 ⟨1, .custom, 100⟩
      { UserSubscription.sample with
        amountUsed := 0
        lastResetTime := 1
        nextResetTime := 101 } where
  found := rfl
  ids := rfl
  planned := rfl
  scheduled := rfl
  active := rfl
  positive := by decide
  started := by decide
  passed := by decide
  counter := by decide
  noRecord := fun _ => rfl
  noRow := fun _ => rfl
  contrib := fun _ => rfl
  extra := fun _ => rfl

def UsageStep.start (requestID : String) (amount : Int) : UsageStep :=
  .preConsume requestID 1 amount "default" ["default"]

/-- The settle payload of a request that holds `reservation`, `extra` of it in
supplemental quota. -/
def settlePayload (requestID : String) (reservation extra charge : Int) :
    BillingAdjustmentRequest where
  idempotencyKey := billingAdjustmentKey requestID
  requestID := requestID
  userID := 1
  tokenID := 0
  source := .subscription
  subscriptionID := 1
  fundingDelta := charge - reservation
  tokenDelta := 0
  chargeQuota := charge
  reservationQuota := reservation
  extraReserved := extra
  tokenIncluded := false

private theorem wipesClean_of_kept {calendar : Calendar} {id : Int} {state : UsageState}
    {action : Int × UsageStep} {after : Database}
    (outcome : action.2.transaction calendar id state.db action.1 = .ok after)
    (kept : lastResetIn after id = lastResetIn state.db id) :
    state.WipesClean calendar id action := by
  intro other done moved
  rw [outcome] at done
  cases done
  exact absurd kept moved

def lateReset : List (Int × UsageStep) :=
  [(10, .start "req-1" 10), (150, .reset), (160, .start "req-2" 7)]

theorem usage_attributed_after_lateReset :
    AttributesUsage .sample 1 (execute (UsageState.step .sample 1) .sample lateReset) := by
  apply usage_attributed_in_runs UsageState.sample_initial
  refine ⟨⟨⟨by decide, by decide, trivial⟩, ?_⟩, ⟨⟨by decide, by decide, trivial⟩, ?_⟩,
    ⟨⟨by decide, by decide, trivial⟩, ?_⟩, trivial⟩
  · exact wipesClean_of_kept rfl rfl
  · intro after done _ requestID record located
    cases done
    have member := (KeyedTable.lookup_eq_some_iff.mp located).1
    rw [List.mem_singleton.mp member]
    refine ⟨fun _ => rfl, ?_⟩
    intro stored missing
    cases missing
  · exact wipesClean_of_kept rfl rfl

def lateCharge : List (Int × UsageStep) :=
  [(10, .start "req-1" 10), (150, .apply (settlePayload "req-1" 10 0 10)),
    (160, .reset), (170, .start "req-2" 7)]

/-- The reset stores the boundary 101, so the charge of time 150 is taken for
one of the new period: its rollback removes the 7 units of the other
request. -/
theorem usage_lateCharge_misattributed :
    ¬ ∀ actions,
        GuardedRun (UsageState.step .sample 1) (UsageState.Protocol 1) .sample actions →
          AttributesUsage .sample 1 (execute (UsageState.step .sample 1) .sample actions) := by
  intro claim
  have run : GuardedRun (UsageState.step .sample 1) (UsageState.Protocol 1) .sample lateCharge := by
    refine ⟨⟨by decide, by decide, trivial⟩,
      ⟨by decide, by decide, ⟨rfl, rfl, rfl, rfl⟩, rfl, _, rfl, rfl⟩,
      ⟨by decide, by decide, trivial⟩, ⟨by decide, by decide, trivial⟩,
      trivial⟩
  have attributes := claim lateCharge run
  have taken :=
    attributes.refunds 180 (.rollback "req-1" 0) "req-1" rfl ⟨by decide, by decide, trivial⟩
  exact absurd taken (by decide)

/-! ## Settlement after resets -/

/-- Until its settlement the request only pre-consumes and reserves; all other
requests are free. -/
def UsageState.Supplements (id : Int) (requestID : String) (state : UsageState)
    (action : Int × UsageStep) : Prop :=
  state.Protocol id action ∧
    (action.2.requestID = some requestID →
      (∃ userId amount usingGroup baseGroups,
        action.2 = .preConsume requestID userId amount usingGroup baseGroups) ∨
        ∃ delta, action.2 = .reserve requestID delta)

/-- A step that resets the subscription finds no post-reset reserve of the
request on record. -/
def UsageState.WipesUnposted (calendar : Calendar) (id : Int) (requestID : String)
    (state : UsageState) (action : Int × UsageStep) : Prop :=
  ∀ after, action.2.transaction calendar id state.db action.1 = .ok after →
    lastResetIn after id ≠ lastResetIn state.db id →
      ∀ record,
        (state.db.usageView id).records requestID = some record → record.postResetReserved = 0

def UsageView.LosesPosted (view : UsageView) (sub : UserSubscription) (requestID : String)
    (contrib : Int) : Prop :=
  ∃ record,
    view.records requestID = some record ∧
      subscriptionUsageClearedByReset sub.lastResetTime record.createdAt = true ∧
      0 ≤ contrib ∧ contrib < record.postResetReserved

section SettlementAfterResets

variable {calendar : Calendar} {id now clock : Int} {plan : SubscriptionPlan}
  {view after : UsageView} {extra contrib : String → Int}
  {sub mid : UserSubscription} {requestID : String}

section

variable (tracked : Tracked calendar id plan view clock extra sub)
  (midRow : MidRow calendar plan now sub mid)
include tracked midRow

/-- A reset finds the share of an unsettled request; it leaves it readable if
and only if no post-reset reserve is on record. -/
theorem Tracked.midway_request (noRow : view.rows (billingAdjustmentKey requestID) = none)
    (accounts : view.Accounts sub requestID (extra requestID) (contrib requestID)) :
    ((mid.lastResetTime ≠ sub.lastResetTime →
        ∀ record, view.records requestID = some record → record.postResetReserved = 0) →
      view.Accounts mid requestID (extra requestID) (surviving sub mid contrib requestID)) ∧
      (¬(mid.lastResetTime ≠ sub.lastResetTime →
          ∀ record, view.records requestID = some record → record.postResetReserved = 0) →
        view.LosesPosted mid requestID (surviving sub mid contrib requestID)) := by
  have registers := tracked.registers requestID
  rcases midRow.outcome tracked.scheduled with ⟨rfl, _⟩ | ⟨due, reset, _, moved⟩
  · simp only [surviving, ne_eq, not_true, if_false, false_implies, forall_const, not_true]
    exact ⟨accounts, trivial⟩
  · have different : mid.lastResetTime ≠ sub.lastResetTime := by omega
    rw [surviving, if_pos different]
    simp only [different, ne_eq, not_false_iff, true_implies]
    cases present : view.records requestID with
    | none =>
      simp only [Accounts, present]
      exact ⟨fun _ => trivial, fun posted => absurd (by rintro _ ⟨⟩) posted⟩
    | some record =>
      simp only [Option.some.injEq, forall_eq']
      rw [registers_iff present] at registers
      rw [accounts_iff present] at accounts ⊢
      rw [noRow] at accounts registers ⊢
      constructor
      · intro unposted
        refine accounts.reset registers due reset ⟨fun _ => unposted, ?_⟩
        intro stored missing
        cases missing
      · intro posted
        have nonnegative := registers.posted
        exact ⟨record, present, registers.wiped due reset, Int.le_refl 0, by omega⟩

theorem Tracked.midway_loses (loses : view.LosesPosted sub requestID (contrib requestID)) :
    view.LosesPosted mid requestID (surviving sub mid contrib requestID) := by
  obtain ⟨record, present, cleared, nonnegative, fewer⟩ := loses
  have registers := tracked.registers requestID
  rw [registers_iff present] at registers
  rcases midRow.outcome tracked.scheduled with ⟨rfl, _⟩ | ⟨due, reset, _, moved⟩
  · rw [surviving, if_neg (not_not.mpr rfl)]
    exact ⟨record, present, cleared, nonnegative, fewer⟩
  · rw [surviving, if_pos (by omega)]
    exact ⟨record, present, registers.wiped due reset, Int.le_refl 0, by omega⟩

end

/-- The rows of an unsettled request before and after a step: they stay
readable exactly when the step wipes no post-reset reserve. -/
structure Follows (requestID : String) (clean : Prop)
    (view : UsageView) (sub : UserSubscription) (extra contrib : Int)
    (after : UsageView) (next : UserSubscription) (extraAfter contribAfter : Int) : Prop where
  noRow : after.rows (billingAdjustmentKey requestID) = none
  accounts :
    view.Accounts sub requestID extra contrib → clean →
      after.Accounts next requestID extraAfter contribAfter
  wiped :
    view.Accounts sub requestID extra contrib → ¬clean →
      after.LosesPosted next requestID contribAfter
  lost : view.LosesPosted sub requestID contrib → after.LosesPosted next requestID contribAfter

theorem UsageView.Owned.follows {other : String} {used : Int}
    (owned : UsageView.Owned { view with sub := some mid } after other used)
    (different : requestID ≠ other) (tracked : Tracked calendar id plan view clock extra sub)
    (midRow : MidRow calendar plan now sub mid)
    (noRow : view.rows (billingAdjustmentKey requestID) = none) :
    Follows requestID
      (mid.lastResetTime ≠ sub.lastResetTime →
        ∀ record, view.records requestID = some record → record.postResetReserved = 0)
      view sub (extra requestID) (contrib requestID)
      after { mid with amountUsed := used } (extra requestID)
      (surviving sub mid contrib requestID) := by
  have sameRecord : after.records requestID = view.records requestID :=
    owned.records requestID different
  have sameRow :
      after.rows (billingAdjustmentKey requestID) = view.rows (billingAdjustmentKey requestID) :=
    owned.rows requestID different
  have framed : view.LosesPosted mid requestID (surviving sub mid contrib requestID) →
        after.LosesPosted { mid with amountUsed := used } requestID
          (surviving sub mid contrib requestID) := by
    rintro ⟨record, present, loses⟩
    exact ⟨record, sameRecord.trans present, loses⟩
  refine ⟨sameRow.trans noRow, ?_, ?_, ?_⟩
  · intro accounts clean
    have middle := (tracked.midway_request midRow noRow accounts).1 clean
    rw [owned.accounts_iff different]
    exact Accounts.setUsed middle used
  · intro accounts dirty
    exact framed ((tracked.midway_request midRow noRow accounts).2 dirty)
  · intro loses
    exact framed (tracked.midway_loses midRow loses)

theorem follows_reserve {db next : Database} {record : SubscriptionPreConsumeRecord}
    {delta held share : Int} {clean : Prop}
    (found : (db.usageView id).sub = some sub) (counter : 0 ≤ sub.amountUsed)
    (present : (db.usageView id).records requestID = some record)
    (noRow : (db.usageView id).rows (billingAdjustmentKey requestID) = none)
    (registers : (db.usageView id).Registers id sub requestID held) (isClean : clean)
    (done : reserveUserSubscriptionDelta db requestID id delta = .ok next) :
    Follows requestID clean (db.usageView id) sub held share
      (next.usageView id) { sub with amountUsed := sub.amountUsed + delta }
      (held + delta)
      (share + (sub.amountUsed + delta - sub.amountUsed)) := by
  obtain ⟨nonnegative, view, effect⟩ := ownStep_reserve found counter present registers noRow done
  have registered := (registers_iff present).mp registers
  rw [noRow] at registered
  have request := (registered.extend nonnegative).reserve.request
  have present' :
      (next.usageView id).records requestID = some (extendedRecord sub record delta) := by
    rw [view, setUsed_records, ← request]
    exact setRecord_records_self _ _
  have noRow' : (next.usageView id).rows (billingAdjustmentKey requestID) = none := by
    rw [view]
    exact noRow
  refine ⟨noRow', ?_, fun _ dirty => absurd isClean dirty, ?_⟩
  · intro accounts _
    rw [accounts_iff present, noRow] at accounts
    rw [accounts_iff present', noRow',
      ← shiftUsed_of_nonnegative (by omega : 0 ≤ sub.amountUsed + delta)]
    exact (accounts.extend counter nonnegative).setUsed _
  · rintro ⟨stored, located, cleared, nonneg, fewer⟩
    cases present.symm.trans located
    refine ⟨_, present', ?_, by omega, ?_⟩
    · rw [extendedRecord, if_pos cleared]
      exact cleared
    · rw [extendedRecord, if_pos cleared]
      change _ < record.postResetReserved + delta
      omega

variable {state : UsageState} {action : Int × UsageStep}

private theorem follows_kept {held share : Int} {clean : Prop}
    (noRow : view.rows (billingAdjustmentKey requestID) = none) (isClean : clean) :
    Follows requestID clean view sub held share view sub held share where
  noRow := noRow
  accounts := fun accounts _ => accounts
  wiped := fun _ dirty => absurd isClean dirty
  lost := fun loses => loses

theorem UsageState.wipesUnposted_iff {next : Database}
    (done : action.2.transaction calendar id state.db action.1 = .ok next)
    (found : (state.db.usageView id).sub = some sub)
    (left : lastResetIn next id = mid.lastResetTime) :
    state.WipesUnposted calendar id requestID action ↔ (mid.lastResetTime ≠ sub.lastResetTime →
        ∀ record,
          (state.db.usageView id).records requestID = some record →
            record.postResetReserved = 0) := by
  rw [← left, ← lastResetIn_of_found found]
  constructor
  · intro unposted
    exact unposted next done
  · intro unposted other otherDone
    cases done.symm.trans otherDone
    exact unposted

private theorem follows_other {step : UsageStep} {next : Database}
    (tracked : Tracked calendar id plan (state.db.usageView id) state.clock state.extra sub)
    (protocol : state.Protocol id (now, step)) (foreign : step.requestID ≠ some requestID)
    (noRow : (state.db.usageView id).rows (billingAdjustmentKey requestID) = none)
    (done : step.transaction calendar id state.db now = .ok next) :
    ∃ last,
      Tracked calendar id plan (next.usageView id) now (step.extraAfter state.extra) last ∧
        Follows requestID (state.WipesUnposted calendar id requestID (now, step))
          (state.db.usageView id) sub (state.extra requestID)
          (state.contrib requestID)
          (next.usageView id) last
          (step.extraAfter state.extra requestID)
          (attributed id state.db next state.contrib step.requestID requestID) := by
  obtain ⟨mid, midRow, _, effect⟩ := transaction_effect tracked protocol done
  have middle := tracked.midway protocol.1 midRow
  have found := tracked.found
  generalize viewEq : next.usageView id = view at effect
  cases effect with
  | @own other _ used request effect =>
    have different : requestID ≠ other := by
      rintro rfl
      exact foreign request
    have left : (next.usageView id).sub = some { mid with amountUsed := used } := by
      rw [viewEq, effect.owned.sub]
      rfl
    have boundary : lastResetIn next id = mid.lastResetTime := (lastResetIn_of_found left).trans rfl
    rw [wipesUnposted_iff done found boundary, extraAfter_eq_update request,
      request, attributed_of_effect found midRow tracked.scheduled left,
      Function.update_of_ne different, Function.update_of_ne different]
    exact ⟨_, middle.own effect, effect.owned.follows different tracked midRow noRow⟩
  | idle request =>
    have left : (next.usageView id).sub = some mid := by rw [viewEq]
    rw [wipesUnposted_iff done found (lastResetIn_of_found left),
      extraAfter_of_reset request, request, attributed_of_idle found left]
    refine ⟨mid, middle, noRow, ?_, ?_, ?_⟩
    · intro accounts clean
      exact (tracked.midway_request midRow noRow accounts).1 clean
    · intro accounts dirty
      exact (tracked.midway_request midRow noRow accounts).2 dirty
    · intro loses
      exact tracked.midway_loses midRow loses

private theorem follows_preConsume
    {userId amount : Int} {usingGroup : String} {baseGroups : List String} {next : Database}
    (tracked : Tracked calendar id plan (state.db.usageView id) state.clock state.extra sub)
    (later : state.clock ≤ now) (seconds : now ≤ maxUnixSeconds)
    (noRow : (state.db.usageView id).rows (billingAdjustmentKey requestID) = none)
    (done :
      preConsumeUserSubscriptionTx calendar state.db now requestID userId
          amount usingGroup baseGroups =
        .ok next) :
    ∃ last,
      Tracked calendar id plan (next.usageView id) now state.extra last ∧
        Follows requestID
          (state.WipesUnposted calendar id requestID
            (now, .preConsume requestID userId amount usingGroup baseGroups))
          (state.db.usageView id) sub (state.extra requestID)
          (state.contrib requestID)
          (next.usageView id) last (state.extra requestID)
          (attributed id state.db next state.contrib (some requestID) requestID) := by
  have found := tracked.found
  rcases preConsume_cases tracked later seconds done with rfl | ⟨mid, midRow, absent, view, effect⟩
  · refine ⟨sub, tracked.later later, ?_⟩
    have share : attributed id state.db state.db state.contrib (some requestID) requestID =
          state.contrib requestID := by
      simp [attributed]
    rw [share]
    refine follows_kept noRow ?_
    intro other otherDone moved
    cases done.symm.trans otherDone
    exact absurd rfl moved
  · have middle := tracked.midway later midRow
    have left :
        (next.usageView id).sub = some { mid with amountUsed := mid.amountUsed + amount } := by
      rw [effect.owned.sub]
      rfl
    have own := middle.own effect
    rw [Function.update_eq_self] at own
    rw [attributed_of_effect found midRow tracked.scheduled left, Function.update_self]
    refine ⟨_, own, ?_, ?_, ?_, ?_⟩
    · rw [view]
      exact noRow
    · intro accounts _
      have unposted : mid.lastResetTime ≠ sub.lastResetTime →
            ∀ record,
              (state.db.usageView id).records requestID = some record →
                record.postResetReserved = 0 := by
        intro _ record present
        cases absent.symm.trans present
      have kept := (tracked.midway_request midRow noRow accounts).1 unposted
      have zero : surviving sub mid state.contrib requestID = 0 := by
        simpa only [Accounts, absent] using kept
      refine effect.accounts _ ?_ kept
      rw [zero]
      exact middle.counter
    · intro _ dirty
      refine absurd ?_ dirty
      intro _ _ _ record present
      cases absent.symm.trans present
    · rintro ⟨record, present, _⟩
      cases absent.symm.trans present

/-- One step keeps the request tracked. -/
theorem supplements_step
    (tracked : Tracked calendar id plan (state.db.usageView id) state.clock state.extra sub)
    (supplements : state.Supplements id requestID action)
    (noRow : (state.db.usageView id).rows (billingAdjustmentKey requestID) = none) :
    ∃ last,
      Tracked calendar id plan ((state.step calendar id action).db.usageView id)
          (state.step calendar id action).clock
          (state.step calendar id action).extra last ∧
        Follows requestID (state.WipesUnposted calendar id requestID action)
          (state.db.usageView id) sub (state.extra requestID)
          (state.contrib requestID)
          ((state.step calendar id action).db.usageView id) last
          ((state.step calendar id action).extra requestID)
          ((state.step calendar id action).contrib requestID) := by
  obtain ⟨protocol, own⟩ := supplements
  have later := protocol.1
  have seconds := protocol.2.1
  obtain ⟨now, step⟩ := action
  unfold UsageState.step
  split
  · rename_i err failed
    refine ⟨sub, tracked.later later, follows_kept noRow ?_⟩
    intro after done
    cases failed.symm.trans done
  · rename_i next done
    by_cases request : step.requestID = some requestID
    · rcases own request with ⟨userId, amount, usingGroup, baseGroups, rfl⟩ | ⟨delta, rfl⟩
      · exact follows_preConsume tracked later seconds noRow done
      · obtain ⟨known, _⟩ := protocol.2.2
        obtain ⟨record, present⟩ := Option.ne_none_iff_exists'.mp known
        have registers := tracked.registers requestID
        obtain ⟨_, _, effect⟩ :=
          ownStep_reserve tracked.found tracked.counter present registers noRow done
        have left :
            (next.usageView id).sub = some { sub with amountUsed := sub.amountUsed + delta } := by
          rw [effect.owned.sub, tracked.found]
          rfl
        have clean : state.WipesUnposted calendar id requestID (now, .reserve requestID delta) := by
          rw [wipesUnposted_iff done tracked.found
            ((lastResetIn_of_found left).trans rfl)]
          exact fun moved => absurd rfl moved
        have share : attributed id state.db next state.contrib (some requestID) requestID =
              state.contrib requestID + (sub.amountUsed + delta - sub.amountUsed) := by
          have unmoved : MidRow calendar plan now sub sub := Or.inl rfl
          rw [attributed_of_effect tracked.found unmoved tracked.scheduled
            left, Function.update_self, surviving, if_neg (not_not.mpr rfl)]
        have follows :=
          @follows_reserve id sub requestID state.db next record delta _
            (state.contrib requestID) _ tracked.found tracked.counter present
            noRow registers clean done
        refine ⟨_, (tracked.later later).own effect, ?_⟩
        dsimp only [UsageStep.requestID, UsageStep.extraAfter]
        rw [share, Function.update_self]
        exact follows
    · exact follows_other tracked protocol request noRow done

theorem Follows.trans {first second : Prop} {last : UserSubscription} {final : UsageView}
    {held share heldMid shareMid heldLast shareLast : Int}
    (before : Follows requestID first view sub held share after mid heldMid shareMid)
    (next : Follows requestID second after mid heldMid shareMid final last heldLast shareLast) :
    Follows requestID (first ∧ second) view sub held share final last heldLast shareLast where
  noRow := next.noRow
  accounts := by
    intro accounts clean
    exact next.accounts (before.accounts accounts clean.1) clean.2
  wiped := by
    intro accounts dirty
    by_cases clean : first
    · exact next.wiped (before.accounts accounts clean) (fun still => dirty ⟨clean, still⟩)
    · exact next.lost (before.wiped accounts clean)
  lost := fun loses => next.lost (before.lost loses)

/-- Hence the whole run does. -/
theorem supplements_run :
    ∀ {actions : List (Int × UsageStep)} {state : UsageState} {sub : UserSubscription},
      Tracked calendar id plan (state.db.usageView id) state.clock state.extra sub →
        GuardedRun (step calendar id)
            (Supplements id requestID) state actions →
          (state.db.usageView id).rows (billingAdjustmentKey requestID) = none →
            ∃ final last,
              execute (step calendar id) state actions = final ∧
                Tracked calendar id plan (final.db.usageView id) final.clock final.extra last ∧
                Follows requestID
                  (GuardedRun (step calendar id)
                    (WipesUnposted calendar id requestID) state
                    actions)
                  (state.db.usageView id) sub (state.extra requestID)
                  (state.contrib requestID)
                  (final.db.usageView id) last (final.extra requestID)
                  (final.contrib requestID)
  | [], state, sub, tracked, _, noRow => ⟨state, sub, rfl, tracked, follows_kept noRow trivial⟩
  | action :: rest, state, sub, tracked, run, noRow => by
      obtain ⟨mid, trackedMid, first⟩ := supplements_step tracked run.1 noRow
      obtain ⟨final, last, reached, trackedLast, second⟩ :=
        supplements_run trackedMid run.2 first.noRow
      exact ⟨final, last, reached, trackedLast, first.trans second⟩

/-- The settlement of a request without a ledger row moves the counter by the
ledger's delta, up to the clamp at zero. -/
theorem apply_without_row {db next : Database} {req : BillingAdjustmentRequest}
    {record : SubscriptionPreConsumeRecord} {outcome : ApplyOutcome}
    (found : (db.usageView id).sub = some sub)
    (present : (db.usageView id).records requestID = some record)
    (reserve : ReserveOn id requestID record)
    (noRow : (db.usageView id).rows (billingAdjustmentKey requestID) = none)
    (sends : SendsOn id requestID (billingAdjustmentKey requestID) req)
    (done : applyBillingAdjustment db now req = .ok (outcome, next)) :
    req.Valid ∧
      (next.usageView id).sub =
        some
          { sub with
            amountUsed :=
              shiftUsed sub.amountUsed
                (if subscriptionUsageClearedByReset sub.lastResetTime
                    record.createdAt then
                  req.chargeQuota - record.postResetReserved
                else
                  req.fundingDelta) } := by
  have owns : (db.usageView id).OwnsKey id requestID (billingAdjustmentKey requestID) := by
    intro row located
    cases noRow.symm.trans located
  obtain ⟨valid, applied⟩ := applyBillingAdjustment_usage found present reserve sends owns done
  refine ⟨valid, ?_⟩
  generalize next.usageView id = view at applied
  cases applied with
  | replayed located _ _ =>
    rw [sends.key] at located
    cases noRow.symm.trans located
  | @settled row settles _ _ =>
    rcases settles with located | ⟨_, rfl⟩
    · rw [sends.key] at located
      cases noRow.symm.trans located
    · rw [setRow_sub, setUsed_sub, found, Option.map_some, settledUsed]
      simp only [BillingAdjustmentRequest.pendingRow, reserve.createdAt, if_true]

/-- The settlement of a request leaves it counted with exactly its charge if
and only if no reset ran while a post-reset reserve of the request was on
record. -/
theorem settlement_after_resets_exact_iff {actions : List (Int × UsageStep)} {final : UsageState}
    {req : BillingAdjustmentRequest} {outcome : ApplyOutcome} {next : Database}
    (initial : state.Initial calendar id plan sub)
    (run :
      GuardedRun (UsageState.step calendar id) (UsageState.Supplements id requestID) state actions)
    (reached : execute (UsageState.step calendar id) state actions = final)
    (request : req.requestID = requestID)
    (protocol : final.Protocol id (now, .apply req))
    (done : applyBillingAdjustment final.db now req = .ok (outcome, next))
    (unclamped :
      ∀ last record,
        (final.db.usageView id).sub = some last →
          (final.db.usageView id).records requestID = some record →
            0 ≤ last.amountUsed +
                if subscriptionUsageClearedByReset last.lastResetTime record.createdAt then
                  req.chargeQuota - record.postResetReserved
                else req.fundingDelta) :
    (final.step calendar id (now, .apply req)).contrib requestID = req.chargeQuota ↔
      GuardedRun (UsageState.step calendar id)
        (UsageState.WipesUnposted calendar id requestID) state actions := by
  obtain ⟨_, last, rfl, tracked, follows⟩ :=
    supplements_run initial.tracked run (initial.noRow requestID)
  rw [reached] at tracked follows
  have accounts := initial.accounted.accounts requestID
  obtain ⟨_, _, sends, extraReserved, record, present, reservation⟩ := protocol
  rw [request] at sends extraReserved present reservation
  have registered := (UsageView.registers_iff present).mp (tracked.registers requestID)
  obtain ⟨valid, left⟩ :=
    apply_without_row tracked.found present registered.reserve follows.noRow sends done
  have clamp := unclamped last record tracked.found present
  rw [shiftUsed_of_nonnegative clamp] at left
  have share : (final.step calendar id (now, .apply req)).contrib requestID =
        final.contrib requestID +
          if subscriptionUsageClearedByReset last.lastResetTime record.createdAt then
            req.chargeQuota - record.postResetReserved
          else
            req.fundingDelta := by
    have unmoved : MidRow calendar plan now last last := Or.inl rfl
    have stepped : (final.step calendar id (now, .apply req)).contrib =
          attributed id final.db next final.contrib (some requestID) := by
      simp only [UsageState.step, UsageStep.transaction, done, Except.map,
        UsageStep.requestID, request]
    rw [stepped, attributed_of_effect tracked.found unmoved tracked.scheduled left,
      Function.update_self, surviving, if_neg (not_not.mpr rfl)]
    omega
  have balanced := valid.balanced
  rw [share]
  constructor
  · intro exactly
    by_contra dirty
    obtain ⟨stored, located, cleared, _, fewer⟩ := follows.wiped accounts dirty
    cases present.symm.trans located
    rw [if_pos cleared] at exactly
    omega
  · intro clean
    have counted := follows.accounts accounts clean
    rw [UsageView.accounts_iff present, follows.noRow] at counted
    obtain ⟨_, counted⟩ := counted
    unfold Counted at counted
    split at counted
    · rename_i cleared
      rw [if_pos cleared]
      omega
    · rename_i current
      rw [if_neg current]
      omega

end SettlementAfterResets

def reservedAfterReset : List (Int × UsageStep) :=
  [(10, .start "req-1" 10), (150, .reset), (160, .reserve "req-1" 5)]

private theorem reservedAfterReset_supplements :
    GuardedRun (step .sample 1) (Supplements 1 "req-1")
      .sample reservedAfterReset := by
  refine ⟨⟨⟨by decide, by decide, trivial⟩, ?_⟩, ⟨⟨by decide, by decide, trivial⟩, nofun⟩,
    ⟨⟨by decide, by decide, nofun, rfl⟩, ?_⟩, trivial⟩
  · intro _
    exact Or.inl ⟨1, 10, "default", ["default"], rfl⟩
  · intro _
    exact Or.inr ⟨5, rfl⟩

/-- A single reset is charged for exactly once. -/
theorem settlement_after_reset_counts_twenty :
    (UsageState.step .sample 1 (execute (UsageState.step .sample 1) .sample reservedAfterReset)
        (170, .apply (settlePayload "req-1" 15 5 20))).contrib "req-1" =
      20 := by
  refine (settlement_after_resets_exact_iff UsageState.sample_initial
      reservedAfterReset_supplements rfl rfl
      ⟨by decide, by decide, ⟨rfl, rfl, rfl, rfl⟩, rfl, _, rfl, rfl⟩ rfl
      ?_).mpr ?_
  · intro last record found present
    cases found
    cases present
    decide
  · refine ⟨?_, ?_, ?_, trivial⟩
    · intro after done moved record present
      cases present
    · intro after done moved record present
      cases present
      rfl
    · intro after done moved record present
      cases done
      exact absurd rfl moved

/-- After a second reset the 5 units are still on record: the charge of 20
counts for 15 only. -/
theorem settlement_after_second_reset_undercharges :
    ¬ ∀ (actions : List (Int × UsageStep)) (now : Int)
        (req : BillingAdjustmentRequest) (outcome : ApplyOutcome)
        (next : Database),
        GuardedRun (UsageState.step .sample 1) (UsageState.Supplements 1 "req-1") .sample actions →
          UsageState.Protocol 1 (execute (UsageState.step .sample 1) .sample actions)
              (now, .apply req) →
            req.requestID = "req-1" →
            applyBillingAdjustment (execute (UsageState.step .sample 1) .sample actions).db now
                req =
              .ok (outcome, next) →
            0 < usedIn next 1 →
            (UsageState.step .sample 1 (execute (UsageState.step .sample 1) .sample actions)
                (now, .apply req)).contrib "req-1" =
              req.chargeQuota := by
  intro claim
  have run :
      GuardedRun (UsageState.step .sample 1) (UsageState.Supplements 1 "req-1") .sample
        (reservedAfterReset ++ [(250, .reset)]) := by
    refine guardedRun_append.mpr ⟨reservedAfterReset_supplements, ?_⟩
    exact ⟨⟨⟨by decide, by decide, trivial⟩, nofun⟩, trivial⟩
  have charged :=
    claim _ 260 (settlePayload "req-1" 15 5 20) _ _ run
      ⟨by decide, by decide, ⟨rfl, rfl, rfl, rfl⟩, rfl, _, rfl, rfl⟩ rfl rfl
      (by decide)
  exact absurd charged (by decide)

end NewApi.Billing
