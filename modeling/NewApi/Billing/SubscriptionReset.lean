import NewApi.Billing.SubscriptionSettlement

/-!
# Resets of a subscription

The scheduled reset stores the last boundary that has passed as
`lastResetTime`.  The administrator's reset moves, keeps or clears it.
-/

namespace NewApi.Billing

open Transactions KeyedTable UserSubscription Database

section Schedule

variable {calendar : Calendar} {plan : SubscriptionPlan} {endTime now : Int}

theorem lt_calcNextResetTime {base : Int}
    (ends : 0 < calcNextResetTime calendar base plan endTime) :
    base < calcNextResetTime calendar base plan endTime := by
  have bounded : ∀ next, base < next →
        0 < (if 0 < endTime ∧ endTime < next then 0 else next) →
          base < (if 0 < endTime ∧ endTime < next then 0 else next) := by
    intro next later positive
    split at positive
    · omega
    · rename_i inside
      rw [if_neg inside]
      exact later
  unfold calcNextResetTime at ends ⊢
  cases period : plan.quotaResetPeriod with
  | never =>
    simp only [period] at ends
    omega
  | daily =>
    simp only [period] at ends ⊢
    exact bounded _ (calendar.lt_nextMidnight base) ends
  | weekly =>
    simp only [period] at ends ⊢
    exact bounded _ (calendar.lt_nextMonday base) ends
  | monthly =>
    simp only [period] at ends ⊢
    exact bounded _ (calendar.lt_nextMonth base) ends
  | custom =>
    simp only [period] at ends ⊢
    split at ends
    · omega
    · rename_i positive
      rw [if_neg positive]
      exact bounded _ (by omega) ends

/-- The skipping loop ends on the last boundary that has passed, and the fuel
`now - base` suffices because every boundary is later than the one before. -/
theorem advanceReset_spec (fuel : Nat) (base : Int) (advanced : Bool)
    (enough : (now - base).toNat < fuel) :
    ∃ last next moved,
      advanceReset calendar plan endTime now fuel base
          (calcNextResetTime calendar base plan endTime) advanced =
        (last, next, moved) ∧
      next = calcNextResetTime calendar last plan endTime ∧
      ¬(0 < next ∧ next ≤ now) ∧
      ((last = base ∧ moved = advanced ∧
          ¬(0 < calcNextResetTime calendar base plan endTime ∧
            calcNextResetTime calendar base plan endTime ≤ now)) ∨
        (moved = true ∧ 0 < calcNextResetTime calendar base plan endTime ∧
          calcNextResetTime calendar base plan endTime ≤ last ∧
          last ≤ now)) := by
  induction fuel generalizing base advanced with
  | zero => omega
  | succ fuel ih =>
    unfold advanceReset
    by_cases due : 0 < calcNextResetTime calendar base plan endTime ∧
          calcNextResetTime calendar base plan endTime ≤ now
    · rw [if_pos due]
      have later := lt_calcNextResetTime due.1
      obtain ⟨last, next, moved, result, nextEq, notDue, outcome⟩ :=
        ih (calcNextResetTime calendar base plan endTime) true (by omega)
      refine ⟨last, next, moved, result, nextEq, notDue, Or.inr ?_⟩
      rcases outcome with ⟨rfl, rfl, _⟩ | ⟨rfl, positive, lower, upper⟩
      · exact ⟨rfl, due.1, Int.le_refl _, due.2⟩
      · have further := lt_calcNextResetTime positive
        exact ⟨rfl, due.1, by omega, upper⟩
    · rw [if_neg due]
      exact ⟨base, _, advanced, rfl, rfl, due, Or.inl ⟨rfl, rfl, due⟩⟩

/-- The row carries the end of its running period, as every reset and every
purchase of a subscription stores it. -/
def Scheduled (calendar : Calendar) (plan : SubscriptionPlan) (sub : UserSubscription) :
    Prop :=
  sub.nextResetTime = calcNextResetTime calendar sub.resetBase plan sub.endTime

def UserSubscription.ResetDue (sub : UserSubscription) (now : Int) : Prop :=
  0 < sub.nextResetTime ∧ sub.nextResetTime ≤ now

instance (sub : UserSubscription) (now : Int) : Decidable (sub.ResetDue now) :=
  inferInstanceAs (Decidable (_ ∧ _))

/-- A row after a scheduled reset that ran: the counter is zero and the
boundary lies between the due time and now. -/
structure ResetRow (calendar : Calendar) (plan : SubscriptionPlan) (now : Int)
    (before after : UserSubscription) : Prop where
  row :
    after =
      { before with
        amountUsed := 0
        lastResetTime := after.lastResetTime
        nextResetTime := after.nextResetTime }
  notBefore : before.nextResetTime ≤ after.lastResetTime
  notAfter : after.lastResetTime ≤ now
  scheduled : Scheduled calendar plan after
  notDue : ¬after.ResetDue now

theorem maybeResetUserSubscription_of_notDue {sub : UserSubscription}
    (scheduled : Scheduled calendar plan sub) (notDue : ¬sub.ResetDue now) :
    maybeResetUserSubscription calendar plan now sub = sub := by
  unfold maybeResetUserSubscription
  unfold Scheduled at scheduled
  unfold ResetDue at notDue
  by_cases early : 0 < sub.nextResetTime ∧ now < sub.nextResetTime
  · rw [if_pos early]
  rw [if_neg early]
  by_cases never : plan.quotaResetPeriod = .never
  · rw [if_pos never]
  rw [if_neg never]
  obtain ⟨last, next, moved, result, nextEq, _, outcome⟩ :=
    @advanceReset_spec calendar plan sub.endTime now
      ((now - sub.resetBase).toNat + 1) sub.resetBase false (by omega)
  rw [← scheduled] at result outcome
  simp only [← scheduled, result]
  rcases outcome with ⟨rfl, rfl, _⟩ | ⟨_, positive, lower, upper⟩
  · simp only [nextEq]
    rw [if_neg (by omega)]
  · omega

theorem maybeResetUserSubscription_of_due {sub : UserSubscription}
    (scheduled : Scheduled calendar plan sub) (due : sub.ResetDue now) :
    ResetRow calendar plan now sub (maybeResetUserSubscription calendar plan now sub) := by
  unfold Scheduled at scheduled
  obtain ⟨positive, reached⟩ := due
  have notEarly : ¬(0 < sub.nextResetTime ∧ now < sub.nextResetTime) := by omega
  have resets : plan.quotaResetPeriod ≠ .never := by
    intro never
    rw [scheduled, calcNextResetTime] at positive
    simp only [never] at positive
    omega
  obtain ⟨last, next, moved, result, nextEq, notDue, outcome⟩ :=
    @advanceReset_spec calendar plan sub.endTime now
      ((now - sub.resetBase).toNat + 1) sub.resetBase false (by omega)
  rw [← scheduled] at result outcome
  have shape : maybeResetUserSubscription calendar plan now sub =
        { sub with
          amountUsed := 0
          lastResetTime := last
          nextResetTime := next } := by
    unfold maybeResetUserSubscription
    rw [if_neg notEarly, if_neg resets]
    simp only [← scheduled, result]
    rcases outcome with ⟨_, _, contradiction⟩ | ⟨rfl, _, _, _⟩
    · exact absurd ⟨positive, reached⟩ contradiction
    · rfl
  rcases outcome with ⟨_, _, contradiction⟩ | ⟨_, _, lower, upper⟩
  · exact absurd ⟨positive, reached⟩ contradiction
  rw [shape]
  refine ⟨rfl, lower, upper, ?_, notDue⟩
  have lastBase :
      resetBase
          { sub with
            amountUsed := 0
            lastResetTime := last
            nextResetTime := next } = last := by
    simp only [resetBase]
    rw [if_neg (by omega)]
  unfold Scheduled
  rw [lastBase]
  exact nextEq

end Schedule

/-! ## Administrator resets -/

section AdminReset

variable {calendar : Calendar} {plan : SubscriptionPlan} {now : Int}
  {advanceResetTime : Bool} {db after : Database} {id : Int}
  {sub : UserSubscription}

private theorem foldl_saveSubscription_usageView (change : UserSubscription → UserSubscription)
    (sameId : ∀ sub, (change sub).id = sub.id) (subs : List UserSubscription) (db : Database)
    (distinct : (subs.map UserSubscription.id).Nodup)
    (stored : ∀ row ∈ subs, db.subscriptions.lookup row.id = some row)
    (found : (db.usageView id).sub = some sub) (member : sub ∈ subs) :
    (subs.foldl (fun db row => db.saveSubscription (change row)) db).usageView id =
      { db.usageView id with sub := some (change sub) } := by
  have frame :
      ∀ (others : List UserSubscription) (start : Database) (current : UserSubscription),
        (∀ row ∈ others, row.id ≠ id) →
        (start.usageView id).sub = some current →
          (others.foldl (fun db row => db.saveSubscription (change row)) start).usageView id =
            start.usageView id := by
    intro others
    induction others with
    | nil =>
      intro start current _ _
      rfl
    | cons head tail ih =>
      intro start current different present
      have headDifferent : (change head).id ≠ id := by
        rw [sameId]
        exact different head List.mem_cons_self
      have unchanged :
          (start.saveSubscription (change head)).usageView id = start.usageView id := by
        simp only [usageView, saveSubscription, map_key_save,
          lookup_save_of_ne start.subscriptions headDifferent]
      rw [List.foldl_cons,
        ih _ current
          (fun row tailMember => different row (List.mem_cons_of_mem head tailMember))
          (by rw [unchanged]; exact present),
        unchanged]
  have subId : sub.id = id := key_of_lookup found
  induction subs generalizing db with
  | nil => cases member
  | cons head tail ih =>
    rw [List.map_cons, List.nodup_cons] at distinct
    rw [List.foldl_cons]
    rcases List.mem_cons.mp member with rfl | tailMember
    · have saved := usageView_saveSubscription found (sameId sub)
      rw [frame tail _ (change sub) ?_ (by rw [saved]), saved]
      intro row rowMember equal
      apply distinct.1
      rw [subId, ← equal]
      exact List.mem_map_of_mem rowMember
    · have headDifferent : head.id ≠ sub.id := by
        intro equal
        apply distinct.1
        rw [equal]
        exact List.mem_map_of_mem tailMember
      have unchanged : (db.saveSubscription (change head)).usageView id = db.usageView id := by
        have keyDifferent : (change head).id ≠ id := by
          rw [sameId, ← subId]
          exact headDifferent
        simp only [usageView, saveSubscription, map_key_save,
          lookup_save_of_ne db.subscriptions keyDifferent]
      rw [ih _ distinct.2 ?_ (by rw [unchanged]; exact found) tailMember, unchanged]
      intro row rowMember
      have rowDifferent : (change head).id ≠ row.id := by
        rw [sameId]
        intro equal
        apply distinct.1
        rw [equal]
        exact List.mem_map_of_mem rowMember
      change (db.subscriptions.save (change head)).lookup row.id = some row
      rw [lookup_save_of_ne _ rowDifferent]
      exact stored row (List.mem_cons_of_mem head rowMember)

theorem adminResetSubscriptionsTx_spec {selected : UserSubscription → Bool}
    (found : (db.usageView id).sub = some sub) (chosen : selected sub = true)
    (onPlan : sub.planId = plan.id) (active : sub.status = .active) (running : now < sub.endTime) :
    (adminResetSubscriptionsTx calendar db plan now advanceResetTime selected).usageView id =
      { db.usageView id with
        sub := some (resetUserSubscription calendar plan now advanceResetTime sub) } := by
  have located : db.subscriptions.lookup id = some sub := found
  apply foldl_saveSubscription_usageView
  · intro row
    unfold resetUserSubscription
    split <;> rfl
  · exact (List.filter_sublist.map UserSubscription.id).nodup db.subscriptions.unique
  · intro row member
    rw [lookup_eq_some_iff]
    exact ⟨(List.mem_filter.mp member).1, rfl⟩
  · exact found
  · rw [List.mem_filter]
    refine ⟨(lookup_eq_some_iff.mp located).1, ?_⟩
    simp [chosen, onPlan, active, running]

inductive AdminReset (calendar : Calendar) (plan : SubscriptionPlan) (now : Int)
    (advanceResetTime : Bool) (db : Database) (sub : UserSubscription) :
    Database → Prop
  | byUser
      {after : Database}
      (planned : db.plans.lookup sub.planId = some plan)
      (done :
        adminResetUserSubscriptionsByPlan calendar db now sub.userId
            sub.planId advanceResetTime =
          .ok after) :
      AdminReset calendar plan now advanceResetTime db sub after
  | byPlan
      {after : Database}
      (planned : db.plans.lookup sub.planId = some plan)
      (done : adminResetPlanSubscriptions calendar db now sub.planId advanceResetTime = .ok after) :
      AdminReset calendar plan now advanceResetTime db sub after

theorem AdminReset.usageView (reset : AdminReset calendar plan now advanceResetTime db sub after)
    (found : (db.usageView id).sub = some sub) (active : sub.status = .active)
    (running : now < sub.endTime) :
    after.usageView id =
      { db.usageView id with
        sub := some (resetUserSubscription calendar plan now advanceResetTime sub) } := by
  cases reset with
  | byUser planned done =>
    have onPlan : plan.id = sub.planId := key_of_lookup planned
    unfold adminResetUserSubscriptionsByPlan at done
    simp only [planned] at done
    split at done
    · cases done
    split at done
    · cases done
      exact adminResetSubscriptionsTx_spec found (by simp) onPlan.symm active running
    · cases done
  | byPlan planned done =>
    have onPlan : plan.id = sub.planId := key_of_lookup planned
    unfold adminResetPlanSubscriptions at done
    simp only [planned] at done
    split at done
    · cases done
    cases done
    exact adminResetSubscriptionsTx_spec found rfl onPlan.symm active running

/-- The reset time an administrator reset leaves behind: the old one, or the
present when the reset starts a period that ends, or none at all. -/
def adminResetTime (calendar : Calendar) (plan : SubscriptionPlan) (now : Int)
    (advanceResetTime : Bool) (sub : UserSubscription) : Int :=
  if advanceResetTime then
    if 0 < calcNextResetTime calendar now plan sub.endTime then now else 0
  else sub.lastResetTime

theorem resetUserSubscription_lastResetTime :
    (resetUserSubscription calendar plan now advanceResetTime sub).lastResetTime =
      adminResetTime calendar plan now advanceResetTime sub := by
  unfold resetUserSubscription adminResetTime
  split <;> rfl

end AdminReset

end NewApi.Billing
