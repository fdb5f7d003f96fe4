import NewApi.Billing.SubscriptionReset
import NewApi.Billing.UtcCalendar

/-!
# Missed resets

A reset that runs late walks past every boundary it has missed, and running it
twice leaves what the second run alone would have left.  A row whose period a
change of the plan has moved may stay out of step with the clock.
-/

namespace NewApi.Billing

open UserSubscription

section Loop

variable {calendar : Calendar} {plan : SubscriptionPlan} {endTime first second now base : Int}

/-- The last boundary that the loop passes, and the one after it. -/
def caughtUp (calendar : Calendar) (plan : SubscriptionPlan) (endTime now base : Int) :
    Int × Int :=
  let ended :=
    advanceReset calendar plan endTime now ((now - base).toNat + 1) base
      (calcNextResetTime calendar base plan endTime) false
  (ended.1, ended.2.1)

def Lapsed (calendar : Calendar) (plan : SubscriptionPlan) (endTime now base : Int) :
    Prop :=
  0 < calcNextResetTime calendar base plan endTime ∧
    calcNextResetTime calendar base plan endTime ≤ now

instance : Decidable (Lapsed calendar plan endTime now base) := inferInstanceAs (Decidable (_ ∧ _))

/-- More rounds than enough change nothing, and the flag does not steer. -/
theorem advanceReset_enough (fuel other : Nat) (base : Int) (advanced flag : Bool)
    (enough : (now - base).toNat < fuel) (otherEnough : (now - base).toNat < other) :
    let one :=
      advanceReset calendar plan endTime now fuel base
        (calcNextResetTime calendar base plan endTime) advanced
    let two :=
      advanceReset calendar plan endTime now other base
        (calcNextResetTime calendar base plan endTime) flag
    (one.1, one.2.1) = (two.1, two.2.1) := by
  induction fuel generalizing other base advanced flag with
  | zero => omega
  | succ fuel ih =>
    cases other with
    | zero => omega
    | succ other =>
      unfold advanceReset
      by_cases due : Lapsed calendar plan endTime now base
      · have later := lt_calcNextResetTime due.1
        have passed := due.2
        simp only [if_pos (show _ ∧ _ from due)]
        exact ih other _ true true (by omega) (by omega)
      · simp only [if_neg (show ¬ (_ ∧ _) from due)]

theorem caughtUp_of_current (current : ¬ Lapsed calendar plan endTime now base) :
    caughtUp calendar plan endTime now base =
      (base, calcNextResetTime calendar base plan endTime) := by
  unfold caughtUp advanceReset
  simp only [if_neg (show ¬ (_ ∧ _) from current)]

theorem caughtUp_of_lapsed (due : Lapsed calendar plan endTime now base) :
    caughtUp calendar plan endTime now base =
      caughtUp calendar plan endTime now (calcNextResetTime calendar base plan endTime) := by
  have later := lt_calcNextResetTime due.1
  have passed := due.2
  unfold caughtUp
  rw [advanceReset]
  simp only [if_pos (show _ ∧ _ from due)]
  exact advanceReset_enough _ _ _ _ _ (by omega) (by omega)

theorem boundary_induction {motive : Int → Prop}
    (current : ∀ base, ¬ Lapsed calendar plan endTime now base → motive base)
    (lapsed : ∀ base, Lapsed calendar plan endTime now base →
      motive (calcNextResetTime calendar base plan endTime) → motive base)
    (base : Int) : motive base := by
  obtain ⟨rounds, few⟩ : ∃ rounds, (now - base).toNat < rounds := ⟨_, Nat.lt_succ_self _⟩
  induction rounds generalizing base with
  | zero => omega
  | succ rounds ih =>
    by_cases due : Lapsed calendar plan endTime now base
    · have later := lt_calcNextResetTime due.1
      have passed := due.2
      exact lapsed base due (ih _ (by omega))
    · exact current base due

/-- After the loop the next reset is ahead. -/
theorem caughtUp_spec (base : Int) :
    ¬ Lapsed calendar plan endTime now (caughtUp calendar plan endTime now base).1 ∧
      (caughtUp calendar plan endTime now base).2 =
        calcNextResetTime calendar
          (caughtUp calendar plan endTime now base).1 plan endTime ∧
      base ≤ (caughtUp calendar plan endTime now base).1 := by
  induction base using @boundary_induction calendar plan endTime now with
  | current base current =>
    rw [caughtUp_of_current current]
    exact ⟨current, rfl, Int.le_refl base⟩
  | lapsed base due ih =>
    rw [caughtUp_of_lapsed due]
    obtain ⟨ends, next, later⟩ := ih
    exact ⟨ends, next, (lt_calcNextResetTime due.1).le.trans later⟩

theorem caughtUp_le (due : Lapsed calendar plan endTime now base) :
    calcNextResetTime calendar base plan endTime ≤ (caughtUp calendar plan endTime now base).1 ∧
      (caughtUp calendar plan endTime now base).1 ≤ now := by
  induction base using @boundary_induction calendar plan endTime now with
  | current base current => exact absurd due current
  | lapsed base _ ih =>
    rw [caughtUp_of_lapsed due]
    refine ⟨(caughtUp_spec _).2.2, ?_⟩
    by_cases again : Lapsed calendar plan endTime now (calcNextResetTime calendar base plan endTime)
    · exact (ih again).2
    · rw [caughtUp_of_current again]
      exact due.2

theorem caughtUp_resume (order : first ≤ second) (base : Int) :
    caughtUp calendar plan endTime second (caughtUp calendar plan endTime first base).1 =
      caughtUp calendar plan endTime second base := by
  induction base using @boundary_induction calendar plan endTime first with
  | current base current => rw [caughtUp_of_current current]
  | lapsed base due ih =>
    rw [caughtUp_of_lapsed due, ih]
    exact (caughtUp_of_lapsed ⟨due.1, due.2.trans order⟩).symm

end Loop

section Run

variable {calendar : Calendar} {plan : SubscriptionPlan}
  {sub : UserSubscription} {now first second : Int}

def UserSubscription.Waits (sub : UserSubscription) (now : Int) : Prop :=
  0 < sub.nextResetTime ∧ now < sub.nextResetTime

instance : Decidable (sub.Waits now) := inferInstanceAs (Decidable (_ ∧ _))

def UserSubscription.periodEnd
    (calendar : Calendar) (plan : SubscriptionPlan) (sub : UserSubscription) :
    Int :=
  calcNextResetTime calendar sub.resetBase plan sub.endTime

def UserSubscription.Unscheduled
    (calendar : Calendar) (plan : SubscriptionPlan) (sub : UserSubscription) :
    Prop :=
  sub.nextResetTime = 0 ∧ 0 < sub.periodEnd calendar plan

instance : Decidable (sub.Unscheduled calendar plan) := inferInstanceAs (Decidable (_ ∧ _))

theorem maybeReset_of_waits (waits : sub.Waits now) :
    maybeResetUserSubscription calendar plan now sub = sub :=
  if_pos waits

theorem maybeReset_of_lapsed (resets : plan.quotaResetPeriod ≠ .never) (due : ¬ sub.Waits now)
    (lapsed : Lapsed calendar plan sub.endTime now sub.resetBase) :
    maybeResetUserSubscription calendar plan now sub =
      { sub with
        amountUsed := 0
        lastResetTime := (caughtUp calendar plan sub.endTime now sub.resetBase).1
        nextResetTime := (caughtUp calendar plan sub.endTime now sub.resetBase).2 } := by
  unfold maybeResetUserSubscription caughtUp
  rw [if_neg (show ¬ (_ ∧ _) from due), if_neg resets]
  obtain ⟨last, next, moved, result, _, _, outcome⟩ :=
    @advanceReset_spec calendar plan sub.endTime now
      ((now - sub.resetBase).toNat + 1) sub.resetBase false (by omega)
  simp only [result]
  rcases outcome with ⟨_, _, current⟩ | ⟨rfl, _⟩
  · exact absurd lapsed current
  · rfl

theorem maybeReset_of_current (resets : plan.quotaResetPeriod ≠ .never) (due : ¬ sub.Waits now)
    (current : ¬ Lapsed calendar plan sub.endTime now sub.resetBase) :
    maybeResetUserSubscription calendar plan now sub =
      if sub.Unscheduled calendar plan then
        { sub with
          nextResetTime := sub.periodEnd calendar plan
          lastResetTime := sub.resetBase }
      else
        sub := by
  have ended :
      advanceReset calendar plan sub.endTime now ((now - sub.resetBase).toNat + 1) sub.resetBase
          (calcNextResetTime calendar sub.resetBase plan sub.endTime) false =
        (sub.resetBase, sub.periodEnd calendar plan, false) := by
    rw [advanceReset]
    exact if_neg current
  unfold maybeResetUserSubscription
  rw [if_neg (show ¬ (_ ∧ _) from due), if_neg resets]
  simp only [ended]
  rfl

theorem resetBase_scheduled (next : Int) :
    resetBase { sub with nextResetTime := next, lastResetTime := sub.resetBase } =
      sub.resetBase := by
  unfold resetBase
  by_cases never : sub.lastResetTime ≤ 0
  · simp only [if_pos never, ite_self]
  · simp only [if_neg never]

theorem maybeReset_comp (order : first ≤ second) :
    maybeResetUserSubscription calendar plan second
        (maybeResetUserSubscription calendar plan first sub) =
      maybeResetUserSubscription calendar plan second sub := by
  by_cases resets : plan.quotaResetPeriod = .never
  · have idle : ∀ now, maybeResetUserSubscription calendar plan now sub = sub := by
      intro now
      unfold maybeResetUserSubscription
      rw [if_pos resets, ite_self]
    rw [idle first]
  by_cases waits : sub.Waits first
  · rw [maybeReset_of_waits waits]
  have due : ¬ sub.Waits second := fun later => waits ⟨later.1, order.trans_lt later.2⟩
  by_cases lapsed : Lapsed calendar plan sub.endTime first sub.resetBase
  · have lapsedLater : Lapsed calendar plan sub.endTime second sub.resetBase :=
      ⟨lapsed.1, lapsed.2.trans order⟩
    obtain ⟨ends, nextEq, _⟩ := @caughtUp_spec calendar plan sub.endTime first sub.resetBase
    have positive := lapsed.1.trans_le (caughtUp_le lapsed).1
    have resume := @caughtUp_resume calendar plan sub.endTime first second order sub.resetBase
    rw [maybeReset_of_lapsed resets waits lapsed,
      maybeReset_of_lapsed resets due lapsedLater, ← resume, nextEq]
    generalize (caughtUp calendar plan sub.endTime first sub.resetBase).1 = last at *
    have base : resetBase
        { sub with
          amountUsed := 0
          lastResetTime := last
          nextResetTime := calcNextResetTime calendar last plan sub.endTime } =
        last :=
      if_neg (not_le.mpr positive)
    by_cases again : Lapsed calendar plan sub.endTime second last
    · rw [maybeReset_of_lapsed resets (fun early => by
          exact absurd again.2 (not_le.mpr early.2)) (by rw [base]; exact again)]
      simp only [base]
    · rw [caughtUp_of_current again]
      by_cases early : 0 < calcNextResetTime calendar last plan sub.endTime
      · exact maybeReset_of_waits ⟨early, not_le.mp fun passed => again ⟨early, passed⟩⟩
      · rw [maybeReset_of_current resets (fun waiting => early waiting.1)
          (by rw [base]; exact again)]
        refine if_neg fun unscheduled => early ?_
        have ahead := unscheduled.2
        unfold periodEnd at ahead
        rw [base] at ahead
        exact ahead
  · rw [maybeReset_of_current resets waits lapsed]
    by_cases unscheduled : sub.Unscheduled calendar plan
    · rw [if_pos unscheduled]
      have base := @resetBase_scheduled sub (sub.periodEnd calendar plan)
      by_cases again : Lapsed calendar plan sub.endTime second sub.resetBase
      · rw [maybeReset_of_lapsed resets due again,
          maybeReset_of_lapsed resets (fun early => absurd again.2 (not_le.mpr early.2))
            (by rw [base]; exact again)]
        simp only [base]
      · rw [maybeReset_of_current resets due again, if_pos unscheduled]
        exact maybeReset_of_waits
          ⟨unscheduled.2, not_le.mp fun passed => again ⟨unscheduled.2, passed⟩⟩
    · rw [if_neg unscheduled]

/-- The reset starts a new period, and clears the usage. -/
def UserSubscription.StartsPeriod (calendar : Calendar) (plan : SubscriptionPlan) (now : Int)
    (sub : UserSubscription) : Prop :=
  plan.quotaResetPeriod ≠ .never ∧ ¬ sub.Waits now ∧
    Lapsed calendar plan sub.endTime now sub.resetBase

instance : Decidable (sub.StartsPeriod calendar plan now) :=
  inferInstanceAs (Decidable (_ ∧ _ ∧ _))

/-- The schedule of a reset does not look at the usage. -/
theorem maybeReset_setUsed (used : Int) :
    maybeResetUserSubscription calendar plan now { sub with amountUsed := used } =
      { maybeResetUserSubscription calendar plan now sub with
        amountUsed := if sub.StartsPeriod calendar plan now then 0 else used } := by
  by_cases resets : plan.quotaResetPeriod = .never
  · rw [if_neg fun starts => starts.1 resets]
    unfold maybeResetUserSubscription
    simp only [if_pos resets, ite_self]
  by_cases waits : sub.Waits now
  · rw [if_neg fun starts => starts.2.1 waits, maybeReset_of_waits waits]
    exact maybeReset_of_waits waits
  by_cases lapsed : Lapsed calendar plan sub.endTime now sub.resetBase
  · rw [if_pos ⟨resets, waits, lapsed⟩, maybeReset_of_lapsed resets waits lapsed]
    exact maybeReset_of_lapsed resets waits lapsed
  · rw [if_neg fun starts => lapsed starts.2.2, maybeReset_of_current resets waits lapsed]
    have spent := @maybeReset_of_current calendar plan { sub with amountUsed := used } now
      resets waits lapsed
    by_cases unscheduled : sub.Unscheduled calendar plan
    · rw [spent, if_pos unscheduled]
      exact if_pos unscheduled
    · rw [spent, if_neg unscheduled]
      exact if_neg unscheduled

/-- Usage between the two resets leaves the schedule as it is, and is cleared
when the second one starts a period. -/
theorem maybeReset_comp_used (order : first ≤ second) (used : Int) :
    maybeResetUserSubscription calendar plan second
        { maybeResetUserSubscription calendar plan first sub with amountUsed := used } =
      { maybeResetUserSubscription calendar plan second sub with
        amountUsed :=
          if (maybeResetUserSubscription calendar plan first sub).StartsPeriod
              calendar plan second then 0
          else used } := by
  rw [maybeReset_setUsed, maybeReset_comp order]

end Run

def ResetLoopEnds (calendar : Calendar) (plan : SubscriptionPlan) (endTime now base : Int) :
    Prop :=
  ∃ rounds : Nat,
    ¬ Lapsed calendar plan endTime now
        ((fun base => calcNextResetTime calendar base plan endTime)^[rounds]
          base)

/-- The stored boundary is to come, lies within the subscription, and the reset
before it has been. -/
structure UserSubscription.InStep (now : Int) (sub : UserSubscription) : Prop where
  next : sub.nextResetTime = 0 ∨ now < sub.nextResetTime
  inside : 0 < sub.endTime → sub.nextResetTime ≤ sub.endTime
  last : sub.lastResetTime ≤ now

/-- A row that waits is in step, or a boundary has passed since its base, or
none is stored. -/
def UserSubscription.CatchesUp (calendar : Calendar) (plan : SubscriptionPlan) (now : Int)
    (sub : UserSubscription) : Prop :=
  if sub.Waits now then
    (0 < sub.endTime → sub.nextResetTime ≤ sub.endTime) ∧ sub.lastResetTime ≤ now
  else
    Lapsed calendar plan sub.endTime now sub.resetBase ∨
      (sub.nextResetTime = 0 ∨ now < sub.nextResetTime) ∧
        if sub.Unscheduled calendar plan then sub.resetBase ≤ now
        else sub.lastResetTime ≤ now

instance
    (calendar : Calendar) (plan : SubscriptionPlan) (now : Int)
    (sub : UserSubscription) : Decidable (sub.CatchesUp calendar plan now) :=
  inferInstanceAs (Decidable (ite _ _ _))

section InStep

variable {calendar : Calendar} {plan : SubscriptionPlan}
  {sub : UserSubscription} {endTime now first second : Int}

theorem resetLoopEnds (base : Int) : ResetLoopEnds calendar plan endTime now base := by
  induction base using @boundary_induction calendar plan endTime now with
  | current base current => exact ⟨0, current⟩
  | lapsed base _ ih =>
    obtain ⟨rounds, ends⟩ := ih
    exact ⟨rounds + 1, ends⟩

theorem calcNextResetTime_range (base : Int) :
    calcNextResetTime calendar base plan endTime = 0 ∨
      base < calcNextResetTime calendar base plan endTime ∧
        (0 < endTime → calcNextResetTime calendar base plan endTime ≤ endTime) := by
  have bounded : ∀ next, base < next →
      (if 0 < endTime ∧ endTime < next then 0 else next) = 0 ∨
        base < (if 0 < endTime ∧ endTime < next then 0 else next) ∧
          (0 < endTime → (if 0 < endTime ∧ endTime < next then 0 else next) ≤ endTime) := by
    intro next later
    by_cases beyond : 0 < endTime ∧ endTime < next
    · exact Or.inl (if_pos beyond)
    · rw [if_neg beyond]
      exact Or.inr ⟨later, fun ends => not_lt.mp fun past => beyond ⟨ends, past⟩⟩
  unfold calcNextResetTime
  cases plan.quotaResetPeriod with
  | never => exact Or.inl rfl
  | daily => exact bounded _ (calendar.lt_nextMidnight base)
  | weekly => exact bounded _ (calendar.lt_nextMonday base)
  | monthly => exact bounded _ (calendar.lt_nextMonth base)
  | custom =>
    by_cases idle : plan.quotaResetCustomSeconds ≤ 0
    · exact Or.inl (if_pos idle)
    · dsimp only
      rw [if_neg idle]
      exact bounded _ (by omega)

theorem calcNextResetTime_le_end (base : Int) (ends : 0 < endTime) :
    calcNextResetTime calendar base plan endTime ≤ endTime := by
  rcases @calcNextResetTime_range calendar plan endTime base with none | some
  · rw [none]
    exact ends.le
  · exact some.2 ends

theorem inStep_of_lapsed (resets : plan.quotaResetPeriod ≠ .never) (due : ¬ sub.Waits now)
    (lapsed : Lapsed calendar plan sub.endTime now sub.resetBase) :
    (maybeResetUserSubscription calendar plan now sub).InStep now := by
  obtain ⟨ends, nextEq, _⟩ := @caughtUp_spec calendar plan sub.endTime now sub.resetBase
  obtain ⟨passed, last⟩ := caughtUp_le lapsed
  have positive := lapsed.1.trans_le passed
  rw [maybeReset_of_lapsed resets due lapsed, nextEq]
  generalize (caughtUp calendar plan sub.endTime now sub.resetBase).1 = base at *
  refine ⟨?_, calcNextResetTime_le_end base, last⟩
  rcases @calcNextResetTime_range calendar plan sub.endTime base with
    none | ⟨later, _⟩
  · exact Or.inl none
  · right
    exact not_le.mp fun reached => ends ⟨positive.trans later, reached⟩

/-- The reset ends ahead of the clock exactly when its loop catches up. -/
theorem inStep_maybeReset_iff (resets : plan.quotaResetPeriod ≠ .never) :
    (maybeResetUserSubscription calendar plan now sub).InStep now ↔
      sub.CatchesUp calendar plan now := by
  unfold CatchesUp
  by_cases waits : sub.Waits now
  · rw [maybeReset_of_waits waits, if_pos waits]
    constructor
    · exact fun inStep => ⟨inStep.inside, inStep.last⟩
    · exact fun holds => ⟨Or.inr waits.2, holds.1, holds.2⟩
  rw [if_neg waits]
  by_cases lapsed : Lapsed calendar plan sub.endTime now sub.resetBase
  · exact iff_of_true (inStep_of_lapsed resets waits lapsed) (Or.inl lapsed)
  rw [maybeReset_of_current resets waits lapsed, or_iff_right lapsed]
  by_cases unscheduled : sub.Unscheduled calendar plan
  · rw [if_pos unscheduled, if_pos unscheduled]
    have ahead : now < sub.periodEnd calendar plan :=
      not_le.mp fun reached => lapsed ⟨unscheduled.2, reached⟩
    constructor
    · exact fun inStep => ⟨Or.inl unscheduled.1, inStep.last⟩
    · exact fun holds => ⟨Or.inr ahead, calcNextResetTime_le_end sub.resetBase, holds.2⟩
  · rw [if_neg unscheduled, if_neg unscheduled]
    constructor
    · exact fun inStep => ⟨inStep.next, inStep.last⟩
    · intro holds
      refine ⟨holds.1, fun ends => ?_, holds.2⟩
      rcases holds.1 with none | later
      · rw [none]
        exact ends.le
      · have idle : sub.nextResetTime ≤ 0 := not_lt.mp fun positive => waits ⟨positive, later⟩
        exact idle.trans ends.le

/-- Catching up on missed resets composes for every row, and leaves exactly the
rows that catch up in step with the clock. -/
theorem missed_resets_compose_iff (calendar : Calendar) (plan : SubscriptionPlan)
    (resets : plan.quotaResetPeriod ≠ .never) (sub : UserSubscription)
    {first second : Int} (order : first ≤ second) :
    ((∀ now base, ResetLoopEnds calendar plan sub.endTime now base) ∧
        maybeResetUserSubscription calendar plan second
            (maybeResetUserSubscription calendar plan first sub) =
          maybeResetUserSubscription calendar plan second sub ∧
        (maybeResetUserSubscription calendar plan second sub).InStep second) ↔
      sub.CatchesUp calendar plan second := by
  rw [← inStep_maybeReset_iff resets]
  constructor
  · exact fun holds => holds.2.2
  · exact fun inStep => ⟨fun _ base => resetLoopEnds base, maybeReset_comp order, inStep⟩

end InStep

def UserSubscription.boughtDaily : UserSubscription :=
  { UserSubscription.sample with
    startTime := 1700000000
    endTime := 1710000000
    lastResetTime := 1700000000
    nextResetTime := 1700006400 }

theorem missed_resets_compose_daily :
    maybeResetUserSubscription .utc ⟨1, .daily, 0⟩ 1700210000
        (maybeResetUserSubscription .utc ⟨1, .daily, 0⟩ 1700100000 .boughtDaily) =
      maybeResetUserSubscription .utc ⟨1, .daily, 0⟩ 1700210000 .boughtDaily ∧
      (maybeResetUserSubscription .utc ⟨1, .daily, 0⟩ 1700210000
        .boughtDaily).nextResetTime = 1700265600 := by
  have holds :=
    (missed_resets_compose_iff .utc ⟨1, .daily, 0⟩ (by decide) .boughtDaily
      (show (1700100000 : Int) ≤ 1700210000 by decide)).mpr (by decide)
  exact ⟨holds.2.1, by decide⟩

/-- The plan resets monthly from then on.  After midnight the row is due, but
is left with the midnight that has passed. -/
theorem changed_plan_falls_behind : Scheduled .utc ⟨1, .daily, 0⟩ .boughtDaily ∧
      ¬ (maybeResetUserSubscription .utc ⟨1, .monthly, 0⟩ 1700010000
        .boughtDaily).InStep 1700010000 := by
  constructor
  · unfold Scheduled
    decide
  · rw [inStep_maybeReset_iff (by decide)]
    decide

end NewApi.Billing
