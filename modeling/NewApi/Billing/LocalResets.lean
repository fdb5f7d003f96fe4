import Mathlib.Algebra.Order.Ring.Int
import NewApi.Billing.SubscriptionReset

/-!
# Resets in the server's location

The loop of `maybeResetUserSubscriptionWithPlanTx` skips to the last boundary
that has passed.  It ends in every `Calendar`, but a location may give the same
moment again for the start of a day that its clocks skip, and a custom period
is counted in nanoseconds that wrap.
-/

namespace NewApi.Billing

open UserSubscription

namespace Location

/-- `calcNextResetTime` with the `int64` product of a custom period. -/
def calcNextResetTime (location : Location) (base : Int) (plan : SubscriptionPlan)
    (endUnix : Int) : Int :=
  let bounded (next : Int) : Int := if 0 < endUnix ∧ endUnix < next then 0 else next
  match plan.quotaResetPeriod with
  | .never => 0
  | .daily => bounded (location.nextMidnight base)
  | .weekly => bounded (location.nextMonday base)
  | .monthly => bounded (location.nextMonth base)
  | .custom =>
    if plan.quotaResetCustomSeconds ≤ 0 then 0
    else bounded (base + Int.bmod (plan.quotaResetCustomSeconds * 10 ^ 9) (2 ^ 64) / 10 ^ 9)

/-- The loop that skips to the last boundary not after `now`; `none` when the
fuel is used up first. -/
def advanceReset (location : Location) (plan : SubscriptionPlan) (endTime now : Int) :
    Nat → Int → Int → Bool → Option (Int × Int × Bool)
  | 0, _, _, _ => none
  | fuel + 1, base, next, advanced =>
    if 0 < next ∧ next ≤ now then
      advanceReset location plan endTime now fuel next
        (location.calcNextResetTime next plan endTime) true
    else some (base, next, advanced)

def maybeResetUserSubscription (location : Location) (plan : SubscriptionPlan) (now : Int)
    (fuel : Nat) (sub : UserSubscription) : Option UserSubscription :=
  if 0 < sub.nextResetTime ∧ now < sub.nextResetTime then some sub
  else if plan.quotaResetPeriod = .never then some sub
  else
    let base := sub.resetBase
    match
      location.advanceReset plan sub.endTime now fuel base
        (location.calcNextResetTime base plan sub.endTime) false
    with
    | none => none
    | some (base, next, false) =>
      if sub.nextResetTime = 0 ∧ 0 < next then
        some { sub with nextResetTime := next, lastResetTime := base }
      else some sub
    | some (base, next, true) =>
      some { sub with amountUsed := 0, lastResetTime := base, nextResetTime := next }

section Skipping

variable {location : Location} {plan : SubscriptionPlan} {endTime now : Int}

/-- The period that starts at `base` has ended. -/
def Passed (location : Location) (plan : SubscriptionPlan) (endTime now base : Int) : Prop :=
  0 < location.calcNextResetTime base plan endTime ∧
    location.calcNextResetTime base plan endTime ≤ now

instance (base : Int) : Decidable (location.Passed plan endTime now base) :=
  inferInstanceAs (Decidable (_ ∧ _))

/-- Some period that follows on `base` is still running. -/
def SkipEnds (location : Location) (plan : SubscriptionPlan) (endTime now base : Int) : Prop :=
  ∃ rounds,
    ¬location.Passed plan endTime now
      ((fun base => location.calcNextResetTime base plan endTime)^[rounds] base)

theorem advanceReset_succ (fuel : Nat) (base : Int) (advanced : Bool) :
    location.advanceReset plan endTime now (fuel + 1) base
        (location.calcNextResetTime base plan endTime) advanced =
      if location.Passed plan endTime now base then
        location.advanceReset plan endTime now fuel (location.calcNextResetTime base plan endTime)
          (location.calcNextResetTime (location.calcNextResetTime base plan endTime) plan endTime)
          true
      else some (base, location.calcNextResetTime base plan endTime, advanced) := rfl

theorem advanceReset_add {fuel : Nat} {base next : Int} {advanced : Bool}
    {ended : Int × Int × Bool}
    (done : location.advanceReset plan endTime now fuel base next advanced = some ended)
    (more : Nat) :
    location.advanceReset plan endTime now (fuel + more) base next advanced = some ended := by
  induction fuel generalizing base next advanced with
  | zero => cases done
  | succ fuel ih =>
    rw [Nat.succ_add]
    rw [advanceReset] at done ⊢
    split at done
    · rename_i passed
      rw [if_pos passed]
      exact ih done
    · rename_i running
      rw [if_neg running]
      exact done

/-- The loop that ends has found a running period. -/
theorem advanceReset_ended {fuel : Nat} {base : Int} {advanced : Bool} {ended : Int × Int × Bool}
    (done : location.advanceReset plan endTime now fuel base
      (location.calcNextResetTime base plan endTime) advanced = some ended) :
    location.SkipEnds plan endTime now base ∧ ¬(0 < ended.2.1 ∧ ended.2.1 ≤ now) ∧
      if location.Passed plan endTime now base then ended.2.2 = true
      else ended = (base, location.calcNextResetTime base plan endTime, advanced) := by
  induction fuel generalizing base advanced with
  | zero => cases done
  | succ fuel ih =>
    rw [advanceReset_succ] at done
    by_cases passed : location.Passed plan endTime now base
    · rw [if_pos passed] at done ⊢
      obtain ⟨⟨rounds, running⟩, settled, outcome⟩ := ih done
      refine ⟨⟨rounds + 1, running⟩, settled, ?_⟩
      split at outcome
      · exact outcome
      · rw [outcome]
    · rw [if_neg passed] at done ⊢
      obtain rfl := Option.some.inj done
      exact ⟨⟨0, passed⟩, passed, rfl⟩

theorem exists_advanceReset {base : Int} (ends : location.SkipEnds plan endTime now base)
    (advanced : Bool) :
    ∃ fuel ended,
      location.advanceReset plan endTime now fuel base
        (location.calcNextResetTime base plan endTime) advanced = some ended := by
  obtain ⟨rounds, running⟩ := ends
  induction rounds generalizing base advanced with
  | zero => exact ⟨1, _, if_neg running⟩
  | succ rounds ih =>
    by_cases passed : location.Passed plan endTime now base
    · obtain ⟨fuel, ended, done⟩ := ih true running
      refine ⟨fuel + 1, ended, ?_⟩
      rw [advanceReset_succ, if_pos passed]
      exact done
    · exact ⟨1, _, if_neg passed⟩

end Skipping

/-! ## One row -/

section Row

variable {location : Location} {plan : SubscriptionPlan} {now : Int} {sub : UserSubscription}

theorem maybeResetUserSubscription_add {fuel : Nat} {after : UserSubscription}
    (done : location.maybeResetUserSubscription plan now fuel sub = some after) (more : Nat) :
    location.maybeResetUserSubscription plan now (fuel + more) sub = some after := by
  unfold maybeResetUserSubscription at done ⊢
  split at done
  · rename_i waits
    rw [if_pos waits]
    exact done
  rename_i waits
  rw [if_neg waits]
  split at done
  · rename_i never
    rw [if_pos never]
    exact done
  rename_i resets
  rw [if_neg resets]
  dsimp only at done ⊢
  cases ran : location.advanceReset plan sub.endTime now fuel sub.resetBase
      (location.calcNextResetTime sub.resetBase plan sub.endTime) false with
  | none =>
    rw [ran] at done
    cases done
  | some ended =>
    rw [ran] at done
    rw [advanceReset_add ran more]
    exact done

theorem calcNextResetTime_never {base endTime : Int} (never : plan.quotaResetPeriod = .never) :
    location.calcNextResetTime base plan endTime = 0 := by
  rw [calcNextResetTime, never]

variable (due : sub.ResetDue now)
include due

/-- A reset of a due row finds a running period.  It moves the row past the
clock when a boundary has passed, and otherwise leaves it. -/
theorem maybeResetUserSubscription_ended {fuel : Nat} {after : UserSubscription}
    (done : location.maybeResetUserSubscription plan now fuel sub = some after) :
    location.SkipEnds plan sub.endTime now sub.resetBase ∧ after.id = sub.id ∧
      if location.Passed plan sub.endTime now sub.resetBase then ¬after.ResetDue now
      else after = sub := by
  unfold ResetDue at due
  unfold maybeResetUserSubscription at done
  rw [if_neg (by omega)] at done
  by_cases never : plan.quotaResetPeriod = .never
  · rw [if_pos never] at done
    obtain rfl := Option.some.inj done
    have running : ¬location.Passed plan sub.endTime now sub.resetBase := by
      rw [Passed, calcNextResetTime_never never]
      omega
    exact ⟨⟨0, running⟩, rfl, by rw [if_neg running]⟩
  rw [if_neg never] at done
  dsimp only at done
  cases ran : location.advanceReset plan sub.endTime now fuel sub.resetBase
      (location.calcNextResetTime sub.resetBase plan sub.endTime) false with
  | none =>
    rw [ran] at done
    cases done
  | some ended =>
    obtain ⟨ends, settled, outcome⟩ := advanceReset_ended ran
    obtain ⟨base, next, advanced⟩ := ended
    refine ⟨ends, ?_⟩
    rw [ran] at done
    cases advanced with
    | true =>
      obtain rfl := Option.some.inj done
      refine ⟨rfl, ?_⟩
      split
      · exact settled
      · rename_i running
        rw [if_neg running] at outcome
        simp at outcome
    | false =>
      dsimp only at done
      rw [if_neg (by omega)] at done
      obtain rfl := Option.some.inj done
      refine ⟨rfl, ?_⟩
      split
      · rename_i passed
        rw [if_pos passed] at outcome
        cases outcome
      · rfl

theorem exists_maybeResetUserSubscription
    (ends : location.SkipEnds plan sub.endTime now sub.resetBase) :
    ∃ fuel after, location.maybeResetUserSubscription plan now fuel sub = some after := by
  unfold ResetDue at due
  obtain ⟨fuel, ended, ran⟩ := exists_advanceReset ends false
  refine ⟨fuel, ?_⟩
  unfold maybeResetUserSubscription
  rw [if_neg (by omega)]
  dsimp only
  rw [ran]
  split
  · exact ⟨sub, rfl⟩
  · obtain ⟨base, next, advanced⟩ := ended
    cases advanced with
    | true => exact ⟨_, rfl⟩
    | false =>
      dsimp only
      rw [if_neg (by omega)]
      exact ⟨sub, rfl⟩

end Row

end Location

/-! ## In a calendar -/

section Calendar

variable {calendar : Calendar} {plan : SubscriptionPlan} {endTime now : Int}

/-- The nanoseconds of a custom period fit an `int64`. -/
def SubscriptionPlan.PeriodFits (plan : SubscriptionPlan) : Prop :=
  plan.quotaResetPeriod = .custom → plan.quotaResetCustomSeconds * 10 ^ 9 < 2 ^ 63

variable (fits : plan.PeriodFits)
include fits

theorem Calendar.calcNextResetTime_eq (base : Int) :
    calendar.toLocation.calcNextResetTime base plan endTime =
      calcNextResetTime calendar base plan endTime := by
  unfold Location.calcNextResetTime calcNextResetTime
  cases period : plan.quotaResetPeriod with
  | never | daily | weekly | monthly => rfl
  | custom =>
    dsimp only
    by_cases none : plan.quotaResetCustomSeconds ≤ 0
    · rw [if_pos none, if_pos none]
    · have small := fits period
      rw [Int.bmod_eq_of_le (by omega) (by omega), Int.mul_ediv_cancel _ (by decide)]

theorem Calendar.advanceReset_eq (fuel : Nat) (base : Int) (advanced : Bool)
    (enough : (now - base).toNat < fuel) :
    calendar.toLocation.advanceReset plan endTime now fuel base
        (calcNextResetTime calendar base plan endTime) advanced =
      some (advanceReset calendar plan endTime now fuel base
        (calcNextResetTime calendar base plan endTime) advanced) := by
  induction fuel generalizing base advanced with
  | zero => omega
  | succ fuel ih =>
    rw [Location.advanceReset, advanceReset, Calendar.calcNextResetTime_eq fits]
    by_cases passed : 0 < calcNextResetTime calendar base plan endTime ∧
        calcNextResetTime calendar base plan endTime ≤ now
    · rw [if_pos passed, if_pos passed]
      have later := lt_calcNextResetTime passed.1
      exact ih _ true (by omega)
    · rw [if_neg passed, if_neg passed]

/-- In a calendar the loop ends within the seconds since the last reset, with
the row that `maybeResetUserSubscription` gives. -/
theorem Calendar.maybeReset_eq (sub : UserSubscription) :
    calendar.toLocation.maybeResetUserSubscription plan now ((now - sub.resetBase).toNat + 1) sub =
      some (maybeResetUserSubscription calendar plan now sub) := by
  unfold Location.maybeResetUserSubscription maybeResetUserSubscription
  dsimp only
  rw [Calendar.calcNextResetTime_eq fits, Calendar.advanceReset_eq fits _ _ _ (by omega)]
  split
  · rfl
  split
  · rfl
  rcases advanceReset calendar plan sub.endTime now ((now - sub.resetBase).toNat + 1) sub.resetBase
      (calcNextResetTime calendar sub.resetBase plan sub.endTime) false with ⟨base, next, advanced⟩
  cases advanced with
  | true => rfl
  | false =>
    dsimp only
    split <;> rfl

theorem Calendar.skipEnds (base : Int) : calendar.toLocation.SkipEnds plan endTime now base := by
  have done :=
    @Calendar.advanceReset_eq calendar plan endTime now fits ((now - base).toNat + 1) base false
      (by omega)
  rw [← Calendar.calcNextResetTime_eq fits] at done
  exact (Location.advanceReset_ended done).1

end Calendar

end NewApi.Billing
