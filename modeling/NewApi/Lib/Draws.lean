import Mathlib.Algebra.BigOperators.Ring.List
import Mathlib.Algebra.Order.Field.Rat

/-!
# Draws by weight

A computation that rolls one number below a bound has a probability for each
event.  A loop that subtracts weights from the roll until it is used up gives
each item its weight out of the total.
-/

universe u v

namespace Draws

inductive Draw (α : Type u) where
  | done (outcome : α)
  | intn (bound : Nat) (next : Nat → α)

namespace Draw

variable {α : Type u}

def run (draw : Draw α) (random : Nat) : α :=
  match draw with
  | .done outcome => outcome
  | .intn bound next => next (random % bound)

/-- The share of the rolls after which the event has happened. -/
def probability (draw : Draw α) (event : α → Bool) : ℚ :=
  match draw with
  | .done outcome => if event outcome then 1 else 0
  | .intn bound next => ((List.range bound).countP fun roll => event (next roll)) / bound

theorem probability_intn (bound : Nat) (next : Nat → α) (event : α → Bool) :
    (intn bound next).probability event =
      ((List.range bound).countP fun roll => event (next roll)) / bound :=
  rfl

theorem probability_congr {bound : Nat} {next other : Nat → α}
    (same : ∀ roll, roll < bound → next roll = other roll) (event : α → Bool) :
    (intn bound next).probability event = (intn bound other).probability event := by
  have counts : (List.range bound).countP (fun roll => event (next roll)) =
      (List.range bound).countP fun roll => event (other roll) := by
    apply List.countP_congr
    intro roll below
    rw [same roll (List.mem_range.mp below)]
  rw [probability_intn, probability_intn, counts]

end Draw

section Weights

variable {α : Type u} {β : Type v}

/-- The item at which the weights have used up the roll. -/
def pickByWeight : List (α × Nat) → Nat → Option α
  | [], _ => none
  | (item, weight) :: items, roll =>
    if roll < weight then some item else pickByWeight items (roll - weight)

def totalWeight (items : List (α × Nat)) : Nat := (items.map Prod.snd).sum

def eventWeight (items : List (α × Nat)) (event : α → Bool) : Nat :=
  totalWeight (items.filter fun item => event item.1)

def weightedShare (items : List (α × Nat)) (event : α → Bool) : ℚ :=
  eventWeight items event / totalWeight items

@[simp]
theorem totalWeight_nil : totalWeight ([] : List (α × Nat)) = 0 := rfl

@[simp]
theorem totalWeight_cons (item : α × Nat) (items : List (α × Nat)) :
    totalWeight (item :: items) = item.2 + totalWeight items :=
  rfl

theorem eventWeight_cons (item : α) (weight : Nat) (items : List (α × Nat)) (event : α → Bool) :
    eventWeight ((item, weight) :: items) event =
      (if event item then weight else 0) + eventWeight items event := by
  unfold eventWeight
  by_cases chosen : event item = true
  · simp [chosen]
  · simp [chosen]

theorem pickByWeight_mem (items : List (α × Nat)) :
    ∀ {roll : Nat} {item : α}, pickByWeight items roll = some item → item ∈ items.map Prod.fst := by
  induction items with
  | nil => exact fun contrary => nomatch contrary
  | cons first items ih =>
    intro roll item picked
    unfold pickByWeight at picked
    split at picked
    · cases picked
      exact List.mem_cons_self
    · exact List.mem_cons_of_mem _ (ih picked)

theorem countP_pickByWeight (event : Option α → Bool) (items : List (α × Nat)) :
    (List.range (totalWeight items)).countP (fun roll => event (pickByWeight items roll)) =
      eventWeight items fun item => event (some item) := by
  induction items with
  | nil => rfl
  | cons first items ih =>
    obtain ⟨item, weight⟩ := first
    have early : (List.range weight).countP
        (fun roll => event (pickByWeight ((item, weight) :: items) roll)) =
        if event (some item) then weight else 0 := by
      have same : ∀ roll ∈ List.range weight,
          (event (pickByWeight ((item, weight) :: items) roll) = true ↔
            event (some item) = true) := by
        intro roll below
        rw [pickByWeight, if_pos (List.mem_range.mp below)]
      rw [List.countP_congr same]
      cases event (some item) <;> simp
    have late : ((List.range (totalWeight items)).map (weight + ·)).countP
        (fun roll => event (pickByWeight ((item, weight) :: items) roll)) =
        eventWeight items fun item => event (some item) := by
      rw [List.countP_map, ← ih]
      apply List.countP_congr
      intro roll _
      have beyond : ¬ weight + roll < weight := by omega
      simp only [Function.comp_apply, pickByWeight, if_neg beyond, Nat.add_sub_cancel_left]
    rw [totalWeight_cons, List.range_add, List.countP_append, early, late, eventWeight_cons]

theorem probability_pickByWeight
    (items : List (α × Nat)) (result : Option α → β) (event : β → Bool) :
    (Draw.intn (totalWeight items) fun roll => result (pickByWeight items roll)).probability event =
      weightedShare items fun item => event (result (some item)) := by
  have counted := countP_pickByWeight (fun picked => event (result picked)) items
  rw [Draw.probability_intn, counted]
  rfl

theorem weightedShare_congr {items : List (α × Nat)} {event other : α → Bool}
    (same : ∀ item ∈ items, event item.1 = other item.1) :
    weightedShare items event = weightedShare items other := by
  unfold weightedShare eventWeight
  rw [List.filter_congr same]

section

variable (items : List (α × Nat))
include items

theorem eventWeight_map (change : α → β) (event : β → Bool) :
    eventWeight (items.map fun item => (change item.1, item.2)) event =
      eventWeight items fun item => event (change item) := by
  unfold eventWeight totalWeight
  rw [List.filter_map, List.map_map]
  rfl

theorem totalWeight_map (change : α → β) :
    totalWeight (items.map fun item => (change item.1, item.2)) = totalWeight items := by
  unfold totalWeight
  rw [List.map_map]
  rfl

theorem weightedShare_map (change : α → β) (event : β → Bool) :
    weightedShare (items.map fun item => (change item.1, item.2)) event =
      weightedShare items fun item => event (change item) := by
  rw [weightedShare, eventWeight_map, totalWeight_map, weightedShare]

theorem totalWeight_scaled (factor : Nat) :
    totalWeight (items.map fun item => (item.1, factor * item.2)) = factor * totalWeight items := by
  unfold totalWeight
  rw [List.map_map, ← List.sum_map_mul_left]
  rfl

theorem weightedShare_scaled {factor : Nat} (positive : 0 < factor) (event : α → Bool) :
    weightedShare (items.map fun item => (item.1, factor * item.2)) event =
      weightedShare items event := by
  have weight : eventWeight (items.map fun item => (item.1, factor * item.2))
      event = factor * eventWeight items event := by
    unfold eventWeight
    rw [List.filter_map]
    exact totalWeight_scaled _ factor
  have nonzero : (factor : ℚ) ≠ 0 := Nat.cast_ne_zero.mpr positive.ne'
  unfold weightedShare
  rw [weight, totalWeight_scaled, Nat.cast_mul, Nat.cast_mul, mul_div_mul_left _ _ nonzero]

end

theorem weightedShare_perm
    {left right : List (α × Nat)} (same : left.Perm right) (event : α → Bool) :
    weightedShare left event = weightedShare right event := by
  have total : ∀ {left right : List (α × Nat)}, left.Perm right →
      totalWeight left = totalWeight right :=
    fun same => (same.map Prod.snd).sum_eq
  unfold weightedShare eventWeight
  rw [total same, total (same.filter _)]

theorem weightedShare_singleton
    (item : α) {weight : Nat} (positive : 0 < weight) (event : α → Bool) :
    weightedShare [(item, weight)] event = if event item then 1 else 0 := by
  have nonzero : (weight : ℚ) ≠ 0 := Nat.cast_ne_zero.mpr positive.ne'
  unfold weightedShare
  rw [eventWeight_cons]
  cases event item with
  | true => simp [eventWeight, nonzero]
  | false => simp [eventWeight]

end Weights

end Draws
