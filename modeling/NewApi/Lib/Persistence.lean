import NewApi.Lib.KeyedTable
import NewApi.Lib.Interleaving

/-!
# Rows that persist

`RowsStay change` relates two states of a table: every row is still there, and
has changed as `change` allows.
-/

universe u v

def RowsStay {κ : Type u} {ρ : Type v} (change : ρ → ρ → Prop) (before after : κ → Option ρ) :
    Prop :=
  ∀ k row, before k = some row → ∃ next, after k = some next ∧ change row next

namespace RowsStay

variable {κ : Type u} {ρ : Type v} {change : ρ → ρ → Prop} {before after final : κ → Option ρ}

theorem of_eq (still : ∀ row, change row row) (same : after = before) :
    RowsStay change before after := by
  intro k row found
  exact ⟨row, same ▸ found, still row⟩

theorem trans (compose : ∀ a b c, change a b → change b c → change a c)
    (first : RowsStay change before after) (second : RowsStay change after final) :
    RowsStay change before final := by
  intro k row found
  obtain ⟨next, nextFound, changed⟩ := first k row found
  obtain ⟨last, lastFound, further⟩ := second k next nextFound
  exact ⟨last, lastFound, compose row next last changed further⟩

theorem enter [DecidableEq κ] (still : ∀ row, change row row) {key : κ} {entry : ρ}
    (entered : ∀ k, after k = if key = k then some entry else before k)
    (allowed : ∀ row, before key = some row → change row entry) :
    RowsStay change before after := by
  intro k row found
  rw [entered]
  by_cases same : key = k
  · exact ⟨entry, if_pos same, allowed row (same ▸ found)⟩
  · exact ⟨row, by rw [if_neg same, found], still row⟩

variable [DecidableEq κ] {key : ρ → κ} {table : KeyedTable key} {row : ρ}

theorem create (still : ∀ row, change row row) {created : KeyedTable key}
    (done : table.create row = some created) :
    RowsStay change table.lookup created.lookup := by
  obtain ⟨absent, lookup⟩ := KeyedTable.lookup_create done
  refine enter still lookup ?_
  intro old found
  rw [absent] at found
  cases found

theorem save (still : ∀ row, change row row) {old : ρ} (found : table.lookup (key row) = some old)
    (changed : change old row) :
    RowsStay change table.lookup (table.save row).lookup := by
  have entered : ∀ k, (table.save row).lookup k =
      if key row = k then some row else table.lookup k := by
    intro k
    rw [KeyedTable.lookup_save]
    split
    · rename_i same
      rw [← same, found, Option.map_some]
    · rfl
  refine enter still entered ?_
  intro stored storedFound
  rw [found] at storedFound
  cases storedFound
  exact changed

end RowsStay

/-! ## Runs -/

section Runs

variable {S : Type u} {α : Type v} {related : S → S → Prop}

/-- A relation that every action respects holds between the ends of a run. -/
theorem Transactions.execute_related {step : S → α → S} (still : ∀ state, related state state)
    (compose : ∀ a b c, related a b → related b c → related a c)
    (each : ∀ state action, related state (step state action)) (start : S) (actions : List α) :
    related start (execute step start actions) := by
  induction actions generalizing start with
  | nil => exact still start
  | cons action rest ih => exact compose _ _ _ (each start action) (ih _)

end Runs

namespace Interleaving.Machine

variable {Op C E S R : Type} {Answer : Op → Type} {related : S → S → Prop}

/-- The same for every interleaving of the calls of a machine. -/
theorem run_related {machine : Machine Answer C E S R} (still : ∀ shared, related shared shared)
    (compose : ∀ a b c, related a b → related b c → related a c)
    (perform : ∀ op shared, related shared (machine.perform op shared).1)
    (outside : ∀ event shared, related shared (machine.outside event shared))
    (config : Config Answer C S R) (actions : List (Action C E)) :
    related config.shared (machine.run config actions).shared := by
  have each : ∀ (config : Config Answer C S R) (action : Action C E),
      related config.shared (machine.act config action).shared := by
    intro config action
    cases action with
    | start call => exact still _
    | outside event => exact outside event _
    | step number =>
      simp only [act, advance]
      split
      · exact still _
      split
      · exact still _
      · exact perform _ _
  induction actions generalizing config with
  | nil => exact still _
  | cons action rest ih => exact compose _ _ _ (each config action) (ih _)

end Interleaving.Machine
