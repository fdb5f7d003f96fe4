import Mathlib.Algebra.BigOperators.Group.List.Basic
import Mathlib.Algebra.Order.BigOperators.Group.List
import Mathlib.Tactic.Abel
import NewApi.Lib.BulkStatements

/-!
# Totals over a table

`SELECT SUM(…)` over a table with a unique index, for a weight in any commutative
group.  A save moves the total by the difference of the two rows, a create adds
the new row, and nothing else changes it.
-/

universe u v w

namespace KeyedTable

variable {κ : Type u} {ρ : Type v} {key : ρ → κ} {μ : Type w} [AddCommGroup μ]

def total (table : KeyedTable key) (weight : ρ → μ) : μ := (table.rows.map weight).sum

@[simp]
theorem total_empty (weight : ρ → μ) : (empty : KeyedTable key).total weight = 0 := by
  simp [total, empty]

theorem total_congr (table : KeyedTable key) {first second : ρ → μ}
    (same : ∀ row ∈ table.rows, first row = second row) :
    table.total first = table.total second := by
  simp only [total]
  rw [List.map_congr_left same]

theorem total_eq_zero (table : KeyedTable key) {weight : ρ → μ}
    (zero : ∀ row ∈ table.rows, weight row = 0) :
    table.total weight = 0 := by
  rw [table.total_congr zero]
  simp [total]

theorem total_add (table : KeyedTable key) (first second : ρ → μ) :
    table.total (fun row => first row + second row) = table.total first + table.total second := by
  exact List.sum_map_add

variable {row : ρ}

theorem le_total_of_mem [PartialOrder μ] [IsOrderedAddMonoid μ] (table : KeyedTable key)
    {weight : ρ → μ}
    (nonnegative : ∀ row ∈ table.rows, 0 ≤ weight row) (member : row ∈ table.rows) :
    weight row ≤ table.total weight := by
  apply List.single_le_sum _ _ (List.mem_map_of_mem member)
  intro amount inside
  obtain ⟨other, listed, rfl⟩ := List.mem_map.mp inside
  exact nonnegative other listed

variable [DecidableEq κ]

private theorem sum_replace_absent (weight : ρ → μ) (row : ρ) (rows : List ρ)
    (absent : key row ∉ rows.map key) :
    ((rows.map (fun old => if key old = key row then row else old)).map
      weight).sum = (rows.map weight).sum := by
  have unchanged : rows.map (fun old => if key old = key row then row else old) = rows := by
    conv_rhs => rw [← List.map_id rows]
    apply List.map_congr_left
    intro old member
    have different : key old ≠ key row := by
      intro same
      exact absent (same ▸ List.mem_map_of_mem member)
    simp [different]
  rw [unchanged]

theorem total_save (table : KeyedTable key) (weight : ρ → μ) {old : ρ}
    (stored : table.lookup (key row) = some old) :
    (table.save row).total weight = table.total weight + (weight row - weight old) := by
  obtain ⟨rows, unique⟩ := table
  simp only [lookup] at stored
  simp only [total, save]
  induction rows with
  | nil => cases stored
  | cons head tail ih =>
    have tailUnique := (List.nodup_cons.mp unique).2
    by_cases headKey : key head = key row
    · have headRow : head = old := by simpa [headKey] using stored
      have absent : key row ∉ tail.map key := headKey ▸ (List.nodup_cons.mp unique).1
      have rest := sum_replace_absent weight row tail absent
      simp only [List.map_cons, List.sum_cons, headKey, if_true] at rest ⊢
      rw [rest, headRow]
      abel
    · have tailStored : tail.find? (fun other => key other = key row) = some old := by
        simpa [headKey] using stored
      have rest := ih tailUnique tailStored
      simp only [List.map_cons, List.sum_cons, headKey, if_false] at rest ⊢
      rw [rest]
      abel

theorem mem_rows_save {table : KeyedTable key} {other : ρ}
    (member : other ∈ (table.save row).rows) :
    other = row ∨ other ∈ table.rows := by
  simp only [save, List.mem_map] at member
  obtain ⟨old, listed, replaced⟩ := member
  by_cases same : key old = key row
  · rw [if_pos same] at replaced
    exact Or.inl replaced.symm
  · rw [if_neg same] at replaced
    exact Or.inr (replaced ▸ listed)

theorem total_create {table created : KeyedTable key} (weight : ρ → μ)
    (done : table.create row = some created) :
    created.total weight = table.total weight + weight row := by
  simp only [total, rows_create done, List.map_append, List.sum_append,
    List.map_cons, List.map_nil, List.sum_cons, List.sum_nil, add_zero]

end KeyedTable
