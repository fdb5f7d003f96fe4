import Mathlib.Algebra.Ring.Int.Defs
import Mathlib.Data.List.Nodup
import Mathlib.Logic.Function.Basic

/-!
# Tables with a unique index

A relational table is a list of rows in insertion order together with the
proof that no two rows share the indexed column.  Every lemma describes a
statement through later lookups, so that a proof about a program never inspects
the row list itself.
-/

universe u v

/-- Rows of type `ρ` indexed uniquely by `key`. -/
structure KeyedTable {κ : Type u} {ρ : Type v} (key : ρ → κ) where
  rows : List ρ
  unique : (rows.map key).Nodup

namespace KeyedTable

variable {κ : Type u} {ρ : Type v} {key : ρ → κ}

def empty : KeyedTable key where
  rows := []
  unique := List.nodup_nil

variable [DecidableEq κ]

def lookup (table : KeyedTable key) (k : κ) : Option ρ := table.rows.find? (fun row => key row = k)

private theorem map_key_replace (rows : List ρ) (row : ρ) :
    (rows.map (fun old => if key old = key row then row else old)).map key = rows.map key := by
  rw [List.map_map]
  apply List.map_congr_left
  intro old _
  by_cases equal : key old = key row
  · simp [equal]
  · simp [equal]

def save (table : KeyedTable key) (row : ρ) : KeyedTable key where
  rows := table.rows.map (fun old => if key old = key row then row else old)
  unique := by
    rw [map_key_replace]
    exact table.unique

theorem map_key_save (table : KeyedTable key) (row : ρ) :
    (table.save row).rows.map key = table.rows.map key :=
  map_key_replace table.rows row

/-- Append `row`, or report a violation of the unique index. -/
def create (table : KeyedTable key) (row : ρ) : Option (KeyedTable key) :=
  if fresh : key row ∉ table.rows.map key then
    some
      { rows := table.rows ++ [row]
        unique := by
          rw [List.map_append, List.map_singleton]
          exact List.nodup_append.mpr
            ⟨table.unique, List.nodup_singleton _, by
              intro left leftMember right rightMember equal
              rw [List.mem_singleton] at rightMember
              rw [equal, rightMember] at leftMember
              exact fresh leftMember⟩ }
  else none

variable {table : KeyedTable key}

variable {row : ρ} {k : κ}

theorem rows_create {created : KeyedTable key} (done : table.create row = some created) :
    created.rows = table.rows ++ [row] := by
  unfold create at done
  split at done
  · cases done
    rfl
  · cases done

theorem key_of_lookup (found : table.lookup k = some row) : key row = k := by
  simpa using List.find?_some found

theorem lookup_eq_some_iff :
    table.lookup k = some row ↔ row ∈ table.rows ∧ key row = k := by
  constructor
  · intro found
    exact ⟨List.mem_of_find?_eq_some found, key_of_lookup found⟩
  · rintro ⟨member, rfl⟩
    cases found : table.lookup (key row) with
    | none =>
      have absent := List.find?_eq_none.mp found row member
      simp at absent
    | some other =>
      have otherMember : other ∈ table.rows := List.mem_of_find?_eq_some found
      have sameKey : key other = key row := key_of_lookup found
      have equal : other = row := List.inj_on_of_nodup_map table.unique otherMember member sameKey
      rw [equal]

@[simp]
theorem lookup_empty (k : κ) : (empty : KeyedTable key).lookup k = none := rfl

theorem lookup_save (table : KeyedTable key) (row : ρ) (k : κ) : (table.save row).lookup k =
      if key row = k then (table.lookup k).map (fun _ => row)
      else
        table.lookup k := by
  obtain ⟨rows, unique⟩ := table
  simp only [lookup, save]
  clear unique
  induction rows with
  | nil => simp
  | cons head tail ih =>
    by_cases headKey : key head = k
    · by_cases rowKey : key row = k
      · simp [headKey, rowKey]
      · simp [headKey, rowKey, Ne.symm rowKey]
    · by_cases replaced : key head = key row
      · have rowKey : key row ≠ k := by
          rw [← replaced]
          exact headKey
        simpa [replaced, rowKey] using ih
      · simpa [headKey, replaced] using ih

theorem lookup_save_self {row old : ρ} (found : table.lookup (key row) = some old) :
    (table.save row).lookup (key row) = some row := by
  rw [lookup_save, if_pos rfl, found, Option.map_some]

theorem lookup_save_of_ne (table : KeyedTable key) {row : ρ} {k : κ} (different : key row ≠ k) :
    (table.save row).lookup k = table.lookup k := by
  rw [lookup_save, if_neg different]

theorem lookup_eq_none_iff : table.lookup k = none ↔ k ∉ table.rows.map key := by
  simp only [lookup, List.find?_eq_none, decide_eq_true_eq, List.mem_map]
  constructor
  · rintro absent ⟨row, member, rfl⟩
    exact absent row member rfl
  · intro absent row member equal
    exact absent ⟨row, member, equal⟩

theorem lookup_create {created : KeyedTable key} (done : table.create row = some created) :
    table.lookup (key row) = none ∧
      ∀ k, created.lookup k = if key row = k then some row else table.lookup k := by
  unfold create at done
  split at done
  · rename_i fresh
    have absent : table.lookup (key row) = none := lookup_eq_none_iff.mpr fresh
    refine ⟨absent, ?_⟩
    intro k
    cases done
    simp only [lookup, List.find?_append]
    by_cases rowKey : key row = k
    · subst rowKey
      rw [lookup] at absent
      simp [absent]
    · simp [rowKey]
  · cases done

theorem exists_create (absent : table.lookup (key row) = none) :
    ∃ created, table.create row = some created := by
  have fresh := lookup_eq_none_iff.mp absent
  exact ⟨_, by rw [create, dif_pos fresh]⟩

theorem lookup_save_eq_update {old : ρ} (found : table.lookup (key row) = some old) :
    (table.save row).lookup = Function.update table.lookup (key row) (some row) := by
  funext k
  rw [lookup_save]
  by_cases same : key row = k
  · rw [if_pos same, ← same, found, Function.update_self]
    rfl
  · rw [if_neg same, Function.update_of_ne (Ne.symm same)]

theorem lookup_create_eq_update {created : KeyedTable key}
    (done : table.create row = some created) :
    created.lookup = Function.update table.lookup (key row) (some row) := by
  funext k
  rw [(lookup_create done).2]
  by_cases same : key row = k
  · rw [if_pos same, ← same, Function.update_self]
  · rw [if_neg same, Function.update_of_ne (Ne.symm same)]

theorem save_of_lookup (found : table.lookup (key row) = some row) :
    table.save row = table := by
  obtain ⟨rows, unique⟩ := table
  unfold save
  congr 1
  have fixed : ∀ old ∈ rows, (if key old = key row then row else old) = old := by
    intro old member
    split
    · rename_i sameKey
      have located : (⟨rows, unique⟩ : KeyedTable key).lookup (key row) = some old :=
        lookup_eq_some_iff.mpr ⟨member, sameKey⟩
      rw [found] at located
      exact Option.some.inj located
    · rfl
  calc
    rows.map (fun old => if key old = key row then row else old) =
        rows.map id := List.map_congr_left fixed
    _ = rows := List.map_id rows

theorem filter_rows_eq_singleton {test : ρ → Bool} (found : table.lookup k = some row)
    (passes : test row = true)
    (alone : ∀ other found, table.lookup other = some found → test found = true → other = k) :
    table.rows.filter test = [row] := by
  obtain ⟨member, rowKey⟩ := lookup_eq_some_iff.mp found
  have same : ∀ other ∈ table.rows.filter test, other = row := by
    intro other passed
    obtain ⟨otherMember, otherPasses⟩ := List.mem_filter.mp passed
    have located : table.lookup (key other) = some other :=
      lookup_eq_some_iff.mpr ⟨otherMember, rfl⟩
    have sameKey := alone (key other) other located otherPasses
    rw [sameKey, found] at located
    exact (Option.some.inj located).symm
  have nodup : (table.rows.filter test).Nodup := table.unique.of_map.filter test
  have present : row ∈ table.rows.filter test := List.mem_filter.mpr ⟨member, passes⟩
  cases scanned : table.rows.filter test with
  | nil =>
    rw [scanned] at present
    cases present
  | cons head tail =>
    rw [scanned] at same nodup
    have headEq : head = row := same head List.mem_cons_self
    cases tail with
    | nil => rw [headEq]
    | cons next rest =>
      have nextEq : next = row := same next (List.mem_cons_of_mem head List.mem_cons_self)
      rw [headEq, nextEq] at nodup
      simp at nodup

theorem filter_rows_eq_nil {test : ρ → Bool}
    (fails : ∀ k row, table.lookup k = some row → test row = false) :
    table.rows.filter test = [] := by
  rw [List.filter_eq_nil_iff]
  intro row member passes
  have located : table.lookup (key row) = some row := lookup_eq_some_iff.mpr ⟨member, rfl⟩
  rw [fails (key row) row located] at passes
  cases passes

theorem any_rows_iff (table : KeyedTable key) (test : ρ → Bool) :
    table.rows.any test = true ↔ ∃ k row, table.lookup k = some row ∧ test row = true := by
  rw [List.any_eq_true]
  constructor
  · rintro ⟨row, member, passes⟩
    exact ⟨key row, row, lookup_eq_some_iff.mpr ⟨member, rfl⟩, passes⟩
  · rintro ⟨k, row, found, passes⟩
    exact ⟨row, (lookup_eq_some_iff.mp found).1, passes⟩

end KeyedTable
