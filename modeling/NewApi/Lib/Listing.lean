import Mathlib.Data.List.Sort
import NewApi.Lib.KeyedTable

/-!
# Listings in key order

A directory or a map is read as the list of its rows sorted by their key.
Deleting a row takes it out of every later listing and leaves the order of the
others.
-/

universe u v

theorem List.insertionSort_filter {α : Type u} {order : α → α → Prop} [DecidableRel order]
    [Std.Total order] [IsTrans α order] {rows : List α}
    (apart : ∀ left ∈ rows, ∀ right ∈ rows, order left right → order right left → left = right)
    (test : α → Bool) :
    (rows.filter test).insertionSort order = (rows.insertionSort order).filter test := by
  have shuffle :
      ((rows.filter test).insertionSort order).Perm ((rows.insertionSort order).filter test) :=
    (List.perm_insertionSort _ _).trans ((List.perm_insertionSort _ _).filter test).symm
  refine shuffle.eq_of_pairwise ?_ (List.pairwise_insertionSort _ _)
      ((List.pairwise_insertionSort _ _).filter _)
  intro left right leftMember rightMember below above
  have leftRow : left ∈ rows :=
    (List.mem_filter.mp ((List.mem_insertionSort order).mp leftMember)).1
  have rightRow : right ∈ rows :=
    (List.mem_insertionSort order).mp (List.mem_filter.mp rightMember).1
  exact apart left leftRow right rightRow below above

namespace KeyedTable

variable {κ : Type u} {ρ : Type v} {key : ρ → κ}

def delete [DecidableEq κ] (table : KeyedTable key) (k : κ) :
    KeyedTable key where
  rows := table.rows.filter (fun row => key row ≠ k)
  unique := (List.filter_sublist.map key).nodup table.unique

def update (table : KeyedTable key) (test : ρ → Bool) (change : ρ → ρ)
    (sameKey : ∀ row, key (change row) = key row) : KeyedTable key where
  rows := table.rows.map (fun row => if test row then change row else row)
  unique := by
    have keys :
        (table.rows.map (fun row => if test row then change row else row)).map
            key =
          table.rows.map key := by
      rw [List.map_map]
      apply List.map_congr_left
      intro row _
      simp only [Function.comp_apply]
      split
      · exact sameKey row
      · rfl
    rw [keys]
    exact table.unique

theorem filter_rows_save [DecidableEq κ] (table : KeyedTable key) {row : ρ} {test : ρ → Bool}
    (fails : test row = false) :
    (table.save row).rows.filter test =
      (table.rows.filter test).filter (fun old => key old ≠ key row) := by
  simp only [save]
  generalize table.rows = rows
  induction rows with
  | nil => rfl
  | cons head tail ih =>
    by_cases replaced : key head = key row
    · cases passes : test head with
      | true => simpa [replaced, fails, passes] using ih
      | false => simpa [replaced, fails, passes] using ih
    · cases passes : test head with
      | true => simpa [replaced, passes] using ih
      | false => simpa [replaced, passes] using ih

theorem filter_key_ne_middle [DecidableEq κ] {ahead behind : List ρ} {row : ρ}
    (distinct : ((ahead ++ row :: behind).map key).Nodup) :
    (ahead ++ row :: behind).filter (fun other => key other ≠ key row) = ahead ++ behind := by
  rw [List.map_append, List.map_cons] at distinct
  have absent := (List.nodup_cons.mp (List.nodup_middle.mp distinct)).1
  rw [List.mem_append, not_or] at absent
  have keeps : ∀ rows : List ρ, key row ∉ rows.map key →
        rows.filter (fun other => key other ≠ key row) = rows := by
    intro rows missing
    refine List.filter_eq_self.mpr ?_
    intro other member
    rw [decide_eq_true_eq]
    intro same
    exact missing (same ▸ List.mem_map_of_mem member)
  rw [List.filter_append, List.filter_cons_of_neg (by simp),
    keeps ahead absent.1, keeps behind absent.2]

variable [LinearOrder κ]

def listing (keep : ρ → Bool) (table : KeyedTable key) : List ρ :=
  (table.rows.filter keep).insertionSort (fun left right => key left ≤ key right)

section

variable (keep : ρ → Bool) (table : KeyedTable key)
include keep table

theorem perm_listing :
    (table.listing keep).Perm (table.rows.filter keep) :=
  List.perm_insertionSort _ _

theorem nodup_map_key_listing :
    ((table.listing keep).map key).Nodup :=
  ((table.perm_listing keep).map key).nodup_iff.mpr
    ((List.filter_sublist.map key).nodup table.unique)

theorem listing_delete (k : κ) :
    (table.delete k).listing keep = (table.listing keep).filter (fun row => key row ≠ k) := by
  have swapped : (table.delete k).rows.filter keep =
        (table.rows.filter keep).filter (fun row => key row ≠ k) := by
    rw [delete, List.filter_filter, List.filter_filter]
    simp only [Bool.and_comm]
  rw [listing, listing, swapped]
  refine List.insertionSort_filter ?_ _
  intro left leftRow right rightRow below above
  exact List.inj_on_of_nodup_map table.unique (List.mem_filter.mp leftRow).1
      (List.mem_filter.mp rightRow).1 (le_antisymm below above)

end

end KeyedTable
