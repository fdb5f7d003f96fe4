import NewApi.Lib.Listing

/-!
# Statements over many rows

Deletes and inserts of a transaction that touch more than one row of a table,
described like the others through later lookups.
-/

universe u v w

theorem List.filter_map_eq_filter {ρ : Type v} {rows : List ρ} {test : ρ → Bool} {change : ρ → ρ}
    (untouched : ∀ row ∈ rows,
      test (change row) = test row ∧ (test row = true → change row = row)) :
    (rows.map change).filter test = rows.filter test := by
  induction rows with
  | nil => rfl
  | cons row rest ih =>
    obtain ⟨sameTest, sameRow⟩ := untouched row List.mem_cons_self
    have restSame := ih (fun other listed => untouched other (List.mem_cons_of_mem _ listed))
    rw [List.map_cons, List.filter_cons, List.filter_cons, sameTest, restSame]
    split
    · rename_i passes
      rw [sameRow passes]
    · rfl

namespace KeyedTable

variable {κ : Type u} {ρ : Type v} {key : ρ → κ} [DecidableEq κ]

theorem lookup_update (table : KeyedTable key) {test : ρ → Bool} {change : ρ → ρ}
    (sameKey : ∀ row, key (change row) = key row) (k : κ) :
    (table.update test change sameKey).lookup k =
      (table.lookup k).map (fun row => if test row then change row else row) := by
  have keys : ∀ row, key (if test row then change row else row) = key row := by
    intro row
    by_cases passes : test row = true
    · simp [passes, sameKey]
    · simp [passes]
  simp only [lookup, update, List.find?_map, Function.comp_def, keys]

def deleteWhere (table : KeyedTable key) (test : ρ → Bool) : KeyedTable key where
  rows := table.rows.filter (fun row => !test row)
  unique := (List.filter_sublist.map key).nodup table.unique

theorem lookup_deleteWhere (table : KeyedTable key) (test : ρ → Bool) (k : κ) :
    (table.deleteWhere test).lookup k = (table.lookup k).filter (fun row => !test row) := by
  cases found : table.lookup k with
  | none =>
    have absent : k ∉ table.rows.map key := lookup_eq_none_iff.mp found
    have stillAbsent : k ∉ (table.deleteWhere test).rows.map key :=
      fun present => absent ((List.filter_sublist.map key).subset present)
    rw [lookup_eq_none_iff.mpr stillAbsent, Option.filter_none]
  | some row =>
    obtain ⟨member, rowKey⟩ := lookup_eq_some_iff.mp found
    by_cases passes : test row = true
    · have dropped : (table.deleteWhere test).lookup k = none := by
        apply lookup_eq_none_iff.mpr
        intro present
        obtain ⟨other, kept, otherKey⟩ := List.mem_map.mp present
        have otherMember := (List.mem_filter.mp kept).1
        have same : other = row :=
          List.inj_on_of_nodup_map table.unique otherMember member (otherKey.trans rowKey.symm)
        have fails := (List.mem_filter.mp kept).2
        simp [same, passes] at fails
      simp [dropped, Option.filter, passes]
    · have kept : (table.deleteWhere test).lookup k = some row := by
        apply lookup_eq_some_iff.mpr
        exact ⟨List.mem_filter.mpr ⟨member, by simpa using passes⟩, rowKey⟩
      simp [kept, Option.filter, passes]

theorem lookup_delete (table : KeyedTable key) (k other : κ) :
    (table.delete k).lookup other = if other = k then none else table.lookup other := by
  have same : table.delete k = table.deleteWhere (fun row => key row = k) := by
    unfold delete deleteWhere
    congr 1
    apply List.filter_congr
    intro row _
    by_cases equal : key row = k
    · simp [equal]
    · simp [equal]
  rw [same, lookup_deleteWhere]
  cases found : table.lookup other with
  | none => simp
  | some row =>
    have rowKey : key row = other := key_of_lookup found
    by_cases equal : other = k
    · simp [Option.filter, rowKey, equal]
    · simp [Option.filter, rowKey, equal]

def insertIgnore (table : KeyedTable key) (row : ρ) : KeyedTable key :=
  (table.create row).getD table

theorem lookup_insertIgnore (table : KeyedTable key) (row : ρ) (k : κ) :
    (table.insertIgnore row).lookup k =
      (table.lookup k).or (if key row = k then some row else none) := by
  cases done : table.create row with
  | some created =>
    have described := lookup_create done
    simp only [insertIgnore, done, Option.getD_some, described.2]
    by_cases rowKey : key row = k
    · rw [← rowKey, described.1]
      simp
    · simp [rowKey]
  | none =>
    simp only [insertIgnore, done, Option.getD_none]
    by_cases rowKey : key row = k
    · cases found : table.lookup k with
      | some old => rfl
      | none =>
        rw [← rowKey] at found
        obtain ⟨created, possible⟩ := exists_create found
        rw [done] at possible
        cases possible
    · simp [rowKey]

def insertAllIgnore (table : KeyedTable key) (rows : List ρ) : KeyedTable key :=
  rows.foldl insertIgnore table

theorem lookup_insertAllIgnore (rows : List ρ) :
    ∀ (table : KeyedTable key) (k : κ),
      (table.insertAllIgnore rows).lookup k =
        (table.lookup k).or (rows.find? (fun row => key row = k)) := by
  induction rows with
  | nil =>
    intro table k
    simp [insertAllIgnore]
  | cons row rows ih =>
    intro table k
    have step : table.insertAllIgnore (row :: rows) =
        (table.insertIgnore row).insertAllIgnore rows := rfl
    rw [step, ih, lookup_insertIgnore, Option.or_assoc]
    by_cases rowKey : key row = k
    · simp [rowKey]
    · simp [rowKey]

end KeyedTable
