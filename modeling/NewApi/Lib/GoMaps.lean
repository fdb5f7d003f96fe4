import Mathlib.Data.Finset.Basic
import Mathlib.Data.Finset.Filter

/-!
# Maps

A Go map, without the identity of the map as an object: finitely many keys with
their values.  Two maps with the same values are equal, as `reflect.DeepEqual`
has it for maps that are not nil.
-/

universe u v

structure GoMap (κ : Type u) (ν : Type v) where
  get : κ → Option ν
  keys : Finset κ
  mem_keys : ∀ key, key ∈ keys ↔ (get key).isSome = true

namespace GoMap

variable {κ : Type u} {ν : Type v}

@[ext]
theorem ext {first second : GoMap κ ν}
    (same : ∀ key, first.get key = second.get key) : first = second := by
  obtain ⟨get, keys, firstKeys⟩ := first
  obtain ⟨otherGet, otherKeys, secondKeys⟩ := second
  obtain rfl : get = otherGet := funext same
  obtain rfl : keys = otherKeys := by
    ext key
    rw [firstKeys, secondKeys]
  rfl

/-- The map with the values that are given for these keys. -/
def tabulate (keys : Finset κ) (value : κ → Option ν) [DecidableEq κ] :
    GoMap κ ν where
  get := fun key => if key ∈ keys then value key else none
  keys := keys.filter fun key => (value key).isSome = true
  mem_keys := by
    intro key
    rw [Finset.mem_filter]
    by_cases listed : key ∈ keys
    · simp [listed]
    · simp [listed]

theorem mem_keys_of_get {map : GoMap κ ν} {key : κ}
    (present : map.get key ≠ none) : key ∈ map.keys := by
  rw [map.mem_keys]
  exact Option.isSome_iff_ne_none.mpr present

variable [DecidableEq κ]

theorem get_tabulate {keys : Finset κ} {value : κ → Option ν}
    (covers : ∀ key, value key ≠ none → key ∈ keys) (key : κ) :
    (tabulate keys value).get key = value key := by
  simp only [tabulate]
  split
  · rfl
  case isFalse absent =>
    by_contra differs
    exact absent (covers key fun none => differs none.symm)

def empty : GoMap κ ν := tabulate ∅ fun _ => none

/-- The entries of a map, replaced or extended by those of another. -/
def merge (map entries : GoMap κ ν) : GoMap κ ν :=
  tabulate (map.keys ∪ entries.keys) fun key => (entries.get key).or (map.get key)

@[simp]
theorem get_merge (map entries : GoMap κ ν) (key : κ) :
    (map.merge entries).get key = (entries.get key).or (map.get key) := by
  refine get_tabulate ?_ key
  intro key present
  rw [Finset.mem_union]
  cases found : entries.get key with
  | none =>
    rw [found, Option.none_or] at present
    exact Or.inl (mem_keys_of_get present)
  | some value =>
    refine Or.inr (mem_keys_of_get ?_)
    simp [found]

theorem merge_self (map : GoMap κ ν) : map.merge map = map := by
  ext1 key
  rw [get_merge]
  cases map.get key <;> rfl

def isEmpty (map : GoMap κ ν) : Bool := map.keys = ∅

theorem isEmpty_iff {map : GoMap κ ν} : map.isEmpty = true ↔ ∀ key, map.get key = none := by
  simp only [isEmpty, decide_eq_true_eq, Finset.eq_empty_iff_forall_notMem, map.mem_keys,
    Bool.not_eq_true, Option.isSome_eq_false_iff, Option.isNone_iff_eq_none]

instance [DecidableEq ν] : DecidableEq (GoMap κ ν) := fun first second =>
  decidable_of_iff
    (first.keys = second.keys ∧ ∀ key ∈ first.keys, first.get key = second.get key) <| by
    constructor
    · rintro ⟨sameKeys, sameValues⟩
      ext1 key
      by_cases listed : key ∈ first.keys
      · exact sameValues key listed
      have absent : first.get key = none := by
        by_contra present
        exact listed (mem_keys_of_get present)
      have otherAbsent : second.get key = none := by
        by_contra present
        exact listed (sameKeys ▸ mem_keys_of_get present)
      rw [absent, otherAbsent]
    · rintro rfl
      exact ⟨rfl, fun _ _ => rfl⟩

end GoMap
