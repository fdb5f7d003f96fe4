import Mathlib.Data.List.Perm.Basic
import Mathlib.Order.Lattice

/-!
# Maps in the order of their keys

A finite map as a list of its entries in the order of the keys.  Equal maps are
equal lists, so that a map that is filled from another one does not show the
order in which that one was visited.
-/

universe u v w

namespace SortedMaps

variable {κ : Type u} {ν : Type v} {α : Type w} [LinearOrder κ]

def Sorted (entries : List (κ × ν)) : Prop := entries.Pairwise fun left right => left.1 < right.1

def get (entries : List (κ × ν)) (key : κ) : Option ν :=
  (entries.find? fun entry => entry.1 = key).map Prod.snd

def erase (entries : List (κ × ν)) (key : κ) : List (κ × ν) :=
  entries.filter fun entry => entry.1 ≠ key

def set : List (κ × ν) → κ → ν → List (κ × ν)
  | [], key, value => [(key, value)]
  | entry :: rest, key, value =>
    if key < entry.1 then (key, value) :: entry :: rest
    else if key = entry.1 then (key, value) :: rest
    else entry :: set rest key value

/-- The map that a loop over some items fills; `read` gives the entry of an
item, if it has one. -/
def collect (read : α → Option (κ × ν)) (items : List α) : List (κ × ν) :=
  items.foldl
    (fun target item =>
      match read item with
      | none => target
      | some (key, value) => set target key value)
    []

variable {entries first second : List (κ × ν)} {key : κ} {value : ν}

theorem Sorted.eq_of_perm (sorted : Sorted first) (other : Sorted second)
    (shuffled : first.Perm second) : first = second :=
  List.Perm.eq_of_pairwise (fun _ _ _ _ below above => absurd below (not_lt.mpr above.le)) sorted
    other shuffled

theorem Sorted.nodup_keys (sorted : Sorted entries) : (entries.map Prod.fst).Nodup := by
  rw [List.Nodup, List.pairwise_map]
  exact sorted.imp fun below => below.ne

theorem Sorted.erase (sorted : Sorted entries) (key : κ) : Sorted (erase entries key) :=
  List.Pairwise.filter _ sorted

theorem mem_set {entry : κ × ν} (member : entry ∈ set entries key value) :
    entry = (key, value) ∨ entry ∈ entries := by
  induction entries with
  | nil => exact Or.inl (List.mem_singleton.mp member)
  | cons head rest ih =>
    rw [set] at member
    split_ifs at member with before same
    · exact (List.mem_cons.mp member)
    · exact (List.mem_cons.mp member).imp_right (List.mem_cons_of_mem head)
    · rcases List.mem_cons.mp member with rfl | later
      · exact Or.inr List.mem_cons_self
      · exact (ih later).imp_right (List.mem_cons_of_mem head)

theorem Sorted.set (sorted : Sorted entries) (key : κ) (value : ν) :
    Sorted (set entries key value) := by
  induction entries with
  | nil => exact List.pairwise_singleton _ _
  | cons head rest ih =>
    obtain ⟨smallest, restSorted⟩ := List.pairwise_cons.mp sorted
    rw [SortedMaps.set]
    split_ifs with before same
    · refine List.pairwise_cons.mpr ⟨?_, sorted⟩
      rintro entry (_ | ⟨_, later⟩)
      · exact before
      · exact before.trans (smallest entry later)
    · refine List.pairwise_cons.mpr ⟨?_, restSorted⟩
      intro entry later
      exact same ▸ smallest entry later
    · refine List.pairwise_cons.mpr ⟨?_, ih restSorted⟩
      intro entry member
      rcases mem_set member with rfl | later
      · exact lt_of_le_of_ne (not_lt.mp before) fun equal => same equal.symm
      · exact smallest entry later

/-- A new key only adds its entry. -/
theorem perm_set (absent : key ∉ entries.map Prod.fst) :
    (set entries key value).Perm ((key, value) :: entries) := by
  induction entries with
  | nil => rfl
  | cons head rest ih =>
    obtain ⟨differs, later⟩ := not_or.mp fun found => absent (List.mem_cons.mpr found)
    rw [set, if_neg differs]
    split_ifs with before
    · rfl
    · exact ((ih later).cons head).trans (List.Perm.swap _ _ _)

variable {read : α → Option (κ × ν)} {items others : List α}

theorem sorted_collect (read : α → Option (κ × ν)) (items : List α) :
    Sorted (collect read items) := by
  refine List.foldlRecOn (motive := Sorted) items _ List.Pairwise.nil ?_
  intro target sorted item _
  split
  · exact sorted
  · exact sorted.set _ _

theorem mem_collect {entry : κ × ν} (member : entry ∈ collect read items) :
    ∃ item ∈ items, read item = some entry := by
  have step : ∀ target : List (κ × ν), (∀ entry ∈ target, ∃ item ∈ items, read item = some entry) →
      ∀ item ∈ items,
        ∀ entry ∈ (match read item with
          | none => target
          | some (key, value) => set target key value),
          ∃ item ∈ items, read item = some entry := by
    intro target known item listed entry member
    cases found : read item with
    | none =>
      rw [found] at member
      exact known entry member
    | some added =>
      rw [found] at member
      rcases mem_set member with rfl | old
      · exact ⟨item, listed, found⟩
      · exact known entry old
  exact List.foldlRecOn
    (motive := fun target => ∀ entry ∈ target, ∃ item ∈ items, read item = some entry) items _
    (by simp) (fun target known item listed => step target known item listed) entry member

theorem perm_collect (distinct : ((items.filterMap read).map Prod.fst).Nodup) :
    (collect read items).Perm (items.filterMap read) := by
  -- The entries that are still to come have other keys than the ones collected.
  have fill : ∀ (items : List α) (target : List (κ × ν)),
      ((target ++ items.filterMap read).map Prod.fst).Nodup →
        (items.foldl
          (fun target item =>
            match read item with
            | none => target
            | some (key, value) => set target key value)
          target).Perm (target ++ items.filterMap read) := by
    intro items
    induction items with
    | nil =>
      intro target _
      rw [List.filterMap_nil, List.append_nil]
      rfl
    | cons item items ih =>
      intro target unique
      rw [List.foldl_cons]
      cases found : read item with
      | none =>
        rw [List.filterMap_cons_none found] at unique ⊢
        exact ih target unique
      | some entry =>
        rw [List.filterMap_cons_some found] at unique ⊢
        have moved : (target ++ entry :: items.filterMap read).Perm
            (entry :: target ++ items.filterMap read) := List.perm_middle
        have unique := (moved.map Prod.fst).nodup_iff.mp unique
        have absent : entry.1 ∉ target.map Prod.fst := by
          intro present
          obtain ⟨old, member, same⟩ := List.mem_map.mp present
          refine (List.nodup_cons.mp unique).1 ?_
          exact List.mem_map.mpr ⟨old, List.mem_append_left _ member, same⟩
        have added : (set target entry.1 entry.2).Perm (entry :: target) := perm_set absent
        have grown := added.append_right (items.filterMap read)
        exact (ih _ ((grown.map Prod.fst).nodup_iff.mpr unique)).trans (grown.trans moved.symm)
  exact fill items [] distinct

/-- What is collected does not depend on the order of the items whose keys are
distinct. -/
theorem collect_eq_of_perm (distinct : ((items.filterMap read).map Prod.fst).Nodup)
    (shuffled : items.Perm others) : collect read items = collect read others := by
  have reordered := shuffled.filterMap read
  refine (sorted_collect read items).eq_of_perm (sorted_collect read others) ?_
  exact (perm_collect distinct).trans
    (reordered.trans
      (perm_collect ((reordered.map Prod.fst).nodup_iff.mp distinct)).symm)

end SortedMaps
