import Mathlib.Data.List.Perm.Subperm
import Mathlib.Data.List.Nodup

/-!
# First occurrences

A loop that keeps an item unless its key is in the set of seen keys.
-/

universe u v

namespace Distinct

variable {α : Type u} {κ : Type v} [DecidableEq κ]

def distinctBy (key : α → κ) : List κ → List α → List α
  | _, [] => []
  | seen, item :: items =>
    if key item ∈ seen then distinctBy key seen items
    else item :: distinctBy key (key item :: seen) items

theorem distinctBy_sublist (key : α → κ) (items : List α) :
    ∀ seen : List κ, (distinctBy key seen items).Sublist items := by
  induction items with
  | nil => exact fun _ => List.Sublist.refl []
  | cons item items ih =>
    intro seen
    unfold distinctBy
    split
    · exact (ih seen).cons item
    · exact (ih _).cons_cons item

theorem mem_map_distinctBy (key : α → κ) (items : List α) (k : κ) :
    ∀ seen : List κ, k ∈ (distinctBy key seen items).map key ↔ k ∈ items.map key ∧ k ∉ seen := by
  induction items with
  | nil => simp [distinctBy]
  | cons item items ih =>
    intro seen
    by_cases known : key item ∈ seen
    · rw [distinctBy, if_pos known, ih seen, List.map_cons, List.mem_cons]
      constructor
      · exact fun kept => ⟨Or.inr kept.1, kept.2⟩
      · rintro ⟨rfl | later, unseen⟩
        · exact absurd known unseen
        · exact ⟨later, unseen⟩
    · rw [distinctBy, if_neg known, List.map_cons, List.mem_cons, ih,
        List.map_cons, List.mem_cons, List.mem_cons, not_or]
      constructor
      · rintro (rfl | ⟨later, different, unseen⟩)
        · exact ⟨Or.inl rfl, known⟩
        · exact ⟨Or.inr later, unseen⟩
      · rintro ⟨rfl | later, unseen⟩
        · exact Or.inl rfl
        · by_cases same : k = key item
          · exact Or.inl same
          · exact Or.inr ⟨later, same, unseen⟩

theorem nodup_map_distinctBy (key : α → κ) (items : List α) :
    ∀ seen : List κ, ((distinctBy key seen items).map key).Nodup := by
  induction items with
  | nil => simp [distinctBy]
  | cons item items ih =>
    intro seen
    by_cases known : key item ∈ seen
    · rw [distinctBy, if_pos known]
      exact ih seen
    · rw [distinctBy, if_neg known, List.map_cons, List.nodup_cons]
      refine ⟨?_, ih _⟩
      rw [mem_map_distinctBy]
      exact fun kept => kept.2 List.mem_cons_self

end Distinct
