import Mathlib.Algebra.BigOperators.Group.Finset.Piecewise
import Mathlib.Algebra.Order.BigOperators.Group.Finset

/-!
# Shares of a common total

Finitely many parties put amounts into one counter, which may hold more than
all of them together.  A party that takes out its own share leaves the shares
of the others covered.
-/

universe u v

namespace Shares

section Amounts

variable {ι : Type u} {α : Type v} [DecidableEq ι] [AddCommGroup α]
  [PartialOrder α] [IsOrderedAddMonoid α]

/-- Finitely many shares are nonzero, and the total covers all of them. -/
def Covered (share : ι → α) (total : α) : Prop :=
  ∃ parties : Finset ι,
    (∀ party, party ∉ parties → share party = 0) ∧ ∑ party ∈ parties, share party ≤ total

omit [DecidableEq ι] [IsOrderedAddMonoid α] in
theorem covered_zero {total : α} (nonnegative : 0 ≤ total) : Covered (fun _ : ι => (0 : α)) total :=
  ⟨∅, by simp, by simpa using nonnegative⟩

theorem Covered.move {share : ι → α} {total : α}
    (covered : Covered share total) (party : ι) (delta : α) :
    Covered (Function.update share party (share party + delta)) (total + delta) := by
  obtain ⟨parties, outside, bound⟩ := covered
  have padded : ∑ other ∈ insert party parties, share other = ∑ other ∈ parties, share other := by
    by_cases member : party ∈ parties
    · rw [Finset.insert_eq_of_mem member]
    · rw [Finset.sum_insert member, outside party member, zero_add]
  refine ⟨insert party parties, ?_, ?_⟩
  · intro other notMember
    rw [Finset.mem_insert, not_or] at notMember
    rw [Function.update_of_ne notMember.1]
    exact outside other notMember.2
  · have split :=
      Finset.add_sum_erase (insert party parties) share (Finset.mem_insert_self party parties)
    rw [Finset.sum_update_of_mem (Finset.mem_insert_self party parties),
      Finset.sdiff_singleton_eq_erase]
    calc
      share party + delta + ∑ other ∈ (insert party parties).erase party, share other
          = (∑ other ∈ insert party parties, share other) + delta := by
            rw [← split, add_right_comm]
      _ ≤ total + delta := by
            rw [padded]
            exact add_le_add_left bound delta

omit [DecidableEq ι] in
theorem Covered.share_le {share : ι → α} {total : α} (covered : Covered share total)
    (nonnegative : ∀ party, 0 ≤ share party) (party : ι) :
    share party ≤ total := by
  obtain ⟨parties, outside, bound⟩ := covered
  by_cases member : party ∈ parties
  · exact (Finset.single_le_sum (fun other _ => nonnegative other) member).trans bound
  · rw [outside party member]
    exact (Finset.sum_nonneg (fun other _ => nonnegative other)).trans bound

end Amounts

end Shares
