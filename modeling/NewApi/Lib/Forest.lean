import Mathlib.Logic.Relation

/-!
# Forests of parent pointers

A partial function `parent` gives every node at most one node above it; the graph
is a forest when no node lies above itself.  A new pointer keeps a forest if the
chain above its target ends at another node than the one that gets it.
-/

universe u

namespace Forest

open Relation ReflTransGen TransGen

variable {α : Type u} {parent : α → Option α}

/-- `above` is the parent of `node`. -/
def Points (parent : α → Option α) (node above : α) : Prop := parent node = some above

/-- No node lies above itself, over any number of pointers. -/
def Acyclic (parent : α → Option α) : Prop := ∀ node, ¬TransGen (Points parent) node node

/-- The chain of pointers from `start` passes through `node`. -/
def Leads (parent : α → Option α) (start node : α) : Prop := ReflTransGen (Points parent) start node

theorem acyclic_of_no_pointer (bare : ∀ node, parent node = none) : Acyclic parent := by
  intro node path
  obtain ⟨above, first, _⟩ := head'_iff.mp path
  rw [Points, bare node] at first
  cases first

variable {later : α → Option α}

theorem Leads.mono (kept : ∀ node above, parent node = some above → later node = some above)
    {start node : α} (chain : Leads parent start node) :
    Leads later start node :=
  ReflTransGen.mono kept start node chain

theorem Leads.eq_end {start node root : α} (toNode : Leads parent start node)
    (toRoot : Leads parent start root) (ends : parent root = none) (bare : parent node = none) :
    node = root := by
  have stays : ∀ {bareNode other : α}, parent bareNode = none →
      Leads parent bareNode other → bareNode = other := by
    intro bareNode other none chain
    cases cases_head chain with
    | inl same => exact same
    | inr further =>
      obtain ⟨above, first, _⟩ := further
      rw [Points, none] at first
      cases first
  have unique : Relator.RightUnique (Points parent) :=
    fun _ _ _ first second => Option.some.inj (first.symm.trans second)
  rcases total_of_right_unique unique toNode toRoot with onward | onward
  · exact stays bare onward
  · exact (stays ends onward).symm

theorem path_of_linked {child above : α}
    (linked : ∀ node, later node = parent node ∨ node = child ∧ later node = some above)
    {start node : α} (path : TransGen (Points later) start node) :
    TransGen (Points parent) start node ∨ Leads parent start child ∧ Leads parent above node := by
  have old_or_new : ∀ {first second : α}, Points later first second →
      Points parent first second ∨ first = child ∧ second = above := by
    intro first second pointer
    rcases linked first with kept | ⟨atChild, new⟩
    · left
      rw [Points, ← kept]
      exact pointer
    · right
      exact ⟨atChild, Option.some.inj (pointer.symm.trans new)⟩
  induction path with
  | single pointer =>
    rcases old_or_new pointer with old | ⟨atChild, atAbove⟩
    · exact Or.inl (single old)
    · right
      rw [atChild, atAbove]
      exact ⟨refl, refl⟩
  | tail _ pointer ih =>
    rcases old_or_new pointer with old | ⟨atChild, atAbove⟩
    · rcases ih with before | ⟨toChild, fromAbove⟩
      · exact Or.inl (tail before old)
      · exact Or.inr ⟨toChild, tail fromAbove old⟩
    · right
      rw [atAbove]
      refine ⟨?_, refl⟩
      rcases ih with before | ⟨toChild, _⟩
      · rw [← atChild]
        exact before.to_reflTransGen
      · exact toChild

/-- Giving `child` the parent `above` keeps a forest when the chain from
`above` ends at another node. -/
theorem Acyclic.link {child above root : α} (acyclic : Acyclic parent)
    (linked : ∀ node, later node = parent node ∨ node = child ∧ later node = some above)
    (bare : parent child = none) (chain : Leads parent above root) (ends : parent root = none)
    (elsewhere : child ≠ root) :
    Acyclic later := by
  intro node cycle
  rcases path_of_linked linked cycle with before | ⟨toChild, fromAbove⟩
  · exact acyclic node before
  · have meets : Leads parent above child := fromAbove.trans toChild
    exact elsewhere (meets.eq_end chain ends bare)

end Forest
