import Mathlib.Data.List.Nodup

/-!
# Chains of parents

A chain lists an element, its parent, the parent's parent and so on up to an
element without a parent.  An element has at most one chain, so no chain meets an
element twice.
-/

namespace Chatik.Library

variable {α : Type*}

def ParentChain (parent : α → Option α) : List α → Prop
  | [] => False
  | [root] => parent root = none
  | child :: element :: above => parent child = some element ∧
      ParentChain parent (element :: above)

variable {parent : α → Option α}

theorem ParentChain.unique {element : α} {above above' : List α}
    (h : ParentChain parent (element :: above))
    (h' : ParentChain parent (element :: above')) : above = above' := by
  induction above generalizing element above' with
  | nil =>
      cases above' with
      | nil => rfl
      | cons next' above' =>
          have hroot : parent element = none := h
          rw [h'.1] at hroot
          cases hroot
  | cons next above ih =>
      cases above' with
      | nil =>
          have hroot : parent element = none := h'
          rw [h.1] at hroot
          cases hroot
      | cons next' above' =>
          obtain rfl : next = next' := Option.some.inj (h.1.symm.trans h'.1)
          rw [ih h.2 h'.2]

/-- From each of its elements on, a chain is a chain. -/
theorem ParentChain.of_append {below above : List α} {element : α}
    (h : ParentChain parent (below ++ element :: above)) :
    ParentChain parent (element :: above) := by
  induction below with
  | nil => exact h
  | cons child below ih =>
      cases below with
      | nil => exact h.2
      | cons next below => exact ih h.2

theorem ParentChain.nodup {chain : List α} (h : ParentChain parent chain) :
    chain.Nodup := by
  induction chain with
  | nil => exact List.nodup_nil
  | cons element above ih =>
      have hnot : element ∉ above := by
        intro hmem
        obtain ⟨below, rest, rfl⟩ := List.append_of_mem hmem
        have hrest : ParentChain parent (element :: rest) :=
          ParentChain.of_append (List.cons_append ▸ h)
        have hsame := congrArg List.length (h.unique hrest)
        simp only [List.length_append, List.length_cons] at hsame
        omega
      refine List.nodup_cons.mpr ⟨hnot, ?_⟩
      cases above with
      | nil => exact List.nodup_nil
      | cons next above => exact ih h.2

end Chatik.Library
