import Mathlib.Data.List.Sort

/-!
This module contains what merge sort does with a comparison that only refines an order: the order
holds in the result, whatever the comparison says of ties.
-/

namespace Sorting

variable {α : Type} {le : α → α → Bool} {r : α → α → Prop}

/-- The order holds one way or the other between two elements, as the comparison says. -/
structure Decides (le : α → α → Bool) (r : α → α → Prop) (a b : α) : Prop where
  of_le : le a b = true → r a b
  of_not_le : ¬le a b = true → r b a

theorem pairwise_merge (htrans : ∀ a b c, r a b → r b c → r a c) {left right : List α}
    (hdecides : ∀ a ∈ left, ∀ b ∈ right, Decides le r a b) (hleft : left.Pairwise r)
    (hright : right.Pairwise r) : (left.merge right le).Pairwise r := by
  induction left generalizing right with
  | nil => rwa [List.nil_merge]
  | cons x left ihleft =>
    induction right with
    | nil => rwa [List.merge_right]
    | cons y right ihright =>
      have hxy := hdecides x List.mem_cons_self y List.mem_cons_self
      rw [List.pairwise_cons] at hleft hright
      rw [List.cons_merge_cons]
      split
      . next hle =>
        rw [List.pairwise_cons]
        constructor
        . intro z hz
          rw [List.mem_merge, List.mem_cons] at hz
          cases hz with
          | inl hz => exact hleft.1 z hz
          | inr hz =>
            cases hz with
            | inl hz =>
              rw [hz]
              exact hxy.of_le hle
            | inr hz => exact htrans x y z (hxy.of_le hle) (hright.1 z hz)
        . apply ihleft _ hleft.2 (List.pairwise_cons.mpr hright)
          intro a ha
          exact hdecides a (List.mem_cons_of_mem x ha)
      . next hle =>
        rw [List.pairwise_cons]
        constructor
        . intro z hz
          rw [List.mem_merge, List.mem_cons] at hz
          cases hz with
          | inl hz =>
            cases hz with
            | inl hz =>
              rw [hz]
              exact hxy.of_not_le hle
            | inr hz => exact htrans y x z (hxy.of_not_le hle) (hleft.1 z hz)
          | inr hz => exact hright.1 z hz
        . apply ihright _ hright.2
          intro a ha b hb
          exact hdecides a ha b (List.mem_cons_of_mem y hb)

theorem pairwise_mergeSort (htrans : ∀ a b c, r a b → r b c → r a c)
    : (as : List α) → (∀ a ∈ as, ∀ b ∈ as, Decides le r a b) → (as.mergeSort le).Pairwise r
  | [], _ => by
    rw [List.mergeSort_nil]
    exact List.Pairwise.nil
  | [a], _ => by
    rw [List.mergeSort_singleton]
    exact List.pairwise_singleton r a
  | a :: b :: as, hdecides => by
    have hsplit := List.MergeSort.Internal.splitInTwo_fst_append_splitInTwo_snd
      ⟨a :: b :: as, rfl⟩
    have hfst := List.subset_append_left
      (List.MergeSort.Internal.splitInTwo ⟨a :: b :: as, rfl⟩).1.1
      (List.MergeSort.Internal.splitInTwo ⟨a :: b :: as, rfl⟩).2.1
    have hsnd := List.subset_append_right
      (List.MergeSort.Internal.splitInTwo ⟨a :: b :: as, rfl⟩).1.1
      (List.MergeSort.Internal.splitInTwo ⟨a :: b :: as, rfl⟩).2.1
    rw [hsplit] at hfst hsnd
    rw [List.mergeSort]
    apply pairwise_merge htrans
    . intro x hx y hy
      rw [List.mem_mergeSort] at hx hy
      exact hdecides x (hfst hx) y (hsnd hy)
    . apply pairwise_mergeSort htrans
      intro x hx y hy
      exact hdecides x (hfst hx) y (hfst hy)
    . apply pairwise_mergeSort htrans
      intro x hx y hy
      exact hdecides x (hsnd hx) y (hsnd hy)
termination_by as => as.length

/-- Sorting leaves a list alone exactly when it is in order already. -/
theorem mergeSort_eq_self_iff (htrans : ∀ a b c, r a b → r b c → r a c)
    (htotal : ∀ a b, r a b ∨ r b a) {as : List α}
    (hle : ∀ a ∈ as, ∀ b ∈ as, le a b = true ↔ r a b) : as.mergeSort le = as ↔ as.Pairwise r := by
  constructor
  . intro hself
    rw [← hself]
    apply pairwise_mergeSort htrans
    intro a ha b hb
    constructor
    case of_le => exact (hle a ha b hb).mp
    case of_not_le =>
      intro hab
      rw [hle a ha b hb] at hab
      exact (htotal a b).resolve_left hab
  . intro hpairwise
    apply List.mergeSort_of_pairwise
    apply hpairwise.imp_of_mem
    intro a b ha hb hab
    exact (hle a ha b hb).mpr hab

end Sorting
