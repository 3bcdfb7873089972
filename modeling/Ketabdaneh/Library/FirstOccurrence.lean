import Mathlib.Data.List.Basic
import Mathlib.Data.List.Induction

/-!
This module contains that dropping repeated elements keeps the first occurrence of each, in order.
-/

namespace FirstOccurrence

variable {α : Type*} [BEq α] [LawfulBEq α]

theorem eraseDups_concat (as : List α) (a : α)
    : (as ++ [a]).eraseDups = if a ∈ as then as.eraseDups else as.eraseDups ++ [a] := by
  rw [List.eraseDups_append]
  by_cases h : a ∈ as
  . simp [List.removeAll, h]
  . simp [List.removeAll, h, List.eraseDups_cons]

theorem pairwise_eraseDups (as : List α)
    : as.eraseDups.Pairwise fun a b => as.idxOf a < as.idxOf b := by
  induction as using List.reverseRecOn with
  | nil => exact List.Pairwise.nil
  | append_singleton as c ih =>
    have hkept : as.eraseDups.Pairwise fun a b => (as ++ [c]).idxOf a < (as ++ [c]).idxOf b := by
      apply ih.imp_of_mem
      intro a b ha hb hab
      rw [List.mem_eraseDups] at ha hb
      rwa [List.idxOf_append_of_mem ha, List.idxOf_append_of_mem hb]
    rw [eraseDups_concat]
    split
    . exact hkept
    . next hnew =>
      rw [List.pairwise_append]
      refine ⟨hkept, List.pairwise_singleton _ _, ?_⟩
      intro a ha b hb
      rw [List.mem_eraseDups] at ha
      rw [List.mem_singleton] at hb
      rw [hb, List.idxOf_append_of_mem ha, List.idxOf_append_of_notMem hnew]
      exact Nat.lt_of_lt_of_le (List.idxOf_lt_length_of_mem ha) (Nat.le_add_right _ _)

theorem nodup_eraseDups (as : List α) : as.eraseDups.Nodup := by
  apply (pairwise_eraseDups as).imp
  intro a b hab heq
  rw [heq] at hab
  exact absurd hab (Nat.lt_irrefl _)

end FirstOccurrence
