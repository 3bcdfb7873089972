import Ketabdaneh.Library.Text.Basic
import Mathlib.Data.List.Nodup

/-!
This module contains metrics with labels, as the Prometheus client keeps them: a child for every
tuple of label values there has been a call of `labels` with.
-/

namespace Prometheus

/-- A child is never removed, and there is one for each of its tuples. -/
structure Family (ν : Type) where
  children : List (List Str × ν) := []
  nodup : (children.map Prod.fst).Nodup := by simp

def Family.empty {ν : Type} : Family ν := {}

@[simp]
theorem Family.children_empty {ν : Type} : (Family.empty : Family ν).children = [] := rfl

variable {ν : Type} {labels other : List Str} {start : ν} {change : ν → ν}

/-- `labels(...)` makes the child where there is none yet, and `change` is what is then done to it. -/
def updateChildren (start : ν) (change : ν → ν) (labels : List Str)
    : List (List Str × ν) → List (List Str × ν)
  | [] => [(labels, change start)]
  | child :: children =>
    if child.1 = labels then
      (labels, change child.2) :: children
    else
      child :: updateChildren start change labels children

theorem mem_updateChildren {children : List (List Str × ν)}
    : other ∈ (updateChildren start change labels children).map Prod.fst
        ↔
      other ∈ children.map Prod.fst ∨ other = labels := by
  induction children with
  | nil => simp [updateChildren]
  | cons child children ih =>
    unfold updateChildren
    split
    . next heq =>
      simp only [List.map_cons, List.mem_cons, heq]
      tauto
    . rw [List.map_cons, List.mem_cons, ih, List.map_cons, List.mem_cons, or_assoc]

theorem nodup_updateChildren {children : List (List Str × ν)}
    (h : (children.map Prod.fst).Nodup)
    : ((updateChildren start change labels children).map Prod.fst).Nodup := by
  induction children with
  | nil => simp [updateChildren]
  | cons child children ih =>
    rw [List.map_cons, List.nodup_cons] at h
    unfold updateChildren
    split
    . next heq =>
      rw [heq] at h
      rw [List.map_cons, List.nodup_cons]
      exact h
    . next hne =>
      rw [List.map_cons, List.nodup_cons, mem_updateChildren, not_or]
      exact ⟨⟨h.1, hne⟩, ih h.2⟩

namespace Family

def update (start : ν) (change : ν → ν) (labels : List Str) (family : Family ν) : Family ν where
  children := updateChildren start change labels family.children
  nodup := nodup_updateChildren family.nodup

def series (family : Family ν) : List (List Str) :=
  family.children.map Prod.fst

/-- The value under these labels, where a child that was never made counts as one that just was. -/
def value (start : ν) (labels : List Str) (family : Family ν) : ν :=
  (family.children.lookup labels).getD start

theorem value_update (family : Family ν)
    : (family.update start change labels).value start other
        =
      if other = labels then change (family.value start other) else family.value start other := by
  unfold value update
  dsimp only
  generalize family.children = children
  induction children with
  | nil =>
    rw [updateChildren, List.lookup_cons, List.lookup_nil]
    by_cases h : other = labels
    . simp [h]
    . simp [h, beq_false_of_ne h]
  | cons child children ih =>
    unfold updateChildren
    split
    . next heq =>
      rw [List.lookup_cons, List.lookup_cons, heq]
      by_cases h : other = labels
      . simp [h]
      . simp [h, beq_false_of_ne h]
    . next hne =>
      rw [List.lookup_cons, List.lookup_cons]
      by_cases hother : other = child.1
      . simp [hother, hne]
      . rw [beq_false_of_ne hother]
        exact ih

@[simp]
theorem mem_series_update {family : Family ν}
    : other ∈ (family.update start change labels).series ↔ other ∈ family.series ∨ other = labels :=
  mem_updateChildren

end Family

/-- `counter.labels(...).inc()` -/
def inc (labels : List Str) (counter : Family Nat) : Family Nat :=
  counter.update 0 (· + 1) labels

/-- `gauge.labels(...).inc()` and `gauge.labels(...).dec()` -/
def add (n : Int) (labels : List Str) (gauge : Family Int) : Family Int :=
  gauge.update 0 (· + n) labels

/-- `histogram.labels(...).observe(value)` -/
def observe (value : Rat) (labels : List Str) (histogram : Family (List Rat)) : Family (List Rat) :=
  histogram.update [] (· ++ [value]) labels

theorem value_inc (counter : Family Nat)
    : (inc labels counter).value 0 other = counter.value 0 other + [labels].count other := by
  rw [inc, Family.value_update, List.count_singleton]
  by_cases h : other = labels
  . simp [h]
  . simp [h, Ne.symm h]

theorem value_add (n : Int) (gauge : Family Int)
    : (add n labels gauge).value 0 other = gauge.value 0 other + n * [labels].count other := by
  rw [add, Family.value_update, List.count_singleton]
  by_cases h : other = labels
  . simp [h]
  . simp [h, Ne.symm h]

theorem length_value_observe (value : Rat) (histogram : Family (List Rat))
    : ((observe value labels histogram).value [] other).length
        =
      (histogram.value [] other).length + [labels].count other := by
  rw [observe, Family.value_update, List.count_singleton]
  by_cases h : other = labels
  . simp [h]
  . simp [h, Ne.symm h]

end Prometheus
