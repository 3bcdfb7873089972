import Mathlib.Data.List.Nodup
import Mathlib.Data.List.Infix

/-!
This module contains tables of rows under a unique key, which rows are only ever added to.
-/

structure Table (Row : Type*) {Key : Type*} (key : Row → Key) where
  rows : List Row := []
  nodup : (rows.map key).Nodup := by simp

namespace Table

variable {Row Key : Type*} [DecidableEq Key] {key : Row → Key}

def empty : Table Row key := {}

def get? (table : Table Row key) (k : Key) : Option Row :=
  table.rows.find? fun row => key row = k

def insert? (table : Table Row key) (row : Row) : Option (Table Row key) :=
  if h : key row ∈ table.rows.map key then
    none
  else
    some {
      rows := table.rows ++ [row]
      nodup := by
        rw [List.map_append, List.map_singleton, ← List.concat_eq_append]
        exact List.Nodup.concat h table.nodup
    }

def insertAll? (table : Table Row key) : List Row → Option (Table Row key)
  | [] => some table
  | row :: rows => (table.insert? row).bind fun table => insertAll? table rows

/-- The rows whose keys are new, each once. -/
def insertMissing (table : Table Row key) : List Row → Table Row key
  | [] => table
  | row :: rows => ((table.insert? row).getD table).insertMissing rows

/-- Every row changed, none in its key. -/
def map (table : Table Row key) (f : Row → Row) (hf : ∀ row, key (f row) = key row)
    : Table Row key where
  rows := table.rows.map f
  nodup := by
    rw [List.map_map, show key ∘ f = key from funext hf]
    exact table.nodup

omit [DecidableEq Key] in
@[simp]
theorem rows_empty : (empty : Table Row key).rows = [] := rfl

omit [DecidableEq Key] in
theorem ext {s t : Table Row key} (h : s.rows = t.rows) : s = t := by
  cases s
  cases t
  congr

theorem find?_eq_some {rows : List Row} {f : Row → Key} (hnodup : (rows.map f).Nodup) {k : Key}
    {row : Row}
    : rows.find? (fun row => f row = k) = some row ↔ row ∈ rows ∧ f row = k := by
  constructor
  . intro h
    have hkey := List.find?_some h
    rw [decide_eq_true_eq] at hkey
    exact ⟨List.mem_of_find?_eq_some h, hkey⟩
  . rintro ⟨hmem, hkey⟩
    cases hfind : rows.find? (fun row => f row = k) with
    | none =>
      rw [List.find?_eq_none] at hfind
      have := hfind row hmem
      simp [hkey] at this
    | some found =>
      have hfound := List.find?_some hfind
      rw [decide_eq_true_eq] at hfound
      rw [List.inj_on_of_nodup_map hnodup (List.mem_of_find?_eq_some hfind) hmem]
      rw [hfound, hkey]

theorem countP_eq_one {rows : List Row} {f : Row → Key} (hnodup : (rows.map f).Nodup) {k : Key}
    (h : k ∈ rows.map f)
    : rows.countP (fun row => f row = k) = 1 := by
  have hcount := List.count_eq_one_of_mem hnodup h
  rw [List.count_eq_countP, List.countP_map] at hcount
  rw [← hcount]
  apply List.countP_congr
  simp

theorem get?_eq_some {table : Table Row key} {k : Key} {row : Row}
    : table.get? k = some row ↔ row ∈ table.rows ∧ key row = k := by
  apply find?_eq_some
  exact table.nodup

theorem insert?_eq_some {table table' : Table Row key} {row : Row}
    : table.insert? row = some table' ↔ table'.rows = table.rows ++ [row] := by
  unfold insert?
  split
  . next h =>
    simp only [reduceCtorEq, false_iff]
    intro hrows
    have hnodup := table'.nodup
    rw [hrows, List.map_append, List.map_singleton, ← List.concat_eq_append,
      List.nodup_concat] at hnodup
    exact hnodup.1 h
  . next h =>
    rw [Option.some.injEq]
    constructor
    . intro heq
      rw [← heq]
    . intro hrows
      apply ext
      exact hrows.symm

theorem isSome_insert? {table : Table Row key} {row : Row}
    : (table.insert? row).isSome = true ↔ key row ∉ table.rows.map key := by
  unfold insert?
  split
  . next h => simp [h]
  . next h => simp [h]

theorem insertAll?_eq_some {table table' : Table Row key} {rows : List Row}
    : table.insertAll? rows = some table' ↔ table'.rows = table.rows ++ rows := by
  induction rows generalizing table with
  | nil =>
    rw [insertAll?, Option.some.injEq, List.append_nil]
    constructor
    . intro h
      rw [h]
    . intro h
      exact ext h.symm
  | cons row rows ih =>
    rw [insertAll?, Option.bind_eq_some_iff]
    constructor
    . rintro ⟨between, hinsert, hrest⟩
      rw [ih, insert?_eq_some.mp hinsert, List.append_assoc] at hrest
      exact hrest
    . intro hrows
      have hfresh : key row ∉ table.rows.map key := by
        have hnodup := table'.nodup
        rw [hrows, List.map_append, List.map_cons] at hnodup
        intro hmem
        exact (List.disjoint_of_nodup_append hnodup) hmem List.mem_cons_self
      rcases Option.isSome_iff_exists.mp (isSome_insert?.mpr hfresh) with ⟨between, hinsert⟩
      refine ⟨between, hinsert, ?_⟩
      rw [ih, insert?_eq_some.mp hinsert, hrows, List.append_assoc]
      rfl

theorem insertMissing_rows {table : Table Row key} {rows : List Row} (h : (rows.map key).Nodup)
    : (table.insertMissing rows).rows
        =
      table.rows ++ rows.filter fun row => key row ∉ table.rows.map key := by
  induction rows generalizing table with
  | nil => simp [insertMissing]
  | cons row rows ih =>
    rw [List.map_cons, List.nodup_cons] at h
    rw [insertMissing, ih h.2]
    by_cases hmem : key row ∈ table.rows.map key
    . have hnone : table.insert? row = none := by
        rw [← Option.not_isSome_iff_eq_none, isSome_insert?, not_not]
        exact hmem
      rw [hnone, Option.getD_none, List.filter_cons_of_neg (by simpa using hmem)]
    . rcases Option.isSome_iff_exists.mp (isSome_insert?.mpr hmem) with ⟨next, hnext⟩
      rw [hnext, Option.getD_some, insert?_eq_some.mp hnext, List.append_assoc,
        List.filter_cons_of_pos (by simpa using hmem), List.singleton_append]
      congr 2
      apply List.filter_congr
      intro other hother
      have hne : key other ≠ key row := by
        intro heq
        rw [← heq] at h
        exact h.1 (List.mem_map_of_mem hother)
      rw [List.map_append, List.map_singleton]
      simp [hne]

theorem mem_insertMissing {table : Table Row key} {rows : List Row} (h : (rows.map key).Nodup)
    {row : Row}
    : row ∈ (table.insertMissing rows).rows
        ↔
      row ∈ table.rows ∨ row ∈ rows ∧ key row ∉ table.rows.map key := by
  rw [insertMissing_rows h, List.mem_append, List.mem_filter, decide_eq_true_iff]

theorem insertMissing_of_subset {table : Table Row key} {rows : List Row}
    (hnodup : (rows.map key).Nodup) (h : rows ⊆ table.rows) : table.insertMissing rows = table := by
  apply ext
  rw [insertMissing_rows hnodup, List.append_right_eq_self, List.filter_eq_nil_iff]
  intro row hrow
  rw [decide_eq_true_iff, not_not]
  exact List.mem_map_of_mem (h hrow)

end Table
