import Mathlib.Data.List.Nodup
import Mathlib.Tactic.Common

/-!
This module contains tables of reference data, whose rows have a key, a code and a name of their own:
rows are inserted where their code is new, and deleted by their key.
-/

structure ReferenceTable (Row : Type*) {Key Code Name : Type*} (key : Row → Key) (code : Row → Code)
    (name : Row → Name) where
  rows : List Row := []
  pk : (rows.map key).Nodup := by simp
  uq_code : (rows.map code).Nodup := by simp
  uq_name : (rows.map name).Nodup := by simp

namespace ReferenceTable

variable {Row Key Code Name : Type*} {key : Row → Key} {code : Row → Code} {name : Row → Name}

theorem ext {s t : ReferenceTable Row key code name} (h : s.rows = t.rows) : s = t := by
  cases s
  cases t
  congr

theorem nodup_map_append {β : Type*} {f : Row → β} {rows new : List Row}
    (hrows : (rows.map f).Nodup) (hnew : (new.map f).Nodup)
    (hdisjoint : ∀ row ∈ new, f row ∉ rows.map f) : ((rows ++ new).map f).Nodup := by
  rw [List.map_append, List.nodup_append']
  refine ⟨hrows, hnew, ?_⟩
  intro b hb hmem
  rw [List.mem_map] at hmem
  obtain ⟨row, hrow, heq⟩ := hmem
  rw [← heq] at hb
  exact hdisjoint row hrow hb

/-- A row violates a constraint other than that of the code. -/
def Clashes (table : ReferenceTable Row key code name) (row : Row) : Prop :=
  key row ∈ table.rows.map key ∨ name row ∈ table.rows.map name

theorem clashes_iff_of_append {table next : ReferenceTable Row key code name} {row other : Row}
    (hnext : next.rows = table.rows ++ [row]) (hkey : key other ≠ key row)
    (hname : name other ≠ name row) : next.Clashes other ↔ table.Clashes other := by
  unfold Clashes
  rw [hnext, List.map_append, List.map_append, List.map_singleton, List.map_singleton]
  simp [hkey, hname]

section

variable [DecidableEq Code] {table next : ReferenceTable Row key code name} {rows : List Row}

/-- The rows whose codes are not in the table. -/
def missing (table : ReferenceTable Row key code name) (rows : List Row) : List Row :=
  rows.filter fun row => code row ∉ table.rows.map code

theorem missing_cons_of_mem {row : Row} (h : code row ∈ table.rows.map code)
    : table.missing (row :: rows) = table.missing rows := by
  unfold missing
  rw [List.filter_cons_of_neg (by simpa using h)]

theorem missing_cons_of_not_mem {row : Row} (h : code row ∉ table.rows.map code)
    : table.missing (row :: rows) = row :: table.missing rows := by
  unfold missing
  rw [List.filter_cons_of_pos (by simpa using h)]

theorem missing_of_append {row : Row} (hnext : next.rows = table.rows ++ [row])
    (hcode : code row ∉ rows.map code) : next.missing rows = table.missing rows := by
  unfold missing
  apply List.filter_congr
  intro other hother
  have hne : code other ≠ code row := by
    intro heq
    rw [← heq] at hcode
    exact hcode (List.mem_map_of_mem hother)
  rw [hnext, List.map_append, List.map_singleton]
  simp [hne]

/-- Once the missing rows are there none is missing. -/
theorem missing_of_append_missing (hnext : next.rows = table.rows ++ table.missing rows)
    : next.missing rows = [] := by
  unfold missing at hnext ⊢
  rw [List.filter_eq_nil_iff]
  intro row hrow
  rw [decide_eq_true_iff, not_not, hnext, List.map_append, List.mem_append]
  by_cases hmem : code row ∈ table.rows.map code
  . exact .inl hmem
  . right
    apply List.mem_map_of_mem
    rw [List.mem_filter, decide_eq_true_iff]
    exact ⟨hrow, hmem⟩

theorem mem_of_append_missing (hnext : next.rows = table.rows ++ table.missing rows) {row : Row}
    : row ∈ next.rows ↔ row ∈ table.rows ∨ row ∈ rows ∧ code row ∉ table.rows.map code := by
  rw [hnext, List.mem_append]
  unfold missing
  rw [List.mem_filter, decide_eq_true_iff]

/-- The keys of the rows, once the missing ones are there. -/
theorem key_mem_of_append_missing (hkey : (rows.map key).Nodup)
    (hnext : next.rows = table.rows ++ table.missing rows) {row : Row} (hrow : row ∈ rows)
    : key row ∈ next.rows.map key
        ↔
      key row ∈ table.rows.map key ∨ code row ∉ table.rows.map code := by
  rw [hnext, List.map_append, List.mem_append]
  apply or_congr_right
  unfold missing
  constructor
  . intro h
    rw [List.mem_map] at h
    obtain ⟨other, hother, heq⟩ := h
    rw [List.mem_filter, decide_eq_true_iff] at hother
    rw [← List.inj_on_of_nodup_map hkey hother.1 hrow heq]
    exact hother.2
  . intro h
    apply List.mem_map_of_mem
    rw [List.mem_filter, decide_eq_true_iff]
    exact ⟨hrow, h⟩

end

section

variable [DecidableEq Key] {table table' : ReferenceTable Row key code name}

def delete (table : ReferenceTable Row key code name) (keys : List Key)
    : ReferenceTable Row key code name where
  rows := table.rows.filter fun row => key row ∉ keys
  pk := table.pk.sublist (List.filter_sublist.map key)
  uq_code := table.uq_code.sublist (List.filter_sublist.map code)
  uq_name := table.uq_name.sublist (List.filter_sublist.map name)

/-- Where only the rows that were added have the keys, deleting them undoes the addition. -/
theorem delete_of_append {keys : List Key} {new : List Row}
    (hrows : table'.rows = table.rows ++ new) (hkeys : ∀ row ∈ table.rows, key row ∉ keys)
    (hnew : ∀ row ∈ new, key row ∈ keys) : table'.delete keys = table := by
  apply ext
  unfold delete
  dsimp only
  rw [hrows, List.filter_append, List.filter_eq_self.mpr, List.filter_eq_nil_iff.mpr, List.append_nil]
  . intro row hrow
    simpa using hnew row hrow
  . intro row hrow
    simpa using hkeys row hrow

end

variable [DecidableEq Key] [DecidableEq Code] [DecidableEq Name]

instance (table : ReferenceTable Row key code name) : DecidablePred table.Clashes :=
  fun row => inferInstanceAs (Decidable (key row ∈ table.rows.map key ∨ name row ∈ table.rows.map name))

/-- A row of `INSERT … ON CONFLICT (code) DO NOTHING`; it fails where the row clashes. -/
def insert? (table : ReferenceTable Row key code name) (row : Row)
    : Option (ReferenceTable Row key code name) :=
  if hcode : code row ∈ table.rows.map code then
    some table
  else if hclashes : table.Clashes row then
    none
  else
    some {
      rows := table.rows ++ [row]
      pk := nodup_map_append table.pk (List.nodup_singleton _) (by simpa using hclashes ∘ .inl)
      uq_code := nodup_map_append table.uq_code (List.nodup_singleton _) (by simpa using hcode)
      uq_name := nodup_map_append table.uq_name (List.nodup_singleton _) (by simpa using hclashes ∘ .inr)
    }

def insertAll? (table : ReferenceTable Row key code name)
    : List Row → Option (ReferenceTable Row key code name)
  | [] => some table
  | row :: rows => (table.insert? row).bind fun table => insertAll? table rows

variable {table table' : ReferenceTable Row key code name} {rows : List Row}

theorem insert?_of_mem {row : Row} (h : code row ∈ table.rows.map code)
    : table.insert? row = some table := by
  unfold insert?
  rw [dif_pos h]

theorem insert?_eq_some {row : Row} (hcode : code row ∉ table.rows.map code)
    : table.insert? row = some table' ↔ ¬table.Clashes row ∧ table'.rows = table.rows ++ [row] := by
  unfold insert?
  rw [dif_neg hcode]
  split
  . next h => simp [h]
  . next h =>
    rw [Option.some.injEq]
    constructor
    . intro heq
      rw [← heq]
      exact ⟨h, rfl⟩
    . intro hrows
      exact ext hrows.2.symm

theorem exists_insert? {row : Row} (hcode : code row ∉ table.rows.map code)
    (hclashes : ¬table.Clashes row) : ∃ next, table.insert? row = some next := by
  unfold insert?
  rw [dif_neg hcode, dif_neg hclashes]
  exact ⟨_, rfl⟩

section

variable (hkey : (rows.map key).Nodup) (hcode : (rows.map code).Nodup) (hname : (rows.map name).Nodup)

include hkey hcode hname

/-- Rows of different keys, codes and names do not come into each other's way. -/
theorem insertAll?_eq_some
    : table.insertAll? rows = some table'
        ↔
      (∀ row ∈ table.missing rows, ¬table.Clashes row)
        ∧ table'.rows = table.rows ++ table.missing rows := by
  induction rows generalizing table with
  | nil =>
    rw [insertAll?, Option.some.injEq]
    simp only [missing, List.filter_nil, List.not_mem_nil, false_implies, implies_true, true_and,
      List.append_nil]
    constructor
    . intro h
      rw [h]
    . intro h
      exact ext h.symm
  | cons row rows ih =>
    rw [List.map_cons, List.nodup_cons] at hkey hcode hname
    rw [insertAll?]
    -- after a row that is inserted the others fare as they do without it
    by_cases hmem : code row ∈ table.rows.map code
    . rw [insert?_of_mem hmem, Option.bind_some, ih hkey.2 hcode.2 hname.2, missing_cons_of_mem hmem]
    . have hrest (next : ReferenceTable Row key code name)
          (hnext : next.rows = table.rows ++ [row])
          : next.insertAll? rows = some table'
              ↔
            (∀ other ∈ table.missing rows, ¬table.Clashes other)
              ∧ table'.rows = table.rows ++ row :: table.missing rows := by
        rw [ih hkey.2 hcode.2 hname.2, missing_of_append hnext hcode.1, hnext, List.append_assoc,
          List.singleton_append]
        apply and_congr_left'
        apply forall₂_congr
        intro other hother
        have hmem' := List.mem_of_mem_filter hother
        rw [clashes_iff_of_append hnext]
        . intro heq
          rw [← heq] at hkey
          exact hkey.1 (List.mem_map_of_mem hmem')
        . intro heq
          rw [← heq] at hname
          exact hname.1 (List.mem_map_of_mem hmem')
      rw [Option.bind_eq_some_iff, missing_cons_of_not_mem hmem, List.forall_mem_cons]
      constructor
      . intro h
        obtain ⟨next, hinsert, h⟩ := h
        rw [insert?_eq_some hmem] at hinsert
        rw [hrest next hinsert.2] at h
        exact ⟨⟨hinsert.1, h.1⟩, h.2⟩
      . intro h
        obtain ⟨next, hinsert⟩ := exists_insert? hmem h.1.1
        refine ⟨next, hinsert, ?_⟩
        rw [hrest next ((insert?_eq_some hmem).mp hinsert).2]
        exact ⟨h.1.2, h.2⟩

theorem isSome_insertAll?
    : (table.insertAll? rows).isSome = true ↔ ∀ row ∈ table.missing rows, ¬table.Clashes row := by
  rw [Option.isSome_iff_exists]
  simp only [insertAll?_eq_some hkey hcode hname]
  constructor
  . intro h
    obtain ⟨_, h, _⟩ := h
    exact h
  . intro h
    have hsublist : (table.missing rows).Sublist rows := List.filter_sublist
    refine ⟨⟨table.rows ++ table.missing rows, ?_, ?_, ?_⟩, h, rfl⟩
    . apply nodup_map_append table.pk (hkey.sublist (hsublist.map key))
      intro row hrow hmem
      exact h row hrow (.inl hmem)
    . apply nodup_map_append table.uq_code (hcode.sublist (hsublist.map code))
      intro row hrow
      exact of_decide_eq_true (List.mem_filter.mp hrow).2
    . apply nodup_map_append table.uq_name (hname.sublist (hsublist.map name))
      intro row hrow hmem
      exact h row hrow (.inr hmem)

theorem insertAll?_again (h : table.insertAll? rows = some table')
    : table'.insertAll? rows = some table' := by
  rw [insertAll?_eq_some hkey hcode hname] at h ⊢
  rw [missing_of_append_missing h.2, List.append_nil]
  exact ⟨by simp, rfl⟩

theorem delete_of_insertAll? (h : table.insertAll? rows = some table')
    (hkeys : ∀ row ∈ table.rows, key row ∉ rows.map key)
    : table'.delete (rows.map key) = table := by
  rw [insertAll?_eq_some hkey hcode hname] at h
  apply delete_of_append h.2 hkeys
  intro row hrow
  exact List.mem_map_of_mem (List.mem_of_mem_filter hrow)

end

/-- A table as a part of a store, which it can be replaced in where the store's constraints allow. -/
structure Part (Store : Type*) (key : Row → Key) (code : Row → Code) (name : Row → Name) where
  get : Store → ReferenceTable Row key code name
  set : Store → ReferenceTable Row key code name → Option Store
  get_set : ∀ {s s' table}, set s table = some s' → get s' = table
  set_get : ∀ s, set s (get s) = some s
  set_set : ∀ {s s' table} table', set s table = some s' → set s' table' = set s table'
  isSome_set : ∀ {s table}, (∀ row ∈ (get s).rows, row ∈ table.rows) → (set s table).isSome = true

namespace Part

variable {Store : Type*} (part : Part Store key code name)

def insertAll? (rows : List Row) (s : Store) : Option Store :=
  ((part.get s).insertAll? rows).bind (part.set s)

def delete (keys : List Key) (s : Store) : Option Store :=
  part.set s ((part.get s).delete keys)

variable {part} {s s' : Store}

theorem insertAll?_eq_some
    : part.insertAll? rows s = some s'
        ↔
      (part.get s).insertAll? rows = some (part.get s') ∧ part.set s (part.get s') = some s' := by
  unfold insertAll?
  rw [Option.bind_eq_some_iff]
  constructor
  . intro h
    obtain ⟨table, hinsert, hset⟩ := h
    rw [part.get_set hset]
    exact ⟨hinsert, hset⟩
  . intro h
    exact ⟨_, h⟩

omit [DecidableEq Code] [DecidableEq Name] in
theorem delete_of_forall_ne {keys : List Key} (h : ∀ row ∈ (part.get s).rows, key row ∉ keys)
    : part.delete keys s = some s := by
  unfold delete
  rw [delete_of_append (List.append_nil _).symm h (by simp)]
  exact part.set_get s

variable (hkey : (rows.map key).Nodup) (hcode : (rows.map code).Nodup) (hname : (rows.map name).Nodup)

include hkey hcode hname

theorem insertAll?_eq_none
    : part.insertAll? rows s = none ↔ ∃ row ∈ (part.get s).missing rows, (part.get s).Clashes row := by
  have hsome := @isSome_insertAll? _ _ _ _ _ _ _ _ _ _ (part.get s) _ hkey hcode hname
  rw [← not_iff_not]
  push Not
  rw [← hsome, ← Option.isSome_iff_ne_none]
  unfold insertAll?
  cases hinsert : (part.get s).insertAll? rows with
  | none => simp
  | some table =>
    have hrows := ((ReferenceTable.insertAll?_eq_some hkey hcode hname).mp hinsert).2
    have hset : (part.set s table).isSome = true := by
      apply part.isSome_set
      intro row hrow
      rw [hrows]
      exact List.mem_append_left _ hrow
    simp [hset]

theorem rows_of_insertAll? (h : part.insertAll? rows s = some s')
    : (part.get s').rows = (part.get s).rows ++ (part.get s).missing rows := by
  rw [insertAll?_eq_some, ReferenceTable.insertAll?_eq_some hkey hcode hname] at h
  exact h.1.2

theorem insertAll?_again (h : part.insertAll? rows s = some s')
    : part.insertAll? rows s' = some s' := by
  rw [insertAll?_eq_some] at h ⊢
  exact ⟨ReferenceTable.insertAll?_again hkey hcode hname h.1, part.set_get s'⟩

/-- Where no row is missing the store stays as it is. -/
theorem insertAll?_of_forall_mem (h : ∀ row ∈ rows, code row ∈ (part.get s).rows.map code)
    : part.insertAll? rows s = some s := by
  rw [insertAll?_eq_some, ReferenceTable.insertAll?_eq_some hkey hcode hname]
  have hnone : (part.get s).missing rows = [] := by
    unfold missing
    rw [List.filter_eq_nil_iff]
    intro row hrow
    rw [decide_eq_true_iff, not_not]
    exact h row hrow
  rw [hnone, List.append_nil]
  exact ⟨⟨by simp, rfl⟩, part.set_get s⟩

/-- The rows that were inserted are those that are deleted. -/
theorem delete_of_insertAll? (h : part.insertAll? rows s = some s')
    (hkeys : ∀ row ∈ (part.get s).rows, key row ∉ rows.map key)
    : part.delete (rows.map key) s' = some s := by
  rw [insertAll?_eq_some] at h
  unfold delete
  rw [ReferenceTable.delete_of_insertAll? hkey hcode hname h.1 hkeys, part.set_set _ h.2, part.set_get]

end Part

end ReferenceTable
