import Mathlib.Data.List.Nodup
import Mathlib.Tactic.Common

/-!
This module contains the `Map` of ECMAScript, whose entries stand in the order in which their keys
were first set, and counting with it.
-/

namespace Ecma

structure Map (Key Value : Type) where
  entries : List (Key × Value) := []
  nodup : (entries.map Prod.fst).Nodup := by simp

namespace Map

variable {α Key Value : Type} [DecidableEq Key]

def setEntry (key : Key) (value : Value) : List (Key × Value) → List (Key × Value)
  | [] => [(key, value)]
  | entry :: entries =>
    if entry.1 = key then (key, value) :: entries else entry :: setEntry key value entries

theorem map_fst_setEntry (key : Key) (value : Value) (entries : List (Key × Value))
    : (setEntry key value entries).map Prod.fst
        =
      if key ∈ entries.map Prod.fst then entries.map Prod.fst else entries.map Prod.fst ++ [key] := by
  induction entries with
  | nil => rfl
  | cons entry entries ih =>
    unfold setEntry
    split
    . next h => simp [h]
    . next h =>
      rw [List.map_cons, ih, List.map_cons]
      split
      . next hmem => rw [if_pos (List.mem_cons_of_mem _ hmem)]
      . next hmem => rw [if_neg (List.not_mem_cons_of_ne_of_not_mem (Ne.symm h) hmem), List.cons_append]

theorem nodup_setEntry {key : Key} {value : Value} {entries : List (Key × Value)}
    (h : (entries.map Prod.fst).Nodup) : ((setEntry key value entries).map Prod.fst).Nodup := by
  rw [map_fst_setEntry]
  split
  . exact h
  . next hnew =>
    rw [← List.concat_eq_append]
    exact h.concat hnew

def get (map : Map Key Value) (key : Key) : Option Value :=
  (map.entries.find? fun entry => entry.1 = key).map Prod.snd

def set (map : Map Key Value) (key : Key) (value : Value) : Map Key Value where
  entries := setEntry key value map.entries
  nodup := nodup_setEntry map.nodup

@[simp]
theorem get_set (map : Map Key Value) (key key' : Key) (value : Value)
    : (map.set key value).get key' = if key = key' then some value else map.get key' := by
  unfold get set
  dsimp only
  induction map.entries with
  | nil =>
    by_cases h : key = key'
    . simp [setEntry, h]
    . simp [setEntry, h]
  | cons entry entries ih =>
    unfold setEntry
    by_cases hentry : entry.1 = key
    . rw [if_pos hentry]
      by_cases h : key = key'
      . simp [h]
      . simp [h, hentry]
    . rw [if_neg hentry]
      by_cases h : entry.1 = key'
      . have hne : key ≠ key' := by
          rw [← h]
          exact Ne.symm hentry
        simp [h, hne]
      . rw [List.find?_cons_of_neg (by simpa using h), List.find?_cons_of_neg (by simpa using h), ih]

/-- How often each key was counted: a number is set one higher for each element. -/
def count (f : α → Key) (as : List α) (map : Map Key Nat) : Map Key Nat :=
  as.foldl (fun map a => map.set (f a) ((map.get (f a)).getD 0 + 1)) map

theorem getD_get_count (f : α → Key) (as : List α) (map : Map Key Nat) (key : Key)
    : ((map.count f as).get key).getD 0
        =
      (map.get key).getD 0 + as.countP fun a => f a = key := by
  induction as generalizing map with
  | nil => rfl
  | cons a as ih =>
    unfold count at ih ⊢
    rw [List.foldl_cons, ih, get_set, List.countP_cons]
    split
    . next h =>
      rw [h, Option.getD_some, if_pos (decide_eq_true rfl)]
      omega
    . next h => rw [if_neg (by simpa using h), Nat.add_zero]

end Map

end Ecma
