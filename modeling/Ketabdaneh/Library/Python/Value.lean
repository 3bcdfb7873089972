import Mathlib.Data.Rat.Defs
import Ketabdaneh.Library.Text.Basic

/-!
This module contains Python values of the built-in types, and their equality.
-/

namespace Python

open Text

/-- A float; the two zeros, which are equal, are one value. -/
inductive PyFloat where
  | nan
  | infinity (negative : Bool)
  | finite (value : Rat)
  deriving DecidableEq

def PyFloat.eq : PyFloat → PyFloat → Bool
  | .infinity s, .infinity t => s = t
  | .finite p, .finite q => p = q
  | _, _ => false

/-- Exceptions and other objects are compared by their identity. -/
inductive Value where
  | None
  | bool (b : Bool)
  | int (n : Int)
  | float (x : PyFloat)
  | str (s : Str)
  | list (items : List Value)
  | tuple (items : List Value)
  | dict (items : List (Value × Value))
  | exception (id : Nat) (typeName message : Str)
  | object (id : Nat) (typeName : Str)

namespace Value

def number : Value → Option PyFloat
  | .bool b => some (.finite b.toNat)
  | .int n => some (.finite n)
  | .float x => some x
  | _ => none

def eqNumber (x : PyFloat) (w : Value) : Bool :=
  w.number.any x.eq

mutual

def eq : Value → Value → Bool
  | .None, w =>
    match w with
    | .None => true
    | _ => false
  | .bool b, w => eqNumber (.finite b.toNat) w
  | .int n, w => eqNumber (.finite n) w
  | .float x, w => eqNumber x w
  | .str s, w =>
    match w with
    | .str t => s = t
    | _ => false
  | .list xs, w =>
    match w with
    | .list ys => eqList xs ys
    | _ => false
  | .tuple xs, w =>
    match w with
    | .tuple ys => eqList xs ys
    | _ => false
  | .dict xs, w =>
    match w with
    | .dict ys => xs.length = ys.length && eqItems xs ys
    | _ => false
  | .exception i _ _, w =>
    match w with
    | .exception j _ _ => i = j
    | _ => false
  | .object i _, w =>
    match w with
    | .object j _ => i = j
    | _ => false

def eqList : List Value → List Value → Bool
  | [], ys => ys.isEmpty
  | x :: xs, ys =>
    match ys with
    | [] => false
    | y :: ys => eq x y && eqList xs ys

def eqItems : List (Value × Value) → List (Value × Value) → Bool
  | [], _ => true
  | (k, x) :: xs, ys => (ys.find? fun y => eq k y.1).any (fun y => eq x y.2) && eqItems xs ys

end

mutual

def hashable : Value → Bool
  | .list _ => false
  | .dict _ => false
  | .tuple xs => hashableList xs
  | _ => true

def hashableList : List Value → Bool
  | [] => true
  | x :: xs => hashable x && hashableList xs

end

mutual

def wellFormed : Value → Bool
  | .list xs => wellFormedList xs
  | .tuple xs => wellFormedList xs
  | .dict xs => wellFormedItems xs
  | _ => true

def wellFormedList : List Value → Bool
  | [] => true
  | x :: xs => wellFormed x && wellFormedList xs

def wellFormedItems : List (Value × Value) → Bool
  | [] => true
  | (k, x) :: xs =>
    k.hashable && xs.all (fun y => !eq k y.1) && wellFormed k && wellFormed x && wellFormedItems xs

end

def str? : Value → Option Str
  | .str s => some s
  | _ => none

def isStr : Value → Bool
  | .str _ => true
  | _ => false

theorem isStr_iff {v : Value} : v.isStr = true ↔ ∃ s, v = .str s := by
  cases v with
  | str s => simp [isStr]
  | _ => simp [isStr]

theorem str_eq_iff {s : Str} {v : Value} : eq (.str s) v = true ↔ v = .str s := by
  cases v with
  | str t => simp [eq, eq_comm]
  | _ => simp [eq]

theorem eq_str_iff {s : Str} {v : Value} : eq v (.str s) = true ↔ v = .str s := by
  cases v with
  | str t => simp [eq]
  | _ => simp [eq, eqNumber, number]

def typeName : Value → Str
  | .None => ofString "NoneType"
  | .bool _ => ofString "bool"
  | .int _ => ofString "int"
  | .float _ => ofString "float"
  | .str _ => ofString "str"
  | .list _ => ofString "list"
  | .tuple _ => ofString "tuple"
  | .dict _ => ofString "dict"
  | .exception _ typeName _ => typeName
  | .object _ typeName => typeName

def truthy : Value → Bool
  | .None => false
  | .bool b => b
  | .int n => n ≠ 0
  | .float x => x ≠ .finite 0
  | .str s => !s.isEmpty
  | .list xs => !xs.isEmpty
  | .tuple xs => !xs.isEmpty
  | .dict xs => !xs.isEmpty
  | .exception _ _ _ => true
  | .object _ _ => true

def get? (items : List (Value × Value)) (key : Str) : Option Value :=
  (items.find? fun item => eq (.str key) item.1).map Prod.snd

end Value

abbrev Items :=
  List (Value × Value)

/-- A dict as Python can hold it: hashable and distinct keys, here and in the dicts it contains. -/
structure Dict where
  items : Items
  wellFormed : Value.wellFormedItems items = true

end Python
