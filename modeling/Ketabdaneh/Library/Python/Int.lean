import Ketabdaneh.Library.Python.Uuid

/-!
This module contains how Python reads a decimal integer from a text.
-/

namespace Python

open Text

/-- What `sys.set_int_max_str_digits` is set to at the start. -/
def INT_MAX_STR_DIGITS : Nat :=
  4300

def readIntDigits (acc : Nat) (afterDigit : Bool) : Str → Option Nat
  | [] => if afterDigit then some acc else none
  | c :: s =>
    if c = cp '_' then
      if afterDigit then readIntDigits acc false s else none
    else do
      let d ← unicodeDigit c
      readIntDigits (10 * acc + d) true s

def readInt (s : Str) : Option Nat :=
  if INT_MAX_STR_DIGITS < (s.filter (· ≠ cp '_')).length then none else readIntDigits 0 false s

/-- `int(s)`; `none` is a `ValueError`. -/
def int (s : Str) : Option Int :=
  match trimBy isNumeralSpace s with
  | [] => none
  | c :: rest =>
    if c = cp '-' then (readInt rest).map fun n => -n
    else if c = cp '+' then (readInt rest).map fun n => n
    else (readInt (c :: rest)).map fun n => n

example : int (ofString " -1_000 ") = some (-1000) := by decide

end Python
