import Ketabdaneh.Library.Python.Json

/-!
This module contains where `json.loads` raises: at an integer that is too long, at a container that
is nested too deep, and where a text is no JSON.
-/

namespace Python

open Text

inductive Container where
  | array
  | object

def Container.name : Container → Str
  | .array => ofString "array"
  | .object => ofString "object"

inductive LoadsError where
  | valueError
  | recursionError (container : Container)

def LoadsError.recursionMessage (container : Container) : Str :=
  ofString "maximum recursion depth exceeded while decoding a JSON " ++ container.name
    ++ ofString " from a unicode string"

namespace Json

mutual

/-- The first error in a document, where so many containers may be open at once. -/
def fault : Nat → Json → Option LoadsError
  | _, .int n => if (decimal n.natAbs).length ≤ maxStrDigits then none else some .valueError
  | 0, .arr _ => some (.recursionError .array)
  | 0, .obj _ => some (.recursionError .object)
  | frames + 1, .arr items => faultList frames items
  | frames + 1, .obj members => faultMembers frames members
  | _, _ => none

def faultList : Nat → List Json → Option LoadsError
  | _, [] => none
  | frames, x :: xs => (fault frames x).or (faultList frames xs)

def faultMembers : Nat → List (Str × Json) → Option LoadsError
  | _, [] => none
  | frames, (_, x) :: xs => (fault frames x).or (faultMembers frames xs)

end

end Json

/--
A text that is no JSON, by what is read of it: the values that end, and behind them the place where
it goes wrong, which may be inside of a container that has begun.
-/
inductive BrokenJson where
  | stop (before : List Json)
  | arr (before : List Json) (item : BrokenJson)
  | obj (before : List Json) (member : BrokenJson)

def BrokenJson.fault : Nat → BrokenJson → LoadsError
  | frames, .stop before => (Json.faultList frames before).getD .valueError
  | 0, .arr before _ => (Json.faultList 0 before).getD (.recursionError .array)
  | 0, .obj before _ => (Json.faultList 0 before).getD (.recursionError .object)
  | frames + 1, .arr before item => (Json.faultList (frames + 1) before).getD (item.fault frames)
  | frames + 1, .obj before member => (Json.faultList (frames + 1) before).getD (member.fault frames)

inductive JsonText where
  | document (doc : Json)
  | broken (text : BrokenJson)

/-- What `json.loads` raises on a text, if anything. -/
def JsonText.fault (frames : Nat) : JsonText → Option LoadsError
  | .document doc => doc.fault frames
  | .broken text => some (text.fault frames)

/-- The value that a text stands for, whether or not it can be read. -/
def JsonText.value? : JsonText → Option Value
  | .document doc => some (Json.loads doc)
  | .broken _ => none

/-- `json.loads` -/
def JsonText.loads (frames : Nat) (text : JsonText) : Except LoadsError Value :=
  match text.fault frames with
  | some error => .error error
  | none => .ok (text.value?.getD .None)

theorem JsonText.loads_eq_ok {frames : Nat} {text : JsonText} {value : Value}
    : text.loads frames = .ok value ↔ text.fault frames = none ∧ text.value? = some value := by
  unfold loads
  cases text with
  | document doc =>
    rw [fault]
    cases doc.fault frames with
    | none => simp [value?]
    | some error => simp
  | broken text => simp [fault]

/-- What is not written out of the interpreter: `str`, and the containers `json.loads` may open. -/
structure Interpreter where
  str : Value → Str
  frames : Nat

end Python
