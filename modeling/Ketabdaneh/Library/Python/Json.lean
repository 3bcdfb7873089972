import Ketabdaneh.Library.Python.Value
import Ketabdaneh.Library.Text.Decimal
import Mathlib.Data.List.Nodup

/-!
This module contains the values that `json.dumps` and `json.loads` map Python values to and from.
A JSON text stands for the document it is the text of.
-/

namespace Python

open Text

inductive Json where
  | null
  | bool (b : Bool)
  | int (n : Int)
  | float (x : PyFloat)
  | str (s : Str)
  | arr (items : List Json)
  | obj (members : List (Str × Json))

inductive EncodeError where
  | typeError (message : Str)
  | valueError
  | unicodeEncodeError

namespace Json

mutual

def encodable : Json → Bool
  | .str s => Text.encodable s
  | .arr items => encodableList items
  | .obj members => encodableMembers members
  | _ => true

def encodableList : List Json → Bool
  | [] => true
  | x :: xs => encodable x && encodableList xs

def encodableMembers : List (Str × Json) → Bool
  | [] => true
  | (k, x) :: xs => Text.encodable k && encodable x && encodableMembers xs

end

mutual

/-- Whether `json.dumps(…, allow_nan=False)` takes the document. -/
def compliant : Json → Bool
  | .float (.finite _) => true
  | .float _ => false
  | .arr items => compliantList items
  | .obj members => compliantMembers members
  | _ => true

def compliantList : List Json → Bool
  | [] => true
  | x :: xs => compliant x && compliantList xs

def compliantMembers : List (Str × Json) → Bool
  | [] => true
  | (_, x) :: xs => compliant x && compliantMembers xs

end

def setItem (items : List (Str × Value)) (key : Str) (value : Value) : List (Str × Value) :=
  if items.any fun item => item.1 = key then
    items.map fun item => if item.1 = key then (key, value) else item
  else
    items ++ [(key, value)]

def item (pair : Str × Value) : Value × Value :=
  (.str pair.1, pair.2)

def dictOf (pairs : List (Str × Value)) : List (Value × Value) :=
  (pairs.foldl (fun items pair => setItem items pair.1 pair.2) []).map item

mutual

/-- `json.loads`, where the last of the members with one name counts. -/
def loads : Json → Value
  | .null => .None
  | .bool b => .bool b
  | .int n => .int n
  | .float x => .float x
  | .str s => .str s
  | .arr items => .list (loadsList items)
  | .obj members => .dict (dictOf (loadsMembers members))

def loadsList : List Json → List Value
  | [] => []
  | x :: xs => loads x :: loadsList xs

def loadsMembers : List (Str × Json) → List (Str × Value)
  | [] => []
  | (k, x) :: xs => (k, loads x) :: loadsMembers xs

end

/-- The most digits an integer is converted to a text, or from one, with. -/
def maxStrDigits : Nat :=
  4300

def intDigits (n : Int) : Except EncodeError Int :=
  if (decimal n.natAbs).length ≤ maxStrDigits then .ok n else .error .valueError

def intText (n : Int) : Str :=
  if n < 0 then cp '-' :: decimal n.natAbs else decimal n.natAbs

section

-- how a float is written, and the `default` hook
variable (floatText : PyFloat → Str) (default : Value → Except EncodeError Str)

def keyText : Value → Except EncodeError Str
  | .str s => .ok s
  | .bool true => .ok (ofString "true")
  | .bool false => .ok (ofString "false")
  | .None => .ok (ofString "null")
  | .int n => (intDigits n).map intText
  | .float x => .ok (floatText x)
  | v =>
    .error (.typeError
      (ofString "keys must be str, int, float, bool or None, not " ++ v.typeName))

mutual

def dumps : Value → Except EncodeError Json
  | .None => .ok .null
  | .bool b => .ok (.bool b)
  | .int n => (intDigits n).map .int
  | .float x => .ok (.float x)
  | .str s => .ok (.str s)
  | .list items => (dumpsList items).map .arr
  | .tuple items => (dumpsList items).map .arr
  | .dict items => (dumpsItems items).map .obj
  | .exception id typeName message => (default (.exception id typeName message)).map .str
  | .object id typeName => (default (.object id typeName)).map .str

def dumpsList : List Value → Except EncodeError (List Json)
  | [] => .ok []
  | x :: xs => do
    let doc ← dumps x
    let docs ← dumpsList xs
    return doc :: docs

def dumpsItems : List (Value × Value) → Except EncodeError (List (Str × Json))
  | [] => .ok []
  | (k, x) :: xs => do
    let name ← keyText floatText k
    let doc ← dumps x
    let members ← dumpsItems xs
    return (name, doc) :: members

end

end

@[simp]
theorem keyText_str (floatText : PyFloat → Str) (s : Str) : keyText floatText (.str s) = .ok s := rfl

section

variable (floatText : PyFloat → Str) (default : Value → Except EncodeError Str)

@[simp]
theorem dumps_str (s : Str) : dumps floatText default (.str s) = .ok (.str s) := rfl

@[simp]
theorem dumpsItems_nil : dumpsItems floatText default [] = .ok [] := rfl

end

mutual

def native : Value → Bool
  | .None => true
  | .bool _ => true
  | .int _ => true
  | .float x => x ≠ .nan
  | .str _ => true
  | .list items => nativeList items
  | .dict items => nativeItems items
  | _ => false

def nativeList : List Value → Bool
  | [] => true
  | x :: xs => native x && nativeList xs

def nativeItems : List (Value × Value) → Bool
  | [] => true
  | (k, x) :: xs => k.isStr && native x && nativeItems xs

end

theorem setItem_of_forall_ne {items : List (Str × Value)} {key : Str} (value : Value)
    (h : ∀ item ∈ items, item.1 ≠ key) : setItem items key value = items ++ [(key, value)] := by
  unfold setItem
  rw [if_neg]
  simp only [List.any_eq_true, decide_eq_true_eq, not_exists, not_and]
  exact h

theorem find?_setItem (items : List (Str × Value)) (key : Str) (value : Value)
    : (setItem items key value).find? (fun item => item.1 = key) = some (key, value) := by
  unfold setItem
  split
  . next h =>
    rw [List.any_eq_true] at h
    rcases h with ⟨item, hitem, hkey⟩
    induction items with
    | nil => simp at hitem
    | cons first items ih =>
      rw [List.map_cons, List.find?_cons]
      by_cases hfirst : first.1 = key
      . simp [hfirst]
      . rw [List.mem_cons] at hitem
        have hne : item ≠ first := by
          intro heq
          rw [heq] at hkey
          exact hfirst (of_decide_eq_true hkey)
        simp only [if_neg hfirst, decide_eq_false hfirst]
        exact ih (hitem.resolve_left hne)
  . next h =>
    rw [Bool.not_eq_true, List.any_eq_false] at h
    rw [List.find?_append, List.find?_eq_none.mpr h]
    simp

theorem foldl_setItem {pairs : List (Str × Value)} (hnodup : (pairs.map Prod.fst).Nodup)
    (items : List (Str × Value)) (h : ∀ item ∈ items, item.1 ∉ pairs.map Prod.fst)
    : pairs.foldl (fun items pair => setItem items pair.1 pair.2) items = items ++ pairs := by
  induction pairs generalizing items with
  | nil => simp
  | cons pair pairs ih =>
    rw [List.map_cons, List.nodup_cons] at hnodup
    rw [List.foldl_cons, setItem_of_forall_ne]
    . rw [ih hnodup.2]
      . simp
      . intro x hx
        rw [List.mem_append, List.mem_singleton] at hx
        cases hx with
        | inl hx =>
          have := h x hx
          rw [List.map_cons, List.mem_cons, not_or] at this
          exact this.2
        | inr hx =>
          rw [hx]
          exact hnodup.1
    . intro x hx heq
      apply h x hx
      rw [heq, List.map_cons]
      apply List.mem_cons_self

theorem dictOf_of_nodup {pairs : List (Str × Value)} (h : (pairs.map Prod.fst).Nodup)
    : dictOf pairs = pairs.map item := by
  unfold dictOf
  rw [foldl_setItem h]
  . simp
  . intro x hx
    simp at hx

theorem nodup_setItem {items : List (Str × Value)} (h : (items.map Prod.fst).Nodup) (key : Str)
    (value : Value) : ((setItem items key value).map Prod.fst).Nodup := by
  unfold setItem
  split
  . have hnames : (items.map fun item => if item.1 = key then (key, value) else item).map Prod.fst
        = items.map Prod.fst := by
      rw [List.map_map]
      apply List.map_congr_left
      intro item _
      rw [Function.comp_apply]
      split
      . next heq => exact heq.symm
      . rfl
    rwa [hnames]
  . next hany =>
    rw [List.map_append, List.map_singleton, ← List.concat_eq_append]
    refine List.Nodup.concat ?_ h
    intro hmem
    rw [List.mem_map] at hmem
    rcases hmem with ⟨item, hitem, heq⟩
    exact hany (List.any_eq_true.mpr ⟨item, hitem, decide_eq_true heq⟩)

/-- The keys of a dict that is read of JSON are strings, each of them once. -/
theorem exists_pairs_of_loads {doc : Json} {items : Items} (h : loads doc = .dict items)
    : ∃ pairs : List (Str × Value), items = pairs.map item ∧ (pairs.map Prod.fst).Nodup := by
  cases doc with
  | obj members =>
    rw [loads] at h
    injection h with h
    refine ⟨_, h.symm, ?_⟩
    apply List.foldlRecOn (motive := fun items : List (Str × Value) => (items.map Prod.fst).Nodup)
    . simp
    . intro items hitems pair _
      exact nodup_setItem hitems pair.1 pair.2
  | _ => simp [loads] at h

theorem find?_item {pairs : List (Str × Value)} (hnodup : (pairs.map Prod.fst).Nodup)
    {pair : Str × Value} (h : pair ∈ pairs)
    : (pairs.map item).find? (fun y => Value.eq (.str pair.1) y.1) = some (item pair) := by
  induction pairs with
  | nil => simp at h
  | cons p pairs ih =>
    rw [List.map_cons, List.nodup_cons] at hnodup
    rw [List.map_cons, List.find?_cons]
    by_cases heq : p.1 = pair.1
    . have hp : pair = p := by
        rw [List.mem_cons] at h
        cases h with
        | inl h => exact h
        | inr h =>
          have hmem := List.mem_map_of_mem (f := Prod.fst) h
          rw [← heq] at hmem
          exact absurd hmem hnodup.1
      rw [hp, show Value.eq (.str p.1) (item p).1 = true from Value.str_eq_iff.mpr rfl]
    . have hne : Value.eq (.str pair.1) (item p).1 = false := by
        rw [Bool.eq_false_iff, ne_eq, Value.str_eq_iff]
        intro h
        injection h
        contradiction
      rw [hne]
      apply ih hnodup.2
      rw [List.mem_cons] at h
      cases h with
      | inl h =>
        rw [h] at heq
        contradiction
      | inr h => exact h

theorem get?_map_item {pairs : List (Str × Value)} (hnodup : (pairs.map Prod.fst).Nodup) {key : Str}
    {value : Value} : Value.get? (pairs.map item) key = some value ↔ (key, value) ∈ pairs := by
  constructor
  . intro h
    rw [Value.get?, Option.map_eq_some_iff] at h
    rcases h with ⟨found, hfound, rfl⟩
    have hkey := List.find?_some hfound
    have hmem := List.mem_of_find?_eq_some hfound
    rw [List.mem_map] at hmem
    rcases hmem with ⟨pair, hpair, rfl⟩
    rw [Value.str_eq_iff] at hkey
    injection hkey with hkey
    rwa [← hkey]
  . intro h
    rw [Value.get?, find?_item hnodup h]
    rfl

theorem nodup_of_wellFormedItems {pairs : List (Str × Value)}
    (h : Value.wellFormedItems (pairs.map item) = true) : (pairs.map Prod.fst).Nodup := by
  induction pairs with
  | nil => simp
  | cons pair pairs ih =>
    simp only [List.map_cons, item, Value.wellFormedItems, Bool.and_eq_true] at h
    rw [List.map_cons, List.nodup_cons]
    refine ⟨?_, ih h.2⟩
    intro hmem
    rw [List.mem_map] at hmem
    rcases hmem with ⟨x, hx, heq⟩
    have hall := List.all_eq_true.mp h.1.1.1.2 (item x) (List.mem_map_of_mem hx)
    have hsame : Value.eq (.str pair.1) (item x).1 = true := by
      rw [Value.str_eq_iff, ← heq]
      rfl
    simp [hsame] at hall

end Json

end Python
