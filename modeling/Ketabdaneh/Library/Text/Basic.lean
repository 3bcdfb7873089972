import Mathlib.Algebra.GroupWithZero.Nat
import Mathlib.Data.Fin.Basic
import Mathlib.Data.List.Basic
import Mathlib.Data.List.DropRight
import Mathlib.Tactic.Common

/-!
This module contains the text both languages of a web application work on: sequences of Unicode
code points. Surrogates are code points, so a string that has no UTF-8 encoding is a value too.
-/

abbrev CodePoint := Fin 0x110000

abbrev Str := List CodePoint

instance CodePoint.neZero : NeZero 0x110000 :=
  ⟨by decide⟩

instance CodePoint.lawfulBEq : LawfulBEq CodePoint :=
  inferInstance

instance Str.lawfulBEq : LawfulBEq Str :=
  inferInstance

namespace Text

theorem toNat_lt (c : Char) : c.toNat < 0x110000 := by
  have h : c.toNat = c.val.toNat := rfl
  rcases c.valid with hlow | hhigh
  . omega
  . omega

def cp (c : Char) : CodePoint :=
  ⟨c.toNat, toNat_lt c⟩

def ofString (s : String) : Str :=
  s.toList.map cp

theorem ofString_append (s t : String) : ofString (s ++ t) = ofString s ++ ofString t := by
  rw [ofString, String.toList_append, List.map_append]
  rfl

theorem cp_injective : Function.Injective cp := by
  intro c d h
  have htoNat : (cp c).val = (cp d).val := by rw [h]
  exact Char.ext (UInt32.toNat_inj.mp htoNat)

theorem ofString_inj {s t : String} : ofString s = ofString t ↔ s = t := by
  rw [ofString, ofString, (List.map_injective_iff.mpr cp_injective).eq_iff, String.toList_inj]

def isSurrogate (c : CodePoint) : Bool :=
  decide (0xD800 ≤ c.val) && decide (c.val ≤ 0xDFFF)

def encodable (s : Str) : Bool :=
  s.all fun c => !isSurrogate c

/-- White space as Python's `str.isspace` sees it; this is what `str.strip` removes. -/
def isSpacePy (c : CodePoint) : Bool :=
  let n := c.val
  (decide (9 ≤ n) && decide (n ≤ 13)) || (decide (28 ≤ n) && decide (n ≤ 32)) || n == 0x85
    || n == 0xA0 || n == 0x1680 || (decide (0x2000 ≤ n) && decide (n ≤ 0x200A)) || n == 0x2028
    || n == 0x2029 || n == 0x202F || n == 0x205F || n == 0x3000

/-- White space and line terminators of ECMAScript; this is what `String.prototype.trim` removes. -/
def isSpaceJs (c : CodePoint) : Bool :=
  let n := c.val
  (decide (9 ≤ n) && decide (n ≤ 13)) || n == 32 || n == 0xA0 || n == 0x1680
    || (decide (0x2000 ≤ n) && decide (n ≤ 0x200A)) || n == 0x2028 || n == 0x2029 || n == 0x202F
    || n == 0x205F || n == 0x3000 || n == 0xFEFF

def trimBy (p : CodePoint → Bool) (s : Str) : Str :=
  (s.dropWhile p).rdropWhile p

def strip (s : Str) : Str :=
  trimBy isSpacePy s

def trim (s : Str) : Str :=
  trimBy isSpaceJs s

def asciiLower (s : Str) : Str :=
  s.map fun c => if h : 0x41 ≤ c.val ∧ c.val ≤ 0x5A then ⟨c.val + 0x20, by omega⟩ else c

theorem mem_of_mem_trimBy {p : CodePoint → Bool} {c : CodePoint} {s : Str} (h : c ∈ trimBy p s)
    : c ∈ s := by
  have hright := (List.rdropWhile_prefix p (l := s.dropWhile p)).subset h
  exact (List.dropWhile_suffix p).subset hright

theorem mem_trimBy {p : CodePoint → Bool} {c : CodePoint} {s : Str} (hc : p c = false)
    : c ∈ trimBy p s ↔ c ∈ s := by
  have hleft : ∀ t : Str, c ∈ t → c ∈ t.dropWhile p := by
    intro t ht
    rw [← List.takeWhile_append_dropWhile (p := p) (l := t), List.mem_append] at ht
    rcases ht with ht | ht
    . have hp := List.mem_takeWhile_imp ht
      rw [hc] at hp
      injection hp
    . exact ht
  constructor
  . exact mem_of_mem_trimBy
  . intro h
    rw [trimBy, List.rdropWhile, List.mem_reverse]
    apply hleft
    rw [List.mem_reverse]
    apply hleft
    assumption

theorem trimBy_ne_concat {p : CodePoint → Bool} {s t : Str} {c : CodePoint} (hc : p c = true)
    : trimBy p s ≠ t ++ [c] := by
  intro heq
  have hne : trimBy p s ≠ [] := by
    rw [heq]
    simp
  have hget : (trimBy p s).getLast hne = c := by
    simp only [heq, List.getLast_concat]
  apply List.rdropWhile_last_not p (s.dropWhile p) hne
  show p ((trimBy p s).getLast hne) = true
  rw [hget, hc]

theorem head?_trimBy {p : CodePoint → Bool} {s : Str} {c : CodePoint}
    (h : (trimBy p s).head? = some c) : p c = false := by
  rcases List.rdropWhile_prefix p (l := s.dropWhile p) with ⟨rest, hrest⟩
  have hleft : (s.dropWhile p).head? = some c := by
    rw [← hrest, List.head?_append, Option.or_eq_some_iff]
    exact .inl h
  have hnot := List.head?_dropWhile_not p s
  rw [hleft] at hnot
  exact hnot

theorem getLast?_trimBy {p : CodePoint → Bool} {s : Str} {c : CodePoint}
    (h : (trimBy p s).getLast? = some c) : p c = false := by
  rcases List.getLast?_eq_some_iff.mp h with ⟨rest, hrest⟩
  cases hc : p c with
  | false => rfl
  | true => exact absurd hrest (trimBy_ne_concat hc)

theorem trimBy_eq_self {p : CodePoint → Bool} {s : Str}
    (hfirst : ∀ c, s.head? = some c → p c = false) (hlast : ∀ c, s.getLast? = some c → p c = false)
    : trimBy p s = s := by
  have hleft : s.dropWhile p = s := by
    cases s with
    | nil => rfl
    | cons c s => rw [List.dropWhile_cons_of_neg (by simp [hfirst c rfl])]
  rw [trimBy, hleft, List.rdropWhile_eq_self_iff]
  intro hne
  rw [hlast _ (List.getLast?_eq_some_getLast hne)]
  simp

theorem append_cons_inj {α : Type} {a : α} {x y s t : List α} (hx : a ∉ x) (hy : a ∉ y)
    (h : x ++ a :: s = y ++ a :: t) : x = y ∧ s = t := by
  induction x generalizing y with
  | nil =>
    cases y with
    | nil => simpa using h
    | cons b y =>
      simp only [List.nil_append, List.cons_append, List.cons.injEq] at h
      simp [← h.1] at hy
  | cons b x ih =>
    cases y with
    | nil =>
      simp only [List.nil_append, List.cons_append, List.cons.injEq] at h
      simp [h.1] at hx
    | cons c y =>
      simp only [List.cons_append, List.cons.injEq] at h
      simp only [List.mem_cons, not_or] at hx hy
      obtain ⟨rfl, rfl⟩ := ih hx.2 hy.2 h.2
      exact ⟨by rw [h.1], rfl⟩

end Text
