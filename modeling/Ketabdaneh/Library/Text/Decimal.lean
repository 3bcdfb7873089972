import Ketabdaneh.Library.Text.Basic
import Mathlib.Data.Nat.Digits.Defs
import Mathlib.Tactic.IntervalCases

/-!
This module contains decimal numerals: how a natural number is printed, padded and read back.
-/

namespace Text

def digit (d : Nat) : CodePoint :=
  cp d.digitChar

def decimal (n : Nat) : Str :=
  (Nat.toDigits 10 n).map cp

def digitValue (c : CodePoint) : Option Nat :=
  if 0x30 ≤ c.val ∧ c.val ≤ 0x39 then some (c.val - 0x30) else none

/-- Where the runs of ten decimal digits begin in Unicode 15. -/
def digitStarts : List Nat :=
  [0x30, 0x660, 0x6F0, 0x7C0, 0x966, 0x9E6, 0xA66, 0xAE6, 0xB66, 0xBE6, 0xC66, 0xCE6, 0xD66, 0xDE6,
    0xE50, 0xED0, 0xF20, 0x1040, 0x1090, 0x17E0, 0x1810, 0x1946, 0x19D0, 0x1A80, 0x1A90, 0x1B50,
    0x1BB0, 0x1C40, 0x1C50, 0xA620, 0xA8D0, 0xA900, 0xA9D0, 0xA9F0, 0xAA50, 0xABF0, 0xFF10, 0x104A0,
    0x10D30, 0x11066, 0x110F0, 0x11136, 0x111D0, 0x112F0, 0x11450, 0x114D0, 0x11650, 0x116C0,
    0x11730, 0x118E0, 0x11950, 0x11C50, 0x11D50, 0x11DA0, 0x11F50, 0x16A60, 0x16AC0, 0x16B50,
    0x1D7CE, 0x1D7D8, 0x1D7E2, 0x1D7EC, 0x1D7F6, 0x1E140, 0x1E2F0, 0x1E4D0, 0x1E950, 0x1FBF0]

/-- The value of a character of the class `\d`. -/
def unicodeDigit (c : CodePoint) : Option Nat :=
  (digitStarts.find? fun start => start ≤ c.val && c.val < start + 10).map fun start => c.val - start

def padStart (width : Nat) (s : Str) : Str :=
  List.replicate (width - s.length) (cp '0') ++ s

def readDigits (acc : Nat) : Str → Option Nat
  | [] => some acc
  | c :: s => do
    let d ← digitValue c
    readDigits (10 * acc + d) s

def readDecimal (s : Str) : Option Nat :=
  if s = [] then none else readDigits 0 s

@[simp]
theorem digitValue_digit {d : Nat} (h : d < 10) : digitValue (digit d) = some d := by
  interval_cases d <;> decide

theorem digitValue_dash : digitValue (cp '-') = none := rfl

theorem decimal_of_lt {n : Nat} (h : n < 10) : decimal n = [digit n] := by
  simp [decimal, digit, Nat.toDigits_of_lt_base h]

theorem decimal_of_le {n : Nat} (h : 10 ≤ n) : decimal n = decimal (n / 10) ++ [digit (n % 10)] := by
  simp [decimal, digit, Nat.toDigits_of_base_le (by omega : 1 < 10) h]

theorem decimal_ne_nil (n : Nat) : decimal n ≠ [] := by
  simp [decimal]

theorem readDigits_nil (acc : Nat) : readDigits acc [] = some acc := rfl

theorem readDigits_cons {acc v : Nat} {c : CodePoint} {s : Str}
    : readDigits acc (c :: s) = some v
        ↔
      ∃ d, digitValue c = some d ∧ readDigits (10 * acc + d) s = some v := by
  rw [readDigits, Option.bind_eq_bind, Option.bind_eq_some_iff]

theorem readDigits_append {acc v : Nat} {s t : Str} (h : readDigits acc s = some v)
    : readDigits acc (s ++ t) = readDigits v t := by
  induction s generalizing acc with
  | nil =>
    simp only [readDigits, Option.some.injEq] at h
    simp [h]
  | cons c s ih =>
    rw [readDigits_cons] at h
    obtain ⟨d, hd, h⟩ := h
    rw [List.cons_append, readDigits, hd, Option.bind_eq_bind, Option.bind_some]
    exact ih h

theorem readDigits_decimal (n : Nat) : readDigits 0 (decimal n) = some n := by
  induction n using Nat.strongRecOn with
  | ind n ih =>
    by_cases hn : n < 10
    . simp [decimal_of_lt hn, readDigits, hn]
    . rw [decimal_of_le (by omega)]
      rw [readDigits_append (ih (n / 10) (by omega))]
      have hd : n % 10 < 10 := Nat.mod_lt n (by omega)
      simp only [readDigits, digitValue_digit hd, Option.bind_eq_bind, Option.bind_some,
        Option.some.injEq]
      omega

theorem decimal_injective : Function.Injective decimal := by
  intro m n h
  have hm := readDigits_decimal m
  rw [h, readDigits_decimal n] at hm
  exact (Option.some.inj hm).symm

theorem isSome_digitValue_of_readDigits {acc v : Nat} {s : Str} (h : readDigits acc s = some v)
    : ∀ c ∈ s, (digitValue c).isSome := by
  induction s generalizing acc with
  | nil => simp
  | cons c s ih =>
    rw [readDigits_cons] at h
    obtain ⟨d, hd, h⟩ := h
    rw [List.forall_mem_cons, hd]
    exact ⟨rfl, ih h⟩

theorem isSome_digitValue_of_mem_decimal {n : Nat} : ∀ c ∈ decimal n, (digitValue c).isSome :=
  isSome_digitValue_of_readDigits (readDigits_decimal n)

theorem padStart_two {n : Nat} (h : n < 100)
    : padStart 2 (decimal n) = [digit (n / 10), digit (n % 10)] := by
  by_cases hn : n < 10
  . have hdiv : n / 10 = 0 := by omega
    have hmod : n % 10 = n := by omega
    have hzero : digit 0 = cp '0' := rfl
    simp [padStart, decimal_of_lt hn, hdiv, hmod, hzero]
  . have hdiv : n / 10 < 10 := by omega
    simp [padStart, decimal_of_le (by omega : 10 ≤ n), decimal_of_lt hdiv]

theorem padStart_two_of_le {n : Nat} (h : 10 ≤ n) : padStart 2 (decimal n) = decimal n := by
  have hpos := List.length_pos_of_ne_nil (decimal_ne_nil (n / 10))
  have hlen : 2 - (decimal n).length = 0 := by
    rw [decimal_of_le h]
    simp only [List.length_append, List.length_singleton]
    omega
  simp [padStart, hlen]

theorem digitValue_eq_some {c : CodePoint} {d : Nat}
    : digitValue c = some d ↔ d < 10 ∧ c = digit d := by
  constructor
  . intro h
    have hlt : d < 10 := by
      unfold digitValue at h
      split at h
      . rw [Option.some.injEq] at h
        omega
      . contradiction
    refine ⟨hlt, ?_⟩
    have hdigit := digitValue_digit hlt
    unfold digitValue at h hdigit
    split at h
    . split at hdigit
      . rw [Option.some.injEq] at h hdigit
        apply Fin.ext
        omega
      . contradiction
    . contradiction
  . intro h
    rw [h.2, digitValue_digit h.1]

theorem readDecimal_one {c : CodePoint} {n : Nat}
    : readDecimal [c] = some n ↔ n < 10 ∧ [c] = decimal n := by
  rw [readDecimal, if_neg (List.cons_ne_nil _ _)]
  simp only [readDigits_cons, readDigits_nil, digitValue_eq_some, Option.some.injEq]
  constructor
  . intro h
    obtain ⟨d, hd, hn⟩ := h
    rw [show n = d by omega, decimal_of_lt hd.1, hd.2]
    exact ⟨hd.1, rfl⟩
  . intro h
    rw [decimal_of_lt h.1, List.singleton_inj] at h
    exact ⟨n, h, by omega⟩

theorem readDecimal_two {c c' : CodePoint} {n : Nat}
    : readDecimal [c, c'] = some n ↔ n < 100 ∧ [c, c'] = padStart 2 (decimal n) := by
  rw [readDecimal, if_neg (List.cons_ne_nil _ _)]
  simp only [readDigits_cons, readDigits_nil, digitValue_eq_some, Option.some.injEq]
  constructor
  . intro h
    obtain ⟨d, hd, d', hd', hn⟩ := h
    have hdiv : n / 10 = d := by omega
    have hmod : n % 10 = d' := by omega
    rw [padStart_two (by omega), hdiv, hmod, hd.2, hd'.2]
    exact ⟨by omega, rfl⟩
  . intro h
    rw [padStart_two h.1, List.cons.injEq, List.singleton_inj] at h
    exact ⟨n / 10, ⟨by omega, h.2.1⟩, n % 10, ⟨by omega, h.2.2⟩, by omega⟩

theorem decimal_four {n : Nat} (hl : 1000 ≤ n) (hu : n < 10000)
    : decimal n = [digit (n / 1000), digit (n / 100 % 10), digit (n / 10 % 10), digit (n % 10)] := by
  have h100 : n / 10 / 10 = n / 100 := by omega
  have h1000 : n / 100 / 10 = n / 1000 := by omega
  rw [decimal_of_le (by omega), decimal_of_le (by omega), decimal_of_le (by omega),
    decimal_of_lt (by omega)]
  simp [h100, h1000]

theorem padStart_four_of_le {n : Nat} (hl : 1000 ≤ n) (hu : n < 10000)
    : padStart 4 (decimal n) = decimal n := by
  rw [decimal_four hl hu]
  rfl

theorem length_decimal_le_iff {n k : Nat} (hk : 0 < k) : (decimal n).length ≤ k ↔ n < 10 ^ k := by
  rw [decimal, List.length_map]
  exact Nat.length_toDigits_le_iff (by omega) hk

theorem readDigits_concat {acc v : Nat} {s : Str} {c : CodePoint}
    : readDigits acc (s ++ [c]) = some v
        ↔
      ∃ u d, readDigits acc s = some u ∧ digitValue c = some d ∧ v = 10 * u + d := by
  induction s generalizing acc with
  | nil =>
    simp only [List.nil_append, readDigits_cons, readDigits_nil, Option.some.injEq]
    constructor
    . intro h
      obtain ⟨d, hd, hv⟩ := h
      exact ⟨acc, d, rfl, hd, hv.symm⟩
    . intro h
      obtain ⟨u, d, hu, hd, hv⟩ := h
      rw [hu]
      exact ⟨d, hd, hv.symm⟩
  | cons c' s ih =>
    simp only [List.cons_append, readDigits, Option.bind_eq_bind]
    cases digitValue c' with
    | none => simp
    | some d' =>
      rw [Option.bind_some, Option.bind_some]
      exact ih

theorem readDigits_lt {s : Str} {v : Nat} (h : readDigits 0 s = some v) : v < 10 ^ s.length := by
  induction s using List.reverseRecOn generalizing v with
  | nil =>
    simp only [readDigits, Option.some.injEq] at h
    rw [← h]
    decide
  | append_singleton s c ih =>
    obtain ⟨u, d, hu, hd, hv⟩ := readDigits_concat.mp h
    have hlt := ih hu
    have hdigit := (digitValue_eq_some.mp hd).1
    rw [List.length_append, List.length_singleton, Nat.pow_succ]
    omega

/-- Numerals of one length are told apart by their values. -/
theorem readDigits_inj {s t : Str} {v : Nat} (hlen : s.length = t.length)
    (hs : readDigits 0 s = some v) (ht : readDigits 0 t = some v) : s = t := by
  induction s using List.reverseRecOn generalizing t v with
  | nil => exact (List.length_eq_zero_iff.mp hlen.symm).symm
  | append_singleton s c ih =>
    cases t using List.reverseRecOn with
    | nil => simp at hlen
    | append_singleton t c' =>
      rw [List.length_append, List.length_append, List.length_singleton, List.length_singleton,
        Nat.add_right_cancel_iff] at hlen
      obtain ⟨u, d, hu, hd, hv⟩ := readDigits_concat.mp hs
      obtain ⟨u', d', hu', hd', hv'⟩ := readDigits_concat.mp ht
      rw [digitValue_eq_some] at hd hd'
      have hvalue : u = u' := by omega
      have hdigit : d = d' := by omega
      rw [← hvalue] at hu'
      rw [ih hlen hu hu', hd.2, hd'.2, hdigit]

theorem readDigits_padStart (width n : Nat)
    : readDigits 0 (padStart width (decimal n)) = some n := by
  have hzeros (k : Nat) : readDigits 0 (List.replicate k (cp '0') ++ decimal n) = some n := by
    induction k with
    | zero => exact readDigits_decimal n
    | succ k ih =>
      have hzero : digitValue (cp '0') = some 0 := rfl
      rw [List.replicate_succ, List.cons_append, readDigits, hzero]
      exact ih
  exact hzeros _

theorem eq_padStart_of_readDigits {s : Str} {v : Nat} (hs : s ≠ [])
    (h : readDigits 0 s = some v) : s = padStart s.length (decimal v) := by
  have hlen := (length_decimal_le_iff (List.length_pos_of_ne_nil hs)).mpr (readDigits_lt h)
  apply readDigits_inj _ h (readDigits_padStart _ _)
  rw [padStart, List.length_append, List.length_replicate]
  omega

theorem length_padStart {width n : Nat} (hwidth : 0 < width) (h : n < 10 ^ width)
    : (padStart width (decimal n)).length = width := by
  have hlen := (length_decimal_le_iff hwidth).mpr h
  rw [padStart, List.length_append, List.length_replicate]
  omega

theorem unicodeDigit_of_digitValue {c : CodePoint} {d : Nat} (h : digitValue c = some d)
    : unicodeDigit c = some d := by
  unfold digitValue at h
  split at h
  . next hrange =>
    unfold unicodeDigit digitStarts
    rw [List.find?_cons_of_pos]
    . exact h
    . simp only [Bool.and_eq_true, decide_eq_true_eq]
      omega
  . injection h

theorem foldl_unicodeDigit {acc v : Nat} {s : Str} (h : readDigits acc s = some v)
    : s.foldl (fun n c => 10 * n + (unicodeDigit c).getD 0) acc = v := by
  induction s generalizing acc with
  | nil =>
    simp only [readDigits, Option.some.injEq] at h
    exact h
  | cons c s ih =>
    rw [readDigits_cons] at h
    rcases h with ⟨d, hd, h⟩
    rw [List.foldl_cons, unicodeDigit_of_digitValue hd]
    exact ih h

theorem takeWhile_decimal_append (n : Nat) {c : CodePoint} (hc : unicodeDigit c = none) (s : Str)
    : (decimal n ++ c :: s).takeWhile (fun c => (unicodeDigit c).isSome) = decimal n := by
  rw [List.takeWhile_append_of_pos, List.takeWhile_cons_of_neg]
  . rw [List.append_nil]
  . simp [hc]
  . intro c hmem
    have hdigit := isSome_digitValue_of_mem_decimal c hmem
    rw [Option.isSome_iff_exists] at hdigit
    rcases hdigit with ⟨d, hd⟩
    rw [unicodeDigit_of_digitValue hd]
    rfl

end Text
