import Ketabdaneh.Library.Calendar.Wall
import Ketabdaneh.Library.Text.Decimal

/-!
This module contains the date-time form of RFC 3339: a reader for it and, for a reading with an
offset, the instant it denotes.
-/

namespace Calendar

open Text

structure OffsetDateTime where
  wall : Wall
  micro : Nat
  offset : Int
  deriving DecidableEq, Repr

namespace OffsetDateTime

def instant (t : OffsetDateTime) : Int :=
  1000000 * (t.wall.toSeconds - 60 * t.offset) + t.micro

end OffsetDateTime

namespace Rfc3339

def readField : (width : Nat) → (acc : Nat) → Str → Option (Nat × Str)
  | 0, acc, s => some (acc, s)
  | width + 1, acc, c :: s => do
    let d ← digitValue c
    readField width (10 * acc + d) s
  | _ + 1, _, [] => none

def readChar (c : CodePoint) : Str → Option Str
  | [] => none
  | d :: s => if d = c then some s else none

/-- The digits of `time-secfrac`, kept to the microsecond. -/
def readFraction (places : Nat) (acc : Nat) : Str → Nat × Str
  | [] => (acc * 10 ^ places, [])
  | c :: s =>
    match digitValue c, places with
    | none, _ => (acc * 10 ^ places, c :: s)
    | some _, 0 => readFraction 0 acc s
    | some d, places + 1 => readFraction places (10 * acc + d) s

def readOffset : Str → Option Int
  | [] => none
  | c :: s =>
    if c = cp 'Z' ∨ c = cp 'z' then
      if s = [] then some 0 else none
    else if c = cp '+' ∨ c = cp '-' then do
      let (hour, s) ← readField 2 0 s
      let s ← readChar (cp ':') s
      let (minute, s) ← readField 2 0 s
      if s = [] ∧ hour ≤ 23 ∧ minute ≤ 59 then
        some (if c = cp '-' then -(60 * hour + minute : Int) else 60 * hour + minute)
      else
        none
    else
      none

def mkDate (year month day : Int) : Option Date :=
  if h : 1 ≤ month ∧ month ≤ 12 ∧ 1 ≤ day ∧ day ≤ monthLength year month then
    some ⟨year, month, day, h.1, h.2.1, h.2.2.1, h.2.2.2⟩
  else
    none

def mkWall (date : Date) (hour minute second : Int) : Option Wall :=
  if h : 0 ≤ hour ∧ hour ≤ 23 ∧ 0 ≤ minute ∧ minute ≤ 59 ∧ 0 ≤ second ∧ second ≤ 59 then
    some ⟨date, hour, minute, second, h.1, h.2.1, h.2.2.1, h.2.2.2.1, h.2.2.2.2.1, h.2.2.2.2.2⟩
  else
    none

def readDate (s : Str) : Option (Date × Str) := do
  let (year, s) ← readField 4 0 s
  let s ← readChar (cp '-') s
  let (month, s) ← readField 2 0 s
  let s ← readChar (cp '-') s
  let (day, s) ← readField 2 0 s
  let date ← mkDate year month day
  some (date, s)

def readTime (date : Date) (s : Str) : Option (Wall × Str) := do
  let (hour, s) ← readField 2 0 s
  let s ← readChar (cp ':') s
  let (minute, s) ← readField 2 0 s
  let s ← readChar (cp ':') s
  let (second, s) ← readField 2 0 s
  let wall ← mkWall date hour minute second
  some (wall, s)

/-- `full-date "T" full-time`; the fraction of a second may be left out, the offset may not. -/
def readDateTime (s : Str) : Option OffsetDateTime := do
  let (date, s) ← readDate s
  let s ← (readChar (cp 'T') s <|> readChar (cp 't') s)
  let (wall, s) ← readTime date s
  let (micro, s) ←
    match readChar (cp '.') s with
    | none => some (0, s)
    | some s => if (s.head?.bind digitValue).isSome then some (readFraction 6 0 s) else none
  let offset ← readOffset s
  some ⟨wall, micro, offset⟩

@[simp]
theorem mkDate_eq (date : Date) : mkDate date.year date.month date.day = some date := by
  obtain ⟨y, m, d, hm0, hm, hd0, hd⟩ := date
  simp [mkDate, hm0, hm, hd0, hd]

@[simp]
theorem mkWall_eq (w : Wall) : mkWall w.date w.hour w.minute w.second = some w := by
  obtain ⟨d, h, m, s, hh0, hh, hm0, hm, hs0, hs⟩ := w
  simp [mkWall, hh0, hh, hm0, hm, hs0, hs]

theorem readField_eq_some_iff {width acc v : Nat} {s t : Str}
    : readField width acc s = some (v, t)
        ↔
      ∃ field, s = field ++ t ∧ field.length = width ∧ readDigits acc field = some v := by
  induction width generalizing acc s with
  | zero =>
    simp only [readField, Option.some.injEq, Prod.mk.injEq, List.length_eq_zero_iff]
    constructor
    . rintro ⟨rfl, rfl⟩
      exact ⟨[], rfl, rfl, rfl⟩
    . rintro ⟨field, rfl, rfl, hv⟩
      simpa [readDigits] using hv
  | succ width ih =>
    cases s with
    | nil =>
      simp only [readField, reduceCtorEq, false_iff]
      rintro ⟨field, hs, hlen, -⟩
      simp [List.nil_eq_append_iff.mp hs |>.1] at hlen
    | cons c s =>
      simp only [readField, Option.bind_eq_bind, Option.bind_eq_some_iff]
      constructor
      . rintro ⟨d, hd, hrest⟩
        obtain ⟨field, rfl, rfl, hv⟩ := ih.mp hrest
        exact ⟨c :: field, rfl, rfl, by simp [readDigits, hd, hv]⟩
      . rintro ⟨field, hs, hlen, hv⟩
        cases field with
        | nil => simp at hlen
        | cons c' field =>
          simp only [List.cons_append, List.cons.injEq] at hs
          obtain ⟨rfl, rfl⟩ := hs
          simp only [readDigits, Option.bind_eq_bind, Option.bind_eq_some_iff] at hv
          obtain ⟨d, hd, hv⟩ := hv
          exact ⟨d, hd, ih.mpr ⟨field, rfl, by simpa using hlen, hv⟩⟩

/-- A field of digits is a numeral, padded to the width of the field. -/
theorem readField_padStart_iff {width n : Nat} (hwidth : 0 < width) {s t : Str}
    : readField width 0 s = some (n, t) ↔ n < 10 ^ width ∧ s = padStart width (decimal n) ++ t := by
  rw [readField_eq_some_iff]
  constructor
  . intro h
    obtain ⟨field, hs, hlen, hvalue⟩ := h
    have hfield := eq_padStart_of_readDigits (List.ne_nil_of_length_pos (by omega)) hvalue
    have hlt := readDigits_lt hvalue
    rw [hlen] at hfield hlt
    rw [hs, ← hfield]
    exact ⟨hlt, rfl⟩
  . intro h
    exact ⟨_, h.2, length_padStart hwidth h.1, readDigits_padStart width n⟩

theorem readField_two {n : Nat} (h : n < 100) (s : Str)
    : readField 2 0 (padStart 2 (decimal n) ++ s) = some (n, s) := by
  rw [readField_padStart_iff (by decide)]
  exact ⟨h, rfl⟩

theorem readField_four {n : Nat} (hl : 1000 ≤ n) (hu : n < 10000) (s : Str)
    : readField 4 0 (decimal n ++ s) = some (n, s) := by
  rw [readField_padStart_iff (by decide), padStart_four_of_le hl hu]
  exact ⟨hu, rfl⟩

theorem readField_decimal_eq_some {width n v : Nat} {c : CodePoint} {s t : Str}
    (hc : digitValue c = none) (h : readField width 0 (decimal n ++ c :: s) = some (v, c :: t))
    : (decimal n).length = width ∧ v = n ∧ s = t := by
  obtain ⟨field, hs, hlen, hv⟩ := readField_eq_some_iff.mp h
  have hn : c ∉ decimal n := by
    intro hmem
    simpa [hc] using isSome_digitValue_of_mem_decimal c hmem
  have hfield : c ∉ field := by
    intro hmem
    simpa [hc] using isSome_digitValue_of_readDigits hv c hmem
  obtain ⟨rfl, rfl⟩ := append_cons_inj hn hfield hs
  rw [readDigits_decimal] at hv
  simp only [Option.some.injEq] at hv
  exact ⟨hlen, hv.symm, rfl⟩

theorem readChar_eq_some {c : CodePoint} {s t : Str} (h : readChar c s = some t) : s = c :: t := by
  cases s with
  | nil => simp [readChar] at h
  | cons d s =>
    simp only [readChar] at h
    split at h
    . next hd =>
      simp only [Option.some.injEq] at h
      rw [hd, h]
    . simp at h

@[simp]
theorem readChar_cons (c : CodePoint) (s : Str) : readChar c (c :: s) = some s := by
  simp [readChar]

theorem readChar_of_ne {c d : CodePoint} (h : d ≠ c) (s : Str) : readChar c (d :: s) = none := by
  simp [readChar, h]

end Rfc3339

end Calendar
