import Ketabdaneh.Library.Text.Decimal

/-!
This module contains how Python reads a UUID, and the hexadecimal integers it takes for that.
-/

namespace Python

open Text

instance uuidNeZero : NeZero (2 ^ 128) :=
  ⟨by decide⟩

/-- `s.replace(old, "")`, for a text to remove that is not empty; `skip` characters are left of it. -/
def removeFrom (old : Str) (skip : Nat) : Str → Str
  | [] => []
  | c :: s =>
    if 0 < skip then
      removeFrom old (skip - 1) s
    else if old.isPrefixOf (c :: s) then
      removeFrom old (old.length - 1) s
    else
      c :: removeFrom old 0 s

def remove (old s : Str) : Str :=
  removeFrom old 0 s

/-- White space around a numeral: of the ASCII characters, fewer than `str.strip` removes. -/
def isNumeralSpace (c : CodePoint) : Bool :=
  if c.val < 127 then (decide (9 ≤ c.val) && decide (c.val ≤ 13)) || c.val == 32 else isSpacePy c

def hexDigitValue (c : CodePoint) : Option Nat :=
  if 0x41 ≤ c.val ∧ c.val ≤ 0x46 then some (c.val - 0x41 + 10)
  else if 0x61 ≤ c.val ∧ c.val ≤ 0x66 then some (c.val - 0x61 + 10)
  else unicodeDigit c

def readHexDigits (acc : Nat) (afterDigit : Bool) : Str → Option Nat
  | [] => if afterDigit then some acc else none
  | c :: s =>
    if c = cp '_' then
      if afterDigit then readHexDigits acc false s else none
    else do
      let d ← hexDigitValue c
      readHexDigits (16 * acc + d) true s

def readHex (s : Str) : Option Nat :=
  match s with
  | zero :: x :: rest =>
    if unicodeDigit zero = some 0 ∧ (x = cp 'x' ∨ x = cp 'X') then
      match rest with
      | c :: digits => readHexDigits 0 false (if c = cp '_' then digits else rest)
      | [] => none
    else
      readHexDigits 0 false s
  | _ => readHexDigits 0 false s

def intOfHex (s : Str) : Option Int :=
  match trimBy isNumeralSpace s with
  | [] => none
  | c :: rest =>
    if c = cp '-' then (readHex rest).map fun n => -n
    else if c = cp '+' then (readHex rest).map fun n => n
    else (readHex (c :: rest)).map fun n => n

def uuid (s : Str) : Option (Fin (2 ^ 128)) :=
  let plain := remove (ofString "uuid:") (remove (ofString "urn:") s)
  let hex := remove (ofString "-") (trimBy (fun c => c = cp '{' || c = cp '}') plain)
  if hex.length ≠ 32 then
    none
  else do
    let n ← intOfHex hex
    if h : 0 ≤ n ∧ n < 2 ^ 128 then
      some ⟨n.toNat, by omega⟩
    else
      none

/-- `id.hex` -/
def uuidHex (id : Fin (2 ^ 128)) : Str :=
  padStart 32 ((Nat.toDigits 16 id.val).map cp)

/-- `str(id)` -/
def uuidText (id : Fin (2 ^ 128)) : Str :=
  let hex := padStart 32 ((Nat.toDigits 16 id.val).map cp)
  hex.take 8 ++ cp '-' :: (hex.drop 8).take 4 ++ cp '-' :: (hex.drop 12).take 4
    ++ cp '-' :: (hex.drop 16).take 4 ++ cp '-' :: hex.drop 20

theorem exists_digitChar {b n : Nat} {c : Char} (hb : 1 < b) (hc : c ∈ Nat.toDigits b n)
    : ∃ d < b, c = d.digitChar := by
  induction n using Nat.strongRecOn with
  | ind n ih =>
    by_cases hn : n < b
    . rw [Nat.toDigits_of_lt_base hn, List.mem_singleton] at hc
      exact ⟨n, hn, hc⟩
    . rw [Nat.toDigits_of_base_le hb (by omega), List.mem_append, List.mem_singleton] at hc
      cases hc with
      | inl hc =>
        apply ih (n / b) ?_ hc
        apply Nat.div_lt_self
        all_goals omega
      | inr hc =>
        refine ⟨n % b, ?_, hc⟩
        apply Nat.mod_lt
        omega

theorem length_uuidHex (id : Fin (2 ^ 128)) : (uuidHex id).length = 32 := by
  have hlength : (Nat.toDigits 16 id.val).length ≤ 32 := by
    rw [Nat.length_toDigits_le_iff (by omega) (by omega)]
    exact id.isLt
  rw [uuidHex, padStart, List.length_append, List.length_replicate, List.length_map]
  omega

theorem exists_of_mem_uuidHex {id : Fin (2 ^ 128)} {c : CodePoint} (hc : c ∈ uuidHex id)
    : ∃ d < 16, c = digit d := by
  rw [uuidHex, padStart, List.mem_append, List.mem_map] at hc
  cases hc with
  | inl hc => exact ⟨0, by omega, List.eq_of_mem_replicate hc⟩
  | inr hc =>
    rcases hc with ⟨c, hc, rfl⟩
    rcases exists_digitChar (by omega) hc with ⟨d, hd, rfl⟩
    exact ⟨d, hd, rfl⟩

example : uuid (ofString "urn:uuid:{00000000-0000-0000-0000-0000000000ff}") = some 255 := by decide

end Python
