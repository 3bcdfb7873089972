import Ketabdaneh.Library.Calendar.Rfc3339

/-!
This module contains the `Date` of ECMAScript: time values, the browser's time zone and the local
and UTC fields of a time value.
-/

namespace Ecma

open Calendar Rfc3339 Text

abbrev TimeValue := Int

structure Zone where
  /-- The UTC offset in force at a time value, in minutes, positive to the east. -/
  offset : TimeValue → Int
  /-- `UTC(t)`: the time value chosen for a local reading. -/
  utc : Int → TimeValue
  /-- A reading the local clock does show is not moved. -/
  local_utc : ∀ t, (∃ v, v + 60000 * offset v = t) → utc t + 60000 * offset (utc t) = t

def Zone.fixed (offset : Int) : Zone where
  offset := fun _ => offset
  utc := fun t => t - 60000 * offset
  local_utc := by
    intro t _
    exact Int.sub_add_cancel t _

def utcWall (t : TimeValue) : Wall :=
  .ofSeconds (t / 1000)

def localWall (z : Zone) (t : TimeValue) : Wall :=
  .ofSeconds ((t + 60000 * z.offset t) / 1000)

def getTimezoneOffset (z : Zone) (t : TimeValue) : Int :=
  -z.offset t

/-- `MakeFullYear`: a year of one or two digits is a year of the twentieth century. -/
def makeFullYear (year : Int) : Int :=
  if 0 ≤ year ∧ year ≤ 99 then 1900 + year else year

/-- `MakeDay`: the month is counted from 0 and may lie outside the year. -/
def makeDay (year month date : Int) : Int :=
  dayNumber (year + month / 12) (month % 12 + 1) date

def newDate (z : Zone) (year month date hours minutes : Int) : TimeValue :=
  z.utc (86400000 * makeDay (makeFullYear year) month date + 3600000 * hours + 60000 * minutes)

def toStr (n : Int) : Str :=
  if n < 0 then cp '-' :: decimal n.natAbs else decimal n.natAbs

theorem toStr_of_nonneg {n : Int} (h : 0 ≤ n) : toStr n = decimal n.natAbs := by
  simp only [toStr]
  rw [if_neg (by omega)]

theorem cp_minus_not_mem_decimal (n : Nat) : cp '-' ∉ decimal n := by
  intro h
  have hdigit := isSome_digitValue_of_mem_decimal _ h
  contradiction

theorem toStr_injective : Function.Injective toStr := by
  intro m n h
  unfold toStr at h
  split at h
  . split at h
    . have habs := decimal_injective (List.cons.inj h).2
      omega
    . have hminus := cp_minus_not_mem_decimal n.natAbs
      rw [← h] at hminus
      simp at hminus
  . split at h
    . have hminus := cp_minus_not_mem_decimal m.natAbs
      rw [h] at hminus
      simp at hminus
    . have habs := decimal_injective h
      omega

theorem readField_toStr_eq_some {y : Int} {v : Nat} {s t : Str}
    (h : readField 4 0 (toStr y ++ cp '-' :: s) = some (v, cp '-' :: t))
    : 1000 ≤ y ∧ y ≤ 9999 ∧ v = y := by
  by_cases hneg : y < 0
  . rw [toStr, if_pos hneg, List.cons_append] at h
    simp [readField, digitValue_dash] at h
  . rw [toStr_of_nonneg (by omega)] at h
    obtain ⟨hlen, hvalue, -⟩ := readField_decimal_eq_some digitValue_dash h
    have hu := (length_decimal_le_iff (n := y.natAbs) (k := 4) (by omega)).mp (by omega)
    have hl := (length_decimal_le_iff (n := y.natAbs) (k := 3) (by omega)).not.mp (by omega)
    omega

theorem makeDay_date (date : Calendar.Date) : makeDay date.year (date.month - 1) date.day = date.toDays := by
  have := date.month_pos
  have := date.month_le
  have hdiv : (date.month - 1) / 12 = 0 := by omega
  have hmod : (date.month - 1) % 12 + 1 = date.month := by omega
  simp [makeDay, Calendar.Date.toDays, hdiv, hmod]

theorem newDate_add_offset {z : Zone} {w : Wall} (hyear : 100 ≤ w.date.year) (hsec : w.second = 0)
    (hshown : ∃ v, v + 60000 * z.offset v = 1000 * w.toSeconds)
    : let v := newDate z w.date.year (w.date.month - 1) w.date.day w.hour w.minute
      v + 60000 * z.offset v = 1000 * w.toSeconds := by
  have hfull : makeFullYear w.date.year = w.date.year := by
    simp only [makeFullYear]
    split
    . omega
    . rfl
  have htime : 86400000 * w.date.toDays + 3600000 * w.hour + 60000 * w.minute
      = 1000 * w.toSeconds := by
    simp only [Wall.toSeconds]
    omega
  simp only [newDate, hfull, makeDay_date, htime]
  exact z.local_utc _ hshown

theorem localWall_of_add_offset {z : Zone} {v : TimeValue} {w : Wall}
    (h : v + 60000 * z.offset v = 1000 * w.toSeconds) : localWall z v = w := by
  rw [localWall, h, Int.mul_ediv_cancel_left _ (by omega)]
  exact w.ofSeconds_toSeconds

end Ecma
