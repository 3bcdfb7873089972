import Ketabdaneh.Web.Datetime.MonthGrid

/-!
This module contains which texts of the time field are times, and the local `Date` that a day and a
time make.
-/

namespace Web.MonthGrid

open Calendar Ecma Text

/-- Hours in one or two digits, a colon and minutes in two. -/
def IsTime (s : Str) (hours minutes : Nat) : Prop :=
  hours ≤ 23 ∧ minutes ≤ 59 ∧
    (s = decimal hours ++ cp ':' :: padStart 2 (decimal minutes)
      ∨ s = padStart 2 (decimal hours) ++ cp ':' :: padStart 2 (decimal minutes))

theorem matchTime_go_eq_some {s t : Str} {colon : CodePoint} {hours minutes : Nat}
    : matchTime.go s colon t = some (hours, minutes)
        ↔
      readDecimal s = some hours ∧ readDecimal t = some minutes ∧ colon = cp ':' := by
  unfold matchTime.go
  cases readDecimal s with
  | none => simp
  | some h =>
    cases readDecimal t with
    | none => simp
    | some m =>
      simp only [Option.bind_eq_bind, Option.bind_some]
      split
      . next hcolon => simp [hcolon]
      . next hcolon => simp [hcolon]

theorem isTime_of_matchTime {s : Str} {hours minutes : Nat}
    (h : matchTime s = some (hours, minutes)) (hhours : hours ≤ 23) (hminutes : minutes ≤ 59)
    : IsTime s hours minutes := by
  refine ⟨hhours, hminutes, ?_⟩
  unfold matchTime at h
  split at h
  . next h1 colon m1 m2 =>
    rw [matchTime_go_eq_some, readDecimal_one, readDecimal_two] at h
    obtain ⟨hh, hm, hcolon⟩ := h
    apply Or.inl
    rw [← hh.2, ← hm.2, hcolon]
    rfl
  . next h1 h2 colon m1 m2 =>
    rw [matchTime_go_eq_some, readDecimal_two, readDecimal_two] at h
    obtain ⟨hh, hm, hcolon⟩ := h
    apply Or.inr
    rw [← hh.2, ← hm.2, hcolon]
    rfl
  . contradiction

theorem matchTime_of_isTime {s : Str} {hours minutes : Nat} (h : IsTime s hours minutes)
    : matchTime s = some (hours, minutes) := by
  obtain ⟨hhours, hminutes, hs⟩ := h
  have hm := padStart_two (show minutes < 100 by omega)
  have hpadded : matchTime (padStart 2 (decimal hours) ++ cp ':' :: padStart 2 (decimal minutes))
      = some (hours, minutes) := by
    have hh := padStart_two (show hours < 100 by omega)
    rw [hh, hm]
    apply matchTime_go_eq_some.mpr
    rw [readDecimal_two, readDecimal_two]
    exact ⟨⟨by omega, hh.symm⟩, ⟨by omega, hm.symm⟩, rfl⟩
  rcases hs with hs | hs
  . by_cases hdigit : hours < 10
    . have hh := decimal_of_lt hdigit
      rw [hs, hh, hm]
      apply matchTime_go_eq_some.mpr
      rw [readDecimal_one, readDecimal_two]
      exact ⟨⟨hdigit, hh.symm⟩, ⟨by omega, hm.symm⟩, rfl⟩
    . rwa [hs, ← padStart_two_of_le (show 10 ≤ hours by omega)]
  . rwa [hs]

/-- The `Date` of a day and a time, which shows them where the clock shows them at all. -/
structure IsLocal (clock : LocalClock) (day : Calendar.Date) (hours minutes : Nat)
    (date : DateObject) : Prop where
  newDate : date = clock.newDate day.year (day.month - 1) day.day hours minutes
  shows : (∃ v, clock.localTime v
        = 86400000 * day.toDays + (3600000 * (hours : Int) + 60000 * minutes)) →
    ∃ t, date = some t ∧ clock.date t = day ∧ clock.getHours t = hours
      ∧ clock.getMinutes t = minutes

theorem isLocal_newDate {clock : LocalClock} {day : Calendar.Date} {hours minutes : Nat}
    (hlow : 100 ≤ day.year) (hhigh : day.year ≤ 9999) (hhours : hours ≤ 23) (hminutes : minutes ≤ 59)
    : IsLocal clock day hours minutes
        (clock.newDate day.year (day.month - 1) day.day hours minutes) where
  newDate := rfl
  shows := by
    intro h
    have hbounds := Date.toDays_bounds (Int.le_trans (by decide) hlow) hhigh
    have hlocal := clock.local_utc _ h
    obtain ⟨hday, hwithin⟩ := LocalClock.day_eq hlocal (by omega) (by omega)
    have hclip := LocalClock.timeClip_localTime hlocal (by omega) (by omega) (by omega) (by omega)
    rw [LocalClock.newDate_eq hlow, Int.add_assoc]
    refine ⟨_, hclip, ?_, ?_, ?_⟩
    . rw [LocalClock.date, hday, Date.ofDays_toDays]
    . rw [LocalClock.getHours, hwithin]
      omega
    . rw [LocalClock.getMinutes, hwithin]
      omega

end Web.MonthGrid
