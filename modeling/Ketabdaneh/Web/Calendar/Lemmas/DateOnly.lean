import Ketabdaneh.Web.Calendar.Lemmas.WeekCalendar

/-!
This module contains for which dates the date-only helpers undo each other.
-/

namespace Web.WeekMath

open Calendar Ecma Text

/--
What is asked of the helpers on a string and its parts: the string and the parts are both made again,
and a calendar that is opened on that day has a column whose key is the string.
-/
structure RoundTrips (iso : Str) (parts : DateParts) : Prop where
  isoOf : isoOf (toUtcDate parts) = iso
  partsOf : (toUtcDate parts).map partsOf = some parts
  today : ∀ (browser : Browser) (calendar : WeekCalendar), calendar.today = iso →
    0 ≤ calendar.weekStartDow → calendar.weekStartDow ≤ 6 →
      ∃ column ∈ calendar.grid browser 0,
        column.dayDate = toUtcDate parts ∧ column.dayKey = calendar.today

/-- The key of a day is the string it was parsed from exactly in the years of four digits. -/
theorem roundTrips_iff {iso : Str} {date : Calendar.Date}
    (h : parseIsoDate iso = some (DateParts.ofDate date))
    : RoundTrips iso (DateParts.ofDate date) ↔ 1000 ≤ date.year := by
  obtain ⟨_, hhigh, hiso⟩ := isoDate_of_parseIsoDate h
  constructor
  . intro hround
    rw [← hround.isoOf] at h
    exact year_of_parse_isoOf h
  . intro hlow
    have hbounds := Date.toDays_bounds (by omega) hhigh
    have hdate : toUtcDate (DateParts.ofDate date) = some (86400000 * date.toDays) := by
      rw [toUtcDate_ofDate (by omega), timeClip_midnight (by omega) (by omega)]
    have hkey : WeekMath.isoOf (some (86400000 * date.toDays)) = iso := by
      rw [isoOf_midnight, dateKey_eq_isoDate hlow hhigh, hiso]
    constructor
    case isoOf => rw [hdate, hkey]
    case partsOf => rw [hdate, Option.map_some, partsOf_midnight]
    case today =>
      intro browser calendar htoday hdow hdow'
      have hopened : calendar.OpenedOn date :=
        ⟨htoday.trans hiso, hlow, hhigh, hdow, hdow'⟩
      refine ⟨_, hopened.today_mem_grid browser, hdate.symm, ?_⟩
      rw [htoday, ← hkey]
      rfl

/-- A leap day. -/
def leapDay : Calendar.Date :=
  ⟨2028, 2, 29, by decide, by decide, by decide, by decide⟩

theorem leapDay_roundTrips : RoundTrips (ofString "2028-02-29") (DateParts.ofDate leapDay) := by
  apply (roundTrips_iff (by decide)).mpr
  decide

/-- The year 24 is read as 1924, and 622 is written with three digits. -/
theorem shortYears_not_roundTrip
    : parseIsoDate (ofString "0024-07-20") = some ⟨24, 7, 20⟩
        ∧ isoOf (toUtcDate ⟨24, 7, 20⟩) = ofString "1924-07-20"
        ∧ ¬RoundTrips (ofString "0024-07-20") ⟨24, 7, 20⟩
        ∧ parseIsoDate (ofString "0622-03-22") = some ⟨622, 3, 22⟩
        ∧ isoOf (toUtcDate ⟨622, 3, 22⟩) = ofString "622-03-22"
        ∧ ¬RoundTrips (ofString "0622-03-22") ⟨622, 3, 22⟩ := by
  refine ⟨by decide, by decide +kernel, ?_, by decide, by decide +kernel, ?_⟩
  . intro h
    exact absurd h.isoOf (by decide +kernel)
  . intro h
    exact absurd h.isoOf (by decide +kernel)

end Web.WeekMath
