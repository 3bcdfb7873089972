import Ketabdaneh.Web.Calendar.WeekMath

namespace Web.WeekMath

open Calendar Ecma Rfc3339 Text

def DateParts.ofDate (date : Calendar.Date) : DateParts :=
  ⟨date.year, date.month, date.day⟩

/-- `YYYY-MM-DD` -/
def isoDate (date : Calendar.Date) : Str :=
  padStart 4 (decimal date.year.natAbs)
    ++ cp '-' :: (padStart 2 (decimal date.month.natAbs)
      ++ cp '-' :: padStart 2 (decimal date.day.natAbs))

theorem pad_of_nonneg {n : Int} (h : 0 ≤ n) : pad n = padStart 2 (decimal n.natAbs) := by
  unfold pad
  rw [toStr_of_nonneg h]

theorem length_pad {n : Int} (h0 : 0 ≤ n) (h : n < 100) : (pad n).length = 2 := by
  rw [pad_of_nonneg h0, padStart_two (by omega)]
  rfl

theorem pad_inj {m n : Int} (hm0 : 0 ≤ m) (hm : m < 100) (hn0 : 0 ≤ n) (hn : n < 100)
    (h : pad m = pad n) : m = n := by
  rw [pad_of_nonneg hm0, pad_of_nonneg hn0] at h
  have hread := readField_two (by omega : m.natAbs < 100) []
  rw [h, readField_two (by omega)] at hread
  simp only [Option.some.injEq, Prod.mk.injEq, and_true] at hread
  omega

theorem length_pad_month (date : Calendar.Date) : (pad date.month).length = 2 := by
  have hpos := date.month_pos
  have hle := date.month_le
  exact length_pad (by omega) (by omega)

theorem length_pad_day (date : Calendar.Date) : (pad date.day).length = 2 := by
  have hpos := date.day_pos
  have hle := date.day_le_31
  exact length_pad (by omega) (by omega)

theorem length_monthDay (date : Calendar.Date)
    : (cp '-' :: (pad date.month ++ cp '-' :: pad date.day)).length = 6 := by
  simp [length_pad_month, length_pad_day]

theorem dateKey_ofDate (date : Calendar.Date)
    : dateKey (DateParts.ofDate date)
        =
      toStr date.year ++ cp '-' :: (pad date.month ++ cp '-' :: pad date.day) := by
  rfl

/-- The template tells the days apart, whatever their year. -/
theorem dateKey_injective {a b : Calendar.Date}
    (h : dateKey (DateParts.ofDate a) = dateKey (DateParts.ofDate b)) : a = b := by
  have hmonths := And.intro (And.intro a.month_pos a.month_le) (And.intro b.month_pos b.month_le)
  have hdays := And.intro (And.intro a.day_pos a.day_le_31) (And.intro b.day_pos b.day_le_31)
  rw [dateKey_ofDate, dateKey_ofDate] at h
  obtain ⟨hyear, hrest⟩ := List.append_inj' h ((length_monthDay a).trans (length_monthDay b).symm)
  obtain ⟨hmonth, hday⟩ :=
    List.append_inj (List.cons.inj hrest).2 ((length_pad_month a).trans (length_pad_month b).symm)
  ext
  . exact toStr_injective hyear
  . apply pad_inj _ _ _ _ hmonth
    all_goals
      omega
  . apply pad_inj _ _ _ _ (List.cons.inj hday).2
    all_goals
      omega

theorem partsOf_midnight (date : Calendar.Date)
    : partsOf (86400000 * date.toDays) = DateParts.ofDate date := by
  unfold partsOf
  rw [utcWall_midnight, Date.ofDays_toDays]
  rfl

theorem isoOf_midnight (date : Calendar.Date)
    : isoOf (some (86400000 * date.toDays)) = dateKey (DateParts.ofDate date) := by
  unfold isoOf
  dsimp only
  rw [partsOf_midnight]

theorem dateKey_ne_isoOf_none (date : Calendar.Date)
    : dateKey (DateParts.ofDate date) ≠ isoOf none := by
  intro h
  have hpos := date.day_pos
  have hle := date.day_le_31
  have hlast := congrArg List.getLast? h
  rw [dateKey_ofDate, pad_of_nonneg (by omega : 0 ≤ date.day), padStart_two (by omega)] at hlast
  have hvalue : digitValue (digit (date.day.natAbs % 10)) = some (date.day.natAbs % 10) :=
    digitValue_digit (by omega)
  have hletter : isoOf none = ofString "NaN-NaN-Na" ++ [cp 'N'] := by
    rfl
  simp only [hletter, List.getLast?_append, List.getLast?_cons, List.getLast?_nil,
    Option.getD_none, Option.some_or, Option.getD_some, Option.some.injEq] at hlast
  rw [hlast] at hvalue
  contradiction

theorem parseIsoDate_eq_some {iso : Str} {parts : DateParts} (h : parseIsoDate iso = some parts)
    : ∃ year month day : Nat, parts = ⟨year, month, day⟩
        ∧ year < 10000
        ∧ iso
            =
          padStart 4 (decimal year)
            ++ cp '-' :: (padStart 2 (decimal month) ++ cp '-' :: padStart 2 (decimal day)) := by
  unfold parseIsoDate at h
  simp only [Option.bind_eq_bind, Option.bind_eq_some_iff] at h
  obtain ⟨⟨year, _⟩, hyear, _, hdash, ⟨month, _⟩, hmonth, _, hdash', ⟨day, rest⟩, hday, h⟩ := h
  dsimp only at *
  rw [readField_padStart_iff (by decide)] at hyear hmonth hday
  split at h
  . next hrest =>
    rw [hyear.2, readChar_eq_some hdash, hmonth.2, readChar_eq_some hdash', hday.2, hrest,
      List.append_nil]
    exact ⟨year, month, day, (Option.some.inj h).symm, hyear.1, rfl⟩
  . contradiction

theorem isoDate_of_parseIsoDate {iso : Str} {date : Calendar.Date}
    (h : parseIsoDate iso = some (DateParts.ofDate date))
    : 0 ≤ date.year ∧ date.year ≤ 9999 ∧ iso = isoDate date := by
  obtain ⟨year, month, day, hparts, hlt, hiso⟩ := parseIsoDate_eq_some h
  unfold DateParts.ofDate at hparts
  rw [DateParts.mk.injEq] at hparts
  obtain ⟨hyear, hmonth, hday⟩ := hparts
  unfold isoDate
  rw [hyear, hmonth, hday]
  exact ⟨by omega, by omega, hiso⟩

theorem parseIsoDate_isoDate {date : Calendar.Date} (hlow : 0 ≤ date.year)
    (hhigh : date.year ≤ 9999)
    : parseIsoDate (isoDate date) = some (DateParts.ofDate date) := by
  have hmonth := And.intro date.month_pos date.month_le
  have hday := And.intro date.day_pos date.day_le_31
  have hreadYear (s : Str) := (readField_padStart_iff (by decide : 0 < 4) (t := s)).mpr
    ⟨(by omega : date.year.natAbs < 10 ^ 4), rfl⟩
  have hreadDay := readField_two (by omega : date.day.natAbs < 100) []
  rw [List.append_nil] at hreadDay
  unfold parseIsoDate isoDate DateParts.ofDate
  simp only [hreadYear, readChar_cons, readField_two (by omega : date.month.natAbs < 100), hreadDay,
    Option.bind_eq_bind, Option.bind_some, ↓reduceIte, Option.some.injEq, DateParts.mk.injEq]
  omega

/-- Only a year of four digits is written as long as it is read. -/
theorem dateKey_eq_isoDate {date : Calendar.Date} (hlow : 1000 ≤ date.year)
    (hhigh : date.year ≤ 9999)
    : dateKey (DateParts.ofDate date) = isoDate date := by
  have hmonth := date.month_pos
  have hday := date.day_pos
  unfold isoDate
  rw [dateKey_ofDate, toStr_of_nonneg (by omega), pad_of_nonneg (by omega),
    pad_of_nonneg (by omega), padStart_four_of_le (by omega) (by omega)]

theorem year_of_parse_dateKey {date : Calendar.Date} {parts : DateParts}
    (h : parseIsoDate (dateKey (DateParts.ofDate date)) = some parts) : 1000 ≤ parts.year := by
  rw [dateKey_ofDate] at h
  unfold parseIsoDate at h
  simp only [Option.bind_eq_bind, Option.bind_eq_some_iff] at h
  obtain ⟨⟨year, rest⟩, hyear, _, hdash, _, _, _, _, _, _, h⟩ := h
  dsimp only at hyear hdash h
  rw [readChar_eq_some hdash] at hyear
  obtain ⟨hlow, _, hvalue⟩ := readField_toStr_eq_some hyear
  split at h
  . rw [← Option.some.inj h]
    dsimp only
    omega
  . contradiction

theorem year_of_parse_isoOf {date : DateObject} {parts : DateParts}
    (h : parseIsoDate (isoOf date) = some parts) : 1000 ≤ parts.year := by
  cases date with
  | none =>
    have hnone : parseIsoDate (isoOf none) = none := by
      decide
    rw [hnone] at h
    contradiction
  | some time => exact year_of_parse_dateKey h

theorem todayIsoDate_eq {clock : Clock} {now : TimeValue} (hlow : 1000 ≤ (clock.wall now).date.year)
    (hhigh : (clock.wall now).date.year ≤ 9999)
    : todayIsoDate clock now = isoDate (clock.wall now).date := by
  exact dateKey_eq_isoDate hlow hhigh

theorem toUtcDate_ofDate {date : Calendar.Date} (hyear : 100 ≤ date.year)
    : toUtcDate (DateParts.ofDate date) = timeClip (86400000 * date.toDays) := by
  exact utc_date hyear

theorem addDays_midnight (n k : Int)
    : addDays (some (86400000 * n)) k = timeClip (86400000 * (n + k)) := by
  unfold addDays DAY_MS
  rw [Option.bind_some]
  congr 1
  omega

theorem startOfWeek_midnight {first : Int} (h0 : 0 ≤ first) (h6 : first ≤ 6) (n : Int)
    : startOfWeek (some (86400000 * n)) first = timeClip (86400000 * weekStart first n) := by
  unfold startOfWeek
  rw [Option.bind_some]
  dsimp only
  rw [addDays_midnight, getUTCDay_midnight]
  congr 2
  unfold weekStart weekday
  rw [Int.tmod_eq_emod_of_nonneg]
  . omega
  . omega

theorem weekStartDowForLocale_bounds (firstDay : Str → Option Int) (locale : Str)
    : 0 ≤ weekStartDowForLocale firstDay locale ∧ weekStartDowForLocale firstDay locale ≤ 6 := by
  have hfallback (b : Bool) : (0 : Int) ≤ (if b then 6 else 0) ∧ (if b then 6 else 0) ≤ (6 : Int) := by
    cases b with
    | false => decide
    | true => decide
  unfold weekStartDowForLocale
  dsimp only
  split
  . apply hfallback
  . split
    . rw [Int.tmod_eq_emod_of_nonneg (by omega)]
      omega
    . apply hfallback

end Web.WeekMath
