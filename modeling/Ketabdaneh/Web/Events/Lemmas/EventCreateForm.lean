import Ketabdaneh.Api.Schemas.Event
import Ketabdaneh.Web.Events.EventCreateForm

namespace Web

open Calendar Calendar.Rfc3339 Ecma Python Text

theorem digitValue_colon : digitValue (cp ':') = none := rfl

theorem readField_pad {n : Int} (h0 : 0 ≤ n) (h : n < 100) (s : Str)
    : readField 2 0 (pad n ++ s) = some (n.natAbs, s) := by
  unfold pad
  exact readField_two (by omega) s

theorem readDate_isoOf {w : Wall} (hl : 1000 ≤ w.date.year) (hu : w.date.year ≤ 9999) (s : Str)
    : readDate (isoOf w ++ s)
        =
      some (w.date, cp 'T' :: pad w.hour ++ cp ':' :: pad w.minute ++ cp ':' :: pad w.second ++ s) := by
  have := w.date.month_pos
  have := w.date.month_le
  have := w.date.day_pos
  have := w.date.day_le
  have := monthLength_le w.date.year w.date.month
  have hyear : ((w.date.year.natAbs : Nat) : Int) = w.date.year := by omega
  have hmonth : ((w.date.month.natAbs : Nat) : Int) = w.date.month := by omega
  have hdate : ((w.date.day.natAbs : Nat) : Int) = w.date.day := by omega
  simp only [isoOf, List.append_assoc, List.cons_append, readDate]
  rw [toStr_of_nonneg (by omega), readField_four (by omega) (by omega)]
  simp only [Option.bind_eq_bind, Option.bind_some, readChar_cons]
  rw [readField_pad (by omega) (by omega)]
  simp only [Option.bind_some, readChar_cons]
  rw [readField_pad (by omega) (by omega)]
  simp only [Option.bind_some, hyear, hmonth, hdate, mkDate_eq]

theorem readTime_isoOf (w : Wall) (s : Str)
    : readTime w.date (pad w.hour ++ cp ':' :: pad w.minute ++ cp ':' :: pad w.second ++ s)
        =
      some (w, s) := by
  have := w.hour_nonneg
  have := w.hour_le
  have := w.minute_nonneg
  have := w.minute_le
  have := w.second_nonneg
  have := w.second_le
  have hhour : ((w.hour.natAbs : Nat) : Int) = w.hour := by omega
  have hminute : ((w.minute.natAbs : Nat) : Int) = w.minute := by omega
  have hsecond : ((w.second.natAbs : Nat) : Int) = w.second := by omega
  simp only [List.append_assoc, List.cons_append, readTime]
  rw [readField_pad (by omega) (by omega)]
  simp only [Option.bind_eq_bind, Option.bind_some, readChar_cons]
  rw [readField_pad (by omega) (by omega)]
  simp only [Option.bind_some, readChar_cons]
  rw [readField_pad (by omega) (by omega)]
  simp only [Option.bind_some, hhour, hminute, hsecond, mkWall_eq]

theorem read_isoOf {w : Wall} (hl : 1000 ≤ w.date.year) (hu : w.date.year ≤ 9999)
    {c : CodePoint} (hc : c ≠ cp '.') (s : Str)
    : readDateTime (isoOf w ++ c :: s) = (readOffset (c :: s)).map fun offset => ⟨w, 0, offset⟩ := by
  have htime := readTime_isoOf w (c :: s)
  simp only [List.append_assoc, List.cons_append] at htime
  unfold readDateTime
  rw [readDate_isoOf hl hu]
  simp only [Option.bind_eq_bind, Option.bind_some, List.append_assoc, List.cons_append,
    readChar_cons, Option.orElse_eq_orElse, Option.orElse_some, htime, readChar_of_ne hc]
  cases readOffset (c :: s) with
  | none => rfl
  | some offset => rfl

theorem year_of_read_isoOf {w : Wall} {s : Str} {t : OffsetDateTime}
    (h : readDateTime (isoOf w ++ s) = some t) : 1000 ≤ w.date.year ∧ w.date.year ≤ 9999 := by
  simp only [readDateTime, readDate, Option.bind_eq_bind, Option.bind_eq_some_iff] at h
  obtain ⟨_, ⟨⟨v, rest⟩, hyear, rest', hdash, -⟩, -⟩ := h
  cases rest with
  | nil => simp [readChar] at hdash
  | cons c rest =>
    by_cases hc : c = cp '-'
    . subst hc
      simp only [isoOf, List.append_assoc, List.cons_append] at hyear
      obtain ⟨hlow, hhigh, -⟩ := readField_toStr_eq_some hyear
      exact ⟨hlow, hhigh⟩
    . simp [readChar, hc] at hdash

theorem readOffset_offsetOf {offset o : Int} (h : readOffset (offsetOf offset) = some o)
    : o = offset := by
  unfold offsetOf at h
  dsimp only at h
  generalize hsign : (if offset ≥ 0 then cp '+' else cp '-') = sign at h
  have hz : ¬(sign = cp 'Z' ∨ sign = cp 'z') := by
    rw [← hsign]
    split
    . decide
    . decide
  have hpm : sign = cp '+' ∨ sign = cp '-' := by
    rw [← hsign]
    split
    . exact Or.inl rfl
    . exact Or.inr rfl
  have hneg : sign = cp '-' ↔ offset < 0 := by
    rw [← hsign]
    split
    . exact iff_of_false (by decide) (by omega)
    . exact iff_of_true rfl (by omega)
  simp only [List.cons_append, readOffset, hz, hpm, ↓reduceIte, Option.bind_eq_bind,
    Option.bind_eq_some_iff] at h
  obtain ⟨⟨hour, rest⟩, hhour, rest', hcolon, ⟨minute, last⟩, hminute, h⟩ := h
  dsimp only at hcolon h
  rw [readChar_eq_some hcolon] at hhour
  have hpad : hour = offset.natAbs / 60 ∧ rest' = pad (offset.natAbs % 60) := by
    by_cases hlt : offset.natAbs / 60 < 100
    . rw [readField_pad (by omega) (by omega)] at hhour
      simp only [Option.some.injEq, Prod.mk.injEq, List.cons.injEq, true_and] at hhour
      exact ⟨by omega, hhour.2.symm⟩
    . -- an hour field of three digits leaves a digit where the colon should be
      have hnat : ((offset.natAbs : Int) / 60).natAbs = offset.natAbs / 60 := by omega
      rw [pad, hnat, padStart_two_of_le (by omega)] at hhour
      obtain ⟨hlen, -, -⟩ := readField_decimal_eq_some digitValue_colon hhour
      have := (length_decimal_le_iff (n := offset.natAbs / 60) (k := 2) (by omega)).mp (by omega)
      omega
  obtain ⟨rfl, rfl⟩ := hpad
  have hminute' := readField_pad (n := offset.natAbs % 60) (by omega) (by omega) []
  rw [List.append_nil, hminute] at hminute'
  simp only [Option.some.injEq, Prod.mk.injEq] at hminute'
  split at h
  . simp only [Option.some.injEq] at h
    rw [← h]
    simp only [hneg]
    split
    . omega
    . omega
  . simp at h

theorem readDateTime_formatWithLocalOffset {z : Zone} {date : TimeValue} {t : OffsetDateTime}
    (h : readDateTime (formatWithLocalOffset z date) = some t)
    : t = ⟨utcWall date, 0, z.offset date⟩ := by
  simp only [formatWithLocalOffset, getTimezoneOffset, Int.neg_neg] at h
  split at h
  . next hzero =>
    obtain ⟨hl, hu⟩ := year_of_read_isoOf h
    rw [read_isoOf hl hu (by decide)] at h
    simp only [Option.map_eq_some_iff] at h
    obtain ⟨offset, hoffset, rfl⟩ := h
    have : offset = 0 := by
      have hz : readOffset [cp 'Z'] = some 0 := rfl
      simpa [hz] using hoffset.symm
    rw [this, hzero]
  . obtain ⟨hl, hu⟩ := year_of_read_isoOf h
    have hsign : ∃ sign rest, offsetOf (z.offset date) = sign :: rest ∧ sign ≠ cp '.' := by
      refine ⟨_, _, rfl, ?_⟩
      split
      . decide
      . decide
    obtain ⟨sign, rest, hcons, hne⟩ := hsign
    rw [hcons, read_isoOf hl hu hne, ← hcons] at h
    simp only [Option.map_eq_some_iff] at h
    obtain ⟨offset, hoffset, rfl⟩ := h
    rw [readOffset_offsetOf hoffset]

theorem ofRfc3339_formatWithLocalOffset {z : Zone} {date : TimeValue} (hzero : z.offset date = 0)
    (hl : 1000 ≤ (utcWall date).date.year) (hu : (utcWall date).date.year ≤ 9999)
    : ∃ value, DateTime.ofRfc3339 (formatWithLocalOffset z date) = some value
        ∧ value.instant = some (1000000 * (date / 1000)) := by
  have hread : readDateTime (formatWithLocalOffset z date) = some ⟨utcWall date, 0, 0⟩ := by
    simp only [formatWithLocalOffset, getTimezoneOffset, Int.neg_neg, hzero, ↓reduceIte]
    rw [read_isoOf hl hu (by decide)]
    rfl
  have hsome : (DateTime.mk? (utcWall date) 0 (some 0)).isSome := by
    rw [DateTime.mk?_isSome]
    refine ⟨⟨?_, ?_⟩, by decide, ?_⟩
    . simp only [MINYEAR]
      omega
    . simp only [MAXYEAR]
      omega
    . intro offset hoffset
      simp only [Option.mem_def, Option.some.injEq] at hoffset
      omega
  obtain ⟨value, hvalue⟩ := Option.isSome_iff_exists.mp hsome
  obtain ⟨hw, hm, ho⟩ := DateTime.mk?_eq_some hvalue
  refine ⟨value, ?_, ?_⟩
  . simp [DateTime.ofRfc3339, hread, hvalue]
  . simp [DateTime.instant, hw, hm, ho, utcWall]

/-- The text `s` is a date-time with offset, and denotes the instant of `date` to the second. -/
def DenotesInstant (s : Str) (date : TimeValue) : Prop :=
  ∃ value, DateTime.ofRfc3339 s = some value ∧ value.instant = some (1000000 * (date / 1000))

def KeepsInstant (payload : EventPayload) (date : TimeValue) : Prop :=
  ∃ event, Api.EventCreate.ofJson payload.title payload.type payload.plannedAt = some event
    ∧ event.instant = 1000000 * (date / 1000)

def KeepsWall (z : Zone) (payload : EventPayload) (w : Wall) : Prop :=
  ∃ event, Api.EventCreate.ofJson payload.title payload.type payload.plannedAt = some event
    ∧ localWall z (event.instant / 1000) = w

def FormYear (z : Zone) (date : TimeValue) : Prop :=
  1000 ≤ (localWall z date).date.year ∧ (localWall z date).date.year ≤ 9999

instance (z : Zone) (date : TimeValue) : Decidable (FormYear z date) :=
  inferInstanceAs (Decidable (_ ∧ _))

theorem localWall_of_offset_zero {z : Zone} {date : TimeValue} (hzero : z.offset date = 0)
    : localWall z date = utcWall date := by
  simp [localWall, utcWall, hzero]

theorem denotesInstant_iff {z : Zone} {date : TimeValue} (hyear : FormYear z date)
    : DenotesInstant (formatWithLocalOffset z date) date ↔ z.offset date = 0 := by
  unfold DenotesInstant
  constructor
  . rintro ⟨value, hvalue, hn⟩
    simp only [DateTime.ofRfc3339, Option.bind_eq_bind, Option.bind_eq_some_iff] at hvalue
    obtain ⟨t, ht, hmk⟩ := hvalue
    obtain ⟨hw, hm, ho⟩ := DateTime.mk?_eq_some hmk
    simp only [DateTime.instant, hw, hm, ho, readDateTime_formatWithLocalOffset ht, utcWall,
      Option.map_some, Wall.toSeconds_ofSeconds, Option.some.injEq] at hn
    omega
  . intro hzero
    rw [FormYear, localWall_of_offset_zero hzero] at hyear
    exact ofRfc3339_formatWithLocalOffset hzero hyear.1 hyear.2

theorem keepsInstant_iff {z : Zone} {title type : Str} {date : TimeValue} {payload : EventPayload}
    (hsubmit : handleSubmit z title type (some date) = .ok payload) (hyear : FormYear z date)
    : KeepsInstant payload date ↔ z.offset date = 0 := by
  obtain ⟨_, hdate, hplanned⟩ := handleSubmit_eq_ok hsubmit
  simp only [Option.some.injEq] at hdate
  subst hdate
  rw [← denotesInstant_iff hyear, KeepsInstant, Api.EventCreate.ofJson_eq_some_iff, hplanned]
  rfl

theorem combineDateAndTime_add_offset {z : Zone} {day date : TimeValue} {hhmm : Str} {w : Wall}
    (hpicked : pickedWall z day hhmm = some w) (hdate : combineDateAndTime z day hhmm = some date)
    (hyear : 100 ≤ w.date.year) (hshown : ∃ v, v + 60000 * z.offset v = 1000 * w.toSeconds)
    : date + 60000 * z.offset date = 1000 * w.toSeconds := by
  rw [combineDateAndTime_eq, hpicked] at hdate
  simp only [Option.map_some, Option.some.injEq] at hdate
  rw [← hdate]
  exact newDate_add_offset hyear (pickedWall_second hpicked) hshown

/--
A submitted event keeps its instant, and with it the wall clock that was picked, exactly when the
browser's offset is zero.
-/
theorem handleSubmit_keeps_iff (z : Zone) :
    (∀ date, FormYear z date →
      (DenotesInstant (formatWithLocalOffset z date) date ↔ z.offset date = 0))
      ∧
    (∀ title type date payload,
      handleSubmit z title type (some date) = .ok payload → FormYear z date →
        (KeepsInstant payload date ↔ z.offset date = 0))
      ∧
    (∀ title type day hhmm w date payload,
      pickedWall z day hhmm = some w → combineDateAndTime z day hhmm = some date →
        (∃ v, v + 60000 * z.offset v = 1000 * w.toSeconds) → 1000 ≤ w.date.year →
          w.date.year ≤ 9999 → handleSubmit z title type (some date) = .ok payload →
            (KeepsInstant payload date ∧ KeepsWall z payload w ↔ z.offset date = 0)) := by
  refine ⟨?_, ?_, ?_⟩
  . intro date hyear
    apply denotesInstant_iff
    assumption
  . intro title type date payload hsubmit hyear
    apply keepsInstant_iff
    all_goals assumption
  . intro title type day hhmm w date payload hpicked hdate hshown hl hu hsubmit
    have hlocal := combineDateAndTime_add_offset hpicked hdate (by omega) hshown
    have hwall := localWall_of_add_offset hlocal
    have hyear : FormYear z date := by
      rw [FormYear, hwall]
      exact ⟨hl, hu⟩
    rw [← keepsInstant_iff hsubmit hyear]
    constructor
    . apply And.left
    . intro hkeeps
      obtain ⟨event, hevent, hinstant⟩ := hkeeps
      refine ⟨⟨event, hevent, hinstant⟩, event, hevent, ?_⟩
      -- a combined date is a whole second, so the stored instant is the date itself
      have hdvd : (1000 : Int) ∣ date := by
        refine ⟨w.toSeconds - 60 * z.offset date, ?_⟩
        linarith
      have hwhole : event.instant / 1000 = date := by omega
      rw [hwhole, hwall]

def tehran : Zone :=
  .fixed 210

def tehranAfternoon : TimeValue :=
  1789911000000

theorem handleSubmit_tehran :
    handleSubmit tehran (ofString "Club") (ofString "book-club") (some tehranAfternoon)
        =
      .ok ⟨ofString "Club", ofString "book-club", ofString "2026-09-20T13:30:00+03:30"⟩ := rfl

theorem handleSubmit_keeps_tehran :
    FormYear tehran tehranAfternoon
      ∧ (KeepsInstant
          ⟨ofString "Club", ofString "book-club", ofString "2026-09-20T13:30:00+03:30"⟩
          tehranAfternoon ↔ tehran.offset tehranAfternoon = 0) := by
  have hyear : FormYear tehran tehranAfternoon := by decide
  exact ⟨hyear, (handleSubmit_keeps_iff tehran).2.1 _ _ _ _ handleSubmit_tehran hyear⟩

/-- The time posted from Tehran is three and a half hours early. -/
theorem handleSubmit_shifts_tehran :
    ∃ payload, handleSubmit tehran (ofString "Club") (ofString "book-club") (some tehranAfternoon)
        = .ok payload
      ∧ FormYear tehran tehranAfternoon
      ∧ ¬DenotesInstant (formatWithLocalOffset tehran tehranAfternoon) tehranAfternoon
      ∧ ¬KeepsInstant payload tehranAfternoon := by
  have hyear : FormYear tehran tehranAfternoon := by decide
  refine ⟨_, handleSubmit_tehran, hyear, ?_, ?_⟩
  . rw [denotesInstant_iff hyear]
    decide
  . rw [keepsInstant_iff handleSubmit_tehran hyear]
    decide

end Web
