import Ketabdaneh.Web.Datetime.MonthGrid

namespace Web

open Calendar Ecma Text

def pad (n : Int) : Str :=
  padStart 2 (decimal n.natAbs)

def isoOf (w : Wall) : Str :=
  toStr w.date.year ++ cp '-' :: pad w.date.month ++ cp '-' :: pad w.date.day
    ++ cp 'T' :: pad w.hour ++ cp ':' :: pad w.minute ++ cp ':' :: pad w.second

def offsetOf (offsetMinutes : Int) : Str :=
  let sign := if offsetMinutes ≥ 0 then cp '+' else cp '-'
  sign :: pad (offsetMinutes.natAbs / 60) ++ cp ':' :: pad (offsetMinutes.natAbs % 60)

def formatWithLocalOffset (z : Zone) (date : TimeValue) : Str :=
  let offsetMinutes := -getTimezoneOffset z date
  -- the fields are the UTC ones, whatever the offset
  let iso := isoOf (utcWall date)
  if offsetMinutes = 0 then iso ++ [cp 'Z'] else iso ++ offsetOf offsetMinutes

structure EventPayload where
  title : Str
  type : Str
  plannedAt : Str

structure FieldErrors where
  title : Option String := none
  type : Option String := none
  plannedAt : Option String := none
  deriving DecidableEq

def fieldErrors (title type : Str) (plannedAt : Option TimeValue) : FieldErrors where
  title := if trim title = [] then some "validation.titleRequired" else none
  type := if trim type = [] then some "validation.typeRequired" else none
  plannedAt := if plannedAt = none then some "validation.plannedAtRequired" else none

def handleSubmit (z : Zone) (title type : Str) (plannedAt : Option TimeValue)
    : Except FieldErrors EventPayload :=
  let errors := fieldErrors title type plannedAt
  if errors ≠ {} then
    .error errors
  else
    match plannedAt with
    | none => .error errors
    | some date => .ok ⟨trim title, trim type, formatWithLocalOffset z date⟩

theorem handleSubmit_eq_ok {z : Zone} {title type : Str} {plannedAt : Option TimeValue}
    {payload : EventPayload} (h : handleSubmit z title type plannedAt = .ok payload)
    : ∃ date, plannedAt = some date ∧ payload.plannedAt = formatWithLocalOffset z date := by
  unfold handleSubmit at h
  dsimp at h
  split at h
  . simp at h
  . cases plannedAt with
    | none => simp at h
    | some date =>
      simp only [Except.ok.injEq] at h
      exact ⟨date, rfl, by rw [← h]⟩

end Web
