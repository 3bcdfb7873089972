import Ketabdaneh.Library.Calendar.Rfc3339
import Ketabdaneh.Library.Ecma.DateObject

namespace Web.WeekMath

open Calendar Ecma Rfc3339 Text

def DAY_MS : Int :=
  86400000

structure DateParts where
  year : Int
  month : Int
  day : Int
  deriving DecidableEq

def pad (n : Int) : Str :=
  padStart 2 (toStr n)

/-- What `/^(\d{4})-(\d{2})-(\d{2})$/` captures. -/
def parseIsoDate (iso : Str) : Option DateParts := do
  let (year, iso) ← readField 4 0 iso
  let iso ← readChar (cp '-') iso
  let (month, iso) ← readField 2 0 iso
  let iso ← readChar (cp '-') iso
  let (day, iso) ← readField 2 0 iso
  if iso = [] then some ⟨year, month, day⟩ else none

/-- `${year}-${pad(month)}-${pad(day)}` -/
def dateKey (parts : DateParts) : Str :=
  toStr parts.year ++ cp '-' :: (pad parts.month ++ cp '-' :: pad parts.day)

def todayIsoDate (clock : Clock) (now : TimeValue) : Str :=
  let day := (clock.wall now).date
  dateKey ⟨day.year, day.month, day.day⟩

def toUtcDate (parts : DateParts) : DateObject :=
  utc parts.year (parts.month - 1) parts.day

def partsOf (date : TimeValue) : DateParts where
  year := (utcWall date).date.year
  month := (utcWall date).date.month
  day := (utcWall date).date.day

def isoOf (date : DateObject) : Str :=
  match date with
  -- every field of an Invalid Date is NaN
  | none => ofString "NaN-NaN-NaN"
  | some date => dateKey (partsOf date)

def addDays (date : DateObject) (n : Int) : DateObject :=
  -- where the sum of the doubles is not exact it is out of range as well
  date.bind fun time => timeClip (time + n * DAY_MS)

def startOfWeek (date : DateObject) (weekStartDow : Int) : DateObject :=
  date.bind fun time =>
    let dow := getUTCDay time
    let diff := (dow - weekStartDow + 7).tmod 7
    addDays date (-diff)

/--
The first weekday of a locale; `firstDay` is what the runtime's `weekInfo` says, if it has any for the
locale and does not throw.
-/
def weekStartDowForLocale (firstDay : Str → Option Int) (locale : Str) : Int :=
  -- no character but those of ASCII becomes an ASCII letter of `fa`
  let fallback := if (ofString "fa").isPrefixOf (asciiLower locale) then 6 else 0
  match firstDay locale with
  | none => fallback
  | some day => if 1 ≤ day ∧ day ≤ 7 then day.tmod 7 else fallback

end Web.WeekMath
