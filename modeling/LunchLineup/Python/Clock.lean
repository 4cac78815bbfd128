import Mathlib.Tactic
import LunchLineup.Lib.Checked
import LunchLineup.Python.Value

/-!
# Instants, wall clocks and the Python runtime

An aware `datetime` is an instant: the number of microseconds since the UNIX
epoch.  A `datetime` read in a time zone is a wall clock reading, the number of
microseconds since midnight of 1970-01-01 on that clock.  Arithmetic on zoned
values is wall arithmetic, and comparisons inside one zone compare readings, so
both are plain integers here and the code says which of the two it works on.
Years are not bounded: a value that leaves the years 1 to 9999 raises in Python.

A `ZoneInfo` is its two conversions.  Arithmetic on a zoned value resets
`fold`, so `toUtc` is the conversion of a reading with `fold = 0`.

`Runtime` collects the library functions whose tables (Unicode, the ISO 8601
grammar, the time zone database, JSON) the models do not spell out.  All
results hold for any such functions.
-/

namespace LunchLineup.Python

open LunchLineup.Lib

/-! ## Durations and calendar dates -/

/-- `timedelta(minutes=1)` in microseconds. -/
def minute : Int := 60000000

/-- `timedelta(hours=1)` in microseconds. -/
def hour : Int := 3600000000

/-- `timedelta(days=1)` in microseconds. -/
def day : Int := 86400000000

/-- `reading.date()`, as the number of days since 1970-01-01. -/
def dateOf (reading : Int) : Int := reading / day

/-- `datetime.combine(date, time.min)`. -/
def midnight (date : Int) : Int := date * day

/-- `date.weekday()`: Monday is 0, and 1970-01-01 was a Thursday. -/
def weekday (date : Int) : Nat := ((date + 3) % 7).toNat

/-- `reading.hour * 60 + reading.minute`. -/
def minuteOfDay (reading : Int) : Int := reading % day / minute

/-- `timedelta(hours=hours)`, rounded to microseconds. -/
def timedeltaHours (hours : ℚ) : Int := roundHalfEven (hours * hour)

/-- `delta.total_seconds() / 3600`. -/
def totalHours (delta : Int) : ℚ := delta / hour

theorem dateOf_midnight (date : Int) : dateOf (midnight date) = date := by
  unfold dateOf midnight day
  omega

theorem midnight_dateOf_le (reading : Int) : midnight (dateOf reading) ≤ reading := by
  unfold dateOf midnight day
  omega

theorem lt_midnight_dateOf_succ (reading : Int) : reading < midnight (dateOf reading + 1) := by
  unfold dateOf midnight day
  omega

theorem weekday_lt (date : Int) : weekday date < 7 := by
  unfold weekday
  omega

/-! ## Time zones -/

/-- A time zone: the wall clock reading of an instant, and the instant of a
reading with `fold = 0`.  A UTC offset is strictly shorter than a day. -/
structure ZoneInfo where
  toLocal : Int → Int
  toUtc : Int → Int
  toLocal_bounded : ∀ instant, |toLocal instant - instant| < day
  toUtc_bounded : ∀ reading, |reading - toUtc reading| < day

namespace ZoneInfo

/-- A zone whose offset never changes. -/
def fixed (offset : Int) (hoffset : |offset| < day) : ZoneInfo where
  toLocal instant := instant + offset
  toUtc reading := reading - offset
  toLocal_bounded instant := by simpa using hoffset
  toUtc_bounded reading := by simpa using hoffset

/-- `ZoneInfo("UTC")`. -/
def utc : ZoneInfo := fixed 0 (by decide)

/-- A zone with one offset before the instant `change` and another from it on.
A reading with `fold = 0` uses the later offset from the end of the gap, or of
the repeated hour, on. -/
def transition (change before after : Int) (hbefore : |before| < day) (hafter : |after| < day) :
    ZoneInfo where
  toLocal instant := if instant < change then instant + before else instant + after
  toUtc reading := if reading < change + max before after then reading - before else reading - after
  toLocal_bounded instant := by
    split
    · simpa using hbefore
    · simpa using hafter
  toUtc_bounded reading := by
    split
    · simpa using hbefore
    · simpa using hafter

end ZoneInfo

/-! ## The runtime -/

/-- Functions of the Python library.  `fromisoformat` is the instant of
`datetime.fromisoformat`, with a naive result read as UTC; `isoformat` and
`isoformatMicroseconds` write an instant in UTC; `dateFromisoformat` and
`dateIsoformat` are those of `date`; `intOfText` and `floatOfText` are `int`
and `float` on a text, where `none` stands for `ValueError`, and
`conversionError` is the text of that error.  Lower case keeps a text that is
not empty from becoming so. -/
structure Runtime where
  lower : String → String
  lower_eq_empty : ∀ text, lower text = "" → text = ""
  upper : String → String
  isdigit : String → Bool
  intOfText : String → Option Int
  floatOfText : String → Option ℚ
  conversionError : PyValue → String
  fromisoformat : String → Option Int
  isoformat : Int → String
  isoformatMicroseconds : Int → String
  dateFromisoformat : String → Option Int
  dateIsoformat : Int → String
  dateYear : Int → Int
  zoneInfo : String → Option ZoneInfo
  formatG : ℚ → String
  dumps : PyValue → String
  loads : String → Option PyValue
  uuid5 : String → String

namespace Runtime

variable (rt : Runtime)

/-- `text[:-1] + "+00:00" if text.endswith("Z") else text`. -/
def replaceZulu (text : String) : String :=
  if text.toList.getLast? = some 'Z' then String.ofList text.toList.dropLast ++ "+00:00" else text

/-- The instant of an ISO text, as `parse_schedule_datetime` of the engine and
`parse_iso_datetime` of the worker read it. -/
def parseInstant (text : String) : Option Int :=
  if strip text = "" then none else rt.fromisoformat (replaceZulu (strip text))

/-- `"T" not in raw and " " not in raw`, negated. -/
def hasTime (text : String) : Bool :=
  (strip text).toList.any fun c => c = 'T' || c = ' '

end Runtime

/-! ## Conversions of values -/

/-- `int(value)`: `none` where Python raises `TypeError` or `ValueError`. -/
def toInt (rt : Runtime) : PyValue → Option Int
  | .bool value => some (if value then 1 else 0)
  | .int value => some value
  | .float value => some (truncate value)
  | .str value => rt.intOfText value
  | _ => none

/-- `float(value)`: `none` where Python raises `TypeError` or `ValueError`. -/
def toFloat (rt : Runtime) : PyValue → Option ℚ
  | .bool value => some (if value then 1 else 0)
  | .int value => some value
  | .float value => some value
  | .str value => rt.floatOfText value
  | _ => none

end LunchLineup.Python
