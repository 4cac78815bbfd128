import LunchLineup.Python.Clock

/-!
# A reference runtime

One `Runtime` that computes, for the concrete inputs of counterexamples and
witnesses: ASCII letters, the ISO 8601 forms `YYYY-MM-DD` and
`YYYY-MM-DDTHH:MM:SS+HH:MM`, compact JSON without floats, and the zones `UTC`,
`America/Los_Angeles` around its change of November 2026 and `Pacific/Apia`
around the day it skipped.  On the texts it accepts it agrees with Python.
-/

namespace LunchLineup.Python

open LunchLineup.Lib

namespace Reference

/-! ## The civil calendar -/

/-- The number of days from 1970-01-01 to a date of the Gregorian calendar,
with years that start in March. -/
def daysFromCivil (year month dayOfMonth : Int) : Int :=
  let y := if month ≤ 2 then year - 1 else year
  let yearOfEra := y % 400
  let dayOfYear := (153 * ((month + 9) % 12) + 2) / 5 + dayOfMonth - 1
  y / 400 * 146097 + (yearOfEra * 365 + yearOfEra / 4 - yearOfEra / 100 + dayOfYear) - 719468

/-- The year, month and day of a number of days since 1970-01-01. -/
def civilFromDays (date : Int) : Int × Int × Int :=
  let z := date + 719468
  let dayOfEra := z % 146097
  let yearOfEra :=
    (dayOfEra - dayOfEra / 1460 + dayOfEra / 36524 - dayOfEra / 146096) / 365
  let dayOfYear := dayOfEra - (365 * yearOfEra + yearOfEra / 4 - yearOfEra / 100)
  let shifted := (5 * dayOfYear + 2) / 153
  let month := if shifted < 10 then shifted + 3 else shifted - 9
  let year := yearOfEra + z / 146097 * 400
  (if month ≤ 2 then year + 1 else year, month, dayOfYear - (153 * shifted + 2) / 5 + 1)

/-! ## Texts -/

/-- The value of a nonempty list of decimal digits. -/
def number? (chars : List Char) : Option Int :=
  if chars ≠ [] ∧ chars.all Char.isDigit then
    some (chars.foldl (fun value c => 10 * value + (c.toNat - '0'.toNat : Nat)) 0)
  else none

/-- A number written with leading zeros. -/
def pad (width : Nat) (value : Int) : String :=
  let digits := (toString value.toNat).toList
  String.ofList (List.replicate (width - digits.length) '0' ++ digits)

/-- The date with the given digits, if the calendar has it. -/
def date? (year month dayOfMonth : List Char) : Option Int := do
  let y ← number? year
  let m ← number? month
  let d ← number? dayOfMonth
  let date := daysFromCivil y m d
  if civilFromDays date = (y, m, d) then some date else none

/-- `YYYY-MM-DD` or `YYYYMMDD`. -/
def isoDate? (chars : List Char) : Option Int :=
  match chars with
  | [y₁, y₂, y₃, y₄, '-', m₁, m₂, '-', d₁, d₂] => date? [y₁, y₂, y₃, y₄] [m₁, m₂] [d₁, d₂]
  | [y₁, y₂, y₃, y₄, m₁, m₂, d₁, d₂] => date? [y₁, y₂, y₃, y₄] [m₁, m₂] [d₁, d₂]
  | _ => none

/-- `HH:MM`, in minutes. -/
def clock? (chars : List Char) : Option Int :=
  match chars with
  | [h₁, h₂, ':', m₁, m₂] => do
      let h ← number? [h₁, h₂]
      let m ← number? [m₁, m₂]
      if h < 24 ∧ m < 60 then some (h * 60 + m) else none
  | _ => none

/-- The offset of a text: none, `+HH:MM` or `-HH:MM`, in minutes. -/
def offset? (chars : List Char) : Option Int :=
  match chars with
  | [] => some 0
  | '+' :: rest => clock? rest
  | '-' :: rest => (clock? rest).map fun minutes => -minutes
  | _ => none

/-- The instant of `YYYY-MM-DD`, `YYYY-MM-DDTHH:MM` or `YYYY-MM-DDTHH:MM:SS`,
the last two with an optional offset. -/
def isoInstant? (chars : List Char) : Option Int :=
  match chars.drop 10 with
  | [] => (isoDate? chars).map midnight
  | _ :: time => do
      let date ← isoDate? (chars.take 10)
      let minutes ← clock? (time.take 5)
      match time.drop 5 with
      | ':' :: s₁ :: s₂ :: rest => do
          let s ← number? [s₁, s₂]
          let offset ← offset? rest
          if s < 60 then some (midnight date + (minutes - offset) * minute + s * 1000000) else none
      | rest => do
          let offset ← offset? rest
          some (midnight date + (minutes - offset) * minute)

/-- `date.isoformat()`. -/
def isoformat (date : Int) : String :=
  let (y, m, d) := civilFromDays date
  pad 4 y ++ "-" ++ pad 2 m ++ "-" ++ pad 2 d

/-- `datetime.isoformat()` of an instant in UTC with whole seconds. -/
def instantIsoformat (instant : Int) : String :=
  let seconds := instant % day / 1000000
  isoformat (dateOf instant) ++ "T" ++ pad 2 (seconds / 3600) ++ ":" ++
    pad 2 (seconds / 60 % 60) ++ ":" ++ pad 2 (seconds % 60) ++ "+00:00"

/-! ## Zones -/

/-- `America/Los_Angeles` around 2026-11-01, when 02:00 became 01:00. -/
def losAngeles : ZoneInfo :=
  .transition 1793523600000000 (-7 * hour) (-8 * hour) (by decide) (by decide)

/-- `Pacific/Apia` around 2011-12-30, the day it skipped. -/
def apia : ZoneInfo :=
  .transition 1325239200000000 (-10 * hour) (14 * hour) (by decide) (by decide)

def zone? (key : String) : Option ZoneInfo :=
  if key = "UTC" then some .utc
  else if key = "America/Los_Angeles" then some losAngeles
  else if key = "Pacific/Apia" then some apia
  else none

/-! ## JSON -/

/-- A JSON text; the texts of the examples need no escapes. -/
def quote (text : String) : String := "\"" ++ text ++ "\""

mutual

/-- `json.dumps(value, separators=(",", ":"))`. -/
def dumps : PyValue → String
  | .none => "null"
  | .bool value => if value then "true" else "false"
  | .int value => toString value
  | .float value => toString value.num
  | .str value => quote value
  | .list items => "[" ++ dumpsItems items ++ "]"
  | .dict entries => "\x7b" ++ dumpsEntries entries ++ "\x7d"

def dumpsItems : List PyValue → String
  | [] => ""
  | [item] => dumps item
  | item :: rest => dumps item ++ "," ++ dumpsItems rest

def dumpsEntries : List (String × PyValue) → String
  | [] => ""
  | [(key, value)] => quote key ++ ":" ++ dumps value
  | (key, value) :: rest => quote key ++ ":" ++ dumps value ++ "," ++ dumpsEntries rest

end

mutual

/-- The length of a JSON text, without writing it. -/
def dumpsLength : PyValue → Nat
  | .list items => dumpsItemsLength items + 2
  | .dict entries => dumpsEntriesLength entries + 2
  | .str value => value.length + 2
  | value => (dumps value).length

def dumpsItemsLength : List PyValue → Nat
  | [] => 0
  | [item] => dumpsLength item
  | item :: rest => dumpsLength item + 1 + dumpsItemsLength rest

def dumpsEntriesLength : List (String × PyValue) → Nat
  | [] => 0
  | [(key, value)] => key.length + 3 + dumpsLength value
  | (key, value) :: rest => key.length + 3 + dumpsLength value + 1 + dumpsEntriesLength rest

end

theorem length_quote (text : String) : (quote text).length = text.length + 2 := by
  simp only [quote, String.length_append]
  show 1 + text.length + 1 = text.length + 2
  omega

mutual

theorem length_dumps (value : PyValue) : (dumps value).length = dumpsLength value := by
  cases value with
  | list items =>
      have hitems := length_dumpsItems items
      simp only [dumps, dumpsLength, String.length_append, hitems]
      show 1 + dumpsItemsLength items + 1 = dumpsItemsLength items + 2
      omega
  | dict entries =>
      have hentries := length_dumpsEntries entries
      simp only [dumps, dumpsLength, String.length_append, hentries]
      show 1 + dumpsEntriesLength entries + 1 = dumpsEntriesLength entries + 2
      omega
  | str value => rw [dumps, dumpsLength, length_quote]
  | none => rfl
  | bool value => rfl
  | int value => rfl
  | float value => rfl

theorem length_dumpsItems (items : List PyValue) :
    (dumpsItems items).length = dumpsItemsLength items := by
  match items with
  | [] => rfl
  | [item] => rw [dumpsItems, dumpsItemsLength, length_dumps item]
  | item :: next :: rest =>
      have hitem := length_dumps item
      have hrest := length_dumpsItems (next :: rest)
      rw [dumpsItems, dumpsItemsLength, String.length_append, String.length_append, hitem, hrest]
      · rfl
      · simp
      · simp

theorem length_dumpsEntries (entries : List (String × PyValue)) :
    (dumpsEntries entries).length = dumpsEntriesLength entries := by
  match entries with
  | [] => rfl
  | [(key, value)] =>
      have hvalue := length_dumps value
      rw [dumpsEntries, dumpsEntriesLength, String.length_append, String.length_append,
        length_quote, hvalue]
      show key.length + 2 + 1 + dumpsLength value = _
      omega
  | (key, value) :: next :: rest =>
      have hvalue := length_dumps value
      have hrest := length_dumpsEntries (next :: rest)
      rw [dumpsEntries, dumpsEntriesLength, String.length_append, String.length_append,
        String.length_append, String.length_append, length_quote, hvalue, hrest]
      · show key.length + 2 + 1 + dumpsLength value + 1 + _ = _
        omega
      · simp
      · simp

end

end Reference

open Reference in
/-- The reference runtime, with the given JSON reader. -/
def Runtime.reference (loads : String → Option PyValue) : Runtime where
  lower text := String.ofList (text.toList.map Char.toLower)
  lower_eq_empty text h := by
    have hchars := congrArg String.toList h
    simpa using hchars
  upper text := String.ofList (text.toList.map Char.toUpper)
  isdigit text := text ≠ "" && text.toList.all Char.isDigit
  intOfText text := number? (strip text).toList
  floatOfText text := (number? (strip text).toList).map fun value => (value : ℚ)
  conversionError _ := "could not convert"
  fromisoformat text := isoInstant? text.toList
  isoformat := instantIsoformat
  isoformatMicroseconds instant := toString instant
  dateFromisoformat text := isoDate? text.toList
  dateIsoformat := Reference.isoformat
  dateYear date := (civilFromDays date).1
  zoneInfo := zone?
  formatG value := toString value.num
  dumps := Reference.dumps
  loads := loads
  uuid5 name := name

end LunchLineup.Python
