import LunchLineup.Pagination.IsoInstant

/-!
# Dates as the services write and read them

The services keep a local date as a text: `YYYY-MM-DD` in a request, and
`${year}-${pad(month)}-${pad(day)}` where they write one, which pads no year.
`Date.UTC` takes the numbers back, but reads the years from 0 to 99 as those of
the twentieth century.

A date is its number of days since 1970-01-01.  `makeDay_civilFromDays` is
`Date.UTC` on the numbers of a date, `matchDate?_dateValue` the pattern
`^(\d{4})-(\d{2})-(\d{2})$` on a text written so.
-/

namespace LunchLineup.TimeZones

open LunchLineup.Python LunchLineup.Python.Reference LunchLineup.Pagination
open LunchLineup.Payroll (padded)

/-! ## `Date.UTC` -/

/-- Milliseconds of a day. -/
def dayMs : Int := 86400000

/-- `MakeDay` of the language, with months from one on: months and days beyond the end of their
year and month count on into the next. -/
def makeDay (year month dayOfMonth : Int) : Int :=
  daysFromCivil (year + (month - 1) / 12) ((month - 1) % 12 + 1) 1 + (dayOfMonth - 1)

/-- `MakeFullYear` of the language. -/
def makeFullYear (year : Int) : Int := if 0 ≤ year ∧ year ≤ 99 then 1900 + year else year

/-- `Date.UTC(year, month - 1, dayOfMonth, hour, minute, second)`. -/
def dateUTC (year month dayOfMonth hour minute second : Int) : Int :=
  makeDay (makeFullYear year) month dayOfMonth * dayMs + hour * 3600000 + minute * 60000 +
    second * 1000

theorem daysFromCivil_add_day (year month dayOfMonth : Int) :
    daysFromCivil year month 1 + (dayOfMonth - 1) = daysFromCivil year month dayOfMonth := by
  unfold daysFromCivil
  dsimp only
  omega

theorem makeDay_eq {year month dayOfMonth : Int} (hmonth : 1 ≤ month) (hle : month ≤ 12) :
    makeDay year month dayOfMonth = daysFromCivil year month dayOfMonth := by
  have hyear : year + (month - 1) / 12 = year := by omega
  have hsame : (month - 1) % 12 + 1 = month := by omega
  rw [makeDay, hyear, hsame, daysFromCivil_add_day]

/-- The numbers of a date give the date. -/
theorem makeDay_civilFromDays (date : Int) :
    makeDay (civilFromDays date).1 (civilFromDays date).2.1 (civilFromDays date).2.2 = date := by
  obtain ⟨hmonth, hle, -⟩ := civilFromDays_bounds date
  rw [makeDay_eq hmonth hle, daysFromCivil_civilFromDays]

theorem makeDay_add (year month dayOfMonth days : Int) :
    makeDay year month (dayOfMonth + days) = makeDay year month dayOfMonth + days := by
  unfold makeDay
  omega

theorem makeFullYear_of_le {year : Int} (h : 100 ≤ year) : makeFullYear year = year :=
  if_neg (by omega)

/-- A later year is later by more than its days. -/
theorem le_makeDay {year month dayOfMonth : Int} (hyear : 0 ≤ year) (hmonth : 1 ≤ month)
    (hle : month ≤ 12) (hday : 1 ≤ dayOfMonth) :
    365 * year - 719528 ≤ makeDay year month dayOfMonth := by
  rw [makeDay_eq hmonth hle]
  unfold daysFromCivil
  dsimp only
  split <;> omega

/-! ## Years -/

/-- The day number of 0100-01-01. -/
def year100 : Int := -683003

/-- The day number of 1000-01-01. -/
def year1000 : Int := -354285

/-- The day number of 10000-01-01. -/
def year10000 : Int := 2932897

/-- A date is in or after the year that its first day is not before. -/
theorem year_le_iff (date first year : Int) (hfirst : civilFromDays first = (year, 1, 1)) :
    year ≤ (civilFromDays date).1 ↔ first ≤ date := by
  obtain ⟨hmonth, -, hday, -⟩ := civilFromDays_bounds date
  constructor
  · intro h
    by_contra hlt
    have hcivil := civilFromDays_lt (not_le.mp hlt)
    rw [hfirst] at hcivil
    unfold civilLt at hcivil
    dsimp only at hcivil
    omega
  · intro h
    rcases h.lt_or_eq with hlt | rfl
    · have hcivil := civilFromDays_lt hlt
      rw [hfirst] at hcivil
      unfold civilLt at hcivil
      dsimp only at hcivil
      omega
    · rw [hfirst]

theorem hundred_le_iff {date : Int} : 100 ≤ (civilFromDays date).1 ↔ year100 ≤ date :=
  year_le_iff date year100 100 (by decide)

theorem fourDigits_iff {date : Int} :
    1000 ≤ (civilFromDays date).1 ∧ (civilFromDays date).1 ≤ 9999 ↔
      year1000 ≤ date ∧ date < year10000 := by
  have hlast := year_le_iff date year10000 10000 (by decide)
  rw [year_le_iff date year1000 1000 (by decide)]
  omega

/-! ## The texts -/

/-- `` `${year}-${pad(month)}-${pad(day)}` ``. -/
def dateValue (year month dayOfMonth : Int) : String :=
  toString year ++ "-" ++ padded 2 month ++ "-" ++ padded 2 dayOfMonth

/-- `date.toISOString().slice(0, 10)` of a date with a year of four digits: `YYYY-MM-DD`. -/
def isoDate (date : Int) : String :=
  padded 4 (civilFromDays date).1 ++ "-" ++ padded 2 (civilFromDays date).2.1 ++ "-" ++
    padded 2 (civilFromDays date).2.2

/-- The numbers that `/^(\d{4})-(\d{2})-(\d{2})$/` finds in a text. -/
def matchDate? (text : String) : Option (Int × Int × Int) := do
  let (year, rest) ← digits? 4 text.toList
  let rest ← expect? '-' rest
  let (month, rest) ← digits? 2 rest
  let rest ← expect? '-' rest
  let (dayOfMonth, rest) ← digits? 2 rest
  if rest = [] then some (year, month, dayOfMonth) else none

/-- `Number(text)` of decimal digits. -/
def number (digits : List Char) : Int := Nat.ofDigitChars 10 digits 0

/-- `dateValue.split('-').map(Number)`, where it gives three numbers. -/
def splitDate? (text : String) : Option (Int × Int × Int) :=
  match text.toList.splitOn '-' with
  | [year, month, dayOfMonth] =>
      if (year ++ month ++ dayOfMonth).all Char.isDigit = true then
        some (number year, number month, number dayOfMonth)
      else none
  | _ => none

/-- `addDateValues` of `location-timezone.ts`. -/
def addDateValues (text : String) (days : Int) : String :=
  match splitDate? text with
  | some (year, month, dayOfMonth) =>
      let date := civilFromDays (makeDay (makeFullYear year) month (dayOfMonth + days))
      dateValue date.1 date.2.1 date.2.2
  | none => "NaN-NaN-NaN"

theorem toList_toString {n : Int} (h : 0 ≤ n) : (toString n).toList = Nat.toDigits 10 n.natAbs := by
  obtain ⟨k, rfl⟩ := Int.eq_ofNat_of_zero_le h
  show (toString k).toList = Nat.toDigits 10 k
  rw [Nat.toString_eq_ofList_toDigits, String.toList_ofList]

theorem toList_dateValue {year : Int} (month dayOfMonth : Int) (h : 0 ≤ year) :
    (dateValue year month dayOfMonth).toList = Nat.toDigits 10 year.natAbs ++ '-' ::
      ((padded 2 month).toList ++ '-' :: (padded 2 dayOfMonth).toList) := by
  rw [dateValue, String.toList_append, String.toList_append, String.toList_append,
    String.toList_append, toList_toString h]
  simp

theorem toList_isoDate (date : Int) :
    (isoDate date).toList = (padded 4 (civilFromDays date).1).toList ++ '-' ::
      ((padded 2 (civilFromDays date).2.1).toList ++ '-' ::
        (padded 2 (civilFromDays date).2.2).toList) := by
  simp [isoDate]

theorem dash_notMem {digits : List Char} (h : ∀ c ∈ digits, c.isDigit) : '-' ∉ digits :=
  fun hdash => absurd (h _ hdash) (by decide)

/-- A year of four digits is read. -/
theorem digits?_four {year : Int} (h : 1000 ≤ year) (hle : year ≤ 9999) (rest : List Char) :
    digits? 4 (Nat.toDigits 10 year.natAbs ++ rest) = some (year, rest) := by
  have hdigits : ∀ c ∈ Nat.toDigits 10 year.natAbs, c.isDigit :=
    fun c hc => Nat.isDigit_of_mem_toDigits (by decide) (by decide) hc
  have hthree := Nat.length_toDigits_le_iff (b := 10) (n := year.natAbs) (k := 3) (by decide)
    (by decide)
  have hfour := Nat.length_toDigits_le_iff (b := 10) (n := year.natAbs) (k := 4) (by decide)
    (by decide)
  have hlength : (Nat.toDigits 10 year.natAbs).length = 4 := by omega
  have hyear : (year.natAbs : Int) = year := by omega
  rw [digits?, List.take_left' hlength, List.drop_left' hlength,
    if_pos ⟨hlength, List.all_eq_true.mpr hdigits⟩,
    Nat.ofDigitChars_toDigits (by decide) (by decide), hyear]

/-- After four digits of another year there is no dash. -/
theorem expect?_of_other {year : Int} (h : 0 ≤ year) (hother : ¬(1000 ≤ year ∧ year ≤ 9999))
    {rest : List Char} {found : Int × List Char}
    (hfound : digits? 4 (Nat.toDigits 10 year.natAbs ++ '-' :: rest) = some found) :
    expect? '-' found.2 = none := by
  have hdigits : ∀ c ∈ Nat.toDigits 10 year.natAbs, c.isDigit :=
    fun c hc => Nat.isDigit_of_mem_toDigits (by decide) (by decide) hc
  have hthree := Nat.length_toDigits_le_iff (b := 10) (n := year.natAbs) (k := 3) (by decide)
    (by decide)
  have hfour := Nat.length_toDigits_le_iff (b := 10) (n := year.natAbs) (k := 4) (by decide)
    (by decide)
  generalize Nat.toDigits 10 year.natAbs = digits at *
  unfold digits? at hfound
  split_ifs at hfound with hfour
  rcases lt_or_ge 4 digits.length with hlong | hshort
  · -- a digit follows the first four
    have hdrop : (digits ++ '-' :: rest).drop 4 = digits[4] :: (digits.drop 5 ++ '-' :: rest) := by
      rw [List.drop_append_of_le_length hlong.le, List.drop_eq_getElem_cons hlong, List.cons_append]
    have hne : digits[4] ≠ '-' :=
      fun heq => dash_notMem hdigits (heq ▸ List.getElem_mem hlong)
    rw [← Option.some.inj hfound, hdrop]
    simp [expect?, hne]
  · -- the dash is among the first four characters
    have hdash : '-' ∈ (digits ++ '-' :: rest).take 4 := by
      have : 4 - digits.length = 3 - digits.length + 1 := by omega
      rw [List.take_append, List.mem_append, this, List.take_succ_cons]
      exact .inr List.mem_cons_self
    exact absurd (List.all_eq_true.mp hfour.2 _ hdash) (by decide)

/-- The month and the day are read back. -/
theorem digits?_middle {n : Int} (h : 1 ≤ n) (hle : n ≤ 31) (rest : List Char) :
    digits? 2 ((padded 2 n).toList ++ rest) = some (n, rest) := by
  have hlt : n.natAbs < 10 ^ 2 := by omega
  have hn : (n.natAbs : Int) = n := by omega
  rw [digits?_padded (show 0 < 2 by decide) hlt, hn]

theorem digits?_last {n : Int} (h : 1 ≤ n) (hle : n ≤ 31) :
    digits? 2 (padded 2 n).toList = some (n, []) := by
  have hread := digits?_middle h hle []
  rw [List.append_nil] at hread
  exact hread

/-- A text with another year is not matched. -/
theorem matchDate?_other {year : Int} (month dayOfMonth : Int) (h : 0 ≤ year)
    (hother : ¬(1000 ≤ year ∧ year ≤ 9999)) :
    matchDate? (dateValue year month dayOfMonth) = none := by
  rw [matchDate?, toList_dateValue _ _ h]
  cases hfound : digits? 4 (Nat.toDigits 10 year.natAbs ++ '-' ::
      ((padded 2 month).toList ++ '-' :: (padded 2 dayOfMonth).toList)) with
  | none => rfl
  | some found =>
      simp only [Option.bind_eq_bind, Option.bind_some, expect?_of_other h hother hfound,
        Option.bind_none]

section

variable {year month dayOfMonth : Int} (hmonth : 1 ≤ month ∧ month ≤ 12)
  (hday : 1 ≤ dayOfMonth ∧ dayOfMonth ≤ 31)

include hmonth hday

/-- A text with a year of four digits is matched. -/
theorem matchDate?_four (h : 1000 ≤ year) (hle : year ≤ 9999) :
    matchDate? (dateValue year month dayOfMonth) = some (year, month, dayOfMonth) := by
  rw [matchDate?, toList_dateValue _ _ (by omega)]
  simp only [digits?_four h hle, Option.bind_eq_bind, Option.bind_some, expect?, if_true,
    digits?_middle hmonth.1 (show month ≤ 31 by omega), digits?_last hday.1 hday.2]

theorem splitDate?_dateValue (h : 0 ≤ year) :
    splitDate? (dateValue year month dayOfMonth) = some (year, month, dayOfMonth) := by
  have hyear : ∀ c ∈ Nat.toDigits 10 year.natAbs, c.isDigit :=
    fun c hc => Nat.isDigit_of_mem_toDigits (by decide) (by decide) hc
  have hsplit : (Nat.toDigits 10 year.natAbs ++ '-' ::
      ((padded 2 month).toList ++ '-' :: (padded 2 dayOfMonth).toList)).splitOn '-' =
        [Nat.toDigits 10 year.natAbs, (padded 2 month).toList, (padded 2 dayOfMonth).toList] := by
    have hnodash : ∀ l ∈ [Nat.toDigits 10 year.natAbs, (padded 2 month).toList,
        (padded 2 dayOfMonth).toList], '-' ∉ l := by
      rw [List.forall_mem_cons, List.forall_mem_cons, List.forall_mem_cons]
      exact ⟨dash_notMem hyear, dash_notMem isDigit_of_mem_padded,
        dash_notMem isDigit_of_mem_padded, List.forall_mem_nil _⟩
    have hinverse := List.splitOn_intercalate '-' hnodash (List.cons_ne_nil _ _)
    rw [List.intercalate_cons_cons, List.intercalate_cons_cons, List.intercalate_singleton,
      List.append_assoc, List.append_assoc, List.singleton_append, List.singleton_append] at hinverse
    exact hinverse
  have hall : (Nat.toDigits 10 year.natAbs ++ (padded 2 month).toList ++
      (padded 2 dayOfMonth).toList).all Char.isDigit = true := by
    rw [List.all_append, List.all_append, List.all_eq_true.mpr hyear,
      List.all_eq_true.mpr isDigit_of_mem_padded, List.all_eq_true.mpr isDigit_of_mem_padded]
    rfl
  have hyearAbs : (year.natAbs : Int) = year := by omega
  have hmonthAbs : (month.natAbs : Int) = month := by omega
  have hdayAbs : (dayOfMonth.natAbs : Int) = dayOfMonth := by omega
  rw [splitDate?, toList_dateValue _ _ h, hsplit]
  dsimp only
  rw [if_pos hall, number, number, number, ofDigitChars_padded, ofDigitChars_padded,
    Nat.ofDigitChars_toDigits (by decide) (by decide), hyearAbs, hmonthAbs, hdayAbs]

/-- Days added to a text. -/
theorem addDateValues_dateValue (h : 0 ≤ year) (days : Int) :
    addDateValues (dateValue year month dayOfMonth) days =
      dateValue (civilFromDays (makeDay (makeFullYear year) month dayOfMonth + days)).1
        (civilFromDays (makeDay (makeFullYear year) month dayOfMonth + days)).2.1
        (civilFromDays (makeDay (makeFullYear year) month dayOfMonth + days)).2.2 := by
  rw [addDateValues, splitDate?_dateValue hmonth hday h]
  dsimp only
  rw [makeDay_add]

end

/-! ## The texts of dates -/

/-- The days from 0000-01-01 to 9999-12-31. -/
def CalendarDate (date : Int) : Prop := -719528 ≤ date ∧ date < year10000

instance (date : Int) : Decidable (CalendarDate date) := inferInstanceAs (Decidable (_ ∧ _))

/-- A year of four digits needs no padding. -/
theorem dateValue_eq_isoDate {date : Int} (h : year1000 ≤ date) (hlt : date < year10000) :
    dateValue (civilFromDays date).1 (civilFromDays date).2.1 (civilFromDays date).2.2 =
      isoDate date := by
  have hyear := fourDigits_iff.mpr ⟨h, hlt⟩
  have hthree := Nat.length_toDigits_le_iff (b := 10) (n := (civilFromDays date).1.natAbs) (k := 3)
    (by decide) (by decide)
  apply String.toList_injective
  rw [toList_dateValue _ _ (by omega), toList_isoDate, toList_padded 4]
  have hnone : 4 - (Nat.toDigits 10 (civilFromDays date).1.natAbs).length = 0 := by omega
  rw [hnone]
  rfl

/-- The text of a date is read back. -/
theorem matchDate?_isoDate {date : Int} (h : CalendarDate date) :
    matchDate? (isoDate date) = some (civilFromDays date) := by
  obtain ⟨hfirst, hlast⟩ := h
  obtain ⟨hmonth, hmonthLe, hday, hdayLe⟩ := civilFromDays_bounds date
  have hyear := (year_le_iff date (-719528) 0 (by decide)).mpr hfirst
  have hyearLe := year_le_iff date year10000 10000 (by decide)
  have hlt : (civilFromDays date).1.natAbs < 10 ^ 4 := by omega
  have hyearAbs : ((civilFromDays date).1.natAbs : Int) = (civilFromDays date).1 := by omega
  rw [matchDate?, toList_isoDate]
  simp only [digits?_padded (show 0 < 4 by decide) hlt, Option.bind_eq_bind, Option.bind_some,
    expect?, if_true, digits?_middle hmonth (show (civilFromDays date).2.1 ≤ 31 by omega),
    digits?_last hday hdayLe, hyearAbs]

end LunchLineup.TimeZones
