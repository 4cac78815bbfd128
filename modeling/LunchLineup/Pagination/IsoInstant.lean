import LunchLineup.Python.IsoText
import LunchLineup.Payroll.ExportTables

/-!
# Instants read back from their texts

`new Date(text)` on the texts that `toISOString` writes and the stored-instant
patterns admit: a year of four digits, or a sign and six, and one to three digits
of a second.  A date has one year, month and day (`daysFromCivil_civilFromDays`)
and the text of a time value is read back as that value
(`newDate_toISOString`).
-/

namespace LunchLineup.Pagination

open LunchLineup.Python LunchLineup.Python.Reference
open LunchLineup.Payroll (toISOString padded civilDate)

/-! ## The reader -/

/-- The value of exactly `width` decimal digits, and the text after them. -/
def digits? (width : Nat) (text : List Char) : Option (Int × List Char) :=
  if (text.take width).length = width ∧ (text.take width).all Char.isDigit = true then
    some (Nat.ofDigitChars 10 (text.take width) 0, text.drop width)
  else none

/-- The text after a fixed character. -/
def expect? (c : Char) : List Char → Option (List Char)
  | [] => none
  | d :: rest => if d = c then some rest else none

/-- A year of four digits, or of six after a sign; there is no year `-000000`. -/
def year? : List Char → Option (Int × List Char)
  | '+' :: rest => digits? 6 rest
  | '-' :: rest =>
      match digits? 6 rest with
      | some (year, rest) => if year = 0 then none else some (-year, rest)
      | none => none
  | rest => digits? 4 rest

/-- The milliseconds, with one digit, two or three. -/
def fraction? : List Char → Option (Int × List Char)
  | '.' :: rest =>
      let digits := rest.takeWhile Char.isDigit
      let value : Int := Nat.ofDigitChars 10 digits 0
      if digits.length = 1 then some (value * 100, rest.drop 1)
      else if digits.length = 2 then some (value * 10, rest.drop 2)
      else if digits.length = 3 then some (value, rest.drop 3)
      else none
  | rest => some (0, rest)

/-- `TimeClip`: the time values a `Date` has. -/
def ValidTime (instant : Int) : Prop := -8640000000000000 ≤ instant ∧ instant ≤ 8640000000000000

instance (instant : Int) : Decidable (ValidTime instant) := inferInstanceAs (Decidable (_ ∧ _))

/-- The fields are those of a clock and a calendar.  A day beyond the end of its month counts
on into the next one. -/
def FieldsInRange (month day hour minute second ms : Int) : Prop :=
  1 ≤ month ∧ month ≤ 12 ∧ 1 ≤ day ∧ day ≤ 31 ∧ minute ≤ 59 ∧ second ≤ 59 ∧
    (hour ≤ 23 ∨ hour = 24 ∧ minute = 0 ∧ second = 0 ∧ ms = 0)

instance (month day hour minute second ms : Int) :
    Decidable (FieldsInRange month day hour minute second ms) := inferInstanceAs (Decidable (_ ∧ _))

/-- `new Date(text).getTime()` of a text in the ISO format, `none` for an invalid date. -/
def newDate (text : List Char) : Option Int := do
  let (year, rest) ← year? text
  let rest ← expect? '-' rest
  let (month, rest) ← digits? 2 rest
  let rest ← expect? '-' rest
  let (dayOfMonth, rest) ← digits? 2 rest
  let rest ← expect? 'T' rest
  let (hour, rest) ← digits? 2 rest
  let rest ← expect? ':' rest
  let (minute, rest) ← digits? 2 rest
  let rest ← expect? ':' rest
  let (second, rest) ← digits? 2 rest
  let (ms, rest) ← fraction? rest
  let rest ← expect? 'Z' rest
  let instant := daysFromCivil year month dayOfMonth * 86400000 + hour * 3600000 +
    minute * 60000 + second * 1000 + ms
  if rest = [] ∧ FieldsInRange month dayOfMonth hour minute second ms ∧ ValidTime instant then
    return instant
  else none

/-! ## Dates -/

theorem civilDate_eq (date : Int) : civilDate date = civilFromDays date := by
  have hyear : ∀ year month : Int,
      (year + if month ≤ 2 then 1 else 0) = if month ≤ 2 then year + 1 else year := by
    intro year month
    split_ifs <;> simp
  unfold civilDate civilFromDays
  dsimp only
  rw [hyear]

/-- A day of a year that starts in March is found again from its month and day. -/
theorem daysFromCivil_civilOf {year days : Int} (h : 0 ≤ days) (hle : days ≤ 365) :
    daysFromCivil (civilOf year days).1 (civilOf year days).2.1 (civilOf year days).2.2 =
      year / 400 * 146097 + (year % 400 * 365 + year % 400 / 4 - year % 400 / 100 + days) -
        719468 := by
  have hyear : (if (civilOf year days).2.1 ≤ 2 then (civilOf year days).1 - 1
      else (civilOf year days).1) = year := by
    unfold civilOf
    dsimp only
    split <;> split <;> omega
  have hmonth : (153 * (((civilOf year days).2.1 + 9) % 12) + 2) / 5 + (civilOf year days).2.2 - 1 =
      days := by
    unfold civilOf
    dsimp only
    split <;> omega
  unfold daysFromCivil
  dsimp only
  rw [hyear, hmonth]

/-- A date is found again from its year, month and day. -/
theorem daysFromCivil_civilFromDays (date : Int) :
    daysFromCivil (civilFromDays date).1 (civilFromDays date).2.1 (civilFromDays date).2.2 =
      date := by
  rw [civilFromDays_eq]
  obtain ⟨hdays, hdaysLe⟩ := dayOfYear_bounds (d := (date + 719468) % 146097) (by omega) (by omega)
  obtain ⟨hyear, hyearLe⟩ := yearOfEra_bounds (d := (date + 719468) % 146097) (by omega) (by omega)
  rw [daysFromCivil_civilOf hdays hdaysLe]
  unfold dayOfYear
  generalize yearOfEra ((date + 719468) % 146097) = yearInEra at *
  have hera : (yearInEra + (date + 719468) / 146097 * 400) / 400 = (date + 719468) / 146097 := by
    omega
  have hrest : (yearInEra + (date + 719468) / 146097 * 400) % 400 = yearInEra := by omega
  rw [hera, hrest]
  omega

/-- The years of the time values have six digits. -/
theorem civilFromDays_year_lt {date : Int} (h : -100000000 ≤ date) (hle : date ≤ 100000000) :
    -10 ^ 6 < (civilFromDays date).1 ∧ (civilFromDays date).1 < 10 ^ 6 := by
  rw [civilFromDays_eq]
  obtain ⟨hyear, hyearLe⟩ := yearOfEra_bounds (d := (date + 719468) % 146097) (by omega) (by omega)
  generalize yearOfEra ((date + 719468) % 146097) = yearInEra at *
  unfold civilOf
  dsimp only
  generalize dayOfYear ((date + 719468) % 146097) = days
  split <;> omega

/-! ## Fields -/

theorem toList_padded (width : Nat) (n : Int) :
    (padded width n).toList =
      List.replicate (width - (Nat.toDigits 10 n.natAbs).length) '0' ++ Nat.toDigits 10 n.natAbs := by
  have hlength : (toString n.natAbs).length = (Nat.toDigits 10 n.natAbs).length := by
    rw [← String.length_toList, Nat.toString_eq_ofList_toDigits, String.toList_ofList]
  rw [padded, String.toList_append, String.toList_ofList, hlength, Nat.toString_eq_ofList_toDigits,
    String.toList_ofList]

theorem isDigit_of_mem_padded {width : Nat} {n : Int} :
    ∀ c ∈ (padded width n).toList, c.isDigit := by
  intro c hc
  rw [toList_padded, List.mem_append] at hc
  rcases hc with hc | hc
  · rw [List.eq_of_mem_replicate hc]
    decide
  · exact Nat.isDigit_of_mem_toDigits (by decide) (by decide) hc

theorem length_padded {width : Nat} {n : Int} (hwidth : 0 < width) (h : n.natAbs < 10 ^ width) :
    (padded width n).toList.length = width := by
  have hle : (Nat.toDigits 10 n.natAbs).length ≤ width :=
    (Nat.length_toDigits_le_iff (by decide) hwidth).mpr h
  rw [toList_padded, List.length_append, List.length_replicate]
  omega

theorem ofDigitChars_padded (width : Nat) (n : Int) :
    Nat.ofDigitChars 10 (padded width n).toList 0 = n.natAbs := by
  rw [toList_padded, Nat.ofDigitChars_append, Nat.ofDigitChars_replicate_zero, Nat.mul_zero,
    Nat.ofDigitChars_toDigits (by decide) (by decide)]

/-- A field is read back. -/
theorem digits?_padded {width : Nat} {n : Int} (hwidth : 0 < width) (h : n.natAbs < 10 ^ width)
    (rest : List Char) :
    digits? width ((padded width n).toList ++ rest) = some ((n.natAbs : Int), rest) := by
  have hlength := length_padded hwidth h
  have htake : ((padded width n).toList ++ rest).take width = (padded width n).toList :=
    List.take_left' hlength
  have hdrop : ((padded width n).toList ++ rest).drop width = rest := List.drop_left' hlength
  have hdigits : (padded width n).toList.all Char.isDigit = true :=
    List.all_eq_true.mpr isDigit_of_mem_padded
  rw [digits?, htake, hdrop, if_pos ⟨hlength, hdigits⟩, ofDigitChars_padded]

/-- The text of the year. -/
def yearChars (year : Int) : List Char :=
  if 0 ≤ year ∧ year ≤ 9999 then (padded 4 year).toList
  else (if year < 0 then '-' else '+') :: (padded 6 year).toList

/-- A year is read back. -/
theorem year?_yearChars {year : Int} (h : -10 ^ 6 < year) (hlt : year < 10 ^ 6) (rest : List Char) :
    year? (yearChars year ++ rest) = some (year, rest) := by
  unfold yearChars
  split_ifs with hfour hneg
  · have hparsed := digits?_padded (show 0 < 4 by decide) (show year.natAbs < 10 ^ 4 by omega) rest
    have hlength := length_padded (show 0 < 4 by decide) (show year.natAbs < 10 ^ 4 by omega)
    cases hchars : (padded 4 year).toList with
    | nil =>
        rw [hchars] at hlength
        exact absurd hlength (by decide)
    | cons c chars =>
        have hc : c.isDigit := isDigit_of_mem_padded c (by rw [hchars]; exact List.mem_cons_self)
        rw [hchars, List.cons_append] at hparsed
        rw [List.cons_append]
        -- a digit is no sign
        unfold year?
        split
        · next heq =>
            obtain ⟨rfl, -⟩ := List.cons.inj heq
            exact absurd hc (by decide)
        · next heq =>
            obtain ⟨rfl, -⟩ := List.cons.inj heq
            exact absurd hc (by decide)
        · rw [hparsed]
          have : (year.natAbs : Int) = year := by omega
          rw [this]
  · rw [List.cons_append, year?,
      digits?_padded (show 0 < 6 by decide) (show year.natAbs < 10 ^ 6 by omega)]
    have hne : (year.natAbs : Int) ≠ 0 := by omega
    have heq : -(year.natAbs : Int) = year := by omega
    simp only [if_neg hne, heq]
  · rw [List.cons_append, year?,
      digits?_padded (show 0 < 6 by decide) (show year.natAbs < 10 ^ 6 by omega)]
    have heq : (year.natAbs : Int) = year := by omega
    rw [heq]

/-- The milliseconds are read back. -/
theorem fraction?_padded {ms : Int} (h : 0 ≤ ms) (hlt : ms < 1000) (rest : List Char) :
    fraction? ('.' :: ((padded 3 ms).toList ++ 'Z' :: rest)) = some (ms, 'Z' :: rest) := by
  have hlength := length_padded (show 0 < 3 by decide) (show ms.natAbs < 10 ^ 3 by omega)
  have htake : ((padded 3 ms).toList ++ 'Z' :: rest).takeWhile Char.isDigit = (padded 3 ms).toList := by
    rw [List.takeWhile_append_of_pos isDigit_of_mem_padded,
      List.takeWhile_cons_of_neg (by decide), List.append_nil]
  have hdrop : ((padded 3 ms).toList ++ 'Z' :: rest).drop 3 = 'Z' :: rest :=
    List.drop_left' hlength
  have hvalue : (ms.natAbs : Int) = ms := by omega
  rw [fraction?]
  simp only [htake, hlength, hdrop, ofDigitChars_padded, hvalue]
  rw [if_neg (by decide), if_neg (by decide), if_pos trivial]

/-! ## The text of an instant -/

theorem toList_toISOString (instant : Int) :
    (toISOString instant).toList =
      yearChars (civilDate (instant / 86400000)).1 ++ '-' ::
        ((padded 2 (civilDate (instant / 86400000)).2.1).toList ++ '-' ::
        ((padded 2 (civilDate (instant / 86400000)).2.2).toList ++ 'T' ::
        ((padded 2 (instant % 86400000 / 3600000)).toList ++ ':' ::
        ((padded 2 (instant % 86400000 / 60000 % 60)).toList ++ ':' ::
        ((padded 2 (instant % 86400000 / 1000 % 60)).toList ++ '.' ::
        ((padded 3 (instant % 86400000 % 1000)).toList ++ ['Z'])))))) := by
  have hyear : ∀ year : Int, (if 0 ≤ year ∧ year ≤ 9999 then padded 4 year
      else (if year < 0 then "-" else "+") ++ padded 6 year).toList = yearChars year := by
    intro year
    unfold yearChars
    split_ifs
    · rfl
    · rw [String.toList_append]
      rfl
    · rw [String.toList_append]
      rfl
  rw [← hyear]
  simp [toISOString]

theorem expect?_cons (c : Char) (rest : List Char) : expect? c (c :: rest) = some rest := if_pos rfl

theorem bind_of_eq_some {α β : Type} {found : Option α} {value : α} (h : found = some value)
    (next : α → Option β) : (found >>= next) = next value := by
  rw [h]
  rfl

section

variable {text text₁ text₂ text₃ text₄ text₅ text₆ rest : List Char}
  {year month dayOfMonth hour minute second ms : Int}

/-- Each part is read from what the part before it leaves. -/
theorem newDate_of_parts (hyear : year? text = some (year, '-' :: text₁))
    (hmonth : digits? 2 text₁ = some (month, '-' :: text₂))
    (hday : digits? 2 text₂ = some (dayOfMonth, 'T' :: text₃))
    (hhour : digits? 2 text₃ = some (hour, ':' :: text₄))
    (hminute : digits? 2 text₄ = some (minute, ':' :: text₅))
    (hsecond : digits? 2 text₅ = some (second, text₆))
    (hms : fraction? text₆ = some (ms, 'Z' :: rest)) :
    newDate text =
      let instant := daysFromCivil year month dayOfMonth * 86400000 + hour * 3600000 +
        minute * 60000 + second * 1000 + ms
      if rest = [] ∧ FieldsInRange month dayOfMonth hour minute second ms ∧ ValidTime instant then
        some instant
      else none := by
  rw [newDate]
  refine (bind_of_eq_some hyear _).trans ?_
  refine (bind_of_eq_some (expect?_cons _ _) _).trans ?_
  refine (bind_of_eq_some hmonth _).trans ?_
  refine (bind_of_eq_some (expect?_cons _ _) _).trans ?_
  refine (bind_of_eq_some hday _).trans ?_
  refine (bind_of_eq_some (expect?_cons _ _) _).trans ?_
  refine (bind_of_eq_some hhour _).trans ?_
  refine (bind_of_eq_some (expect?_cons _ _) _).trans ?_
  refine (bind_of_eq_some hminute _).trans ?_
  refine (bind_of_eq_some (expect?_cons _ _) _).trans ?_
  refine (bind_of_eq_some hsecond _).trans ?_
  refine (bind_of_eq_some hms _).trans ?_
  exact bind_of_eq_some (expect?_cons _ _) _

end

/-- The text of a time value is read back as that value. -/
theorem newDate_toISOString {instant : Int} (h : ValidTime instant) :
    newDate (toISOString instant).toList = some instant := by
  obtain ⟨hlow, hhigh⟩ := h
  have hdate := daysFromCivil_civilFromDays (instant / 86400000)
  obtain ⟨hmonth, hmonthLe, hday, hdayLe⟩ := civilFromDays_bounds (instant / 86400000)
  obtain ⟨hyear, hyearLt⟩ := civilFromDays_year_lt (show -100000000 ≤ instant / 86400000 by omega)
    (by omega)
  rw [toList_toISOString, civilDate_eq]
  generalize civilFromDays (instant / 86400000) = civil at *
  obtain ⟨year, month, dayOfMonth⟩ := civil
  dsimp only at *
  have hfields : FieldsInRange month.natAbs dayOfMonth.natAbs
      (instant % 86400000 / 3600000).natAbs (instant % 86400000 / 60000 % 60).natAbs
      (instant % 86400000 / 1000 % 60).natAbs (instant % 86400000 % 1000) := by
    unfold FieldsInRange
    omega
  have hvalue : daysFromCivil year month.natAbs dayOfMonth.natAbs * 86400000 +
      (instant % 86400000 / 3600000).natAbs * 3600000 +
      (instant % 86400000 / 60000 % 60).natAbs * 60000 +
      (instant % 86400000 / 1000 % 60).natAbs * 1000 + instant % 86400000 % 1000 = instant := by
    have hmonthAbs : (month.natAbs : Int) = month := by omega
    have hdayAbs : (dayOfMonth.natAbs : Int) = dayOfMonth := by omega
    rw [hmonthAbs, hdayAbs, hdate]
    omega
  have hpadded : ∀ {n : Int}, n.natAbs < 10 ^ 2 → ∀ rest,
      digits? 2 ((padded 2 n).toList ++ rest) = some ((n.natAbs : Int), rest) :=
    digits?_padded (by decide)
  have hread := newDate_of_parts (year?_yearChars hyear hyearLt _)
    (hpadded (show month.natAbs < 10 ^ 2 by omega) _)
    (hpadded (show dayOfMonth.natAbs < 10 ^ 2 by omega) _)
    (hpadded (show (instant % 86400000 / 3600000).natAbs < 10 ^ 2 by omega) _)
    (hpadded (show (instant % 86400000 / 60000 % 60).natAbs < 10 ^ 2 by omega) _)
    (hpadded (show (instant % 86400000 / 1000 % 60).natAbs < 10 ^ 2 by omega) _)
    (fraction?_padded (show 0 ≤ instant % 86400000 % 1000 by omega)
      (show instant % 86400000 % 1000 < 1000 by omega) [])
  dsimp only at hread
  rw [hread, hvalue, if_pos ⟨rfl, hfields, hlow, hhigh⟩]

/-- The texts of two time values tell them apart. -/
theorem toISOString_injOn {first second : Int} (h : ValidTime first) (h' : ValidTime second)
    (heq : toISOString first = toISOString second) : first = second := by
  have hread := newDate_toISOString h
  rw [heq, newDate_toISOString h'] at hread
  exact (Option.some.inj hread).symm

end LunchLineup.Pagination
