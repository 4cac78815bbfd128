import Mathlib.Tactic
import LunchLineup.Python.Reference

/-!
# The ISO texts of instants

`datetime.isoformat()` of a UTC value, and why comparing these texts is
comparing instants.  Fields of a fixed width compare one after the other
(`append_lt_append`), dates compare by year, month and day
(`civilFromDays_lt`), and a text without microseconds comes before every text
with some in the same second, as `+` comes before `.` (`fractionChars_lt`).

The years that Python has are 1 to 9999; four digits are not enough beyond.
-/

namespace LunchLineup.Python

open Reference

/-! ## The texts -/

/-- The decimal digits of a number, with leading zeros. -/
def fixedDigits : Nat → Int → List Char
  | 0, _ => []
  | width + 1, n => fixedDigits width (n / 10) ++ [Nat.digitChar (n % 10).toNat]

/-- `YYYY-MM-DD`. -/
def dateChars (date : Int) : List Char :=
  let civil := civilFromDays date
  fixedDigits 4 civil.1 ++ '-' :: (fixedDigits 2 civil.2.1 ++ '-' :: fixedDigits 2 civil.2.2)

/-- `HH:MM:SS` of a second of the day. -/
def clockChars (second : Int) : List Char :=
  fixedDigits 2 (second / 3600) ++
    ':' :: (fixedDigits 2 (second / 60 % 60) ++ ':' :: fixedDigits 2 (second % 60))

/-- The microseconds, left out if there are none, and the offset. -/
def fractionChars (microsecond : Int) : List Char :=
  if microsecond = 0 then "+00:00".toList
  else '.' :: (fixedDigits 6 microsecond ++ "+00:00".toList)

/-- `datetime.isoformat()` of an instant in UTC. -/
def datetimeIsoformat (instant : Int) : String :=
  String.ofList (dateChars (dateOf instant) ++ 'T' ::
    (clockChars (instant % day / 1000000) ++ fractionChars (instant % 1000000)))

/-- The microseconds and the offset of `isoformat(timespec="microseconds")`. -/
def microsecondChars (microsecond : Int) : List Char :=
  '.' :: (fixedDigits 6 microsecond ++ "+00:00".toList)

/-- `datetime.isoformat(timespec="microseconds")` of an instant in UTC. -/
def datetimeIsoformatMicroseconds (instant : Int) : String :=
  String.ofList (dateChars (dateOf instant) ++ 'T' ::
    (clockChars (instant % day / 1000000) ++ microsecondChars (instant % 1000000)))

/-- The instants that a `datetime` in UTC can hold. -/
def datetimeRange : Set Int :=
  {instant | midnight (daysFromCivil 1 1 1) ≤ instant ∧ instant < midnight (daysFromCivil 10000 1 1)}

/-! ## Fields of a fixed width -/

@[simp] theorem length_fixedDigits (width : Nat) (n : Int) : (fixedDigits width n).length = width := by
  induction width generalizing n with
  | zero => rfl
  | succ width ih => simp [fixedDigits, ih]

/-- The first difference decides, whatever follows. -/
theorem append_lt_append {first second : List Char} (h : first < second)
    (hlength : first.length = second.length) (left right : List Char) :
    first ++ left < second ++ right := by
  induction first generalizing second with
  | nil =>
      cases second with
      | nil => exact absurd h (lt_irrefl _)
      | cons c rest => simp at hlength
  | cons c rest ih =>
      cases second with
      | nil => simp at hlength
      | cons d more =>
          rw [List.cons_append, List.cons_append, List.cons_lt_cons_iff]
          rcases List.cons_lt_cons_iff.mp h with hlt | ⟨heq, hlt⟩
          · exact .inl hlt
          · exact .inr ⟨heq, ih hlt (by simpa using hlength)⟩

theorem digitChar_lt {a b : Nat} (hab : a < b) (hb : b < 10) :
    Nat.digitChar a < Nat.digitChar b := by
  have ha : a < 10 := hab.trans hb
  interval_cases b <;> interval_cases a <;> decide

theorem fixedDigits_lt {width : Nat} {a b : Int} (ha : 0 ≤ a) (hab : a < b)
    (hb : b < 10 ^ width) : fixedDigits width a < fixedDigits width b := by
  induction width generalizing a b with
  | zero =>
      rw [pow_zero] at hb
      omega
  | succ width ih =>
      rw [fixedDigits, fixedDigits]
      rw [pow_succ] at hb
      by_cases htens : a / 10 < b / 10
      · exact append_lt_append (ih (by omega) htens (by omega)) (by simp) _ _
      · have heq : a / 10 = b / 10 := by omega
        rw [heq]
        apply List.append_left_lt
        rw [List.cons_lt_cons_iff]
        exact .inl (digitChar_lt (by omega) (by omega))

/-! ## Dates -/

/-- The year of a day in its era of 400 years, in the calendar with years that start in March. -/
def yearOfEra (dayOfEra : Int) : Int :=
  (dayOfEra - dayOfEra / 1460 + dayOfEra / 36524 - dayOfEra / 146096) / 365

/-- The day in its year. -/
def dayOfYear (dayOfEra : Int) : Int :=
  dayOfEra - (365 * yearOfEra dayOfEra + yearOfEra dayOfEra / 4 - yearOfEra dayOfEra / 100)

section

variable {d d' : Int}

theorem yearOfEra_bounds (h : 0 ≤ d) (hlt : d < 146097) : 0 ≤ yearOfEra d ∧ yearOfEra d ≤ 399 := by
  unfold yearOfEra
  omega

theorem dayOfYear_bounds (h : 0 ≤ d) (hlt : d < 146097) : 0 ≤ dayOfYear d ∧ dayOfYear d ≤ 365 := by
  unfold dayOfYear yearOfEra
  generalize hy : (d - d / 1460 + d / 36524 - d / 146096) / 365 = y
  have hcentury : d / 36524 = 0 ∨ d / 36524 = 1 ∨ d / 36524 = 2 ∨ d / 36524 = 3 ∨ d / 36524 = 4 := by
    omega
  -- four years and a century of the count are those of the year, or the next
  have hfour : d / 1460 = y / 4 ∨ d / 1460 = y / 4 + 1 := by
    rcases hcentury with h | h | h | h | h <;> omega
  have hhundred : y / 100 = d / 36524 ∨ d = 146096 := by
    rcases hcentury with h | h | h | h | h <;> omega
  rcases hcentury with h | h | h | h | h <;> omega

theorem yearOfEra_mono (hle : d ≤ d') : yearOfEra d ≤ yearOfEra d' := by
  unfold yearOfEra
  apply Int.ediv_le_ediv (by decide)
  omega

/-- The year, month and day of a day in a year that starts in March. -/
def civilOf (year days : Int) : Int × Int × Int :=
  let shifted := (5 * days + 2) / 153
  let month := if shifted < 10 then shifted + 3 else shifted - 9
  (if month ≤ 2 then year + 1 else year, month, days - (153 * shifted + 2) / 5 + 1)

theorem civilFromDays_eq (date : Int) :
    civilFromDays date =
      civilOf (yearOfEra ((date + 719468) % 146097) + (date + 719468) / 146097 * 400)
        (dayOfYear ((date + 719468) % 146097)) := rfl

/-- A date is before another, by year, month and day. -/
def civilLt (first second : Int × Int × Int) : Prop :=
  first.1 < second.1 ∨ first.1 = second.1 ∧
    (first.2.1 < second.2.1 ∨ first.2.1 = second.2.1 ∧ first.2.2 < second.2.2)

/-- A date of the calendar has a month and a day of two digits. -/
theorem civilOf_bounds {year days : Int} (h : 0 ≤ days) (hle : days ≤ 365) :
    1 ≤ (civilOf year days).2.1 ∧ (civilOf year days).2.1 ≤ 12 ∧
      1 ≤ (civilOf year days).2.2 ∧ (civilOf year days).2.2 ≤ 31 := by
  unfold civilOf
  dsimp only
  split <;> omega

/-- Later years are later, as January and February come before March. -/
theorem civilOf_lt_of_year {year year' days days' : Int} (hyear : year < year') (h : 0 ≤ days)
    (hle : days ≤ 365) (h' : 0 ≤ days') (hle' : days' ≤ 365) :
    civilLt (civilOf year days) (civilOf year' days') := by
  unfold civilLt civilOf
  dsimp only
  split <;> split <;> split <;> split <;> omega

theorem civilOf_lt_of_days {year days days' : Int} (h : 0 ≤ days) (hlt : days < days')
    (hle : days' ≤ 365) : civilLt (civilOf year days) (civilOf year days') := by
  unfold civilLt civilOf
  dsimp only
  split <;> split <;> split <;> split <;> omega

/-- Dates compare by year, month and day. -/
theorem civilFromDays_lt {date date' : Int} (h : date < date') :
    civilLt (civilFromDays date) (civilFromDays date') := by
  rw [civilFromDays_eq, civilFromDays_eq]
  generalize hera : (date + 719468) / 146097 = era
  generalize hera' : (date' + 719468) / 146097 = era'
  generalize hday : (date + 719468) % 146097 = dayOfEra
  generalize hday' : (date' + 719468) % 146097 = dayOfEra'
  obtain ⟨hdays, hdaysLe⟩ := dayOfYear_bounds (d := dayOfEra) (by omega) (by omega)
  obtain ⟨hdays', hdaysLe'⟩ := dayOfYear_bounds (d := dayOfEra') (by omega) (by omega)
  obtain ⟨hyear, hyearLe⟩ := yearOfEra_bounds (d := dayOfEra) (by omega) (by omega)
  obtain ⟨hyear', hyearLe'⟩ := yearOfEra_bounds (d := dayOfEra') (by omega) (by omega)
  by_cases heras : era < era'
  · exact civilOf_lt_of_year (by omega) hdays hdaysLe hdays' hdaysLe'
  · obtain rfl : era = era' := by omega
    have hlt : dayOfEra < dayOfEra' := by omega
    rcases (yearOfEra_mono hlt.le).lt_or_eq with hyears | hyears
    · exact civilOf_lt_of_year (by omega) hdays hdaysLe hdays' hdaysLe'
    · -- the days of one year
      rw [← hyears]
      refine civilOf_lt_of_days hdays ?_ hdaysLe'
      unfold dayOfYear
      rw [← hyears]
      omega

theorem civilFromDays_bounds (date : Int) :
    1 ≤ (civilFromDays date).2.1 ∧ (civilFromDays date).2.1 ≤ 12 ∧
      1 ≤ (civilFromDays date).2.2 ∧ (civilFromDays date).2.2 ≤ 31 := by
  obtain ⟨hdays, hdaysLe⟩ := dayOfYear_bounds (d := (date + 719468) % 146097) (by omega) (by omega)
  exact civilOf_bounds hdays hdaysLe

/-- Dates from 0001-01-01 to 9999-12-31 have a year of four digits. -/
theorem civilFromDays_year {date : Int} (h : daysFromCivil 1 1 1 ≤ date)
    (hlt : date < daysFromCivil 10000 1 1) :
    0 ≤ (civilFromDays date).1 ∧ (civilFromDays date).1 < 10 ^ 4 := by
  have hfirst : civilFromDays (daysFromCivil 1 1 1) = (1, 1, 1) := by decide
  have hlast : civilFromDays (daysFromCivil 10000 1 1) = (10000, 1, 1) := by decide
  have hbounds := civilFromDays_bounds date
  constructor
  · rcases h.lt_or_eq with hafter | rfl
    · have hcivil := civilFromDays_lt hafter
      rw [hfirst] at hcivil
      unfold civilLt at hcivil
      dsimp only at hcivil
      omega
    · rw [hfirst]
      decide
  · have hcivil := civilFromDays_lt hlt
    rw [hlast] at hcivil
    unfold civilLt at hcivil
    dsimp only at hcivil
    omega

end

/-! ## The order of the texts -/

theorem length_dateChars (date : Int) : (dateChars date).length = 10 := by
  simp [dateChars]

theorem length_clockChars (second : Int) : (clockChars second).length = 8 := by
  simp [clockChars]

theorem dateChars_lt {date date' : Int} (h : daysFromCivil 1 1 1 ≤ date) (hlt : date < date')
    (h' : date' < daysFromCivil 10000 1 1) : dateChars date < dateChars date' := by
  obtain ⟨hyear, _⟩ := civilFromDays_year h (hlt.trans h')
  obtain ⟨_, hyearLt⟩ := civilFromDays_year (h.trans hlt.le) h'
  obtain ⟨hmonth, _, hday, _⟩ := civilFromDays_bounds date
  obtain ⟨_, hmonthLe, _, hdayLe⟩ := civilFromDays_bounds date'
  unfold dateChars
  dsimp only
  rcases civilFromDays_lt hlt with hless | ⟨heq, hless | ⟨hsame, hless⟩⟩
  · exact append_lt_append (fixedDigits_lt hyear hless hyearLt) (by simp) _ _
  · rw [heq]
    refine List.append_left_lt (List.cons_lt_cons_iff.mpr (.inr ⟨rfl, ?_⟩))
    exact append_lt_append (fixedDigits_lt (by omega) hless (by omega)) (by simp) _ _
  · rw [heq, hsame]
    refine List.append_left_lt (List.cons_lt_cons_iff.mpr (.inr ⟨rfl, ?_⟩))
    refine List.append_left_lt (List.cons_lt_cons_iff.mpr (.inr ⟨rfl, ?_⟩))
    exact fixedDigits_lt (by omega) hless (by omega)

theorem clockChars_lt {second second' : Int} (h : 0 ≤ second) (hlt : second < second')
    (h' : second' < 86400) : clockChars second < clockChars second' := by
  unfold clockChars
  by_cases hhour : second / 3600 < second' / 3600
  · exact append_lt_append (fixedDigits_lt (by omega) hhour (by omega)) (by simp) _ _
  · have hhours : second / 3600 = second' / 3600 := by omega
    rw [hhours]
    refine List.append_left_lt (List.cons_lt_cons_iff.mpr (.inr ⟨rfl, ?_⟩))
    by_cases hminute : second / 60 % 60 < second' / 60 % 60
    · exact append_lt_append (fixedDigits_lt (by omega) hminute (by omega)) (by simp) _ _
    · have hminutes : second / 60 % 60 = second' / 60 % 60 := by omega
      rw [hminutes]
      refine List.append_left_lt (List.cons_lt_cons_iff.mpr (.inr ⟨rfl, ?_⟩))
      exact fixedDigits_lt (by omega) (by omega) (by omega)

/-- No microseconds come before some, as `+` comes before `.`. -/
theorem fractionChars_lt {microsecond microsecond' : Int} (h : 0 ≤ microsecond)
    (hlt : microsecond < microsecond') (h' : microsecond' < 1000000) :
    fractionChars microsecond < fractionChars microsecond' := by
  unfold fractionChars
  rw [if_neg (by omega : microsecond' ≠ 0)]
  split
  · exact List.cons_lt_cons_iff.mpr (.inl (by decide))
  · refine List.cons_lt_cons_iff.mpr (.inr ⟨rfl, ?_⟩)
    exact append_lt_append (fixedDigits_lt h hlt h') (by simp) _ _

/-- The texts of instants are ordered as the instants are, however the
microseconds are written, if these are ordered. -/
theorem isoText_strictMonoOn {fraction : Int → List Char}
    (hfraction : ∀ {microsecond microsecond' : Int}, 0 ≤ microsecond →
      microsecond < microsecond' → microsecond' < 1000000 →
      fraction microsecond < fraction microsecond') :
    StrictMonoOn (fun instant => String.ofList (dateChars (dateOf instant) ++ 'T' ::
      (clockChars (instant % day / 1000000) ++ fraction (instant % 1000000)))) datetimeRange := by
  intro instant hrange instant' hrange' hlt
  obtain ⟨hmin, _⟩ := hrange
  obtain ⟨_, hmax⟩ := hrange'
  dsimp only
  rw [String.lt_iff_toList_lt, String.toList_ofList, String.toList_ofList]
  by_cases hdate : dateOf instant < dateOf instant'
  · refine append_lt_append (dateChars_lt ?_ hdate ?_) (by simp [length_dateChars]) _ _
    · unfold midnight day at hmin
      unfold dateOf day
      omega
    · unfold midnight day at hmax
      unfold dateOf day
      omega
  · have hdates : dateOf instant = dateOf instant' := by
      unfold dateOf day at hdate ⊢
      omega
    rw [hdates]
    refine List.append_left_lt (List.cons_lt_cons_iff.mpr (.inr ⟨rfl, ?_⟩))
    unfold dateOf at hdates
    unfold day at hdates ⊢
    by_cases hsecond : instant % 86400000000 / 1000000 < instant' % 86400000000 / 1000000
    · exact append_lt_append (clockChars_lt (by omega) hsecond (by omega))
        (by simp [length_clockChars]) _ _
    · have hseconds : instant % 86400000000 / 1000000 = instant' % 86400000000 / 1000000 := by
        omega
      rw [hseconds]
      exact List.append_left_lt (hfraction (by omega) (by omega) (by omega))

/-- The texts of instants are ordered as the instants are. -/
theorem datetimeIsoformat_strictMonoOn : StrictMonoOn datetimeIsoformat datetimeRange :=
  isoText_strictMonoOn fractionChars_lt

/-- So are the texts with microseconds. -/
theorem datetimeIsoformatMicroseconds_strictMonoOn :
    StrictMonoOn datetimeIsoformatMicroseconds datetimeRange := by
  apply isoText_strictMonoOn
  intro microsecond microsecond' h hlt h'
  refine List.cons_lt_cons_iff.mpr (.inr ⟨rfl, ?_⟩)
  exact append_lt_append (fixedDigits_lt h hlt h') (by simp) _ _

end LunchLineup.Python
