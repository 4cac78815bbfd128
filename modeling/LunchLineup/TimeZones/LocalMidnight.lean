import LunchLineup.Lib.LocalClock
import LunchLineup.Pagination.Cursors
import LunchLineup.TimeZones.DateText

/-!
# Local midnight

Three resolvers find the instant at which a local date begins: that of payroll,
`zonedDateTimeToUtc` of the first API and `localMidnight` of the scheduler of the
second.  Each starts at UTC midnight of the date, reads the wall clock there,
moves by what the clock misses, four times at most, and checks the reading of
what it found.

`Intl.DateTimeFormat` reads the wall clock of a `Zone`.  It writes the year of
the era and no era, and `Date.UTC` takes the years from 0 to 99 for those of the
twentieth century, so that the resolvers reject the dates of these years, and
those of the next two days where the clock reads the year 99 on the way.  Apart
from this a guess moves as `correct` says.
-/

namespace LunchLineup.TimeZones

open LunchLineup.Lib LunchLineup.Python LunchLineup.Python.Reference LunchLineup.Pagination
open LunchLineup.Billing (jsTrim isJsSpace)

/-! ## The wall clock -/

/-- A time zone: the offset from UTC, in seconds, at each second since 1970.  It is a day at
most. -/
structure Zone where
  utcOffset : Int → Int
  bounded : ∀ second, |utcOffset second| ≤ 86400

/-- What `formatToParts` gives. -/
structure ZonedParts where
  year : Int
  month : Int
  day : Int
  hour : Int
  minute : Int
  second : Int
  deriving DecidableEq

/-- The year without its era: the year before the year 1 is the year 1 again. -/
def yearOfEraText (year : Int) : Int := if 1 ≤ year then year else 1 - year

namespace Zone

/-- The wall clock at an instant, in milliseconds since its midnight of 1970-01-01. -/
def wallClock (zone : Zone) (instant : Int) : Int :=
  instant + 1000 * zone.utcOffset (instant / 1000)

/-- The date that the wall clock shows. -/
def localDate (zone : Zone) (instant : Int) : Int := zone.wallClock instant / dayMs

/-- `zonedParts`. -/
def zonedParts (zone : Zone) (instant : Int) : ZonedParts :=
  let date := civilFromDays (zone.localDate instant)
  let clock := zone.wallClock instant % dayMs
  ⟨yearOfEraText date.1, date.2.1, date.2.2, clock / 3600000, clock / 60000 % 60,
    clock / 1000 % 60⟩

end Zone

/-- `Date.UTC` of parts. -/
def ZonedParts.utc (parts : ZonedParts) : Int :=
  dateUTC parts.year parts.month parts.day parts.hour parts.minute parts.second

/-! ## The resolvers -/

/-- How a request is rejected. -/
inductive Rejection
  | badRequest (message : String)
  | problem (status : Nat) (code detail title : String)
  deriving DecidableEq

variable (zone : Zone)

/-- The loop of the resolvers. -/
def Zone.correctGuess (targetUtc : Int) : Nat → Int → Int
  | 0, guess => guess
  | attempts + 1, guess =>
      let delta := targetUtc - (zone.zonedParts guess).utc
      if delta = 0 then guess + delta
      else Zone.correctGuess targetUtc attempts (guess + delta)

/-- The loop and the check of what it found. -/
def Zone.resolve (target : ZonedParts) (rejection : Rejection) : Except Rejection Int := do
  let result := zone.correctGuess target.utc 4 target.utc
  ensure (zone.zonedParts result = target) rejection
  .ok result

/-- `normalizeDateOnly` of payroll, with the numbers of the text that it returns. -/
def normalizeDateOnly (value field : String) : Except Rejection (Int × Int × Int) :=
  match matchDate? (jsTrim value) with
  | none => .error (.problem 422 ("invalid_payroll_" ++ field) (field ++ " must use YYYY-MM-DD.")
      "Payroll validation failed")
  | some (year, month, day) => do
      let date := dateUTC year month day 0 0 0 / dayMs
      ensure (civilFromDays date = (year, month, day))
        (.problem 422 ("invalid_payroll_" ++ field) (field ++ " must be a valid calendar date.")
          "Payroll validation failed")
      .ok (year, month, day)

/-- `localDateBoundaryUtc` of payroll. -/
def Zone.payrollBoundary (dateOnly : String) : Except Rejection Int := do
  let (year, month, day) ← normalizeDateOnly dateOnly "date"
  zone.resolve ⟨year, month, day, 0, 0, 0⟩ (.problem 422 "invalid_payroll_boundary"
    "The local payroll boundary does not exist in its timezone." "Payroll validation failed")

/-- `zonedDateTimeToUtc`. -/
def Zone.zonedDateTimeToUtc (target : ZonedParts) : Except Rejection Int := do
  let calendarCheck := target.utc / dayMs
  ensure (civilFromDays calendarCheck = (target.year, target.month, target.day))
    (.badRequest "Date is not a valid calendar day.")
  zone.resolve target (.badRequest "Local date/time does not exist in the location timezone.")

/-- `localDateBoundaryUtc` of the first API. -/
def Zone.localDateBoundaryUtc (text : String) : Except Rejection Int :=
  match matchDate? text with
  | none => .error (.badRequest "Date must use YYYY-MM-DD.")
  | some (year, month, day) => zone.zonedDateTimeToUtc ⟨year, month, day, 0, 0, 0⟩

/-- `parseLocalDate` of the scheduler. -/
def parseLocalDate (value : String) : Except Rejection (Int × Int × Int) :=
  match matchDate? value with
  | none => .error (.problem 422 "invalid_local_date" "Date must use YYYY-MM-DD." "Invalid date")
  | some (year, month, day) => do
      let calendar := dateUTC year month day 0 0 0 / dayMs
      ensure (civilFromDays calendar = (year, month, day))
        (.problem 422 "invalid_local_date" "Date is not a valid calendar day." "Invalid date")
      .ok (year, month, day)

/-- `localMidnight` of the scheduler. -/
def Zone.localMidnight (value : String) : Except Rejection Int := do
  let (year, month, day) ← parseLocalDate value
  zone.resolve ⟨year, month, day, 0, 0, 0⟩ (.problem 422 "invalid_local_date"
    "The selected local date cannot be represented in the location timezone." "Invalid date")

/-! ## What the clock reads -/

/-- Milliseconds of UTC midnight of a date. -/
def utcMidnight (date : Int) : Int := date * dayMs

/-- The parts of a date at midnight. -/
def midnightParts (date : Int) : ZonedParts :=
  ⟨(civilFromDays date).1, (civilFromDays date).2.1, (civilFromDays date).2.2, 0, 0, 0⟩

/-- The wall clock reads the date at midnight. -/
def Zone.ReadsMidnight (date instant : Int) : Prop := zone.wallClock instant = utcMidnight date

instance (date instant : Int) : Decidable (zone.ReadsMidnight date instant) :=
  inferInstanceAs (Decidable (_ = _))

theorem Zone.wallClock_mul (s : Int) : zone.wallClock (1000 * s) = 1000 * reading zone.utcOffset s := by
  have hs : 1000 * s / 1000 = s := by omega
  rw [wallClock, hs, reading]
  ring

/-- A reading in a year from 100 on is taken back by `Date.UTC`. -/
theorem Zone.utc_zonedParts {s : Int} (h : year100 ≤ zone.localDate (1000 * s)) :
    (zone.zonedParts (1000 * s)).utc = 1000 * reading zone.utcOffset s := by
  have hyear := hundred_le_iff.mpr h
  have hclock := zone.wallClock_mul s
  have hera : yearOfEraText (civilFromDays (zone.localDate (1000 * s))).1 =
      (civilFromDays (zone.localDate (1000 * s))).1 := if_pos (by omega)
  unfold ZonedParts.utc dateUTC zonedParts
  dsimp only
  rw [hera, makeFullYear_of_le hyear, makeDay_civilFromDays, localDate, hclock]
  unfold dayMs
  omega

theorem utc_midnightParts {date : Int} (h : year100 ≤ date) :
    (midnightParts date).utc = utcMidnight date := by
  have hyear := hundred_le_iff.mpr h
  unfold ZonedParts.utc dateUTC midnightParts utcMidnight
  dsimp only
  rw [makeFullYear_of_le hyear, makeDay_civilFromDays]
  omega

/-! ## The moves of a guess -/

/-- Seconds of UTC midnight of a date. -/
def utcMidnightSecond (date : Int) : Int := date * 86400

theorem utcMidnight_eq (date : Int) : utcMidnight date = 1000 * utcMidnightSecond date := by
  unfold utcMidnight utcMidnightSecond dayMs
  omega

theorem Zone.readsMidnight_mul {date s : Int} :
    zone.ReadsMidnight date (1000 * s) ↔ reading zone.utcOffset s = utcMidnightSecond date := by
  rw [ReadsMidnight, wallClock_mul, utcMidnight_eq]
  omega

/-- Where the clock reads a year from 100 on, the loop makes one correction towards its
target. -/
theorem Zone.correctGuess_mul_succ {target s : Int} (h : year100 ≤ zone.localDate (1000 * s))
    (n : Nat) :
    zone.correctGuess (1000 * target) (n + 1) (1000 * s) =
      zone.correctGuess (1000 * target) n (1000 * correct zone.utcOffset target s) := by
  have hmove : 1000 * s + (1000 * target - 1000 * reading zone.utcOffset s) =
      1000 * correct zone.utcOffset target s := by
    rw [reading, correct]
    ring
  rw [correctGuess, zone.utc_zonedParts h, hmove]
  split_ifs with hdelta
  · -- nothing to correct: the attempts that are left would change nothing
    have hfixed := correct_eq_self_iff.mpr (show reading zone.utcOffset s = target by omega)
    rw [hfixed]
    cases n with
    | zero => rfl
    | succ n =>
        rw [correctGuess, zone.utc_zonedParts h, if_pos hdelta, hmove, hfixed]
  · rfl

/-- The loop corrects as often as it may. -/
theorem Zone.correctGuess_mul_eq_iterate {target s : Int} {n : Nat}
    (h : ∀ i < n, year100 ≤ zone.localDate (1000 * (correct zone.utcOffset target)^[i] s)) :
    zone.correctGuess (1000 * target) n (1000 * s) =
      1000 * (correct zone.utcOffset target)^[n] s := by
  induction n generalizing s with
  | zero => rfl
  | succ n ih =>
      have hfirst : year100 ≤ zone.localDate (1000 * s) := h 0 n.succ_pos
      rw [zone.correctGuess_mul_succ hfirst, ih]
      · rfl
      · intro i hi
        exact h (i + 1) (by omega)

theorem Zone.correctGuess_succ {date s : Int} (h : year100 ≤ zone.localDate (1000 * s)) (n : Nat) :
    zone.correctGuess (utcMidnight date) (n + 1) (1000 * s) =
      zone.correctGuess (utcMidnight date) n
        (1000 * correct zone.utcOffset (utcMidnightSecond date) s) := by
  rw [utcMidnight_eq]
  exact zone.correctGuess_mul_succ h n

theorem Zone.correctGuess_eq_iterate {date s : Int} {n : Nat}
    (h : ∀ i < n, year100 ≤ zone.localDate
      (1000 * (correct zone.utcOffset (utcMidnightSecond date))^[i] s)) :
    zone.correctGuess (utcMidnight date) n (1000 * s) =
      1000 * (correct zone.utcOffset (utcMidnightSecond date))^[n] s := by
  rw [utcMidnight_eq]
  exact zone.correctGuess_mul_eq_iterate h

/-- The second after four corrections of UTC midnight. -/
def Zone.corrected (date : Int) : Int :=
  (correct zone.utcOffset (utcMidnightSecond date))^[4] (utcMidnightSecond date)

theorem Zone.abs_corrected_sub_le (date : Int) :
    |zone.corrected date - utcMidnightSecond date| ≤ 86400 :=
  abs_iterate_correct_sub_le zone.bounded _ 4

/-- At a second near UTC midnight the clock is two days off at most. -/
theorem Zone.localDate_near {date s : Int} (h : |s - utcMidnightSecond date| ≤ 86400) :
    date - 2 ≤ zone.localDate (1000 * s) ∧ zone.localDate (1000 * s) ≤ date + 2 := by
  have hs := abs_le.mp h
  have hoffset := abs_le.mp (zone.bounded s)
  unfold localDate
  rw [wallClock_mul, reading]
  unfold utcMidnightSecond at hs
  unfold dayMs
  omega

/-- Two days after the year 99 no guess comes into it. -/
theorem Zone.correctGuess_eq_corrected {date : Int} (h : year100 + 2 ≤ date) :
    zone.correctGuess (utcMidnight date) 4 (utcMidnight date) = 1000 * zone.corrected date := by
  have hyears : ∀ i < 4, year100 ≤ zone.localDate
      (1000 * (correct zone.utcOffset (utcMidnightSecond date))^[i] (utcMidnightSecond date)) := by
    intro i _
    have hnear := zone.localDate_near
      (abs_iterate_correct_sub_le zone.bounded (utcMidnightSecond date) i)
    omega
  have hiterate := zone.correctGuess_eq_iterate hyears
  rwa [← utcMidnight_eq] at hiterate

/-! ## Guesses that the twentieth century leads astray -/

/-- An instant more than seventeen centuries before the year 0. -/
def Astray (instant : Int) : Prop := instant < -1376000 * dayMs

/-- There the clock reads a year of the era after the year 200. -/
theorem Zone.parts_astray {instant : Int} (h : Astray instant) :
    201 ≤ (zone.zonedParts instant).year ∧ 1 ≤ (zone.zonedParts instant).month ∧
      (zone.zonedParts instant).month ≤ 12 ∧ 1 ≤ (zone.zonedParts instant).day := by
  obtain ⟨hmonth, hmonthLe, hday, -⟩ := civilFromDays_bounds (zone.localDate instant)
  have hoffset := abs_le.mp (zone.bounded (instant / 1000))
  have hdate : ¬-792576 ≤ zone.localDate instant := by
    unfold localDate wallClock
    unfold Astray at h
    unfold dayMs at *
    omega
  have hyear := mt (year_le_iff (zone.localDate instant) (-792576) (-200) (by decide)).mp hdate
  refine ⟨?_, hmonth, hmonthLe, hday⟩
  show 201 ≤ yearOfEraText _
  unfold yearOfEraText
  split_ifs <;> omega

/-- The hours, minutes and seconds of a reading only add. -/
theorem Zone.le_utc_zonedParts (instant : Int) :
    makeDay (makeFullYear (zone.zonedParts instant).year) (zone.zonedParts instant).month
        (zone.zonedParts instant).day * dayMs ≤ (zone.zonedParts instant).utc := by
  unfold ZonedParts.utc dateUTC
  have hclock : 0 ≤ zone.wallClock instant % dayMs := Int.emod_nonneg _ (by decide)
  have hhour : 0 ≤ (zone.zonedParts instant).hour := Int.ediv_nonneg hclock (by decide)
  have hminute : 0 ≤ (zone.zonedParts instant).minute := Int.emod_nonneg _ (by decide)
  have hsecond : 0 ≤ (zone.zonedParts instant).second := Int.emod_nonneg _ (by decide)
  omega

/-- A guess that went astray does not come back. -/
theorem Zone.correctGuess_astray {date instant : Int} (hdate : date < year100 + 2)
    (h : Astray instant) (n : Nat) : Astray (zone.correctGuess (utcMidnight date) n instant) := by
  induction n generalizing instant with
  | zero => exact h
  | succ n ih =>
      have hearlier : Astray (instant + (utcMidnight date - (zone.zonedParts instant).utc)) := by
        obtain ⟨hyear, hmonth, hmonthLe, hday⟩ := zone.parts_astray h
        have hdays := le_makeDay (show 0 ≤ (zone.zonedParts instant).year by omega) hmonth hmonthLe
          hday
        have hutc := zone.le_utc_zonedParts instant
        rw [makeFullYear_of_le (by omega)] at hutc
        unfold Astray utcMidnight at *
        unfold year100 at hdate
        unfold dayMs at *
        omega
      rw [correctGuess]
      split_ifs
      · exact hearlier
      · exact ih hearlier

/-- A guess that reads the year 99 goes astray. -/
theorem Zone.correctGuess_of_year99 {date s : Int} (hdate : year100 ≤ date)
    (hnear : |s - utcMidnightSecond date| ≤ 86400) (h : zone.localDate (1000 * s) < year100)
    (n : Nat) :
    date < year100 + 2 ∧ Astray (zone.correctGuess (utcMidnight date) (n + 1) (1000 * s)) := by
  have hlocal := zone.localDate_near hnear
  have hlate : date < year100 + 2 := by omega
  refine ⟨hlate, ?_⟩
  -- the last two days of the year 99 are taken for those of 1999
  have hday : makeDay (makeFullYear (zone.zonedParts (1000 * s)).year)
      (zone.zonedParts (1000 * s)).month (zone.zonedParts (1000 * s)).day =
        zone.localDate (1000 * s) + 693960 := by
    have hlast : zone.localDate (1000 * s) = year100 - 1 ∨
        zone.localDate (1000 * s) = year100 - 2 := by omega
    unfold zonedParts
    dsimp only
    rcases hlast with hlast | hlast <;> rw [hlast] <;> decide
  have hutc := zone.le_utc_zonedParts (1000 * s)
  have hs := abs_le.mp hnear
  rw [hday] at hutc
  have hastray : Astray (1000 * s + (utcMidnight date - (zone.zonedParts (1000 * s)).utc)) := by
    unfold Astray utcMidnight
    unfold utcMidnightSecond at hs
    unfold year100 at *
    unfold dayMs at *
    omega
  rw [correctGuess]
  split_ifs
  · exact hastray
  · exact zone.correctGuess_astray hlate hastray n

/-- Either no guess reads a year before 100, or the last one is astray. -/
theorem Zone.correctGuess_cases {date s : Int} (hdate : year100 ≤ date)
    (hnear : |s - utcMidnightSecond date| ≤ 86400) (n : Nat) :
    (∀ i < n, year100 ≤ zone.localDate
        (1000 * (correct zone.utcOffset (utcMidnightSecond date))^[i] s)) ∨
      date < year100 + 2 ∧ Astray (zone.correctGuess (utcMidnight date) n (1000 * s)) := by
  induction n generalizing s with
  | zero => exact .inl fun i hi => absurd hi (Nat.not_lt_zero i)
  | succ n ih =>
      rcases le_or_gt year100 (zone.localDate (1000 * s)) with hyear | hyear
      · rw [zone.correctGuess_succ hyear]
        refine (ih (abs_correct_sub_le zone.bounded _ s)).imp ?_ id
        intro hrest i hi
        cases i with
        | zero => exact hyear
        | succ i => exact hrest i (by omega)
      · exact .inr (zone.correctGuess_of_year99 hdate hnear hyear n)

/-! ## What the loop finds -/

/-- What the loop ends at. -/
def Zone.found (date : Int) : Int := zone.correctGuess (utcMidnight date) 4 (utcMidnight date)

/-- The guesses before the last. -/
def Zone.guess (date : Int) (i : Nat) : Int :=
  1000 * (correct zone.utcOffset (utcMidnightSecond date))^[i] (utcMidnightSecond date)

theorem Zone.localDate_of_readsMidnight {date instant : Int} (h : zone.ReadsMidnight date instant) :
    zone.localDate instant = date := by
  rw [localDate, h, utcMidnight]
  exact Int.mul_ediv_cancel _ (by decide)

theorem Zone.zonedParts_of_readsMidnight {date instant : Int} (hdate : year100 ≤ date)
    (h : zone.ReadsMidnight date instant) : zone.zonedParts instant = midnightParts date := by
  have hyear := hundred_le_iff.mpr hdate
  have hclock : zone.wallClock instant % dayMs = 0 := by
    rw [h, utcMidnight, Int.mul_emod_left]
  have hlocal := zone.localDate_of_readsMidnight h
  have hera : yearOfEraText (civilFromDays date).1 = (civilFromDays date).1 := if_pos (by omega)
  unfold zonedParts midnightParts
  dsimp only
  rw [hlocal, hclock, hera]
  rfl

/-- Near UTC midnight the parts of a date at midnight are read at its midnight only. -/
theorem Zone.readsMidnight_of_zonedParts {date s : Int} (hdate : year100 ≤ date)
    (hnear : |s - utcMidnightSecond date| ≤ 86400)
    (h : zone.zonedParts (1000 * s) = midnightParts date) : zone.ReadsMidnight date (1000 * s) := by
  have hyear : 99 ≤ (civilFromDays (zone.localDate (1000 * s))).1 := by
    rw [year_le_iff _ (year100 - 365) 99 (by decide)]
    have hlocal := zone.localDate_near hnear
    omega
  have hera : yearOfEraText (civilFromDays (zone.localDate (1000 * s))).1 =
      (civilFromDays (zone.localDate (1000 * s))).1 := if_pos (by omega)
  unfold zonedParts midnightParts at h
  obtain ⟨hyears, hmonths, hdays, hhour, hminute, hsecond⟩ := ZonedParts.mk.inj h
  rw [hera] at hyears
  have hlocal : zone.localDate (1000 * s) = date := by
    rw [← makeDay_civilFromDays (zone.localDate (1000 * s)), hyears, hmonths, hdays,
      makeDay_civilFromDays]
  have hclock := zone.wallClock_mul s
  unfold localDate at hlocal
  unfold ReadsMidnight utcMidnight
  unfold dayMs at *
  omega

/-- A midnight is read at a whole second. -/
theorem Zone.exists_reading {date : Int} (h : ∃ instant, zone.ReadsMidnight date instant) :
    ∃ s, reading zone.utcOffset s = utcMidnightSecond date := by
  obtain ⟨instant, hinstant⟩ := h
  refine ⟨instant / 1000, ?_⟩
  have hwhole : 1000 * (instant / 1000) = instant := by
    unfold ReadsMidnight wallClock at hinstant
    rw [utcMidnight_eq] at hinstant
    omega
  rw [← hwhole] at hinstant
  exact zone.readsMidnight_mul.mp hinstant

/-- Where the check lets it through, what was found is the fourth correction, and no guess read a
year before 100. -/
theorem Zone.found_eq_corrected {date : Int} (hdate : year100 ≤ date)
    (h : zone.zonedParts (zone.found date) = midnightParts date) :
    zone.found date = 1000 * zone.corrected date ∧
      ∀ i < 4, year100 ≤ zone.localDate (zone.guess date i) := by
  have hnear : |utcMidnightSecond date - utcMidnightSecond date| ≤ 86400 := by simp
  rcases zone.correctGuess_cases hdate hnear 4 with hyears | ⟨hlate, hastray⟩
  · have hfound := zone.correctGuess_eq_iterate hyears
    rw [← utcMidnight_eq] at hfound
    exact ⟨hfound, hyears⟩
  · -- the years of a guess that is astray are others
    rw [← utcMidnight_eq] at hastray
    have hyear := (zone.parts_astray hastray).1
    have hsame := congrArg ZonedParts.year h
    have hday : date = year100 ∨ date = year100 + 1 := by omega
    have hhundred : (midnightParts date).year = 100 := by
      rcases hday with rfl | rfl <;> decide
    rw [found] at hsame
    omega

/-- What the check lets through reads the date at midnight. -/
theorem Zone.readsMidnight_found {date : Int} (hdate : year100 ≤ date)
    (h : zone.zonedParts (zone.found date) = midnightParts date) :
    zone.ReadsMidnight date (zone.found date) := by
  have hfound := (zone.found_eq_corrected hdate h).1
  rw [hfound] at h ⊢
  exact zone.readsMidnight_of_zonedParts hdate (zone.abs_corrected_sub_le date) h

section OneTransition

variable {date lo hi : Int} (hchange : OneChange zone.utcOffset lo hi)
  (hlo : lo ≤ utcMidnightSecond date - 86400) (hhi : utcMidnightSecond date + 86400 ≤ hi)
  (hreads : ∃ instant, zone.ReadsMidnight date instant)

include hchange hlo hhi hreads

/-- With one change of the offset around it, a midnight that the clock reads is the second
correction, and the others stay there. -/
theorem Zone.iterate_correct_of_oneChange :
    (∀ i, (correct zone.utcOffset (utcMidnightSecond date))^[i + 2] (utcMidnightSecond date) =
      correct zone.utcOffset (utcMidnightSecond date)
        (correct zone.utcOffset (utcMidnightSecond date) (utcMidnightSecond date))) ∧
    reading zone.utcOffset (correct zone.utcOffset (utcMidnightSecond date)
      (correct zone.utcOffset (utcMidnightSecond date) (utcMidnightSecond date))) =
        utcMidnightSecond date := by
  have htwice := reading_correct_twice hchange zone.bounded hlo hhi (zone.exists_reading hreads)
  refine ⟨fun i => ?_, htwice⟩
  rw [Function.iterate_add_apply]
  exact iterate_correct_of_reading htwice i

/-- It is found unless a guess reads a year before 100. -/
theorem Zone.zonedParts_found_iff (hdate : year100 ≤ date) :
    zone.zonedParts (zone.found date) = midnightParts date ↔
      year100 ≤ zone.localDate (zone.guess date 0) ∧ year100 ≤ zone.localDate (zone.guess date 1) := by
  constructor
  · intro h
    have hyears := (zone.found_eq_corrected hdate h).2
    exact ⟨hyears 0 (by decide), hyears 1 (by decide)⟩
  · rintro ⟨hfirst, hsecond⟩
    obtain ⟨hstays, htwice⟩ := zone.iterate_correct_of_oneChange hchange hlo hhi hreads
    have hyears : ∀ i < 4, year100 ≤ zone.localDate (zone.guess date i) := by
      intro i hi
      match i with
      | 0 => exact hfirst
      | 1 => exact hsecond
      | i + 2 =>
          rw [guess, hstays, zone.localDate_of_readsMidnight (zone.readsMidnight_mul.mpr htwice)]
          exact hdate
    have hfound := zone.correctGuess_eq_iterate hyears
    rw [hstays 2, ← utcMidnight_eq] at hfound
    rw [found, hfound]
    exact zone.zonedParts_of_readsMidnight hdate (zone.readsMidnight_mul.mpr htwice)

end OneTransition

/-! ## The resolvers on the text of a date -/

theorem Zone.resolve_eq_ok {date instant : Int} {rejection : Rejection} (hdate : year100 ≤ date) :
    zone.resolve (midnightParts date) rejection = .ok instant ↔
      zone.zonedParts (zone.found date) = midnightParts date ∧ zone.found date = instant := by
  rw [resolve, utc_midnightParts hdate, bind_eq_ok]
  constructor
  · rintro ⟨_, hcheck, hresult⟩
    exact ⟨ensure_eq_ok.mp hcheck, Except.ok.inj hresult⟩
  · rintro ⟨hcheck, rfl⟩
    exact ⟨(), ensure_eq_ok.mpr hcheck, rfl⟩

/-- The check of the calendar lets the years from 100 on through. -/
theorem civilFromDays_calendar {date : Int} (h : CalendarDate date) :
    civilFromDays (dateUTC (civilFromDays date).1 (civilFromDays date).2.1 (civilFromDays date).2.2
      0 0 0 / dayMs) = civilFromDays date ↔ year100 ≤ date := by
  have hday : ∀ year month dayOfMonth, dateUTC year month dayOfMonth 0 0 0 / dayMs =
      makeDay (makeFullYear year) month dayOfMonth := by
    intro year month dayOfMonth
    unfold dateUTC dayMs
    omega
  obtain ⟨hmonth, hmonthLe, hdayOfMonth, -⟩ := civilFromDays_bounds date
  rw [hday, ← hundred_le_iff]
  constructor
  · intro hsame
    by_contra hlt
    have hyear := (year_le_iff date (-719528) 0 (by decide)).mpr h.1
    have hlate := le_makeDay (show 0 ≤ 1900 + (civilFromDays date).1 by omega) hmonth hmonthLe
      hdayOfMonth
    rw [makeFullYear, if_pos ⟨hyear, by omega⟩] at hsame
    have hdate := congrArg (fun civil : Int × Int × Int => makeDay civil.1 civil.2.1 civil.2.2) hsame
    beta_reduce at hdate
    rw [makeDay_civilFromDays, makeDay_civilFromDays] at hdate
    have hbefore := mt hundred_le_iff.mpr hlt
    unfold year100 at hbefore
    omega
  · intro hyear
    rw [makeFullYear_of_le hyear, makeDay_civilFromDays]

/-- The three resolvers, of a date. -/
def Zone.resolvers : List (Int → Except Rejection Int) :=
  [fun date => zone.payrollBoundary (isoDate date),
    fun date => zone.zonedDateTimeToUtc (midnightParts date),
    fun date => zone.localMidnight (isoDate date)]

theorem isJsSpace_isoDate (date : Int) : ∀ c ∈ (isoDate date).toList, isJsSpace c = false := by
  have hdigit : ∀ {c : Char}, c.isDigit = true → isJsSpace c = false := isJsSpace_of_digit
  intro c hc
  rw [toList_isoDate] at hc
  simp only [List.mem_append, List.mem_cons] at hc
  rcases hc with hc | rfl | hc | rfl | hc
  · exact hdigit (isDigit_of_mem_padded _ hc)
  · decide
  · exact hdigit (isDigit_of_mem_padded _ hc)
  · decide
  · exact hdigit (isDigit_of_mem_padded _ hc)

/-- Each resolver gives what the loop finds, of a date from the year 100 on, where it reads the
date at midnight. -/
theorem Zone.resolvers_eq_ok {date instant : Int} (h : CalendarDate date)
    {resolver : Int → Except Rejection Int} (hresolver : resolver ∈ zone.resolvers) :
    resolver date = .ok instant ↔ year100 ≤ date ∧
      zone.zonedParts (zone.found date) = midnightParts date ∧ zone.found date = instant := by
  have hmatch := matchDate?_isoDate h
  have hcheck : ∀ calendar rejection : Rejection,
      (ensure (civilFromDays (dateUTC (civilFromDays date).1 (civilFromDays date).2.1
          (civilFromDays date).2.2 0 0 0 / dayMs) = civilFromDays date) calendar >>= fun _ =>
        zone.resolve (midnightParts date) rejection) = .ok instant ↔ year100 ≤ date ∧
          zone.zonedParts (zone.found date) = midnightParts date ∧ zone.found date = instant := by
    intro calendar rejection
    rw [bind_eq_ok]
    constructor
    · rintro ⟨_, hcalendar, hrest⟩
      have hdate := (civilFromDays_calendar h).mp (ensure_eq_ok.mp hcalendar)
      exact ⟨hdate, (zone.resolve_eq_ok hdate).mp hrest⟩
    · rintro ⟨hdate, hfound⟩
      exact ⟨(), ensure_eq_ok.mpr ((civilFromDays_calendar h).mpr hdate),
        (zone.resolve_eq_ok hdate).mpr hfound⟩
  simp only [resolvers, List.mem_cons, List.not_mem_nil, or_false] at hresolver
  rcases hresolver with rfl | rfl | rfl
  · beta_reduce
    rw [payrollBoundary, normalizeDateOnly, jsTrim_eq_self (isJsSpace_isoDate date), hmatch]
    rw [← hcheck (.problem 422 "invalid_payroll_date" "date must be a valid calendar date."
      "Payroll validation failed") (.problem 422 "invalid_payroll_boundary"
      "The local payroll boundary does not exist in its timezone." "Payroll validation failed")]
    exact Eq.to_iff (congrArg (· = Except.ok instant) (bind_assoc _ _ _))
  · exact hcheck _ _
  · beta_reduce
    rw [localMidnight, parseLocalDate, hmatch]
    rw [← hcheck (.problem 422 "invalid_local_date" "Date is not a valid calendar day."
      "Invalid date") (.problem 422 "invalid_local_date"
      "The selected local date cannot be represented in the location timezone." "Invalid date")]
    exact Eq.to_iff (congrArg (· = Except.ok instant) (bind_assoc _ _ _))

/-- The resolver of the first API on the text of a date. -/
theorem Zone.localDateBoundaryUtc_isoDate {date instant : Int} (h : CalendarDate date)
    (hdate : year100 + 2 ≤ date) :
    zone.localDateBoundaryUtc (isoDate date) = .ok instant ↔
      zone.ReadsMidnight date instant ∧ instant = 1000 * zone.corrected date := by
  have hhundred : year100 ≤ date := by omega
  have hfound : zone.found date = 1000 * zone.corrected date := zone.correctGuess_eq_corrected hdate
  have hresolver : zone.zonedDateTimeToUtc (midnightParts date) = .ok instant ↔ _ :=
    zone.resolvers_eq_ok h (List.mem_cons_of_mem _ List.mem_cons_self)
  rw [localDateBoundaryUtc, matchDate?_isoDate h]
  refine hresolver.trans ?_
  constructor
  · rintro ⟨-, hparts, rfl⟩
    exact ⟨zone.readsMidnight_found hhundred hparts, hfound⟩
  · rintro ⟨hreads, rfl⟩
    rw [hfound]
    exact ⟨hhundred, zone.zonedParts_of_readsMidnight hhundred hreads, rfl⟩

/-! ## Every date -/

/-- The offset changes at most once within 48 hours of the date. -/
def Zone.OneTransition (date : Int) : Prop :=
  OneChange zone.utcOffset (utcMidnightSecond date - 172800) (utcMidnightSecond date + 172800)

/-- The resolvers find the midnight of the date if there is one, and reject the date otherwise;
they agree, and the next date does not begin before it. -/
structure Zone.MidnightResolved (date : Int) : Prop where
  found : (∃ instant, zone.ReadsMidnight date instant) → ∀ resolver ∈ zone.resolvers,
    ∃ instant, resolver date = .ok instant ∧ zone.ReadsMidnight date instant
  rejected : (¬∃ instant, zone.ReadsMidnight date instant) → ∀ resolver ∈ zone.resolvers,
    ∃ rejection, resolver date = .error rejection
  agree : ∀ resolver ∈ zone.resolvers, ∀ other ∈ zone.resolvers, ∀ instant,
    resolver date = .ok instant ↔ other date = .ok instant
  increasing : ∀ resolver ∈ zone.resolvers, CalendarDate (date + 1) → ∀ instant next,
    resolver date = .ok instant → resolver (date + 1) = .ok next → instant < next

/-- The resolvers do so exactly if no instant reads the date at midnight, or its year and the years
that the clock reads at UTC midnight of the date and an offset before it are 100 or later. -/
theorem midnightResolved_iff (zone : Zone) {date : Int} (h : CalendarDate date)
    (hchange : zone.OneTransition date) :
    zone.MidnightResolved date ↔ ((∃ instant, zone.ReadsMidnight date instant) →
      year100 ≤ date ∧ year100 ≤ zone.localDate (utcMidnight date) ∧
        year100 ≤ zone.localDate
          (utcMidnight date - 1000 * zone.utcOffset (utcMidnightSecond date))) := by
  have hfirst : zone.guess date 0 = utcMidnight date := (utcMidnight_eq date).symm
  have hsecond : zone.guess date 1 =
      utcMidnight date - 1000 * zone.utcOffset (utcMidnightSecond date) := by
    show 1000 * (utcMidnightSecond date - _) = _
    rw [utcMidnight_eq]
    ring
  rw [← hsecond, ← hfirst]
  have hlo : utcMidnightSecond date - 172800 ≤ utcMidnightSecond date - 86400 := by omega
  have hhi : utcMidnightSecond date + 86400 ≤ utcMidnightSecond date + 172800 := by omega
  constructor
  · intro hresolved hreads
    obtain ⟨instant, hok, -⟩ := hresolved.found hreads _ (List.mem_cons_self)
    obtain ⟨hdate, hparts, -⟩ := (zone.resolvers_eq_ok h List.mem_cons_self).mp hok
    exact ⟨hdate, (zone.zonedParts_found_iff hchange hlo hhi hreads hdate).mp hparts⟩
  · intro hcondition
    refine ⟨?_, ?_, ?_, ?_⟩
    · intro hreads resolver hresolver
      obtain ⟨hdate, hyears⟩ := hcondition hreads
      have hparts := (zone.zonedParts_found_iff hchange hlo hhi hreads hdate).mpr hyears
      exact ⟨zone.found date, (zone.resolvers_eq_ok h hresolver).mpr ⟨hdate, hparts, rfl⟩,
        zone.readsMidnight_found hdate hparts⟩
    · intro hnone resolver hresolver
      cases hresult : resolver date with
      | error rejection => exact ⟨rejection, rfl⟩
      | ok instant =>
          obtain ⟨hdate, hparts, -⟩ := (zone.resolvers_eq_ok h hresolver).mp hresult
          exact absurd ⟨_, zone.readsMidnight_found hdate hparts⟩ hnone
    · intro resolver hresolver other hother instant
      rw [zone.resolvers_eq_ok h hresolver, zone.resolvers_eq_ok h hother]
    · intro resolver hresolver hnext instant next hok hokNext
      obtain ⟨hdate, hparts, rfl⟩ := (zone.resolvers_eq_ok h hresolver).mp hok
      obtain ⟨hdate', hparts', rfl⟩ := (zone.resolvers_eq_ok hnext hresolver).mp hokNext
      have hnextSecond : utcMidnightSecond (date + 1) = utcMidnightSecond date + 86400 := by
        unfold utcMidnightSecond
        ring
      obtain ⟨hstays, htwice⟩ := zone.iterate_correct_of_oneChange hchange hlo hhi
        ⟨_, zone.readsMidnight_found hdate hparts⟩
      have hlo' : utcMidnightSecond date - 172800 ≤ utcMidnightSecond (date + 1) - 86400 := by omega
      have hhi' : utcMidnightSecond (date + 1) + 86400 ≤ utcMidnightSecond date + 172800 := by omega
      obtain ⟨hstays', htwice'⟩ := zone.iterate_correct_of_oneChange hchange hlo' hhi'
        ⟨_, zone.readsMidnight_found hdate' hparts'⟩
      have hlt := correct_twice_lt hchange zone.bounded (by omega) hlo hhi' htwice htwice'
      rw [(zone.found_eq_corrected hdate hparts).1, (zone.found_eq_corrected hdate' hparts').1]
      rw [Zone.corrected, Zone.corrected, hstays 2, hstays' 2]
      omega

namespace Sample

/-- A zone with one offset before a second and another from it on. -/
def transition (change before after : Int) (hbefore : |before| ≤ 86400) (hafter : |after| ≤ 86400) :
    Zone where
  utcOffset second := if second < change then before else after
  bounded second := by
    split
    · exact hbefore
    · exact hafter

/-- New York around March 8, 2026. -/
def newYork : Zone := transition 1772953200 (-18000) (-14400) (by decide) (by decide)

def utc : Zone := transition 0 0 0 (by decide) (by decide)

/-- The day on which New York goes an hour forward. -/
theorem midnightResolved_newYork :
    CalendarDate 20520 ∧ newYork.OneTransition 20520 ∧ newYork.MidnightResolved 20520 := by
  have hdate : CalendarDate 20520 := by decide
  have hchange : newYork.OneTransition 20520 := ⟨1772953200, -18000, -14400, fun _ _ _ => rfl⟩
  exact ⟨hdate, hchange, (midnightResolved_iff newYork hdate hchange).mpr fun _ => by decide⟩

/-- 0050-06-15 begins at an instant, in UTC, and no resolver finds it. -/
theorem not_midnightResolved_year50 :
    isoDate (-701100) = "0050-06-15" ∧ CalendarDate (-701100) ∧ utc.OneTransition (-701100) ∧
      utc.ReadsMidnight (-701100) (utcMidnight (-701100)) ∧ ¬utc.MidnightResolved (-701100) := by
  have hdate : CalendarDate (-701100) := by decide
  have hreads : utc.ReadsMidnight (-701100) (utcMidnight (-701100)) := by decide
  refine ⟨by decide +kernel, hdate, ⟨0, 0, 0, fun _ _ _ => rfl⟩, hreads, fun h => ?_⟩
  obtain ⟨instant, hok, -⟩ := h.found ⟨_, hreads⟩ _ List.mem_cons_self
  exact absurd ((utc.resolvers_eq_ok hdate List.mem_cons_self).mp hok).1 (by decide)

end Sample

end LunchLineup.TimeZones
