import LunchLineup.Lib.Comparator
import LunchLineup.TimeZones.LocalMidnight

/-!
# The time window of a shift in its form

The form of a shift or of a demand window keeps one local date and two times, `HH:MM`.
`localTimeWindowFromInstants` fills it from two instants and `serializeLocalTimeWindow`
resolves it again: an end before the start is taken for one on the next day, and a local
time that another instant within three hours reads is refused.

A local time stands for the number of milliseconds at which a clock set to UTC reads it.
`unambiguousLocalDateTimeToIso_eq_ok` says which local times are answered, and with what:
`fourthGuess` of those that the zone reads at one instant only in the three hours around
it, in the years from 1000 to 9999.
-/

namespace LunchLineup.TimeZones.ShiftWindow

open LunchLineup.Lib LunchLineup.Python LunchLineup.Python.Reference LunchLineup.Pagination
open LunchLineup.Payroll (padded toISOString)

/-! ## `location-timezone.ts`

The name of the zone is a valid one, which `safeTimeZone` lets through. -/

/-- `` `${pad(hour)}:${pad(minute)}` ``. -/
def timeText (hour minute : Int) : String := padded 2 hour ++ ":" ++ padded 2 minute

/-- `requiredDate` of a text. -/
def requiredDate (value : String) : Except String Int :=
  match newDate value.toList with
  | some instant => .ok instant
  | none => .error "Invalid date/time value."

/-- `parseDateValue`. -/
def parseDateValue (value : String) : Except String (Int × Int × Int) :=
  match matchDate? value with
  | some parts => .ok parts
  | none => .error "Date must use YYYY-MM-DD."

/-- The numbers that `/^(\d{2}):(\d{2})$/` finds in a text. -/
def matchTime? (text : String) : Option (Int × Int) := do
  let (hour, rest) ← digits? 2 text.toList
  let rest ← expect? ':' rest
  let (minute, rest) ← digits? 2 rest
  if rest = [] then some (hour, minute) else none

/-- `parseTimeValue`. -/
def parseTimeValue (value : String) : Except String (Int × Int) :=
  match matchTime? value with
  | some (hour, minute) => do
      ensure (¬(23 < hour ∨ 59 < minute)) "Time is outside the valid range."
      .ok (hour, minute)
  | none => .error "Time must use HH:MM."

/-- `addLocalDays`. -/
def addLocalDays (value : String) (days : Int) : Except String String := do
  let (year, month, day) ← parseDateValue value
  let date := civilFromDays (makeDay (makeFullYear year) month (day + days))
  .ok (dateValue date.1 date.2.1 date.2.2)

variable (zone : Zone)

/-- `dateValueInTimeZone`. -/
def dateValueInTimeZone (value : String) : Except String String := do
  let instant ← requiredDate value
  let parts := zone.zonedParts instant
  .ok (dateValue parts.year parts.month parts.day)

/-- `timeValueInTimeZone`. -/
def timeValueInTimeZone (value : String) : Except String String := do
  let instant ← requiredDate value
  let parts := zone.zonedParts instant
  .ok (timeText parts.hour parts.minute)

/-- `zonedDateTimeToUtc`. -/
def zonedDateTimeToUtc (target : ZonedParts) : Except String Int := do
  let calendar := target.utc / dayMs
  ensure (civilFromDays calendar = (target.year, target.month, target.day))
    "Invalid local calendar date."
  let result := zone.correctGuess target.utc 4 target.utc
  ensure (zone.zonedParts result = target)
    "Local date/time does not exist in the location timezone."
  .ok result

/-- `localDateTimeToIso`. -/
def localDateTimeToIso (date time : String) : Except String String := do
  let (year, month, day) ← parseDateValue date
  let (hour, minute) ← parseTimeValue time
  let instant ← zonedDateTimeToUtc zone ⟨year, month, day, hour, minute, 0⟩
  .ok (toISOString instant)

/-- `hasEquivalentWallClockInstant`. -/
def hasEquivalentWallClockInstant (instant : Int) (target : ZonedParts) : Bool :=
  (List.range 12).any fun i => [-1, 1].any fun direction : Int =>
    decide (zone.zonedParts (instant + direction * (15 * (i + 1)) * 60000) = target)

/-- `unambiguousLocalDateTimeToIso`. -/
def unambiguousLocalDateTimeToIso (date time : String) : Except String String := do
  let iso ← localDateTimeToIso zone date time
  let instant ← requiredDate iso
  let target := zone.zonedParts instant
  ensure (hasEquivalentWallClockInstant zone instant target = false)
    "Local date/time is ambiguous during the daylight-saving fallback. Choose a different time."
  .ok iso

/-! ## `local-time-window.ts` -/

structure LocalTimeWindow where
  date : String
  startTime : String
  endTime : String
  deriving DecidableEq

structure SerializedTimeWindow where
  startTime : String
  endTime : String
  deriving DecidableEq

/-- `serializeLocalTimeWindow`. -/
def serializeLocalTimeWindow (window : LocalTimeWindow) : Except String SerializedTimeWindow := do
  let startTime ← unambiguousLocalDateTimeToIso zone window.date window.startTime
  ensure (window.endTime ≠ window.startTime) "End time must be after start time."
  let endDate ← (if codeUnits window.endTime < codeUnits window.startTime
    then addLocalDays window.date 1 else .ok window.date)
  let endTime ← unambiguousLocalDateTimeToIso zone endDate window.endTime
  .ok ⟨startTime, endTime⟩

/-- `localTimeWindowFromInstants`. -/
def localTimeWindowFromInstants (startTime endTime : String) : Except String LocalTimeWindow := do
  let date ← dateValueInTimeZone zone startTime
  let start ← timeValueInTimeZone zone startTime
  let stop ← timeValueInTimeZone zone endTime
  .ok ⟨date, start, stop⟩

/-- What is saved of a window that is opened and not changed. -/
def roundTrip (start stop : Int) : Except String SerializedTimeWindow := do
  let window ← localTimeWindowFromInstants zone (toISOString start) (toISOString stop)
  serializeLocalTimeWindow zone window

/-! ## The texts of times -/

/-- The text of a minute of the day. -/
def minuteText (minute : Int) : String := timeText (minute / 60) (minute % 60)

theorem codeUnits_append (left right : String) :
    codeUnits (left ++ right) = codeUnits left ++ codeUnits right := by
  rw [codeUnits, String.toList_append, List.flatMap_append]
  rfl

theorem codeUnits_padded {n : Int} (h : 0 ≤ n) (hlt : n < 60) :
    codeUnits (padded 2 n) = [48 + n.toNat / 10, 48 + n.toNat % 10] := by
  have hall : ∀ n : Fin 60,
      codeUnits (padded 2 (n.val : Int)) = [48 + n.val / 10, 48 + n.val % 10] := by decide +kernel
  have hn := hall ⟨n.toNat, by omega⟩
  rwa [show ((n.toNat : Nat) : Int) = n by omega] at hn

theorem codeUnits_minuteText {minute : Int} (h : 0 ≤ minute) (hlt : minute < 1440) :
    codeUnits (minuteText minute) =
      [48 + (minute / 60).toNat / 10, 48 + (minute / 60).toNat % 10, 58,
        48 + (minute % 60).toNat / 10, 48 + (minute % 60).toNat % 10] := by
  have hcolon : codeUnits ":" = [58] := by decide
  rw [minuteText, timeText, codeUnits_append, codeUnits_append, hcolon,
    codeUnits_padded (by omega) (by omega), codeUnits_padded (by omega) (by omega)]
  rfl

/-- The texts of times compare as the times do. -/
theorem minuteText_lt_iff {minute other : Int} (h : 0 ≤ minute) (hlt : minute < 1440)
    (h' : 0 ≤ other) (hlt' : other < 1440) :
    codeUnits (minuteText minute) < codeUnits (minuteText other) ↔ minute < other := by
  rw [codeUnits_minuteText h hlt, codeUnits_minuteText h' hlt']
  simp only [List.cons_lt_cons_iff, and_false, or_false, lt_irrefl, false_or,
    true_and]
  omega

theorem minuteText_inj {minute other : Int} (h : 0 ≤ minute) (hlt : minute < 1440)
    (h' : 0 ≤ other) (hlt' : other < 1440) : minuteText minute = minuteText other ↔ minute = other := by
  constructor
  · intro heq
    have hnot := mt (minuteText_lt_iff h hlt h' hlt').mpr
    have hnot' := mt (minuteText_lt_iff h' hlt' h hlt).mpr
    rw [heq] at hnot hnot'
    have hle := hnot (lt_irrefl _)
    have hge := hnot' (lt_irrefl _)
    omega
  · rintro rfl
    rfl

theorem parseTimeValue_minuteText {minute : Int} (h : 0 ≤ minute) (hlt : minute < 1440) :
    parseTimeValue (minuteText minute) = .ok (minute / 60, minute % 60) := by
  have hlist : (minuteText minute).toList =
      (padded 2 (minute / 60)).toList ++ ':' :: ((padded 2 (minute % 60)).toList ++ []) := by
    simp [minuteText, timeText]
  have hhour : (minute / 60).natAbs < 10 ^ 2 := by omega
  have hminute : (minute % 60).natAbs < 10 ^ 2 := by omega
  have hhourAbs : ((minute / 60).natAbs : Int) = minute / 60 := by omega
  have hminuteAbs : ((minute % 60).natAbs : Int) = minute % 60 := by omega
  have hmatch : matchTime? (minuteText minute) = some (minute / 60, minute % 60) := by
    rw [matchTime?, hlist]
    simp only [digits?_padded (show 0 < 2 by decide) hhour, Option.bind_eq_bind, Option.bind_some,
      expect?, if_true, digits?_padded (show 0 < 2 by decide) hminute, hhourAbs, hminuteAbs]
  rw [parseTimeValue, hmatch]
  dsimp only
  rw [ensure_of_true _ (by omega)]
  rfl

/-! ## Local times -/

/-- The parts of a local time. -/
def localParts (localTime : Int) : ZonedParts :=
  let date := civilFromDays (localTime / dayMs)
  let clock := localTime % dayMs
  ⟨date.1, date.2.1, date.2.2, clock / 3600000, clock / 60000 % 60, clock / 1000 % 60⟩

/-- From the year 1 on the clock shows the parts of what it reads. -/
theorem zonedParts_eq {instant : Int} (h : 1 ≤ (civilFromDays (zone.localDate instant)).1) :
    zone.zonedParts instant = localParts (zone.wallClock instant) := by
  have hera : yearOfEraText (civilFromDays (zone.localDate instant)).1 =
      (civilFromDays (zone.localDate instant)).1 := if_pos h
  unfold Zone.zonedParts
  dsimp only
  rw [hera]
  rfl

/-- The parts of a whole second tell it. -/
theorem localParts_inj {first second : Int} (h : 1000 ∣ first) (h' : 1000 ∣ second)
    (heq : localParts first = localParts second) : first = second := by
  unfold localParts at heq
  obtain ⟨hyear, hmonth, hday, hhour, hminute, hsecond⟩ := ZonedParts.mk.inj heq
  have hdate : first / dayMs = second / dayMs := by
    rw [← makeDay_civilFromDays (first / dayMs), hyear, hmonth, hday, makeDay_civilFromDays]
  unfold dayMs at *
  omega

theorem utc_localParts {localTime : Int} (h : 1000 ∣ localTime) (hdate : year100 ≤ localTime / dayMs) :
    (localParts localTime).utc = localTime := by
  have hyear := hundred_le_iff.mpr hdate
  unfold ZonedParts.utc dateUTC localParts
  dsimp only
  rw [makeFullYear_of_le hyear, makeDay_civilFromDays]
  unfold dayMs at *
  omega

/-- What the corrections of a local time lead to. -/
def fourthGuess (localTime : Int) : Int :=
  1000 * (correct zone.utcOffset (localTime / 1000))^[4] (localTime / 1000)

/-- An hour of the clock that may stand for another instant is looked for this far away. -/
def threeHours : Int := 10800000

/-- A local time is answered: its year has four digits, the corrections lead to an instant
that reads it, and no other instant within three hours does. -/
structure Answered (localTime : Int) : Prop where
  first : year1000 ≤ localTime / dayMs
  last : localTime / dayMs < year10000
  reads : zone.wallClock (fourthGuess zone localTime) = localTime
  alone : ∀ instant, zone.wallClock instant = localTime →
    |instant - fourthGuess zone localTime| ≤ threeHours → instant = fourthGuess zone localTime

section

variable {localTime : Int} (hwhole : 1000 ∣ localTime) (hfirst : year1000 ≤ localTime / dayMs)

include hwhole

theorem abs_fourthGuess_sub_le : |fourthGuess zone localTime - localTime| ≤ 86400000 := by
  have hnear := abs_iterate_correct_sub_le zone.bounded (localTime / 1000) 4
  rw [abs_le] at hnear ⊢
  unfold fourthGuess
  omega

include hfirst

/-- Near a local time of a later year than 999 the clock reads such a year. -/
theorem year100_near {instant : Int} (h : |instant - localTime| ≤ 2 * 86400000) :
    year100 ≤ zone.localDate instant := by
  have hoffset := abs_le.mp (zone.bounded (instant / 1000))
  rw [abs_le] at h
  unfold Zone.localDate Zone.wallClock
  unfold year1000 at hfirst
  unfold year100
  unfold dayMs at *
  omega

theorem correctGuess_eq : zone.correctGuess localTime 4 localTime = fourthGuess zone localTime := by
  have hmul : 1000 * (localTime / 1000) = localTime := Int.mul_ediv_cancel' hwhole
  have hyears : ∀ i < 4, year100 ≤ zone.localDate
      (1000 * (correct zone.utcOffset (localTime / 1000))^[i] (localTime / 1000)) := by
    intro i _
    apply year100_near zone hwhole hfirst
    have hnear := abs_iterate_correct_sub_le zone.bounded (localTime / 1000) i
    rw [abs_le] at hnear ⊢
    omega
  have hiterate := zone.correctGuess_mul_eq_iterate hyears
  rwa [hmul] at hiterate

theorem zonedParts_near {instant : Int} (h : |instant - localTime| ≤ 2 * 86400000) :
    zone.zonedParts instant = localParts (zone.wallClock instant) := by
  have hyear := hundred_le_iff.mpr (year100_near zone hwhole hfirst h)
  exact zonedParts_eq zone (by omega)

/-- The check of the loop. -/
theorem zonedParts_fourthGuess :
    zone.zonedParts (fourthGuess zone localTime) = localParts localTime ↔
      zone.wallClock (fourthGuess zone localTime) = localTime := by
  have hnear := abs_fourthGuess_sub_le zone hwhole
  rw [zonedParts_near zone hwhole hfirst (by omega)]
  constructor
  · apply localParts_inj _ hwhole
    rw [fourthGuess, zone.wallClock_mul]
    exact dvd_mul_right _ _
  · intro h
    rw [h]

end

/-! ## Another instant that reads the same -/

/-- The offset changes by a multiple of 15 minutes, by three hours at most. -/
structure QuarterHourChanges : Prop where
  quarter : ∀ second, 900 ∣ zone.utcOffset (second + 1) - zone.utcOffset second
  bounded : ∀ second, |zone.utcOffset (second + 1) - zone.utcOffset second| ≤ 10800

/-- The offsets at any two seconds differ by a multiple of 15 minutes. -/
theorem QuarterHourChanges.dvd_sub (h : QuarterHourChanges zone) (first second : Int) :
    900 ∣ zone.utcOffset second - zone.utcOffset first := by
  have hsteps : ∀ (start : Int) (n : Nat), 900 ∣ zone.utcOffset (start + n) - zone.utcOffset start := by
    intro start n
    induction n with
    | zero => simp
    | succ n ih =>
        have hstep := dvd_add (h.quarter (start + n)) ih
        rwa [sub_add_sub_cancel, add_assoc, ← Nat.cast_succ] at hstep
  rcases le_total first second with hle | hle
  · have hforward := hsteps first (second - first).toNat
    rwa [show first + ((second - first).toNat : Int) = second by omega] at hforward
  · have hback := hsteps second (first - second).toNat
    rw [show second + ((first - second).toNat : Int) = first by omega] at hback
    rwa [dvd_sub_comm]

/-- The search looks at twelve quarters of an hour before and after. -/
theorem hasEquivalentWallClockInstant_iff (instant : Int) (target : ZonedParts) :
    hasEquivalentWallClockInstant zone instant target = true ↔
      ∃ k : Int, k ≠ 0 ∧ |k| ≤ 12 ∧ zone.zonedParts (instant + 900000 * k) = target := by
  unfold hasEquivalentWallClockInstant
  rw [List.any_eq_true]
  constructor
  · rintro ⟨i, hi, hfound⟩
    rw [List.mem_range] at hi
    rw [List.any_eq_true] at hfound
    obtain ⟨direction, hdirection, hsame⟩ := hfound
    have hsign : direction = -1 ∨ direction = 1 := by simpa using hdirection
    refine ⟨direction * (i + 1), ?_, ?_, ?_⟩
    · rcases hsign with rfl | rfl <;> omega
    · rw [abs_le]
      rcases hsign with rfl | rfl <;> omega
    · have hcandidate : instant + 900000 * (direction * (i + 1)) =
          instant + direction * (15 * (i + 1)) * 60000 := by ring
      rw [hcandidate]
      exact of_decide_eq_true hsame
  · rintro ⟨k, hne, hk, hsame⟩
    rw [abs_le] at hk
    refine ⟨k.natAbs - 1, List.mem_range.mpr (by omega), ?_⟩
    rw [List.any_eq_true]
    have hquarters : ((k.natAbs - 1 : Nat) : Int) + 1 = |k| := by
      rw [← Int.natCast_natAbs]
      omega
    refine ⟨k.sign, ?_, ?_⟩
    · rcases lt_or_gt_of_ne hne with hneg | hpos
      · simp [Int.sign_eq_neg_one_of_neg hneg]
      · simp [Int.sign_eq_one_of_pos hpos]
    · have hcandidate : instant + k.sign * (15 * (((k.natAbs - 1 : Nat) : Int) + 1)) * 60000 =
          instant + 900000 * k := by
        calc
          instant + k.sign * (15 * (((k.natAbs - 1 : Nat) : Int) + 1)) * 60000 =
              instant + 900000 * (k.sign * |k|) := by rw [hquarters]; ring
          _ = instant + 900000 * k := by rw [Int.sign_mul_abs]
      rw [hcandidate]
      exact decide_eq_true hsame

/-- The search in steps of 15 minutes finds every other instant within three hours. -/
theorem hasEquivalentWallClockInstant_eq_false (hquarter : QuarterHourChanges zone)
    {localTime instant : Int} (hwhole : 1000 ∣ localTime) (hfirst : year1000 ≤ localTime / dayMs)
    (hreads : zone.wallClock instant = localTime) (hnear : |instant - localTime| ≤ 86400000) :
    hasEquivalentWallClockInstant zone instant (zone.zonedParts instant) = false ↔
      ∀ other, zone.wallClock other = localTime → |other - instant| ≤ threeHours →
        other = instant := by
  have hparts : ∀ other, |other - instant| ≤ threeHours → 1000 ∣ zone.wallClock other →
      (zone.zonedParts other = zone.zonedParts instant ↔ zone.wallClock other = localTime) := by
    intro other hother hsecond
    unfold threeHours at hother
    rw [abs_le] at hnear hother
    rw [zonedParts_near zone hwhole hfirst (abs_le.mpr ⟨by omega, by omega⟩),
      zonedParts_near zone hwhole hfirst (abs_le.mpr ⟨by omega, by omega⟩), hreads]
    exact ⟨localParts_inj hsecond hwhole, fun heq => by rw [heq]⟩
  rw [← Bool.not_eq_true, hasEquivalentWallClockInstant_iff]
  constructor
  · intro hnone other hother hclose
    by_contra hne
    -- the two instants are apart by what the offset changed in between
    obtain ⟨k, hk⟩ := QuarterHourChanges.dvd_sub zone hquarter (other / 1000) (instant / 1000)
    have hapart : other = instant + 900000 * k := by
      have hsame := hother.trans hreads.symm
      unfold Zone.wallClock at hsame
      omega
    have hfound := (hparts other hclose (by rwa [hother])).mpr hother
    have hclose := abs_le.mp hclose
    unfold threeHours at hclose
    rw [hapart] at hfound
    exact hnone ⟨k, by omega, abs_le.mpr ⟨by omega, by omega⟩, hfound⟩
  · rintro halone ⟨k, hne, hk, hsame⟩
    have hclose : |instant + 900000 * k - instant| ≤ threeHours := by
      unfold threeHours
      rw [abs_le] at hk ⊢
      omega
    have hsecond : 1000 ∣ zone.wallClock (instant + 900000 * k) := by
      unfold Zone.wallClock at hreads ⊢
      omega
    have heq := halone _ ((hparts _ hclose hsecond).mp hsame) hclose
    omega

/-! ## What is answered -/

theorem parseDateValue_eq {year month day : Int} (h : 1000 ≤ year) (hle : year ≤ 9999)
    (hmonth : 1 ≤ month ∧ month ≤ 12) (hday : 1 ≤ day ∧ day ≤ 31) :
    parseDateValue (dateValue year month day) = .ok (year, month, day) := by
  rw [parseDateValue, matchDate?_four hmonth hday h hle]

/-- A text with another year is refused. -/
theorem parseDateValue_other {year : Int} (month day : Int) (h : 0 ≤ year)
    (hother : ¬(1000 ≤ year ∧ year ≤ 9999)) :
    parseDateValue (dateValue year month day) = .error "Date must use YYYY-MM-DD." := by
  rw [parseDateValue, matchDate?_other month day h hother]

/-- The text of a date. -/
def dateText (date : Int) : String :=
  dateValue (civilFromDays date).1 (civilFromDays date).2.1 (civilFromDays date).2.2

theorem validTime_fourthGuess {localTime : Int} (hwhole : 1000 ∣ localTime)
    (hfirst : year1000 ≤ localTime / dayMs) (hlast : localTime / dayMs < year10000) :
    ValidTime (fourthGuess zone localTime) := by
  have hnear := abs_le.mp (abs_fourthGuess_sub_le zone hwhole)
  unfold ValidTime
  unfold year1000 at hfirst
  unfold year10000 at hlast
  unfold dayMs at *
  omega

/-- The local time of a date at a minute of the day. -/
def atMinute (date minute : Int) : Int := date * dayMs + minute * 60000

theorem dvd_atMinute (date minute : Int) : 1000 ∣ atMinute date minute := by
  unfold atMinute dayMs
  omega

section

variable {date minute : Int} (h : 0 ≤ minute) (hlt : minute < 1440)

include h hlt

theorem atMinute_div : atMinute date minute / dayMs = date := by
  unfold atMinute dayMs
  omega

theorem localParts_atMinute :
    localParts (atMinute date minute) = ⟨(civilFromDays date).1, (civilFromDays date).2.1,
      (civilFromDays date).2.2, minute / 60, minute % 60, 0⟩ := by
  have hclock : atMinute date minute % dayMs = minute * 60000 := by
    unfold atMinute dayMs
    omega
  have hhour : minute * 60000 / 3600000 = minute / 60 := by omega
  have hminute : minute * 60000 / 60000 % 60 = minute % 60 := by omega
  have hsecond : minute * 60000 / 1000 % 60 = 0 := by omega
  unfold localParts
  dsimp only
  rw [atMinute_div h hlt, hclock, hhour, hminute, hsecond]

/-- A date with a year of four digits and a time are resolved to what the corrections lead to,
where that reads them. -/
theorem zonedDateTimeToUtc_eq_ok (hfirst : year1000 ≤ date) {instant : Int} :
    zonedDateTimeToUtc zone (localParts (atMinute date minute)) = .ok instant ↔
      zone.wallClock (fourthGuess zone (atMinute date minute)) = atMinute date minute ∧
        fourthGuess zone (atMinute date minute) = instant := by
  have hwhole := dvd_atMinute date minute
  have hdate : atMinute date minute / dayMs = date := atMinute_div h hlt
  have hyear : year1000 ≤ atMinute date minute / dayMs := by rwa [hdate]
  have hutc : (localParts (atMinute date minute)).utc = atMinute date minute := by
    apply utc_localParts hwhole
    unfold year1000 at hyear
    unfold year100
    omega
  have hcalendar : civilFromDays ((localParts (atMinute date minute)).utc / dayMs) =
      ((localParts (atMinute date minute)).year, (localParts (atMinute date minute)).month,
        (localParts (atMinute date minute)).day) := by
    rw [hutc]
    rfl
  rw [zonedDateTimeToUtc]
  dsimp only
  rw [ensure_of_true _ hcalendar, ok_bind, hutc, correctGuess_eq zone hwhole hyear, bind_eq_ok]
  constructor
  · rintro ⟨_, hcheck, hresult⟩
    exact ⟨(zonedParts_fourthGuess zone hwhole hyear).mp (ensure_eq_ok.mp hcheck),
      Except.ok.inj hresult⟩
  · rintro ⟨hreads, rfl⟩
    exact ⟨(), ensure_eq_ok.mpr ((zonedParts_fourthGuess zone hwhole hyear).mpr hreads), rfl⟩

/-- The texts of a date and a time are resolved exactly where they are answered. -/
theorem unambiguousLocalDateTimeToIso_eq_ok (hquarter : QuarterHourChanges zone)
    (hyear : 0 ≤ (civilFromDays date).1) {iso : String} :
    unambiguousLocalDateTimeToIso zone (dateText date) (minuteText minute) = .ok iso ↔
      Answered zone (atMinute date minute) ∧
        toISOString (fourthGuess zone (atMinute date minute)) = iso := by
  have hwhole := dvd_atMinute date minute
  have hdate : atMinute date minute / dayMs = date := atMinute_div h hlt
  by_cases hfour : 1000 ≤ (civilFromDays date).1 ∧ (civilFromDays date).1 ≤ 9999
  · obtain ⟨hfirst, hlast⟩ := fourDigits_iff.mp hfour
    have hfirst' : year1000 ≤ atMinute date minute / dayMs := by rwa [hdate]
    have hlast' : atMinute date minute / dayMs < year10000 := by rwa [hdate]
    obtain ⟨hmonth, hmonthLe, hday, hdayLe⟩ := civilFromDays_bounds date
    have hiso : ∀ iso, localDateTimeToIso zone (dateText date) (minuteText minute) = .ok iso ↔
        zone.wallClock (fourthGuess zone (atMinute date minute)) = atMinute date minute ∧
          toISOString (fourthGuess zone (atMinute date minute)) = iso := by
      intro iso
      rw [localDateTimeToIso, dateText,
        parseDateValue_eq hfour.1 hfour.2 ⟨hmonth, hmonthLe⟩ ⟨hday, hdayLe⟩, ok_bind,
        parseTimeValue_minuteText h hlt]
      dsimp only
      rw [ok_bind]
      dsimp only
      rw [← localParts_atMinute h hlt, bind_eq_ok]
      constructor
      · rintro ⟨instant, hresolved, hresult⟩
        obtain ⟨hreads, rfl⟩ := (zonedDateTimeToUtc_eq_ok zone h hlt hfirst).mp hresolved
        exact ⟨hreads, Except.ok.inj hresult⟩
      · rintro ⟨hreads, rfl⟩
        exact ⟨_, (zonedDateTimeToUtc_eq_ok zone h hlt hfirst).mpr ⟨hreads, rfl⟩, rfl⟩
    have hrequired : requiredDate (toISOString (fourthGuess zone (atMinute date minute))) =
        .ok (fourthGuess zone (atMinute date minute)) := by
      rw [requiredDate, newDate_toISOString (validTime_fourthGuess zone hwhole hfirst' hlast')]
    have hsearch := fun hreads => hasEquivalentWallClockInstant_eq_false zone hquarter hwhole hfirst'
      hreads (abs_fourthGuess_sub_le zone hwhole)
    rw [unambiguousLocalDateTimeToIso, bind_eq_ok]
    constructor
    · rintro ⟨found, hfound, hrest⟩
      obtain ⟨hreads, rfl⟩ := (hiso found).mp hfound
      rw [hrequired, ok_bind, bind_eq_ok] at hrest
      obtain ⟨_, hcheck, hresult⟩ := hrest
      exact ⟨⟨hfirst', hlast', hreads, (hsearch hreads).mp (ensure_eq_ok.mp hcheck)⟩,
        Except.ok.inj hresult⟩
    · rintro ⟨hanswered, rfl⟩
      refine ⟨_, (hiso _).mpr ⟨hanswered.reads, rfl⟩, ?_⟩
      rw [hrequired, ok_bind]
      dsimp only
      rw [ensure_of_true _ ((hsearch hanswered.reads).mpr hanswered.alone)]
      rfl
  · constructor
    · intro hok
      rw [unambiguousLocalDateTimeToIso, localDateTimeToIso, dateText,
        parseDateValue_other _ _ hyear hfour] at hok
      exact absurd hok (by simp)
    · rintro ⟨hanswered, -⟩
      have hfirst := hanswered.first
      have hlast := hanswered.last
      rw [hdate] at hfirst hlast
      exact absurd (fourDigits_iff.mpr ⟨hfirst, hlast⟩) hfour

end

end LunchLineup.TimeZones.ShiftWindow
