import LunchLineup.Engine.Weeks
import LunchLineup.TimeZones.LocalMidnight

/-!
# Calendar weeks in the API and in the engine

Both services key a week by its Monday on the local clock.  `calendarWeekRange`
enumerates the weeks of a range with the midnights that `localDateBoundaryUtc`
resolves, `_calendar_weeks` with those of `zoneinfo`.

Where midnight is read twice `zoneinfo` takes the first, the resolver the one its
corrections find, and the API writes no leading zeros of a year.  `WeeksMatch`
says that neither happens; then the weeks are the same
(`calendarWeeks_of_weeksMatch`), and only then (`begins_of_calendarWeeks`).
-/

namespace LunchLineup.TimeZones

open LunchLineup.Lib LunchLineup.Python LunchLineup.Python.Reference LunchLineup.Pagination
open LunchLineup.Payroll (toISOString padded)
open LunchLineup.Engine (Week weekOf calendarWeeks calendarWeeksFrom mondayOf)

variable (zone : Zone)

/-! ## The weeks of the API -/

/-- How the enumeration fails: an error of its own, a rejected boundary, a `TypeError`, or turns
that are used up. -/
inductive WeekError
  | error (message : String)
  | rejected (rejection : Rejection)
  | typeError
  | running

/-- `parseDateValue`. -/
def parseDateValue (text : String) : Except WeekError Int :=
  match newDate (text.toList ++ "T00:00:00.000Z".toList) with
  | some date => .ok date
  | none => .error (.error "Invalid calendar date.")

/-- `formatDateValue`. -/
def formatDateValue (date : Int) : String := String.ofList ((toISOString date).toList.take 10)

/-- `mondayDate`. -/
def mondayDate (text : String) : Except WeekError String := do
  let date ← parseDateValue text
  let getUTCDay := (date / dayMs + 4) % 7
  let mondayOffset := (getUTCDay + 6) % 7
  .ok (formatDateValue (date - mondayOffset * dayMs))

/-- `addDateValues` of `schedule-weekly-hours.ts`. -/
def addDays (text : String) (days : Int) : Except WeekError String := do
  let date ← parseDateValue text
  .ok (formatDateValue (date + days * dayMs))

/-- A calendar week. -/
structure WeekStart where
  date : String
  start : Int
  stop : Int
  deriving DecidableEq

structure CalendarWeekRange where
  start : Int
  stop : Int
  weekStarts : List WeekStart

/-- The loop of `calendarWeekRange`, for a number of turns. -/
def Zone.weekStartsFrom (stop : Int) : Nat → String → Except WeekError (List WeekStart)
  | 0, _ => .error .running
  | turns + 1, weekDate => do
      let weekStart ← (zone.localDateBoundaryUtc weekDate).mapError WeekError.rejected
      if weekStart < stop then
        let nextWeekDate ← addDays weekDate 7
        let weekEnd ← (zone.localDateBoundaryUtc nextWeekDate).mapError WeekError.rejected
        let rest ← Zone.weekStartsFrom stop turns nextWeekDate
        .ok (⟨weekDate, weekStart, weekEnd⟩ :: rest)
      else .ok []

/-- `dateValueInTimeZone`. -/
def Zone.dateValueInTimeZone (instant : Int) : String :=
  dateValue (zone.zonedParts instant).year (zone.zonedParts instant).month
    (zone.zonedParts instant).day

/-- `calendarWeekRange`, if it finishes within a number of turns. -/
def Zone.calendarWeekRange (turns : Nat) (start stop : Int) : Except WeekError CalendarWeekRange := do
  ensure (start < stop) (.error "Calendar week range end must be after start.")
  let firstWeekDate ← mondayDate (zone.dateValueInTimeZone start)
  let weekStarts ← zone.weekStartsFrom stop turns firstWeekDate
  match weekStarts.head?, weekStarts.getLast? with
  | some first, some last => .ok ⟨first.start, last.stop, weekStarts⟩
  | _, _ => .error .typeError

/-! ## Texts of dates -/

theorem toISOString_utcMidnight {date : Int} (h : CalendarDate date) :
    (toISOString (utcMidnight date)).toList = (isoDate date).toList ++ "T00:00:00.000Z".toList := by
  have hdate : utcMidnight date / 86400000 = date := by
    unfold utcMidnight dayMs
    omega
  have hclock : utcMidnight date % 86400000 = 0 := by
    unfold utcMidnight dayMs
    omega
  rw [toList_toISOString, hdate, hclock, civilDate_eq, yearChars,
    if_pos (civilFromDays_four h.1 h.2), toList_isoDate]
  simp only [List.append_assoc, List.cons_append]
  rfl

/-- The text of a date is read as its UTC midnight. -/
theorem parseDateValue_isoDate {date : Int} (h : CalendarDate date) :
    parseDateValue (isoDate date) = .ok (utcMidnight date) := by
  have hvalid : ValidTime (utcMidnight date) := by
    obtain ⟨hfirst, hlast⟩ := h
    unfold ValidTime utcMidnight dayMs
    unfold year10000 at hlast
    omega
  rw [parseDateValue, ← toISOString_utcMidnight h, newDate_toISOString hvalid]

theorem formatDateValue_utcMidnight {date : Int} (h : CalendarDate date) :
    formatDateValue (utcMidnight date) = isoDate date := by
  have hlength : (isoDate date).toList.length = 10 := by
    obtain ⟨hyear, hyearLe⟩ := civilFromDays_four h.1 h.2
    obtain ⟨hmonth, hmonthLe, hday, hdayLe⟩ := civilFromDays_bounds date
    rw [toList_isoDate, List.length_append, List.length_cons, List.length_append, List.length_cons,
      length_padded (by decide) (show (civilFromDays date).1.natAbs < 10 ^ 4 by omega),
      length_padded (by decide) (show (civilFromDays date).2.1.natAbs < 10 ^ 2 by omega),
      length_padded (by decide) (show (civilFromDays date).2.2.natAbs < 10 ^ 2 by omega)]
  rw [formatDateValue, toISOString_utcMidnight h, List.take_left' hlength, String.ofList_toList]

/-- After the year 9999 the text is that of no date. -/
theorem matchDate?_formatDateValue {date : Int} (h : year10000 ≤ date) :
    matchDate? (formatDateValue (utcMidnight date)) = none := by
  have hdate : utcMidnight date / 86400000 = date := by
    unfold utcMidnight dayMs
    omega
  have hyear := (year_le_iff date year10000 10000 (by decide)).mpr h
  have hfour : ¬(0 ≤ (civilFromDays date).1 ∧ (civilFromDays date).1 ≤ 9999) := by omega
  have hdigits : ∀ text : List Char, digits? 4 ('+' :: text) = none := by
    intro text
    rw [digits?, if_neg]
    simp
  rw [matchDate?, formatDateValue, String.toList_ofList, toList_toISOString, hdate, civilDate_eq,
    yearChars, if_neg hfour, if_neg (by omega : ¬(civilFromDays date).1 < 0), List.cons_append,
    List.take_succ_cons, hdigits]
  rfl

theorem addDays_isoDate {date : Int} (h : CalendarDate date) (days : Int) :
    addDays (isoDate date) days = .ok (formatDateValue (utcMidnight (date + days))) := by
  have hdays : utcMidnight date + days * dayMs = utcMidnight (date + days) := by
    unfold utcMidnight
    ring
  rw [addDays, parseDateValue_isoDate h, ok_bind, hdays]

/-- The Monday of a date. -/
theorem mondayDate_isoDate {date : Int} (h : CalendarDate date)
    (hmonday : CalendarDate (mondayOf date)) :
    mondayDate (isoDate date) = .ok (isoDate (mondayOf date)) := by
  have hdays : utcMidnight date - (((utcMidnight date / dayMs + 4) % 7 + 6) % 7) * dayMs =
      utcMidnight (mondayOf date) := by
    unfold mondayOf weekday utcMidnight dayMs
    omega
  rw [mondayDate, parseDateValue_isoDate h, ok_bind]
  dsimp only
  rw [hdays, formatDateValue_utcMidnight hmonday]

/-- A digit is no sign of a year. -/
theorem year?_of_digit {c : Char} (h : c.isDigit = true) (rest : List Char) :
    year? (c :: rest) = digits? 4 (c :: rest) := by
  unfold year?
  split
  · next heq =>
      obtain ⟨rfl, -⟩ := List.cons.inj heq
      exact absurd h (by decide)
  · next heq =>
      obtain ⟨rfl, -⟩ := List.cons.inj heq
      exact absurd h (by decide)
  · rfl

/-- A year of other than four digits is not read. -/
theorem parseDateValue_of_other {year : Int} (month dayOfMonth : Int) (h : 0 ≤ year)
    (hother : ¬(1000 ≤ year ∧ year ≤ 9999)) :
    parseDateValue (dateValue year month dayOfMonth) = .error (.error "Invalid calendar date.") := by
  have hdigits : ∀ c ∈ Nat.toDigits 10 year.natAbs, c.isDigit :=
    fun c hc => Nat.isDigit_of_mem_toDigits (by decide) (by decide) hc
  rw [parseDateValue, toList_dateValue _ _ h, List.append_assoc, List.cons_append]
  generalize (padded 2 month).toList ++ '-' :: (padded 2 dayOfMonth).toList ++
    "T00:00:00.000Z".toList = rest
  have hread : year? (Nat.toDigits 10 year.natAbs ++ '-' :: rest) =
      digits? 4 (Nat.toDigits 10 year.natAbs ++ '-' :: rest) := by
    cases hchars : Nat.toDigits 10 year.natAbs with
    | nil => exact absurd hchars Nat.toDigits_ne_nil
    | cons c chars =>
        exact year?_of_digit (hdigits c (by rw [hchars]; exact List.mem_cons_self)) _
  have hnone : newDate (Nat.toDigits 10 year.natAbs ++ '-' :: rest) = none := by
    rw [newDate, hread]
    cases hfound : digits? 4 (Nat.toDigits 10 year.natAbs ++ '-' :: rest) with
    | none => rfl
    | some found =>
        simp only [Option.bind_eq_bind, Option.bind_some, expect?_of_other h hother hfound,
          Option.bind_none]
  rw [hnone]

/-! ## The weeks by number -/

/-- Monday `k` after the first day of the range. -/
def Zone.monday (start : Int) (k : Nat) : Int := mondayOf (zone.localDate start) + 7 * k

/-- Where four corrections of its UTC midnight lead. -/
def Zone.weekBegin (start : Int) (k : Nat) : Int := 1000 * zone.corrected (zone.monday start k)

def Zone.week (start : Int) (k : Nat) : WeekStart :=
  ⟨isoDate (zone.monday start k), zone.weekBegin start k, zone.weekBegin start (k + 1)⟩

theorem Zone.monday_succ (start : Int) (k : Nat) :
    zone.monday start (k + 1) = zone.monday start k + 7 := by
  unfold monday
  push_cast
  ring

theorem Zone.weekBegin_lt (start : Int) (k : Nat) :
    zone.weekBegin start k < zone.weekBegin start (k + 1) := by
  have hk := abs_le.mp (zone.abs_corrected_sub_le (zone.monday start k))
  have hnext := abs_le.mp (zone.abs_corrected_sub_le (zone.monday start (k + 1)))
  unfold weekBegin
  unfold utcMidnightSecond at hk hnext
  rw [zone.monday_succ] at hnext ⊢
  omega

/-- The dates of which the loop takes the midnights. -/
def Zone.Resolved (start : Int) (k : Nat) : Prop :=
  CalendarDate (zone.monday start k) ∧ year100 + 2 ≤ zone.monday start k ∧
    zone.ReadsMidnight (zone.monday start k) (zone.weekBegin start k)

section Loop

variable {start stop : Int}

theorem Zone.boundary_eq_ok {k : Nat} {instant : Int} (hcalendar : CalendarDate (zone.monday start k))
    (hyear : year100 + 2 ≤ zone.monday start k) :
    (zone.localDateBoundaryUtc (isoDate (zone.monday start k))).mapError WeekError.rejected =
        .ok instant ↔
      zone.ReadsMidnight (zone.monday start k) instant ∧ instant = zone.weekBegin start k :=
  mapError_eq_ok.trans (zone.localDateBoundaryUtc_isoDate hcalendar hyear)

theorem Zone.addDays_monday {k : Nat} (h : CalendarDate (zone.monday start k)) :
    addDays (isoDate (zone.monday start k)) 7 =
      .ok (formatDateValue (utcMidnight (zone.monday start (k + 1)))) := by
  rw [addDays_isoDate h, ← zone.monday_succ]

/-- Where the midnights of the Mondays are resolved, the loop gives the weeks that begin before the
end. -/
theorem Zone.weekStartsFrom_eq_ok {n k : Nat}
    (hresolved : ∀ j, k ≤ j → j ≤ k + n → zone.Resolved start j)
    (hbefore : ∀ j, k ≤ j → j < k + n → zone.weekBegin start j < stop)
    (hstop : stop ≤ zone.weekBegin start (k + n)) :
    zone.weekStartsFrom stop (n + 1) (isoDate (zone.monday start k)) =
      .ok ((List.range' k n).map (zone.week start)) := by
  induction n generalizing k with
  | zero =>
      obtain ⟨hcalendar, hyear, hreads⟩ := hresolved k le_rfl (by omega)
      rw [Nat.add_zero] at hstop
      rw [weekStartsFrom, (zone.boundary_eq_ok hcalendar hyear).mpr ⟨hreads, rfl⟩, ok_bind,
        if_neg (not_lt.mpr hstop)]
      rfl
  | succ n ih =>
      obtain ⟨hcalendar, hyear, hreads⟩ := hresolved k le_rfl (by omega)
      obtain ⟨hcalendar', hyear', hreads'⟩ := hresolved (k + 1) (by omega) (by omega)
      have hindex : k + 1 + n = k + (n + 1) := by omega
      rw [weekStartsFrom, (zone.boundary_eq_ok hcalendar hyear).mpr ⟨hreads, rfl⟩, ok_bind,
        if_pos (hbefore k le_rfl (by omega)), zone.addDays_monday hcalendar, ok_bind,
        formatDateValue_utcMidnight hcalendar',
        (zone.boundary_eq_ok hcalendar' hyear').mpr ⟨hreads', rfl⟩, ok_bind, ih]
      · rfl
      · exact fun j hj hle => hresolved j (by omega) (by omega)
      · exact fun j hj hlt => hbefore j (by omega) (by omega)
      · rwa [hindex]

/-- What the loop gives are the weeks that begin before the end, with resolved midnights. -/
theorem Zone.weeks_of_weekStartsFrom {turns k : Nat} {weeks : List WeekStart}
    (hcalendar : CalendarDate (zone.monday start k)) (hyear : year100 + 2 ≤ zone.monday start k)
    (h : zone.weekStartsFrom stop turns (isoDate (zone.monday start k)) = .ok weeks) :
    ∃ n, weeks = (List.range' k n).map (zone.week start) ∧
      (∀ j, k ≤ j → j < k + n → zone.weekBegin start j < stop) ∧
      stop ≤ zone.weekBegin start (k + n) ∧ ∀ j, k ≤ j → j ≤ k + n → zone.Resolved start j := by
  induction turns generalizing k weeks with
  | zero => cases h
  | succ turns ih =>
      rw [weekStartsFrom] at h
      obtain ⟨weekStart, hstart, hrest⟩ := bind_eq_ok.mp h
      obtain ⟨hreads, rfl⟩ := (zone.boundary_eq_ok hcalendar hyear).mp hstart
      split_ifs at hrest with hlt
      · rw [zone.addDays_monday hcalendar, ok_bind] at hrest
        obtain ⟨weekEnd, hend, hrest⟩ := bind_eq_ok.mp hrest
        have hnext := zone.monday_succ start k
        have hcalendar' : CalendarDate (zone.monday start (k + 1)) := by
          by_contra hnot
          have hlate : year10000 ≤ zone.monday start (k + 1) := by
            unfold CalendarDate at hcalendar hnot
            omega
          rw [localDateBoundaryUtc, matchDate?_formatDateValue hlate] at hend
          cases hend
        have hyear' : year100 + 2 ≤ zone.monday start (k + 1) := by omega
        rw [formatDateValue_utcMidnight hcalendar'] at hend hrest
        obtain ⟨-, rfl⟩ := (zone.boundary_eq_ok hcalendar' hyear').mp hend
        obtain ⟨rest, hweeks, hlast⟩ := bind_eq_ok.mp hrest
        obtain ⟨n, rfl, hbefore, hstop, hresolved⟩ := ih hcalendar' hyear' hweeks
        have hindex : k + 1 + n = k + (n + 1) := by omega
        rw [hindex] at hbefore hstop hresolved
        refine ⟨n + 1, (Except.ok.inj hlast).symm, fun j hj hle => ?_, hstop, fun j hj hle => ?_⟩
        · rcases hj.eq_or_lt with rfl | hj
          · exact hlt
          · exact hbefore j hj hle
        · rcases hj.eq_or_lt with rfl | hj
          · exact ⟨hcalendar, hyear, hreads⟩
          · exact hresolved j hj hle
      · refine ⟨0, (Except.ok.inj hrest).symm, fun j hj hle => absurd hle (by omega),
          not_lt.mp hlt, fun j hj hle => ?_⟩
        obtain rfl : j = k := by omega
        exact ⟨hcalendar, hyear, hreads⟩

end Loop

/-! ## The weeks of the engine -/

/-- The weeks of the engine that begin before the end. -/
theorem calendarWeeksFrom_eq (rt : Runtime) (info : ZoneInfo) {first stop : Int} {fuel k : Nat}
    (hfuel : stop ≤ (weekOf rt info (first + 7 * (k + fuel : Nat))).startTime) :
    ∃ n, calendarWeeksFrom rt info stop fuel (first + 7 * k) =
        (List.range' k n).map (fun j : Nat => weekOf rt info (first + 7 * j)) ∧
      (∀ j : Nat, k ≤ j → j < k + n → (weekOf rt info (first + 7 * j)).startTime < stop) ∧
      stop ≤ (weekOf rt info (first + 7 * (k + n : Nat))).startTime := by
  induction fuel generalizing k with
  | zero => exact ⟨0, rfl, fun j hj hlt => absurd hlt (by omega), hfuel⟩
  | succ fuel ih =>
      rw [calendarWeeksFrom]
      split_ifs with hlast
      · exact ⟨0, rfl, fun j hj hlt => absurd hlt (by omega), hlast⟩
      · have hindex : k + (fuel + 1) = k + 1 + fuel := by omega
        rw [hindex] at hfuel
        obtain ⟨n, hweeks, hbefore, hstop⟩ := ih hfuel
        have hnext : first + 7 * (k : Int) + 7 = first + 7 * (k + 1 : Nat) := by
          push_cast
          ring
        have hcount : k + 1 + n = k + (n + 1) := by omega
        rw [hcount] at hbefore hstop
        refine ⟨n + 1, ?_, fun j hj hlt => ?_, hstop⟩
        · rw [hnext, hweeks]
          rfl
        · rcases hj.eq_or_lt with rfl | hj
          · exact not_le.mp hlast
          · exact hbefore j hj hlt

theorem calendarWeeks_eq (rt : Runtime) (info : ZoneInfo) (start stop : Int) :
    ∃ n, calendarWeeks rt info start stop = (List.range' 0 n).map
        (fun j : Nat => weekOf rt info (Engine.firstMonday info start + 7 * j)) ∧
      (∀ j : Nat, j < n → (weekOf rt info (Engine.firstMonday info start + 7 * j)).startTime < stop) ∧
      stop ≤ (weekOf rt info (Engine.firstMonday info start + 7 * n)).startTime := by
  -- the week after the last turn of the loop begins past the end
  have hfuel : stop ≤ (weekOf rt info (Engine.firstMonday info start +
      7 * (0 + (((stop - start) / (7 * Python.day)).toNat + 3) : Nat))).startTime := by
    have hlocal := abs_lt.mp (info.toLocal_bounded start)
    have hutc := abs_lt.mp (info.toUtc_bounded (midnight (Engine.firstMonday info start +
      7 * (0 + (((stop - start) / (7 * Python.day)).toNat + 3) : Nat))))
    have hweek := (Engine.mondayOf_le (dateOf (info.toLocal start))).2
    have hday := lt_midnight_dateOf_succ (info.toLocal start)
    show stop ≤ info.toUtc (midnight _)
    unfold Engine.firstMonday at *
    unfold midnight Python.day at *
    push_cast at *
    omega
  obtain ⟨n, hweeks, hbefore, hstop⟩ := calendarWeeksFrom_eq rt info hfuel
  rw [Nat.cast_zero, mul_zero, add_zero] at hweeks
  rw [Nat.zero_add] at hstop
  exact ⟨n, hweeks, fun j hj => hbefore j (Nat.zero_le j) (by omega), hstop⟩

/-! ## One zone in both languages -/

/-- The first instant at which the clock reads the date at midnight. -/
def Zone.Begins (date instant : Int) : Prop :=
  zone.ReadsMidnight date instant ∧ ∀ earlier < instant, ¬zone.ReadsMidnight date earlier

theorem Zone.Begins.unique {date first second : Int} (h : zone.Begins date first)
    (h' : zone.Begins date second) : first = second := by
  rcases lt_trichotomy first second with hlt | heq | hgt
  · exact absurd h.1 (h'.2 first hlt)
  · exact heq
  · exact absurd h'.1 (h.2 second hgt)

/-- `zoneinfo` has the offsets of the zone, and takes a reading with `fold = 0` for that of the
first instant that has it. -/
structure SameZone (zone : Zone) (info : ZoneInfo) : Prop where
  toLocal : ∀ instant, info.toLocal instant = instant + 1000000 * zone.utcOffset (instant / 1000000)
  toUtc : ∀ instant, info.toLocal (info.toUtc (info.toLocal instant)) = info.toLocal instant ∧
    info.toUtc (info.toLocal instant) ≤ instant

section SameZone

variable {zone : Zone} {info : ZoneInfo} (hzone : SameZone zone info)

include hzone

theorem SameZone.toLocal_eq (instant : Int) :
    info.toLocal (1000 * instant) = 1000 * zone.wallClock instant := by
  have hsecond : 1000 * instant / 1000000 = instant / 1000 := by omega
  rw [hzone.toLocal, hsecond, Zone.wallClock]
  ring

theorem SameZone.toLocal_eq_midnight_iff {date instant : Int} :
    info.toLocal (1000 * instant) = midnight date ↔ zone.ReadsMidnight date instant := by
  rw [hzone.toLocal_eq, Zone.ReadsMidnight]
  unfold midnight utcMidnight Python.day dayMs
  omega

/-- The engine's midnight of a date that begins is the first. -/
theorem SameZone.begins {date instant : Int} (h : zone.ReadsMidnight date instant) :
    ∃ first, info.toUtc (midnight date) = 1000 * first ∧ first ≤ instant ∧
      zone.Begins date first := by
  have hreads := hzone.toLocal_eq_midnight_iff.mpr h
  have hutc := hzone.toUtc (1000 * instant)
  rw [hreads] at hutc
  obtain ⟨hsame, hle⟩ := hutc
  have hwhole : info.toUtc (midnight date) = 1000 * (info.toUtc (midnight date) / 1000) := by
    have hlocal := hzone.toLocal (info.toUtc (midnight date))
    rw [hsame] at hlocal
    unfold midnight Python.day at hlocal ⊢
    omega
  refine ⟨_, hwhole, by omega, hzone.toLocal_eq_midnight_iff.mp (hwhole ▸ hsame), ?_⟩
  intro earlier hearlier hreadsEarlier
  have hearly := (hzone.toUtc (1000 * earlier)).2
  rw [hzone.toLocal_eq_midnight_iff.mpr hreadsEarlier] at hearly
  omega

theorem SameZone.firstMonday_eq (start : Int) :
    Engine.firstMonday info (1000 * start) = mondayOf (zone.localDate start) := by
  rw [Engine.firstMonday, hzone.toLocal_eq]
  congr 1
  unfold dateOf Zone.localDate Python.day dayMs
  omega

end SameZone

/-! ## The same weeks -/

/-- The day number of 0001-01-01, the first date of Python. -/
def year1 : Int := -719162

/-- Every Monday before this one begins before the end. -/
def Zone.Relevant (start stop : Int) (k : Nat) : Prop :=
  ∀ j < k, ∃ instant < stop, zone.ReadsMidnight (zone.monday start j) instant

/-- The Mondays from the first to the one after the range are dates of both languages, and their
midnights exist. -/
def Zone.MondaysExist (start stop : Int) : Prop :=
  ∀ k, zone.Relevant start stop k → year1 ≤ zone.monday start k ∧
    zone.monday start k < year10000 ∧ ∃ instant, zone.ReadsMidnight (zone.monday start k) instant

/-- The range begins in a year of four digits and not before its first Monday, and four corrections
of UTC midnight lead to where each Monday begins. -/
structure Zone.WeeksMatch (start stop : Int) : Prop where
  year : year1000 ≤ zone.localDate start
  first : zone.weekBegin start 0 ≤ start
  begins : ∀ k, zone.Relevant start stop k →
    zone.Begins (zone.monday start k) (zone.weekBegin start k)

/-- A week as the engine has it. -/
def WeekStart.toWeek (week : WeekStart) : Week := ⟨week.date, 1000 * week.start, 1000 * week.stop⟩

section Weeks

variable {zone : Zone} {info : ZoneInfo} {rt : Runtime} {start stop : Int}

theorem Zone.monday_zero : zone.monday start 0 = mondayOf (zone.localDate start) := by
  unfold monday
  push_cast
  ring

theorem Zone.dateValueInTimeZone_eq (h : year1 ≤ zone.localDate start) :
    zone.dateValueInTimeZone start = dateValue (civilFromDays (zone.localDate start)).1
      (civilFromDays (zone.localDate start)).2.1 (civilFromDays (zone.localDate start)).2.2 := by
  have hyear := (year_le_iff (zone.localDate start) year1 1 (by decide)).mpr h
  have hera : yearOfEraText (civilFromDays (zone.localDate start)).1 =
      (civilFromDays (zone.localDate start)).1 := if_pos hyear
  unfold dateValueInTimeZone zonedParts
  dsimp only
  rw [hera]

/-- The first Monday, if the range begins in a year of four digits. -/
theorem Zone.mondayDate_start (hmonday : year1 ≤ zone.monday start 0)
    (hyear : year1000 ≤ zone.localDate start) (hlt : zone.localDate start < year10000) :
    mondayDate (zone.dateValueInTimeZone start) = .ok (isoDate (zone.monday start 0)) ∧
      CalendarDate (zone.monday start 0) ∧ year100 + 2 ≤ zone.monday start 0 := by
  have hbounds := Engine.mondayOf_le (zone.localDate start)
  rw [zone.monday_zero] at hmonday ⊢
  have hcalendar : CalendarDate (zone.localDate start) := by
    unfold CalendarDate year1000 at *
    omega
  have hcalendar' : CalendarDate (mondayOf (zone.localDate start)) := by
    unfold CalendarDate year1 at *
    omega
  rw [zone.dateValueInTimeZone_eq (by omega), dateValue_eq_isoDate hyear hlt]
  refine ⟨mondayDate_isoDate hcalendar hcalendar', hcalendar', ?_⟩
  unfold year100
  unfold year1000 at hyear
  omega

/-- Another year is rejected. -/
theorem Zone.year_of_mondayDate (hmonday : year1 ≤ zone.monday start 0) {text : String}
    (h : mondayDate (zone.dateValueInTimeZone start) = .ok text) :
    year1000 ≤ zone.localDate start ∧ zone.localDate start < year10000 := by
  have hbounds := Engine.mondayOf_le (zone.localDate start)
  rw [zone.monday_zero] at hmonday
  have hyear := (year_le_iff (zone.localDate start) year1 1 (by decide)).mpr (by omega)
  rw [← fourDigits_iff]
  by_contra hother
  rw [zone.dateValueInTimeZone_eq (by omega), mondayDate,
    parseDateValue_of_other _ _ (by omega) hother] at h
  cases h

theorem Zone.calendarWeekRange_eq_ok {turns n : Nat} (hlt : start < stop)
    (hmonday : mondayDate (zone.dateValueInTimeZone start) = .ok (isoDate (zone.monday start 0)))
    (hweeks : zone.weekStartsFrom stop turns (isoDate (zone.monday start 0)) =
      .ok ((List.range' 0 (n + 1)).map (zone.week start))) :
    zone.calendarWeekRange turns start stop = .ok ⟨zone.weekBegin start 0,
      zone.weekBegin start (n + 1), (List.range' 0 (n + 1)).map (zone.week start)⟩ := by
  have hfirst : ((List.range' 0 (n + 1)).map (zone.week start)).head? = some (zone.week start 0) :=
    rfl
  have hlast : ((List.range' 0 (n + 1)).map (zone.week start)).getLast? =
      some (zone.week start n) := by
    rw [List.range'_concat, List.map_append, List.map_singleton, List.getLast?_append]
    simp
  rw [calendarWeekRange, ensure_of_true _ hlt, ok_bind, hmonday, ok_bind, hweeks, ok_bind, hfirst,
    hlast]
  rfl

/-- A result of `calendarWeekRange` is a list of weeks by number. -/
theorem Zone.weeks_of_calendarWeekRange {turns : Nat} {range : CalendarWeekRange}
    (hmonday : year1 ≤ zone.monday start 0) (h : zone.calendarWeekRange turns start stop = .ok range) :
    year1000 ≤ zone.localDate start ∧ ∃ n, range = ⟨zone.weekBegin start 0,
        zone.weekBegin start (n + 1), (List.range' 0 (n + 1)).map (zone.week start)⟩ ∧
      (∀ k < n + 1, zone.weekBegin start k < stop) ∧ stop ≤ zone.weekBegin start (n + 1) ∧
      ∀ k ≤ n + 1, zone.Resolved start k := by
  have hrange := h
  rw [calendarWeekRange] at h
  obtain ⟨_, hlt, h⟩ := bind_eq_ok.mp h
  obtain ⟨text, htext, h⟩ := bind_eq_ok.mp h
  obtain ⟨weeks, hweeks, h⟩ := bind_eq_ok.mp h
  obtain ⟨hyear, hyearLt⟩ := zone.year_of_mondayDate hmonday htext
  obtain ⟨hfirst, hcalendar, hhundred⟩ := zone.mondayDate_start hmonday hyear hyearLt
  obtain rfl := Except.ok.inj (hfirst.symm.trans htext)
  obtain ⟨n, rfl, hbefore, hstop, hresolved⟩ :=
    zone.weeks_of_weekStartsFrom hcalendar hhundred hweeks
  rw [Nat.zero_add] at hstop
  cases n with
  | zero => cases h
  | succ n =>
      rw [zone.calendarWeekRange_eq_ok (ensure_eq_ok.mp hlt) hfirst hweeks] at hrange
      exact ⟨hyear, n, (Except.ok.inj hrange).symm, fun k hk => hbefore k (Nat.zero_le k) (by omega),
        hstop, fun k hk => hresolved k (Nat.zero_le k) (by omega)⟩

variable (hzone : SameZone zone info)
  (hrt : ∀ date, year1 ≤ date → date < year10000 → rt.dateIsoformat date = isoDate date)
  (hexists : zone.MondaysExist start stop)

include hzone hexists

/-- How many weeks the engine has, and that the Mondays up to the one after them are the relevant
ones. -/
theorem exists_weekCount (rt : Runtime) :
    ∃ n, calendarWeeks rt info (1000 * start) (1000 * stop) =
        (List.range' 0 n).map (fun k => weekOf rt info (zone.monday start k)) ∧
      (∀ k, zone.Relevant start stop k ↔ k ≤ n) ∧
      (∀ k < n, info.toUtc (midnight (zone.monday start k)) < 1000 * stop) ∧
      1000 * stop ≤ info.toUtc (midnight (zone.monday start n)) := by
  obtain ⟨n, hweeks, hbefore, hstop⟩ := calendarWeeks_eq rt info (1000 * start) (1000 * stop)
  rw [hzone.firstMonday_eq] at hweeks hbefore hstop
  have hbegin : ∀ k < n, info.toUtc (midnight (zone.monday start k)) < 1000 * stop := hbefore
  have hend : 1000 * stop ≤ info.toUtc (midnight (zone.monday start n)) := hstop
  refine ⟨n, hweeks, fun k => ⟨fun hrelevant => ?_, fun hle => ?_⟩, hbegin, hend⟩
  · by_contra hlt
    obtain ⟨instant, hinstant, hreads⟩ := hrelevant n (by omega)
    obtain ⟨first, hfirst, hle, -⟩ := hzone.begins hreads
    omega
  · induction k with
    | zero => exact fun j hj => absurd hj (Nat.not_lt_zero j)
    | succ k ih =>
        -- the Monday before is relevant, so that it begins, and it does before the end
        intro j hj
        rcases (Nat.lt_succ_iff.mp hj).eq_or_lt with rfl | hj
        · obtain ⟨-, -, instant, hreads⟩ := hexists j (ih (by omega))
          obtain ⟨first, hfirst, -, hfirstReads⟩ := hzone.begins hreads
          have := hbegin j (by omega)
          exact ⟨first, by omega, hfirstReads.1⟩
        · exact ih (by omega) j hj

include hrt

/-- The weeks of the engine, where the corrections lead to where the Mondays begin. -/
theorem calendarWeeks_of_weeksMatch (hlt : start < stop) (h : zone.WeeksMatch start stop) :
    ∃ n, calendarWeeks rt info (1000 * start) (1000 * stop) =
        ((List.range' 0 (n + 1)).map (zone.week start)).map WeekStart.toWeek ∧
      (∀ k < n + 1, zone.weekBegin start k < stop) ∧ stop ≤ zone.weekBegin start (n + 1) ∧
      ∀ k ≤ n + 1, CalendarDate (zone.monday start k) ∧
        zone.ReadsMidnight (zone.monday start k) (zone.weekBegin start k) := by
  obtain ⟨n, hweeks, hrelevant, hbefore, hend⟩ := exists_weekCount hzone hexists rt
  have hbegin : ∀ k ≤ n, info.toUtc (midnight (zone.monday start k)) =
      1000 * zone.weekBegin start k := by
    intro k hk
    have hbegins := h.begins k ((hrelevant k).mpr hk)
    obtain ⟨first, hfirst, -, hfirstBegins⟩ := hzone.begins hbegins.1
    rw [hfirst, hfirstBegins.unique zone hbegins]
  cases n with
  | zero =>
      have hfirst := h.first
      rw [hbegin 0 le_rfl] at hend
      omega
  | succ n =>
      refine ⟨n, ?_, fun k hk => ?_, ?_, fun k hk => ?_⟩
      · rw [hweeks, List.map_map]
        apply List.map_congr_left
        intro k hk
        rw [List.mem_range'_1] at hk
        obtain ⟨hfirst, hlast, -⟩ := hexists k ((hrelevant k).mpr (by omega))
        show (⟨rt.dateIsoformat (zone.monday start k), info.toUtc (midnight (zone.monday start k)),
          info.toUtc (midnight (zone.monday start k + 7))⟩ : Week) = ⟨isoDate (zone.monday start k),
            1000 * zone.weekBegin start k, 1000 * zone.weekBegin start (k + 1)⟩
        rw [hrt _ hfirst hlast, ← zone.monday_succ, hbegin k (by omega), hbegin (k + 1) (by omega)]
      · have := hbefore k hk
        rw [hbegin k (by omega)] at this
        omega
      · rw [hbegin (n + 1) le_rfl] at hend
        omega
      · have hk := (hrelevant k).mpr hk
        obtain ⟨hfirst, hlast, -⟩ := hexists k hk
        refine ⟨⟨?_, hlast⟩, (h.begins k hk).1⟩
        unfold year1 at hfirst
        omega

omit hrt in
/-- Where the weeks are the same, the corrections lead to where the Mondays begin. -/
theorem begins_of_calendarWeeks {n : Nat}
    (h : calendarWeeks rt info (1000 * start) (1000 * stop) =
      ((List.range' 0 (n + 1)).map (zone.week start)).map WeekStart.toWeek) :
    ∀ k, zone.Relevant start stop k →
      zone.Begins (zone.monday start k) (zone.weekBegin start k) := by
  obtain ⟨count, hweeks, hrelevant, -⟩ := exists_weekCount hzone hexists rt
  rw [hweeks, List.map_map] at h
  obtain rfl : count = n + 1 := by
    have hlength := congrArg List.length h
    rwa [List.length_map, List.length_map, List.length_range', List.length_range'] at hlength
  have hsame : ∀ k ∈ List.range' 0 (n + 1), weekOf rt info (zone.monday start k) =
      (zone.week start k).toWeek := List.map_inj_left.mp h
  intro k hk
  obtain ⟨-, -, instant, hreads⟩ := hexists k hk
  obtain ⟨first, hfirst, -, hbegins⟩ := hzone.begins hreads
  -- Monday `k` begins week `k` or ends the week before
  have heq : info.toUtc (midnight (zone.monday start k)) = 1000 * zone.weekBegin start k := by
    have hle := (hrelevant k).mp hk
    cases k with
    | zero => exact congrArg Week.startTime (hsame 0 (List.mem_range'_1.mpr (by omega)))
    | succ k =>
        rw [zone.monday_succ]
        exact congrArg Week.endTime (hsame k (List.mem_range'_1.mpr (by omega)))
  obtain rfl : first = zone.weekBegin start k := by omega
  exact hbegins

end Weeks

end LunchLineup.TimeZones
