import LunchLineup.TimeZones.LocalDays
import LunchLineup.TimeZones.ShiftWindow

/-!
# An untouched time window

A window that is opened and saved again comes back as it was, or the form refuses one of
its two local times, unless the form does not show what the clock reads: it has no place
for seconds of an offset, for the era of a year, and for a second date.  The end is on the
date of the start or on the next day, whichever its time says, so that a window in which
the clock moves on by a day or more comes back a day shorter.  In a day of 23 hours that
takes 23 hours.
-/

namespace LunchLineup.TimeZones.ShiftWindow

open LunchLineup.Lib LunchLineup.Python LunchLineup.Python.Reference LunchLineup.Pagination
open LunchLineup.Payroll (padded toISOString)

variable (zone : Zone)

/-! ## What the form shows -/

/-- The minute of the day that the clock reads. -/
def minuteOfDay (instant : Int) : Int := (zone.zonedParts instant).minutes

/-- The day number of the date that the form shows. -/
def formDate (start : Int) : Int :=
  makeDay (zone.zonedParts start).year (zone.zonedParts start).month (zone.zonedParts start).day

/-- The form shows a day of the calendar; it may not where it leaves out the era. -/
def ShowsDate (start : Int) : Prop :=
  civilFromDays (formDate zone start) =
    ((zone.zonedParts start).year, (zone.zonedParts start).month, (zone.zonedParts start).day)

/-- The local start of the form. -/
def formStart (start : Int) : Int := atMinute (formDate zone start) (minuteOfDay zone start)

/-- The date that the form takes the end to be on. -/
def formEndDate (start stop : Int) : Int :=
  if minuteOfDay zone stop < minuteOfDay zone start then formDate zone start + 1
  else formDate zone start

/-- The local end of the form. -/
def formEnd (start stop : Int) : Int :=
  atMinute (formEndDate zone start stop) (minuteOfDay zone stop)

theorem minuteOfDay_bounds (instant : Int) :
    0 ≤ minuteOfDay zone instant ∧ minuteOfDay zone instant < 1440 := zone.minutes_bounds instant

theorem timeText_zonedParts (instant : Int) :
    timeText (zone.zonedParts instant).hour (zone.zonedParts instant).minute =
      minuteText (minuteOfDay zone instant) := by
  have hhour : zone.wallClock instant % dayMs / 3600000 =
      zone.wallClock instant % dayMs / 60000 / 60 := by omega
  rw [minuteText, minuteOfDay, zone.minutes_eq, ← hhour]
  rfl

theorem localTimeWindowFromInstants_eq {start stop : Int} (hstart : ValidTime start)
    (hstop : ValidTime stop) :
    localTimeWindowFromInstants zone (toISOString start) (toISOString stop) =
      .ok ⟨dateValue (zone.zonedParts start).year (zone.zonedParts start).month
          (zone.zonedParts start).day,
        minuteText (minuteOfDay zone start), minuteText (minuteOfDay zone stop)⟩ := by
  have hrequired : ∀ {instant}, ValidTime instant →
      requiredDate (toISOString instant) = .ok instant := by
    intro instant h
    rw [requiredDate, newDate_toISOString h]
  rw [localTimeWindowFromInstants, dateValueInTimeZone, timeValueInTimeZone, timeValueInTimeZone,
    hrequired hstart, hrequired hstop]
  simp only [ok_bind, timeText_zonedParts]

theorem addLocalDays_dateText {date : Int} (hfirst : year1000 ≤ date) (hlast : date < year10000) :
    addLocalDays (dateText date) 1 = .ok (dateText (date + 1)) := by
  obtain ⟨hyear, hyearLe⟩ := fourDigits_iff.mpr ⟨hfirst, hlast⟩
  obtain ⟨hmonth, hmonthLe, hday, hdayLe⟩ := civilFromDays_bounds date
  rw [addLocalDays, dateText, parseDateValue_eq hyear hyearLe ⟨hmonth, hmonthLe⟩ ⟨hday, hdayLe⟩,
    ok_bind]
  dsimp only
  rw [makeFullYear_of_le (by omega), makeDay_add, makeDay_civilFromDays]
  rfl

/-- A date that is not in the calendar is refused. -/
theorem not_ok_of_not_showsDate {start : Int} (h : ¬ShowsDate zone start) {minute : Int}
    (hminute : 0 ≤ minute) (hlt : minute < 1440) (iso : String) :
    unambiguousLocalDateTimeToIso zone (dateValue (zone.zonedParts start).year
      (zone.zonedParts start).month (zone.zonedParts start).day) (minuteText minute) ≠ .ok iso := by
  obtain ⟨hyear, hmonth, hday⟩ := zone.zonedParts_bounds start
  unfold ShowsDate formDate at h
  generalize (zone.zonedParts start).year = year at *
  generalize (zone.zonedParts start).month = month at *
  generalize (zone.zonedParts start).day = day at *
  rw [unambiguousLocalDateTimeToIso, localDateTimeToIso]
  by_cases hfour : 1000 ≤ year ∧ year ≤ 9999
  · have hcalendar : (ZonedParts.mk year month day (minute / 60) (minute % 60) 0).utc / dayMs =
        makeDay year month day := by
      unfold ZonedParts.utc dateUTC
      dsimp only
      rw [makeFullYear_of_le (by omega)]
      unfold dayMs
      omega
    rw [parseDateValue_eq hfour.1 hfour.2 hmonth hday, ok_bind, parseTimeValue_minuteText hminute hlt]
    dsimp only
    rw [ok_bind]
    dsimp only
    rw [zonedDateTimeToUtc, hcalendar]
    dsimp only
    rw [ensure_of_false _ h]
    simp
  · rw [parseDateValue_other _ _ (by omega) hfour]
    simp

/-- The text of the date of the end. -/
theorem endDate_eq {start stop : Int} (hfirst : year1000 ≤ formDate zone start)
    (hlast : formDate zone start < year10000) :
    (if codeUnits (minuteText (minuteOfDay zone stop)) <
        codeUnits (minuteText (minuteOfDay zone start))
      then addLocalDays (dateText (formDate zone start)) 1
      else Except.ok (dateText (formDate zone start))) =
      .ok (dateText (formEndDate zone start stop)) := by
  obtain ⟨hmin, hlt⟩ := minuteOfDay_bounds zone start
  obtain ⟨hmin', hlt'⟩ := minuteOfDay_bounds zone stop
  have hcompare := minuteText_lt_iff hmin' hlt' hmin hlt
  unfold formEndDate
  by_cases hearlier : minuteOfDay zone stop < minuteOfDay zone start
  · rw [if_pos (hcompare.mpr hearlier), if_pos hearlier, addLocalDays_dateText hfirst hlast]
  · rw [if_neg (mt hcompare.mp hearlier), if_neg hearlier]

/-- What the round trip gives: the window must have a length on the form, the form a date, and
both of its local times an answer. -/
theorem roundTrip_eq_ok (hquarter : QuarterHourChanges zone) {start stop : Int}
    (hstart : ValidTime start) (hstop : ValidTime stop) {result : SerializedTimeWindow} :
    roundTrip zone start stop = .ok result ↔
      minuteOfDay zone start ≠ minuteOfDay zone stop ∧ ShowsDate zone start ∧
        Answered zone (formStart zone start) ∧ Answered zone (formEnd zone start stop) ∧
        result = ⟨toISOString (fourthGuess zone (formStart zone start)),
          toISOString (fourthGuess zone (formEnd zone start stop))⟩ := by
  obtain ⟨hmin, hlt⟩ := minuteOfDay_bounds zone start
  obtain ⟨hmin', hlt'⟩ := minuteOfDay_bounds zone stop
  rw [roundTrip, localTimeWindowFromInstants_eq zone hstart hstop, ok_bind, serializeLocalTimeWindow,
    bind_eq_ok]
  dsimp only
  by_cases hshows : ShowsDate zone start
  · have hdate : dateValue (zone.zonedParts start).year (zone.zonedParts start).month
        (zone.zonedParts start).day = dateText (formDate zone start) := by
      rw [dateText, hshows]
    have hyear : 0 ≤ (civilFromDays (formDate zone start)).1 := by
      rw [hshows]
      have := (zone.zonedParts_bounds start).1
      dsimp only
      omega
    have hfirst : ∀ iso, unambiguousLocalDateTimeToIso zone (dateText (formDate zone start))
        (minuteText (minuteOfDay zone start)) = .ok iso ↔ Answered zone (formStart zone start) ∧
          toISOString (fourthGuess zone (formStart zone start)) = iso :=
      fun _ => unambiguousLocalDateTimeToIso_eq_ok zone hmin hlt hquarter hyear
    have hne : minuteText (minuteOfDay zone stop) ≠ minuteText (minuteOfDay zone start) ↔
        minuteOfDay zone start ≠ minuteOfDay zone stop :=
      (minuteText_inj hmin' hlt' hmin hlt).not.trans ne_comm
    -- a start that is answered has a year of four digits
    have hfour : Answered zone (formStart zone start) →
        year1000 ≤ formDate zone start ∧ formDate zone start < year10000 := by
      intro hanswered
      have hdiv : formStart zone start / dayMs = formDate zone start := atMinute_div hmin hlt
      rw [← hdiv]
      exact ⟨hanswered.first, hanswered.last⟩
    have hsecond : Answered zone (formStart zone start) → ∀ iso,
        unambiguousLocalDateTimeToIso zone (dateText (formEndDate zone start stop))
            (minuteText (minuteOfDay zone stop)) = .ok iso ↔
          Answered zone (formEnd zone start stop) ∧
            toISOString (fourthGuess zone (formEnd zone start stop)) = iso := by
      intro hanswered iso
      have hlate := (hfour hanswered).1
      apply unambiguousLocalDateTimeToIso_eq_ok zone hmin' hlt' hquarter
      rw [year_le_iff _ (-719528) 0 (by decide)]
      unfold formEndDate
      unfold year1000 at hlate
      split_ifs <;> omega
    rw [hdate]
    constructor
    · rintro ⟨startTime, hstartTime, hrest⟩
      obtain ⟨hanswered, rfl⟩ := (hfirst startTime).mp hstartTime
      rw [endDate_eq zone (hfour hanswered).1 (hfour hanswered).2, ok_bind, bind_eq_ok] at hrest
      obtain ⟨_, hcheck, hrest⟩ := hrest
      rw [bind_eq_ok] at hrest
      obtain ⟨endTime, hendTime, hresult⟩ := hrest
      obtain ⟨hanswered', rfl⟩ := (hsecond hanswered endTime).mp hendTime
      exact ⟨hne.mp (ensure_eq_ok.mp hcheck), hshows, hanswered, hanswered',
        (Except.ok.inj hresult).symm⟩
    · rintro ⟨hminutes, -, hanswered, hanswered', rfl⟩
      have hstartTime := (hfirst _).mpr ⟨hanswered, rfl⟩
      have hendTime := (hsecond hanswered _).mpr ⟨hanswered', rfl⟩
      refine ⟨_, hstartTime, ?_⟩
      rw [ensure_of_true _ (hne.mpr hminutes), ok_bind,
        endDate_eq zone (hfour hanswered).1 (hfour hanswered).2, ok_bind, hendTime]
      rfl
  · constructor
    · rintro ⟨iso, hok, -⟩
      exact absurd hok (not_ok_of_not_showsDate zone hshows hmin hlt iso)
    · rintro ⟨-, hyes, -⟩
      exact absurd hyes hshows

/-! ## Where the window comes back -/

/-- An untouched window comes back, or the form refuses it. -/
def WindowKept (start stop : Int) : Prop :=
  ∀ result, roundTrip zone start stop = .ok result →
    result = ⟨toISOString start, toISOString stop⟩

/-- The form has a place for all that the clock reads: the start is in a year after Christ, both
readings are whole minutes, and the clock moves on between them by less than a day.  The
corrections of the two readings do not end at other instants, more than three hours away. -/
structure FormFits (start stop : Int) : Prop where
  era : 1 ≤ (civilFromDays (zone.localDate start)).1
  startWhole : 60000 ∣ zone.wallClock start
  stopWhole : 60000 ∣ zone.wallClock stop
  forward : zone.wallClock start < zone.wallClock stop
  withinDay : zone.wallClock stop < zone.wallClock start + dayMs
  startNear : |fourthGuess zone (zone.wallClock start) - start| ≤ threeHours
  stopNear : |fourthGuess zone (zone.wallClock stop) - stop| ≤ threeHours

theorem minuteOfDay_eq (instant : Int) :
    minuteOfDay zone instant = zone.wallClock instant % dayMs / 60000 := zone.minutes_eq instant

variable {zone} {start stop : Int}

/-- The start of the form is what the clock reads. -/
theorem formStart_eq (hera : 1 ≤ (civilFromDays (zone.localDate start)).1)
    (hwhole : 60000 ∣ zone.wallClock start) : formStart zone start = zone.wallClock start := by
  have hparts := zonedParts_eq zone hera
  have hdate : formDate zone start = zone.wallClock start / dayMs := by
    unfold formDate
    rw [hparts]
    exact makeDay_civilFromDays _
  rw [formStart, atMinute, hdate, minuteOfDay_eq]
  unfold dayMs
  omega

/-- So is the end, if the clock moves on by less than a day. -/
theorem formEnd_eq (hstart : formStart zone start = zone.wallClock start)
    (hwhole : 60000 ∣ zone.wallClock stop) (hforward : zone.wallClock start < zone.wallClock stop)
    (hwithin : zone.wallClock stop < zone.wallClock start + dayMs) :
    formEnd zone start stop = zone.wallClock stop := by
  rw [formStart, atMinute] at hstart
  rw [formEnd, atMinute, formEndDate]
  rw [minuteOfDay_eq, minuteOfDay_eq] at *
  unfold dayMs at *
  split_ifs <;> omega

/-- Otherwise it is not. -/
theorem within_of_formEnd_eq (hstart : formStart zone start = zone.wallClock start)
    (hminutes : minuteOfDay zone start ≠ minuteOfDay zone stop)
    (hstop : formEnd zone start stop = zone.wallClock stop) :
    zone.wallClock start < zone.wallClock stop ∧
      zone.wallClock stop < zone.wallClock start + dayMs := by
  rw [formStart, atMinute] at hstart
  rw [formEnd, atMinute, formEndDate] at hstop
  rw [minuteOfDay_eq, minuteOfDay_eq] at *
  unfold dayMs at *
  split_ifs at hstop <;> omega

theorem validTime_formStart (h : Answered zone (formStart zone start)) :
    ValidTime (fourthGuess zone (formStart zone start)) :=
  validTime_fourthGuess zone (dvd_atMinute _ _) h.first h.last

theorem validTime_formEnd (h : Answered zone (formEnd zone start stop)) :
    ValidTime (fourthGuess zone (formEnd zone start stop)) :=
  validTime_fourthGuess zone (dvd_atMinute _ _) h.first h.last

/-- A form that fits and is answered is answered with the two instants. -/
theorem FormFits.fourthGuess_eq (h : FormFits zone start stop)
    (hstart : Answered zone (formStart zone start))
    (hstop : Answered zone (formEnd zone start stop)) :
    fourthGuess zone (formStart zone start) = start ∧
      fourthGuess zone (formEnd zone start stop) = stop := by
  have hfirst := formStart_eq h.era h.startWhole
  have hlast := formEnd_eq hfirst h.stopWhole h.forward h.withinDay
  rw [hfirst] at hstart ⊢
  rw [hlast] at hstop ⊢
  constructor
  · refine (hstart.alone start rfl ?_).symm
    rw [abs_sub_comm]
    exact h.startNear
  · refine (hstop.alone stop rfl ?_).symm
    rw [abs_sub_comm]
    exact h.stopNear

/-- A form that is answered with the two instants fits. -/
theorem FormFits.of_fourthGuess_eq (hminutes : minuteOfDay zone start ≠ minuteOfDay zone stop)
    (hstart : Answered zone (formStart zone start))
    (hstop : Answered zone (formEnd zone start stop))
    (hfirst : fourthGuess zone (formStart zone start) = start)
    (hlast : fourthGuess zone (formEnd zone start stop) = stop) : FormFits zone start stop := by
  have hreads : formStart zone start = zone.wallClock start := by
    have h := hstart.reads
    rw [hfirst] at h
    exact h.symm
  have hreads' : formEnd zone start stop = zone.wallClock stop := by
    have h := hstop.reads
    rw [hlast] at h
    exact h.symm
  obtain ⟨hforward, hwithin⟩ := within_of_formEnd_eq hreads hminutes hreads'
  have hfour := hstart.first
  rw [hreads] at hfour hfirst
  rw [hreads'] at hlast
  refine ⟨?_, ?_, ?_, hforward, hwithin, ?_, ?_⟩
  · rw [year_le_iff _ (-719162) 1 (by decide)]
    unfold Zone.localDate
    unfold year1000 at hfour
    omega
  · rw [← hreads, formStart]
    unfold atMinute dayMs
    omega
  · rw [← hreads', formEnd]
    unfold atMinute dayMs
    omega
  · rw [hfirst, sub_self]
    decide
  · rw [hlast, sub_self]
    decide

/-- In a zone whose offset changes by quarters of an hour, an untouched window comes back or is
refused exactly where its two times are equal, one of the local times of the form is no date
or is not answered, or the form fits what the clock reads. -/
theorem windowKept_iff (hquarter : QuarterHourChanges zone) (hstart : ValidTime start)
    (hstop : ValidTime stop) :
    WindowKept zone start stop ↔
      minuteOfDay zone start = minuteOfDay zone stop ∨ ¬ShowsDate zone start ∨
        ¬Answered zone (formStart zone start) ∨ ¬Answered zone (formEnd zone start stop) ∨
          FormFits zone start stop := by
  constructor
  · intro hkept
    by_contra hnone
    rw [not_or, not_or, not_or, not_or, not_not, not_not, not_not] at hnone
    obtain ⟨hminutes, hshows, hfirst, hlast, hfits⟩ := hnone
    have hresult := hkept _ ((roundTrip_eq_ok zone hquarter hstart hstop).mpr
      ⟨hminutes, hshows, hfirst, hlast, rfl⟩)
    obtain ⟨hsame, hsame'⟩ := SerializedTimeWindow.mk.inj hresult
    exact hfits (FormFits.of_fourthGuess_eq hminutes hfirst hlast
      (toISOString_injOn (validTime_formStart hfirst) hstart hsame)
      (toISOString_injOn (validTime_formEnd hlast) hstop hsame'))
  · intro hcondition result hok
    obtain ⟨hminutes, hshows, hfirst, hlast, rfl⟩ :=
      (roundTrip_eq_ok zone hquarter hstart hstop).mp hok
    rcases hcondition with heq | hnot | hnot | hnot | hfits
    · exact absurd heq hminutes
    · exact absurd hshows hnot
    · exact absurd hfirst hnot
    · exact absurd hlast hnot
    · obtain ⟨hsame, hsame'⟩ := hfits.fourthGuess_eq hfirst hlast
      rw [hsame, hsame']

namespace Sample

open TimeZones.Sample (newYork)

theorem quarterHourChanges_newYork : QuarterHourChanges newYork := by
  have hoffset : ∀ second,
      newYork.utcOffset second = if second < 1772953200 then -18000 else -14400 := fun _ => rfl
  constructor
  · intro second
    rw [hoffset, hoffset]
    split_ifs <;> omega
  · intro second
    rw [hoffset, hoffset, abs_le]
    split_ifs <;> omega

/-- Eight hours through the night in which New York goes an hour forward. -/
theorem windowKept_overnight : WindowKept newYork 1772944200000 1772973000000 := by
  apply (windowKept_iff quarterHourChanges_newYork (by decide) (by decide)).mpr
  refine .inr (.inr (.inr (.inr ⟨?_, ?_, ?_, ?_, ?_, ?_, ?_⟩))) <;> decide

/-- A day from 23:30 to 00:30 over a day of 23 hours: the form shows 23:30 and 00:30, and an hour
is saved. -/
theorem not_windowKept_forward :
    QuarterHourChanges newYork ∧ ValidTime 1772944200000 ∧ ValidTime 1773030600000 ∧
      (60000 : Int) ∣ 1772944200000 ∧ (60000 : Int) ∣ 1773030600000 ∧
      (1772944200000 : Int) < 1773030600000 ∧ 1773030600000 - 1772944200000 ≤ dayMs ∧
      toISOString 1773030600000 = "2026-03-09T04:30:00.000Z" ∧
      roundTrip newYork 1772944200000 1773030600000 =
        .ok ⟨"2026-03-08T04:30:00.000Z", "2026-03-08T05:30:00.000Z"⟩ ∧
      ¬WindowKept newYork 1772944200000 1773030600000 := by
  have hsaved : roundTrip newYork 1772944200000 1773030600000 =
      .ok ⟨"2026-03-08T04:30:00.000Z", "2026-03-08T05:30:00.000Z"⟩ := by decide +kernel
  refine ⟨quarterHourChanges_newYork, by decide, by decide, by decide, by decide, by decide,
    by decide, by decide +kernel, hsaved, fun hkept => ?_⟩
  exact absurd (hkept _ hsaved) (by decide +kernel)

end Sample

end LunchLineup.TimeZones.ShiftWindow
