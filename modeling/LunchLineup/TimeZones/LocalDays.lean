import LunchLineup.TimeZones.LocalMidnight
import LunchLineup.Schedules.LocalAvailability

/-!
# A range of instants by local day

`splitInstantRangeByLocalDay` cuts a range of instants at local midnights for the
availability checks, which want of each segment its date and weekday and minutes
that increase.  From the start on, a turn of its loop reads the clock, resolves
the midnight of the day after, and ends its segment there or at the end of the
range.

The turns tile the range, each within one day, exactly if from every instant of
the range the midnight that four corrections find for the next day is one, lies
ahead, and no other day is read before it (`DaysEnd`).  The minutes of the last
segment are a condition of their own (`MinutesIncrease`), as the clock can go
back within it.
-/

namespace LunchLineup.TimeZones

open LunchLineup.Lib LunchLineup.Python LunchLineup.Python.Reference LunchLineup.Pagination
open LunchLineup.Schedules (weekdayName)

variable (zone : Zone)

/-! ## The loop -/

/-- `` `${parts.year}-${pad(parts.month)}-${pad(parts.day)}` ``. -/
def ZonedParts.dateText (parts : ZonedParts) : String :=
  dateValue parts.year parts.month parts.day

/-- `parts.hour * 60 + parts.minute`. -/
def ZonedParts.minutes (parts : ZonedParts) : Int := parts.hour * 60 + parts.minute

/-- `weekdayNameInTimeZone`. -/
def Zone.weekdayNameInTimeZone (instant : Int) : String :=
  weekdayName ((zone.localDate instant + 4) % 7).toNat

/-- A segment of the range inside one day. -/
structure Segment where
  localDate : String
  weekday : String
  startMinutes : Int
  endMinutes : Int
  deriving DecidableEq

/-- A turn of the loop: where it stands, where it goes, and what it pushes. -/
structure Turn where
  cursor : Int
  segmentEnd : Int
  segment : Segment

/-- How the loop can fail to finish: a boundary is rejected, or the turns are used up. -/
inductive Unfinished
  | rejected (rejection : Rejection)
  | running
  deriving DecidableEq

/-- `nextBoundary`. -/
def Zone.nextBoundary (cursor : Int) : Except Rejection Int :=
  zone.localDateBoundaryUtc (addDateValues (zone.zonedParts cursor).dateText 1)

/-- What a turn pushes. -/
def Zone.segmentAt (cursor nextBoundary segmentEnd : Int) : Segment where
  localDate := (zone.zonedParts cursor).dateText
  weekday := zone.weekdayNameInTimeZone cursor
  startMinutes := (zone.zonedParts cursor).minutes
  endMinutes := if segmentEnd = nextBoundary then 1440 else (zone.zonedParts segmentEnd).minutes

/-- The loop, for a number of turns. -/
def Zone.splitTurns (stop : Int) : Nat → Int → Except Unfinished (List Turn)
  | 0, _ => .error .running
  | turns + 1, cursor =>
      if cursor < stop then do
        let nextBoundary ← (zone.nextBoundary cursor).mapError Unfinished.rejected
        let segmentEnd := if nextBoundary < stop then nextBoundary else stop
        let rest ← Zone.splitTurns stop turns segmentEnd
        .ok (⟨cursor, segmentEnd, zone.segmentAt cursor nextBoundary segmentEnd⟩ :: rest)
      else .ok []

/-- `splitInstantRangeByLocalDay`, if it finishes within a number of turns. -/
def Zone.splitInstantRangeByLocalDay (turns : Nat) (start stop : Int) :
    Except Unfinished (List Segment) :=
  (zone.splitTurns stop turns start).map (·.map Turn.segment)

/-! ## The next boundary -/

/-- The day after the one whose date the clock shows. -/
def Zone.nextDate (instant : Int) : Int :=
  makeDay (makeFullYear (zone.zonedParts instant).year) (zone.zonedParts instant).month
    (zone.zonedParts instant).day + 1

/-- The instant that four corrections of its UTC midnight lead to. -/
def Zone.nextMidnight (instant : Int) : Int := 1000 * zone.corrected (zone.nextDate instant)

theorem Zone.zonedParts_bounds (instant : Int) :
    1 ≤ (zone.zonedParts instant).year ∧
      (1 ≤ (zone.zonedParts instant).month ∧ (zone.zonedParts instant).month ≤ 12) ∧
      1 ≤ (zone.zonedParts instant).day ∧ (zone.zonedParts instant).day ≤ 31 := by
  obtain ⟨hmonth, hmonthLe, hday, hdayLe⟩ := civilFromDays_bounds (zone.localDate instant)
  refine ⟨?_, ⟨hmonth, hmonthLe⟩, hday, hdayLe⟩
  show 1 ≤ yearOfEraText _
  unfold yearOfEraText
  split_ifs <;> omega

theorem Zone.minutes_eq (instant : Int) :
    (zone.zonedParts instant).minutes = zone.wallClock instant % dayMs / 60000 := by
  show zone.wallClock instant % dayMs / 3600000 * 60 + zone.wallClock instant % dayMs / 60000 % 60 =
    zone.wallClock instant % dayMs / 60000
  omega

theorem Zone.minutes_bounds (instant : Int) :
    0 ≤ (zone.zonedParts instant).minutes ∧ (zone.zonedParts instant).minutes < 1440 := by
  rw [minutes_eq]
  unfold dayMs
  omega

/-- The next boundary is resolved exactly if it has a year of four digits and four corrections find
its midnight. -/
theorem Zone.nextBoundary_eq_ok {instant boundary : Int} :
    zone.nextBoundary instant = .ok boundary ↔
      year1000 ≤ zone.nextDate instant ∧ zone.nextDate instant < year10000 ∧
        zone.ReadsMidnight (zone.nextDate instant) boundary ∧
        boundary = zone.nextMidnight instant := by
  obtain ⟨hyear, hmonth, hday⟩ := zone.zonedParts_bounds instant
  have htext : addDateValues (zone.zonedParts instant).dateText 1 =
      dateValue (civilFromDays (zone.nextDate instant)).1
        (civilFromDays (zone.nextDate instant)).2.1 (civilFromDays (zone.nextDate instant)).2.2 :=
    addDateValues_dateValue hmonth hday (by omega) 1
  have hdays : -719528 ≤ zone.nextDate instant := by
    have hfull : 0 ≤ makeFullYear (zone.zonedParts instant).year := by
      unfold makeFullYear
      split_ifs <;> omega
    have hle := le_makeDay hfull hmonth.1 hmonth.2 hday.1
    unfold nextDate
    omega
  have hnonneg := (year_le_iff (zone.nextDate instant) (-719528) 0 (by decide)).mpr hdays
  rw [nextBoundary, htext, ← and_assoc, ← fourDigits_iff]
  by_cases hfour : 1000 ≤ (civilFromDays (zone.nextDate instant)).1 ∧
      (civilFromDays (zone.nextDate instant)).1 ≤ 9999
  · have hdate := fourDigits_iff.mp hfour
    have hlate : year100 + 2 ≤ zone.nextDate instant := by
      unfold year100
      unfold year1000 at hdate
      omega
    have hcalendar : CalendarDate (zone.nextDate instant) := ⟨hdays, hdate.2⟩
    rw [dateValue_eq_isoDate hdate.1 hdate.2, zone.localDateBoundaryUtc_isoDate hcalendar hlate]
    exact ⟨fun h => ⟨hfour, h⟩, fun h => h.2⟩
  · rw [localDateBoundaryUtc, matchDate?_other _ _ hnonneg hfour]
    exact iff_of_false (fun h => by cases h) fun h => hfour h.1

/-! ## What the turns are for -/

/-- The turns tile the range from `cursor` to `stop`, each ending after it begins. -/
def Tiles (stop : Int) : Int → List Turn → Prop
  | cursor, [] => cursor = stop
  | cursor, turn :: turns =>
      turn.cursor = cursor ∧ cursor < turn.segmentEnd ∧ Tiles stop turn.segmentEnd turns

/-- The date and the weekday that the clock shows. -/
def Zone.dateAndWeekday (instant : Int) : String × String :=
  ((zone.zonedParts instant).dateText, zone.weekdayNameInTimeZone instant)

/-- The turns are what the availability checks need: they tile the range, each instant shows the
date and the weekday of its segment, and between whole minutes the minutes of a segment increase. -/
structure Zone.SplitsIntoDays (start stop : Int) (turns : List Turn) : Prop where
  tiles : Tiles stop start turns
  shown : ∀ turn ∈ turns, ∀ instant, turn.cursor ≤ instant → instant < turn.segmentEnd →
    zone.dateAndWeekday instant = (turn.segment.localDate, turn.segment.weekday)
  accepted : 60000 ∣ start → 60000 ∣ stop → ∀ turn ∈ turns, 0 ≤ turn.segment.startMinutes ∧
    turn.segment.endMinutes ≤ 1440 ∧ turn.segment.startMinutes < turn.segment.endMinutes

/-- From the instant on, the range shows one date and weekday until the midnight found for the
next day, which lies ahead. -/
structure Zone.DayEnds (stop instant : Int) : Prop where
  fourDigits : year1000 ≤ zone.nextDate instant ∧ zone.nextDate instant < year10000
  isMidnight : zone.ReadsMidnight (zone.nextDate instant) (zone.nextMidnight instant)
  ahead : instant < zone.nextMidnight instant
  shown : ∀ later, instant ≤ later → later < stop → later < zone.nextMidnight instant →
    zone.dateAndWeekday later = zone.dateAndWeekday instant

/-- The range ends at the midnight of the day after its last, or at a minute after that at which it
begins, or after midnight if it begins on an earlier day. -/
def Zone.MinutesIncrease (start stop : Int) : Prop :=
  stop = zone.nextMidnight (stop - 1) ∨
    (if zone.nextMidnight start < stop then 0 else (zone.zonedParts start).minutes) <
      (zone.zonedParts stop).minutes

theorem Tiles.le {stop cursor : Int} {turns : List Turn} (h : Tiles stop cursor turns) :
    cursor ≤ stop := by
  induction turns generalizing cursor with
  | nil => exact le_of_eq h
  | cons turn turns ih => exact h.2.1.le.trans (ih h.2.2)

/-- Each instant of the range lies in a turn. -/
theorem Tiles.exists_mem {stop cursor instant : Int} {turns : List Turn}
    (h : Tiles stop cursor turns) (hle : cursor ≤ instant) (hlt : instant < stop) :
    ∃ turn ∈ turns, turn.cursor ≤ instant ∧ instant < turn.segmentEnd := by
  induction turns generalizing cursor with
  | nil =>
      have : cursor = stop := h
      omega
  | cons turn turns ih =>
      obtain ⟨rfl, -, hrest⟩ := h
      rcases lt_or_ge instant turn.segmentEnd with hin | hafter
      · exact ⟨turn, List.mem_cons_self, hle, hin⟩
      · obtain ⟨found, hfound, hin⟩ := ih hrest hafter
        exact ⟨found, List.mem_cons_of_mem _ hfound, hin⟩

theorem Zone.dateAndWeekday_congr {first second : Int}
    (h : zone.localDate first = zone.localDate second) :
    zone.dateAndWeekday first = zone.dateAndWeekday second := by
  simp only [dateAndWeekday, ZonedParts.dateText, zonedParts, weekdayNameInTimeZone, h]

/-- What the next day is follows from the text of the date. -/
theorem Zone.nextDate_congr {first second : Int}
    (h : zone.dateAndWeekday first = zone.dateAndWeekday second) :
    zone.nextDate first = zone.nextDate second := by
  obtain ⟨hyear, hmonth, hday⟩ := zone.zonedParts_bounds first
  obtain ⟨hyear', hmonth', hday'⟩ := zone.zonedParts_bounds second
  have htext : (zone.zonedParts first).dateText = (zone.zonedParts second).dateText :=
    congrArg Prod.fst h
  have hsplit := splitDate?_dateValue hmonth hday (show 0 ≤ (zone.zonedParts first).year by omega)
  have hsplit' := splitDate?_dateValue hmonth' hday'
    (show 0 ≤ (zone.zonedParts second).year by omega)
  have hsame := hsplit.symm.trans ((congrArg splitDate? htext).trans hsplit')
  obtain ⟨hyears, hmonths, hdays⟩ := Prod.mk.inj (Option.some.inj hsame) |>.imp_right Prod.mk.inj
  rw [nextDate, nextDate, hyears, hmonths, hdays]

theorem Zone.nextMidnight_congr {first second : Int}
    (h : zone.dateAndWeekday first = zone.dateAndWeekday second) :
    zone.nextMidnight first = zone.nextMidnight second := by
  rw [nextMidnight, nextMidnight, zone.nextDate_congr h]

/-! ## Runs of the loop -/

/-- What a turn of the loop is. -/
structure Zone.IsTurn (stop : Int) (turn : Turn) : Prop where
  resolved : zone.nextBoundary turn.cursor = .ok (zone.nextMidnight turn.cursor)
  segmentEnd : turn.segmentEnd = min (zone.nextMidnight turn.cursor) stop
  segment : turn.segment =
    zone.segmentAt turn.cursor (zone.nextMidnight turn.cursor) turn.segmentEnd

theorem Zone.isTurn_of_mem {stop cursor : Int} {fuel : Nat} {turns : List Turn}
    (h : zone.splitTurns stop fuel cursor = .ok turns) : ∀ turn ∈ turns, zone.IsTurn stop turn := by
  induction fuel generalizing cursor turns with
  | zero => cases h
  | succ fuel ih =>
      rw [splitTurns] at h
      split_ifs at h with hlt
      · obtain ⟨boundary, hboundary, hrest⟩ := bind_eq_ok.mp h
        obtain ⟨rest, hturns, hlast⟩ := bind_eq_ok.mp hrest
        rw [← Except.ok.inj hlast]
        have hok := mapError_eq_ok.mp hboundary
        obtain rfl : boundary = zone.nextMidnight cursor := (zone.nextBoundary_eq_ok.mp hok).2.2.2
        intro turn hturn
        rcases List.mem_cons.mp hturn with rfl | hturn
        · refine ⟨hok, ?_, rfl⟩
          show (if zone.nextMidnight cursor < stop then zone.nextMidnight cursor else stop) =
            min (zone.nextMidnight cursor) stop
          split_ifs <;> omega
        · exact ih hturns turn hturn
      · rw [← Except.ok.inj h]
        intro turn hturn
        cases hturn

theorem Zone.minutes_of_readsMidnight {date instant : Int} (hdate : year1000 ≤ date)
    (h : zone.ReadsMidnight date instant) : (zone.zonedParts instant).minutes = 0 := by
  have hhundred : year100 ≤ date := by
    unfold year1000 at hdate
    unfold year100
    omega
  rw [zone.zonedParts_of_readsMidnight hhundred h]
  rfl

/-- Where every day ends, the loop finishes.  Its turns tile the range, and each but the first
begins at midnight. -/
theorem Zone.splitTurns_of_dayEnds {start stop : Int}
    (h : ∀ instant, start ≤ instant → instant < stop → zone.DayEnds stop instant) {fuel : Nat}
    {cursor : Int} (hle : start ≤ cursor) (hstop : cursor ≤ stop)
    (hfuel : stop - cursor < fuel) :
    ∃ turns, zone.splitTurns stop fuel cursor = .ok turns ∧ Tiles stop cursor turns ∧
      ∀ turn ∈ turns, start ≤ turn.cursor ∧ turn.cursor < stop ∧ (turn.cursor = cursor ∨
        (zone.zonedParts turn.cursor).minutes = 0 ∧ zone.nextMidnight cursor ≤ turn.cursor) := by
  induction fuel generalizing cursor with
  | zero => omega
  | succ fuel ih =>
      rw [splitTurns]
      split_ifs with hlt
      · have hday := h cursor hle hlt
        have hahead := hday.ahead
        have hresolved : zone.nextBoundary cursor = .ok (zone.nextMidnight cursor) :=
          zone.nextBoundary_eq_ok.mpr ⟨hday.fourDigits.1, hday.fourDigits.2, hday.isMidnight, rfl⟩
        rw [hresolved]
        rcases lt_or_ge (zone.nextMidnight cursor) stop with hnext | hlast
        · obtain ⟨turns, hturns, htiles, hbegin⟩ := ih (hle.trans hahead.le) hnext.le (by omega)
          refine ⟨⟨cursor, zone.nextMidnight cursor, zone.segmentAt cursor
            (zone.nextMidnight cursor) (zone.nextMidnight cursor)⟩ :: turns, ?_,
            ⟨rfl, hahead, htiles⟩, ?_⟩
          · show (zone.splitTurns stop fuel (if zone.nextMidnight cursor < stop then
              zone.nextMidnight cursor else stop) >>= _) = _
            rw [if_pos hnext, hturns]
            rfl
          · intro turn hturn
            rcases List.mem_cons.mp hturn with rfl | hturn
            · exact ⟨hle, hlt, .inl rfl⟩
            · obtain ⟨hstart, hbefore, hmidnight⟩ := hbegin turn hturn
              refine ⟨hstart, hbefore, .inr ?_⟩
              rcases hmidnight with heq | ⟨hzero, hafter⟩
              · rw [heq]
                exact ⟨zone.minutes_of_readsMidnight hday.fourDigits.1 hday.isMidnight, le_rfl⟩
              · have := (h _ (hle.trans hahead.le) hnext).ahead
                exact ⟨hzero, by omega⟩
        · -- the last turn ends with the range
          have hrest : ∃ k, fuel = k + 1 := ⟨fuel - 1, by omega⟩
          obtain ⟨k, rfl⟩ := hrest
          refine ⟨[⟨cursor, stop, zone.segmentAt cursor (zone.nextMidnight cursor) stop⟩], ?_,
            ⟨rfl, hlt, rfl⟩, ?_⟩
          · show (zone.splitTurns stop (k + 1) (if zone.nextMidnight cursor < stop then
              zone.nextMidnight cursor else stop) >>= _) = _
            rw [if_neg (by omega), splitTurns, if_neg (lt_irrefl _)]
            rfl
          · intro turn hturn
            obtain rfl := List.mem_singleton.mp hturn
            exact ⟨hle, hlt, .inl rfl⟩
      · obtain rfl : cursor = stop := by omega
        exact ⟨[], rfl, rfl, fun turn hturn => nomatch hturn⟩

/-! ## Every range -/

variable {start stop : Int}

/-- Turns that are what the checks need show where the days end. -/
theorem Zone.dayEnds_of_splits {fuel : Nat} {turns : List Turn}
    (hturns : zone.splitTurns stop fuel start = .ok turns)
    (h : zone.SplitsIntoDays start stop turns) {instant : Int} (hle : start ≤ instant)
    (hbefore : instant < stop) : zone.DayEnds stop instant := by
  obtain ⟨turn, hturn, hfrom, hto⟩ := h.tiles.exists_mem hle hbefore
  have hisTurn := zone.isTurn_of_mem hturns turn hturn
  obtain ⟨hfour, hfour', hmidnight, -⟩ := zone.nextBoundary_eq_ok.mp hisTurn.resolved
  have hend := hisTurn.segmentEnd
  have hshown := h.shown turn hturn
  have hsame : zone.dateAndWeekday turn.cursor = zone.dateAndWeekday instant :=
    (hshown _ le_rfl (by omega)).trans (hshown _ hfrom hto).symm
  rw [zone.nextDate_congr hsame] at hfour hfour' hmidnight
  rw [zone.nextMidnight_congr hsame] at hmidnight hend
  refine ⟨⟨hfour, hfour'⟩, hmidnight, by omega, fun later hlater hstop hnext => ?_⟩
  exact (hshown later (by omega) (by omega)).trans (hshown instant hfrom hto).symm

/-- And their minutes increase. -/
theorem Zone.minutesIncrease_of_splits (hlt : start < stop) {fuel : Nat} {turns : List Turn}
    (hturns : zone.splitTurns stop fuel start = .ok turns)
    (h : zone.SplitsIntoDays start stop turns) (hstart : 60000 ∣ start) (hstop : 60000 ∣ stop) :
    zone.MinutesIncrease start stop := by
  have hlast : ∀ turn ∈ turns, turn.cursor ≤ stop - 1 → turn.segmentEnd = stop →
      stop = zone.nextMidnight (stop - 1) ∨
        (zone.zonedParts turn.cursor).minutes < (zone.zonedParts stop).minutes := by
    intro turn hturn hfrom hto
    have hisTurn := zone.isTurn_of_mem hturns turn hturn
    have hshown := h.shown turn hturn
    have hsame : zone.dateAndWeekday turn.cursor = zone.dateAndWeekday (stop - 1) :=
      (hshown _ le_rfl (by omega)).trans (hshown _ hfrom (by omega)).symm
    rw [← zone.nextMidnight_congr hsame]
    have haccepted := (h.accepted hstart hstop turn hturn).2.2
    rw [hisTurn.segment, hto] at haccepted
    by_cases hmidnight : stop = zone.nextMidnight turn.cursor
    · exact .inl hmidnight
    · refine .inr ?_
      rwa [segmentAt, if_neg hmidnight] at haccepted
  unfold MinutesIncrease
  split_ifs with hnext
  · obtain ⟨turn, hturn, hfrom, hto⟩ := h.tiles.exists_mem (show start ≤ stop - 1 by omega) (by omega)
    have hend := (zone.isTurn_of_mem hturns turn hturn).segmentEnd
    refine (hlast turn hturn hfrom (by omega)).imp_right fun hless => ?_
    have := (zone.minutes_bounds turn.cursor).1
    omega
  · cases turns with
    | nil =>
        have : start = stop := h.tiles
        omega
    | cons turn turns =>
        have hcursor : turn.cursor = start := h.tiles.1
        have hend := (zone.isTurn_of_mem hturns turn List.mem_cons_self).segmentEnd
        rw [hcursor] at hend
        rw [← hcursor]
        exact hlast turn List.mem_cons_self (by omega) (by omega)

/-- Where every day ends and the minutes increase, the turns are what the checks need. -/
theorem Zone.splitsIntoDays_of_dayEnds (hlt : start < stop)
    (hdays : ∀ instant, start ≤ instant → instant < stop → zone.DayEnds stop instant)
    (hminutes : 60000 ∣ start → 60000 ∣ stop → zone.MinutesIncrease start stop) :
    ∃ fuel turns, zone.splitTurns stop fuel start = .ok turns ∧
      zone.SplitsIntoDays start stop turns := by
  obtain ⟨turns, hturns, htiles, hbegin⟩ := zone.splitTurns_of_dayEnds hdays le_rfl hlt.le
    (show stop - start < ((stop - start).toNat + 1 : Nat) by omega)
  refine ⟨_, turns, hturns, htiles, ?_, ?_⟩
  · intro turn hturn instant hfrom hto
    obtain ⟨hstart, hstop, -⟩ := hbegin turn hturn
    have hisTurn := zone.isTurn_of_mem hturns turn hturn
    have hend := hisTurn.segmentEnd
    rw [hisTurn.segment]
    exact (hdays turn.cursor hstart hstop).shown instant hfrom (by omega) (by omega)
  · intro hstart hstop turn hturn
    obtain ⟨hfrom, hbefore, hfirst⟩ := hbegin turn hturn
    have hisTurn := zone.isTurn_of_mem hturns turn hturn
    have hend := hisTurn.segmentEnd
    have hahead := (hdays turn.cursor hfrom hbefore).ahead
    have hbounds := zone.minutes_bounds turn.cursor
    have hboundsEnd := zone.minutes_bounds turn.segmentEnd
    rw [hisTurn.segment]
    unfold segmentAt
    dsimp only
    split_ifs with hmidnight
    · exact ⟨hbounds.1, le_rfl, hbounds.2⟩
    · refine ⟨hbounds.1, hboundsEnd.2.le, ?_⟩
      -- the last turn, as it does not end at midnight
      have hto : turn.segmentEnd = stop := by omega
      have hsame := (hdays turn.cursor hfrom hbefore).shown (stop - 1) (by omega) (by omega)
        (by omega)
      rw [hto]
      rcases hminutes hstart hstop with hends | hless
      · rw [zone.nextMidnight_congr hsame] at hends
        exact absurd (hto.trans hends) hmidnight
      · rcases hfirst with heq | ⟨hzero, hafter⟩
        · rw [heq] at hahead hend hmidnight ⊢
          rwa [if_neg (by omega)] at hless
        · rw [hzero]
          rwa [if_pos (by omega)] at hless

/-! ## Away from changes of the offset -/

section

variable {offset : Int} (hoffset : ∀ second, start / 1000 - 2 * 86400 ≤ second →
  second ≤ stop / 1000 + 2 * 86400 → zone.utcOffset second = offset)

include hoffset

theorem Zone.wallClock_of_constant {instant : Int} (hle : start ≤ instant) (hstop : instant ≤ stop) :
    zone.wallClock instant = instant + 1000 * offset := by
  rw [wallClock, hoffset _ (by omega) (by omega)]

/-- The midnight found for the next day is that of the clock. -/
theorem Zone.nextMidnight_of_constant {instant : Int} (hle : start ≤ instant)
    (hstop : instant ≤ stop) (hyear : year100 ≤ zone.localDate instant) :
    zone.nextDate instant = zone.localDate instant + 1 ∧
      zone.nextMidnight instant = utcMidnight (zone.localDate instant + 1) - 1000 * offset ∧
      zone.ReadsMidnight (zone.nextDate instant) (zone.nextMidnight instant) := by
  have hera : 100 ≤ (civilFromDays (zone.localDate instant)).1 := hundred_le_iff.mpr hyear
  have hdate : zone.nextDate instant = zone.localDate instant + 1 := by
    have hsame : (zone.zonedParts instant).year = (civilFromDays (zone.localDate instant)).1 :=
      if_pos (by omega)
    rw [nextDate, hsame, makeFullYear_of_le hera]
    exact congrArg (· + 1) (makeDay_civilFromDays _)
  have hbounded := abs_le.mp (zone.bounded (start / 1000))
  have hclock := zone.wallClock_of_constant hoffset hle hstop
  have hlocal : zone.localDate instant = (instant + 1000 * offset) / dayMs := by
    rw [localDate, hclock]
  rw [hoffset _ (by omega) (by omega)] at hbounded
  have hmidnight : zone.utcOffset (utcMidnightSecond (zone.localDate instant + 1) - offset) =
      offset := by
    apply hoffset
    all_goals
      rw [hlocal]
      unfold utcMidnightSecond dayMs
      omega
  have hutc : zone.utcOffset (utcMidnightSecond (zone.localDate instant + 1)) = offset := by
    apply hoffset
    all_goals
      rw [hlocal]
      unfold utcMidnightSecond dayMs
      omega
  have hreads : reading zone.utcOffset (utcMidnightSecond (zone.localDate instant + 1) - offset) =
      utcMidnightSecond (zone.localDate instant + 1) := by
    rw [reading, hmidnight]
    ring
  -- the first correction ends at midnight and the others stay there
  have hcorrected : zone.corrected (zone.localDate instant + 1) =
      utcMidnightSecond (zone.localDate instant + 1) - offset := by
    have hfirst : correct zone.utcOffset (utcMidnightSecond (zone.localDate instant + 1))
        (utcMidnightSecond (zone.localDate instant + 1)) =
          utcMidnightSecond (zone.localDate instant + 1) - offset := by
      rw [correct, hutc]
    rw [corrected, Function.iterate_succ_apply, hfirst]
    exact iterate_correct_of_reading hreads 3
  rw [nextMidnight, hdate, hcorrected]
  refine ⟨rfl, ?_, zone.readsMidnight_mul.mpr hreads⟩
  rw [utcMidnight_eq]
  ring

theorem Zone.localDate_of_constant {instant : Int} (hle : start ≤ instant) (hstop : instant ≤ stop) :
    zone.localDate instant = (instant + 1000 * offset) / dayMs := by
  rw [localDate, zone.wallClock_of_constant hoffset hle hstop]

theorem Zone.year100_of_constant {instant : Int} (hle : start ≤ instant) (hstop : instant ≤ stop)
    (hfirst : year1000 ≤ zone.localDate start) : year100 ≤ zone.localDate instant := by
  rw [zone.localDate_of_constant hoffset hle hstop]
  rw [zone.localDate_of_constant hoffset le_rfl (hle.trans hstop)] at hfirst
  unfold year1000 at hfirst
  unfold year100
  unfold dayMs at *
  omega

/-- Every day ends where the offset does not change within two days of the range. -/
theorem Zone.dayEnds_of_constant (hfirst : year1000 ≤ zone.localDate start)
    (hlast : zone.localDate stop + 1 < year10000) {instant : Int} (hle : start ≤ instant)
    (hbefore : instant < stop) : zone.DayEnds stop instant := by
  obtain ⟨hdate, hnext, hreads⟩ := zone.nextMidnight_of_constant hoffset hle hbefore.le
    (zone.year100_of_constant hoffset hle hbefore.le hfirst)
  have hlocal := zone.localDate_of_constant hoffset hle hbefore.le
  rw [zone.localDate_of_constant hoffset le_rfl (hle.trans hbefore.le)] at hfirst
  rw [zone.localDate_of_constant hoffset (hle.trans hbefore.le) le_rfl] at hlast
  unfold utcMidnight at hnext
  refine ⟨?_, hreads, ?_, fun later hlater hstop hahead => ?_⟩
  · unfold dayMs at *
    omega
  · unfold dayMs at *
    omega
  · apply zone.dateAndWeekday_congr
    rw [zone.localDate_of_constant hoffset (hle.trans hlater) hstop.le]
    unfold dayMs at *
    omega

/-- And between whole minutes the minutes increase, if the offset is one of whole minutes. -/
theorem Zone.minutesIncrease_of_constant (hlt : start < stop) (hminute : 60 ∣ offset)
    (hfirst : year1000 ≤ zone.localDate start) (hstart : 60000 ∣ start) (hstop : 60000 ∣ stop) :
    zone.MinutesIncrease start stop := by
  have hle : start ≤ stop - 1 := by omega
  have hlast : stop - 1 ≤ stop := by omega
  obtain ⟨-, hnext, -⟩ := zone.nextMidnight_of_constant hoffset hle hlast
    (zone.year100_of_constant hoffset hle hlast hfirst)
  obtain ⟨-, hnextStart, -⟩ := zone.nextMidnight_of_constant hoffset le_rfl hlt.le
    (zone.year100_of_constant hoffset le_rfl hlt.le hfirst)
  rw [zone.localDate_of_constant hoffset hle hlast] at hnext
  rw [zone.localDate_of_constant hoffset le_rfl hlt.le] at hnextStart
  unfold MinutesIncrease
  rw [minutes_eq, minutes_eq, zone.wallClock_of_constant hoffset le_rfl hlt.le,
    zone.wallClock_of_constant hoffset hlt.le le_rfl]
  unfold utcMidnight dayMs at *
  split_ifs <;> omega

end

/-- The loop finishes and its turns are what the checks need, exactly if every day of the range ends
where the loop looks for its end, and the minutes increase. -/
theorem splitsIntoDays_iff (zone : Zone) {start stop : Int} (hlt : start < stop) :
    (∃ fuel turns, zone.splitTurns stop fuel start = .ok turns ∧
      zone.SplitsIntoDays start stop turns) ↔
      (∀ instant, start ≤ instant → instant < stop → zone.DayEnds stop instant) ∧
        (60000 ∣ start → 60000 ∣ stop → zone.MinutesIncrease start stop) := by
  constructor
  · rintro ⟨fuel, turns, hturns, h⟩
    exact ⟨fun instant => zone.dayEnds_of_splits hturns h,
      zone.minutesIncrease_of_splits hlt hturns h⟩
  · rintro ⟨hdays, hminutes⟩
    exact zone.splitsIntoDays_of_dayEnds hlt hdays hminutes

namespace Sample

theorem abs_daylight_le : |(-14400 : Int)| ≤ 86400 := by decide

theorem abs_standard_le : |(-18000 : Int)| ≤ 86400 := by decide

/-- New York around November 1, 2026. -/
def newYorkFall : Zone := transition 1793512800 (-14400) (-18000) abs_daylight_le abs_standard_le

/-- A night shift four days later. -/
theorem splitsIntoDays_newYork : ∃ fuel turns,
    newYorkFall.splitTurns 1793966400000 fuel 1793937600000 = .ok turns ∧
      newYorkFall.SplitsIntoDays 1793937600000 1793966400000 turns := by
  have hlt : (1793937600000 : Int) < 1793966400000 := by decide
  have hoffset : ∀ second, (1793937600000 : Int) / 1000 - 2 * 86400 ≤ second →
      second ≤ 1793966400000 / 1000 + 2 * 86400 → newYorkFall.utcOffset second = -18000 := by
    intro second hle _
    exact if_neg (by omega)
  have hfirst : year1000 ≤ newYorkFall.localDate 1793937600000 := by decide
  have hlast : newYorkFall.localDate 1793966400000 + 1 < year10000 := by decide
  apply (splitsIntoDays_iff newYorkFall hlt).mpr
  exact ⟨fun instant => newYorkFall.dayEnds_of_constant hoffset hfirst hlast,
    newYorkFall.minutesIncrease_of_constant hoffset hlt (by decide) hfirst⟩

/-- From 01:50 to 01:10 after the clock went back an hour: the only segment ends before it begins. -/
theorem not_splitsIntoDays_fall :
    newYorkFall.splitInstantRangeByLocalDay 2 1793512200000 1793513400000 =
      .ok [⟨"2026-11-01", "Sunday", 110, 70⟩] ∧
    ¬∃ fuel turns, newYorkFall.splitTurns 1793513400000 fuel 1793512200000 = .ok turns ∧
      newYorkFall.SplitsIntoDays 1793512200000 1793513400000 turns := by
  refine ⟨by decide +kernel, ?_⟩
  rintro ⟨fuel, turns, hturns, h⟩
  have hminutes := newYorkFall.minutesIncrease_of_splits (by decide) hturns h (by decide) (by decide)
  unfold Zone.MinutesIncrease at hminutes
  exact absurd hminutes (by decide)

/-- Where midnight is skipped, a range of the day before it is rejected. -/
example : (transition 1774735200 7200 10800 (by decide) (by decide)).splitInstantRangeByLocalDay 2
    1774692000000 1774695600000 = .error (.rejected
      (.badRequest "Local date/time does not exist in the location timezone.")) := by
  decide +kernel

end Sample

end LunchLineup.TimeZones
