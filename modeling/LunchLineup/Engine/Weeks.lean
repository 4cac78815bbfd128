import LunchLineup.Lib.Interval
import LunchLineup.Python.Clock

/-!
# Local calendar weeks

The weekly cap is kept week by week, from Monday to Monday on the local clock.
`calendarWeeks` enumerates the weeks from that of the horizon's start as long as
they begin before its end.  Offsets are shorter than a day, so the Mondays keep
their order in UTC and the enumeration is complete (`mem_calendarWeeks`).
`overlapMinutes` rounds to whole minutes; on whole minutes it is exact
(`overlapMinutes_mul`).
-/

namespace LunchLineup.Engine

open LunchLineup.Lib LunchLineup.Python

/-- A calendar week: its Monday, and where it starts and ends in UTC. -/
structure Week where
  date : String
  startTime : Int
  endTime : Int
  deriving DecidableEq

/-- The Monday of the week of a date. -/
def mondayOf (date : Int) : Int := date - weekday date

/-- The week that starts on a date. -/
def weekOf (rt : Runtime) (zone : ZoneInfo) (weekDate : Int) : Week where
  date := rt.dateIsoformat weekDate
  startTime := zone.toUtc (midnight weekDate)
  endTime := zone.toUtc (midnight (weekDate + 7))

/-- The loop of `_calendar_weeks`. -/
def calendarWeeksFrom (rt : Runtime) (zone : ZoneInfo) (endTime : Int) : Nat → Int → List Week
  | 0, _ => []
  | fuel + 1, weekDate =>
      if endTime ≤ (weekOf rt zone weekDate).startTime then []
      else weekOf rt zone weekDate :: calendarWeeksFrom rt zone endTime fuel (weekDate + 7)

/-- The first Monday of the loop. -/
def firstMonday (zone : ZoneInfo) (startTime : Int) : Int :=
  mondayOf (dateOf (zone.toLocal startTime))

/-- `_calendar_weeks`: three turns more than there are whole weeks are enough. -/
def calendarWeeks (rt : Runtime) (zone : ZoneInfo) (startTime endTime : Int) : List Week :=
  calendarWeeksFrom rt zone endTime (((endTime - startTime) / (7 * day)).toNat + 3)
    (firstMonday zone startTime)

/-- `_overlap_minutes`. -/
def overlapMinutes (rangeStart rangeEnd boundaryStart boundaryEnd : Int) : Int :=
  max 0 (divideAndRound (min rangeEnd boundaryEnd - max rangeStart boundaryStart) minute)

/-! ## The enumeration is complete -/

theorem weekday_mondayOf (date : Int) : weekday (mondayOf date) = 0 := by
  unfold mondayOf weekday
  omega

theorem mondayOf_le (date : Int) : mondayOf date ≤ date ∧ date < mondayOf date + 7 := by
  unfold mondayOf weekday
  omega

/-- Later Mondays start later. -/
theorem startTime_lt_of_lt (rt : Runtime) (zone : ZoneInfo) {first second : Int}
    (h : first + 7 ≤ second) :
    (weekOf rt zone first).startTime < (weekOf rt zone second).startTime := by
  have hfirst := abs_lt.mp (zone.toUtc_bounded (midnight first))
  have hsecond := abs_lt.mp (zone.toUtc_bounded (midnight second))
  show zone.toUtc (midnight first) < zone.toUtc (midnight second)
  unfold midnight day at *
  omega

theorem startTime_mono (rt : Runtime) (zone : ZoneInfo) (weekDate : Int) (k : Nat) :
    (weekOf rt zone weekDate).startTime ≤ (weekOf rt zone (weekDate + 7 * k)).startTime := by
  rcases Nat.eq_zero_or_pos k with rfl | hpos
  · simp
  · exact (startTime_lt_of_lt rt zone (by omega)).le

theorem mem_calendarWeeksFrom (rt : Runtime) (zone : ZoneInfo) {endTime : Int} {fuel : Nat}
    {weekDate : Int} {k : Nat} (hfuel : k < fuel)
    (hstart : (weekOf rt zone (weekDate + 7 * k)).startTime < endTime) :
    weekOf rt zone (weekDate + 7 * k) ∈ calendarWeeksFrom rt zone endTime fuel weekDate := by
  induction fuel generalizing weekDate k with
  | zero => omega
  | succ fuel ih =>
      have hmono := startTime_mono rt zone weekDate k
      rw [calendarWeeksFrom, if_neg (by omega)]
      cases k with
      | zero =>
          simp
      | succ k =>
          have hnext : weekDate + 7 * ((k + 1 : Nat) : Int) = weekDate + 7 + 7 * (k : Int) := by
            push_cast
            ring
          rw [hnext] at hstart ⊢
          exact List.mem_cons_of_mem _ (ih (by omega) hstart)

/-- Every week from the first Monday on that begins before the end is
enumerated. -/
theorem mem_calendarWeeks (rt : Runtime) (zone : ZoneInfo) {startTime endTime weekDate : Int}
    (hmonday : weekday weekDate = 0) (hfirst : firstMonday zone startTime ≤ weekDate)
    (hstart : (weekOf rt zone weekDate).startTime < endTime) :
    weekOf rt zone weekDate ∈ calendarWeeks rt zone startTime endTime := by
  have hfirstMonday := weekday_mondayOf (dateOf (zone.toLocal startTime))
  obtain ⟨k, rfl⟩ : ∃ k : Nat, weekDate = firstMonday zone startTime + 7 * k := by
    refine ⟨((weekDate - firstMonday zone startTime) / 7).toNat, ?_⟩
    unfold firstMonday at hfirst ⊢
    unfold weekday at hmonday hfirstMonday
    omega
  -- the start of week `k` is past the horizon's start by `7 * k - 9` days at least
  have hlocal := abs_lt.mp (zone.toLocal_bounded startTime)
  have hutc := abs_lt.mp (zone.toUtc_bounded
    (midnight (firstMonday zone startTime + 7 * k)))
  have hweek := (mondayOf_le (dateOf (zone.toLocal startTime))).2
  have hday := lt_midnight_dateOf_succ (zone.toLocal startTime)
  refine mem_calendarWeeksFrom rt zone ?_ hstart
  show k < ((endTime - startTime) / (7 * day)).toNat + 3
  have hbefore : zone.toUtc (midnight (firstMonday zone startTime + 7 * k)) < endTime := hstart
  unfold firstMonday at hutc hbefore
  unfold midnight day at *
  omega

/-- A week that begins before the first Monday ends no later than the first
Monday begins. -/
theorem endTime_le_of_lt_firstMonday (rt : Runtime) (zone : ZoneInfo) {startTime weekDate : Int}
    (hmonday : weekday weekDate = 0) (hbefore : weekDate < firstMonday zone startTime) :
    (weekOf rt zone weekDate).endTime ≤
      (weekOf rt zone (firstMonday zone startTime)).startTime := by
  have hfirstMonday := weekday_mondayOf (dateOf (zone.toLocal startTime))
  show (weekOf rt zone (weekDate + 7)).startTime ≤ _
  rcases eq_or_ne (weekDate + 7) (firstMonday zone startTime) with heq | hne
  · rw [heq]
  · refine (startTime_lt_of_lt rt zone ?_).le
    unfold firstMonday at hbefore hne ⊢
    unfold weekday at hmonday hfirstMonday
    omega

/-! ## Whole minutes -/

/-- On whole minutes the overlap is exact. -/
theorem overlapMinutes_mul {a b lo hi : Int} (ha : minute ∣ a) (hb : minute ∣ b)
    (hlo : minute ∣ lo) (hhi : minute ∣ hi) :
    overlapMinutes a b lo hi * minute = overlapLength a b lo hi := by
  have hpos : 0 < minute := by decide
  have hdvd : minute ∣ min b hi - max a lo := by
    apply dvd_sub
    · rcases min_choice b hi with h | h <;> rw [h] <;> assumption
    · rcases max_choice a lo with h | h <;> rw [h] <;> assumption
  obtain ⟨k, hk⟩ := hdvd
  rw [overlapMinutes, overlapLength, hk, mul_comm minute k, divideAndRound_mul k minute hpos]
  rcases le_total 0 k with hk0 | hk0
  · rw [max_eq_right hk0, max_eq_right (mul_nonneg hk0 hpos.le)]
  · rw [max_eq_left hk0, max_eq_left (mul_nonpos_of_nonpos_of_nonneg hk0 hpos.le), zero_mul]

end LunchLineup.Engine
