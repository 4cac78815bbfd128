import LunchLineup.Lib.Dict
import LunchLineup.TimeZones.CalendarWeeks

/-!
# Weekly minutes in the API and in the engine

`aggregateExistingWeeklyMinutes` adds up, for each person and week, the minutes
that their shifts have in the week.  It rounds each part of a shift to the
nearest minute, half a minute up; `_overlap_minutes` of the engine rounds half a
minute to even.

On the weeks of `calendarWeekRange` the sums are those of the engine exactly if
no part of a shift is an even number of minutes and a half, and the minutes of
the shifts in the weeks together exactly if what rounding adds and drops cancels
(`RoundAlike`).
-/

namespace LunchLineup.TimeZones

open LunchLineup.Lib LunchLineup.Python
open LunchLineup.Engine (calendarWeeks overlapMinutes)

/-! ## The minutes of the API -/

structure ExistingShiftRange where
  userId : Option String
  startTime : Int
  endTime : Int

/-- `ExistingWeeklyMinutes`; the ids of users are no names of `Object.prototype`. -/
abbrev WeeklyMinutes := Dict String (Dict String Int)

/-- `Math.round(ms / 60_000)`. -/
def roundMinutes (ms : Int) : Int := (ms + 30000) / 60000

/-- The body of the inner loop of `aggregateExistingWeeklyMinutes`. -/
def addOverlap (userId : String) (shiftStart shiftEnd : Int) (totals : WeeklyMinutes)
    (week : WeekStart) : WeeklyMinutes :=
  let overlapStart := max shiftStart week.start
  let overlapEnd := min shiftEnd week.stop
  if overlapEnd ≤ overlapStart then totals
  else
    let minutes := roundMinutes (overlapEnd - overlapStart)
    let staffWeeks := totals.getD userId []
    totals.set userId (staffWeeks.set week.date (staffWeeks.getD week.date 0 + minutes))

/-- The body of the outer loop. -/
def addShift (weekStarts : List WeekStart) (staffIds : List String) (totals : WeeklyMinutes)
    (shift : ExistingShiftRange) : WeeklyMinutes :=
  match shift.userId with
  | none => totals
  | some userId =>
      if userId = "" ∨ userId ∉ staffIds then totals
      else if shift.endTime ≤ shift.startTime then totals
      else weekStarts.foldl (addOverlap userId shift.startTime shift.endTime) totals

/-- `aggregateExistingWeeklyMinutes`. -/
def aggregateExistingWeeklyMinutes (shifts : List ExistingShiftRange) (weeks : CalendarWeekRange)
    (staffIds : List String) : WeeklyMinutes :=
  shifts.foldl (addShift weeks.weekStarts staffIds) []

/-- The minutes of a person in the week of a date. -/
def WeeklyMinutes.minutesOf (totals : WeeklyMinutes) (userId date : String) : Int :=
  (totals.getD userId []).getD date 0

/-- The shifts of a person. -/
def shiftsOf (shifts : List ExistingShiftRange) (userId : String) : List ExistingShiftRange :=
  shifts.filter (·.userId = some userId)

theorem shiftsOf_cons (shift : ExistingShiftRange) (shifts : List ExistingShiftRange)
    (userId : String) : shiftsOf (shift :: shifts) userId =
      if shift.userId = some userId then shift :: shiftsOf shifts userId
      else shiftsOf shifts userId := by
  unfold shiftsOf
  rw [List.filter_cons]
  simp

/-! ## Rounding -/

/-- The engine rounds as the API does but for an even number of minutes and a half. -/
theorem overlapMinutes_eq (a b lo hi : Int) :
    overlapMinutes (1000 * a) (1000 * b) (1000 * lo) (1000 * hi) =
      roundMinutes (overlapLength a b lo hi) -
        if overlapLength a b lo hi % 120000 = 30000 then 1 else 0 := by
  have hms : min (1000 * b) (1000 * hi) - max (1000 * a) (1000 * lo) =
      1000 * (min b hi - max a lo) := by omega
  rw [overlapMinutes, hms, overlapLength]
  generalize min b hi - max a lo = x
  unfold divideAndRound roundMinutes minute
  dsimp only
  split_ifs <;> omega

/-- What rounding adds, in milliseconds. -/
def roundingError (ms : Int) : Int := 60000 * roundMinutes ms - ms

/-! ## The totals -/

section

variable {weekStarts : List WeekStart} {staffIds : List String} {userId : String}

theorem getD_set {α : Type} (d : Dict String α) (key other : String) (value default : α) :
    (d.set key value).getD other default = if key = other then value else d.getD other default := by
  rw [Dict.getD, Dict.get?_set]
  split_ifs <;> rfl

/-- An overlap is added to the week of its person. -/
theorem minutesOf_addOverlap (other : String) (a b : Int) (totals : WeeklyMinutes)
    (week : WeekStart) (date : String) :
    (addOverlap other a b totals week).minutesOf userId date = totals.minutesOf userId date +
      if other = userId ∧ week.date = date then roundMinutes (overlapLength a b week.start week.stop)
      else 0 := by
  unfold addOverlap
  dsimp only
  by_cases hnone : min b week.stop ≤ max a week.start
  · have hzero : overlapLength a b week.start week.stop = 0 := by
      unfold overlapLength
      omega
    rw [if_pos hnone, hzero]
    split_ifs <;> exact (add_zero _).symm
  · have hlength : min b week.stop - max a week.start = overlapLength a b week.start week.stop := by
      unfold overlapLength
      omega
    rw [if_neg hnone, hlength, WeeklyMinutes.minutesOf, getD_set]
    by_cases huser : other = userId
    · subst huser
      rw [if_pos rfl, getD_set]
      by_cases hdate : week.date = date
      · subst hdate
        rw [if_pos rfl, if_pos ⟨rfl, rfl⟩]
        rfl
      · rw [if_neg hdate, if_neg (fun h => hdate h.2), add_zero]
        rfl
    · rw [if_neg huser, if_neg (fun h => huser h.1), add_zero]
      rfl

theorem minutesOf_foldl_addOverlap (other : String) (a b : Int) (totals : WeeklyMinutes)
    (date : String) :
    WeeklyMinutes.minutesOf (weekStarts.foldl (addOverlap other a b) totals) userId date =
      totals.minutesOf userId date + if other = userId then
        (weekStarts.map fun week => if week.date = date then
          roundMinutes (overlapLength a b week.start week.stop) else 0).sum else 0 := by
  induction weekStarts generalizing totals with
  | nil =>
      split_ifs <;> exact (add_zero _).symm
  | cons week weekStarts ih =>
      rw [List.foldl_cons, ih, minutesOf_addOverlap, List.map_cons, List.sum_cons]
      by_cases huser : other = userId
      · simp only [huser, true_and, if_true, add_assoc]
      · rw [if_neg huser, if_neg huser, if_neg (fun h => huser h.1), add_zero]

/-- A shift of the person is added to each of its weeks. -/
theorem minutesOf_addShift (hstaff : userId ∈ staffIds) (hname : userId ≠ "")
    (totals : WeeklyMinutes) (shift : ExistingShiftRange) (date : String) :
    (addShift weekStarts staffIds totals shift).minutesOf userId date =
      totals.minutesOf userId date + if shift.userId = some userId then
        (weekStarts.map fun week => if week.date = date then
          roundMinutes (overlapLength shift.startTime shift.endTime week.start week.stop) else 0).sum
      else 0 := by
  unfold addShift
  cases hshift : shift.userId with
  | none => exact (add_zero _).symm
  | some other =>
      simp only [Option.some.injEq]
      by_cases hskip : other = "" ∨ other ∉ staffIds
      · rw [if_pos hskip, if_neg, add_zero]
        rintro rfl
        rcases hskip with hskip | hskip
        · exact hname hskip
        · exact hskip hstaff
      · rw [if_neg hskip]
        by_cases hempty : shift.endTime ≤ shift.startTime
        · -- an empty shift overlaps no week
          have hzero : ∀ week : WeekStart, (if week.date = date then roundMinutes
              (overlapLength shift.startTime shift.endTime week.start week.stop) else 0) = 0 := by
            intro week
            have : overlapLength shift.startTime shift.endTime week.start week.stop = 0 := by
              unfold overlapLength
              omega
            rw [this]
            split_ifs <;> rfl
          rw [if_pos hempty]
          simp only [hzero]
          simp
        · rw [if_neg hempty, minutesOf_foldl_addOverlap]

/-- The total of a person in a week is over their shifts. -/
theorem minutesOf_aggregate (hstaff : userId ∈ staffIds) (hname : userId ≠ "")
    (shifts : List ExistingShiftRange) (range : CalendarWeekRange) (date : String) :
    (aggregateExistingWeeklyMinutes shifts range staffIds).minutesOf userId date =
      ((shiftsOf shifts userId).map fun shift => (range.weekStarts.map fun week =>
        if week.date = date then
          roundMinutes (overlapLength shift.startTime shift.endTime week.start week.stop)
        else 0).sum).sum := by
  have hfold : ∀ (totals : WeeklyMinutes), WeeklyMinutes.minutesOf
      (shifts.foldl (addShift range.weekStarts staffIds) totals) userId date =
        totals.minutesOf userId date + ((shiftsOf shifts userId).map fun shift =>
          (range.weekStarts.map fun week => if week.date = date then
            roundMinutes (overlapLength shift.startTime shift.endTime week.start week.stop)
          else 0).sum).sum := by
    induction shifts with
    | nil => exact fun totals => (add_zero _).symm
    | cons shift shifts ih =>
        intro totals
        rw [List.foldl_cons, ih, minutesOf_addShift hstaff hname, shiftsOf_cons]
        by_cases huser : shift.userId = some userId
        · rw [if_pos huser, if_pos huser, List.map_cons, List.sum_cons, add_assoc]
        · rw [if_neg huser, if_neg huser, add_zero]
  exact (hfold []).trans (zero_add _)

end

/-! ## On the weeks of a range -/

theorem isoDate_injOn {first second : Int} (h : CalendarDate first) (h' : CalendarDate second)
    (heq : isoDate first = isoDate second) : first = second := by
  have hcivil := (matchDate?_isoDate h).symm.trans ((congrArg matchDate? heq).trans
    (matchDate?_isoDate h'))
  rw [← makeDay_civilFromDays first, Option.some.inj hcivil, makeDay_civilFromDays]

theorem sum_weeks (zone : Zone) (start : Int) (n : Nat) (f : WeekStart → Int) :
    (((List.range' 0 n).map (zone.week start)).map f).sum =
      ∑ k ∈ Finset.range n, f (zone.week start k) := by
  rw [List.map_map, ← List.range_eq_range']
  exact (Multiset.sum_coe _).symm

/-- Of the weeks of a range one has the date of a Monday. -/
theorem sum_week_of_date (zone : Zone) {start : Int} {n k : Nat} (hk : k < n)
    (hcalendar : ∀ j < n, CalendarDate (zone.monday start j)) (f : WeekStart → Int) :
    (((List.range' 0 n).map (zone.week start)).map fun week =>
      if week.date = isoDate (zone.monday start k) then f week else 0).sum = f (zone.week start k) := by
  have hother : ∀ j ∈ Finset.range n, j ≠ k →
      (if (zone.week start j).date = isoDate (zone.monday start k) then f (zone.week start j) else 0) =
        0 := by
    intro j hj hjk
    rw [Finset.mem_range] at hj
    refine if_neg fun heq => hjk ?_
    have hmonday := isoDate_injOn (hcalendar j hj) (hcalendar k hk) heq
    unfold Zone.monday at hmonday
    omega
  rw [sum_weeks, Finset.sum_eq_single_of_mem k (Finset.mem_range.mpr hk) hother]
  exact if_pos rfl

theorem sum_shifts_comm (own : List ExistingShiftRange) (n : Nat)
    (f : ExistingShiftRange → Nat → Int) :
    ∑ k ∈ Finset.range n, (own.map fun shift => f shift k).sum =
      (own.map fun shift => ∑ k ∈ Finset.range n, f shift k).sum := by
  induction own with
  | nil => exact Finset.sum_const_zero
  | cons shift own ih =>
      simp only [List.map_cons, List.sum_cons]
      rw [Finset.sum_add_distrib, ih]

/-- The part of a shift in a week. -/
def Zone.overlap (zone : Zone) (start : Int) (shift : ExistingShiftRange) (k : Nat) : Int :=
  overlapLength shift.startTime shift.endTime (zone.weekBegin start k) (zone.weekBegin start (k + 1))

theorem overlapLength_window_add {a b lo mid hi : Int} (hlo : lo ≤ mid) (hhi : mid ≤ hi) :
    overlapLength a b lo mid + overlapLength a b mid hi = overlapLength a b lo hi := by
  unfold overlapLength
  omega

/-- The parts of a shift in the weeks make its part in the range. -/
theorem sum_overlap (zone : Zone) (start : Int) (shift : ExistingShiftRange) (n : Nat) :
    zone.weekBegin start 0 ≤ zone.weekBegin start n ∧
      ∑ k ∈ Finset.range n, zone.overlap start shift k =
        overlapLength shift.startTime shift.endTime (zone.weekBegin start 0)
          (zone.weekBegin start n) := by
  induction n with
  | zero =>
      refine ⟨le_rfl, ?_⟩
      unfold overlapLength
      rw [Finset.sum_range_zero]
      omega
  | succ n ih =>
      have hlt := zone.weekBegin_lt start n
      refine ⟨ih.1.trans hlt.le, ?_⟩
      rw [Finset.sum_range_succ, ih.2, Zone.overlap, overlapLength_window_add ih.1 hlt.le]

/-- No part of a shift in a week is an even number of minutes and a half, and over the shifts and
weeks of the range what rounding adds and drops cancels. -/
structure Zone.RoundAlike (zone : Zone) (start stop : Int) (own : List ExistingShiftRange) : Prop where
  tie : ∀ k, zone.weekBegin start k < stop → ∀ shift ∈ own,
    zone.overlap start shift k % 120000 ≠ 30000
  cancel : ∀ n, (∀ k < n, zone.weekBegin start k < stop) → stop ≤ zone.weekBegin start n →
    ∑ k ∈ Finset.range n, (own.map fun shift =>
      roundingError (zone.overlap start shift k)).sum = 0

/-- Where the offsets and the shifts are of whole minutes, nothing is rounded. -/
theorem Zone.roundAlike_of_wholeMinutes (zone : Zone) (start stop : Int)
    {own : List ExistingShiftRange} (hoffset : ∀ second, 60 ∣ zone.utcOffset second)
    (hshifts : ∀ shift ∈ own, 60000 ∣ shift.startTime ∧ 60000 ∣ shift.endTime) :
    zone.RoundAlike start stop own := by
  have hbegin : ∀ k, 60000 ∣ zone.weekBegin start k := by
    intro k
    have hlast := hoffset ((correct zone.utcOffset (utcMidnightSecond (zone.monday start k)))^[3]
      (utcMidnightSecond (zone.monday start k)))
    rw [weekBegin, corrected, Function.iterate_succ_apply', correct]
    unfold utcMidnightSecond at hlast ⊢
    omega
  have hoverlap : ∀ k, ∀ shift ∈ own, 60000 ∣ zone.overlap start shift k := by
    intro k shift hshift
    obtain ⟨hfirst, hlast⟩ := hshifts shift hshift
    have hlo := hbegin k
    have hhi := hbegin (k + 1)
    unfold overlap overlapLength
    omega
  refine ⟨fun k _ shift hshift => ?_, fun n _ _ => Finset.sum_eq_zero fun k _ => ?_⟩
  · have := hoverlap k shift hshift
    omega
  · apply List.sum_eq_zero
    intro error herror
    obtain ⟨shift, hshift, rfl⟩ := List.mem_map.mp herror
    have := hoverlap k shift hshift
    unfold roundingError roundMinutes
    omega

/-! ## Both services count alike -/

/-- The weeks tile from an instant to the end of the last. -/
def WeeksTile (stop : Int) : Int → List WeekStart → Prop
  | instant, [] => instant = stop
  | instant, week :: weeks =>
      week.start = instant ∧ instant < week.stop ∧ WeeksTile stop week.stop weeks

/-- The weeks of the range are those of the engine, they tile and cover the range, and the totals of
each person are, by week, what the engine counts, and together the time of the shifts in the weeks. -/
structure WeeklyMinutesAgree (rt : Runtime) (info : ZoneInfo) (start stop : Int)
    (range : CalendarWeekRange) (shifts : List ExistingShiftRange) (staffIds : List String) :
    Prop where
  weeks : range.weekStarts.map WeekStart.toWeek = calendarWeeks rt info (1000 * start) (1000 * stop)
  tiles : WeeksTile range.stop range.start range.weekStarts
  covers : range.start ≤ start ∧ stop ≤ range.stop
  minutes : ∀ userId ∈ staffIds, userId ≠ "" → ∀ week ∈ range.weekStarts,
    (aggregateExistingWeeklyMinutes shifts range staffIds).minutesOf userId week.date =
      ((shiftsOf shifts userId).map fun shift => overlapMinutes (1000 * shift.startTime)
        (1000 * shift.endTime) (1000 * week.start) (1000 * week.stop)).sum
  total : ∀ userId ∈ staffIds, userId ≠ "" →
    60000 * (range.weekStarts.map fun week =>
      (aggregateExistingWeeklyMinutes shifts range staffIds).minutesOf userId week.date).sum =
    ((shiftsOf shifts userId).map fun shift =>
      overlapLength shift.startTime shift.endTime range.start range.stop).sum

theorem weeksTile_week (zone : Zone) (start : Int) (k n : Nat) :
    WeeksTile (zone.weekBegin start (k + n)) (zone.weekBegin start k)
      ((List.range' k n).map (zone.week start)) := by
  induction n generalizing k with
  | zero => exact rfl
  | succ n ih =>
      have hindex : k + (n + 1) = k + 1 + n := by omega
      rw [hindex]
      exact ⟨rfl, zone.weekBegin_lt start k, ih (k + 1)⟩

section

variable (zone : Zone) (start : Int) (shifts : List ExistingShiftRange) {n : Nat}
  {staffIds : List String} {userId : String}

/-- The range of the first weeks. -/
def Zone.weekRange (n : Nat) : CalendarWeekRange :=
  ⟨zone.weekBegin start 0, zone.weekBegin start n, (List.range' 0 n).map (zone.week start)⟩

/-- The engine counts less by one minute for each even number of minutes and a half. -/
theorem sum_overlapMinutes (k : Nat) (own : List ExistingShiftRange) :
    (own.map fun shift => overlapMinutes (1000 * shift.startTime) (1000 * shift.endTime)
      (1000 * zone.weekBegin start k) (1000 * zone.weekBegin start (k + 1))).sum =
    (own.map fun shift => roundMinutes (zone.overlap start shift k)).sum -
      own.countP fun shift => zone.overlap start shift k % 120000 = 30000 := by
  induction own with
  | nil => rfl
  | cons shift own ih =>
      rw [List.map_cons, List.sum_cons, List.map_cons, List.sum_cons, ih, overlapMinutes_eq,
        List.countP_cons]
      change roundMinutes (zone.overlap start shift k) -
        (if zone.overlap start shift k % 120000 = 30000 then 1 else 0) + _ = _
      simp only [decide_eq_true_eq]
      split_ifs
      · push_cast
        ring
      · push_cast
        ring

section

variable (hstaff : userId ∈ staffIds) (hname : userId ≠ "")
  (hcalendar : ∀ j < n, CalendarDate (zone.monday start j))

include hstaff hname hcalendar

/-- The total of a person in a week is of the rounded parts of their shifts. -/
theorem minutesOf_week {k : Nat} (hk : k < n) :
    (aggregateExistingWeeklyMinutes shifts (zone.weekRange start n) staffIds).minutesOf userId
        (isoDate (zone.monday start k)) =
      ((shiftsOf shifts userId).map fun shift => roundMinutes (zone.overlap start shift k)).sum := by
  rw [minutesOf_aggregate hstaff hname]
  congr 1
  apply List.map_congr_left
  intro shift _
  exact sum_week_of_date zone hk hcalendar fun week =>
    roundMinutes (overlapLength shift.startTime shift.endTime week.start week.stop)

/-- The totals are those of the engine exactly if no part is an even number of minutes and a half. -/
theorem minutes_eq_iff :
    (∀ week ∈ (zone.weekRange start n).weekStarts,
      (aggregateExistingWeeklyMinutes shifts (zone.weekRange start n) staffIds).minutesOf userId
          week.date =
        ((shiftsOf shifts userId).map fun shift => overlapMinutes (1000 * shift.startTime)
          (1000 * shift.endTime) (1000 * week.start) (1000 * week.stop)).sum) ↔
    ∀ k < n, ∀ shift ∈ shiftsOf shifts userId, zone.overlap start shift k % 120000 ≠ 30000 := by
  have hweek : ∀ k < n, (aggregateExistingWeeklyMinutes shifts (zone.weekRange start n)
      staffIds).minutesOf userId (zone.week start k).date =
        ((shiftsOf shifts userId).map fun shift => overlapMinutes (1000 * shift.startTime)
          (1000 * shift.endTime) (1000 * (zone.week start k).start)
            (1000 * (zone.week start k).stop)).sum ↔
      ∀ shift ∈ shiftsOf shifts userId, zone.overlap start shift k % 120000 ≠ 30000 := by
    intro k hk
    have hcount : (shiftsOf shifts userId).countP
        (fun shift => zone.overlap start shift k % 120000 = 30000) = 0 ↔
          ∀ shift ∈ shiftsOf shifts userId, zone.overlap start shift k % 120000 ≠ 30000 := by
      rw [List.countP_eq_zero]
      simp only [decide_eq_true_eq]
    have htotal := minutesOf_week zone start shifts hstaff hname hcalendar hk
    have hengine := sum_overlapMinutes zone start k (shiftsOf shifts userId)
    rw [← hcount]
    constructor
    · intro heq
      have := htotal.symm.trans (heq.trans hengine)
      omega
    · intro hnone
      rw [hnone, Nat.cast_zero, sub_zero] at hengine
      exact htotal.trans hengine.symm
  constructor
  · intro h k hk
    exact (hweek k hk).mp (h _ (List.mem_map_of_mem (List.mem_range'_1.mpr (by omega))))
  · intro h week hmem
    obtain ⟨k, hk, rfl⟩ := List.mem_map.mp hmem
    rw [List.mem_range'_1] at hk
    exact (hweek k (by omega)).mpr (h k (by omega))

/-- The totals together are the time of the shifts in the weeks exactly if what rounding adds and
drops cancels. -/
theorem total_eq_iff :
    60000 * ((zone.weekRange start n).weekStarts.map fun week =>
      (aggregateExistingWeeklyMinutes shifts (zone.weekRange start n) staffIds).minutesOf userId
        week.date).sum =
      ((shiftsOf shifts userId).map fun shift => overlapLength shift.startTime shift.endTime
        (zone.weekRange start n).start (zone.weekRange start n).stop).sum ↔
    ∑ k ∈ Finset.range n, ((shiftsOf shifts userId).map fun shift =>
      roundingError (zone.overlap start shift k)).sum = 0 := by
  have hrounded : ((zone.weekRange start n).weekStarts.map fun week =>
      (aggregateExistingWeeklyMinutes shifts (zone.weekRange start n) staffIds).minutesOf userId
        week.date).sum = ∑ k ∈ Finset.range n, ((shiftsOf shifts userId).map fun shift =>
          roundMinutes (zone.overlap start shift k)).sum := by
    rw [Zone.weekRange, sum_weeks]
    apply Finset.sum_congr rfl
    intro k hk
    exact minutesOf_week zone start shifts hstaff hname hcalendar (Finset.mem_range.mp hk)
  have hexact : ((shiftsOf shifts userId).map fun shift => overlapLength shift.startTime
      shift.endTime (zone.weekRange start n).start (zone.weekRange start n).stop).sum =
        ∑ k ∈ Finset.range n, ((shiftsOf shifts userId).map fun shift =>
          zone.overlap start shift k).sum := by
    rw [sum_shifts_comm]
    congr 1
    apply List.map_congr_left
    intro shift _
    exact (sum_overlap zone start shift n).2.symm
  have herror : ∀ k, ((shiftsOf shifts userId).map fun shift =>
      roundingError (zone.overlap start shift k)).sum =
        60000 * ((shiftsOf shifts userId).map fun shift =>
          roundMinutes (zone.overlap start shift k)).sum -
        ((shiftsOf shifts userId).map fun shift => zone.overlap start shift k).sum := by
    intro k
    induction shiftsOf shifts userId with
    | nil => rfl
    | cons shift own ih =>
        simp only [List.map_cons, List.sum_cons]
        rw [ih, roundingError]
        ring
  rw [hrounded, hexact]
  simp only [herror]
  rw [Finset.sum_sub_distrib, ← Finset.mul_sum, sub_eq_zero]

end

end

/-- `RoundAlike`, where the number of weeks is known. -/
theorem roundAlike_iff (zone : Zone) {start stop : Int} {n : Nat}
    (hbefore : ∀ k < n, zone.weekBegin start k < stop) (hstop : stop ≤ zone.weekBegin start n)
    (own : List ExistingShiftRange) :
    zone.RoundAlike start stop own ↔
      (∀ k < n, ∀ shift ∈ own, zone.overlap start shift k % 120000 ≠ 30000) ∧
        ∑ k ∈ Finset.range n, (own.map fun shift =>
          roundingError (zone.overlap start shift k)).sum = 0 := by
  have hmono : StrictMono (zone.weekBegin start) := strictMono_nat_of_lt_succ (zone.weekBegin_lt start)
  constructor
  · intro h
    exact ⟨fun k hk => h.tie k (hbefore k hk), h.cancel n hbefore hstop⟩
  · rintro ⟨htie, hcancel⟩
    refine ⟨fun k hk => htie k ?_, fun m hm hmstop => ?_⟩
    · exact hmono.lt_iff_lt.mp (hk.trans_le hstop)
    · obtain rfl : m = n := by
        rcases lt_trichotomy m n with hlt | heq | hgt
        · exact absurd (hbefore m hlt) (not_lt.mpr hmstop)
        · exact heq
        · exact absurd (hm n hgt) (not_lt.mpr hstop)
      exact hcancel

/-- `calendarWeekRange` returns weeks on which both services count alike, exactly if the weeks match
and the shifts of each person round alike. -/
theorem weeklyMinutesAgree_iff (zone : Zone) (info : ZoneInfo) (rt : Runtime) {start stop : Int}
    (hlt : start < stop) (hzone : SameZone zone info)
    (hrt : ∀ date, year1 ≤ date → date < year10000 → rt.dateIsoformat date = isoDate date)
    (hexists : zone.MondaysExist start stop) (shifts : List ExistingShiftRange)
    (staffIds : List String) :
    (∃ turns range, zone.calendarWeekRange turns start stop = .ok range ∧
      WeeklyMinutesAgree rt info start stop range shifts staffIds) ↔
      zone.WeeksMatch start stop ∧ ∀ userId ∈ staffIds, userId ≠ "" →
        zone.RoundAlike start stop (shiftsOf shifts userId) := by
  obtain ⟨hmonday, -, -⟩ := hexists 0 fun j hj => absurd hj (Nat.not_lt_zero j)
  constructor
  · rintro ⟨turns, range, hrange, hagree⟩
    obtain ⟨hyear, n, rfl, hbefore, hstop, hresolved⟩ :=
      zone.weeks_of_calendarWeekRange hmonday hrange
    have hcalendar : ∀ j < n + 1, CalendarDate (zone.monday start j) :=
      fun j hj => (hresolved j hj.le).1
    refine ⟨⟨hyear, hagree.covers.1,
      begins_of_calendarWeeks hzone hexists hagree.weeks.symm⟩, ?_⟩
    intro userId hstaff hname
    rw [roundAlike_iff zone hbefore hstop]
    exact ⟨(minutes_eq_iff zone start shifts hstaff hname hcalendar).mp
        (hagree.minutes userId hstaff hname),
      (total_eq_iff zone start shifts hstaff hname hcalendar).mp (hagree.total userId hstaff hname)⟩
  · rintro ⟨hmatch, hround⟩
    obtain ⟨n, hweeks, hbefore, hstop, hreads⟩ :=
      calendarWeeks_of_weeksMatch hzone hrt hexists hlt hmatch
    have hcalendar : ∀ j < n + 1, CalendarDate (zone.monday start j) :=
      fun j hj => (hreads j hj.le).1
    have hlast : zone.localDate start < year10000 := by
      have hnext := (hreads 1 (by omega)).1.2
      have hbounds := Engine.mondayOf_le (zone.localDate start)
      rw [zone.monday_succ, zone.monday_zero] at hnext
      omega
    obtain ⟨hfirst, -, hhundred⟩ := zone.mondayDate_start hmonday hmatch.year hlast
    have hresolved : ∀ j, 0 ≤ j → j ≤ 0 + (n + 1) → zone.Resolved start j := by
      intro j _ hj
      refine ⟨(hreads j (by omega)).1, ?_, (hreads j (by omega)).2⟩
      unfold Zone.monday at hhundred ⊢
      omega
    have hrun := zone.weekStartsFrom_eq_ok (n := n + 1) (k := 0) hresolved
      (fun j _ hj => hbefore j (by omega)) (by rwa [Nat.zero_add])
    refine ⟨_, zone.weekRange start (n + 1), zone.calendarWeekRange_eq_ok hlt hfirst hrun, hweeks.symm,
      ?_, ⟨hmatch.first, hstop⟩, ?_, ?_⟩
    · have htile := weeksTile_week zone start 0 (n + 1)
      rwa [Nat.zero_add] at htile
    · intro userId hstaff hname
      have h := (roundAlike_iff zone hbefore hstop _).mp (hround userId hstaff hname)
      exact (minutes_eq_iff zone start shifts hstaff hname hcalendar).mpr h.1
    · intro userId hstaff hname
      have h := (roundAlike_iff zone hbefore hstop _).mp (hround userId hstaff hname)
      exact (total_eq_iff zone start shifts hstaff hname hcalendar).mpr h.2

namespace Sample

section Transition

variable {change before after : Int} (hbefore : |before| ≤ 86400) (hafter : |after| ≤ 86400)

/-- Both services have the zone of one transition. -/
theorem sameZone_transition (hbefore' : |1000000 * before| < Python.day)
    (hafter' : |1000000 * after| < Python.day) :
    SameZone (transition change before after hbefore hafter)
      (.transition (1000000 * change) (1000000 * before) (1000000 * after) hbefore' hafter') := by
  refine ⟨fun instant => ?_, fun instant => ⟨?_, ?_⟩⟩
  · unfold transition ZoneInfo.transition
    dsimp only
    split_ifs <;> omega
  · unfold ZoneInfo.transition
    dsimp only
    split_ifs <;> omega
  · unfold ZoneInfo.transition
    dsimp only
    split_ifs <;> omega

/-- Where the clock only goes forward, an instant at which it reads midnight is the first. -/
theorem begins_transition (hforward : before ≤ after) {date instant : Int}
    (h : (transition change before after hbefore hafter).ReadsMidnight date instant) :
    (transition change before after hbefore hafter).Begins date instant := by
  refine ⟨h, fun earlier hearlier hreads => ?_⟩
  have hsame := hreads.trans h.symm
  unfold Zone.wallClock transition at hsame
  dsimp only at hsame
  split_ifs at hsame <;> omega

end Transition

theorem pad_eq_padded {value : Int} (h : 0 ≤ value) (width : Nat) :
    Reference.pad width value = Payroll.padded width value := by
  have hvalue : value.toNat = value.natAbs := by omega
  unfold Reference.pad Payroll.padded
  dsimp only
  rw [hvalue, String.ofList_append, String.ofList_toList, String.length_toList]

theorem dateIsoformat_reference {date : Int} (h : year1 ≤ date) :
    (Runtime.reference fun _ => none).dateIsoformat date = isoDate date := by
  have hyear := (year_le_iff date year1 1 (by decide)).mpr h
  obtain ⟨hmonth, -, hday, -⟩ := civilFromDays_bounds date
  rw [isoDate, ← pad_eq_padded (by omega), ← pad_eq_padded (by omega), ← pad_eq_padded (by omega)]
  rfl

/-- A Monday after which there is a relevant one is before the end, but for the offset. -/
theorem monday_lt_of_relevant {zone : Zone} {start stop : Int} {k : Nat}
    (h : zone.Relevant start stop (k + 1)) :
    utcMidnight (zone.monday start k) < stop + dayMs := by
  obtain ⟨instant, hinstant, hreads⟩ := h k k.lt_succ_self
  have hoffset := abs_le.mp (zone.bounded (instant / 1000))
  unfold Zone.ReadsMidnight Zone.wallClock at hreads
  unfold dayMs
  omega

/-- Los Angeles around March 8, 2026. -/
def losAngeles : Zone := transition 1772964000 (-28800) (-25200) (by decide) (by decide)

/-- A night shift from one week to the next, on the day on which Los Angeles goes an hour forward. -/
theorem weeklyMinutesAgree_losAngeles :
    ∃ turns range, losAngeles.calendarWeekRange turns 1772611200000 1773126000000 = .ok range ∧
      WeeklyMinutesAgree (Runtime.reference fun _ => none)
        (.transition 1772964000000000 (-28800000000) (-25200000000) (by decide) (by decide))
        1772611200000 1773126000000 range [⟨some "u1", 1773036000000, 1773046800000⟩] ["u1"] := by
  have hzone : SameZone losAngeles
      (.transition 1772964000000000 (-28800000000) (-25200000000) (by decide) (by decide)) :=
    sameZone_transition _ _ _ _
  have hrelevant : ∀ k, losAngeles.Relevant 1772611200000 1773126000000 k → k < 3 := by
    intro k hk
    by_contra hlate
    have hlt := monday_lt_of_relevant (k := 2) fun j hj => hk j (by omega)
    exact absurd hlt (by decide)
  have hreads : ∀ k < 3, losAngeles.ReadsMidnight (losAngeles.monday 1772611200000 k)
      (losAngeles.weekBegin 1772611200000 k) := by decide
  have hdates : ∀ k < 3, year1 ≤ losAngeles.monday 1772611200000 k ∧
      losAngeles.monday 1772611200000 k < year10000 := by decide
  have hexists : losAngeles.MondaysExist 1772611200000 1773126000000 := by
    intro k hk
    have hlt := hrelevant k hk
    exact ⟨(hdates k hlt).1, (hdates k hlt).2, _, hreads k hlt⟩
  apply (weeklyMinutesAgree_iff losAngeles _ _ (by decide) hzone
    (fun date hfirst _ => dateIsoformat_reference hfirst) hexists _ _).mpr
  refine ⟨⟨by decide, by decide, fun k hk => ?_⟩, fun userId _ _ => ?_⟩
  · exact begins_transition _ _ (by decide) (hreads k (hrelevant k hk))
  · apply Zone.roundAlike_of_wholeMinutes
    · intro second
      unfold losAngeles transition
      dsimp only
      split_ifs <;> decide
    · intro shift hshift
      obtain rfl := List.mem_singleton.mp (List.mem_of_mem_filter hshift)
      decide

/-- Jerusalem around September 24, 2001, a Monday that began twice. -/
def jerusalem : Zone := transition 1001282400 10800 7200 (by decide) (by decide)

/-- The week that begins there is of other instants in each service. -/
theorem not_weeklyMinutesAgree_jerusalem :
    SameZone jerusalem
        (.transition 1001282400000000 10800000000 7200000000 (by decide) (by decide)) ∧
      jerusalem.MondaysExist 1001304000000 1001635200000 ∧
      ¬∃ turns range, jerusalem.calendarWeekRange turns 1001304000000 1001635200000 = .ok range ∧
        WeeklyMinutesAgree (Runtime.reference fun _ => none)
          (.transition 1001282400000000 10800000000 7200000000 (by decide) (by decide))
          1001304000000 1001635200000 range [⟨some "u1", 1001278800000, 1001304000000⟩] ["u1"] := by
  have hzone : SameZone jerusalem
      (.transition 1001282400000000 10800000000 7200000000 (by decide) (by decide)) :=
    sameZone_transition _ _ _ _
  have hreads : ∀ k < 2, jerusalem.ReadsMidnight (jerusalem.monday 1001304000000 k)
      (jerusalem.weekBegin 1001304000000 k) := by decide
  have hdates : ∀ k < 2, year1 ≤ jerusalem.monday 1001304000000 k ∧
      jerusalem.monday 1001304000000 k < year10000 := by decide
  have hexists : jerusalem.MondaysExist 1001304000000 1001635200000 := by
    intro k hk
    have hlt : k < 2 := by
      by_contra hlate
      have hlt := monday_lt_of_relevant (k := 1) fun j hj => hk j (by omega)
      exact absurd hlt (by decide)
    exact ⟨(hdates k hlt).1, (hdates k hlt).2, _, hreads k hlt⟩
  refine ⟨hzone, hexists, ?_⟩
  rintro ⟨turns, range, hrange, hagree⟩
  obtain ⟨-, n, rfl, -⟩ := jerusalem.weeks_of_calendarWeekRange (by decide) hrange
  -- an hour before the instant that the resolver finds the clock read midnight too
  have hbegins := begins_of_calendarWeeks hzone hexists hagree.weeks.symm 0
    fun j hj => absurd hj (Nat.not_lt_zero j)
  exact hbegins.2 1001278800000 (by decide) (by decide)

example : ((jerusalem.calendarWeekRange 2 1001304000000 1001635200000).toOption.map fun range =>
    range.weekStarts) = some [⟨"2001-09-24", 1001282400000, 1001887200000⟩] := by
  decide +kernel

end Sample

end LunchLineup.TimeZones
