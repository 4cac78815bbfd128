import LunchLineup.Engine.Outcome
import LunchLineup.Python.Reference

/-!
# Weekly hours

The model caps, for each person and each enumerated week, the minutes of the
assigned slots in the week plus the minutes the person already has there.  On
whole minutes the capped sum is the time of the returned assignments
(`weekTotal_le_of_mem`), so a week that is enumerated keeps the cap.

A week that is not enumerated keeps it only because nobody works in it.  The
demand-window path enumerates up to the end of the last slot.  The day path
enumerates up to the end of the horizon, and the last shift can run past that
into the next week (`LastShiftSpills.cap_exceeded`).
-/

namespace LunchLineup.Engine

open LunchLineup.Lib LunchLineup.Python

/-! ## The time of a person in a week -/

/-- The part of an interval of one person inside a week. -/
def weekMeasure (staffId : String) (week : Week) (owner : String) (lower upper : Int) : Int :=
  if owner = staffId then overlapLength lower upper week.startTime week.endTime else 0

/-- The time of a person's assignments inside a week. -/
def weekTotal (assignments : List Assignment) (staffId : String) (week : Week) : Int :=
  totalOf (weekMeasure staffId week) assignments

theorem weekMeasure_additive {staffId : String} {week : Week}
    (hweek : week.startTime ≤ week.endTime) : Additive (weekMeasure staffId week) := by
  intro owner a b c hab hbc
  unfold weekMeasure
  by_cases howner : owner = staffId
  · rw [if_pos howner, if_pos howner, if_pos howner, overlapLength_add hab.le hbc.le hweek]
  · rw [if_neg howner, if_neg howner, if_neg howner, add_zero]

/-- The bookings of a person in a week are those of the slots assigned. -/
theorem Booked.weekTotal_eq {problem : Problem} {σ : ShiftVar → Int} {slots : List (Int × Int)}
    {bookings : List Assignment} (h : Booked problem σ slots bookings)
    (hnodup : problem.staffIds.Nodup) {staffId : String} (hstaff : staffId ∈ problem.staffIds)
    (week : Week) :
    weekTotal bookings staffId week = (slots.zipIdx.map fun entry =>
      if σ (.assigned staffId entry.2) = 1 then
        overlapLength entry.1.1 entry.1.2 week.startTime week.endTime else 0).sum := by
  have hspans : weekTotal bookings staffId week = ((bookings.map Assignment.booking).map
      fun item => weekMeasure staffId week item.1 item.2.1 item.2.2).sum := by
    rw [List.map_map]
    rfl
  rw [hspans, h]
  induction slots.zipIdx with
  | nil => rfl
  | cons entry rest ih =>
      have hinner : ((problem.assignedStaff σ entry.2).map fun owner =>
          weekMeasure staffId week owner entry.1.1 entry.1.2).sum =
          if σ (.assigned staffId entry.2) = 1 then
            overlapLength entry.1.1 entry.1.2 week.startTime week.endTime else 0 := by
        unfold weekMeasure Problem.assignedStaff
        rw [sum_map_ite_of_nodup (hnodup.filter _)]
        simp [hstaff]
      rw [List.flatMap_cons, List.map_append, List.sum_append, ih, List.map_cons, List.sum_cons,
        List.map_map, ← hinner]
      rfl

/-! ## The capped sum -/

theorem eval_weightedAssignments (σ : ShiftVar → Int) (slots : List (Int × Int)) (week : Week)
    (staffId : String) :
    ((weightedAssignments slots week staffId).map fun term => term.1 * σ term.2).sum =
      (slots.zipIdx.map fun entry =>
        overlapMinutes entry.1.1 entry.1.2 week.startTime week.endTime *
          σ (.assigned staffId entry.2)).sum := by
  unfold weightedAssignments
  induction slots.zipIdx with
  | nil => rfl
  | cons entry rest ih =>
      rw [List.filterMap_cons, List.map_cons, List.sum_cons, ← ih]
      by_cases hzero : overlapMinutes entry.1.1 entry.1.2 week.startTime week.endTime = 0
      · simp [hzero]
      · simp [hzero]

/-- The cap that a model keeps, for each of its weeks and people. -/
theorem minutes_le_of_weeklyCaps {model : CpModel ShiftVar} {σ : ShiftVar → Int}
    (hsat : model.Satisfies σ) {weeks : List Week} {staffIds : List String}
    {existingWeeklyMinutes : Dict String (Dict String Int)} {slots : List (Int × Int)} {cap : Int}
    (hcaps : ∀ c ∈ weeklyCaps weeks staffIds existingWeeklyMinutes slots cap,
      c ∈ model.constraints)
    {week : Week} (hweek : week ∈ weeks) {staffId : String} (hstaff : staffId ∈ staffIds) :
    (slots.zipIdx.map fun entry =>
      overlapMinutes entry.1.1 entry.1.2 week.startTime week.endTime *
        σ (.assigned staffId entry.2)).sum +
      Dict.getD (Dict.getD existingWeeklyMinutes staffId []) week.date 0 ≤ cap := by
  have hmem : LinearConstraint.le ⟨weightedAssignments slots week staffId,
      Dict.getD (Dict.getD existingWeeklyMinutes staffId []) week.date 0⟩ (.const cap) ∈
      weeklyCaps weeks staffIds existingWeeklyMinutes slots cap :=
    List.mem_flatMap.mpr ⟨week, hweek, List.mem_map.mpr ⟨staffId, hstaff, rfl⟩⟩
  have hholds := hsat.2 _ (hcaps _ hmem)
  simpa [LinearConstraint.Holds, LinearExpr.eval, LinearExpr.const,
    eval_weightedAssignments] using hholds

/-- On whole minutes, what the model caps is the time booked in the week. -/
theorem weekTotal_le_of_mem {problem : Problem} {σ : ShiftVar → Int} {slots : List (Int × Int)}
    {bookings : List Assignment} (hbooked : Booked problem σ slots bookings)
    (hnodup : problem.staffIds.Nodup) {model : CpModel ShiftVar} (hsat : model.Satisfies σ)
    (hvars : ∀ x ∈ slotVars problem.staffIds slots.length, boolVar x ∈ model.vars)
    {weeks : List Week}
    (hcaps : ∀ c ∈ weeklyCaps weeks problem.staffIds problem.existingWeeklyMinutes slots
      problem.maxWeekMinutes, c ∈ model.constraints)
    (hwhole : ∀ slot ∈ slots, minute ∣ slot.1 ∧ minute ∣ slot.2) {week : Week}
    (hweek : week ∈ weeks) (hedges : minute ∣ week.startTime ∧ minute ∣ week.endTime)
    {staffId : String} (hstaff : staffId ∈ problem.staffIds) :
    weekTotal bookings staffId week +
      Dict.getD (Dict.getD problem.existingWeeklyMinutes staffId []) week.date 0 * minute ≤
      problem.maxWeekMinutes * minute := by
  have hcap := minutes_le_of_weeklyCaps hsat hcaps hweek hstaff
  have hsum : weekTotal bookings staffId week = (slots.zipIdx.map fun entry =>
      overlapMinutes entry.1.1 entry.1.2 week.startTime week.endTime *
        σ (.assigned staffId entry.2)).sum * minute := by
    rw [hbooked.weekTotal_eq hnodup hstaff, ← List.sum_map_mul_right]
    congr 1
    refine List.map_congr_left fun entry hentry => ?_
    obtain ⟨hstart, hend⟩ := hwhole entry.1 (List.fst_mem_of_mem_zipIdx hentry)
    have hindex : entry.2 < slots.length := by
      have hget := List.mem_zipIdx_iff_getElem?.mp hentry
      exact (List.getElem?_eq_some_iff.mp hget).1
    have hbounds := hsat.1 _ (hvars (.assigned staffId entry.2) (List.mem_flatMap.mpr
      ⟨staffId, hstaff, List.mem_map_of_mem (List.mem_range.mpr hindex)⟩))
    have hexact := overlapMinutes_mul hstart hend hedges.1 hedges.2
    have hbinary : σ (.assigned staffId entry.2) = 0 ∨ σ (.assigned staffId entry.2) = 1 := by
      have hlower : 0 ≤ σ (.assigned staffId entry.2) := hbounds.1
      have hupper : σ (.assigned staffId entry.2) ≤ 1 := hbounds.2
      omega
    rcases hbinary with hzero | hone
    · rw [hzero, if_neg (by omega), mul_zero, zero_mul]
    · rw [hone, if_pos rfl, mul_one, hexact]
  rw [hsum, ← add_mul]
  exact mul_le_mul_of_nonneg_right hcap (by decide)

/-! ## Minutes a person already has -/

/-- `minutes` is what the request says a person already has in the week of a
Monday, or zero. -/
def Problem.ExistingMinutes (rt : Runtime) (problem : Problem) (staffId : String) (weekDate : Int)
    (minutes : Int) : Prop :=
  minutes = 0 ∨ ∃ key, Dict.get? (Dict.getD problem.existingWeeklyMinutes staffId []) key =
    some minutes ∧ rt.dateFromisoformat key = some weekDate

/-- The keys of `existing_weekly_minutes` are written as `isoformat` writes the
dates they stand for. -/
def Problem.CanonicalWeeks (rt : Runtime) (problem : Problem) : Prop :=
  ∀ staffId key minutes,
    Dict.get? (Dict.getD problem.existingWeeklyMinutes staffId []) key = some minutes →
      ∀ weekDate, rt.dateFromisoformat key = some weekDate → key = rt.dateIsoformat weekDate

/-- Existing minutes are not negative. -/
theorem Prepared.minutes_nonneg {rt : Runtime} {args : SolveArgs} {problem : Problem}
    (h : Prepared rt args problem) (staffId key : String) :
    0 ≤ Dict.getD (Dict.getD problem.existingWeeklyMinutes staffId []) key 0 := by
  rw [Dict.getD]
  cases hminutes : Dict.get? (Dict.getD problem.existingWeeklyMinutes staffId []) key with
  | none => exact le_rfl
  | some minutes =>
      show 0 ≤ minutes
      have hentry := Dict.mem_of_get? hminutes
      rw [Dict.getD] at hentry
      cases hweeks : Dict.get? problem.existingWeeklyMinutes staffId with
      | none =>
          rw [hweeks] at hentry
          simp at hentry
      | some weeks =>
          rw [hweeks, Option.getD_some] at hentry
          have hmember := Dict.mem_of_get? hweeks
          have hread := h.existingWeeklyMinutes
          unfold normalizeExistingWeeklyMinutes at hread
          split at hread
          · rw [← Except.ok.inj hread] at hmember
            simp at hmember
          · obtain ⟨raw, _, hraw⟩ := exists_input_of_mapM_ok hread hmember
            obtain ⟨_, _, hraw⟩ := bind_eq_ok.mp hraw
            split at hraw
            · simp only [bind_eq_ok, ensure_eq_ok, exists_const] at hraw
              obtain ⟨_, parsed, hparsed, heq⟩ := hraw
              cases heq
              obtain ⟨week, _, hweek⟩ := exists_input_of_mapM_ok hparsed hentry
              split at hweek
              · cases hweek
              · obtain ⟨_, _, hweek⟩ := bind_eq_ok.mp hweek
                split at hweek
                · simp only [bind_eq_ok, ensure_eq_ok, exists_const] at hweek
                  obtain ⟨hrange, heq⟩ := hweek
                  cases heq
                  exact hrange.1
                · cases hweek
            · cases hraw
          · cases hread

/-- What a person already has in a week is what the model looks up. -/
theorem Problem.ExistingMinutes.le {rt : Runtime} {args : SolveArgs} {problem : Problem}
    (hprepared : Prepared rt args problem) (hcanonical : problem.CanonicalWeeks rt)
    {staffId : String} {weekDate minutes : Int}
    (h : problem.ExistingMinutes rt staffId weekDate minutes) :
    minutes ≤ Dict.getD (Dict.getD problem.existingWeeklyMinutes staffId [])
      (rt.dateIsoformat weekDate) 0 := by
  rcases h with rfl | ⟨key, hkey, hdate⟩
  · exact hprepared.minutes_nonneg staffId _
  · rw [← hcanonical staffId key minutes hkey weekDate hdate, Dict.getD, hkey, Option.getD_some]

/-! ## Whole minutes -/

/-- The instants and the shift duration of a request are whole minutes. -/
structure Problem.WholeMinutes (problem : Problem) : Prop where
  startTime : minute ∣ problem.startTime
  endTime : minute ∣ problem.endTime
  windows : ∀ window ∈ problem.demandWindows,
    minute ∣ window.startTime ∧ minute ∣ window.endTime
  duration : minute ∣ timedeltaHours problem.shiftDurationHours

/-- A zone whose offsets are whole minutes. -/
def WholeMinuteOffsets (zone : ZoneInfo) : Prop :=
  ∀ reading, minute ∣ reading → minute ∣ zone.toUtc reading

theorem dvd_midnight (date : Int) : minute ∣ midnight date := by
  unfold midnight day minute
  omega

theorem WholeMinuteOffsets.weekOf_dvd {zone : ZoneInfo} (h : WholeMinuteOffsets zone)
    (rt : Runtime) (weekDate : Int) :
    minute ∣ (weekOf rt zone weekDate).startTime ∧ minute ∣ (weekOf rt zone weekDate).endTime :=
  ⟨h _ (dvd_midnight _), h _ (dvd_midnight _)⟩

theorem Problem.WholeMinutes.daySlots_dvd {problem : Problem} (h : problem.WholeMinutes)
    (hzone : WholeMinuteOffsets problem.zone) {slot : Int × Int}
    (hslot : slot ∈ problem.daySlots) : minute ∣ slot.1 ∧ minute ∣ slot.2 := by
  obtain ⟨index, _, rfl⟩ := List.mem_map.mp hslot
  have hstart : minute ∣ problem.shiftStart index := by
    refine Int.dvd_add (dvd_midnight _) ?_
    decide
  exact ⟨hzone _ hstart, hzone _ (Int.dvd_add hstart h.duration)⟩

/-- The edges of segments are edges of windows. -/
theorem edges_of_mem_mergeWindows {windows : List DemandWindow} {Q : Int → Prop}
    (h : ∀ window ∈ windows, Q window.startTime ∧ Q window.endTime) :
    ∀ segment ∈ mergeWindows windows, Q segment.startTime ∧ Q segment.endTime := by
  have hpieces : ∀ segment ∈ (cuts (windowBoundaries windows)).filterMap (segmentOf windows),
      Q segment.startTime ∧ Q segment.endTime := by
    have hboundary : ∀ x ∈ windowBoundaries windows, Q x := by
      intro x hx
      rw [windowBoundaries, mem_sortedSet, List.mem_flatMap] at hx
      obtain ⟨window, hwindow, hedge⟩ := hx
      rcases List.mem_pair.mp hedge with rfl | rfl
      · exact (h window hwindow).1
      · exact (h window hwindow).2
    intro segment hsegment
    obtain ⟨piece, hpiece, hof⟩ := List.mem_filterMap.mp hsegment
    obtain ⟨hstart, hend⟩ := segmentOf_eq_some hof
    obtain ⟨hfirst, hsecond⟩ := mem_of_mem_cuts hpiece
    exact ⟨hstart ▸ hboundary _ hfirst, hend ▸ hboundary _ hsecond⟩
  obtain ⟨hvalid, hordered⟩ := segments_ordered windows
  unfold mergeWindows
  split
  · simp
  · rename_i first rest hsegments
    rw [hsegments] at hpieces hvalid hordered
    refine joins_merging.forall_mem ?_ hvalid hordered.isChain hpieces
    intro current next _ _ _ _ hcurrent hnext
    exact ⟨hcurrent.1, hnext.2⟩

theorem Problem.WholeMinutes.segmentSlots_dvd {problem : Problem} (h : problem.WholeMinutes)
    {slot : Int × Int} (hslot : slot ∈ problem.segmentSlots) : minute ∣ slot.1 ∧ minute ∣ slot.2 := by
  obtain ⟨segment, hsegment, rfl⟩ := List.mem_map.mp hslot
  exact edges_of_mem_mergeWindows h.windows segment hsegment

/-! ## Weeks in which somebody works -/

/-- Some assignment has time in the week. -/
def Touched (assignments : List Assignment) (week : Week) : Prop :=
  ∃ assignment ∈ assignments,
    0 < overlapLength assignment.startTime assignment.endTime week.startTime week.endTime

/-- In every local calendar week in which somebody works, nobody's returned
assignments and existing minutes exceed the cap together. -/
def Problem.WithinCap (rt : Runtime) (problem : Problem) (assignments : List Assignment) : Prop :=
  ∀ staffId ∈ problem.staffIds, ∀ weekDate, weekday weekDate = 0 →
    Touched assignments (weekOf rt problem.zone weekDate) →
    ∀ minutes, problem.ExistingMinutes rt staffId weekDate minutes →
      weekTotal assignments staffId (weekOf rt problem.zone weekDate) + minutes * minute ≤
        problem.maxWeekMinutes * minute

/-- The enumerated weeks reach all slots: no slot starts before the first of
them, and on the day path no shift runs into a week that begins at or after the
end of the horizon. -/
structure Problem.WeeksReach (rt : Runtime) (problem : Problem) : Prop where
  first : ∀ slot ∈ problem.segments.head?,
    (weekOf rt problem.zone (firstMonday problem.zone slot.startTime)).startTime ≤ slot.startTime
  days : problem.segments = [] → ∀ slot ∈ problem.daySlots,
    (weekOf rt problem.zone (firstMonday problem.zone problem.startTime)).startTime ≤ slot.1 ∧
      ∀ weekDate, weekday weekDate = 0 →
        problem.endTime ≤ (weekOf rt problem.zone weekDate).startTime →
          slot.2 ≤ (weekOf rt problem.zone weekDate).startTime

/-- A week that a slot reaches into is enumerated. -/
theorem mem_calendarWeeks_of_reach {rt : Runtime} {zone : ZoneInfo}
    {startTime endTime weekDate t : Int} (hmonday : weekday weekDate = 0)
    (hle : (weekOf rt zone weekDate).startTime ≤ t) (hlt : t < (weekOf rt zone weekDate).endTime)
    (hfirst : (weekOf rt zone (firstMonday zone startTime)).startTime ≤ t)
    (hlast : endTime ≤ (weekOf rt zone weekDate).startTime →
      t < (weekOf rt zone weekDate).startTime) :
    weekOf rt zone weekDate ∈ calendarWeeks rt zone startTime endTime := by
  apply mem_calendarWeeks rt zone hmonday
  · by_contra hbefore
    have hends := endTime_le_of_lt_firstMonday rt zone hmonday (not_le.mp hbefore)
    omega
  · by_contra hafter
    have := hlast (not_lt.mp hafter)
    omega

theorem exists_mem_of_overlap {a b lo hi : Int} (h : 0 < overlapLength a b lo hi) :
    ∃ t, a ≤ t ∧ t < b ∧ lo ≤ t ∧ t < hi := by
  unfold overlapLength at h
  exact ⟨max a lo, by omega, by omega, by omega, by omega⟩

/-- Segments are sorted, so the first one has the earliest start. -/
theorem earliest_eq {first : Segment} {rest : List Segment}
    (hlater : ∀ other ∈ rest, first.startTime ≤ other.startTime) :
    rest.foldl (fun earliest slot => min earliest slot.startTime) first.startTime =
      first.startTime := by
  induction rest with
  | nil => rfl
  | cons other more ih =>
      rw [List.foldl_cons, min_eq_left (hlater other (by simp))]
      exact ih fun third hthird => hlater third (by simp [hthird])

/-- The weeks of the slots reach from the start of the first slot to the end of
each of them. -/
theorem Problem.slotWeeks_eq (rt : Runtime) {problem : Problem} {first : Segment}
    {rest : List Segment} (hsegments : problem.segments = first :: rest) :
    ∃ latest, problem.slotWeeks rt = calendarWeeks rt problem.zone first.startTime latest ∧
      ∀ slot ∈ problem.segments, first.startTime ≤ slot.startTime ∧ slot.endTime ≤ latest := by
  obtain ⟨hvalid, hordered⟩ := problem.segments_ordered
  rw [hsegments, List.pairwise_cons] at hordered
  rw [hsegments] at hvalid
  have hfirst : first.startTime < first.endTime := hvalid first (by simp)
  have hlater : ∀ other ∈ rest, first.startTime ≤ other.startTime := by
    intro other hother
    have := hordered.1 other hother
    omega
  have hlatest := le_foldl_max Segment.endTime rest first.endTime
  refine ⟨rest.foldl (fun latest slot => max latest slot.endTime) first.endTime, ?_, ?_⟩
  · unfold Problem.slotWeeks
    rw [hsegments]
    dsimp only
    rw [earliest_eq hlater]
  · intro slot hslot
    rw [hsegments] at hslot
    rcases List.mem_cons.mp hslot with rfl | hrest
    · exact ⟨le_rfl, hlatest.1⟩
    · exact ⟨hlater slot hrest, hlatest.2 slot hrest⟩

theorem WindowOutcome.week_mem {rt : Runtime} {problem : Problem} {σ : ShiftVar → Int}
    {assignments : List Assignment} (h : WindowOutcome rt problem σ assignments)
    (hreach : problem.WeeksReach rt) {weekDate : Int} (hmonday : weekday weekDate = 0)
    (htouched : Touched assignments (weekOf rt problem.zone weekDate)) :
    weekOf rt problem.zone weekDate ∈ problem.slotWeeks rt := by
  obtain ⟨assignment, hmem, hoverlap⟩ := htouched
  obtain ⟨t, hstart, hend, hweekLe, hweekLt⟩ := exists_mem_of_overlap hoverlap
  obtain ⟨index, slot, hslot, _, _, hslotLe, hslotLt⟩ := h.exists_slot hmem hstart hend
  obtain ⟨first, rest, hsegments⟩ := List.exists_cons_of_ne_nil h.path
  obtain ⟨latest, hweeks, hbounds⟩ := problem.slotWeeks_eq rt hsegments
  obtain ⟨hslotStart, hslotEnd⟩ := hbounds slot (List.mem_of_getElem? hslot)
  have hfirstWeek := hreach.first first (by rw [hsegments]; rfl)
  rw [hweeks]
  apply mem_calendarWeeks_of_reach hmonday hweekLe hweekLt
  · omega
  · intro hafter
    omega

theorem DayOutcome.week_mem {rt : Runtime} {problem : Problem} {σ : ShiftVar → Int}
    {assignments : List Assignment} (h : DayOutcome rt problem σ assignments)
    (hreach : problem.WeeksReach rt) {weekDate : Int} (hmonday : weekday weekDate = 0)
    (htouched : Touched assignments (weekOf rt problem.zone weekDate)) :
    weekOf rt problem.zone weekDate ∈
      calendarWeeks rt problem.zone problem.startTime problem.endTime := by
  obtain ⟨assignment, hmem, hoverlap⟩ := htouched
  obtain ⟨t, hstart, hend, hweekLe, hweekLt⟩ := exists_mem_of_overlap hoverlap
  obtain ⟨index, hindex, _, _, hstartEq, hendEq⟩ := h.exists_day hmem
  obtain ⟨hfirst, hlast⟩ := hreach.days h.path _
    (List.mem_map.mpr ⟨index, List.mem_range.mpr hindex, rfl⟩)
  apply mem_calendarWeeks_of_reach hmonday hweekLe hweekLt
  · exact (hfirst.trans hstartEq.ge).trans hstart
  · intro hafter
    have hspan := hlast weekDate hmonday hafter
    have hend' : assignment.endTime ≤ (weekOf rt problem.zone weekDate).startTime :=
      hendEq.le.trans hspan
    omega

/-! ## The cap -/

theorem WindowOutcome.withinCap {rt : Runtime} {args : SolveArgs} {problem : Problem}
    {σ : ShiftVar → Int} {assignments : List Assignment} (hprepared : Prepared rt args problem)
    (hwhole : problem.WholeMinutes) (hzone : WholeMinuteOffsets problem.zone)
    (hcanonical : problem.CanonicalWeeks rt) (hreach : problem.WeeksReach rt)
    (h : WindowOutcome rt problem σ assignments) : problem.WithinCap rt assignments := by
  intro staffId hstaff weekDate hmonday htouched minutes hminutes
  have hcap := weekTotal_le_of_mem (problem.slotAssignments_booked rt σ)
    hprepared.staffIds_nodup h.satisfies
    (by
      intro x hx
      rw [Problem.segmentSlots, List.length_map] at hx
      exact List.mem_append_left _ (List.mem_map_of_mem hx))
    (fun c hc => List.mem_append_left _ (List.mem_append_right _ hc))
    (fun slot hslot => hwhole.segmentSlots_dvd hslot) (h.week_mem hreach hmonday htouched)
    (hzone.weekOf_dvd rt weekDate) hstaff
  have hsame : weekTotal assignments staffId (weekOf rt problem.zone weekDate) =
      weekTotal (problem.slotAssignments rt σ) staffId (weekOf rt problem.zone weekDate) :=
    h.sameTime.total (weekMeasure_additive
      (startTime_lt_of_lt rt problem.zone (le_refl (weekDate + 7))).le)
  have hexisting := mul_le_mul_of_nonneg_right (hminutes.le hprepared hcanonical)
    (show (0 : Int) ≤ minute by decide)
  rw [hsame]
  exact (Int.add_le_add_left hexisting _).trans hcap

theorem DayOutcome.withinCap {rt : Runtime} {args : SolveArgs} {problem : Problem}
    {σ : ShiftVar → Int} {assignments : List Assignment} (hprepared : Prepared rt args problem)
    (hwhole : problem.WholeMinutes) (hzone : WholeMinuteOffsets problem.zone)
    (hcanonical : problem.CanonicalWeeks rt) (hreach : problem.WeeksReach rt)
    (h : DayOutcome rt problem σ assignments) : problem.WithinCap rt assignments := by
  intro staffId hstaff weekDate hmonday htouched minutes hminutes
  have hcap := weekTotal_le_of_mem (problem.dayAssignments_booked rt σ)
    hprepared.staffIds_nodup h.satisfies
    (by
      intro x hx
      rw [Problem.daySlots, List.length_map, List.length_range] at hx
      exact List.mem_append_left _ (List.mem_map_of_mem hx))
    (fun c hc => List.mem_append_left _ (List.mem_append_right _ hc))
    (fun slot hslot => hwhole.daySlots_dvd hzone hslot) (h.week_mem hreach hmonday htouched)
    (hzone.weekOf_dvd rt weekDate) hstaff
  have hexisting := mul_le_mul_of_nonneg_right (hminutes.le hprepared hcanonical)
    (show (0 : Int) ≤ minute by decide)
  rw [h.result]
  exact (Int.add_le_add_left hexisting _).trans hcap

namespace LastShiftSpills

/-- A request for one Sunday: the shift lasts until Monday 09:00, and the person
already has the hours of the whole next week. -/
def args : SolveArgs where
  config := []
  staffIds := ["a"]
  startDate := "2026-03-08"
  endDate := "2026-03-09"
  constraints :=
    [("shift_duration_hours", .int 24), ("max_hours_per_week", .int 168),
      ("break_rules", .dict
        [("min_shift_for_break", .int 25), ("min_shift_for_second_break", .int 25)]),
      ("existing_weekly_minutes", .dict [("a", .dict [("2026-03-09", .int 10080)])])]

/-- The person is assigned, for one day. -/
def assigned : ShiftVar → Int
  | .assigned _ _ => 1
  | .maxLoad => 1

/-- Monday, 2026-03-09. -/
def monday : Int := 20521

theorem over_cap :
    (match prepare (.reference fun _ => none) args,
        solve (.reference fun _ => none) (.candidate assigned) args with
      | .ok problem, .feasible assignments _ _ =>
          let week := weekOf (.reference fun _ => none) problem.zone monday
          decide (minute ∣ problem.startTime ∧ minute ∣ problem.endTime ∧
            problem.demandWindows = [] ∧ minute ∣ timedeltaHours problem.shiftDurationHours ∧
            "a" ∈ problem.staffIds ∧
            (∃ assignment ∈ assignments,
              0 < overlapLength assignment.startTime assignment.endTime week.startTime
                week.endTime) ∧
            Dict.get? (Dict.getD problem.existingWeeklyMinutes "a" []) "2026-03-09" =
              some 10080 ∧
            problem.maxWeekMinutes * minute < weekTotal assignments "a" week + 10080 * minute)
      | _, _ => false) = true := by
  decide +kernel

end LastShiftSpills

/-! ## An ordinary Monday -/

namespace OrdinaryMonday

/-- One person with an hour already worked in the week. -/
def args : SolveArgs where
  config := []
  staffIds := ["a"]
  startDate := "2026-03-09"
  endDate := "2026-03-10"
  constraints :=
    [("break_rules", .dict
        [("min_shift_for_break", .int 24), ("min_shift_for_second_break", .int 24)]),
      ("existing_weekly_minutes", .dict [("a", .dict [("2026-03-09", .int 60)])])]

theorem found :
    (match prepare (.reference fun _ => none) args,
        solve (.reference fun _ => none) (.candidate LastShiftSpills.assigned) args with
      | .ok problem, .feasible _ _ _ =>
          decide (minute ∣ problem.startTime ∧ minute ∣ problem.endTime ∧
            problem.demandWindows = [] ∧ minute ∣ timedeltaHours problem.shiftDurationHours ∧
            problem.existingWeeklyMinutes = [("a", [("2026-03-09", 60)])] ∧
            ∀ slot ∈ problem.daySlots,
              (weekOf (.reference fun _ => none) problem.zone
                (firstMonday problem.zone problem.startTime)).startTime ≤ slot.1 ∧
                slot.2 ≤ problem.endTime)
      | _, _ => false) = true := by
  decide +kernel

end OrdinaryMonday

end LunchLineup.Engine
