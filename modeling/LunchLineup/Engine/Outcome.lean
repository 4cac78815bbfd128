import LunchLineup.Engine.Solve

/-!
# What a feasible result is

`solve` returns a feasible result on one of its two paths only after the
request was read, the solver found an assignment of the model of that path, and
no coverage gap was left.  `feasible_cases` says this once; the results about
coverage, bookings, weekly hours and availability all start from it.

Both paths book people slot by slot (`Booked`).  The day path returns the
bookings themselves; the demand-window path coalesces them, which keeps the time
of every person.
-/

namespace LunchLineup.Engine

open LunchLineup.Lib LunchLineup.Python

/-! ## A request that was read -/

/-- The steps of `prepare` and the checks between them. -/
structure Prepared (rt : Runtime) (args : SolveArgs) (problem : Problem) : Prop where
  staffIds : normalizeStaffIds args.staffIds = .ok problem.staffIds
  zone : normalizeTimeZone rt (getValue args.constraints "timezone") = .ok problem.zone
  startTime : parseScheduleDatetime rt (.str args.startDate) "start_date" = .ok problem.startTime
  endTime : parseScheduleDatetime rt (.str args.endDate) "end_date" = .ok problem.endTime
  days_pos : 0 < localDays problem.zone problem.startTime problem.endTime
  days_le : localDays problem.zone problem.startTime problem.endTime ≤ 31
  minCoverage : readInt rt args.constraints "min_floor_coverage" 1 = .ok problem.minCoverage
  shiftDurationHours :
    readFloat rt args.constraints "shift_duration_hours" 8 = .ok problem.shiftDurationHours
  maxHoursPerWeek :
    readFloat rt args.constraints "max_hours_per_week" 40 = .ok problem.maxHoursPerWeek
  minCoverage_pos : 1 ≤ problem.minCoverage
  minCoverage_le : problem.minCoverage ≤ problem.staffIds.length
  duration_pos : 0 < problem.shiftDurationHours
  duration_le : problem.shiftDurationHours ≤ 24
  hours_pos : 0 < problem.maxHoursPerWeek
  hours_le : problem.maxHoursPerWeek ≤ 168
  breakRules : breakCalculator rt
    (if (getValue args.constraints "break_rules").truthy then
      getValue args.constraints "break_rules" else getValue args.config "break_rules") =
    .ok problem.breakRules
  recurring : normalizeAvailability rt (getValue args.constraints "availability")
    problem.staffIds = .ok problem.availability.recurring
  exceptions : normalizeAvailabilityExceptions rt
    (getValue args.constraints "availability_exceptions") problem.staffIds =
    .ok problem.availability.exceptions
  dailyDemand : normalizeDailyDemand rt (getValue args.constraints "daily_demand") =
    .ok problem.dailyDemand
  staffSkills : normalizeStaffSkills rt (getValue args.constraints "staff_skills")
    problem.staffIds = .ok problem.staffSkills
  existingWeeklyMinutes : normalizeExistingWeeklyMinutes rt
    (getValue args.constraints "existing_weekly_minutes") problem.staffIds =
    .ok problem.existingWeeklyMinutes
  existingShiftIntervals : normalizeExistingShiftIntervals rt problem.zone
    (getValue args.constraints "existing_shift_intervals") problem.staffIds problem.startTime
    problem.endTime = .ok problem.existingShiftIntervals
  skillRequirements : normalizeSkillRequirements rt
    (getValue args.constraints "skill_requirements") = .ok problem.skillRequirements
  demandWindows : normalizeRawDemandWindows rt (getValue args.constraints "demand_windows")
    problem.startTime problem.endTime = .ok problem.demandWindows

theorem prepare_ok {rt : Runtime} {args : SolveArgs} {problem : Problem}
    (h : prepare rt args = .ok problem) : Prepared rt args problem := by
  unfold prepare at h
  simp only [bind_eq_ok, ensure_eq_ok, exists_const] at h
  obtain ⟨staffIds, hstaffIds, _, _, _, zone, hzone, startTime, hstart, endTime, hend,
    hdaysPos, hdaysLe, minCoverage, hminCoverage, duration, hduration, hours, hhours, limit, hlimit,
    hminPos, hminLe, hdurationPos, hdurationLe, hhoursPos, hhoursLe, hlimitPos, hfull, rules, hrules,
    recurring, hrecurring, exceptions, hexceptions, demand, hdemand, skills, hskills, weekly,
    hweekly, intervals, hintervals, requirements, hrequirements, windows, hwindows, hproblem⟩ := h
  cases hproblem
  exact ⟨hstaffIds, hzone, hstart, hend, hdaysPos, hdaysLe, hminCoverage, hduration, hhours, hminPos,
    hminLe, hdurationPos, hdurationLe, hhoursPos, hhoursLe, hrules, hrecurring, hexceptions,
    hdemand, hskills, hweekly, hintervals, hrequirements, hwindows⟩

theorem Prepared.staffIds_nodup {rt : Runtime} {args : SolveArgs} {problem : Problem}
    (h : Prepared rt args problem) : problem.staffIds.Nodup := by
  obtain ⟨_, _, hcollect⟩ := bind_eq_ok.mp h.staffIds
  exact (collectIds_ok List.nodup_nil (by simp) hcollect).1

/-- What the reader of a demand window has checked. -/
theorem normalizeDemandWindow_ok {rt : Runtime} {scheduleStart scheduleEnd : Int} {index : Nat}
    {rawWindow : PyValue} {window : DemandWindow}
    (h : normalizeDemandWindow rt scheduleStart scheduleEnd index rawWindow = .ok window) :
    (scheduleStart ≤ window.startTime ∧ window.startTime < scheduleEnd ∧
      window.startTime < window.endTime ∧ window.endTime ≤ window.startTime + day) ∧
      ∀ skill, window.skill = some skill → skill ≠ "" := by
  unfold normalizeDemandWindow at h
  split at h
  · rename_i fields
    simp only [bind_eq_ok, ensure_eq_ok, exists_const] at h
    obtain ⟨_, _, startTime, _, endTime, _, hwindow, required, _, skill, hskill, heq⟩ := h
    cases heq
    refine ⟨hwindow, ?_⟩
    rintro text rfl hempty
    unfold normalizeWindowSkill at hskill
    split at hskill
    · cases hskill
    · obtain ⟨_, hensure, hlower⟩ := bind_eq_ok.mp hskill
      rw [ensure_eq_ok] at hensure
      cases hlower
      exact hensure.1 (rt.lower_eq_empty _ hempty)
    · cases hskill
  · cases h

theorem Prepared.window_ok {rt : Runtime} {args : SolveArgs} {problem : Problem}
    (h : Prepared rt args problem) {window : DemandWindow} (hmem : window ∈ problem.demandWindows) :
    (problem.startTime ≤ window.startTime ∧ window.startTime < problem.endTime ∧
      window.startTime < window.endTime ∧ window.endTime ≤ window.startTime + day) ∧
      ∀ skill, window.skill = some skill → skill ≠ "" := by
  have hread := h.demandWindows
  unfold normalizeRawDemandWindows at hread
  split at hread
  · rw [← Except.ok.inj hread] at hmem
    simp at hmem
  · obtain ⟨_, _, hmap⟩ := bind_eq_ok.mp hread
    obtain ⟨entry, _, hentry⟩ := exists_input_of_mapM_ok hmap hmem
    exact normalizeDemandWindow_ok hentry
  · cases hread

theorem normalizeExistingShiftInterval_ok {rt : Runtime} {zone : ZoneInfo}
    {scheduleStart scheduleEnd : Int} {staffIds : List String} {index : Nat} {item : PyValue}
    {interval : ExistingInterval}
    (h : normalizeExistingShiftInterval rt zone scheduleStart scheduleEnd staffIds index item =
      .ok interval) : interval.startTime < interval.endTime := by
  unfold normalizeExistingShiftInterval at h
  split at h
  · obtain ⟨_, _, h⟩ := bind_eq_ok.mp h
    split at h
    · simp only [bind_eq_ok, ensure_eq_ok, exists_const] at h
      obtain ⟨_, _, _, startTime, _, endTime, _, hlt, _, heq⟩ := h
      cases heq
      exact hlt
    · cases h
  · cases h

/-- Existing intervals are not empty. -/
theorem Prepared.interval_ok {rt : Runtime} {args : SolveArgs} {problem : Problem}
    (h : Prepared rt args problem) {interval : ExistingInterval}
    (hmem : interval ∈ problem.existingShiftIntervals) :
    interval.startTime < interval.endTime := by
  have hread := h.existingShiftIntervals
  unfold normalizeExistingShiftIntervals at hread
  split at hread
  · rw [← Except.ok.inj hread] at hmem
    simp at hmem
  · obtain ⟨_, _, hmap⟩ := bind_eq_ok.mp hread
    obtain ⟨entry, _, hentry⟩ := exists_input_of_mapM_ok hmap hmem
    exact normalizeExistingShiftInterval_ok hentry
  · cases hread

/-! ## Bookings -/

/-- The person and the span of an assignment. -/
def Assignment.booking (assignment : Assignment) : String × Int × Int :=
  (assignment.staffId, assignment.startTime, assignment.endTime)

/-- The list books each slot for each person assigned to it. -/
def Booked (problem : Problem) (σ : ShiftVar → Int) (slots : List (Int × Int))
    (bookings : List Assignment) : Prop :=
  bookings.map Assignment.booking = slots.zipIdx.flatMap fun entry =>
    (problem.assignedStaff σ entry.2).map fun staffId => (staffId, entry.1)

namespace Booked

variable {problem : Problem} {σ : ShiftVar → Int} {slots : List (Int × Int)}
  {bookings : List Assignment} (h : Booked problem σ slots bookings)

include h

/-- A booking is a slot of a person assigned to it. -/
theorem exists_slot {booking : Assignment} (hmem : booking ∈ bookings) :
    ∃ index slot, slots[index]? = some slot ∧ booking.staffId ∈ problem.staffIds ∧
      σ (.assigned booking.staffId index) = 1 ∧ booking.span = slot := by
  have hbooked : booking.booking ∈ bookings.map Assignment.booking := List.mem_map_of_mem hmem
  rw [h, List.mem_flatMap] at hbooked
  obtain ⟨⟨slot, index⟩, hslot, hstaff⟩ := hbooked
  obtain ⟨staffId, hassigned, heq⟩ := List.mem_map.mp hstaff
  rw [Problem.assignedStaff, List.mem_filter, decide_eq_true_eq] at hassigned
  cases heq
  exact ⟨index, booking.span, List.mem_zipIdx_iff_getElem?.mp hslot, hassigned.1, hassigned.2, rfl⟩

/-- Bookings of separate slots are apart. -/
theorem apart (hnodup : problem.staffIds.Nodup)
    (hslots : slots.Pairwise fun first second => first.2 ≤ second.1) :
    bookings.Pairwise Assignment.Apart := by
  have hpairs : (bookings.map Assignment.booking).Pairwise fun first second =>
      first.1 = second.1 → first.2.2 ≤ second.2.1 ∨ second.2.2 ≤ first.2.1 := by
    rw [h, List.pairwise_flatMap]
    constructor
    · -- the people of one slot are distinct
      intro entry _
      rw [List.pairwise_map]
      refine List.Pairwise.imp ?_ (hnodup.filter _)
      intro first second hne heq
      exact absurd heq hne
    · have hindexed : slots.zipIdx.Pairwise fun first second => first.1.2 ≤ second.1.1 := by
        rw [← List.pairwise_map (f := Prod.fst) (R := fun first second : Int × Int =>
          first.2 ≤ second.1), List.zipIdx_map_fst]
        exact hslots
      refine hindexed.imp ?_
      intro first second hle x hx y hy _
      obtain ⟨_, _, rfl⟩ := List.mem_map.mp hx
      obtain ⟨_, _, rfl⟩ := List.mem_map.mp hy
      exact Or.inl hle
  rw [List.pairwise_map] at hpairs
  exact hpairs

end Booked

/-! ## The two paths -/

namespace Problem

variable (rt : Runtime) (problem : Problem) (σ : ShiftVar → Int)

theorem segments_ordered :
    (∀ slot ∈ problem.segments, slot.Valid) ∧
      problem.segments.Pairwise fun first second => first.endTime ≤ second.startTime :=
  mergeWindows_ordered problem.demandWindows

theorem segmentSlots_ordered :
    problem.segmentSlots.Pairwise fun first second => first.2 ≤ second.1 := by
  rw [segmentSlots, List.pairwise_map]
  exact problem.segments_ordered.2

theorem dayAssignments_booked :
    Booked problem σ problem.daySlots (problem.dayAssignments rt σ) := by
  unfold Booked dayAssignments daySlots
  rw [List.map_flatMap, List.zipIdx_map, List.flatMap_map]
  have hrange : (List.range problem.numDays).zipIdx =
      (List.range problem.numDays).map fun index => (index, index) := by
    apply List.ext_getElem
    · simp
    · intro index _ _
      simp
  rw [hrange, List.flatMap_map]
  refine List.flatMap_congr fun index _ => ?_
  rw [dayAssignmentsOf, List.map_map]
  conv_rhs => rw [← List.zipIdx_map_fst 0 (problem.assignedStaff σ _), List.map_map]
  rfl

theorem slotAssignments_booked :
    Booked problem σ problem.segmentSlots (problem.slotAssignments rt σ) := by
  unfold Booked slotAssignments segmentSlots
  rw [List.map_flatMap, List.zipIdx_map, List.flatMap_map]
  refine List.flatMap_congr fun entry _ => ?_
  rw [slotAssignmentsOf, List.map_map]
  rfl

theorem daySlots_getElem? {index : Nat} {slot : Int × Int}
    (h : problem.daySlots[index]? = some slot) :
    index < problem.numDays ∧ slot = (problem.zone.toUtc (problem.shiftStart index),
      problem.zone.toUtc (problem.shiftEnd index)) := by
  rw [daySlots, List.getElem?_map, Option.map_eq_some_iff] at h
  obtain ⟨other, hother, rfl⟩ := h
  obtain ⟨hlt, hother⟩ := List.getElem?_eq_some_iff.mp hother
  rw [List.getElem_range] at hother
  subst hother
  exact ⟨by simpa using hlt, rfl⟩

theorem segmentSlots_getElem? {index : Nat} {slot : Int × Int}
    (h : problem.segmentSlots[index]? = some slot) :
    ∃ segment, problem.segments[index]? = some segment ∧
      slot = (segment.startTime, segment.endTime) := by
  rw [segmentSlots, List.getElem?_map, Option.map_eq_some_iff] at h
  obtain ⟨segment, hsegment, rfl⟩ := h
  exact ⟨segment, hsegment, rfl⟩

theorem slotAssignments_valid :
    ∀ booking ∈ problem.slotAssignments rt σ, booking.Valid := by
  intro booking hmem
  obtain ⟨entry, hentry, hbooking⟩ := List.mem_flatMap.mp hmem
  obtain ⟨staffId, _, rfl⟩ := List.mem_map.mp hbooking
  exact problem.segments_ordered.1 entry.1 (List.fst_mem_of_mem_zipIdx hentry)

end Problem

/-- The demand-window path found a schedule. -/
structure WindowOutcome (rt : Runtime) (problem : Problem) (σ : ShiftVar → Int)
    (assignments : List Assignment) : Prop where
  path : problem.segments ≠ []
  satisfies : (problem.windowModel rt).Satisfies σ
  result : assignments = problem.windowAssignments rt σ
  noGaps : workingCoverageGaps rt assignments problem.segments problem.staffSkills = []

/-- The day path found a schedule. -/
structure DayOutcome (rt : Runtime) (problem : Problem) (σ : ShiftVar → Int)
    (assignments : List Assignment) : Prop where
  path : problem.segments = []
  satisfies : (problem.dayModel rt).Satisfies σ
  result : assignments = problem.dayAssignments rt σ
  noGaps : workingCoverageGaps rt assignments (problem.dayWindows rt) problem.staffSkills = []

theorem Problem.checked_feasible {rt : Runtime} {problem : Problem}
    {found assignments : List Assignment} {windows : List Segment} {hours : Dict String ℚ}
    {score : ℚ} {stats : Stats}
    (h : problem.checked rt found windows hours = .feasible assignments score stats) :
    assignments = found ∧ workingCoverageGaps rt found windows problem.staffSkills = [] := by
  unfold Problem.checked at h
  split at h
  · rename_i hgaps
    cases h
    exact ⟨rfl, hgaps⟩
  · cases h

/-! ## The time of each person -/

/-- The demand-window path gives each person the time of the booked slots. -/
theorem WindowOutcome.sameTime {rt : Runtime} {problem : Problem} {σ : ShiftVar → Int}
    {assignments : List Assignment} (h : WindowOutcome rt problem σ assignments) :
    SameTime assignments (problem.slotAssignments rt σ) := by
  rw [h.result]
  exact coalesce_sameTime rt problem.zone problem.breakRules (problem.slotAssignments_valid rt σ)

theorem WindowOutcome.valid {rt : Runtime} {problem : Problem} {σ : ShiftVar → Int}
    {assignments : List Assignment} (h : WindowOutcome rt problem σ assignments) :
    ∀ assignment ∈ assignments, assignment.Valid := by
  rw [h.result]
  exact coalesce_valid rt problem.zone problem.breakRules (problem.slotAssignments_valid rt σ)

/-- Each instant of an assignment lies in a slot booked for the person. -/
theorem WindowOutcome.exists_slot {rt : Runtime} {problem : Problem} {σ : ShiftVar → Int}
    {assignments : List Assignment} (h : WindowOutcome rt problem σ assignments)
    {assignment : Assignment} (hmem : assignment ∈ assignments) {t : Int}
    (hle : assignment.startTime ≤ t) (hlt : t < assignment.endTime) :
    ∃ index slot, problem.segments[index]? = some slot ∧
      assignment.staffId ∈ problem.staffIds ∧ σ (.assigned assignment.staffId index) = 1 ∧
      slot.startTime ≤ t ∧ t < slot.endTime := by
  obtain ⟨booking, hbooking, hstaff, hbookingLe, hbookingLt⟩ :=
    h.sameTime.exists_source hmem hle hlt
  obtain ⟨index, span, hspan, hlisted, hassigned, heq⟩ :=
    (problem.slotAssignments_booked rt σ).exists_slot hbooking
  obtain ⟨slot, hslot, rfl⟩ := problem.segmentSlots_getElem? hspan
  rw [hstaff] at hlisted hassigned
  have hstart : booking.startTime = slot.startTime := congrArg Prod.fst heq
  have hend : booking.endTime = slot.endTime := congrArg Prod.snd heq
  exact ⟨index, slot, hslot, hlisted, hassigned, by omega, by omega⟩

/-- An assignment of the day path is a booked day. -/
theorem DayOutcome.exists_day {rt : Runtime} {problem : Problem} {σ : ShiftVar → Int}
    {assignments : List Assignment} (h : DayOutcome rt problem σ assignments)
    {assignment : Assignment} (hmem : assignment ∈ assignments) :
    ∃ index < problem.numDays, assignment.staffId ∈ problem.staffIds ∧
      σ (.assigned assignment.staffId index) = 1 ∧
      assignment.startTime = problem.zone.toUtc (problem.shiftStart index) ∧
      assignment.endTime = problem.zone.toUtc (problem.shiftEnd index) := by
  rw [h.result] at hmem
  obtain ⟨index, span, hspan, hlisted, hassigned, heq⟩ :=
    (problem.dayAssignments_booked rt σ).exists_slot hmem
  obtain ⟨hindex, rfl⟩ := problem.daySlots_getElem? hspan
  exact ⟨index, hindex, hlisted, hassigned, congrArg Prod.fst heq, congrArg Prod.snd heq⟩

/-- The assignments of the demand-window path are apart. -/
theorem WindowOutcome.apart {rt : Runtime} {args : SolveArgs} {problem : Problem}
    {σ : ShiftVar → Int} {assignments : List Assignment} (hprepared : Prepared rt args problem)
    (h : WindowOutcome rt problem σ assignments) : assignments.Pairwise Assignment.Apart := by
  refine h.sameTime.apart h.valid ?_
  exact (problem.slotAssignments_booked rt σ).apart hprepared.staffIds_nodup
    problem.segmentSlots_ordered

/-- The windows of the days do not overlap. -/
def Problem.DaysApart (problem : Problem) : Prop :=
  problem.daySlots.Pairwise fun first second => first.2 ≤ second.1

/-- The assignments of the day path are apart if its windows are. -/
theorem DayOutcome.apart {rt : Runtime} {args : SolveArgs} {problem : Problem} {σ : ShiftVar → Int}
    {assignments : List Assignment} (hprepared : Prepared rt args problem)
    (hdays : problem.DaysApart) (h : DayOutcome rt problem σ assignments) :
    assignments.Pairwise Assignment.Apart := by
  rw [h.result]
  exact (problem.dayAssignments_booked rt σ).apart hprepared.staffIds_nodup hdays

/-! ## Excluded people -/

theorem eq_zero_of_excluded {model : CpModel ShiftVar} {σ : ShiftVar → Int}
    (hsat : model.Satisfies σ) {staffId : String} {index : Nat}
    (hmem : excluded staffId index ∈ model.constraints) : σ (.assigned staffId index) = 0 := by
  have hholds := hsat.2 _ hmem
  simpa [excluded, LinearConstraint.Holds] using hholds

/-- Whoever is assigned to a slot is available for it and not booked elsewhere. -/
theorem WindowOutcome.allowed {rt : Runtime} {problem : Problem} {σ : ShiftVar → Int}
    {assignments : List Assignment} (h : WindowOutcome rt problem σ assignments) {index : Nat}
    {slot : Segment} (hslot : problem.segments[index]? = some slot) {staffId : String}
    (hstaff : staffId ∈ problem.staffIds) (hassigned : σ (.assigned staffId index) = 1) :
    problem.slotAvailable rt slot staffId = true ∧
      problem.hasExistingShiftOverlap staffId slot.startTime slot.endTime = false := by
  have hlisted : ∀ c ∈ problem.slotConstraints rt slot index,
      c ∈ (problem.windowModel rt).constraints := by
    intro c hc
    refine List.mem_append_left _ (List.mem_append_left _ (List.mem_flatMap.mpr ?_))
    exact ⟨(slot, index), List.mem_zipIdx_iff_getElem?.mpr hslot, hc⟩
  have hnot : excluded staffId index ∉ problem.slotConstraints rt slot index := by
    intro hexcluded
    have hzero := eq_zero_of_excluded h.satisfies (hlisted _ hexcluded)
    omega
  have hmember : ∀ c ∈ (if problem.slotAvailable rt slot staffId then []
        else [excluded staffId index]) ++
      (if problem.hasExistingShiftOverlap staffId slot.startTime slot.endTime then
        [excluded staffId index] else []),
      c ∈ problem.slotConstraints rt slot index := by
    intro c hc
    refine List.mem_append_left _ (List.mem_cons_of_mem _ (List.mem_flatMap.mpr ?_))
    exact ⟨staffId, hstaff, hc⟩
  constructor
  · by_contra hunavailable
    exact hnot (hmember _ (by simp [hunavailable]))
  · by_contra hbooked
    exact hnot (hmember _ (by simp [hbooked]))

/-- Whoever is assigned to a day is available on it. -/
theorem DayOutcome.allowed {rt : Runtime} {problem : Problem} {σ : ShiftVar → Int}
    {assignments : List Assignment} (h : DayOutcome rt problem σ assignments) {index : Nat}
    (hindex : index < problem.numDays) {staffId : String} (hstaff : staffId ∈ problem.staffIds)
    (hassigned : σ (.assigned staffId index) = 1) :
    problem.dayAvailable rt index staffId = true := by
  by_contra hunavailable
  have hexcluded : excluded staffId index ∈ (problem.dayModel rt).constraints := by
    show excluded staffId index ∈ problem.dayConstraints rt
    unfold Problem.dayConstraints
    refine List.mem_append_left _ (List.mem_append_left _ (List.mem_append_left _
      (List.mem_append_right _ (List.mem_flatMap.mpr ⟨index, List.mem_range.mpr hindex, ?_⟩))))
    exact List.mem_map_of_mem (List.mem_filter.mpr ⟨hstaff, by simpa using hunavailable⟩)
  have hzero := eq_zero_of_excluded h.satisfies hexcluded
  omega

/-! ## Feasible results -/

/-- A feasible result comes from one of the two paths. -/
theorem feasible_cases {rt : Runtime} {solver : CpSolver ShiftVar} {args : SolveArgs}
    {assignments : List Assignment} {score : ℚ} {stats : Stats}
    (h : solve rt solver args = .feasible assignments score stats) :
    ∃ problem σ, prepare rt args = .ok problem ∧
      (WindowOutcome rt problem σ assignments ∨ DayOutcome rt problem σ assignments) := by
  unfold solve at h
  split at h
  · cases h
  · rename_i problem hprepare
    by_cases hpath : problem.segments ≠ []
    · rw [if_pos hpath] at h
      unfold Problem.solveDemandWindows at h
      split at h
      · split at h
        · rename_i σ hsolution
          obtain ⟨hresult, hgaps⟩ := Problem.checked_feasible h
          exact ⟨problem, σ, hprepare, .inl ⟨hpath, solver.sound _ _ _ hsolution, hresult,
            hresult ▸ hgaps⟩⟩
        · cases h
        · cases h
      · cases h
    · rw [if_neg hpath] at h
      unfold Problem.solveDays at h
      split at h
      · split at h
        · rename_i σ hsolution
          obtain ⟨hresult, hgaps⟩ := Problem.checked_feasible h
          exact ⟨problem, σ, hprepare, .inr ⟨not_not.mp hpath, solver.sound _ _ _ hsolution, hresult,
            hresult ▸ hgaps⟩⟩
        · cases h
        · cases h
      · cases h

end LunchLineup.Engine
