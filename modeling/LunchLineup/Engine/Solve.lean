import LunchLineup.Engine.Availability
import LunchLineup.Engine.Demand
import LunchLineup.Engine.Assignments
import LunchLineup.Engine.Weeks
import LunchLineup.Lib.LinearModel

/-!
# The schedule solver

`ConstraintSolver.solve` reads its arguments (`prepare`), builds a linear model
over one 0/1 variable for each person and slot, asks the solver for an
assignment, and checks the coverage of what it found.  A request with demand
windows has the merged segments for slots (`solveDemandWindows`); any other has
one slot from 09:00 local time on each day (`solveDays`).
-/

namespace LunchLineup.Engine

open LunchLineup.Lib LunchLineup.Python

/-- The normalised request.  `startTime` and `endTime` are instants; the source
keeps them as zoned values. -/
structure Problem where
  staffIds : List String
  zone : ZoneInfo
  startTime : Int
  endTime : Int
  minCoverage : Int
  shiftDurationHours : ℚ
  maxHoursPerWeek : ℚ
  solverTimeLimit : ℚ
  breakRules : BreakRules
  availability : Availability
  dailyDemand : Dict Bucket Int
  staffSkills : Dict String (List String)
  existingWeeklyMinutes : Dict String (Dict String Int)
  existingShiftIntervals : List ExistingInterval
  skillRequirements : Dict Bucket (Dict String Int)
  demandWindows : List DemandWindow

/-- `(end.date() - start.date()).days`, on the local clock. -/
def localDays (zone : ZoneInfo) (startTime endTime : Int) : Int :=
  dateOf (zone.toLocal endTime) - dateOf (zone.toLocal startTime)

/-- `int(constraints.get(key, default))`. -/
def readInt (rt : Runtime) (constraints : Dict String PyValue) (key : String) (default : Int) :
    Except String Int :=
  match toInt rt (Dict.getD constraints key (.int default)) with
  | some value => .ok value
  | none => .error (rt.conversionError (getValue constraints key))

/-- `float(constraints.get(key, default))`. -/
def readFloat (rt : Runtime) (constraints : Dict String PyValue) (key : String) (default : ℚ) :
    Except String ℚ :=
  match toFloat rt (Dict.getD constraints key (.float default)) with
  | some value => .ok value
  | none => .error (rt.conversionError (getValue constraints key))

/-- The first part of `solve`, up to the choice of the path. -/
def prepare (rt : Runtime) (args : SolveArgs) : Except String Problem := do
  let staffIds ← normalizeStaffIds args.staffIds
  let constraints := args.constraints
  normalizeConstraints constraints
  ensure (staffIds ≠ []) "No staff available"
  let zone ← normalizeTimeZone rt (getValue constraints "timezone")
  let startTime ← parseScheduleDatetime rt (.str args.startDate) "start_date"
  let endTime ← parseScheduleDatetime rt (.str args.endDate) "end_date"
  ensure (0 < localDays zone startTime endTime) "End date must be after start date"
  ensure (localDays zone startTime endTime ≤ 31) "Schedule window cannot exceed 31 days"
  let minCoverage ← readInt rt constraints "min_floor_coverage" 1
  let shiftDurationHours ← readFloat rt constraints "shift_duration_hours" 8
  let maxHoursPerWeek ← readFloat rt constraints "max_hours_per_week" 40
  let solverTimeLimit ← readFloat rt constraints "solver_time_limit_seconds" 10
  ensure (1 ≤ minCoverage) "min_floor_coverage must be at least 1"
  ensure (minCoverage ≤ staffIds.length) "min_floor_coverage cannot exceed available staff"
  ensure (0 < shiftDurationHours) "shift_duration_hours must be greater than 0"
  ensure (shiftDurationHours ≤ 24) "shift_duration_hours cannot exceed 24"
  ensure (0 < maxHoursPerWeek) "max_hours_per_week must be greater than 0"
  ensure (maxHoursPerWeek ≤ 168) "max_hours_per_week cannot exceed 168"
  ensure (0 < solverTimeLimit) "solver_time_limit_seconds must be greater than 0"
  ensure (1 ≤ ⌊maxHoursPerWeek / shiftDurationHours⌋)
    "max_hours_per_week does not allow one full shift"
  let breakRules ← breakCalculator rt
    (if (getValue constraints "break_rules").truthy then getValue constraints "break_rules"
      else getValue args.config "break_rules")
  let recurring ← normalizeAvailability rt (getValue constraints "availability") staffIds
  let exceptions ← normalizeAvailabilityExceptions rt
    (getValue constraints "availability_exceptions") staffIds
  let dailyDemand ← normalizeDailyDemand rt (getValue constraints "daily_demand")
  let staffSkills ← normalizeStaffSkills rt (getValue constraints "staff_skills") staffIds
  let existingWeeklyMinutes ← normalizeExistingWeeklyMinutes rt
    (getValue constraints "existing_weekly_minutes") staffIds
  let existingShiftIntervals ← normalizeExistingShiftIntervals rt zone
    (getValue constraints "existing_shift_intervals") staffIds startTime endTime
  let skillRequirements ← normalizeSkillRequirements rt
    (getValue constraints "skill_requirements")
  let demandWindows ← normalizeRawDemandWindows rt (getValue constraints "demand_windows")
    startTime endTime
  .ok
    { staffIds, zone, startTime, endTime, minCoverage, shiftDurationHours, maxHoursPerWeek
      solverTimeLimit := min solverTimeLimit 15
      breakRules
      availability := ⟨recurring, exceptions⟩
      dailyDemand, staffSkills, existingWeeklyMinutes, existingShiftIntervals, skillRequirements
      demandWindows }

/-! ## Results -/

/-- An entry of `details`. -/
structure Detail where
  code : String
  date : String
  skill : Option String
  required : Int
  available : Nat
  message : String
  deriving DecidableEq

/-- `stats`. -/
structure Stats where
  totalAssignments : Nat
  staffHours : Dict String ℚ
  fairnessScore : ℚ

/-- The dictionary that `solve` returns: `feasible` tells the two kinds apart,
and an infeasible one has no assignments and the score 0. -/
inductive SolveResult
  | feasible (assignments : List Assignment) (score : ℚ) (stats : Stats)
  | infeasible (reason : String) (details : List Detail)

/-- `skill in staff_skills.get(staff_id, set())`. -/
def hasSkill (staffSkills : Dict String (List String)) (skill staffId : String) : Bool :=
  skill ∈ Dict.getD staffSkills staffId []

/-! ## Coverage of the result -/

/-- The assignments that work throughout a piece. -/
def workingOn (assignments : List Assignment) (piece : Int × Int) : List Assignment :=
  assignments.filter fun assignment => assignment.duty.workingOn piece.1 piece.2

/-- The working assignments of qualified people. -/
def qualifiedOn (staffSkills : Dict String (List String)) (skill : String)
    (working : List Assignment) : Nat :=
  working.countP fun assignment => hasSkill staffSkills skill assignment.staffId

/-- The loop over the pieces of one window: a piece that lacks people ends it,
one that lacks a skill is reported once. -/
def pieceGaps (rt : Runtime) (assignments : List Assignment)
    (staffSkills : Dict String (List String)) (window : Segment) :
    List (Int × Int) → List Detail
  | [] => []
  | piece :: rest =>
      let working := workingOn assignments piece
      if (working.length : Int) < window.requiredStaff then
        [{ code := "break_coverage_gap"
           date := rt.dateIsoformat (dateOf piece.1)
           skill := none
           required := window.requiredStaff
           available := working.length
           message := "Break placement drops working staff below demand" }]
      else
        match window.skillRequirements.find? fun entry =>
          (qualifiedOn staffSkills entry.1 working : Int) < entry.2 with
        | some (skill, requiredCount) =>
            { code := "break_skill_coverage_gap"
              date := rt.dateIsoformat (dateOf piece.1)
              skill := some skill
              required := requiredCount
              available := qualifiedOn staffSkills skill working
              message := "Break placement drops qualified working staff below demand" } ::
              pieceGaps rt assignments staffSkills window rest
        | none => pieceGaps rt assignments staffSkills window rest

/-- The pieces of a window: its endpoints and the clipped edges inside it. -/
def windowPieces (assignments : List Assignment) (window : Segment) : List (Int × Int) :=
  cuts (sortedSet (clippedEdges window.startTime window.endTime (assignments.map Assignment.duty)))

/-- `_working_coverage_gaps`. -/
def workingCoverageGaps (rt : Runtime) (assignments : List Assignment) (windows : List Segment)
    (staffSkills : Dict String (List String)) : List Detail :=
  windows.flatMap fun window =>
    pieceGaps rt assignments staffSkills window (windowPieces assignments window)

/-! ## Linear constraints -/

/-- The variables of a model: `assigned` for a person and a slot, and the
largest load of a person. -/
inductive ShiftVar
  | assigned (staffId : String) (slot : Nat)
  | maxLoad
  deriving DecidableEq

/-- `sum(shifts[(staff_id, slot)] for staff_id in staff_ids) >= required`. -/
def atLeast (staffIds : List String) (slot : Nat) (required : Int) : LinearConstraint ShiftVar :=
  .ge (.sum (staffIds.map fun staffId => .assigned staffId slot)) (.const required)

/-- `shifts[(staff_id, slot)] == 0`. -/
def excluded (staffId : String) (slot : Nat) : LinearConstraint ShiftVar :=
  .eq (.var (.assigned staffId slot)) (.const 0)

/-- The minutes of each slot in a week, for one person, as terms. -/
def weightedAssignments (slots : List (Int × Int)) (week : Week) (staffId : String) :
    List (Int × ShiftVar) :=
  slots.zipIdx.filterMap fun entry =>
    let overlap := overlapMinutes entry.1.1 entry.1.2 week.startTime week.endTime
    if overlap = 0 then none else some (overlap, .assigned staffId entry.2)

/-- The weekly cap, for the weeks and people of a request. -/
def weeklyCaps (weeks : List Week) (staffIds : List String)
    (existingWeeklyMinutes : Dict String (Dict String Int)) (slots : List (Int × Int))
    (maxWeekMinutes : Int) : List (LinearConstraint ShiftVar) :=
  weeks.flatMap fun week => staffIds.map fun staffId =>
    .le ⟨weightedAssignments slots week staffId,
        Dict.getD (Dict.getD existingWeeklyMinutes staffId []) week.date 0⟩
      (.const maxWeekMinutes)

/-- The variables of `count` slots. -/
def slotVars (staffIds : List String) (count : Nat) : List ShiftVar :=
  staffIds.flatMap fun staffId => (List.range count).map fun slot => .assigned staffId slot

namespace Problem

variable (rt : Runtime) (problem : Problem)

/-- `int(round(max_hours_per_week * 60))`. -/
def maxWeekMinutes : Int := roundHalfEven (problem.maxHoursPerWeek * 60)

/-- The people assigned to a slot. -/
def assignedStaff (σ : ShiftVar → Int) (slot : Nat) : List String :=
  problem.staffIds.filter fun staffId => σ (.assigned staffId slot) = 1

/-- `max(staff_hours.values()) - min(staff_hours.values())`. -/
def hoursVariance (hours : List ℚ) : ℚ :=
  match hours with
  | [] => 0
  | first :: rest => rest.foldl max first - rest.foldl min first

/-- The result of a search without gaps. -/
def finish (assignments : List Assignment) (staffHours : Dict String ℚ) : SolveResult :=
  let fairness := max 0 (1 - hoursVariance (staffHours.map Prod.snd) / problem.maxHoursPerWeek)
  let score := (roundHalfEven (fairness * 1000) : ℚ) / 1000
  .feasible assignments score ⟨assignments.length, staffHours, score⟩

/-- The hours of each person, from those of each slot. -/
def staffHours (σ : ShiftVar → Int) (slotHours : List ℚ) : Dict String ℚ :=
  problem.staffIds.map fun staffId =>
    (staffId, (slotHours.zipIdx.filterMap fun entry =>
      if σ (.assigned staffId entry.2) = 1 then some entry.1 else none).sum)

/-- Coverage is checked before a schedule is returned. -/
def checked (assignments : List Assignment) (windows : List Segment)
    (staffHours : Dict String ℚ) : SolveResult :=
  match workingCoverageGaps rt assignments windows problem.staffSkills with
  | [] => problem.finish assignments staffHours
  | gaps => .infeasible "Break placement leaves demand coverage gaps" (gaps.take 20)

/-- The reason when time runs out. -/
def timedOut : SolveResult :=
  .infeasible ("Solver did not find a solution within " ++ rt.formatG problem.solverTimeLimit ++
    " seconds") []

/-! ## The day path -/

/-- `num_days`. -/
def numDays : Nat := (localDays problem.zone problem.startTime problem.endTime).toNat

/-- `current_date.date()` of a day. -/
def dayDate (index : Nat) : Int := dateOf (problem.zone.toLocal problem.startTime) + index

/-- `shift_start` of a day, on the wall clock. -/
def shiftStart (index : Nat) : Int := midnight (problem.dayDate index) + 9 * hour

/-- `shift_end` of a day, on the wall clock. -/
def shiftEnd (index : Nat) : Int :=
  problem.shiftStart index + timedeltaHours problem.shiftDurationHours

/-- The generated intervals, in UTC. -/
def daySlots : List (Int × Int) :=
  (List.range problem.numDays).map fun index =>
    (problem.zone.toUtc (problem.shiftStart index), problem.zone.toUtc (problem.shiftEnd index))

/-- `_coverage_for_day` of a day. -/
def dayCoverage (index : Nat) : Int :=
  coverageForDay rt problem.dailyDemand (problem.dayDate index) problem.minCoverage

/-- `_skill_requirements_for_day` of a day. -/
def daySkills (index : Nat) : Dict String Int :=
  skillRequirementsForDay rt problem.skillRequirements (problem.dayDate index)

/-- `relief` of a day. -/
def dayRelief (index : Nat) : Int :=
  problem.breakRules.relief (problem.shiftStart index) (problem.shiftEnd index)

/-- The people available on a day. -/
def dayAvailable (index : Nat) (staffId : String) : Bool :=
  problem.availability.isAvailable rt staffId (problem.shiftStart index) (problem.shiftEnd index)

/-- `validation_windows`. -/
def dayWindows : List Segment :=
  (List.range problem.numDays).map fun index =>
    { startTime := problem.zone.toUtc (problem.shiftStart index)
      endTime := problem.zone.toUtc (problem.shiftEnd index)
      requiredStaff := problem.dayCoverage rt index
      skillRequirements := problem.daySkills rt index
      protectStart := false }

/-- The shortages of one slot or day, before the search. -/
def shortages (date : String) (required relief : Int) (skills : Dict String Int)
    (available : List String) (coverageMessage skillMessage : String) : List Detail :=
  (if (available.length : Int) < required + relief then
    [{ code := "coverage_demand_unstaffed"
       date := date
       skill := none
       required := required + relief
       available := available.length
       message := coverageMessage }]
  else []) ++
    skills.filterMap fun entry =>
      let qualified := available.filter fun staffId => hasSkill problem.staffSkills entry.1 staffId
      if (qualified.length : Int) < entry.2 + relief then
        some
          { code := "skill_demand_unstaffed"
            date := date
            skill := some entry.1
            required := entry.2 + relief
            available := qualified.length
            message := skillMessage }
      else none

/-- The loop of `_precheck_demand_requirements`, which stops after twenty
details. -/
def precheckFrom (details : List Detail) : List Nat → List Detail
  | [] => details
  | index :: rest =>
      let more := details ++ problem.shortages (rt.dateIsoformat (problem.dayDate index))
        (problem.dayCoverage rt index) (problem.dayRelief index) (problem.daySkills rt index)
        (problem.staffIds.filter (problem.dayAvailable rt index))
        "Floor coverage demand exceeds available staff for this day"
        "Skill demand exceeds available qualified staff for this day"
      if 20 ≤ more.length then more else precheckFrom more rest

/-- `_precheck_demand_requirements`. -/
def precheckDemandRequirements : List Detail :=
  problem.precheckFrom rt [] (List.range problem.numDays)

/-- The constraints of the day path. -/
def dayConstraints : List (LinearConstraint ShiftVar) :=
  let days := List.range problem.numDays
  (days.map fun index =>
    atLeast problem.staffIds index (problem.dayCoverage rt index + problem.dayRelief index)) ++
  (days.flatMap fun index =>
    (problem.staffIds.filter fun staffId => !problem.dayAvailable rt index staffId).map
      fun staffId => excluded staffId index) ++
  (days.flatMap fun index => (problem.daySkills rt index).map fun entry =>
    atLeast (problem.staffIds.filter (hasSkill problem.staffSkills entry.1)) index
      (entry.2 + problem.dayRelief index)) ++
  weeklyCaps (calendarWeeks rt problem.zone problem.startTime problem.endTime) problem.staffIds
    problem.existingWeeklyMinutes problem.daySlots problem.maxWeekMinutes ++
  problem.staffIds.map fun staffId =>
    .le (.sum (days.map fun index => .assigned staffId index)) (.var .maxLoad)

/-- The model of the day path. -/
def dayModel : CpModel ShiftVar where
  vars := (slotVars problem.staffIds problem.numDays).map boolVar ++
    [⟨.maxLoad, 0, problem.numDays⟩]
  constraints := problem.dayConstraints rt
  objective := ⟨((slotVars problem.staffIds problem.numDays).map fun x =>
    ((problem.numDays : Int) + 1, x)) ++ [(1, .maxLoad)], 0⟩

/-- The assignments of one day.  Breaks are placed on the wall clock. -/
def dayAssignmentsOf (σ : ShiftVar → Int) (index : Nat) : List Assignment :=
  (problem.assignedStaff σ index).zipIdx.map fun entry =>
    { staffId := entry.1
      date := rt.dateIsoformat (problem.dayDate index)
      startTime := problem.zone.toUtc (problem.shiftStart index)
      endTime := problem.zone.toUtc (problem.shiftEnd index)
      role := none
      breaks := breaksAsUtc problem.zone.toUtc
        (problem.breakRules.calculateBreaks (problem.shiftStart index) (problem.shiftEnd index)
          entry.2) }

/-- The assignments of the day path. -/
def dayAssignments (σ : ShiftVar → Int) : List Assignment :=
  (List.range problem.numDays).flatMap (problem.dayAssignmentsOf rt σ)

/-- The day path of `solve`. -/
def solveDays (solver : CpSolver ShiftVar) : SolveResult :=
  match problem.precheckDemandRequirements rt with
  | [] =>
      match solver.solve (problem.dayModel rt) problem.solverTimeLimit with
      | .solution σ =>
          problem.checked rt (problem.dayAssignments rt σ) (problem.dayWindows rt)
            (problem.staffHours σ (List.replicate problem.numDays problem.shiftDurationHours))
      | .unknown => problem.timedOut rt
      | .infeasible => .infeasible "No feasible solution found under constraints" []
  | details => .infeasible "Demand cannot be satisfied with available staff and skills" details

/-! ## The demand-window path -/

/-- The merged segments of the request. -/
def segments : List Segment := mergeWindows problem.demandWindows

/-- The segments as slots. -/
def segmentSlots : List (Int × Int) :=
  problem.segments.map fun slot => (slot.startTime, slot.endTime)

/-- `relief` of a slot. -/
def slotRelief (index : Nat) : Int :=
  problem.breakRules.relief (continuousDemandSpan problem.segments index).1
    (continuousDemandSpan problem.segments index).2

/-- `_is_available` for a slot, read on the local clock. -/
def slotAvailable (slot : Segment) (staffId : String) : Bool :=
  problem.availability.isAvailable rt staffId (problem.zone.toLocal slot.startTime)
    (problem.zone.toLocal slot.endTime)

/-- `_has_existing_shift_overlap`. -/
def hasExistingShiftOverlap (staffId : String) (startTime endTime : Int) : Bool :=
  problem.existingShiftIntervals.any fun interval =>
    interval.staffId = staffId && interval.startTime < endTime && startTime < interval.endTime

/-- The local date of a slot. -/
def slotDate (slot : Segment) : String :=
  rt.dateIsoformat (dateOf (problem.zone.toLocal slot.startTime))

/-- The shortages of all slots, before the search. -/
def slotShortages : List Detail :=
  problem.segments.zipIdx.flatMap fun entry =>
    problem.shortages (problem.slotDate rt entry.1) entry.1.requiredStaff
      (problem.slotRelief entry.2) entry.1.skillRequirements
      (problem.staffIds.filter fun staffId => problem.slotAvailable rt entry.1 staffId &&
        !problem.hasExistingShiftOverlap staffId entry.1.startTime entry.1.endTime)
      "Demand window coverage exceeds available staff"
      "Demand window skill requirement exceeds available qualified staff"

/-- The constraints of one slot. -/
def slotConstraints (slot : Segment) (index : Nat) : List (LinearConstraint ShiftVar) :=
  atLeast problem.staffIds index (slot.requiredStaff + problem.slotRelief index) ::
  (problem.staffIds.flatMap fun staffId =>
    (if problem.slotAvailable rt slot staffId then [] else [excluded staffId index]) ++
    (if problem.hasExistingShiftOverlap staffId slot.startTime slot.endTime then
      [excluded staffId index] else [])) ++
  slot.skillRequirements.map fun entry =>
    atLeast (problem.staffIds.filter (hasSkill problem.staffSkills entry.1)) index
      (entry.2 + problem.slotRelief index)

/-- `duration_minutes` of a slot. -/
def durationMinutes (slot : Segment) : Int :=
  max 1 (divideAndRound (slot.endTime - slot.startTime) minute)

/-- `total_window_minutes`. -/
def totalWindowMinutes : Int := (problem.segments.map durationMinutes).sum

/-- The weeks of the slots. -/
def slotWeeks : List Week :=
  match problem.segments with
  | [] => []
  | first :: rest =>
      calendarWeeks rt problem.zone
        (rest.foldl (fun earliest slot => min earliest slot.startTime) first.startTime)
        (rest.foldl (fun latest slot => max latest slot.endTime) first.endTime)

/-- The constraints of the demand-window path. -/
def windowConstraints : List (LinearConstraint ShiftVar) :=
  (problem.segments.zipIdx.flatMap fun entry => problem.slotConstraints rt entry.1 entry.2) ++
  weeklyCaps (problem.slotWeeks rt) problem.staffIds problem.existingWeeklyMinutes
    problem.segmentSlots problem.maxWeekMinutes ++
  problem.staffIds.map fun staffId =>
    .le ⟨problem.segments.zipIdx.map fun entry =>
        (durationMinutes entry.1, .assigned staffId entry.2), 0⟩ (.var .maxLoad)

/-- The model of the demand-window path. -/
def windowModel : CpModel ShiftVar where
  vars := (slotVars problem.staffIds problem.segments.length).map boolVar ++
    [⟨.maxLoad, 0, problem.totalWindowMinutes⟩]
  constraints := problem.windowConstraints rt
  objective := ⟨((slotVars problem.staffIds problem.segments.length).map fun x =>
    (problem.totalWindowMinutes + 1, x)) ++ [(1, .maxLoad)], 0⟩

/-- `role`: the first required skill, in order, that the person has. -/
def roleFor (slot : Segment) (staffId : String) : String :=
  (((Dict.keys slot.skillRequirements).insertionSort (· ≤ ·)).find? fun skill =>
    hasSkill problem.staffSkills skill staffId).getD "STAFF"

/-- The assignments of one slot, before coalescing. -/
def slotAssignmentsOf (σ : ShiftVar → Int) (slot : Segment) (index : Nat) : List Assignment :=
  (problem.assignedStaff σ index).map fun staffId =>
    { staffId := staffId
      date := problem.slotDate rt slot
      startTime := slot.startTime
      endTime := slot.endTime
      role := some (problem.roleFor slot staffId)
      breaks := [] }

/-- The assignments of all slots, before coalescing. -/
def slotAssignments (σ : ShiftVar → Int) : List Assignment :=
  problem.segments.zipIdx.flatMap fun entry => problem.slotAssignmentsOf rt σ entry.1 entry.2

/-- The protected starts of slots. -/
def protectedBoundaries : List Int :=
  (problem.segments.filter Segment.protectStart).map Segment.startTime

/-- The assignments of the demand-window path. -/
def windowAssignments (σ : ShiftVar → Int) : List Assignment :=
  coalesceContinuousAssignments rt problem.zone problem.breakRules problem.staffIds
    problem.protectedBoundaries (problem.slotAssignments rt σ)

/-- `_solve_demand_windows`. -/
def solveDemandWindows (solver : CpSolver ShiftVar) : SolveResult :=
  match problem.slotShortages rt with
  | [] =>
      match solver.solve (problem.windowModel rt) problem.solverTimeLimit with
      | .solution σ =>
          problem.checked rt (problem.windowAssignments rt σ) problem.segments
            (problem.staffHours σ (problem.segments.map fun slot =>
              (durationMinutes slot : ℚ) / 60))
      | .unknown => problem.timedOut rt
      | .infeasible => .infeasible "No feasible solution found under demand-window constraints" []
  | details =>
      .infeasible "Demand cannot be satisfied with available staff and skills" (details.take 20)

end Problem

/-- `solve`. -/
def solve (rt : Runtime) (solver : CpSolver ShiftVar) (args : SolveArgs) : SolveResult :=
  match prepare rt args with
  | .error reason => .infeasible reason []
  | .ok problem =>
      if problem.segments ≠ [] then problem.solveDemandWindows rt solver
      else problem.solveDays rt solver

end LunchLineup.Engine
