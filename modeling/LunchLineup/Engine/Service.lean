import LunchLineup.Proto.Messages
import LunchLineup.Engine.Solve

/-!
# The solver service

The gRPC face of the engine.  `protoToSolveRequest` reads a `ScheduleRequest`:
constraints are decoded and the typed fields are added to them, then the limits
of `SolveRequest` are checked on the whole.  `calculateSchedule` runs the
solver and writes its result as a `ScheduleResponse`.
-/

namespace LunchLineup.Engine

open LunchLineup.Lib LunchLineup.Python

/-! ## Requests -/

/-- `SolveRequest`. -/
structure SolveRequest where
  scheduleId : String
  tenantId : String
  locationId : String
  startDate : String
  endDate : String
  staffIds : List String
  constraints : Dict String PyValue

/-- `MAX_CONSTRAINTS`. -/
def maxConstraints : Nat := 20

/-- The limit on the JSON text of `constraints`. -/
def maxConstraintsLength : Nat := 16384

/-- The field limits of a `SolveRequest`. -/
def SolveRequest.limits (request : SolveRequest) : Bool :=
  isIdentifier request.scheduleId && isIdentifier request.tenantId &&
    isIdentifier request.locationId && 8 ≤ request.startDate.length &&
    request.startDate.length ≤ 40 && 8 ≤ request.endDate.length &&
    request.endDate.length ≤ 40 && 1 ≤ request.staffIds.length &&
    request.staffIds.length ≤ maxStaffIds

/-- `validate_constraints` of the engine. -/
def validateConstraints (rt : Runtime) (value : Dict String PyValue) : Except String Unit := do
  ensure (value.length ≤ maxConstraints)
    ("constraints cannot exceed " ++ toString maxConstraints ++ " entries")
  rejectUnknown (Dict.keys value) allowedConstraints "Unsupported constraint: "
  ensure ((rt.dumps (.dict value)).length ≤ maxConstraintsLength)
    "constraints payload is too large"

/-- `SolveRequest.model_validate`. -/
def validateSolveRequest (rt : Runtime) (raw : SolveRequest) : Except String SolveRequest := do
  ensure (raw.limits = true) "invalid schedule request"
  let staffIds ← collectIds (fun trimmed => trimmed ≠ "" && trimmed.length ≤ 128)
    "staff_ids contain an invalid identifier" [] raw.staffIds
  validateConstraints rt raw.constraints
  .ok { raw with staffIds := staffIds }

/-- `decode_constraint_value`. -/
def decodeConstraintValue (rt : Runtime) (value : String) : PyValue :=
  (rt.loads value).getD (.str value)

/-- A recurring rule, as the solver reads it. -/
def availabilityRuleValue (dayOfWeek startTime endTime : String) : PyValue :=
  .dict [("day_of_week", .str dayOfWeek), ("start_time", .str startTime),
    ("end_time", .str endTime)]

/-- An existing shift, as the solver reads it. -/
def existingShiftValue (id staffId locationId startTime endTime : String) : PyValue :=
  .dict [("id", .str id), ("staff_id", .str staffId), ("location_id", .str locationId),
    ("start_time", .str startTime), ("end_time", .str endTime)]

/-- The rules of a staff member, with the id. -/
def staffAvailability (staff : Proto.StaffMember) : String × PyValue :=
  (staff.id, .list (staff.availability.map fun slot =>
    availabilityRuleValue slot.dayOfWeek slot.startTime slot.endTime))

/-- The skills of a staff member, with the id. -/
def staffSkillList (staff : Proto.StaffMember) : String × PyValue :=
  (staff.id, .list (staff.skills.map .str))

/-- The loop over `existing_weekly_minutes`. -/
def collectWeeklyMinutes (weeks : Dict String (Dict String Int)) :
    List Proto.ExistingWeeklyMinutes → Except String (Dict String (Dict String Int))
  | [] => .ok weeks
  | entry :: rest => do
      let staffWeeks := Dict.getD weeks entry.staffId []
      ensure (Dict.contains staffWeeks entry.weekStartDate = false)
        "duplicate existing weekly minutes entry"
      collectWeeklyMinutes
        (Dict.set weeks entry.staffId (Dict.set staffWeeks entry.weekStartDate entry.minutes)) rest

/-- The weekly minutes, as the solver reads them. -/
def weeklyMinutesValue (weeks : Dict String (Dict String Int)) : PyValue :=
  .dict (weeks.map fun entry => (entry.1, .dict (entry.2.map fun week => (week.1, .int week.2))))

/-- Add the value of a typed field that is present; the constraint must not have
been sent as well. -/
def supply (constraints : Dict String PyValue) (present : Bool) (key : String) (value : PyValue)
    (message : String) : Except String (Dict String PyValue) :=
  if present then do
    ensure (Dict.contains constraints key = false) message
    .ok (Dict.set constraints key value)
  else .ok constraints

/-- `proto_to_solve_request`. -/
def protoToSolveRequest (rt : Runtime) (request : Proto.ScheduleRequest) :
    Except String SolveRequest := do
  let constraints := Dict.ofPairs (request.constraints.map fun constraint =>
    (constraint.type, decodeConstraintValue rt constraint.value))
  checkAll request.staff fun staff =>
    ensure (staff.availability = [] ∨ staff.availabilityConfigured = true)
      "staff availability rules require availability_configured"
  let availability := Dict.ofPairs (request.staff.map staffAvailability)
  let constraints ← supply constraints (!availability.isEmpty) "availability" (.dict availability)
    "availability can only be supplied through staff availability"
  let staffSkills := Dict.ofPairs
    ((request.staff.filter fun staff => !staff.skills.isEmpty).map staffSkillList)
  let constraints ← supply constraints (!staffSkills.isEmpty) "staff_skills" (.dict staffSkills)
    "staff_skills can only be supplied through staff skills"
  let weeks ← collectWeeklyMinutes [] request.existingWeeklyMinutes
  let constraints ← supply constraints (!weeks.isEmpty) "existing_weekly_minutes"
    (weeklyMinutesValue weeks)
    "existing_weekly_minutes can only be supplied through its request field"
  let intervals := request.existingShifts.map fun entry =>
    existingShiftValue entry.id entry.staffId entry.locationId entry.startTime entry.endTime
  let constraints ← supply constraints (!intervals.isEmpty) "existing_shift_intervals"
    (.list intervals) "existing_shift_intervals can only be supplied through existing shifts"
  validateSolveRequest rt
    { scheduleId := request.scheduleId
      tenantId := request.tenantId
      locationId := request.locationId
      startDate := request.startDate
      endDate := request.endDate
      staffIds := request.staff.map Proto.StaffMember.id
      constraints := constraints }

/-! ## Responses -/

/-- The name of a break type in a result. -/
def BreakType.name : BreakType → String
  | .break1 => "break1"
  | .lunch => "lunch"
  | .break2 => "break2"

/-- `normalize_proto_break_type`, of a text. -/
def normalizeProtoBreakType (rt : Runtime) (value : String) : String :=
  let key := rt.upper (strip (if value = "" then "LUNCH" else value))
  if key = "MEAL" then "LUNCH"
  else if key ∈ ["BREAK1", "LUNCH", "BREAK2"] then key
  else "LUNCH"

/-- The message of a break. -/
def protoBreak (rt : Runtime) (item : Break) : Proto.Break where
  startTime := rt.isoformat item.startTime
  endTime := rt.isoformat item.endTime
  paid := item.paid
  type := normalizeProtoBreakType rt item.type.name

/-- The message of an assignment: `str(assign.get("role") or "STAFF")` is its role. -/
def protoShift (rt : Runtime) (assignment : Assignment) : Proto.Shift where
  staffId := assignment.staffId
  startTime := rt.isoformat assignment.startTime
  endTime := rt.isoformat assignment.endTime
  role := if assignment.role.getD "" = "" then "STAFF" else assignment.role.getD ""
  breaks := assignment.breaks.map (protoBreak rt)

/-- The message of a detail. -/
def protoDetail (detail : Detail) : Proto.InfeasibleDetail where
  code := detail.code
  message := detail.message
  date := detail.date
  skill := detail.skill.getD ""
  required := detail.required
  available := detail.available

/-- The response to a result. -/
def scheduleResponse (rt : Runtime) (scheduleId : String) : SolveResult → Proto.ScheduleResponse
  | .feasible assignments _ _ =>
      { scheduleId := scheduleId
        shifts := assignments.map (protoShift rt)
        status := "SUCCESS"
        reason := ""
        infeasibleDetails := [] }
  | .infeasible reason details =>
      { scheduleId := scheduleId
        shifts := []
        status := "FAILED"
        reason := reason
        infeasibleDetails := details.map protoDetail }

/-- The arguments of the solver; the service creates it without configuration. -/
def SolveRequest.args (request : SolveRequest) : SolveArgs where
  config := []
  staffIds := request.staffIds
  startDate := request.startDate
  endDate := request.endDate
  constraints := request.constraints

/-- `CalculateSchedule`: a request that cannot be read is aborted. -/
def calculateSchedule (rt : Runtime) (solver : CpSolver ShiftVar)
    (request : Proto.ScheduleRequest) : Except String Proto.ScheduleResponse :=
  match protoToSolveRequest rt request with
  | .error _ => .error "invalid schedule request"
  | .ok solveRequest =>
      .ok (scheduleResponse rt solveRequest.scheduleId (solve rt solver solveRequest.args))

end LunchLineup.Engine
