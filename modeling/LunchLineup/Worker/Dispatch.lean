import LunchLineup.Proto.Messages
import LunchLineup.Worker.Payload

/-!
# The request of a solve job

The part of `handle_solve_job` that turns a validated payload into the
`ScheduleRequest` of the engine.  People, weekly minutes and existing shifts
travel in fields of their own; everything else is a constraint, whose value is
sent as it is when it is a text and as JSON when it is not.
-/

namespace LunchLineup.Worker

open LunchLineup.Lib LunchLineup.Python

/-! ## Field values -/

/-- `rule.model_dump()` of an availability exception. -/
def AvailabilityExceptionRule.modelDump (rule : AvailabilityExceptionRule) : PyValue :=
  .dict [("local_date", .str rule.localDate), ("kind", .str rule.kind),
    ("start_time_minutes", .int rule.startTimeMinutes),
    ("end_time_minutes", .int rule.endTimeMinutes)]

/-- `window.model_dump()` of a demand window. -/
def DemandWindow.modelDump (window : DemandWindow) : PyValue :=
  .dict [("id", .str window.id), ("start_time", .str window.startTime),
    ("end_time", .str window.endTime), ("required_staff", .int window.requiredStaff),
    ("skill", (window.skill.map PyValue.str).getD .none)]

namespace SolvePayload

variable (payload : SolvePayload)

/-- The rules of a person, none if the payload has no entry. -/
def rulesOf (staffId : String) : List AvailabilityRule :=
  Dict.getD payload.availability staffId []

/-- The skills of a person, none if the payload has no entry. -/
def skillsOf (staffId : String) : List String :=
  Dict.getD payload.staffSkills staffId []

/-- `availability_configured.get(staff_id, bool(availability.get(staff_id)))`. -/
def configured (staffId : String) : Bool :=
  Dict.getD payload.availabilityConfigured staffId (!(payload.rulesOf staffId).isEmpty)

/-- The value of the constraint `availability_exceptions`. -/
def exceptionsValue : PyValue :=
  .dict (payload.availabilityExceptions.map fun entry =>
    (entry.1, .list (entry.2.map AvailabilityExceptionRule.modelDump)))

/-- The value of the constraint `demand_windows`. -/
def windowsValue : PyValue :=
  .list (payload.demandWindows.map DemandWindow.modelDump)

/-! ## The request -/

/-- The staff member of an id. -/
def staffMember (staffId : String) : Proto.StaffMember where
  id := staffId
  availabilityConfigured := payload.configured staffId
  skills := payload.skillsOf staffId
  availability := (payload.rulesOf staffId).map fun slot =>
    ⟨slot.dayOfWeek, slot.startTime, slot.endTime⟩

/-- The entries of `existing_weekly_minutes`. -/
def weeklyMinutes : List Proto.ExistingWeeklyMinutes :=
  payload.existingWeeklyMinutes.flatMap fun entry =>
    entry.2.map fun week => ⟨entry.1, week.1, week.2⟩

/-- The local variable `constraints`. -/
def requestConstraints : Dict String PyValue :=
  let constraints := Dict.set payload.constraints "timezone" (.str payload.timezone)
  let constraints := if payload.availabilityExceptions.isEmpty then constraints
    else Dict.set constraints "availability_exceptions" payload.exceptionsValue
  let constraints := if payload.skillRequirements.isEmpty then constraints
    else Dict.set constraints "skill_requirements" (.dict payload.skillRequirements)
  let constraints := if payload.dailyDemand.isNone then constraints
    else Dict.set constraints "daily_demand" payload.dailyDemand
  if payload.demandWindows.isEmpty then constraints
  else Dict.set constraints "demand_windows" payload.windowsValue

end SolvePayload

/-- `value if isinstance(value, str) else json.dumps(value)`. -/
def encodeConstraintValue (rt : Runtime) (value : PyValue) : String :=
  match value with
  | .str text => text
  | other => rt.dumps other

/-- One turn of the loop over `constraints`. -/
def encodeConstraint (rt : Runtime) (entry : String × PyValue) :
    Except String Proto.Constraint := do
  ensure (entry.1 ≠ "availability") "availability must be supplied in the availability field"
  .ok ⟨entry.1, encodeConstraintValue rt entry.2⟩

/-- The request that `handle_solve_job` sends. -/
def scheduleRequest (rt : Runtime) (payload : SolvePayload) :
    Except String Proto.ScheduleRequest := do
  let constraints ← payload.requestConstraints.mapM (encodeConstraint rt)
  .ok
    { scheduleId := payload.scheduleId
      tenantId := payload.tenantId
      locationId := payload.locationId
      startDate := payload.startDate
      endDate := payload.endDate
      staff := payload.staffIds.map payload.staffMember
      constraints := constraints
      existingWeeklyMinutes := payload.weeklyMinutes
      existingShifts := payload.existingShifts.map fun shift =>
        ⟨shift.id, shift.staffId, shift.locationId, shift.startTime, shift.endTime⟩ }

end LunchLineup.Worker
