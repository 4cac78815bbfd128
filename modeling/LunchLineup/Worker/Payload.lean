import LunchLineup.Python.Clock

/-!
# The payload of a schedule solve job

`SolvePayload` and its parts are the records the worker builds from a queue
message, and `validateSolvePayload` is the chain of field limits, field
validators and the final model validator that a payload has to pass.  A text
that holds a time is parsed where the code parses it; the records keep the text.
-/

namespace LunchLineup.Worker

open LunchLineup.Lib LunchLineup.Python

/-! ## Records -/

/-- `AvailabilityRule`. -/
structure AvailabilityRule where
  dayOfWeek : String
  startTime : String
  endTime : String
  deriving DecidableEq

/-- `AvailabilityExceptionRule`. -/
structure AvailabilityExceptionRule where
  localDate : String
  kind : String
  startTimeMinutes : Int
  endTimeMinutes : Int
  deriving DecidableEq

/-- `DemandWindow`. -/
structure DemandWindow where
  id : String
  startTime : String
  endTime : String
  requiredStaff : Int
  skill : Option String
  deriving DecidableEq

/-- `ExistingShift`. -/
structure ExistingShift where
  id : String
  staffId : String
  locationId : String
  startTime : String
  endTime : String
  deriving DecidableEq

/-- `DraftShiftSnapshotEntry`. -/
structure DraftShiftSnapshotEntry where
  id : String
  updatedAt : String
  deriving DecidableEq

/-- `SolvePayload`.  `dailyDemand` is `None` when the message has none. -/
structure SolvePayload where
  scheduleId : String
  tenantId : String
  locationId : String
  startDate : String
  endDate : String
  draftRevision : Int
  inputShiftSnapshot : List DraftShiftSnapshotEntry
  staffIds : List String
  constraints : Dict String PyValue
  availability : Dict String (List AvailabilityRule)
  availabilityExceptions : Dict String (List AvailabilityExceptionRule)
  availabilityConfigured : Dict String Bool
  staffSkills : Dict String (List String)
  skillRequirements : Dict String PyValue
  dailyDemand : PyValue
  demandWindows : List DemandWindow
  timezone : String
  existingWeeklyMinutes : Dict String (Dict String Int)
  existingShifts : List ExistingShift

/-- `NormalizedBreak`. -/
structure NormalizedBreak where
  id : String
  startTime : Int
  endTime : Int
  paid : Bool
  breakType : String
  deriving DecidableEq

/-- `NormalizedShift`. -/
structure NormalizedShift where
  id : String
  staffId : String
  startTime : Int
  endTime : Int
  role : String
  breaks : List NormalizedBreak
  deriving DecidableEq

/-- `SOLVER_CONSTRAINTS`. -/
def solverConstraints : List String :=
  ["availability", "break_rules", "daily_demand", "max_hours_per_week", "min_floor_coverage",
    "shift_duration_hours", "skill_requirements", "solver_time_limit_seconds", "staff_skills",
    "timezone"]

/-! ## Field limits -/

/-- `Field(min_length=lo, max_length=hi)` of a text. -/
def lengthBetween (lo hi : Nat) (text : String) : Bool :=
  lo ≤ text.length && text.length ≤ hi

/-- The pattern `\d{4}-\d{2}-\d{2}`. -/
def isDatePattern (text : String) : Bool :=
  text.length = 10 &&
    (text.toList.zipIdx.all fun entry =>
      if entry.2 = 4 ∨ entry.2 = 7 then entry.1 = '-' else entry.1.isDigit)

/-- The field limits of an `AvailabilityRule`. -/
def AvailabilityRule.limits (rule : AvailabilityRule) : Bool :=
  lengthBetween 1 16 rule.dayOfWeek && lengthBetween 4 8 rule.startTime &&
    lengthBetween 4 8 rule.endTime

/-- The field limits of a `DemandWindow`. -/
def DemandWindow.limits (maxStaffIds : Nat) (window : DemandWindow) : Bool :=
  isIdentifier window.id && lengthBetween 8 40 window.startTime &&
    lengthBetween 8 40 window.endTime && 1 ≤ window.requiredStaff &&
    window.requiredStaff ≤ maxStaffIds && (window.skill.all fun skill => skill.length ≤ 128)

/-- The field limits of an `ExistingShift`. -/
def ExistingShift.limits (shift : ExistingShift) : Bool :=
  isIdentifier shift.id && isIdentifier shift.staffId && isIdentifier shift.locationId &&
    lengthBetween 8 40 shift.startTime && lengthBetween 8 40 shift.endTime

/-- The field limits of a `DraftShiftSnapshotEntry`. -/
def DraftShiftSnapshotEntry.limits (entry : DraftShiftSnapshotEntry) : Bool :=
  isIdentifier entry.id && lengthBetween 8 40 entry.updatedAt

/-- The field limits of a `SolvePayload` and of the records in it.
`maxStaffIds` is the configured `MAX_STAFF_IDS` of the worker. -/
def SolvePayload.limits (maxStaffIds : Nat) (payload : SolvePayload) : Bool :=
  isIdentifier payload.scheduleId && isIdentifier payload.tenantId &&
    isIdentifier payload.locationId && lengthBetween 8 40 payload.startDate &&
    lengthBetween 8 40 payload.endDate && 0 ≤ payload.draftRevision &&
    payload.draftRevision ≤ 2147483647 && payload.inputShiftSnapshot.length ≤ 10000 &&
    payload.inputShiftSnapshot.all DraftShiftSnapshotEntry.limits &&
    1 ≤ payload.staffIds.length &&
    (payload.availability.all fun entry => entry.2.all AvailabilityRule.limits) &&
    payload.demandWindows.length ≤ 500 &&
    payload.demandWindows.all (DemandWindow.limits maxStaffIds) &&
    lengthBetween 1 128 payload.timezone && payload.existingShifts.length ≤ 10000 &&
    payload.existingShifts.all ExistingShift.limits

/-! ## Validators -/

/-- `parse_iso_datetime`. -/
def parseIsoDatetime (rt : Runtime) (value field : String) (requireTime : Bool) :
    Except String Int := do
  ensure (strip value ≠ "") (field ++ " must be an ISO date or datetime string")
  ensure (requireTime = true → Runtime.hasTime value = true)
    (field ++ " must include a time component")
  match rt.fromisoformat (Runtime.replaceZulu (strip value)) with
  | some instant => .ok instant
  | none => .error (field ++ " must be a valid ISO date or datetime string")

/-- The limits and `validate_exception` of an `AvailabilityExceptionRule`. -/
def AvailabilityExceptionRule.validate (rt : Runtime) (rule : AvailabilityExceptionRule) :
    Except String Unit := do
  ensure (isDatePattern rule.localDate = true ∧ lengthBetween 9 11 rule.kind = true ∧
      0 ≤ rule.startTimeMinutes ∧ rule.startTimeMinutes ≤ 1439 ∧
      1 ≤ rule.endTimeMinutes ∧ rule.endTimeMinutes ≤ 1440)
    "availability_exceptions"
  match rt.dateFromisoformat rule.localDate with
  | none => .error "availability exception local_date must be a calendar date"
  | some parsed => do
      ensure (1970 ≤ rt.dateYear parsed ∧ rt.dateYear parsed ≤ 2100)
        "availability exception local_date is outside the supported range"
      ensure (rule.kind ∈ ["AVAILABLE", "UNAVAILABLE"]) "availability exception kind is invalid"
      ensure (rule.startTimeMinutes < rule.endTimeMinutes)
        "availability exception end_time_minutes must be after start_time_minutes"

/-- `validate_staff_ids`. -/
def validateStaffIds (maxStaffIds : Nat) (value : List String) : Except String (List String) := do
  ensure (value.length ≤ maxStaffIds) ("staff_ids cannot exceed " ++ toString maxStaffIds)
  collectIds (fun trimmed => trimmed ≠ "" && trimmed.length ≤ 128)
    "staff_ids contain an invalid identifier" [] value

/-- `validate_constraints` of the worker. -/
def validateConstraints (rt : Runtime) (value : Dict String PyValue) : Except String Unit := do
  rejectUnknown (Dict.keys value) solverConstraints "Unsupported constraint: "
  ensure (value.length ≤ 20) "constraints cannot exceed 20 entries"
  ensure ((rt.dumps (.dict value)).length ≤ 16384) "constraints payload is too large"

/-- The checks of one `existing_shifts` entry. -/
def validateExistingShift (rt : Runtime) (payload : SolvePayload) (shift : ExistingShift) :
    Except String Unit := do
  ensure (shift.staffId ∈ payload.staffIds) "existing_shifts includes staff outside staff_ids"
  let shiftStart ← parseIsoDatetime rt shift.startTime "existing_shifts.start_time" true
  let shiftEnd ← parseIsoDatetime rt shift.endTime "existing_shifts.end_time" true
  ensure (shiftStart < shiftEnd) "existing_shifts end_time must be after start_time"
  let endDate ← parseIsoDatetime rt payload.endDate "end_date" false
  let startDate ← parseIsoDatetime rt payload.startDate "start_date" false
  ensure (¬ (endDate + day ≤ shiftStart ∨ shiftEnd ≤ startDate))
    "existing_shifts must overlap the schedule window"

/-- The checks of one `demand_windows` entry. -/
def validateDemandWindow (rt : Runtime) (startDate endDate : Int) (window : DemandWindow) :
    Except String Unit := do
  let windowStart ← parseIsoDatetime rt window.startTime "demand_windows.start_time" true
  let windowEnd ← parseIsoDatetime rt window.endTime "demand_windows.end_time" true
  ensure (startDate ≤ windowStart ∧ windowStart < endDate ∧ windowStart < windowEnd ∧
      windowEnd ≤ windowStart + day)
    "demand window must be inside the schedule window"

/-- The checks of one staff member's `existing_weekly_minutes`. -/
def validateWeeklyMinutes (rt : Runtime) (weeklyMinutes : Dict String Int) :
    Except String Unit := do
  ensure (weeklyMinutes.length ≤ 6)
    "existing_weekly_minutes cannot exceed 6 weeks per staff member"
  checkAll weeklyMinutes fun entry =>
    match rt.dateFromisoformat entry.1 with
    | none => .error "existing_weekly_minutes keys must be ISO Monday dates"
    | some parsedWeek => do
        ensure (weekday parsedWeek = 0) "existing_weekly_minutes keys must be ISO Monday dates"
        ensure (0 ≤ entry.2 ∧ entry.2 ≤ 10080)
          "existing_weekly_minutes values must be whole minutes from 0 to 10080"

/-- `validate_availability_staff`, the model validator. -/
def validateAvailabilityStaff (rt : Runtime) (payload : SolvePayload) : Except String Unit := do
  ensure (∀ staffId ∈ Dict.keys payload.availability, staffId ∈ payload.staffIds)
    "availability includes staff outside staff_ids"
  ensure (∀ staffId ∈ Dict.keys payload.availabilityExceptions, staffId ∈ payload.staffIds)
    "availability_exceptions includes staff outside staff_ids"
  ensure (∀ entry ∈ payload.availabilityExceptions, entry.2.length ≤ 366)
    "availability_exceptions cannot exceed 366 entries per staff member"
  ensure (∀ staffId ∈ Dict.keys payload.availabilityConfigured, staffId ∈ payload.staffIds)
    "availability_configured includes staff outside staff_ids"
  ensure (∀ staffId ∈ Dict.keys payload.staffSkills, staffId ∈ payload.staffIds)
    "staff_skills includes staff outside staff_ids"
  ensure (∀ staffId ∈ Dict.keys payload.existingWeeklyMinutes, staffId ∈ payload.staffIds)
    "existing_weekly_minutes includes staff outside staff_ids"
  checkAll payload.existingShifts (validateExistingShift rt payload)
  ensure (payload.staffSkills = [] ∨ "staff_skills" ∉ Dict.keys payload.constraints)
    "staff_skills cannot be supplied in both staff_skills and constraints"
  ensure (payload.skillRequirements.isEmpty = true ∨
      "skill_requirements" ∉ Dict.keys payload.constraints)
    "skill_requirements cannot be supplied in both skill_requirements and constraints"
  ensure (payload.dailyDemand.isNone = true ∨ "daily_demand" ∉ Dict.keys payload.constraints)
    "daily_demand cannot be supplied in both daily_demand and constraints"
  let startDate ← parseIsoDatetime rt payload.startDate "start_date" false
  let endDate ← parseIsoDatetime rt payload.endDate "end_date" false
  ensure (startDate < endDate) "end_date must be after start_date"
  ensure ((payload.inputShiftSnapshot.map DraftShiftSnapshotEntry.id).Nodup)
    "input_shift_snapshot contains duplicate shift ids"
  checkAll payload.inputShiftSnapshot fun entry => do
    let _ ← parseIsoDatetime rt entry.updatedAt "input_shift_snapshot.updated_at" true
    .ok ()
  checkAll payload.demandWindows (validateDemandWindow rt startDate endDate)
  checkAll payload.existingWeeklyMinutes fun entry => validateWeeklyMinutes rt entry.2
  match rt.zoneInfo payload.timezone with
  | none => .error "timezone must be a valid IANA timezone"
  | some zone =>
      let firstLocalDate := dateOf (zone.toLocal startDate)
      let finalLocalDate := dateOf (zone.toLocal (endDate + day - 1))
      checkAll payload.availabilityExceptions fun entry =>
        checkAll entry.2 fun rule =>
          match rt.dateFromisoformat rule.localDate with
          | none => .error "availability exception local_date must be a calendar date"
          | some parsed =>
              ensure (firstLocalDate ≤ parsed ∧ parsed ≤ finalLocalDate)
                "availability_exceptions must stay inside the schedule local-date window"

/-- `SolvePayload.model_validate`: the limits of every field, the two field
validators, then the model validator. -/
def validateSolvePayload (rt : Runtime) (maxStaffIds : Nat) (raw : SolvePayload) :
    Except String SolvePayload := do
  ensure (raw.limits maxStaffIds = true) "schedule solve payload failed validation"
  checkAll raw.availabilityExceptions fun entry =>
    checkAll entry.2 (AvailabilityExceptionRule.validate rt)
  let staffIds ← validateStaffIds maxStaffIds raw.staffIds
  validateConstraints rt raw.constraints
  let payload := { raw with staffIds := staffIds }
  validateAvailabilityStaff rt payload
  .ok payload

/-! ## Accepted payloads -/

/-- What the validators have checked of a payload. -/
structure Validated (rt : Runtime) (payload : SolvePayload) : Prop where
  scheduleId : isIdentifier payload.scheduleId = true
  tenantId : isIdentifier payload.tenantId = true
  locationId : isIdentifier payload.locationId = true
  startDate : lengthBetween 8 40 payload.startDate = true
  endDate : lengthBetween 8 40 payload.endDate = true
  existingShiftLimits : ∀ shift ∈ payload.existingShifts, shift.limits = true
  staffIds_ne_nil : payload.staffIds ≠ []
  staffIds_nodup : payload.staffIds.Nodup
  staffIds_valid : ∀ staffId ∈ payload.staffIds, strip staffId = staffId ∧
    (staffId ≠ "" && staffId.length ≤ 128) = true
  constraints : ∀ key ∈ Dict.keys payload.constraints, key ∈ solverConstraints
  skillStaff : ∀ staffId ∈ Dict.keys payload.staffSkills, staffId ∈ payload.staffIds
  existingShifts : ∀ shift ∈ payload.existingShifts, validateExistingShift rt payload shift = .ok ()
  staffSkills : payload.staffSkills = [] ∨ "staff_skills" ∉ Dict.keys payload.constraints
  skillRequirements : payload.skillRequirements.isEmpty = true ∨
    "skill_requirements" ∉ Dict.keys payload.constraints
  dailyDemand : payload.dailyDemand.isNone = true ∨
    "daily_demand" ∉ Dict.keys payload.constraints
  bounds : ∃ startDate endDate, parseIsoDatetime rt payload.startDate "start_date" false =
      .ok startDate ∧ parseIsoDatetime rt payload.endDate "end_date" false = .ok endDate ∧
    startDate < endDate ∧ ∀ window ∈ payload.demandWindows,
      validateDemandWindow rt startDate endDate window = .ok ()

/-- Validation only trims and merges the staff ids. -/
theorem validateSolvePayload_eq {rt : Runtime} {maxStaffIds : Nat} {raw payload : SolvePayload}
    (h : validateSolvePayload rt maxStaffIds raw = .ok payload) :
    payload = { raw with staffIds := payload.staffIds } := by
  simp only [validateSolvePayload, bind_eq_ok] at h
  obtain ⟨_, _, _, _, staffIds, _, _, _, _, _, heq⟩ := h
  rw [← Except.ok.inj heq]

theorem validateSolvePayload_ok {rt : Runtime} {maxStaffIds : Nat} {raw payload : SolvePayload}
    (h : validateSolvePayload rt maxStaffIds raw = .ok payload) : Validated rt payload := by
  simp only [validateSolvePayload, validateStaffIds, validateConstraints,
    validateAvailabilityStaff, bind_eq_ok, ensure_eq_ok, exists_const, checkAll_eq_ok,
    rejectUnknown_eq_ok] at h
  obtain ⟨hlimits, _, staffIds, ⟨_, hstaffIds⟩, ⟨hkeys, _, _⟩, _, hstaff, heq⟩ := h
  obtain ⟨_, _, _, _, hskillStaff, _, hexisting, hskills, hrequirements, hdaily, startDate, hstart,
    endDate, hend, horder, _, _, hwindows, _⟩ := hstaff
  cases heq
  simp only [SolvePayload.limits, Bool.and_eq_true, decide_eq_true_eq, List.all_eq_true] at hlimits
  obtain ⟨⟨⟨⟨⟨⟨⟨⟨⟨⟨⟨⟨⟨⟨⟨hschedule, htenant⟩, hlocation⟩, hstartLimit⟩, hendLimit⟩, _⟩, _⟩, _⟩, _⟩,
    hcount⟩, _⟩, _⟩, _⟩, _⟩, _⟩, hshifts⟩ := hlimits
  obtain ⟨hnodup, hvalid⟩ := collectIds_ok List.nodup_nil (by simp) hstaffIds
  have hne : raw.staffIds ≠ [] := by
    intro hnil
    rw [hnil] at hcount
    simp at hcount
  exact ⟨hschedule, htenant, hlocation, hstartLimit, hendLimit, hshifts,
    (length_le_of_collectIds hstaffIds).2 hne, hnodup, hvalid, hkeys, hskillStaff, hexisting,
    hskills, hrequirements, hdaily, startDate, endDate, hstart, hend, horder, hwindows⟩

end LunchLineup.Worker
