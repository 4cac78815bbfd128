import Mathlib.Data.String.Basic
import Mathlib.Data.Prod.Lex
import LunchLineup.Lib.Coverage
import LunchLineup.Lib.Coalesce
import LunchLineup.Worker.Payload

/-!
# The gate between the engine and the database

The worker does not trust the response of the engine.  `normalizeSolvedShifts`
reads the shifts of an arbitrary response object, rejects what is malformed,
merges touching shifts of one person and role, and compares the result with the
person's other shifts; `validateSolvedDemandCoverage` then checks the demand of
the payload.  Any exception rejects the response; here it is its message.

A response is whatever `getattr` finds: an attribute may be missing, and a value
may be of any type.
-/

namespace LunchLineup.Worker

open LunchLineup.Lib LunchLineup.Python

/-! ## Responses -/

/-- The value of an attribute: `None`, a text, or any other object with its
`str` and its truth value. -/
inductive RawValue
  | none
  | text (value : String)
  | other (str : String) (truthy : Bool)
  deriving DecidableEq

/-- An attribute that is iterated over. -/
inductive RawItems (α : Type)
  | missing
  | items (list : List α)
  | notIterable

/-- A break of a response. -/
structure RawBreak where
  startTime : Option RawValue
  endTime : Option RawValue
  type : Option RawValue
  paid : Option RawValue

/-- A shift of a response. -/
structure RawShift where
  staffId : Option RawValue
  startTime : Option RawValue
  endTime : Option RawValue
  role : Option RawValue
  breaks : RawItems RawBreak

/-- A response of the engine. -/
structure RawResponse where
  shifts : RawItems RawShift

/-- `getattr(object, name, [])` of a loop. -/
def RawItems.read {α : Type} : RawItems α → Except String (List α)
  | .missing => .ok []
  | .items list => .ok list
  | .notIterable => .error "object is not iterable"

/-- `str(value)`. -/
def RawValue.str : RawValue → String
  | .none => "None"
  | .text value => value
  | .other str _ => str

/-- `bool(value)`. -/
def RawValue.truthy : RawValue → Bool
  | .none => false
  | .text value => value ≠ ""
  | .other _ truthy => truthy

/-! ## Fields -/

/-- `parse_iso_datetime` of an attribute, with a time component. -/
def readInstant (rt : Runtime) (value : Option RawValue) (field : String) : Except String Int :=
  match value.getD (.text "") with
  | .text text => parseIsoDatetime rt text field true
  | _ => .error (field ++ " must be an ISO date or datetime string")

/-- `SHIFT_ROLE_MAX_LENGTH`. -/
def shiftRoleMaxLength : Nat := 64

/-- `normalize_shift_role`. -/
def normalizeShiftRole (value : RawValue) : Except String String :=
  match value with
  | .none => .ok "STAFF"
  | .text text => do
      let role := if strip text = "" then "STAFF" else strip text
      ensure (role.length ≤ shiftRoleMaxLength) "shift role is too long"
      .ok role
  | .other _ _ => .error "shift role must be a string"

/-- `BREAK_TYPE_ALIASES`. -/
def breakTypeAliases : Dict String String :=
  [("", "LUNCH"), ("MEAL", "LUNCH"), ("LUNCH", "LUNCH"), ("BREAK1", "BREAK1"),
    ("FIRST_BREAK", "BREAK1"), ("REST", "BREAK1"), ("BREAK2", "BREAK2"),
    ("SECOND_BREAK", "BREAK2")]

/-- `normalize_break_type`. -/
def normalizeBreakType (rt : Runtime) (value : RawValue) : Except String String :=
  match value with
  | .none => .ok "LUNCH"
  | .text text =>
      match Dict.get? breakTypeAliases (rt.upper (strip text)) with
      | some breakType => .ok breakType
      | none => .error "break type is not supported"
  | .other _ _ => .error "break type must be a string"

/-- `"|".join(parts)`. -/
def joinBar : List String → String
  | [] => ""
  | [part] => part
  | part :: rest => part ++ "|" ++ joinBar rest

/-- `deterministic_id`. -/
def deterministicId (rt : Runtime) (parts : List String) : String :=
  rt.uuid5 ("lunchlineup:solved-schedule:" ++ joinBar parts)

/-- Any `ValueError` of a block is replaced by one message. -/
def orElseReject {α : Type} (x : Except String α) (message : String) : Except String α :=
  match x with
  | .ok value => .ok value
  | .error _ => .error message

/-! ## Breaks -/

/-- `(start_time, end_time, id)`, in lexicographic order. -/
def NormalizedBreak.key (item : NormalizedBreak) : Int ×ₗ Int ×ₗ String :=
  toLex (item.startTime, toLex (item.endTime, item.id))

/-- The order of breaks. -/
def NormalizedBreak.le (first second : NormalizedBreak) : Prop :=
  first.key ≤ second.key

instance : DecidableRel NormalizedBreak.le :=
  fun first second => inferInstanceAs (Decidable (first.key ≤ second.key))

/-- The fields of one break. -/
def readBreakFields (rt : Runtime) (index : Nat) (rawBreak : RawBreak) :
    Except String (Int × Int × String) := do
  let startTime ← readInstant rt rawBreak.startTime ("breaks[" ++ toString index ++ "].start_time")
  let endTime ← readInstant rt rawBreak.endTime ("breaks[" ++ toString index ++ "].end_time")
  let breakType ← normalizeBreakType rt (rawBreak.type.getD (.text "LUNCH"))
  .ok (startTime, endTime, breakType)

/-- The loop of `normalize_solved_breaks`.  A key is compared as instants and
type, which its text determines. -/
def collectBreaks (rt : Runtime) (shiftId : String) (shiftStart shiftEnd : Int) (index : Nat)
    (seen : List (Int × Int × String)) : List RawBreak → Except String (List NormalizedBreak)
  | [] => .ok []
  | rawBreak :: rest => do
      let (startTime, endTime, breakType) ← orElseReject (readBreakFields rt index rawBreak)
        "solve response contains invalid break fields"
      ensure (shiftStart ≤ startTime ∧ startTime < endTime ∧ endTime ≤ shiftEnd)
        "solve response includes a break outside its shift window"
      ensure ((startTime, endTime, breakType) ∉ seen) "solve response includes duplicate breaks"
      let others ← collectBreaks rt shiftId shiftStart shiftEnd (index + 1)
        ((startTime, endTime, breakType) :: seen) rest
      .ok ({
        id := deterministicId rt ["break", shiftId, toString index,
          rt.isoformatMicroseconds startTime, rt.isoformatMicroseconds endTime, breakType]
        startTime := startTime
        endTime := endTime
        paid := (rawBreak.paid.getD (.other "False" false)).truthy
        breakType := breakType } :: others)

/-- `normalize_solved_breaks`. -/
def normalizeSolvedBreaks (rt : Runtime) (rawShift : RawShift) (shiftId : String)
    (shiftStart shiftEnd : Int) : Except String (List NormalizedBreak) := do
  let rawBreaks ← rawShift.breaks.read
  let collected ← collectBreaks rt shiftId shiftStart shiftEnd 0 [] rawBreaks
  let normalized := collected.insertionSort NormalizedBreak.le
  checkAll (normalized.zip normalized.tail) fun pair =>
    ensure (pair.1.endTime ≤ pair.2.startTime) "solve response includes overlapping breaks"
  .ok normalized

/-! ## Shifts -/

/-- The fields of one shift. -/
def readShiftFields (rt : Runtime) (index : Nat) (rawShift : RawShift) :
    Except String (Int × Int × String) := do
  let startTime ← readInstant rt rawShift.startTime ("shifts[" ++ toString index ++ "].start_time")
  let endTime ← readInstant rt rawShift.endTime ("shifts[" ++ toString index ++ "].end_time")
  let role ← normalizeShiftRole (rawShift.role.getD (.text "STAFF"))
  .ok (startTime, endTime, role)

/-- The id of a shift. -/
def shiftId (rt : Runtime) (payload : SolvePayload) (staffId : String) (startTime endTime : Int)
    (role : String) : String :=
  deterministicId rt ["shift", payload.tenantId, payload.scheduleId, payload.locationId, staffId,
    rt.isoformatMicroseconds startTime, rt.isoformatMicroseconds endTime, role]

/-- `str(getattr(raw_shift, "staff_id", "")).strip()`. -/
def RawShift.staff (rawShift : RawShift) : String :=
  strip (rawShift.staffId.getD (.text "")).str

/-- The loop of `normalize_solved_shifts`. -/
def collectShifts (rt : Runtime) (payload : SolvePayload) (scheduleStart scheduleEnd : Int)
    (index : Nat) (seen : List (String × Int × Int × String)) :
    List RawShift → Except String (List NormalizedShift)
  | [] => .ok []
  | rawShift :: rest => do
      let staffId := rawShift.staff
      ensure (staffId ∈ payload.staffIds) "solve response includes staff outside the tenant"
      let (startTime, endTime, role) ← orElseReject (readShiftFields rt index rawShift)
        "solve response contains invalid shift fields"
      ensure (startTime < endTime)
        "solve response includes a shift with end_time before start_time"
      ensure (scheduleStart ≤ startTime ∧ startTime < scheduleEnd ∧ endTime - startTime ≤ day)
        "solve response includes a shift outside the schedule window"
      ensure ((staffId, startTime, endTime, role) ∉ seen)
        "solve response includes duplicate shifts"
      let id := shiftId rt payload staffId startTime endTime role
      let breaks ← normalizeSolvedBreaks rt rawShift id startTime endTime
      let others ← collectShifts rt payload scheduleStart scheduleEnd (index + 1)
        ((staffId, startTime, endTime, role) :: seen) rest
      .ok (⟨id, staffId, startTime, endTime, role, breaks⟩ :: others)

/-- `(staff_id, start_time, end_time, role, id)`, in lexicographic order. -/
def NormalizedShift.key (shift : NormalizedShift) :
    String ×ₗ Int ×ₗ Int ×ₗ String ×ₗ String :=
  toLex (shift.staffId, toLex (shift.startTime, toLex (shift.endTime,
    toLex (shift.role, shift.id))))

/-- The order of shifts. -/
def NormalizedShift.le (first second : NormalizedShift) : Prop :=
  first.key ≤ second.key

instance : DecidableRel NormalizedShift.le :=
  fun first second => inferInstanceAs (Decidable (first.key ≤ second.key))

/-- The breaks of a merged shift, with new ids. -/
def mergedBreaks (rt : Runtime) (mergedId : String) (breaks : List NormalizedBreak) :
    List NormalizedBreak :=
  (breaks.insertionSort NormalizedBreak.le).zipIdx.map fun entry =>
    { entry.1 with
      id := deterministicId rt ["break", mergedId, toString entry.2,
        rt.isoformatMicroseconds entry.1.startTime, rt.isoformatMicroseconds entry.1.endTime,
        entry.1.breakType] }

/-- The merge of two touching shifts. -/
def mergeShifts (rt : Runtime) (payload : SolvePayload) (previous shift : NormalizedShift) :
    NormalizedShift :=
  let mergedId := shiftId rt payload shift.staffId previous.startTime shift.endTime shift.role
  { id := mergedId
    staffId := shift.staffId
    startTime := previous.startTime
    endTime := shift.endTime
    role := shift.role
    breaks := mergedBreaks rt mergedId (previous.breaks ++ shift.breaks) }

/-- The two shifts are merged. -/
def NormalizedShift.joins (previous shift : NormalizedShift) : Bool :=
  previous.staffId = shift.staffId && shift.startTime = previous.endTime &&
    shift.role = previous.role

/-- The loop of `coalesce_adjacent_solved_shifts`, with the last shift so far. -/
def coalesceFrom (rt : Runtime) (payload : SolvePayload) (previous : NormalizedShift) :
    List NormalizedShift → Except String (List NormalizedShift)
  | [] => .ok [previous]
  | shift :: rest =>
      if previous.staffId = shift.staffId ∧ shift.startTime < previous.endTime then
        .error "solve response includes overlapping shifts for one staff member"
      else if previous.joins shift then
        coalesceFrom rt payload (mergeShifts rt payload previous shift) rest
      else do
        let others ← coalesceFrom rt payload shift rest
        .ok (previous :: others)

/-- `coalesce_adjacent_solved_shifts`. -/
def coalesceAdjacentSolvedShifts (rt : Runtime) (payload : SolvePayload)
    (solvedShifts : List NormalizedShift) : Except String (List NormalizedShift) :=
  match solvedShifts.insertionSort NormalizedShift.le with
  | [] => .ok []
  | first :: rest => coalesceFrom rt payload first rest

/-- The checks of a final shift. -/
def checkFinalShift (rt : Runtime) (payload : SolvePayload) (shift : NormalizedShift) :
    Except String Unit := do
  ensure (shift.endTime - shift.startTime ≤ day)
    "solve response includes a shift longer than 24 hours"
  checkAll (payload.existingShifts.filter fun existing => existing.staffId = shift.staffId)
    fun existing => do
      let existingStart ← parseIsoDatetime rt existing.startTime "existing_shifts.start_time" true
      let existingEnd ← parseIsoDatetime rt existing.endTime "existing_shifts.end_time" true
      ensure (¬ (shift.startTime < existingEnd ∧ existingStart < shift.endTime))
        "solve response overlaps an existing staff shift"

/-- `normalize_solved_shifts`. -/
def normalizeSolvedShifts (rt : Runtime) (payload : SolvePayload) (response : RawResponse) :
    Except String (List NormalizedShift) := do
  let scheduleStart ← orElseReject (parseIsoDatetime rt payload.startDate "start_date" false)
    "solve response contains invalid schedule bounds"
  let scheduleEnd ← orElseReject (parseIsoDatetime rt payload.endDate "end_date" false)
    "solve response contains invalid schedule bounds"
  let rawShifts ← response.shifts.read
  let solvedShifts ← collectShifts rt payload scheduleStart scheduleEnd 0 [] rawShifts
  ensure (solvedShifts ≠ []) "engine returned no solved shifts"
  let finalShifts ← coalesceAdjacentSolvedShifts rt payload solvedShifts
  checkAll finalShifts (checkFinalShift rt payload)
  .ok finalShifts

/-! ## Demand coverage -/

/-- The time of a shift and its breaks. -/
def NormalizedShift.duty (shift : NormalizedShift) : Duty Int :=
  ⟨shift.startTime, shift.endTime, shift.breaks.map fun item => (item.startTime, item.endTime)⟩

/-- The person holds the skill, up to case and surrounding blanks. -/
def holdsSkill (rt : Runtime) (payload : SolvePayload) (requiredSkill staffId : String) : Bool :=
  requiredSkill ∈ (Dict.getD payload.staffSkills staffId []).map fun skill => rt.lower (strip skill)

/-- The check of one piece of a demand window. -/
def checkWindowPiece (rt : Runtime) (payload : SolvePayload) (solvedShifts : List NormalizedShift)
    (window : DemandWindow) (piece : Int × Int) : Except String Unit := do
  let working := solvedShifts.filter fun shift => shift.duty.workingOn piece.1 piece.2
  ensure (window.requiredStaff ≤ working.length)
    ("solve response drops working coverage below demand window " ++ window.id ++
      " during a break")
  match window.skill with
  | none => .ok ()
  | some skill =>
      if skill = "" then .ok ()
      else
        ensure (window.requiredStaff ≤ working.countP fun shift =>
            holdsSkill rt payload (rt.lower (strip skill)) shift.staffId)
          ("solve response drops working skill coverage below demand window " ++ window.id ++
            " during a break")

/-- The check of one demand window. -/
def checkWindow (rt : Runtime) (payload : SolvePayload) (solvedShifts : List NormalizedShift)
    (window : DemandWindow) : Except String Unit := do
  let windowStart ← parseIsoDatetime rt window.startTime "demand window start_time" true
  let windowEnd ← parseIsoDatetime rt window.endTime "demand window end_time" true
  checkAll (cuts (sortedSet (clippedEdges windowStart windowEnd
      (solvedShifts.map NormalizedShift.duty))))
    (checkWindowPiece rt payload solvedShifts window)

/-- `strftime("%A")` of a weekday. -/
def weekdayName (weekday : Nat) : String :=
  ["Monday", "Tuesday", "Wednesday", "Thursday", "Friday", "Saturday", "Sunday"].getD weekday ""

/-- `daily_required_staff`, of a local date. -/
def dailyRequiredStaff (rt : Runtime) (payload : SolvePayload) (localDate : Int) :
    Except String Int :=
  match toInt rt (Dict.getD payload.constraints "min_floor_coverage" (.int 1)) with
  | none => .error (rt.conversionError (getValue payload.constraints "min_floor_coverage"))
  | some default =>
      match payload.dailyDemand with
      | .int demand => .ok (max default demand)
      | .dict demand =>
          let name := weekdayName (weekday localDate)
          .ok (["*", rt.dateIsoformat localDate, name, rt.lower name].foldl
            (fun required key =>
              match Dict.get? demand key with
              | some (.int value) => max required value
              | _ => required) default)
      | _ => .ok default

/-- The edges of all shifts and breaks of a date. -/
def dutyEdges (duties : List (Duty Int)) : List Int :=
  duties.flatMap fun duty =>
    duty.lower :: duty.upper :: duty.holes.flatMap fun hole => [hole.1, hole.2]

/-- The check of the shifts that start on one local date. -/
def checkDate (rt : Runtime) (payload : SolvePayload) (shifts : List NormalizedShift)
    (localDate : Int) : Except String Unit := do
  let requiredStaff ← dailyRequiredStaff rt payload localDate
  checkAll (cuts (sortedSet (dutyEdges (shifts.map NormalizedShift.duty)))) fun piece =>
    ensure (requiredStaff ≤ shifts.countP fun shift => shift.duty.workingOn piece.1 piece.2)
      ("solve response drops working coverage below daily demand for " ++
        rt.dateIsoformat localDate ++ " during a break")

/-- `validate_solved_daily_coverage`.  Dates are compared as dates. -/
def validateSolvedDailyCoverage (rt : Runtime) (payload : SolvePayload)
    (solvedShifts : List NormalizedShift) : Except String Unit :=
  match rt.zoneInfo payload.timezone with
  | none => .error "timezone must be a valid IANA timezone"
  | some zone =>
      let dateOfShift := fun shift : NormalizedShift => dateOf (zone.toLocal shift.startTime)
      checkAll (firstOccurrences (solvedShifts.map dateOfShift)) fun localDate =>
        checkDate rt payload (solvedShifts.filter fun shift => dateOfShift shift = localDate)
          localDate

/-- `validate_solved_demand_coverage`. -/
def validateSolvedDemandCoverage (rt : Runtime) (payload : SolvePayload)
    (solvedShifts : List NormalizedShift) : Except String Unit :=
  if payload.demandWindows = [] then validateSolvedDailyCoverage rt payload solvedShifts
  else checkAll payload.demandWindows (checkWindow rt payload solvedShifts)

end LunchLineup.Worker
