import LunchLineup.Breaks.Board

/-!
# The change-set planner

`planScheduleChangeSet` runs the operations of a request over the saved shifts of one
schedule, in memory, and validates the result as a whole: each shift in its window, no two
shifts of one worker at a time, and none against the worker's shifts outside of the
schedule.  What it returns is the final state and the list of mutations that lead there.

Instants are milliseconds.  The two `Map`s keep the order of insertion, as dictionaries do
here.  A worker's id that is empty counts as no worker, as it is falsy.
-/

namespace LunchLineup.Scheduling

open LunchLineup.Lib LunchLineup.Billing
open LunchLineup.Payroll (given)

/-! ## Problems -/

/-- An entry of the error list of a `ProblemError`. -/
structure FieldError where
  pointer : String
  code : String
  deriving DecidableEq

/-- A `ProblemError`, without its texts. -/
structure Problem where
  status : Nat
  code : String
  errors : List FieldError
  deriving DecidableEq

/-- A problem with one entry. -/
def Problem.at (status : Nat) (code pointer fieldCode : String) : Problem :=
  ⟨status, code, [⟨pointer, fieldCode⟩]⟩

/-! ## Fields -/

/-- `parseUtcInstant`. -/
def parseUtcInstant (value pointer : String) : Except Problem Int :=
  (Breaks.parseUtcInstant value).mapError fun _ =>
    .at 422 "invalid_utc_instant" pointer "invalid_utc_instant"

/-- `normalizedRole` of a role that is there, or `null`. -/
def normalizedRole (value : Option String) : Except Problem (Option String) :=
  match given (value.map jsTrim) with
  | none => .ok none
  | some role => do
      ensure (jsLength role ≤ 64) ⟨422, "invalid_shift_role", []⟩
      .ok (some role)

/-! ## Shifts -/

/-- `PlannedBreak`. -/
structure PlannedBreak where
  internalId : String
  startTime : Int
  endTime : Int
  deriving DecidableEq

/-- `PlannedShift`. -/
structure PlannedShift where
  internalId : Option String
  publicId : String
  userInternalId : Option String
  userPublicId : Option String
  startTime : Int
  endTime : Int
  role : Option String
  breaks : List PlannedBreak
  sourcePointer : String
  deriving DecidableEq

/-- `ResolvedUser`. -/
structure ResolvedUser where
  internalId : String
  publicId : String
  deriving DecidableEq

/-- `ExternalShift`. -/
structure ExternalShift where
  internalId : String
  userInternalId : String
  startTime : Int
  endTime : Int
  deriving DecidableEq

/-- `ShiftMutation`. -/
inductive ShiftMutation
  | create (after : PlannedShift) (clientId : Option String)
  | update (before after : PlannedShift)
  | delete (before : PlannedShift)
  deriving DecidableEq

/-- `ChangeSetPlan`. -/
structure ChangeSetPlan where
  finalShifts : List PlannedShift
  mutations : List ShiftMutation
  created : List (Option String × String)
  deriving DecidableEq

/-- An operation of a request.  The inner option of `userId` and `role` is `null`, the outer
one is a field that is left out. -/
inductive Operation
  | create (clientId userId : Option String) (startTime endTime : String)
      (role : Option (Option String))
  | update (shiftId : String) (userId : Option (Option String)) (startTime endTime : Option String)
      (role : Option (Option String))
  | delete (shiftId : String)
  deriving DecidableEq

/-- `PlanInput`.  `idFactory` gives the id that its n-th call returns. -/
structure PlanInput where
  scheduleStart : Int
  scheduleEnd : Int
  currentShifts : List PlannedShift
  externalShifts : List ExternalShift
  usersByPublicId : Dict String ResolvedUser
  operations : List Operation
  idFactory : Nat → String

/-! ## Single steps -/

/-- The time that two rows share. -/
def Overlap (leftStart leftEnd rightStart rightEnd : Int) : Prop :=
  leftStart < rightEnd ∧ rightStart < leftEnd

instance (leftStart leftEnd rightStart rightEnd : Int) :
    Decidable (Overlap leftStart leftEnd rightStart rightEnd) :=
  inferInstanceAs (Decidable (_ ∧ _))

/-- `overlaps`. -/
def PlannedShift.Overlaps (left right : PlannedShift) : Prop :=
  Overlap left.startTime left.endTime right.startTime right.endTime

instance (left right : PlannedShift) : Decidable (left.Overlaps right) :=
  inferInstanceAs (Decidable (Overlap _ _ _ _))

/-- `userFor`. -/
def userFor (publicId : Option String) (usersByPublicId : Dict String ResolvedUser)
    (pointer : String) : Except Problem (Option ResolvedUser) :=
  match publicId with
  | none => .ok none
  | some id =>
      match Dict.get? usersByPublicId id with
      | none => .error (.at 422 "staff_not_schedulable" pointer "staff_not_schedulable")
      | some user => .ok (some user)

/-- A break moved by `delta`. -/
def PlannedBreak.moved (item : PlannedBreak) (delta : Int) : PlannedBreak :=
  { item with startTime := item.startTime + delta, endTime := item.endTime + delta }

/-- `translatedBreaks`. -/
def translatedBreaks (before : PlannedShift) (nextStart nextEnd : Int) (pointer : String) :
    Except Problem (List PlannedBreak) := do
  let translated := before.breaks.map (·.moved (nextStart - before.startTime))
  ensure (∀ item ∈ translated, nextStart ≤ item.startTime ∧ item.endTime ≤ nextEnd)
    (.at 422 "break_outside_shift" pointer "break_outside_shift")
  .ok translated

/-- The milliseconds of a day. -/
def dayMs : Int := 86400000

/-- `validateWindow`. -/
def validateWindow (scheduleStart scheduleEnd : Int) (shift : PlannedShift) :
    Except Problem Unit := do
  ensure (shift.startTime < shift.endTime)
    (.at 422 "invalid_shift_window" shift.sourcePointer "invalid_shift_window")
  ensure (scheduleStart ≤ shift.startTime ∧ shift.startTime < scheduleEnd ∧
      shift.endTime - shift.startTime ≤ dayMs)
    (.at 422 "shift_outside_schedule" shift.sourcePointer "shift_outside_schedule")

/-- `sameShift`; the breaks of the right are compared as far as the left has any. -/
def sameShift (left right : PlannedShift) : Bool :=
  left.userInternalId = right.userInternalId && left.startTime = right.startTime &&
    left.endTime = right.endTime && left.role = right.role &&
    left.breaks.zipIdx.all fun item =>
      (right.breaks[item.2]?.map fun other => (other.startTime, other.endTime)) =
        some (item.1.startTime, item.1.endTime)

/-! ## The operations -/

/-- The variables of the loop. -/
structure PlanState where
  working : Dict String PlannedShift
  touched : List String
  clientIds : List String
  mutations : List ShiftMutation
  created : List (Option String × String)

/-- The saved shifts by their public id. -/
def PlanInput.byPublicId (input : PlanInput) : Dict String PlannedShift :=
  Dict.ofPairs (input.currentShifts.map fun shift => (shift.publicId, shift))

/-- The variables before the first operation. -/
def PlanInput.initial (input : PlanInput) : PlanState where
  working := input.byPublicId
  touched := []
  clientIds := []
  mutations := []
  created := []

/-- The pointer of an operation. -/
def operationPointer (index : Nat) : String := "/operations/" ++ toString index

/-- The branch of `shift.create`. -/
def planCreate (input : PlanInput) (st : PlanState) (pointer : String)
    (clientId userId : Option String) (startTime endTime : String)
    (role : Option (Option String)) : Except Problem PlanState := do
  ensure (∀ id ∈ given clientId, id ∉ st.clientIds)
    (.at 422 "duplicate_client_id" pointer "duplicate_client_id")
  let user ← userFor userId input.usersByPublicId (pointer ++ "/userId")
  let startTime ← parseUtcInstant startTime (pointer ++ "/startTime")
  let endTime ← parseUtcInstant endTime (pointer ++ "/endTime")
  let role ← normalizedRole role.join
  let shift : PlannedShift := {
    internalId := none
    publicId := input.idFactory st.created.length
    userInternalId := user.map (·.internalId)
    userPublicId := user.map (·.publicId)
    startTime := startTime
    endTime := endTime
    role := role
    breaks := []
    sourcePointer := pointer }
  .ok {
    working := Dict.set st.working shift.publicId shift
    touched := st.touched
    clientIds := st.clientIds ++ (given clientId).toList
    mutations := st.mutations ++ [.create shift clientId]
    created := st.created ++ [(clientId, shift.publicId)] }

/-- What the branches of `shift.update` and `shift.delete` share: each saved shift is named
once. -/
def findTouched (input : PlanInput) (st : PlanState) (pointer shiftId : String) :
    Except Problem PlannedShift := do
  ensure (shiftId ∉ st.touched)
    (.at 422 "duplicate_shift_operation" pointer "duplicate_shift_operation")
  match Dict.get? input.byPublicId shiftId with
  | none => .error ⟨404, "shift_not_found", []⟩
  | some before => .ok before

/-- The branch of `shift.delete`. -/
def planDelete (input : PlanInput) (st : PlanState) (pointer shiftId : String) :
    Except Problem PlanState := do
  let before ← findTouched input st pointer shiftId
  .ok { st with
    working := Dict.erase st.working shiftId
    touched := st.touched ++ [shiftId]
    mutations := st.mutations ++ [.delete before] }

/-- An instant of a request, or the saved one where it is left out. -/
def instantOr (saved : Int) (value : Option String) (pointer : String) : Except Problem Int :=
  match given value with
  | none => .ok saved
  | some text => parseUtcInstant text pointer

/-- The internal and the public id of the worker after an update. -/
def updatedUser (input : PlanInput) (before : PlannedShift) (userId : Option (Option String))
    (pointer : String) : Except Problem (Option String × Option String) :=
  match userId with
  | none => .ok (before.userInternalId, before.userPublicId)
  | some publicId => do
      let user ← userFor publicId input.usersByPublicId pointer
      .ok (user.map (·.internalId), user.map (·.publicId))

/-- The role after an update. -/
def updatedRole (before : PlannedShift) (role : Option (Option String)) :
    Except Problem (Option String) :=
  match role with
  | none => .ok before.role
  | some value => normalizedRole value

/-- The branch of `shift.update`. -/
def planUpdate (input : PlanInput) (st : PlanState) (pointer shiftId : String)
    (userId : Option (Option String)) (startTime endTime : Option String)
    (role : Option (Option String)) : Except Problem PlanState := do
  let before ← findTouched input st pointer shiftId
  let nextStart ← instantOr before.startTime startTime (pointer ++ "/startTime")
  let nextEnd ← instantOr before.endTime endTime (pointer ++ "/endTime")
  let user ← updatedUser input before userId (pointer ++ "/userId")
  let role ← updatedRole before role
  let breaks ← translatedBreaks before nextStart nextEnd pointer
  let after := { before with
    userInternalId := user.1
    userPublicId := user.2
    startTime := nextStart
    endTime := nextEnd
    role := role
    breaks := breaks
    sourcePointer := pointer }
  .ok { st with
    working := Dict.set st.working shiftId after
    touched := st.touched ++ [shiftId]
    mutations := if sameShift before after = true then st.mutations
      else st.mutations ++ [.update before after] }

/-- One round of the loop. -/
def planOperation (input : PlanInput) (st : PlanState) (index : Nat) :
    Operation → Except Problem PlanState
  | .create clientId userId startTime endTime role =>
      planCreate input st (operationPointer index) clientId userId startTime endTime role
  | .update shiftId userId startTime endTime role =>
      planUpdate input st (operationPointer index) shiftId userId startTime endTime role
  | .delete shiftId => planDelete input st (operationPointer index) shiftId

/-- The loop over the operations, from the given position on. -/
def planOperations (input : PlanInput) (st : PlanState) (index : Nat) :
    List Operation → Except Problem PlanState
  | [] => .ok st
  | operation :: rest => do
      let next ← planOperation input st index operation
      planOperations input next (index + 1) rest

/-! ## The final state -/

/-- What is assumed of `localeCompare` on ids: a strict total order. -/
structure Collation where
  compare : String → String → Ordering
  trans : Std.TransCmp compare
  lawful : Std.LawfulEqCmp compare

/-- The worker of a shift that is assigned. -/
def PlannedShift.worker (shift : PlannedShift) : Option String := given shift.userInternalId

/-- The comparison of the assigned shifts: by worker, by start, by public id. -/
def compareAssigned (locale : Collation) (left right : PlannedShift) : Ordering :=
  (locale.compare (left.worker.getD "") (right.worker.getD "")).then
    ((compare left.startTime right.startTime).then (locale.compare left.publicId right.publicId))

/-- The order of the assigned shifts. -/
def assignedLe (locale : Collation) (left right : PlannedShift) : Prop :=
  (compareAssigned locale left right).isLE = true

instance (locale : Collation) : DecidableRel (assignedLe locale) :=
  fun _ _ => inferInstanceAs (Decidable (_ = true))

/-- The assigned shifts of a final state, sorted. -/
def assignedShifts (locale : Collation) (finalShifts : List PlannedShift) : List PlannedShift :=
  (finalShifts.filter (·.worker.isSome)).insertionSort (assignedLe locale)

/-- Two shifts of one worker at a time. -/
def PlannedShift.Collides (left right : PlannedShift) : Prop :=
  left.worker.isSome = true ∧ left.worker = right.worker ∧ left.Overlaps right

instance (left right : PlannedShift) : Decidable (left.Collides right) :=
  inferInstanceAs (Decidable (_ ∧ _ ∧ _))

/-- The loop over neighbours in the sorted list. -/
def checkNeighbours : List PlannedShift → Except Problem Unit
  | [] => .ok ()
  | [_] => .ok ()
  | previous :: current :: rest => do
      ensure (¬ (current.userInternalId = previous.userInternalId ∧ previous.Overlaps current))
        (.at 422 "schedule_overlap" current.sourcePointer "shift_overlap")
      checkNeighbours (current :: rest)

/-- The shift collides with one outside of the schedule. -/
def PlannedShift.Conflicts (shift : PlannedShift) (external : ExternalShift) : Prop :=
  shift.userInternalId = some external.userInternalId ∧
    Overlap shift.startTime shift.endTime external.startTime external.endTime

instance (shift : PlannedShift) (external : ExternalShift) :
    Decidable (shift.Conflicts external) := inferInstanceAs (Decidable (_ ∧ _))

/-- One round of the loop over the shifts outside of the schedule. -/
def checkExternal (externalShifts : List ExternalShift) (shift : PlannedShift) :
    Except Problem Unit :=
  ensure (∀ external ∈ externalShifts, ¬ shift.Conflicts external)
    (.at 422 "schedule_overlap" shift.sourcePointer "external_shift_overlap")

/-- The validation of a final state. -/
def validateFinal (locale : Collation) (input : PlanInput) (finalShifts : List PlannedShift) :
    Except Problem Unit := do
  checkAll finalShifts (validateWindow input.scheduleStart input.scheduleEnd)
  checkNeighbours (assignedShifts locale finalShifts)
  checkAll (assignedShifts locale finalShifts) (checkExternal input.externalShifts)

/-- `planScheduleChangeSet`. -/
def planScheduleChangeSet (locale : Collation) (input : PlanInput) :
    Except Problem ChangeSetPlan := do
  let st ← planOperations input input.initial 0 input.operations
  ensure (st.mutations ≠ []) ⟨422, "no_effective_changes", []⟩
  let finalShifts := st.working.map Prod.snd
  validateFinal locale input finalShifts
  .ok ⟨finalShifts, st.mutations, st.created⟩

end LunchLineup.Scheduling
