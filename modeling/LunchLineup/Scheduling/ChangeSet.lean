import LunchLineup.Scheduling.Plan

/-!
# Change sets on the saved schedule

`ScheduleChangeSetService.apply` reads the shifts of the schedule and those that could clash
with them, has the planner make its plan, and executes the mutations of the plan one by one:
all deletions, then all updates, then all creations.

The rows are those of one tenant, to which row-level security confines a session.  Unique
indexes and the check of a shift's window act at each statement; the exclusion constraints
and the constraint triggers are deferred, so no statement sees them.  The database numbers
the rows that it inserts.
-/

namespace LunchLineup.Scheduling

open LunchLineup.Lib LunchLineup.Billing
open LunchLineup.Breaks (User)
open LunchLineup.Payroll (given)

/-! ## Rows -/

/-- A `"Break"` row. -/
structure BreakRow where
  id : String
  startTime : Int
  endTime : Int
  paid : Bool
  deriving DecidableEq

/-- A `"Shift"` row with its breaks. -/
structure ShiftRow where
  id : String
  publicId : String
  locationId : String
  scheduleId : Option String
  userId : Option String
  startTime : Int
  endTime : Int
  role : Option String
  deletedAt : Option Int
  breaks : List BreakRow
  deriving DecidableEq

/-- `LockedSchedule`, as far as a plan needs it. -/
structure LockedSchedule where
  id : String
  locationId : String
  startDate : Int
  endDate : Int
  deriving DecidableEq

/-! ## Reading -/

/-- `orderBy: [{ startTime: 'asc' }, { id: 'asc' }]` of breaks. -/
def breakRowLe (left right : BreakRow) : Prop :=
  left.startTime < right.startTime ∨ left.startTime = right.startTime ∧ left.id ≤ right.id

instance : DecidableRel breakRowLe := fun _ _ => inferInstanceAs (Decidable (_ ∨ _))

/-- A break as the planner sees it. -/
def BreakRow.planned (row : BreakRow) : PlannedBreak := ⟨row.id, row.startTime, row.endTime⟩

/-- The worker of a shift. -/
def userOf (users : List User) (row : ShiftRow) : Option User :=
  row.userId.bind fun id => users.find? (·.id = id)

/-- `plannedShift`. -/
def plannedShift (users : List User) (row : ShiftRow) : PlannedShift where
  internalId := some row.id
  publicId := row.publicId
  userInternalId := row.userId
  userPublicId := (userOf users row).map (·.publicId)
  startTime := row.startTime
  endTime := row.endTime
  role := row.role
  breaks := (row.breaks.insertionSort breakRowLe).map (·.planned)
  sourcePointer := "/saved"

/-- A row that the schedule has now. -/
def ShiftRow.SavedIn (row : ShiftRow) (scheduleId : String) : Prop :=
  row.scheduleId = some scheduleId ∧ row.deletedAt = none

instance (row : ShiftRow) (scheduleId : String) : Decidable (row.SavedIn scheduleId) :=
  inferInstanceAs (Decidable (_ ∧ _))

/-- `orderBy: [{ startTime: 'asc' }, { id: 'asc' }]` of shifts. -/
def shiftRowLe (left right : ShiftRow) : Prop :=
  left.startTime < right.startTime ∨ left.startTime = right.startTime ∧ left.id ≤ right.id

instance : DecidableRel shiftRowLe := fun _ _ => inferInstanceAs (Decidable (_ ∨ _))

/-- `currentRows`, not cut. -/
def currentRows (rows : List ShiftRow) (schedule : LockedSchedule) : List ShiftRow :=
  (rows.filter (·.SavedIn schedule.id)).insertionSort shiftRowLe

/-- The public id of the worker that an operation names. -/
def Operation.requestedUserId : Operation → Option String
  | .create _ userId _ _ _ => userId
  | .update _ userId _ _ _ => userId.join
  | .delete _ => none

/-- `requestedUsers`. -/
def requestedUsers (users : List User) (operations : List Operation) : List User :=
  users.filter fun user =>
    user.publicId ∈ operations.filterMap (·.requestedUserId) ∧ user.deleted = false ∧
      user.suspended = false ∧ (user.role = .manager ∨ user.role = .staff)

/-- `usersByPublicId`. -/
def usersByPublicId (users : List User) (operations : List Operation) :
    Dict String ResolvedUser :=
  Dict.ofPairs ((requestedUsers users operations).map fun user =>
    (user.publicId, ⟨user.id, user.publicId⟩))

/-- `involvedUserIds`. -/
def involvedUserIds (rows : List ShiftRow) (users : List User) (schedule : LockedSchedule)
    (operations : List Operation) : List String :=
  (currentRows rows schedule).filterMap (given ·.userId) ++
    (requestedUsers users operations).map (·.id)

/-- A live row that the schedule does not have. -/
def ShiftRow.Outside (row : ShiftRow) (scheduleId : String) : Prop :=
  (row.scheduleId = none ∨ row.scheduleId ≠ some scheduleId) ∧ row.deletedAt = none

instance (row : ShiftRow) (scheduleId : String) : Decidable (row.Outside scheduleId) :=
  inferInstanceAs (Decidable (_ ∧ _))

/-- A row as the planner sees it from outside, if it has a worker. -/
def ShiftRow.external (row : ShiftRow) : Option ExternalShift :=
  (given row.userId).map fun userId => ⟨row.id, userId, row.startTime, row.endTime⟩

/-- The condition of the query for `externalRows`. -/
def ShiftRow.MayClash (row : ShiftRow) (schedule : LockedSchedule) (userIds : List String) :
    Prop :=
  row.Outside schedule.id ∧ (∃ userId ∈ row.userId, userId ∈ userIds) ∧
    row.startTime < schedule.endDate + dayMs ∧ schedule.startDate < row.endTime

instance (row : ShiftRow) (schedule : LockedSchedule) (userIds : List String) :
    Decidable (row.MayClash schedule userIds) := inferInstanceAs (Decidable (_ ∧ _))

/-- `MAX_SCHEDULE_SHIFTS`. -/
def maxScheduleShifts : Nat := 5000

/-- `MAX_EXTERNAL_SHIFTS`. -/
def maxExternalShifts : Nat := 10000

/-- `externalShifts`. -/
def externalShifts (rows : List ShiftRow) (users : List User) (schedule : LockedSchedule)
    (operations : List Operation) : Except Problem (List ExternalShift) := do
  let userIds := involvedUserIds rows users schedule operations
  let externalRows :=
    if userIds.length > 0 then
      (rows.filter (·.MayClash schedule userIds)).insertionSort shiftRowLe
    else []
  ensure (externalRows.length ≤ maxExternalShifts) ⟨422, "schedule_validation_too_large", []⟩
  .ok (externalRows.filterMap (·.external))

/-- The input of the planner, given the shifts outside of the schedule. -/
def planInput (rows : List ShiftRow) (users : List User) (schedule : LockedSchedule)
    (operations : List Operation) (idFactory : Nat → String)
    (externalShifts : List ExternalShift) : PlanInput where
  scheduleStart := schedule.startDate
  scheduleEnd := schedule.endDate
  currentShifts := (currentRows rows schedule).map (plannedShift users)
  externalShifts := externalShifts
  usersByPublicId := usersByPublicId users operations
  operations := operations
  idFactory := idFactory

/-- The plan of `apply`. -/
def planSaved (locale : Collation) (rows : List ShiftRow) (users : List User)
    (schedule : LockedSchedule) (operations : List Operation) (idFactory : Nat → String) :
    Except Problem ChangeSetPlan := do
  ensure ((currentRows rows schedule).length ≤ maxScheduleShifts) ⟨422, "schedule_too_large", []⟩
  let external ← externalShifts rows users schedule operations
  planScheduleChangeSet locale (planInput rows users schedule operations idFactory external)

/-! ## Writing -/

/-- What the server answers to an error of the database. -/
def databaseError : Problem := ⟨500, "internal_error", []⟩

/-- The problem of an update that finds no row. -/
def concurrentChange : Problem := ⟨409, "concurrent_change", []⟩

/-- `updateMany` of the row with an id, if the schedule has it. -/
def updateRow (rows : List ShiftRow) (scheduleId : String) (id : Option String)
    (change : ShiftRow → ShiftRow) : Except Problem (List ShiftRow) := do
  ensure ((rows.filter fun row => some row.id = id ∧ row.SavedIn scheduleId).length = 1)
    concurrentChange
  .ok (rows.map fun row =>
    if some row.id = id ∧ row.SavedIn scheduleId then change row else row)

/-- A break with the window of a planned one. -/
def BreakRow.placed (row : BreakRow) (item : PlannedBreak) : BreakRow :=
  { row with startTime := item.startTime, endTime := item.endTime }

/-- The shift with one break placed. -/
def ShiftRow.withBreak (row : ShiftRow) (item : PlannedBreak) : ShiftRow :=
  { row with breaks := row.breaks.map fun entry =>
      if entry.id = item.internalId then entry.placed item else entry }

/-- `updateMany` of a break of the shift. -/
def placeBreak (rows : List ShiftRow) (shiftId : Option String) (item : PlannedBreak) :
    Except Problem (List ShiftRow) := do
  ensure (((rows.filter fun row => some row.id = shiftId).flatMap (·.breaks)).countP
      (·.id = item.internalId) = 1) ⟨409, "dependent_break_changed", []⟩
  .ok (rows.map fun row => if some row.id = shiftId then row.withBreak item else row)

/-- The loop over the breaks of an updated shift. -/
def placeBreaks (shiftId : Option String) :
    List ShiftRow → List PlannedBreak → Except Problem (List ShiftRow)
  | rows, [] => .ok rows
  | rows, item :: rest => do
      let placed ← placeBreak rows shiftId item
      placeBreaks shiftId placed rest

/-- The columns that an update writes. -/
def ShiftRow.updated (row : ShiftRow) (after : PlannedShift) : ShiftRow :=
  { row with
    userId := after.userInternalId
    startTime := after.startTime
    endTime := after.endTime
    role := after.role }

/-- The row that a creation inserts. -/
def createdRow (schedule : LockedSchedule) (id : String) (after : PlannedShift) : ShiftRow where
  id := id
  publicId := after.publicId
  locationId := schedule.locationId
  scheduleId := some schedule.id
  userId := after.userInternalId
  startTime := after.startTime
  endTime := after.endTime
  role := after.role
  deletedAt := none
  breaks := []

/-- `applyMutation`.  `newId` is the id of the row that a creation inserts. -/
def applyMutation (schedule : LockedSchedule) (deletedAt : Int) (newId : String)
    (rows : List ShiftRow) : ShiftMutation → Except Problem (List ShiftRow)
  | .delete before =>
      updateRow rows schedule.id before.internalId fun row =>
        { row with deletedAt := some deletedAt }
  | .create after _ => do
      ensure (after.startTime < after.endTime ∧
        ∀ row ∈ rows, row.id ≠ newId ∧ row.publicId ≠ after.publicId) databaseError
      .ok (rows ++ [createdRow schedule newId after])
  | .update before after => do
      let updated ← updateRow rows schedule.id before.internalId (·.updated after)
      ensure (after.startTime < after.endTime) databaseError
      placeBreaks before.internalId updated after.breaks

/-- A loop over mutations, in order.  The n-th gets the n-th new id. -/
def applyMutations (schedule : LockedSchedule) (deletedAt : Int) (newIds : Nat → String) :
    List ShiftRow → List (ShiftMutation × Nat) → Except Problem (List ShiftRow)
  | rows, [] => .ok rows
  | rows, (mutation, n) :: rest => do
      let next ← applyMutation schedule deletedAt (newIds n) rows mutation
      applyMutations schedule deletedAt newIds next rest

/-- `item.kind === 'delete'`. -/
def ShiftMutation.isDelete : ShiftMutation → Bool
  | .delete _ => true
  | .update _ _ => false
  | .create _ _ => false

/-- `item.kind === 'update'`. -/
def ShiftMutation.isUpdate : ShiftMutation → Bool
  | .update _ _ => true
  | .delete _ => false
  | .create _ _ => false

/-- `item.kind === 'create'`. -/
def ShiftMutation.isCreate : ShiftMutation → Bool
  | .create _ _ => true
  | .delete _ => false
  | .update _ _ => false

/-- The mutations of a plan in the order of the service. -/
def executionOrder (mutations : List ShiftMutation) : List ShiftMutation :=
  mutations.filter (·.isDelete) ++ mutations.filter (·.isUpdate) ++ mutations.filter (·.isCreate)

/-- The three loops of `apply`. -/
def applyPlan (schedule : LockedSchedule) (deletedAt : Int) (newIds : Nat → String)
    (rows : List ShiftRow) (plan : ChangeSetPlan) : Except Problem (List ShiftRow) :=
  applyMutations schedule deletedAt newIds rows (executionOrder plan.mutations).zipIdx

end LunchLineup.Scheduling
