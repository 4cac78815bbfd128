import LunchLineup.Idempotency.RequestIdentity
import LunchLineup.Lib.Receipts
import LunchLineup.Payroll.ClockIn
import LunchLineup.Scheduling.ChangeSet
import LunchLineup.Scheduling.Headers

/-!
# The writes on saved schedules

Three services write under an `If-Match` revision and leave their receipts in
`"ScheduleChangeSet"`: change sets, the replacement of the demand windows, and the reopening
of a published schedule.  A new schedule is made under a key of its own, with its receipt in
the audit log, and so is a publication, which the retained API carries out: it names the
revision in the contract that the manager accepted.

Each transaction looks its key up twice, first without a lock and again under the lock of
the tenant's scheduling, which it holds until its end.  So the second look and the writes are
one step here, and the first look is another; between the two anything can happen.  All of
them read at the isolation level `READ COMMITTED`.

* `Surroundings` is what a transaction meets outside of these tables: what becomes of the
  caller's authority and of the entitlement, the workers and locations, the clock, the
  random ids.  It is arbitrary, and new at each step.
* A publication also checks its shifts, its coverage and its costs, pays and enqueues its
  events; what these give is arbitrary too.

Instants are milliseconds, also in responses, where the service writes their ISO texts.  The
rows are those of one tenant.  The audit log has more entries than these receipts; nothing
here reads the others.
-/

namespace LunchLineup.Scheduling

open LunchLineup.Lib LunchLineup.Idempotency
open LunchLineup.Billing (jsTrim jsLength)
open LunchLineup.Breaks (User Location ScheduleStatus)
open LunchLineup.Payroll (given Fate UserRole)

/-! ## Rows -/

/-- A `"Schedule"` row. -/
structure ScheduleRow where
  id : String
  publicId : String
  locationId : String
  startDate : Int
  endDate : Int
  status : ScheduleStatus
  publishedAt : Option Int
  revision : Int
  deleted : Bool
  deriving DecidableEq

/-- A `"ScheduleDemandWindow"` row. -/
structure DemandWindowRow where
  id : String
  publicId : String
  scheduleId : String
  locationId : String
  startTime : Int
  endTime : Int
  requiredStaff : Int
  skill : Option String
  deriving DecidableEq

/-- A break as the board shows it. -/
structure BreakView where
  startTime : Int
  endTime : Int
  paid : Bool
  deriving DecidableEq

/-- The worker of a shift as the board shows it. -/
structure WorkerView where
  id : String
  name : String
  role : UserRole
  deriving DecidableEq

/-- What `serializeShift` gives. -/
structure ShiftView where
  id : String
  userId : Option String
  locationId : String
  scheduleId : String
  startTime : Int
  endTime : Int
  role : Option String
  user : Option WorkerView
  breaks : List BreakView
  deriving DecidableEq

/-- What `serializeSchedule` gives. -/
structure ScheduleView where
  id : String
  locationId : String
  startDate : Int
  endDate : Int
  status : ScheduleStatus
  publishedAt : Option Int
  revision : Int
  etag : String
  deriving DecidableEq

/-- An entry of `serializeWindows`. -/
structure WindowView where
  id : String
  startTime : Int
  endTime : Int
  requiredStaff : Int
  skill : Option String
  deriving DecidableEq

/-- The response of a change set, of a replacement and of a reopening. -/
inductive MutationResponse
  | changeSet (changeSetId scheduleId : String) (baseRevision revision : Int) (etag : String)
      (shifts : List ShiftView) (created : List (Option String × String))
  | demand (data : List WindowView) (changeSetId scheduleId : String)
      (baseRevision revision : Int) (etag : String)
  | reopened (data : ScheduleView)
  deriving DecidableEq

/-- A `"ScheduleChangeSet"` row: a receipt under the hash of the key. -/
structure ChangeSetRow extends Receipt String String MutationResponse where
  id : String
  scheduleId : String
  actorUserId : String
  baseRevision : Int
  resultRevision : Int

/-- The costs of a publication. -/
structure PublishCosts where
  totalConfiguredCost : Int
  scheduleCost : Int
  matchingWebhookDeliveryCount : Int
  matchingWebhookDeliveryUnitCost : Int
  matchingWebhookDeliveryCost : Int
  deriving DecidableEq

/-- `SchedulePublishAcceptedContract`. -/
structure PublishContract where
  version : Int
  costs : PublishCosts
  deriving DecidableEq

/-- The response of a publication; its settlement says what was paid. -/
structure PublicationResponse where
  id : String
  status : ScheduleStatus
  publishedAt : Int
  acceptedContract : PublishContract
  newBalance : Int
  deriving DecidableEq

structure ScheduleTables where
  schedules : List ScheduleRow
  shifts : List ShiftRow
  windows : List DemandWindowRow
  changeSets : List ChangeSetRow
  creations : List (Receipt String String ScheduleView)
  publications : List (Receipt String String PublicationResponse)

/-! ## Calls -/

inductive ScheduleCommand
  | changeSet (body : JsonValue)
  | replaceDemand (body : JsonValue)
  | reopen

/-- A call of `apply`, `replace` or `reopen`. -/
structure ScheduleCall where
  schedulePublicId : String
  command : ScheduleCommand
  ifMatch : Option String
  idempotencyKey : Option String
  actorUserId : String

/-- An entry of the body of a replacement. -/
structure WindowRequest where
  startTime : String
  endTime : String
  requiredStaff : Int
  skill : Option String

/-- The services, with the functions of the runtime that they call.  `operations` and
`windows` read the fields of a body that fits its schema. -/
structure SchedulingService where
  tenantId : String
  sha256 : String → String
  localeCompare : Units → Units → Int
  collation : Collation
  toLowerCase : String → String
  operations : JsonValue → List Operation
  windows : JsonValue → List WindowRequest
  matchesContract : ScheduleCommand → MutationResponse → Bool
  matchesCreation : ScheduleView → Bool
  publicationIntact : PublicationResponse → Bool
  publicationId : String → String → String
  publicationHash : String → PublishContract → String

/-- What a transaction meets. -/
structure Surroundings where
  authority : Except Problem Unit
  entitlement : Except Problem Unit
  users : List User
  locations : List Location
  now : Int
  changeSetId : String
  rowIds : Nat → String
  publicIds : Nat → String

/-! ## Requests -/

/-- The object that `requestHash` is taken of. -/
def ScheduleCall.hashed (call : ScheduleCall) : JsValue :=
  match call.command with
  | .changeSet body =>
      .obj [(unitsOf "schedulePublicId", textValue (unitsOf call.schedulePublicId)),
        (unitsOf "body", body.val)]
  | .replaceDemand body =>
      .obj [(unitsOf "operation", textValue (unitsOf "demand-windows.replace")),
        (unitsOf "schedulePublicId", textValue (unitsOf call.schedulePublicId)),
        (unitsOf "body", body.val)]
  | .reopen =>
      .obj [(unitsOf "operation", textValue (unitsOf "schedule.reopen")),
        (unitsOf "schedulePublicId", textValue (unitsOf call.schedulePublicId))]

/-- The headers and the hashes of a call. -/
structure PreparedCall where
  baseRevision : Int
  keyHash : String
  requestHash : String

/-- The checks before the transaction. -/
def SchedulingService.prepare (service : SchedulingService) (call : ScheduleCall) :
    Except Problem PreparedCall := do
  let baseRevision ← requireScheduleRevision call.ifMatch call.schedulePublicId
  let key ← requireIdempotencyKey call.idempotencyKey
  match requestHash service.sha256 service.localeCompare call.hashed with
  | none => .error databaseError
  | some hash => .ok ⟨baseRevision, service.sha256 key, hash⟩

def keyReused : Problem := ⟨409, "idempotency_key_reused", []⟩

def resultUnavailable : Problem := ⟨409, "idempotency_result_unavailable", []⟩

/-- What the services make of a look-up. -/
def replayed {Response : Type} : Replay Response → Except Problem (Option Response)
  | .fresh => .ok none
  | .recorded response => .ok (some response)
  | .reused => .error keyReused
  | .unavailable => .error resultUnavailable

/-- The receipts of the three services. -/
def ScheduleTables.receipts (tables : ScheduleTables) :
    List (Receipt String String MutationResponse) :=
  tables.changeSets.map (·.toReceipt)

/-- `replay`. -/
def SchedulingService.replay (service : SchedulingService) (tables : ScheduleTables)
    (call : ScheduleCall) (prepared : PreparedCall) : Except Problem (Option MutationResponse) :=
  replayed (lookUp (service.matchesContract call.command) tables.receipts prepared.keyHash
    prepared.requestHash)

/-! ## The schedule -/

/-- The location of a schedule, if it is not deleted. -/
def liveLocation (locations : List Location) (id : String) : Option Location :=
  locations.find? fun location => location.id = id ∧ location.deleted = false

/-- The query that locks the schedule: the first row, with its location. -/
def ScheduleTables.lockSchedule (tables : ScheduleTables) (locations : List Location)
    (publicId : String) : Except Problem (ScheduleRow × Location) :=
  match ((tables.schedules.filter fun row => row.publicId = publicId ∧ row.deleted = false).filterMap
      fun row => (liveLocation locations row.locationId).map fun location => (row, location)).head?
      with
  | none => .error ⟨404, "schedule_not_found", []⟩
  | some found => .ok found

def ScheduleRow.locked (row : ScheduleRow) : LockedSchedule :=
  ⟨row.id, row.locationId, row.startDate, row.endDate⟩

def staleRevision : Problem := ⟨412, "stale_schedule_revision", []⟩

/-- The condition of the update of the schedule. -/
def ScheduleRow.Revisable (row : ScheduleRow) (id : String) (status : ScheduleStatus)
    (revision : Int) : Prop :=
  row.id = id ∧ row.status = status ∧ row.deleted = false ∧ row.revision = revision

instance (row : ScheduleRow) (id : String) (status : ScheduleStatus) (revision : Int) :
    Decidable (row.Revisable id status revision) := inferInstanceAs (Decidable (_ ∧ _))

/-- The row under its next revision: a draft. -/
def ScheduleRow.revised (row : ScheduleRow) : ScheduleRow :=
  { row with revision := row.revision + 1 }

/-- The row after a reopening. -/
def ScheduleRow.reopened (row : ScheduleRow) : ScheduleRow :=
  { row with status := .draft, publishedAt := none, revision := row.revision + 1 }

/-- `updateMany` of the schedule, with the check of its count. -/
def reviseSchedule (schedules : List ScheduleRow) (id : String) (status : ScheduleStatus)
    (revision : Int) (change : ScheduleRow → ScheduleRow) : Except Problem (List ScheduleRow) := do
  ensure ((schedules.filter (·.Revisable id status revision)).length = 1) staleRevision
  .ok (schedules.map fun row => if row.Revisable id status revision then change row else row)

/-- What the three services check of the schedule that they have locked. -/
def ScheduleRow.assertRevision (row : ScheduleRow) (status : ScheduleStatus) (stateProblem : Problem)
    (baseRevision : Int) : Except Problem Unit := do
  ensure (row.status = status) stateProblem
  ensure (row.revision = baseRevision) staleRevision

/-- The receipt of a change. -/
def ScheduleCall.receipt (call : ScheduleCall) (prepared : PreparedCall) (row : ScheduleRow)
    (changeSetId : String) (response : MutationResponse) : ChangeSetRow where
  key := prepared.keyHash
  requestHash := prepared.requestHash
  response := response
  id := changeSetId
  scheduleId := row.id
  actorUserId := call.actorUserId
  baseRevision := prepared.baseRevision
  resultRevision := prepared.baseRevision + 1

/-- The insertion of a receipt, under the unique indexes and the check of the table. -/
def recordChangeSet (changeSets : List ChangeSetRow) (row : ChangeSetRow) :
    Except Problem (List ChangeSetRow) := do
  ensure ((∀ other ∈ changeSets, other.key ≠ row.key ∧ other.id ≠ row.id) ∧
    0 ≤ row.baseRevision ∧ row.resultRevision = row.baseRevision + 1) databaseError
  .ok (changeSets ++ [row])

/-! ## Views -/

/-- `serializeSchedule`. -/
def ScheduleRow.view (row : ScheduleRow) (locationPublicId : String) : ScheduleView where
  id := row.publicId
  locationId := locationPublicId
  startDate := row.startDate
  endDate := row.endDate
  status := row.status
  publishedAt := row.publishedAt
  revision := row.revision
  etag := scheduleEtag row.publicId row.revision

/-- `shift.user.name || 'Unnamed'`. -/
def workerName (user : User) : String := (given (some user.name)).getD "Unnamed"

/-- `serializeShift`. -/
def serializeShift (users : List User) (locationPublicId schedulePublicId : String)
    (row : ShiftRow) : Except Problem ShiftView :=
  match given row.scheduleId with
  | none => .error ⟨500, "invalid_scheduling_record", []⟩
  | some _ => .ok {
      id := row.publicId
      userId := (userOf users row).map (·.publicId)
      locationId := locationPublicId
      scheduleId := schedulePublicId
      startTime := row.startTime
      endTime := row.endTime
      role := row.role
      user := (userOf users row).map fun user => ⟨user.publicId, workerName user, user.role⟩
      breaks := (row.breaks.insertionSort breakRowLe).map fun item =>
        ⟨item.startTime, item.endTime, item.paid⟩ }

def DemandWindowRow.view (row : DemandWindowRow) : WindowView :=
  ⟨row.publicId, row.startTime, row.endTime, row.requiredStaff, row.skill⟩

/-- `orderBy: [{ startTime: 'asc' }, { id: 'asc' }]` of windows. -/
def windowRowLe (left right : DemandWindowRow) : Prop :=
  left.startTime < right.startTime ∨ left.startTime = right.startTime ∧ left.id ≤ right.id

instance : DecidableRel windowRowLe := fun _ _ => inferInstanceAs (Decidable (_ ∨ _))

/-! ## The three changes -/

section Changes

variable (service : SchedulingService) (tables : ScheduleTables) (call : ScheduleCall)
  (prepared : PreparedCall) (around : Surroundings)

/-- `apply`, from the locked schedule on. -/
def SchedulingService.apply (row : ScheduleRow) (location : Location) (body : JsonValue) :
    Except Problem (MutationResponse × ScheduleTables) := do
  row.assertRevision .draft ⟨409, "schedule_locked", []⟩ prepared.baseRevision
  let plan ← planSaved service.collation tables.shifts around.users row.locked
    (service.operations body) around.publicIds
  let shifts ← applyPlan row.locked around.now around.rowIds tables.shifts plan
  let schedules ← reviseSchedule tables.schedules row.id .draft prepared.baseRevision (·.revised)
  let views ← (currentRows shifts row.locked).mapM
    (serializeShift around.users location.publicId row.publicId)
  let revision := prepared.baseRevision + 1
  let response := .changeSet around.changeSetId row.publicId prepared.baseRevision revision
    (scheduleEtag row.publicId revision) views plan.created
  let changeSets ← recordChangeSet tables.changeSets
    (call.receipt prepared row around.changeSetId response)
  .ok (response, { tables with
    schedules := schedules, shifts := shifts, changeSets := changeSets })

/-- The row of an entry of the body of a replacement. -/
def SchedulingService.newWindow (row : ScheduleRow) (item : WindowRequest × Nat) :
    Except Problem DemandWindowRow := do
  let pointer := "/windows/" ++ toString item.2
  let startTime ← parseUtcInstant item.1.startTime (pointer ++ "/startTime")
  let endTime ← parseUtcInstant item.1.endTime (pointer ++ "/endTime")
  ensure (startTime < endTime)
    (.at 422 "invalid_demand_window" (pointer ++ "/endTime") "invalid_window")
  ensure (row.startDate ≤ startTime ∧ startTime < row.endDate ∧ endTime - startTime ≤ dayMs)
    (.at 422 "demand_outside_schedule" pointer "outside_schedule")
  .ok {
    id := around.rowIds item.2
    publicId := around.publicIds item.2
    scheduleId := row.id
    locationId := row.locationId
    startTime := startTime
    endTime := endTime
    requiredStaff := item.1.requiredStaff
    skill := given (item.1.skill.map fun skill => service.toLowerCase (jsTrim skill)) }

/-- The windows of a schedule. -/
def DemandWindowRow.Of (window : DemandWindowRow) (row : ScheduleRow) : Prop :=
  window.scheduleId = row.id ∧ window.locationId = row.locationId

instance (window : DemandWindowRow) (row : ScheduleRow) : Decidable (window.Of row) :=
  inferInstanceAs (Decidable (_ ∧ _))

/-- `createMany`, under the unique indexes and the checks of the table. -/
def insertWindows (windows new : List DemandWindowRow) : Except Problem (List DemandWindowRow) := do
  ensure (((windows ++ new).map (·.id)).Nodup ∧ ((windows ++ new).map (·.publicId)).Nodup ∧
    ∀ window ∈ new, 0 < window.requiredStaff ∧ window.startTime < window.endTime) databaseError
  .ok (windows ++ new)

/-- `replace`, from the locked schedule on. -/
def SchedulingService.replace (row : ScheduleRow) (body : JsonValue) :
    Except Problem (MutationResponse × ScheduleTables) := do
  row.assertRevision .draft ⟨409, "schedule_locked", []⟩ prepared.baseRevision
  let new ← (service.windows body).zipIdx.mapM (service.newWindow around row)
  let windows ← insertWindows (tables.windows.filter fun window => ¬ window.Of row) new
  let schedules ← reviseSchedule tables.schedules row.id .draft prepared.baseRevision (·.revised)
  let saved := (windows.filter (·.Of row)).insertionSort windowRowLe
  let revision := prepared.baseRevision + 1
  let response := .demand (saved.map (·.view)) around.changeSetId row.publicId
    prepared.baseRevision revision (scheduleEtag row.publicId revision)
  let changeSets ← recordChangeSet tables.changeSets
    (call.receipt prepared row around.changeSetId response)
  .ok (response, { tables with
    schedules := schedules, windows := windows, changeSets := changeSets })

/-- `reopen`, from the locked schedule on. -/
def ScheduleTables.reopen (row : ScheduleRow) (location : Location) :
    Except Problem (MutationResponse × ScheduleTables) := do
  row.assertRevision .published ⟨409, "schedule_not_published", []⟩ prepared.baseRevision
  let schedules ← reviseSchedule tables.schedules row.id .published prepared.baseRevision
    (·.reopened)
  let response := .reopened ({ row.reopened with revision := prepared.baseRevision + 1 }.view
    location.publicId)
  let changeSets ← recordChangeSet tables.changeSets
    (call.receipt prepared row around.changeSetId response)
  .ok (response, { tables with schedules := schedules, changeSets := changeSets })

/-- The transaction from the lock on. -/
def SchedulingService.mutate : Except Problem (MutationResponse × ScheduleTables) := do
  let prepared ← service.prepare call
  around.authority
  around.entitlement
  match ← service.replay tables call prepared with
  | some response => .ok (response, tables)
  | none => do
      let found ← tables.lockSchedule around.locations call.schedulePublicId
      match call.command with
      | .changeSet body => service.apply tables call prepared around found.1 found.2 body
      | .replaceDemand body => service.replace tables call prepared around found.1 body
      | .reopen => tables.reopen call prepared around found.1 found.2

/-- The transaction up to its first look. -/
def SchedulingService.look : Except Problem (Option MutationResponse) := do
  let prepared ← service.prepare call
  around.authority
  service.replay tables call prepared

end Changes

/-! ## Creation -/

/-- A call of `create`. -/
structure CreateCall where
  locationPublicId : String
  startDate : String
  endDate : String
  idempotencyKey : Option String

def CreateCall.hashed (call : CreateCall) : JsValue :=
  .obj [(unitsOf "locationPublicId", textValue (unitsOf call.locationPublicId)),
    (unitsOf "body", .obj [(unitsOf "startDate", textValue (unitsOf call.startDate)),
      (unitsOf "endDate", textValue (unitsOf call.endDate))])]

/-- The window and the hashes of a creation. -/
structure PreparedCreation where
  operationId : String
  requestHash : String
  startDate : Int
  endDate : Int

/-- `MAX_SCHEDULE_WINDOW_MS`. -/
def maxScheduleWindowMs : Int := 31 * 24 * 60 * 60 * 1000

def SchedulingService.prepareCreation (service : SchedulingService) (call : CreateCall) :
    Except Problem PreparedCreation := do
  let key ← requireIdempotencyKey call.idempotencyKey
  let operationId := service.sha256 (service.tenantId ++ ":api_v2_schedule_create:" ++ key)
  match requestHash service.sha256 service.localeCompare call.hashed with
  | none => .error databaseError
  | some hash => do
      let startDate ← parseUtcInstant call.startDate "/startDate"
      let endDate ← parseUtcInstant call.endDate "/endDate"
      ensure (startDate < endDate ∧ endDate - startDate ≤ maxScheduleWindowMs)
        ⟨422, "invalid_schedule_window", []⟩
      .ok ⟨operationId, hash, startDate, endDate⟩

/-- A live schedule of the location that runs in the window. -/
def ScheduleRow.Meets (row : ScheduleRow) (locationId : String) (startDate endDate : Int) : Prop :=
  row.locationId = locationId ∧ row.deleted = false ∧
    Overlap row.startDate row.endDate startDate endDate

instance (row : ScheduleRow) (locationId : String) (startDate endDate : Int) :
    Decidable (row.Meets locationId startDate endDate) := inferInstanceAs (Decidable (_ ∧ _))

section Creation

variable (service : SchedulingService) (tables : ScheduleTables) (around : Surroundings)

def newSchedule (locationId : String) (prepared : PreparedCreation) : ScheduleRow where
  id := around.rowIds 0
  publicId := around.publicIds 0
  locationId := locationId
  startDate := prepared.startDate
  endDate := prepared.endDate
  status := .draft
  publishedAt := none
  revision := 0
  deleted := false

/-- The row that a creation answers with: a draft of the same window, or a new one.  The
query for the overlap has no order; the table has at most one row that it can mean. -/
def createRow (locationId : String) (prepared : PreparedCreation) :
    Except Problem (ScheduleRow × List ScheduleRow) :=
  match tables.schedules.find? (·.Meets locationId prepared.startDate prepared.endDate) with
  | some overlap =>
      if overlap.status = .draft ∧ overlap.startDate = prepared.startDate ∧
          overlap.endDate = prepared.endDate then
        .ok (overlap, tables.schedules)
      else .error ⟨409, "schedule_window_conflict", []⟩
  | none => do
      let row := newSchedule around locationId prepared
      ensure (∀ other ∈ tables.schedules, other.id ≠ row.id ∧ other.publicId ≠ row.publicId)
        databaseError
      .ok (row, tables.schedules ++ [row])

/-- `create` from the lock on. -/
def SchedulingService.create (call : CreateCall) :
    Except Problem (ScheduleView × ScheduleTables) := do
  let prepared ← service.prepareCreation call
  around.authority
  around.entitlement
  match ← replayed (lookUp service.matchesCreation tables.creations prepared.operationId
      prepared.requestHash) with
  | some response => .ok (response, tables)
  | none =>
      match around.locations.find? fun location =>
          location.publicId = call.locationPublicId ∧ location.deleted = false with
      | none => .error ⟨404, "location_not_found", []⟩
      | some location => do
          let (row, schedules) ← createRow tables around location.id prepared
          let response := row.view location.publicId
          .ok (response, { tables with
            schedules := schedules
            creations := tables.creations ++
              [⟨prepared.operationId, prepared.requestHash, response⟩] })

end Creation

/-! ## Publication -/

/-- A call of `publish`, with the internal id of the schedule. -/
structure PublishCall where
  scheduleId : String
  acceptedContract : PublishContract
  idempotencyKey : String

/-- What the other parts of a publication give: the entitlement, the checks of jobs, shifts,
coverage and hours, the costs of now, and the balance after the payment. -/
structure PublishSurroundings where
  entitlement : Except Problem Unit
  locations : List Location
  readiness : Except Problem Unit
  costs : Except Problem PublishCosts
  payment : Except Problem Int
  now : Int

/-- `normalizeSchedulePublishIdempotencyKey`. -/
def publicationKey (value : String) : Except Problem String := do
  let key := jsTrim value
  ensure (key ≠ "" ∧ jsLength key ≤ 255 ∧
    key.toList.all (fun c => 0x20 ≤ c.toNat && c.toNat ≤ 0x7e) = true) ⟨400, "", []⟩
  .ok key

def publishConflict : Problem := ⟨409, "", []⟩

/-- `findSchedulePublishReplay`. -/
def SchedulingService.replayPublication (service : SchedulingService) (tables : ScheduleTables)
    (call : PublishCall) (key : String) : Except Problem (Option PublicationResponse) :=
  (replayed (lookUp service.publicationIntact tables.publications
    (service.publicationId call.scheduleId key)
    (service.publicationHash call.scheduleId call.acceptedContract))).mapError fun _ =>
      publishConflict

/-- The row after a publication. -/
def ScheduleRow.published (row : ScheduleRow) (now : Int) : ScheduleRow :=
  { row with status := .published, publishedAt := some now }

/-- The condition of the update to `PUBLISHED`. -/
def ScheduleRow.Publishable (row : ScheduleRow) (id : String) : Prop :=
  row.id = id ∧ row.status = .draft ∧ row.deleted = false

instance (row : ScheduleRow) (id : String) : Decidable (row.Publishable id) :=
  inferInstanceAs (Decidable (_ ∧ _))

/-- `lockDraftScheduleForPublish`. -/
def ScheduleTables.lockDraft (tables : ScheduleTables) (locations : List Location) (id : String) :
    Except Problem ScheduleRow :=
  match tables.schedules.find? fun row => row.id = id ∧ row.deleted = false ∧
      (liveLocation locations row.locationId).isSome with
  | none => .error ⟨404, "", []⟩
  | some row => do
      ensure (row.status = .draft) ⟨400, "", []⟩
      .ok row

/-- `publish` from the lock on. -/
def SchedulingService.publish (service : SchedulingService) (tables : ScheduleTables)
    (call : PublishCall) (around : PublishSurroundings) :
    Except Problem (PublicationResponse × ScheduleTables) := do
  let key ← publicationKey call.idempotencyKey
  around.entitlement
  match ← service.replayPublication tables call key with
  | some response => .ok (response, tables)
  | none => do
      let row ← tables.lockDraft around.locations call.scheduleId
      around.readiness
      let costs ← around.costs
      ensure (call.acceptedContract = ⟨row.revision, costs⟩) publishConflict
      let newBalance ← around.payment
      ensure ((tables.schedules.filter (·.Publishable call.scheduleId)).length ≠ 0) ⟨404, "", []⟩
      let response : PublicationResponse :=
        ⟨call.scheduleId, .published, around.now, call.acceptedContract, newBalance⟩
      .ok (response, { tables with
        schedules := tables.schedules.map fun other =>
          if other.Publishable call.scheduleId then other.published around.now else other
        publications := tables.publications ++ [⟨service.publicationId call.scheduleId key,
          service.publicationHash call.scheduleId call.acceptedContract, response⟩] })

/-- The first look of a publication. -/
def SchedulingService.lookPublication (service : SchedulingService) (tables : ScheduleTables)
    (call : PublishCall) : Except Problem (Option PublicationResponse) := do
  let key ← publicationKey call.idempotencyKey
  service.replayPublication tables call key

/-! ## Runs -/

/-- What can happen: the first look of a transaction and the rest of it, by any client and in
any order.  A call that is retried looks again. -/
inductive ScheduleEvent
  | look (call : ScheduleCall) (around : Surroundings)
  | mutate (call : ScheduleCall) (around : Surroundings) (fate : Fate)
  | create (call : CreateCall) (around : Surroundings) (fate : Fate)
  | lookPublication (call : PublishCall)
  | publish (call : PublishCall) (around : PublishSurroundings) (fate : Fate)

/-- What a client learns. -/
inductive ScheduleAnswer
  | mutation (response : MutationResponse)
  | created (response : ScheduleView)
  | published (response : PublicationResponse)
  | refused (problem : Problem)
  | lost
  | other
  deriving DecidableEq

/-- How a transaction ends. -/
def settled {Response : Type} (tables : ScheduleTables) (answer : Response → ScheduleAnswer)
    (fate : Fate) : Except Problem (Response × ScheduleTables) → ScheduleAnswer × ScheduleTables
  | .error problem => (.refused problem, tables)
  | .ok (response, next) =>
      match fate with
      | .acknowledged => (answer response, next)
      | .unacknowledged => (.lost, next)
      | .rolledBack => (.lost, tables)

/-- What a first look answers. -/
def looked {Response : Type} (answer : Response → ScheduleAnswer) :
    Except Problem (Option Response) → ScheduleAnswer
  | .error problem => .refused problem
  | .ok none => .other
  | .ok (some response) => answer response

def SchedulingService.step (service : SchedulingService) (tables : ScheduleTables) :
    ScheduleEvent → ScheduleAnswer × ScheduleTables
  | .look call around => (looked .mutation (service.look tables call around), tables)
  | .mutate call around fate => settled tables .mutation fate (service.mutate tables call around)
  | .create call around fate => settled tables .created fate (service.create tables around call)
  | .lookPublication call => (looked .published (service.lookPublication tables call), tables)
  | .publish call around fate => settled tables .published fate (service.publish tables call around)

end LunchLineup.Scheduling
