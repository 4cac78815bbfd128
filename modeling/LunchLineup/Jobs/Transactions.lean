import LunchLineup.Jobs.Database

/-!
# The transactions on a schedule solve job

Each function is one database transaction of the worker or of the API's
publisher, run at the time `now` of its `CURRENT_TIMESTAMP`: it returns an
answer and the next tables, or an error and then nothing was written.

* `claimScheduleSolveJob` takes the job for a worker under a fresh token;
* `persistSolvedSchedule` writes the solved shifts and completes the job;
* `updateScheduleSolveJobStatus` reports a retry or a failure, by the holder of
  the token or without one;
* `terminalizeScheduleSolveJobById` gives up on a job known by its id only;
* `terminalizeFailedPublication` gives up on a job that could not be queued.

The last three refund the job's credits through `settlePositiveCreditValue`.
-/

namespace LunchLineup.Jobs

open LunchLineup.Lib LunchLineup.Python LunchLineup.Billing LunchLineup.Worker

/-- What the deployment fixes: the lease of a claim in seconds
(`SCHEDULE_SOLVE_EXECUTION_LEASE_SECONDS`), the control characters of the
database's locale and the order of `ORDER BY id` under its collation. -/
structure Deployment where
  leaseSeconds : Int
  isControl : Char → Bool
  orderById : List (String × Shift) → List (String × Shift)

/-! ## Credit provenance -/

/-- The consumed credits and the balance after them, if the metadata of a job
is well formed.  The worker's checks and the SQL expression
`"configuredAmount"` accept the same values. -/
def creditReservation (creditConsumption : PyValue) : Option (Int × Int) :=
  match creditConsumption with
  | .dict entries =>
      match getValue entries "source", getValue entries "consumedCredits",
        getValue entries "newBalance" with
      | .str source, .int consumedCredits, .int newBalance =>
          if (∀ key ∈ Dict.keys entries, key ∈ ["source", "consumedCredits", "newBalance"]) ∧
              source = "credits" ∧ 0 < consumedCredits ∧
              consumedCredits ≤ maxStoredCreditBalance ∧ 0 ≤ newBalance ∧
              newBalance ≤ maxStoredCreditBalance ∧
              consumedCredits ≤ maxStoredCreditBalance - newBalance then
            some (consumedCredits, newBalance)
          else none
      | _, _, _ => none
  | _ => none

/-- A number that `Number.isSafeInteger` accepts, far from the limits of that
test. -/
def jsInteger : PyValue → Option Int
  | .int value => some value
  | .float value => if value.den = 1 then some value.num else none
  | _ => none

/-- `parseCreditConsumption` of the API, which also reads `5.0` as `5`. -/
def parseCreditConsumption (creditConsumption : PyValue) : Option (Int × Int) :=
  match creditConsumption with
  | .dict entries =>
      match getValue entries "source", jsInteger (getValue entries "consumedCredits"),
        jsInteger (getValue entries "newBalance") with
      | .str source, some consumedCredits, some newBalance =>
          if (∀ key ∈ Dict.keys entries, key ∈ ["source", "consumedCredits", "newBalance"]) ∧
              source = "credits" ∧ 0 < consumedCredits ∧
              consumedCredits ≤ maxStoredCreditBalance ∧ 0 ≤ newBalance ∧
              newBalance ≤ maxStoredCreditBalance ∧
              consumedCredits ≤ maxStoredCreditBalance - newBalance then
            some (consumedCredits, newBalance)
          else none
      | _, _, _ => none
  | _ => none

/-- The aggregates a transaction reads of the ledger rows with one id. -/
structure CreditSummary where
  count : Nat
  tenantId : Option String
  amount : Option Int
  reason : Option String
  balanceAfter : Option Int
  deriving DecidableEq

/-- Summarise the rows with one id; `amount` reads the amount of the only row. -/
def summarize (amount : CreditTransaction → Option Int) (rows : List CreditTransaction) :
    CreditSummary :=
  match rows with
  | [row] => ⟨1, some row.tenantId, amount row, some row.reason, row.balanceAfter⟩
  | rows => ⟨rows.length, none, none, none, none⟩

/-- `CASE WHEN "debtAmount" = 0 AND "debtAfter" = 0 THEN "amount" END`. -/
def debtFreeAmount (row : CreditTransaction) : Option Int :=
  if row.debtAmount = 0 ∧ row.debtAfter = some 0 then some row.amount else none

/-- The value a positive settlement restored: what became spendable and what
repaid debt. -/
def refundedValue (row : CreditTransaction) : Option Int :=
  if 0 ≤ row.amount ∧ row.debtAmount ≤ 0 ∧ row.debtAfter.any (0 ≤ ·) then
    some (row.amount - row.debtAmount)
  else none

/-- `_assert_schedule_credit_provenance`. -/
def assertScheduleCreditProvenance (status : JobStatus) (creditConsumption : PyValue)
    (tenantId jobId : String) (debit refund : CreditSummary) (error : String → JobError) :
    Except JobError (Int × Int) :=
  match creditReservation creditConsumption with
  | none => .error (error "schedule solve paid credit reservation metadata is invalid")
  | some (consumedCredits, newBalance) => do
      ensure (debit = ⟨1, some tenantId, some (-consumedCredits), some (debitReason jobId),
          some newBalance⟩)
        (error "schedule solve paid credit reservation debit provenance is invalid")
      if status.refunded then
        ensure (refund.count = 1 ∧ refund.tenantId = some tenantId ∧
            refund.amount = some consumedCredits ∧ refund.reason = some (refundReason jobId) ∧
            refund.balanceAfter.any (0 ≤ ·) = true)
          (error "schedule solve refund provenance is invalid")
      else
        ensure (refund.count = 0)
          (error "schedule solve debit and deterministic refund cannot coexist")
      .ok (consumedCredits, newBalance)

/-! ## Claim -/

/-- What a worker learns from a claim. -/
inductive ClaimResult
  | claimed
  | terminal
  | busy
  deriving DecidableEq

/-- `_claim_schedule_solve_job_sync`. -/
def claimScheduleSolveJob (deployment : Deployment) (now : Int) (db : Database)
    (payload : SolvePayload) (jobId : String) (retryCount : Int) (executionToken : String) :
    Except JobError (ClaimResult × Database) :=
  match db.lockedJob jobId payload.tenantId payload.scheduleId payload.locationId with
  | none => .error (.nonRetryable "schedule solve job not found")
  | some job => do
      let _ ← assertScheduleCreditProvenance job.status job.creditConsumption payload.tenantId
        jobId
        (summarize debtFreeAmount (db.creditRows false payload.tenantId (debitId jobId)))
        (summarize refundedValue (db.creditRows false payload.tenantId (refundId jobId)))
        .provenance
      if job.status.terminal then .ok (.terminal, db)
      else
        ensure (db.hasActivePaidTenant payload.tenantId now = true)
          (.nonRetryable "tenant does not have an active paid subscription for schedule solving")
        if job.status = .running ∧ job.executionLeaseUntil.any (now < ·) ∧
            job.executionToken.getD "" ≠ executionToken then
          .ok (.busy, db)
        else
          let next ← db.updateJob jobId { job with
            status := .running
            statusReason := none
            retryCount := retryCount
            executionToken := some executionToken
            executionLeaseUntil := some (now + deployment.leaseSeconds * 1000000)
            startedAt := some (job.startedAt.getD now)
            completedAt := none
            updatedAt := now } (.retryable "failed to claim schedule solve job")
          .ok (.claimed, next)

/-! ## Persist -/

/-- The staff of a payload with an active, schedulable `"User"` row. -/
def knownStaff (db : Database) (payload : SolvePayload) : List String :=
  payload.staffIds.filter fun staffId =>
    (Dict.get? db.users staffId).any fun user =>
      user.tenantId = payload.tenantId && user.deletedAt.isNone && user.suspendedAt.isNone &&
        user.role ∈ [UserRole.manager, UserRole.staff]

/-- The live shifts of a payload's schedule. -/
def draftShifts (deployment : Deployment) (db : Database) (payload : SolvePayload) :
    List (String × Shift) :=
  deployment.orderById <| db.shifts.filter fun entry =>
    entry.2.tenantId = payload.tenantId && entry.2.scheduleId = some payload.scheduleId &&
      entry.2.deletedAt.isNone

/-- The order of `(id, revision key)` pairs. -/
def snapshotLe (first second : String × Int) : Prop :=
  first.1 < second.1 ∨ (first.1 = second.1 ∧ first.2 ≤ second.2)

instance : DecidableRel snapshotLe := fun _ _ => inferInstanceAs (Decidable (_ ∨ _))

/-- `revision_key(entry.updated_at)` of every entry of the payload's snapshot. -/
def expectedSnapshot (rt : Runtime) (payload : SolvePayload) :
    Except String (List (String × Int)) := do
  let entries ← payload.inputShiftSnapshot.mapM fun entry => do
    let updatedAt ← parseIsoDatetime rt entry.updatedAt "revision" true
    .ok (entry.id, updatedAt)
  .ok (entries.insertionSort snapshotLe)

/-- `UPDATE "Shift" SET "deletedAt" = now()` of the shifts that the solve drops. -/
def retireShifts (now : Int) (stale : List String) (shifts : Dict String Shift) :
    Dict String Shift :=
  shifts.map fun entry =>
    if entry.1 ∈ stale then (entry.1, { entry.2 with deletedAt := some now, updatedAt := now })
    else entry

/-- `INSERT INTO "Shift" ... ON CONFLICT ("id") DO UPDATE`. -/
def upsertShift (now : Int) (payload : SolvePayload) (shifts : Dict String Shift)
    (solved : NormalizedShift) : Dict String Shift :=
  Dict.set shifts solved.id {
    tenantId := payload.tenantId
    locationId := payload.locationId
    scheduleId := some payload.scheduleId
    userId := some solved.staffId
    startTime := solved.startTime
    endTime := solved.endTime
    role := some solved.role
    createdAt := ((Dict.get? shifts solved.id).map Shift.createdAt).getD now
    updatedAt := now
    deletedAt := none }

/-- `INSERT INTO "Break" ... ON CONFLICT ("id") DO UPDATE`. -/
def upsertBreak (now : Int) (shiftId : String) (breaks : Dict String Break)
    (solved : NormalizedBreak) : Dict String Break :=
  Dict.set breaks solved.id {
    shiftId := shiftId
    breakType := solved.breakType
    startTime := solved.startTime
    endTime := solved.endTime
    paid := solved.paid
    createdAt := ((Dict.get? breaks solved.id).map Break.createdAt).getD now }

/-- Replace the live shifts of the schedule by the solved ones. -/
def writeSolvedShifts (now : Int) (payload : SolvePayload) (existing : List (String × Shift))
    (solvedShifts : List NormalizedShift) (db : Database) : Database :=
  let target := solvedShifts.map NormalizedShift.id
  let stale := (existing.map Prod.fst).filter fun shiftId => shiftId ∉ target
  let breaks := db.breaks.filter fun entry =>
    entry.2.shiftId ∉ stale ∧ entry.2.shiftId ∉ target
  { db with
    shifts := solvedShifts.foldl (upsertShift now payload) (retireShifts now stale db.shifts)
    breaks := solvedShifts.foldl
      (fun breaks solved => solved.breaks.foldl (upsertBreak now solved.id) breaks) breaks }

/-- `UPDATE "Schedule" SET "revision" = "revision" + 1`. -/
def bumpRevision (now : Int) (scheduleId : String) (schedule : Schedule) (db : Database) :
    Database :=
  let revised := { schedule with revision := schedule.revision + 1, updatedAt := now }
  { db with schedules := Dict.set db.schedules scheduleId revised }

/-- What `_persist_solved_schedule_sync` did when it returned. -/
inductive PersistResult
  | persisted
  | alreadySucceeded
  deriving DecidableEq

/-- `_persist_solved_schedule_sync`. -/
def persistSolvedSchedule (rt : Runtime) (deployment : Deployment) (now : Int) (db : Database)
    (payload : SolvePayload) (solvedShifts : List NormalizedShift) (jobId : String)
    (retryCount : Int) (executionToken : Option String) :
    Except JobError (PersistResult × Database) := do
  ensure (jobId ≠ "") (.nonRetryable "schedule solve job id is required for atomic persistence")
  ensure (db.hasActivePaidTenant payload.tenantId now = true)
    (.nonRetryable "tenant does not have an active paid subscription for schedule solving")
  match Dict.get? db.locations payload.locationId with
  | none => .error (.nonRetryable "location is not active for this tenant")
  | some location =>
      ensure (location.tenantId = payload.tenantId ∧ location.deletedAt = none)
        (.nonRetryable "location is not active for this tenant")
      ensure (location.timezone = payload.timezone)
        (.nonRetryable "location timezone changed after the solve job was queued")
      match Dict.get? db.schedules payload.scheduleId with
      | none => .error (.nonRetryable "schedule is not available for this tenant")
      | some schedule =>
          ensure (schedule.tenantId = payload.tenantId ∧
              schedule.locationId = payload.locationId ∧ schedule.deletedAt = none)
            (.nonRetryable "schedule is not available for this tenant")
          ensure (schedule.status = .draft)
            (.nonRetryable "only draft schedules can receive solved shifts")
          ensure (schedule.revision = payload.draftRevision)
            (.nonRetryable "draft changed after the solve job was queued")
          match db.lockedJob jobId payload.tenantId payload.scheduleId payload.locationId with
          | none => .error (.nonRetryable "schedule solve job not found")
          | some job => do
              let _ ← assertScheduleCreditProvenance job.status job.creditConsumption
                payload.tenantId jobId
                (summarize debtFreeAmount (db.creditRows false payload.tenantId (debitId jobId)))
                (summarize refundedValue (db.creditRows false payload.tenantId (refundId jobId)))
                .nonRetryable
              if job.status = .succeeded then .ok (.alreadySucceeded, db)
              else
                ensure (job.status.refunded = false)
                  (.nonRetryable "schedule solve job is already terminal")
                ensure (executionToken.getD "" ≠ "" ∧ job.executionToken = executionToken)
                  (.ownershipLost "schedule solve execution ownership was lost")
                ensure (∀ staffId ∈ payload.staffIds, staffId ∈ knownStaff db payload)
                  (.nonRetryable "solve response includes staff outside the tenant")
                let existing := draftShifts deployment db payload
                match expectedSnapshot rt payload with
                | .error _ => .error (.retryable "failed to persist solved schedule")
                | .ok expected => do
                    ensure (existing.map (fun entry => (entry.1, entry.2.updatedAt)) = expected)
                      (.nonRetryable "draft shifts changed after the solve job was queued")
                    ensure (∀ solved ∈ solvedShifts, solved.staffId ∈ knownStaff db payload)
                      (.nonRetryable "solve response includes staff outside the tenant")
                    let written := bumpRevision now payload.scheduleId schedule
                      (writeSolvedShifts now payload existing solvedShifts db)
                    let next ← written.updateJob jobId { job with
                      status := .succeeded
                      statusReason := none
                      retryCount := retryCount
                      resultShiftCount := some solvedShifts.length
                      executionToken := none
                      executionLeaseUntil := none
                      completedAt := some now
                      updatedAt := now } (.retryable "failed to persist solved schedule")
                    .ok (.persisted, next)

/-! ## Status reports and refunds -/

/-- `INTERNAL_JOB_STATUS_REASON`. -/
def internalJobStatusReason : String := "WORKER_FAILURE_INTERNAL_ERROR"

/-- `JOB_STATUS_REASON_BY_FAILURE_CLASS.values()`. -/
def jobStatusReasons : List String :=
  ["WORKER_FAILURE_DATABASE_CONFIGURATION", "WORKER_FAILURE_DATABASE_CONNECTIVITY",
    "WORKER_FAILURE_DATABASE_OPERATION", "WORKER_FAILURE_MESSAGE_BROKER_CONNECTIVITY",
    "WORKER_FAILURE_SCHEDULING_ENGINE_RPC", "WORKER_FAILURE_DEPENDENCY_TIMEOUT",
    "WORKER_FAILURE_DEPENDENCY_CONNECTIVITY", "WORKER_FAILURE_RUNTIME_DEPENDENCY_MISSING",
    "WORKER_FAILURE_INVALID_RUNTIME_INPUT", "WORKER_FAILURE_RETRYABLE_JOB",
    "WORKER_FAILURE_NON_RETRYABLE_JOB", "WORKER_FAILURE_JOB_BUSY",
    "WORKER_FAILURE_JOB_OWNERSHIP_LOST", internalJobStatusReason]

/-- `normalize_job_status_reason`. -/
def normalizeJobStatusReason (reason : Option String) : String :=
  match reason with
  | some text => if text ∈ jobStatusReasons then text else internalJobStatusReason
  | none => internalJobStatusReason

/-- The guard of an update by the holder of a token, or without a token. -/
def holdsExecution (now : Int) (job : ScheduleSolveJob) (executionToken : Option String) : Bool :=
  match executionToken with
  | none => job.executionToken.isNone || job.executionLeaseUntil.any (· ≤ now)
  | some token => job.executionToken = some token

/-- `valid_provenance`: the amount of the job's debit, if the debit is exact and
nothing was refunded. -/
def validProvenance (job : ScheduleSolveJob) (jobId : String)
    (debitRows refundRows : List CreditTransaction) : Option Int :=
  match debitRows, creditReservation job.creditConsumption with
  | [debit], some (configuredAmount, newBalance) =>
      if debit.tenantId = job.tenantId ∧ debit.amount = -configuredAmount ∧
          debit.debtAmount = 0 ∧ debit.debtAfter = some 0 ∧ debit.reason = debitReason jobId ∧
          debit.balanceAfter = some newBalance ∧ refundRows = [] then
        some debit.amount
      else none
  | _, _ => none

/-- The statement of `_terminalize_schedule_solve_job_with_refund` up to its
result: the settlement of the refund, if the job row was updated. -/
def terminalizeStatement (deployment : Deployment) (db : Database) (platformAdmin : Bool)
    (jobId : String) (job terminalized : ScheduleSolveJob) (guard : Bool)
    (debitAmount : Option Int) (refusal : JobError) :
    Except JobError (Option PositiveCreditSettlement × Database) :=
  match debitAmount with
  | none => .ok (none, db)
  | some amount =>
      if job.status.terminal = false ∧ guard then do
        let updated ← db.updateJob jobId terminalized refusal
        let (settlement, billing) ← withRefusal refusal
          (settlePositiveCreditValue deployment.isControl updated.billing platformAdmin {
            tenantId := some job.tenantId
            value := some (-amount)
            reason := some (refundReason jobId)
            transactionId := some (refundId jobId) })
        .ok (some settlement, { updated with billing := billing })
      else .ok (none, db)

/-- `_assert_schedule_refund_outcome`. -/
def assertScheduleRefundOutcome (job : ScheduleSolveJob) (tenantId jobId : String)
    (debitRows refundRows : List CreditTransaction)
    (settlement : Option PositiveCreditSettlement) : Except JobError Unit := do
  let (consumedCredits, _) ← assertScheduleCreditProvenance job.status job.creditConsumption
    tenantId jobId (summarize (fun row => some row.amount) debitRows)
    (summarize refundedValue refundRows) .retryable
  if job.status.terminal then .ok ()
  else
    match settlement with
    | none => .error (.ownershipLost "schedule solve job execution ownership changed")
    | some settled => do
        ensure (settled.replayed = false) (.retryable "schedule solve refund settlement failed")
        ensure (settled.creditedValue = consumedCredits ∧ 0 ≤ settled.newBalance)
          (.retryable "schedule solve refund settlement balance is invalid")

/-- `_terminalize_schedule_solve_job_with_refund`. -/
def terminalizeScheduleSolveJobWithRefund (deployment : Deployment) (now : Int) (db : Database)
    (platformAdmin : Bool) (tenantId scheduleId locationId jobId : String) (status : JobStatus)
    (safeReason : Option String) (retryCount : Int) (resultShiftCount : Option Int)
    (executionToken : Option String) (refusal : JobError) : Except JobError Database :=
  match db.lockedJob jobId tenantId scheduleId locationId with
  | none => .error (.ownershipLost "schedule solve job no longer exists")
  | some job => do
      let debitRows := db.creditRows platformAdmin tenantId (debitId jobId)
      let refundRows := db.creditRows platformAdmin tenantId (refundId jobId)
      let (settlement, next) ← terminalizeStatement deployment db platformAdmin jobId job
        { job with
          status := status
          statusReason := safeReason
          retryCount := retryCount
          resultShiftCount := resultShiftCount
          executionToken := none
          executionLeaseUntil := none
          completedAt := some now
          updatedAt := now }
        (holdsExecution now job executionToken)
        (validProvenance job jobId debitRows refundRows) refusal
      assertScheduleRefundOutcome job tenantId jobId debitRows refundRows settlement
      .ok next

/-- `_terminalize_schedule_solve_job_by_id_sync`. -/
def terminalizeScheduleSolveJobById (deployment : Deployment) (now : Int) (db : Database)
    (jobId : String) (status : JobStatus) (reason : String) (retryCount : Int) :
    Except JobError Database := do
  ensure (status.refunded = true) (.unsupported "unsupported terminal schedule solve job status")
  match Dict.get? db.jobs jobId with
  | none => .error (.ownershipLost "schedule solve job no longer exists")
  | some job =>
      terminalizeScheduleSolveJobWithRefund deployment now db true job.tenantId job.scheduleId
        job.locationId jobId status (some (normalizeJobStatusReason (some reason))) retryCount
        none none (.retryable "failed to authoritatively terminalize schedule solve job")

/-- `_update_schedule_solve_job_status_sync`. -/
def updateScheduleSolveJobStatus (deployment : Deployment) (now : Int) (db : Database)
    (payload : SolvePayload) (jobId : String) (status : JobStatus) (reason : Option String)
    (retryCount : Int) (resultShiftCount : Option Int) (executionToken : Option String) :
    Except JobError Database := do
  ensure (status ∈ [JobStatus.retrying, .succeeded, .failed, .deadLettered])
    (.unsupported "unsupported schedule solve job status")
  let safeReason :=
    if status = .succeeded then none else some (normalizeJobStatusReason reason)
  if status.refunded then
    terminalizeScheduleSolveJobWithRefund deployment now db false payload.tenantId
      payload.scheduleId payload.locationId jobId status safeReason retryCount resultShiftCount
      executionToken (.retryable "failed to update schedule solve job status")
  else
    match Dict.get? db.jobs jobId with
    | none => .ok db
    | some job =>
        if job.tenantId = payload.tenantId ∧ job.scheduleId = payload.scheduleId ∧
            job.status.terminal = false ∧ holdsExecution now job executionToken then
          -- a retry is published again by the worker itself, a success is not
          db.updateJob jobId { job with
            status := status
            statusReason := safeReason
            retryCount := retryCount
            resultShiftCount := resultShiftCount
            executionToken := none
            executionLeaseUntil := none
            completedAt := if status.terminal then some now else none
            publicationStatus := if status = .retrying then .published else job.publicationStatus
            publishedAt := if status = .retrying then some now else job.publishedAt
            publishLeaseUntil := if status = .retrying then none else job.publishLeaseUntil
            publishLastError := if status = .retrying then none else job.publishLastError
            updatedAt := now } (.retryable "failed to update schedule solve job status")
        else .ok db

/-! ## The publisher -/

/-- The columns of a job that `claim` handed to the publisher. -/
structure ClaimedScheduleSolvePublication where
  id : String
  tenantId : String
  publishAttempts : Int
  deriving DecidableEq

/-- `text.slice(0, limit)`, in UTF-16 code units. -/
def jsSlice (limit : Nat) (text : String) : String :=
  String.ofList ((text.toList.inits.filter fun chars =>
    jsLength (String.ofList chars) ≤ limit).getLastD [])

/-- `assertScheduleSolveCreditProvenance` of the API.  It reads the debt columns
of both rows, and not the balance. -/
def assertScheduleSolveCreditProvenance (status : JobStatus) (creditConsumption : PyValue)
    (tenantId jobId : String) (debitRows refundRows : List CreditTransaction) :
    Except JobError (Int × Int) :=
  match parseCreditConsumption creditConsumption with
  | none => .error (.publication "Schedule solve credit metadata is invalid.")
  | some (consumedCredits, newBalance) => do
      let debit := summarize debtFreeAmount debitRows
      let refund := summarize refundedValue refundRows
      ensure (debit.count = 1 ∧ debit.tenantId = some tenantId ∧
          debit.amount = some (-consumedCredits) ∧ debit.reason = some (debitReason jobId))
        (.publication "Schedule solve debit provenance is invalid.")
      if status.refunded then
        ensure (refund.count = 1 ∧ refund.tenantId = some tenantId ∧
            refund.amount = some consumedCredits ∧ refund.reason = some (refundReason jobId))
          (.publication "Schedule solve refund provenance is invalid.")
      else
        ensure (refund.count = 0)
          (.publication
            "Schedule solve debit and deterministic refund cannot coexist for this status.")
      .ok (consumedCredits, newBalance)

/-- `assertScheduleRefundOutcome` of the publisher. -/
def assertPublicationRefundOutcome (now : Int) (job : ScheduleSolveJob)
    (publication : ClaimedScheduleSolvePublication)
    (debitRows refundRows : List CreditTransaction)
    (settlement : Option PositiveCreditSettlement) : Except JobError Unit := do
  let (_, newBalance) ← assertScheduleSolveCreditProvenance job.status job.creditConsumption
    publication.tenantId publication.id debitRows refundRows
  ensure ((summarize debtFreeAmount debitRows).balanceAfter = some newBalance)
    (.publication "Schedule solve debit settlement balance is invalid.")
  ensure (refundRows.length = 1 →
      (summarize refundedValue refundRows).balanceAfter.any (0 ≤ ·) = true)
    (.publication "Schedule solve refund settlement balance is invalid.")
  if job.status.terminal then .ok ()
  else if job.executionToken.isSome ∧ job.executionLeaseUntil.any (now < ·) then .ok ()
  else
    match settlement with
    | none => .error (.publication "Schedule solve refund job ownership was lost.")
    | some settled =>
        ensure (settled.replayed = false ∧ 0 ≤ settled.newBalance)
          (.publication "Schedule solve refund settlement failed.")

/-- `terminalizeFailedPublication`. -/
def terminalizeFailedPublication (deployment : Deployment) (now : Int) (db : Database)
    (publication : ClaimedScheduleSolvePublication) (message : String) :
    Except JobError Database :=
  match (Dict.get? db.jobs publication.id).filter fun job =>
      job.tenantId = publication.tenantId with
  | none => .error (.publication "Schedule solve refund job ownership was lost.")
  | some job => do
      let debitRows := db.creditRows false publication.tenantId (debitId publication.id)
      let refundRows := db.creditRows false publication.tenantId (refundId publication.id)
      let unleased := job.executionToken.isNone || job.executionLeaseUntil.any (· ≤ now)
      let (settlement, next) ← terminalizeStatement deployment db false publication.id job
        { job with
          status := .failed
          statusReason := some (jsSlice 512
            ("Schedule solve could not be published after " ++
              toString publication.publishAttempts ++ " attempts: " ++ message))
          publicationStatus := .failed
          publishLeaseUntil := none
          publishLastError := some message
          completedAt := some now
          updatedAt := now }
        (job.publicationStatus = .publishing &&
          job.publishAttempts = publication.publishAttempts && unleased)
        (if unleased then validProvenance job publication.id debitRows refundRows else none)
        (.publication "Schedule solve refund settlement failed.")
      assertPublicationRefundOutcome now job publication debitRows refundRows settlement
      .ok next

end LunchLineup.Jobs
