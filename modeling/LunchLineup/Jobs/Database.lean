import LunchLineup.Billing.LedgerInvariant
import LunchLineup.Worker.Payload

/-!
# The tables around a schedule solve job

A `"ScheduleSolveJob"` row carries the state of one paid solve: its status, the
execution token and lease of the worker that runs it, the metadata of the
credits it consumed and the state of its publication to the queue.  Around it
stand the wallet and its ledger, the schedule with its shifts and breaks, and
the rows a solve is checked against.  Columns that no modelled statement reads
or writes (the queue payload, the snapshots, the request keys) are left out.
-/

namespace LunchLineup.Jobs

open LunchLineup.Lib LunchLineup.Python LunchLineup.Billing LunchLineup.Worker

/-! ## Rows -/

/-- The values that `"ScheduleSolveJob_status_check"` admits. -/
inductive JobStatus
  | queued
  | running
  | retrying
  | succeeded
  | failed
  | deadLettered
  deriving DecidableEq

/-- `SCHEDULE_JOB_TERMINAL_STATUSES`. -/
def JobStatus.terminal : JobStatus → Bool
  | .succeeded => true
  | .failed => true
  | .deadLettered => true
  | _ => false

/-- The terminal statuses whose credits are refunded. -/
def JobStatus.refunded : JobStatus → Bool
  | .failed => true
  | .deadLettered => true
  | _ => false

theorem JobStatus.refunded_of_live {status : JobStatus} (hlive : status.terminal = false) :
    status.refunded = false := by
  cases status
  all_goals first | rfl | cases hlive

/-- The values that `"ScheduleSolveJob_publicationStatus_check"` admits. -/
inductive PublicationStatus
  | pending
  | publishing
  | published
  | failed
  deriving DecidableEq

/-- A `"ScheduleSolveJob"` row. -/
structure ScheduleSolveJob where
  tenantId : String
  scheduleId : String
  locationId : String
  status : JobStatus
  statusReason : Option String
  retryCount : Int
  resultShiftCount : Option Int
  creditConsumption : PyValue
  publicationStatus : PublicationStatus
  publishAttempts : Int
  publishLeaseUntil : Option Int
  publishedAt : Option Int
  publishLastError : Option String
  executionToken : Option String
  executionLeaseUntil : Option Int
  startedAt : Option Int
  completedAt : Option Int
  updatedAt : Int

/-- `ScheduleStatus`. -/
inductive ScheduleStatus
  | draft
  | published
  | archived
  deriving DecidableEq

/-- A `"Schedule"` row. -/
structure Schedule where
  tenantId : String
  locationId : String
  status : ScheduleStatus
  revision : Int
  deletedAt : Option Int
  updatedAt : Int
  deriving DecidableEq

/-- A `"Location"` row. -/
structure Location where
  tenantId : String
  timezone : String
  deletedAt : Option Int
  deriving DecidableEq

/-- `UserRole`. -/
inductive UserRole
  | superAdmin
  | admin
  | manager
  | staff
  deriving DecidableEq

/-- A `"User"` row. -/
structure User where
  tenantId : String
  role : UserRole
  deletedAt : Option Int
  suspendedAt : Option Int
  deriving DecidableEq

/-- A `"Shift"` row. -/
structure Shift where
  tenantId : String
  locationId : String
  scheduleId : Option String
  userId : Option String
  startTime : Int
  endTime : Int
  role : Option String
  createdAt : Int
  updatedAt : Int
  deletedAt : Option Int
  deriving DecidableEq

/-- A `"Break"` row. -/
structure Break where
  shiftId : String
  breakType : String
  startTime : Int
  endTime : Int
  paid : Bool
  createdAt : Int
  deriving DecidableEq

/-- The subscription columns of a `"Tenant"` row. -/
structure Subscription where
  status : String
  planTier : String
  stripeSubscriptionId : Option String
  currentPeriodEnd : Option Int
  deriving DecidableEq

/-- The tables, by primary key. -/
structure Database where
  billing : Store
  subscriptions : Dict String Subscription
  jobs : Dict String ScheduleSolveJob
  schedules : Dict String Schedule
  locations : Dict String Location
  users : Dict String User
  shifts : Dict String Shift
  breaks : Dict String Break

/-- Why a transaction was rolled back. -/
inductive JobError
  | retryable (message : String)
  | nonRetryable (message : String)
  | provenance (message : String)
  | ownershipLost (message : String)
  | unsupported (message : String)
  | publication (message : String)
  deriving DecidableEq

/-! ## Reads -/

/-- The deterministic id of a job's debit. -/
def debitId (jobId : String) : String := "schedule-credit-" ++ jobId

/-- The deterministic id of a job's refund. -/
def refundId (jobId : String) : String := "schedule-credit-refund-" ++ jobId

/-- The reason of a job's debit. -/
def debitReason (jobId : String) : String := "Schedule generation (" ++ jobId ++ ")"

/-- The reason of a job's refund. -/
def refundReason (jobId : String) : String := "Schedule generation refund (" ++ jobId ++ ")"

namespace Database

variable (db : Database)

/-- The job row with an id, locked `FOR UPDATE`, if it matches the identity of
a solve. -/
def lockedJob (jobId tenantId scheduleId locationId : String) : Option ScheduleSolveJob :=
  (Dict.get? db.jobs jobId).filter fun job =>
    job.tenantId = tenantId && job.scheduleId = scheduleId && job.locationId = locationId

/-- The ledger rows with an id that a session can see. -/
def creditRows (platformAdmin : Bool) (tenantId id : String) : List CreditTransaction :=
  db.billing.ledger.filter fun row =>
    row.id = id && (platformAdmin || row.tenantId = tenantId)

/-- `lock_scheduling_tenant_state` followed by
`require_active_paid_scheduling_tenant`. -/
def hasActivePaidTenant (tenantId : String) (now : Int) : Bool :=
  match Dict.get? db.subscriptions tenantId with
  | none => false
  | some tenant =>
      tenant.status = "ACTIVE" && tenant.planTier ≠ "FREE" &&
        strip (tenant.stripeSubscriptionId.getD "") ≠ "" &&
        (tenant.currentPeriodEnd.any fun periodEnd => now < periodEnd)

end Database

/-! ## Writes -/

/-- `scrub_terminal_schedule_solve_payload`, the trigger of every update of a
job row. -/
def ScheduleSolveJob.scrub (job : ScheduleSolveJob) : ScheduleSolveJob :=
  if job.status.terminal then
    { job with
      publishLeaseUntil := none
      publishLastError := none
      executionToken := none
      executionLeaseUntil := none }
  else job

/-- `UPDATE "ScheduleSolveJob"` of one row, with its trigger and checks. -/
def Database.updateJob (db : Database) (jobId : String) (job : ScheduleSolveJob)
    (refusal : JobError) : Except JobError Database := do
  let row := job.scrub
  ensure (row.executionToken.isSome = row.executionLeaseUntil.isSome) refusal
  ensure (∀ token ∈ row.executionToken, 32 ≤ token.length ∧ token.length ≤ 64) refusal
  ensure (0 ≤ row.retryCount ∧ ∀ count ∈ row.resultShiftCount, 0 ≤ count) refusal
  .ok { db with jobs := Dict.set db.jobs jobId row }

/-- Run a statement of the wallet inside a job's transaction. -/
def withRefusal {α : Type} (refusal : JobError) : Except BillingError α → Except JobError α
  | .ok value => .ok value
  | .error _ => .error refusal

@[simp] theorem scrub_status (job : ScheduleSolveJob) : job.scrub.status = job.status := by
  unfold ScheduleSolveJob.scrub
  split <;> rfl

/-- An accepted update writes the scrubbed row and nothing else. -/
theorem updateJob_ok {db after : Database} {jobId : String} {job : ScheduleSolveJob}
    {refusal : JobError} (h : db.updateJob jobId job refusal = .ok after) :
    after = { db with jobs := Dict.set db.jobs jobId job.scrub } := by
  simp only [Database.updateJob, bind_eq_ok, ensure_eq_ok, Except.ok.injEq] at h
  obtain ⟨_, _, _, _, _, _, rfl⟩ := h
  rfl

theorem withRefusal_ok {α : Type} {refusal : JobError} {x : Except BillingError α} {value : α}
    (h : withRefusal refusal x = .ok value) : x = .ok value := by
  cases x with
  | error error => cases h
  | ok result => simpa [withRefusal] using h

end LunchLineup.Jobs
