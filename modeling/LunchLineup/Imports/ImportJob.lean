import LunchLineup.Jobs.Transactions

/-!
# An availability import and its transactions

An `"AvailabilityImportJob"` row stands for a paid reading of one PDF document.
Each function here is one transaction of the worker on it:

* `claimImport` takes the job for a worker under its token and a lease;
* `completeImport` stores the parsed availability and erases the document;
* `markRetrying` hands the job back;
* `terminalizeImport` gives up and refunds the debit;
* `cleanupSource` and `eraseOwnedImportSource` erase the document;
* `eraseHardExpired`, `clearErasedKey` and `eraseRetained` belong to the retention
  sweep, which also terminalizes expired jobs.

Reads before the row lock may be stale, so what they saw is an argument.  The
decryption and parsing of the document, its file on the local disk and the
columns of the publisher are left out.
-/

namespace LunchLineup.Imports

open LunchLineup.Lib LunchLineup.Python LunchLineup.Billing LunchLineup.Jobs

/-! ## The row -/

/-- `AvailabilityImportStatus`. -/
inductive ImportStatus
  | pending
  | queued
  | running
  | retrying
  | succeeded
  | failed
  | deadLettered
  | cancelled
  deriving DecidableEq

/-- `TERMINAL_STATUSES`. -/
def ImportStatus.terminal : ImportStatus → Bool
  | .succeeded => true
  | .failed => true
  | .deadLettered => true
  | .cancelled => true
  | _ => false

/-- The statuses that `terminalize_import` accepts. -/
def ImportStatus.refunded : ImportStatus → Bool
  | .failed => true
  | .deadLettered => true
  | _ => false

/-- An `"AvailabilityImportJob"` row; `creditConsumption` is the parsed JSON. -/
structure ImportJob where
  id : String
  tenantId : String
  userId : String
  requestHash : String
  targetIdentityHash : String
  status : ImportStatus
  storageKey : Option String
  encryptedSourcePayload : Option (List UInt8)
  parsedAvailability : Option String
  resultErasedAt : Option Int
  failureCode : Option String
  creditConsumption : PyValue
  attempts : Int
  executionToken : Option String
  executionLeaseUntil : Option Int
  startedAt : Option Int
  completedAt : Option Int
  expiresAt : Int
  createdAt : Int

/-- `"AvailabilityImportJob_result_lifecycle_check"`. -/
def ImportJob.ResultLifecycle (job : ImportJob) : Prop :=
  match job.status with
  | .succeeded => job.parsedAvailability.isSome = job.resultErasedAt.isNone
  | .failed | .deadLettered | .cancelled =>
      job.parsedAvailability = none ∧ job.resultErasedAt.isSome = true
  | _ => job.parsedAvailability = none ∧ job.resultErasedAt = none

instance (job : ImportJob) : Decidable job.ResultLifecycle := by
  unfold ImportJob.ResultLifecycle
  split <;> infer_instance

/-- The checks on the columns of a row. -/
def ImportJob.Valid (job : ImportJob) : Prop :=
  (0 ≤ job.attempts ∧ job.attempts ≤ 10) ∧ job.ResultLifecycle ∧
    job.status.terminal = job.completedAt.isSome ∧
    (job.status.terminal = true → job.storageKey = none ∧ job.encryptedSourcePayload = none) ∧
    ∀ erased ∈ job.resultErasedAt, ∀ completed ∈ job.completedAt, completed ≤ erased

instance (job : ImportJob) : Decidable job.Valid := inferInstanceAs (Decidable (_ ∧ _))

/-! ## Identifiers -/

/-- `feature-usage-availability-import:<id>`. -/
def debitId (importId : String) : String := "feature-usage-availability-import:" ++ importId

/-- `feature-refund-availability-import:<id>`. -/
def refundId (importId : String) : String := "feature-refund-availability-import:" ++ importId

/-- The reason of the debit. -/
def debitReason (importId : String) : String := "Availability PDF import (" ++ importId ++ ")"

/-- The reason of the refund. -/
def refundReason (importId : String) : String :=
  "Availability PDF import refund (" ++ importId ++ ")"

/-! ## States, messages and errors -/

/-- The job, the wallets with their ledger, and whether some worker has returned
from a settling call and goes on to `cleanup_source`. -/
structure ImportState where
  job : ImportJob
  billing : Store
  cleaning : Bool

/-- `ImportPayload`. -/
structure ImportPayload where
  importId : String
  tenantId : String

/-- What a transaction finds besides the job: the time, the tenant row, whether the
target is an active user, and whether the trigger
`tr_enforce_availability_import_final_handoff` lets a running or succeeded job pass. -/
structure Surroundings where
  now : Int
  tenant : Option Subscription
  activeTarget : Bool
  handoff : Bool

/-- Why a transaction was rolled back. -/
inductive ImportError
  | rejected (message : String)
  | busy (message : String)
  | invalid (message : String)
  | database (constraint : String)
  deriving DecidableEq

/-- A retry count as a message carries it, at most `MAX_RETRIES`. -/
abbrev RetryCount (maximumRetries : Nat) := {count : Nat // count ≤ maximumRetries}

/-! ## Reads -/

/-- `LockedImportState`. -/
structure LockedImportState where
  job : ImportJob
  leaseActive : Option Bool
  unexpired : Bool
  debit : CreditSummary
  refund : CreditSummary

namespace ImportState

variable (st : ImportState)

/-- The ledger rows with an id that the tenant's session sees. -/
def creditRows (id : String) : List CreditTransaction :=
  st.billing.ledger.filter fun row => row.id = id && row.tenantId = st.job.tenantId

/-- The payload names the job. -/
def Names (payload : ImportPayload) : Prop :=
  st.job.id = payload.importId ∧ st.job.tenantId = payload.tenantId

instance (payload : ImportPayload) : Decidable (st.Names payload) :=
  inferInstanceAs (Decidable (_ ∧ _))

/-- `_lock_job`. -/
def lockJob (payload : ImportPayload) (now : Int) : Option LockedImportState :=
  if st.Names payload then
    some {
      job := st.job
      leaseActive := st.job.executionLeaseUntil.map fun leaseUntil => decide (now < leaseUntil)
      unexpired := now < st.job.expiresAt
      debit := summarize debtFreeAmount (st.creditRows (debitId st.job.id))
      refund := summarize refundedValue (st.creditRows (refundId st.job.id)) }
  else none

end ImportState

/-- `_tenant_is_paid_active`. -/
def tenantIsPaidActive (env : Surroundings) : Bool :=
  env.tenant.any fun tenant =>
    tenant.status = "ACTIVE" && (strip tenant.planTier).toUpper ≠ "FREE" &&
      strip (tenant.stripeSubscriptionId.getD "") ≠ "" &&
      tenant.currentPeriodEnd.any fun periodEnd => env.now < periodEnd

/-- `_consumed_credits`. -/
def consumedCredits (creditConsumption : PyValue) : Int :=
  match creditConsumption with
  | .dict entries =>
      match getValue entries "consumedCredits" with
      | .int consumed => if consumed ≤ 0 then 0 else consumed
      | _ => 0
  | _ => 0

/-- `_settlement_new_balance`. -/
def settlementNewBalance (creditConsumption : PyValue) : Option Int :=
  match creditConsumption with
  | .dict entries =>
      match getValue entries "newBalance" with
      | .int balance => if 0 ≤ balance then some balance else none
      | _ => none
  | _ => none

namespace LockedImportState

variable (state : LockedImportState)

/-- `_debit_is_exact`. -/
def DebitIsExact : Prop :=
  0 < consumedCredits state.job.creditConsumption ∧
    (settlementNewBalance state.job.creditConsumption).isSome = true ∧ state.debit.count = 1 ∧
    state.debit.tenantId.isSome = true ∧
    state.debit.amount = some (-consumedCredits state.job.creditConsumption) ∧
    state.debit.reason.isSome = true ∧
    state.debit.balanceAfter = settlementNewBalance state.job.creditConsumption

instance : Decidable state.DebitIsExact := inferInstanceAs (Decidable (_ ∧ _))

/-- `_has_paid_credit_reservation`. -/
def HasPaidCreditReservation (payload : ImportPayload) : Prop :=
  state.DebitIsExact ∧ state.debit.tenantId = some payload.tenantId ∧
    state.debit.reason = some (debitReason payload.importId) ∧ state.refund.count = 0

instance (payload : ImportPayload) : Decidable (state.HasPaidCreditReservation payload) :=
  inferInstanceAs (Decidable (_ ∧ _))

/-- `_authoritative_refund_amount`. -/
def authoritativeRefundAmount (payload : ImportPayload) (requireExisting : Bool) :
    Except ImportError Int := do
  ensure (state.DebitIsExact ∧ state.debit.tenantId = some payload.tenantId ∧
      state.debit.reason = some (debitReason payload.importId))
    (.rejected "availability import debit provenance check failed")
  match state.debit.amount with
  | none => .error (.rejected "availability import debit provenance check failed")
  | some debitAmount => do
      let refundAmount := -debitAmount
      ensure (if requireExisting then
          state.refund.count = 1 ∧ state.refund.tenantId = some payload.tenantId ∧
            state.refund.amount = some refundAmount ∧
            state.refund.reason = some (refundReason payload.importId) ∧
            state.refund.balanceAfter.any (0 ≤ ·) = true
          else state.refund.count = 0)
        (.rejected "availability import refund provenance check failed")
      .ok refundAmount

/-- `_expected_source_identity_hash`: envelopes from version 3 on are bound to the
request. -/
def expectedSourceIdentityHash : String :=
  match state.job.encryptedSourcePayload with
  | some (76 :: 76 :: 65 :: 73 :: version :: _) =>
      if 3 ≤ version then state.job.requestHash else state.job.targetIdentityHash
  | _ => state.job.targetIdentityHash

end LockedImportState

/-- `HASH_RE`. -/
def isHash (text : String) : Bool :=
  text.toList.length == 64 &&
    text.toList.all fun c => ('0' ≤ c && c ≤ '9') || ('a' ≤ c && c ≤ 'f')

/-! ## Writes -/

/-- `UPDATE "AvailabilityImportJob"` of the row, with its trigger, which looks at the
statements that write the status, and its checks. -/
def ImportState.updateJob (st : ImportState) (env : Surroundings) (writesStatus : Bool)
    (row : ImportJob) : Except ImportError ImportState := do
  ensure (writesStatus = true → (row.status = .running ∨ row.status = .succeeded) →
      env.handoff = true)
    (.database "tr_enforce_availability_import_final_handoff")
  ensure row.Valid (.database "AvailabilityImportJob_checks")
  .ok { st with job := row }

/-- The condition on token and lease in the updates of `mark_retrying` and
`erase_owned_import_source`. -/
def ImportJob.OwnedBy (job : ImportJob) (token : Option String) (now : Int) : Prop :=
  match token with
  | none =>
      job.executionToken = none ∨ ∃ leaseUntil ∈ job.executionLeaseUntil, leaseUntil ≤ now
  | some token => job.executionToken = some token

instance (job : ImportJob) (token : Option String) (now : Int) :
    Decidable (job.OwnedBy token now) := by
  unfold ImportJob.OwnedBy
  split <;> infer_instance

/-- `owns_retry_handoff`, on what was read. -/
def ownsRetryHandoff (token executionToken : Option String) (leaseActive : Option Bool) : Bool :=
  match token with
  | none => executionToken = none || leaseActive = some false
  | some token => executionToken = some token

/-! ## Claim -/

/-- The lease of a claim: 60 seconds. -/
def leaseMs : Int := 60000

/-- `claim_import`.  `preview` is what `_preview_job_owner` read, and the answer
whether the job was claimed; it is not where it is terminal. -/
def claimImport (maximumRetries : Nat) (st : ImportState) (payload : ImportPayload)
    (preview : Option (ImportStatus × String)) (env : Surroundings) (retryCount : Nat)
    (token : String) : Except ImportError (Bool × ImportState) :=
  match preview with
  | none => .error (.rejected "availability import not found or expired")
  | some (previewStatus, previewUserId) =>
      match st.lockJob payload env.now with
      | none => .error (.rejected "availability import ownership changed")
      | some state =>
          if previewStatus.terminal = true ∧ state.job.status.terminal = true then .ok (false, st)
          else do
            ensure (state.job.userId = previewUserId)
              (.rejected "availability import ownership changed")
            if state.job.status.terminal = true then .ok (false, st)
            else do
              ensure (state.unexpired = true) (.rejected "availability import not found or expired")
              ensure (env.activeTarget = true)
                (.rejected "availability import target is not active")
              ensure (tenantIsPaidActive env = true)
                (.rejected "availability import requires an active paid subscription")
              ensure (state.HasPaidCreditReservation payload)
                (.rejected "availability import is missing its paid credit reservation")
              ensure (¬ (state.leaseActive = some true ∧ state.job.executionToken ≠ some token))
                (.busy "availability import already has an active execution owner")
              ensure (state.job.attempts < (maximumRetries : Int) + 1)
                (.rejected "availability import exhausted its durable retry budget")
              let effectiveRetryCount := max (retryCount : Int) state.job.attempts
              let st ← st.updateJob env true { state.job with
                status := .running
                attempts := effectiveRetryCount + 1
                executionToken := some token
                executionLeaseUntil := some (env.now + leaseMs)
                startedAt := some (state.job.startedAt.getD env.now)
                failureCode := none }
              .ok (true, st)

/-! ## Completion -/

/-- `complete_import`. -/
def completeImport (st : ImportState) (payload : ImportPayload)
    (preview : Option (ImportStatus × String)) (env : Surroundings) (token : String)
    (sourceIdentityHash availability : String) : Except ImportError ImportState :=
  match preview with
  | none => .error (.rejected "availability import no longer exists")
  | some (_, previewUserId) =>
      match st.lockJob payload env.now with
      | none => .error (.rejected "availability import ownership changed")
      | some state => do
          ensure (state.job.userId = previewUserId)
            (.rejected "availability import ownership changed")
          ensure (state.job.status = .running ∧ state.job.executionToken = some token)
            (.rejected "availability import execution ownership changed")
          ensure (state.unexpired = true)
            (.rejected "availability import expired before completion")
          ensure (env.activeTarget = true) (.rejected "availability import target is not active")
          ensure (tenantIsPaidActive env = true)
            (.rejected "availability import requires an active paid subscription")
          ensure (isHash sourceIdentityHash = true ∧
              sourceIdentityHash = state.expectedSourceIdentityHash)
            (.rejected "availability import target identity did not match the document")
          ensure (state.HasPaidCreditReservation payload)
            (.rejected "availability import is missing its paid credit reservation")
          let st ← st.updateJob env true { state.job with
            status := .succeeded
            parsedAvailability := some availability
            storageKey := none
            encryptedSourcePayload := none
            resultErasedAt := none
            failureCode := none
            executionToken := none
            executionLeaseUntil := none
            completedAt := some env.now }
          .ok { st with cleaning := true }

/-! ## Retry -/

/-- What `mark_retrying` reads first, without a lock. -/
structure SeenOwner where
  status : ImportStatus
  executionToken : Option String
  leaseActive : Option Bool

/-- `mark_retrying`. -/
def markRetrying (st : ImportState) (payload : ImportPayload) (seen : Option SeenOwner)
    (env : Surroundings) (token : Option String) (retryCount : Nat) :
    Except ImportError ImportState :=
  match seen with
  | none => .ok st
  | some owner =>
      if owner.status.terminal = true then .ok st
      else do
        ensure (ownsRetryHandoff token owner.executionToken owner.leaseActive = true)
          (.busy "availability import already has an active execution owner")
        ensure (st.Names payload ∧ st.job.status.terminal = false ∧ st.job.OwnedBy token env.now)
          (.busy "availability import retry ownership changed")
        st.updateJob env true { st.job with
          status := .retrying
          attempts := max st.job.attempts (retryCount : Int)
          executionToken := none
          executionLeaseUntil := none
          failureCode := some "TRANSIENT_FAILURE" }

/-! ## Terminal settlement -/

/-- `owns_execution` of `terminalize_import`. -/
def LockedImportState.ownsExecution (state : LockedImportState) (token : Option String) : Bool :=
  match token with
  | none => state.job.executionToken = none || state.leaseActive = some false ||
      (state.leaseActive = none && !state.unexpired)
  | some token => state.job.executionToken = some token

/-- The condition on token and lease in the update of `terminalize_import`. -/
def ImportJob.TerminalizedBy (job : ImportJob) (token : Option String) (now : Int) : Prop :=
  job.OwnedBy token now ∨
    (token = none ∧ job.executionLeaseUntil = none ∧ job.expiresAt ≤ now)

instance (job : ImportJob) (token : Option String) (now : Int) :
    Decidable (job.TerminalizedBy token now) := inferInstanceAs (Decidable (_ ∨ _))

/-- `terminalize_import`. -/
def terminalizeImport (isControl : Char → Bool) (st : ImportState) (payload : ImportPayload)
    (env : Surroundings) (token : Option String) (status : ImportStatus) (failureCode : String) :
    Except ImportError ImportState := do
  ensure (status.refunded = true) (.invalid "invalid terminal availability import status")
  match st.lockJob payload env.now with
  | none => .ok st
  | some state =>
      if state.job.status.terminal = true then do
        if state.job.status.refunded = true then
          let _ ← state.authoritativeRefundAmount payload true
          .ok { st with cleaning := true }
        else .ok { st with cleaning := true }
      else do
        ensure (state.ownsExecution token = true)
          (.rejected "availability import execution ownership changed")
        let refundAmount ← state.authoritativeRefundAmount payload false
        let (settlement, billing) ← (settlePositiveCreditValue isControl st.billing false
          ⟨some payload.tenantId, some refundAmount, some (refundReason payload.importId),
            some (refundId payload.importId)⟩).mapError fun _ => .database "settle"
        ensure (settlement.creditedValue = refundAmount ∧ 0 ≤ settlement.spendableAmount ∧
            0 ≤ settlement.repaidDebt ∧
            settlement.spendableAmount + settlement.repaidDebt = refundAmount ∧
            0 ≤ settlement.newBalance ∧ 0 ≤ settlement.debtAfter ∧ settlement.replayed = false)
          (.rejected "availability import refund settlement conflicted")
        ensure (st.job.TerminalizedBy token env.now)
          (.rejected "availability import execution ownership changed")
        let st ← st.updateJob env true { st.job with
          status := status
          parsedAvailability := none
          resultErasedAt := some env.now
          failureCode := some failureCode
          storageKey := none
          encryptedSourcePayload := none
          executionToken := none
          executionLeaseUntil := none
          completedAt := some env.now }
        .ok { st with billing := billing, cleaning := true }

/-! ## Erasure -/

/-- The row without its document. -/
def ImportJob.withoutSource (job : ImportJob) : ImportJob :=
  { job with storageKey := none, encryptedSourcePayload := none }

/-- The update of `cleanup_source`, which a worker reaches after a settling call. -/
def cleanupSource (st : ImportState) (payload : ImportPayload) (env : Surroundings) :
    Except ImportError ImportState :=
  if st.cleaning = true ∧ st.Names payload then st.updateJob env false st.job.withoutSource
  else .ok st

/-- `erase_owned_import_source`. -/
def eraseOwnedImportSource (st : ImportState) (payload : ImportPayload) (env : Surroundings)
    (token : Option String) : Except ImportError ImportState :=
  if st.Names payload ∧ (st.job.status.terminal = true ∨ st.job.OwnedBy token env.now) then
    st.updateJob env false { st.job.withoutSource with
      resultErasedAt := some (st.job.resultErasedAt.getD env.now) }
  else .ok st

/-! ## The retention sweep -/

/-- `INTERVAL '24 hours'`. -/
def retentionMs : Int := 86400000

/-- The first statement of `_erase_hard_expired_import_source`. -/
def eraseHardExpired (st : ImportState) (payload : ImportPayload) (env : Surroundings) :
    Except ImportError ImportState :=
  if st.Names payload ∧ st.job.createdAt ≤ env.now - retentionMs ∧
      (st.job.storageKey.isSome = true ∨ st.job.encryptedSourcePayload.isSome = true) then
    st.updateJob env false { st.job with encryptedSourcePayload := none }
  else .ok st

/-- The second statement of `_erase_hard_expired_import_source`, once the file with the
key it read is gone. -/
def clearErasedKey (st : ImportState) (payload : ImportPayload) (env : Surroundings)
    (storageKey : String) : Except ImportError ImportState := do
  ensure (st.Names payload ∧ st.job.createdAt ≤ env.now - retentionMs ∧
      st.job.storageKey = some storageKey)
    (.busy "availability source changed before its erased pointer could be cleared")
  st.updateJob env false { st.job with storageKey := none }

/-- The row is terminal for a day. -/
def ImportJob.Retained (job : ImportJob) (now : Int) : Prop :=
  ∃ completedAt ∈ job.completedAt, completedAt ≤ now - retentionMs

instance (job : ImportJob) (now : Int) : Decidable (job.Retained now) :=
  inferInstanceAs (Decidable (∃ completedAt ∈ job.completedAt, _))

/-- `_erase_retained_import_source`. -/
def eraseRetained (st : ImportState) (payload : ImportPayload) (env : Surroundings) :
    Except ImportError ImportState :=
  if st.Names payload ∧ st.job.status.terminal = true ∧
      (st.job.expiresAt ≤ env.now ∨ st.job.Retained env.now) then
    st.updateJob env false { st.job.withoutSource with
      parsedAvailability :=
        if st.job.Retained env.now then none else st.job.parsedAvailability
      resultErasedAt :=
        if st.job.Retained env.now then some (st.job.resultErasedAt.getD env.now)
        else st.job.resultErasedAt }
  else .ok st

/-! ## Runs -/

/-- What the deployment fixes: `WORKER_MAX_RETRIES`, and the control characters of the
database's locale. -/
structure ImportDeployment where
  maximumRetries : Nat
  isControl : Char → Bool

/-- What can happen to the job with the given id and to the wallets.  The sweep
terminalizes with no token, `FAILED` and `EXPIRED`. -/
inductive ImportEvent (deployment : ImportDeployment) (importId : String)
  | claim (payload : ImportPayload) (preview : Option (ImportStatus × String))
      (env : Surroundings) (retryCount : RetryCount deployment.maximumRetries) (token : String)
  | complete (payload : ImportPayload) (preview : Option (ImportStatus × String))
      (env : Surroundings) (token sourceIdentityHash availability : String)
  | retrying (payload : ImportPayload) (seen : Option SeenOwner) (env : Surroundings)
      (token : Option String) (retryCount : RetryCount deployment.maximumRetries)
  | terminalize (payload : ImportPayload) (env : Surroundings) (token : Option String)
      (status : ImportStatus) (failureCode : String)
  | cleanup (payload : ImportPayload) (env : Surroundings)
  | eraseOwned (payload : ImportPayload) (env : Surroundings) (token : Option String)
  | eraseHard (payload : ImportPayload) (env : Surroundings)
  | clearKey (payload : ImportPayload) (env : Surroundings) (storageKey : String)
  | eraseRetained (payload : ImportPayload) (env : Surroundings)
  | wallet (request : WalletRequest)
      (foreign : request.call.transactionId ≠ some (refundId importId))

/-- The transaction of an event. -/
def ImportEvent.run {deployment : ImportDeployment} {importId : String} (st : ImportState) :
    ImportEvent deployment importId → Except ImportError ImportState
  | .claim payload preview env retryCount token =>
      (claimImport deployment.maximumRetries st payload preview env retryCount.val token).map
        Prod.snd
  | .complete payload preview env token sourceIdentityHash availability =>
      completeImport st payload preview env token sourceIdentityHash availability
  | .retrying payload seen env token retryCount =>
      markRetrying st payload seen env token retryCount.val
  | .terminalize payload env token status failureCode =>
      terminalizeImport deployment.isControl st payload env token status failureCode
  | .cleanup payload env => cleanupSource st payload env
  | .eraseOwned payload env token => eraseOwnedImportSource st payload env token
  | .eraseHard payload env => eraseHardExpired st payload env
  | .clearKey payload env storageKey => clearErasedKey st payload env storageKey
  | .eraseRetained payload env => Imports.eraseRetained st payload env
  | .wallet request _ =>
      .ok { st with billing := (commit deployment.isControl st.billing request).2 }

/-- The step function: the error, where there is one, and the state afterwards. -/
def importStep (deployment : ImportDeployment) (importId : String) (st : ImportState)
    (event : ImportEvent deployment importId) : Option ImportError × ImportState :=
  match event.run st with
  | .ok next => (none, next)
  | .error error => (some error, st)

/-- The token that the worker of an event holds on to since its claim. -/
def ImportEvent.heldToken {deployment : ImportDeployment} {importId : String} :
    ImportEvent deployment importId → Option String
  | .complete _ _ _ token _ _ => some token
  | .retrying _ _ _ token _ => token
  | .terminalize _ _ token _ _ => token
  | .eraseOwned _ _ token => token
  | _ => none

end LunchLineup.Imports
