import Mathlib.Tactic
import LunchLineup.Lib.Run

/-!
# Metered usage events and their two senders

A `"StripeUsageEvent"` row is a usage snapshot that has to reach Stripe.  The worker
and the API both send it, each by a claim, a request to Stripe and a settlement:

* the worker's store claims with `claim` and settles with `markSent` and `markFailed`;
  an update of the settlement counts only if `attempts` is still that of the claim;
* `sendPersistedUsageEvent` of the API claims, reads the row back, and settles with an
  update that counts only if `submittedAt` and the two identifiers are those it read.

Two sweeps of the worker follow: `terminalizeExpiredFinalAttempts` dead-letters a last
attempt whose lease is over, and `requeueDeadLettered` starts dead-lettered events anew,
with no attempts and with fresh identifiers.

Times are milliseconds, the precision of the columns.  The event name, the customer and
the period, which are sent along and which no condition reads, are left out.
-/

namespace LunchLineup.Usage

/-! ## Rows -/

/-- `StripeUsageEventStatus`. -/
inductive UsageStatus
  | pending
  | sending
  | sent
  | failed
  | deadLettered
  deriving DecidableEq

/-- The keys of `metadata` that the sweeps write. -/
structure UsageMetadata where
  logicalUsageIdentity : Option String
  deadLetterReplayCount : Option Nat
  deadLetterLastReplayedAt : Option Int
  deadLetterPreviousError : Option String
  deadLetterPreviousIdentifier : Option String
  deadLetterPreviousIdempotencyKey : Option String
  deadLetterReplayDisposition : Option String
  finalAttemptLeaseExpiredAt : Option Int
  finalAttemptOutcome : Option String
  deriving DecidableEq

/-- A `"StripeUsageEvent"` row. -/
structure UsageRow where
  id : String
  quantity : Int
  identifier : String
  idempotencyKey : String
  status : UsageStatus
  attempts : Nat
  nextAttemptAt : Int
  submittedAt : Option Int
  sentAt : Option Int
  stripeObjectId : Option String
  stripeRequestId : Option String
  lastError : Option String
  metadata : UsageMetadata
  updatedAt : Int
  deriving DecidableEq

/-- A row that was inserted and not claimed yet. -/
structure UsageRow.New (row : UsageRow) : Prop where
  status : row.status = .pending
  attempts : row.attempts = 0
  submittedAt : row.submittedAt = none

/-- What a sender holds of the row it claimed. -/
structure UsageEvent where
  quantity : Int
  identifier : String
  idempotencyKey : String
  attempts : Nat
  deriving DecidableEq

/-- What Stripe answers. -/
structure StripeMeterResult where
  objectId : Option String
  requestId : Option String
  deriving DecidableEq

/-- The configuration of the deployment, as `int_env` bounds it, and PostgreSQL's `md5`. -/
structure UsageSettings where
  maxAttempts : Nat
  maxAttempts_pos : 1 ≤ maxAttempts
  leaseSeconds : Int
  leaseSeconds_least : 30 ≤ leaseSeconds
  deadLetterReplayEnabled : Bool
  replayMinimumAgeSeconds : Int
  replayMinimumAgeSeconds_least : 60 ≤ replayMinimumAgeSeconds
  maxReplays : Nat
  apiMaxAttempts : Nat
  md5 : String → String

/-- `STRIPE_USAGE_SEND_LEASE_MS`. -/
def stripeUsageSendLeaseMs : Int := 2 * 60000

/-- `MAX_STRIPE_USAGE_ATTEMPTS`. -/
def maxStripeUsageAttempts : Nat := 5

/-- The minutes until the next attempt; `nextStripeUsageAttemptAt` has the same. -/
def delayMinutes (attempts : Nat) : Int := min 60 (max 1 (2 ^ min attempts 6))

theorem delayMinutes_pos (attempts : Nat) : 1 ≤ delayMinutes attempts :=
  le_min (by decide) (le_max_left _ _)

/-- The first thousand characters. -/
def clip (text : String) : String := String.ofList (text.toList.take 1000)

variable (settings : UsageSettings)

/-! ## The worker -/

/-- The update on conflict of `_prepare_usage_snapshot`. -/
def prepareUsageSnapshot (row : UsageRow) (quantity now : Int) : UsageRow :=
  if row.status = .pending ∧ row.attempts = 0 ∧ row.submittedAt = none then
    { row with quantity := quantity, updatedAt := now }
  else row

/-- The condition of the worker's claim. -/
def UsageRow.WorkerDue (row : UsageRow) (now : Int) : Prop :=
  row.attempts < settings.maxAttempts ∧
    ((row.status = .pending ∨ row.status = .failed) ∧ row.nextAttemptAt ≤ now ∨
      row.status = .sending ∧ row.updatedAt ≤ now - settings.leaseSeconds * 1000)

instance (row : UsageRow) (now : Int) : Decidable (row.WorkerDue settings now) :=
  inferInstanceAs (Decidable (_ ∧ _))

/-- `claim`. -/
def claim (row : UsageRow) (now : Int) : Option (UsageEvent × UsageRow) :=
  if row.WorkerDue settings now then
    some (⟨row.quantity, row.identifier, row.idempotencyKey, row.attempts + 1⟩,
      { row with
        status := .sending
        attempts := row.attempts + 1
        lastError := none
        nextAttemptAt := now + settings.leaseSeconds * 1000
        submittedAt := some now
        updatedAt := now })
  else none

/-- The row is still at the attempt of the claim. -/
def UsageRow.AtAttempt (row : UsageRow) (event : UsageEvent) : Prop :=
  row.status = .sending ∧ row.attempts = event.attempts

instance (row : UsageRow) (event : UsageEvent) : Decidable (row.AtAttempt event) :=
  inferInstanceAs (Decidable (_ ∧ _))

/-- `mark_sent`. -/
def markSent (row : UsageRow) (event : UsageEvent) (result : StripeMeterResult) (now : Int) :
    UsageRow :=
  if row.AtAttempt event then
    { row with
      status := .sent
      sentAt := some now
      stripeObjectId := result.objectId
      stripeRequestId := result.requestId
      lastError := none
      updatedAt := now }
  else row

/-- `billing_usage_failure_code`. -/
def billingUsageFailureCode (nonRetryable deadLettered : Bool) : String :=
  if nonRetryable then "STRIPE_USAGE_NON_RETRYABLE"
  else if deadLettered then "STRIPE_USAGE_RETRIES_EXHAUSTED"
  else "STRIPE_USAGE_RETRYABLE"

/-- `mark_failed`. -/
def markFailed (row : UsageRow) (event : UsageEvent) (message : String) (deadLettered : Bool)
    (now : Int) : UsageRow :=
  if row.AtAttempt event then
    { row with
      status := if deadLettered then .deadLettered else .failed
      nextAttemptAt := now + delayMinutes event.attempts * 60000
      lastError := some (clip message)
      updatedAt := now }
  else row

/-- What `dispatch_usage` does when the request to Stripe failed. -/
def dispatchFailed (row : UsageRow) (event : UsageEvent) (nonRetryable : Bool) (now : Int) :
    UsageRow :=
  let deadLettered := nonRetryable || settings.maxAttempts ≤ event.attempts
  markFailed row event (billingUsageFailureCode nonRetryable deadLettered) deadLettered now

/-- `terminalize_expired_final_attempts`. -/
def terminalizeExpiredFinalAttempts (row : UsageRow) (now : Int) : UsageRow :=
  if row.status = .sending ∧ settings.maxAttempts ≤ row.attempts ∧
      row.updatedAt ≤ now - settings.leaseSeconds * 1000 then
    { row with
      status := .deadLettered
      nextAttemptAt := now
      lastError := some "Final delivery lease expired with an unknown Stripe outcome"
      metadata := { row.metadata with
        finalAttemptLeaseExpiredAt := some now
        finalAttemptOutcome := some "unknown" }
      updatedAt := now }
  else row

/-- The condition of `requeue_dead_lettered`. -/
def UsageRow.Replayable (row : UsageRow) (now : Int) : Prop :=
  settings.deadLetterReplayEnabled = true ∧ row.status = .deadLettered ∧
    row.updatedAt ≤ now - settings.replayMinimumAgeSeconds * 1000 ∧
    row.metadata.deadLetterReplayCount.getD 0 < settings.maxReplays

instance (row : UsageRow) (now : Int) : Decidable (row.Replayable settings now) :=
  inferInstanceAs (Decidable (_ ∧ _))

/-- `requeue_dead_lettered`. -/
def requeueDeadLettered (row : UsageRow) (now : Int) : UsageRow :=
  if row.Replayable settings now then
    let count := row.metadata.deadLetterReplayCount.getD 0
    { row with
      status := .failed
      attempts := 0
      identifier := "ll_replay_" ++
        settings.md5 (row.id ++ ":" ++ row.identifier ++ ":" ++ toString count)
      idempotencyKey := "stripe_usage_replay_" ++
        settings.md5 (row.id ++ ":" ++ row.idempotencyKey ++ ":" ++ toString count)
      nextAttemptAt := now
      lastError := some "Operator-gated replay queued after dead-letter"
      metadata := { row.metadata with
        logicalUsageIdentity := some (row.metadata.logicalUsageIdentity.getD row.identifier)
        deadLetterReplayCount := some (count + 1)
        deadLetterLastReplayedAt := some now
        deadLetterPreviousError := some (clip (row.lastError.getD ""))
        deadLetterPreviousIdentifier := some row.identifier
        deadLetterPreviousIdempotencyKey := some row.idempotencyKey
        deadLetterReplayDisposition := some "operator_replay_fresh_transport" }
      updatedAt := now }
  else row

/-! ## The API -/

/-- The condition of the API's claim. -/
def UsageRow.ApiDue (row : UsageRow) (submittedAt : Int) : Prop :=
  (row.status = .pending ∧ row.nextAttemptAt ≤ submittedAt) ∨
    (row.status = .failed ∧ row.attempts < settings.apiMaxAttempts ∧
      row.nextAttemptAt ≤ submittedAt) ∨
    (row.status = .sending ∧
      ∃ previous ∈ row.submittedAt, previous ≤ submittedAt - stripeUsageSendLeaseMs)

instance (row : UsageRow) (submittedAt : Int) : Decidable (row.ApiDue settings submittedAt) :=
  inferInstanceAs (Decidable (_ ∨ _))

/-- The claim of `sendPersistedUsageEvent`; the client sets `updatedAt` when it writes. -/
def apiClaim (row : UsageRow) (submittedAt writtenAt : Int) : Option UsageRow :=
  if row.ApiDue settings submittedAt then
    some { row with
      status := .sending
      attempts := row.attempts + 1
      submittedAt := some submittedAt
      nextAttemptAt := submittedAt + stripeUsageSendLeaseMs
      lastError := none
      updatedAt := writtenAt }
  else none

/-- The row as `sendPersistedUsageEvent` reads it back, unless its lease was lost. -/
def apiRead (row : UsageRow) (submittedAt : Int) : Option UsageEvent :=
  if row.status = .sending ∧ row.submittedAt = some submittedAt then
    some ⟨row.quantity, row.identifier, row.idempotencyKey, row.attempts⟩
  else none

/-- The row is as the API read it. -/
def UsageRow.AsRead (row : UsageRow) (submittedAt : Int) (claimed : UsageEvent) : Prop :=
  row.status = .sending ∧ row.submittedAt = some submittedAt ∧
    row.identifier = claimed.identifier ∧ row.idempotencyKey = claimed.idempotencyKey

instance (row : UsageRow) (submittedAt : Int) (claimed : UsageEvent) :
    Decidable (row.AsRead submittedAt claimed) := inferInstanceAs (Decidable (_ ∧ _))

/-- `sendPersistedUsageEvent` after a success. -/
def apiSent (row : UsageRow) (submittedAt : Int) (claimed : UsageEvent)
    (result : StripeMeterResult) (now : Int) : UsageRow :=
  if row.AsRead submittedAt claimed then
    { row with
      status := .sent
      sentAt := some now
      stripeObjectId := result.objectId
      stripeRequestId := result.requestId
      lastError := none
      updatedAt := now }
  else row

/-- `sendPersistedUsageEvent` after a failure. -/
def apiFailed (row : UsageRow) (submittedAt : Int) (claimed : UsageEvent) (diagnostic : String)
    (now : Int) : UsageRow :=
  if row.AsRead submittedAt claimed then
    { row with
      status := if settings.apiMaxAttempts ≤ claimed.attempts then .deadLettered else .failed
      nextAttemptAt := now + delayMinutes claimed.attempts * 60000
      lastError := some diagnostic
      updatedAt := now }
  else row

end LunchLineup.Usage
