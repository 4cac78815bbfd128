import LunchLineup.Billing.LedgerInvariant

/-!
# A paid webhook delivery and the functions of its store

A `"WebhookDelivery"` row is paid for by one debit when it is created.  Each function
of `WebhookDeliveryStore` is one transaction on it:

* `claimInitialDelivery` and `claimReplayByDeliveryId` take it for sending;
* `claimRecoverableForQueue` finds it again for the retry queue, `markQueued` records
  that it was put there;
* `validateActiveDeliverySendAuthority` looks once more before the request is sent;
* `markDelivered`, `markReplayFailed` and `markDeadLettered` settle an attempt.

A tenant that asks for its deletion has its deliveries settled in the transaction of
the deletion barrier; only then does the tenant become `PURGED`, which fires a trigger
on the deliveries.

Times are milliseconds and arbitrary, as are the reads that hold no lock on the row.
The column `lastError`, which nothing reads, the digests and the request itself are
left out.
-/

namespace LunchLineup.Webhooks

open LunchLineup.Lib LunchLineup.Billing

/-! ## Rows -/

/-- `WebhookDeliveryStatus`. -/
inductive WebhookDeliveryStatus
  | pending
  | queued
  | sending
  | delivered
  | failed
  | deadLettered
  deriving DecidableEq

/-- The statuses with an erased payload. -/
def WebhookDeliveryStatus.terminal : WebhookDeliveryStatus → Bool
  | .delivered => true
  | .deadLettered => true
  | _ => false

/-- `REPLAYABLE_DELIVERY_STATUSES`. -/
def WebhookDeliveryStatus.replayable : WebhookDeliveryStatus → Bool
  | .pending => true
  | .queued => true
  | .failed => true
  | _ => false

/-- The label of a status. -/
def WebhookDeliveryStatus.label : WebhookDeliveryStatus → String
  | .pending => "PENDING"
  | .queued => "QUEUED"
  | .sending => "SENDING"
  | .delivered => "DELIVERED"
  | .failed => "FAILED"
  | .deadLettered => "DEAD_LETTERED"

/-- A `"WebhookDelivery"` row. -/
structure WebhookDelivery where
  id : String
  tenantId : String
  endpointId : Option String
  status : WebhookDeliveryStatus
  eventType : Option String
  encryptedUrl : String
  encryptedPayload : String
  encryptionKeyRef : String
  attempts : Int
  nextAttemptAt : Option Int
  queuedAt : Option Int
  deliveredAt : Option Int
  updatedAt : Int

/-- `TenantStatus`. -/
inductive TenantStatus
  | trial
  | active
  | pastDue
  | suspended
  | cancelled
  | purged
  deriving DecidableEq

/-- `PlanTier`. -/
inductive PlanTier
  | free
  | starter
  | growth
  | enterprise
  deriving DecidableEq

/-- The columns of the `"Tenant"` row that decide whether it may send. -/
structure Tenant where
  status : TenantStatus
  deletedAt : Option Int
  planTier : PlanTier
  stripeSubscriptionId : Option String
  stripeSubscriptionCurrentPeriodEnd : Option Int

/-- A `"WebhookEndpoint"` row. -/
structure WebhookEndpoint where
  id : String
  tenantId : String
  active : Bool
  secret : String

/-- The tenant may send: it is active and has paid for a plan until later than `now`.
The statements differ in which subscription ids they take for blank. -/
def Tenant.PaidThrough (tenant : Tenant) (isBlank : String → Bool) (now : Int) : Prop :=
  tenant.deletedAt = none ∧ tenant.status = .active ∧ tenant.planTier ≠ .free ∧
    (∃ subscriptionId ∈ tenant.stripeSubscriptionId, isBlank subscriptionId = false) ∧
    ∃ periodEnd ∈ tenant.stripeSubscriptionCurrentPeriodEnd, now < periodEnd

instance (tenant : Tenant) (isBlank : String → Bool) (now : Int) :
    Decidable (tenant.PaidThrough isBlank now) := inferInstanceAs (Decidable (_ ∧ _))

/-- `deliveryEligibleTenantWhere`. -/
def deliveryEligibleTenantWhere (tenant : Tenant) (now : Int) : Prop :=
  tenant.PaidThrough (· == "") now

instance (tenant : Tenant) (now : Int) : Decidable (deliveryEligibleTenantWhere tenant now) :=
  inferInstanceAs (Decidable (tenant.PaidThrough _ now))

/-! ## Configuration -/

/-- `WEBHOOK_CREDIT_COST`. -/
def webhookCreditCost : Int := 1

/-- A configured number of milliseconds between its bounds, or the default. -/
def boundedConfig (configured : Option Int) (fallback least most : Int) : Int :=
  match configured with
  | none => fallback
  | some value => max least (min value most)

/-- What the deployment fixes: the integers `parseInt` reads from the configuration, the
control characters of the database's locale, and `decryptString`, which throws on a text
that the key does not open. -/
structure WebhookDeployment where
  maxAttempts : Int
  replayLeaseMs : Option Int
  pendingClaimLeaseMs : Option Int
  confirmedQueueRecoveryAgeMs : Option Int
  isControl : Char → Bool
  isControl_printable : ∀ c : Char, 0x20 ≤ c.toNat → c.toNat ≤ 0x7e → isControl c = false
  decryptString : String → Option String

namespace WebhookDeployment

variable (deployment : WebhookDeployment)

/-- `resolveReplayLeaseMs`. -/
def resolveReplayLeaseMs : Int := boundedConfig deployment.replayLeaseMs 60000 10000 300000

/-- `resolvePendingClaimLeaseMs`. -/
def resolvePendingClaimLeaseMs : Int :=
  boundedConfig deployment.pendingClaimLeaseMs 60000 10000 300000

/-- `resolveConfirmedQueueRecoveryAgeMs`. -/
def resolveConfirmedQueueRecoveryAgeMs : Int :=
  boundedConfig deployment.confirmedQueueRecoveryAgeMs 600000 60000 86400000

/-- `boundedMaxAttempts`. -/
def boundedMaxAttempts : Int := max 1 deployment.maxAttempts

end WebhookDeployment

/-- The times one call reads: `new Date()` at its start, `CURRENT_TIMESTAMP` of its
transaction and `Date.now()` at its end. -/
structure Clock where
  now : Int
  databaseNow : Int
  later : Int

/-! ## Identifiers -/

/-- `feature-usage-webhook-delivery:<id>`. -/
def debitId (deliveryId : String) : String := "feature-usage-webhook-delivery:" ++ deliveryId

/-- `feature-refund-webhook-delivery:<id>`. -/
def refundId (deliveryId : String) : String := "feature-refund-webhook-delivery:" ++ deliveryId

/-- The reason of the debit. -/
def debitReason (deliveryId : String) : String := "Webhook delivery (" ++ deliveryId ++ ")"

/-- The reason of the refund. -/
def refundReason (deliveryId : String) : String :=
  "Webhook delivery refund (" ++ deliveryId ++ ")"

/-! ## States and errors -/

/-- The delivery, its tenant and endpoint, the wallets with their ledger, and whether
the tenant's deletion barrier is committed. -/
structure DeliveryState where
  delivery : WebhookDelivery
  tenant : Tenant
  endpoint : WebhookEndpoint
  billing : Store
  deletionBarrier : Bool

/-- Why a transaction was rolled back. -/
inductive DeliveryError
  | serviceUnavailable (message : String)
  | conflict (message : String)
  | database (constraint : String)
  | billing (error : BillingError)
  | undecryptable

/-! ## Writes -/

/-- `TERMINAL_DELIVERY_ERASURE`. -/
def WebhookDelivery.erased (row : WebhookDelivery) : WebhookDelivery :=
  { row with encryptedUrl := "", encryptedPayload := "", encryptionKeyRef := "erased-v1" }

/-- The trigger `scrub_terminal_webhook_delivery_payload`. -/
def WebhookDelivery.scrub (row : WebhookDelivery) : WebhookDelivery :=
  if row.status.terminal = true then row.erased else row

/-- The checks on the columns of a row. -/
def WebhookDelivery.Valid (row : WebhookDelivery) : Prop :=
  (0 ≤ row.attempts ∧ IsInteger row.attempts) ∧ isSqlBlank row.encryptionKeyRef = false ∧
    (row.status.terminal = true → row.encryptedUrl = "" ∧ row.encryptedPayload = "" ∧
      row.encryptionKeyRef = "erased-v1") ∧
    (row.status.terminal = false →
      isSqlBlank row.encryptedUrl = false ∧ isSqlBlank row.encryptedPayload = false)

instance (row : WebhookDelivery) : Decidable row.Valid := inferInstanceAs (Decidable (_ ∧ _))

/-- `UPDATE "WebhookDelivery"` of the row, with its trigger and checks. -/
def DeliveryState.updateDelivery (st : DeliveryState) (row : WebhookDelivery) :
    Except DeliveryError DeliveryState := do
  let row := row.scrub
  ensure row.Valid (.database "WebhookDelivery_checks")
  .ok { st with delivery := row }

/-! ## Reads -/

namespace DeliveryState

variable (st : DeliveryState)

/-- The row is the delivery `deliveryId` of the tenant. -/
def Names (tenantId deliveryId : String) : Prop :=
  st.delivery.id = deliveryId ∧ st.delivery.tenantId = tenantId

instance (tenantId deliveryId : String) : Decidable (st.Names tenantId deliveryId) :=
  inferInstanceAs (Decidable (_ ∧ _))

/-- The join of the delivery with its endpoint. -/
def EndpointJoins : Prop :=
  st.delivery.endpointId = some st.endpoint.id ∧ st.endpoint.tenantId = st.delivery.tenantId

instance : Decidable st.EndpointJoins := inferInstanceAs (Decidable (_ ∧ _))

/-- `hasExactCreditReservation`, the subquery on the ledger. -/
def HasExactCreditReservation : Prop :=
  ∃ credit ∈ st.billing.ledger, credit.id = debitId st.delivery.id ∧
    credit.tenantId = st.delivery.tenantId ∧ credit.amount = -webhookCreditCost ∧
    credit.reason = debitReason st.delivery.id ∧ ∃ balance ∈ credit.balanceAfter, 0 ≤ balance

instance : Decidable st.HasExactCreditReservation :=
  inferInstanceAs (Decidable (∃ credit ∈ st.billing.ledger, _))

/-- `hasExactPaidDeliveryAuthority`. -/
def HasExactPaidDeliveryAuthority (deliveryId : String) (tenantId : Option String)
    (databaseNow : Int) : Prop :=
  st.delivery.id = deliveryId ∧ (∀ id ∈ tenantId, st.delivery.tenantId = id) ∧
    st.EndpointJoins ∧ st.tenant.PaidThrough isSqlBlank databaseNow ∧
    st.HasExactCreditReservation

instance (deliveryId : String) (tenantId : Option String) (databaseNow : Int) :
    Decidable (st.HasExactPaidDeliveryAuthority deliveryId tenantId databaseNow) :=
  inferInstanceAs (Decidable (_ ∧ _))

end DeliveryState

/-- `nonnegativeInteger`. -/
def nonnegativeInteger (value : Int) : Option Int :=
  if 0 ≤ value ∧ value ≤ maxSafeInteger then some value else none

/-- `positiveCreditValue`. -/
def positiveCreditValue (amount debtAmount : Int) : Option Int :=
  match nonnegativeInteger amount with
  | none => none
  | some spendableAmount =>
      if debtAmount < -maxSafeInteger ∨ 0 < debtAmount then none
      else if 0 < spendableAmount - debtAmount ∧ spendableAmount - debtAmount ≤ maxSafeInteger then
        some (spendableAmount - debtAmount)
      else none

/-- `WebhookDeliveryReplayState`. -/
structure WebhookDeliveryReplayState where
  status : WebhookDeliveryStatus
  attempts : Int

/-- `loadTransitionedState`. -/
def loadTransitionedState (st : DeliveryState) (tenantId deliveryId : String)
    (expectedStatus : WebhookDeliveryStatus) (expectedAttempts : Int) :
    Except DeliveryError WebhookDeliveryReplayState := do
  ensure (st.Names tenantId deliveryId ∧ st.delivery.status = expectedStatus ∧
      st.delivery.attempts = expectedAttempts)
    (.serviceUnavailable
      ("Webhook delivery state " ++ expectedStatus.label ++ " could not be loaded"))
  .ok ⟨expectedStatus, expectedAttempts⟩

/-! ## The terminal settlement -/

/-- The debit has the form that the settlement demands. -/
def IsExactDebit (deliveryId : String) (debit : CreditTransaction) : Prop :=
  debit.amount = -webhookCreditCost ∧ debit.debtAmount = 0 ∧
    debit.reason = debitReason deliveryId ∧
    (debit.balanceAfter.bind nonnegativeInteger).isSome = true ∧
    debit.debtAfter.bind nonnegativeInteger = some 0

instance (deliveryId : String) (debit : CreditTransaction) :
    Decidable (IsExactDebit deliveryId debit) := inferInstanceAs (Decidable (_ ∧ _))

/-- The refund has the form that the settlement demands. -/
def IsExactRefund (deliveryId : String) (refund : CreditTransaction) : Prop :=
  positiveCreditValue refund.amount refund.debtAmount = some webhookCreditCost ∧
    refund.reason = refundReason deliveryId ∧
    (refund.balanceAfter.bind nonnegativeInteger).isSome = true ∧
    (refund.debtAfter.bind nonnegativeInteger).isSome = true

instance (deliveryId : String) (refund : CreditTransaction) :
    Decidable (IsExactRefund deliveryId refund) := inferInstanceAs (Decidable (_ ∧ _))

/-- The refund of the settlement, unless it is in the ledger. -/
def settleTerminalRefund (isControl : Char → Bool) (billing : Store) (platformAdmin : Bool)
    (tenantId deliveryId : String) : Except DeliveryError Store :=
  match billing.findUnique false tenantId (refundId deliveryId) with
  | some _ => .ok billing
  | none => do
      let (settlement, billing) ← (settlePositiveCreditValue isControl billing platformAdmin
        ⟨some tenantId, some webhookCreditCost, some (refundReason deliveryId),
          some (refundId deliveryId)⟩).mapError .billing
      ensure (nonnegativeInteger settlement.creditedValue = some webhookCreditCost ∧
          (nonnegativeInteger settlement.spendableAmount).isSome = true ∧
          (nonnegativeInteger settlement.repaidDebt).isSome = true ∧
          settlement.spendableAmount + settlement.repaidDebt = webhookCreditCost ∧
          (nonnegativeInteger settlement.newBalance).isSome = true ∧
          (nonnegativeInteger settlement.debtAfter).isSome = true ∧ settlement.replayed = false)
        (.serviceUnavailable "Webhook terminal refund settlement failed")
      .ok billing

/-- `settleDeadLetteredInTransaction`. -/
def settleDeadLetteredInTransaction (isControl : Char → Bool) (st : DeliveryState)
    (platformAdmin : Bool) (tenantId deliveryId : String) (expectedAttempts now : Int) :
    Except DeliveryError (WebhookDeliveryReplayState × DeliveryState) := do
  ensure ((∃ wallet ∈ st.billing.wallet? tenantId,
      (nonnegativeInteger wallet.usageCredits).isSome = true ∧
      (nonnegativeInteger wallet.creditDebt).isSome = true) ∧
      st.Names tenantId deliveryId ∧ st.delivery.attempts = expectedAttempts)
    (.serviceUnavailable "Webhook terminal settlement ownership is unavailable")
  ensure ((∃ debit ∈ st.billing.findUnique false tenantId (debitId deliveryId),
      IsExactDebit deliveryId debit) ∧
      ∀ refund ∈ st.billing.findUnique false tenantId (refundId deliveryId),
        IsExactRefund deliveryId refund)
    (.serviceUnavailable "Webhook terminal credit provenance is malformed or mismatched")
  ensure (st.delivery.status ≠ .delivered)
    (.serviceUnavailable "Delivered webhook cannot be terminally refunded")
  let billing ← settleTerminalRefund isControl st.billing platformAdmin tenantId deliveryId
  let st := { st with billing := billing }
  if st.delivery.status = .deadLettered then do
    let state ← loadTransitionedState st tenantId deliveryId .deadLettered expectedAttempts
    .ok (state, st)
  else do
    let st ← st.updateDelivery { st.delivery.erased with
      status := .deadLettered
      nextAttemptAt := none
      updatedAt := now }
    let state ← loadTransitionedState st tenantId deliveryId .deadLettered expectedAttempts
    .ok (state, st)

/-! ## Claims -/

/-- `claimInitialDelivery`; the answer is whether the delivery was claimed. -/
def claimInitialDelivery (st : DeliveryState) (tenantId deliveryId : String) (clock : Clock) :
    Except DeliveryError (Bool × DeliveryState) :=
  if ¬ st.HasExactPaidDeliveryAuthority deliveryId (some tenantId) clock.databaseNow then
    .ok (false, st)
  else if st.Names tenantId deliveryId ∧ deliveryEligibleTenantWhere st.tenant clock.now ∧
      st.delivery.status = .pending ∧ st.delivery.attempts = 0 then do
    let st ← st.updateDelivery { st.delivery with
      status := .sending
      attempts := st.delivery.attempts + 1
      nextAttemptAt := none
      updatedAt := clock.now }
    .ok (true, st)
  else .ok (false, st)

/-- `WorkerWebhookReplayEnvelope`. -/
structure WorkerWebhookReplayEnvelope where
  id : String
  tenantId : String
  endpointId : Option String
  url : String
  body : String
  eventType : Option String
  secret : Option String
  attempts : Int

/-- `WebhookReplayClaim`. -/
inductive WebhookReplayClaim
  | claimed (delivery : WorkerWebhookReplayEnvelope)
  | deferred (tenantId : String) (attempts retryAfterMs : Int)
  | notFound

/-- The condition of the claiming update on the row. -/
def WebhookDelivery.Claimable (row : WebhookDelivery) (deployment : WebhookDeployment)
    (now : Int) : Prop :=
  row.attempts < deployment.boundedMaxAttempts ∧
    (row.status = .queued ∨
      ((row.status = .pending ∨ row.status = .failed) ∧
        ∃ nextAttemptAt ∈ row.nextAttemptAt, nextAttemptAt ≤ now) ∨
      (row.status = .sending ∧ row.updatedAt ≤ now - deployment.resolveReplayLeaseMs))

instance (row : WebhookDelivery) (deployment : WebhookDeployment) (now : Int) :
    Decidable (row.Claimable deployment now) := inferInstanceAs (Decidable (_ ∧ _))

/-- `retryAtForUnclaimedDelivery`. -/
def retryAtForUnclaimedDelivery (row : WebhookDelivery) (leaseMs : Int) : Option Int :=
  if row.status = .sending then some (row.updatedAt + leaseMs)
  else if row.status.replayable = true then row.nextAttemptAt
  else none

/-- What the worker gets to send. -/
def openEnvelope (deployment : WebhookDeployment) (row : WebhookDelivery)
    (endpoint : WebhookEndpoint) : Except DeliveryError WorkerWebhookReplayEnvelope :=
  match deployment.decryptString row.encryptedUrl, deployment.decryptString row.encryptedPayload,
    if endpoint.secret = "" then some none else (deployment.decryptString endpoint.secret).map some
  with
  | some url, some body, some secret =>
      .ok ⟨row.id, row.tenantId, row.endpointId, url, body, row.eventType, secret, row.attempts⟩
  | _, _, _ => .error .undecryptable

/-- `claimReplayByDeliveryId`.  `current` is the row it reads after it could not claim. -/
def claimReplayByDeliveryId (deployment : WebhookDeployment) (st : DeliveryState)
    (deliveryId : String) (clock : Clock) (current : Option WebhookDelivery) :
    Except DeliveryError (WebhookReplayClaim × DeliveryState) :=
  if ¬ st.HasExactPaidDeliveryAuthority deliveryId none clock.databaseNow then
    .ok (.notFound, st)
  else do
    -- Prisma refuses a bound that is no INTEGER.
    ensure (IsInteger deployment.boundedMaxAttempts) (.database "attempts")
    if st.delivery.id = deliveryId ∧ deliveryEligibleTenantWhere st.tenant clock.now ∧
        st.delivery.Claimable deployment clock.now then do
      let st ← st.updateDelivery { st.delivery with
        status := .sending
        attempts := st.delivery.attempts + 1
        updatedAt := clock.now }
      if st.EndpointJoins ∧ st.endpoint.active = true then do
        let delivery ← openEnvelope deployment st.delivery st.endpoint
        .ok (.claimed delivery, st)
      else do
        let (_, st) ← settleDeadLetteredInTransaction deployment.isControl st true
          st.delivery.tenantId st.delivery.id st.delivery.attempts clock.now
        .ok (.notFound, st)
    else
      match current with
      | none => .ok (.notFound, st)
      | some current =>
          if deployment.boundedMaxAttempts ≤ current.attempts ∧
              (current.status ≠ .sending ∨
                current.updatedAt ≤ clock.now - deployment.resolveReplayLeaseMs) ∧
              (current.status.replayable = true ∨ current.status = .sending) then do
            let (_, st) ← settleDeadLetteredInTransaction deployment.isControl st true
              current.tenantId deliveryId current.attempts clock.now
            .ok (.notFound, st)
          else
            match retryAtForUnclaimedDelivery current deployment.resolveReplayLeaseMs with
            | some retryAt =>
                .ok (.deferred current.tenantId current.attempts
                  (max 1000 (retryAt - clock.later)), st)
            | none => .ok (.notFound, st)

/-! ## The retry queue -/

/-- `markQueued`. -/
def markQueued (st : DeliveryState) (tenantId deliveryId : String) (now : Int) :
    Except DeliveryError DeliveryState :=
  if st.Names tenantId deliveryId ∧ st.delivery.status.replayable = true then
    st.updateDelivery { st.delivery with
      status := .queued
      queuedAt := some now
      nextAttemptAt := none
      updatedAt := now }
  else .ok st

/-- `RecoverableWebhookDelivery`. -/
structure RecoverableWebhookDelivery where
  id : String
  tenantId : String
  status : WebhookDeliveryStatus
  attempts : Int

/-- The condition of the recovery sweep on the row. -/
def WebhookDelivery.Recoverable (row : WebhookDelivery) (deployment : WebhookDeployment)
    (now : Int) : Prop :=
  (row.status.replayable = true ∧ ∃ nextAttemptAt ∈ row.nextAttemptAt, nextAttemptAt ≤ now) ∨
    (row.status = .sending ∧ row.updatedAt ≤ now - deployment.resolveReplayLeaseMs) ∨
    (row.status = .queued ∧ row.nextAttemptAt = none ∧
      ∃ queuedAt ∈ row.queuedAt, queuedAt ≤ now - deployment.resolveConfirmedQueueRecoveryAgeMs)

instance (row : WebhookDelivery) (deployment : WebhookDeployment) (now : Int) :
    Decidable (row.Recoverable deployment now) := inferInstanceAs (Decidable (_ ∨ _))

/-- `claimRecoverableForQueue`.  `free` is whether the row is neither locked nor behind
the `LIMIT`. -/
def claimRecoverableForQueue (deployment : WebhookDeployment) (st : DeliveryState)
    (clock : Clock) (free : Bool) :
    Except DeliveryError (Option RecoverableWebhookDelivery × DeliveryState) :=
  if st.EndpointJoins ∧ st.tenant.PaidThrough isSqlBlank clock.databaseNow ∧
      st.HasExactCreditReservation ∧ st.delivery.Recoverable deployment clock.now ∧
      free = true then do
    let st ← st.updateDelivery { st.delivery with
      status := if st.delivery.status = .sending then .failed else st.delivery.status
      nextAttemptAt := some (clock.now + deployment.resolvePendingClaimLeaseMs)
      updatedAt := clock.now }
    .ok (some ⟨st.delivery.id, st.delivery.tenantId, st.delivery.status, st.delivery.attempts⟩, st)
  else .ok (none, st)

/-! ## The authority to send -/

/-- `WebhookDeliverySendAuthority`. -/
inductive WebhookDeliverySendAuthority
  | eligible
  | paused
  | terminal
  | notFound
  deriving DecidableEq

/-- What `validateActiveDeliverySendAuthority` reads. -/
structure LeaseState where
  tenant : Tenant
  endpointActive : Bool
  attempts : Int
  hasExactCreditReservation : Bool

/-- The query for the lease state. -/
def DeliveryState.leaseState (st : DeliveryState) (tenantId deliveryId : String)
    (expectedAttempts : Int) : Option LeaseState :=
  if st.Names tenantId deliveryId ∧ st.EndpointJoins ∧ st.delivery.status = .sending ∧
      st.delivery.attempts = expectedAttempts then
    some ⟨st.tenant, st.endpoint.active, st.delivery.attempts, st.HasExactCreditReservation⟩
  else none

/-- `validateActiveDeliverySendAuthority`.  Its query locks the tenant and the endpoint
but not the delivery, so it may have seen another state, `seen`. -/
def validateActiveDeliverySendAuthority (isControl : Char → Bool) (st seen : DeliveryState)
    (tenantId deliveryId : String) (expectedAttempts now : Int) :
    Except DeliveryError (WebhookDeliverySendAuthority × DeliveryState) :=
  match seen.leaseState tenantId deliveryId expectedAttempts with
  | none => .ok (.notFound, st)
  | some current =>
      if current.attempts ≠ expectedAttempts then .ok (.notFound, st)
      else if current.endpointActive = true ∧ current.tenant.PaidThrough isJsBlank now ∧
          current.hasExactCreditReservation = true then .ok (.eligible, st)
      else if current.endpointActive = false ∨ current.tenant.status = .purged then do
        let (_, st) ← settleDeadLetteredInTransaction isControl st true tenantId deliveryId
          expectedAttempts now
        .ok (.terminal, st)
      else if st.Names tenantId deliveryId ∧ st.delivery.status = .sending ∧
          st.delivery.attempts = expectedAttempts then do
        let st ← st.updateDelivery { st.delivery with
          status := .failed
          nextAttemptAt := some now
          updatedAt := now }
        .ok (.paused, st)
      else .ok (.paused, st)

/-! ## Settlements of an attempt -/

/-- `markDelivered`. -/
def markDelivered (st : DeliveryState) (tenantId deliveryId : String)
    (expectedAttempts now : Int) :
    Except DeliveryError (WebhookDeliveryReplayState × DeliveryState) :=
  if st.Names tenantId deliveryId ∧ st.delivery.status = .sending ∧
      st.delivery.attempts = expectedAttempts then do
    let st ← st.updateDelivery { st.delivery.erased with
      status := .delivered
      deliveredAt := some now
      nextAttemptAt := none
      updatedAt := now }
    let state ← loadTransitionedState st tenantId deliveryId .delivered expectedAttempts
    .ok (state, st)
  else do
    let state ← loadTransitionedState st tenantId deliveryId .delivered expectedAttempts
    .ok (state, st)

/-- `nextRetryAt`. -/
def nextRetryAt (attempts now : Int) : Int :=
  now + min (2 ^ (max 1 (min attempts 8) - 1).toNat * 60000) 300000

/-- `markReplayFailed`. -/
def markReplayFailed (st : DeliveryState) (tenantId deliveryId : String) (attempts now : Int) :
    Except DeliveryError (WebhookDeliveryReplayState × DeliveryState) :=
  if st.Names tenantId deliveryId ∧ st.delivery.status = .sending ∧
      st.delivery.attempts = attempts then do
    let st ← st.updateDelivery { st.delivery with
      status := .failed
      nextAttemptAt := some (nextRetryAt attempts now)
      updatedAt := now }
    let state ← loadTransitionedState st tenantId deliveryId .failed attempts
    .ok (state, st)
  else do
    let state ← loadTransitionedState st tenantId deliveryId .failed attempts
    .ok (state, st)

/-- `markDeadLettered`. -/
def markDeadLettered (isControl : Char → Bool) (st : DeliveryState)
    (tenantId deliveryId : String) (expectedAttempts now : Int) :
    Except DeliveryError (WebhookDeliveryReplayState × DeliveryState) :=
  settleDeadLetteredInTransaction isControl st false tenantId deliveryId expectedAttempts now

/-! ## The deletion of the tenant -/

/-- The transaction of `requestDeletionForTarget`, with the part of
`terminalizePaidWorkForDeletion` on the delivery.  The assertion about the provenance of
all paid work, which only refuses, is left out. -/
def commitDeletionBarrier (isControl : Char → Bool) (st : DeliveryState) (platformAdmin : Bool)
    (now : Int) : Except DeliveryError DeliveryState :=
  if st.tenant.status = .purged ∨
      (st.tenant.status = .suspended ∧ st.tenant.deletedAt = none ∧ st.deletionBarrier = true) then
    .ok st
  else do
    let suspended := { st with
      tenant := { st.tenant with status := .suspended, deletedAt := none }
      endpoint := { st.endpoint with active := false }
      deletionBarrier := true }
    if st.delivery.status.terminal = true then .ok suspended
    else do
      ensure st.HasExactCreditReservation
        (.conflict "Tenant deletion paid-work refund settlement failed.")
      let (settlement, billing) ← (settlePositiveCreditValue isControl st.billing platformAdmin
        ⟨some st.delivery.tenantId, some webhookCreditCost, some (refundReason st.delivery.id),
          some (refundId st.delivery.id)⟩).mapError .billing
      ensure (settlement.transactionId = refundId st.delivery.id ∧
          settlement.creditedValue = webhookCreditCost ∧ settlement.replayed = false)
        (.conflict "Tenant deletion paid-work refund settlement failed.")
      { suspended with billing := billing }.updateDelivery { st.delivery.erased with
        status := .deadLettered
        nextAttemptAt := none
        updatedAt := now }

/-- The trigger `terminalize_purged_tenant_webhooks`, which refunds nothing. -/
def terminalizePurgedTenantWebhooks (st : DeliveryState) (databaseNow : Int) :
    Except DeliveryError DeliveryState :=
  if st.delivery.status.terminal = true then
    .ok { st with endpoint := { st.endpoint with active := false } }
  else
    DeliveryState.updateDelivery { st with endpoint := { st.endpoint with active := false } }
      { st.delivery with
        status := .deadLettered
        nextAttemptAt := none
        updatedAt := databaseNow }

/-- `finalizeDeletionBarrier`, the only writer of the status `PURGED`. -/
def finalizeDeletionBarrier (st : DeliveryState) (barrierCreatedAt databaseNow : Int) :
    Except DeliveryError DeliveryState :=
  if st.tenant.status = .purged ∧ st.tenant.deletedAt.isSome = true then .ok st
  else do
    ensure (st.deletionBarrier = true ∧ st.tenant.status = .suspended ∧
        st.tenant.deletedAt = none)
      (.conflict "Tenant deletion barrier is no longer active.")
    terminalizePurgedTenantWebhooks { st with
      tenant := { st.tenant with
        status := .purged
        deletedAt := some barrierCreatedAt
        stripeSubscriptionId := none } } databaseNow

/-! ## Runs -/

/-- A function of the store, with its arguments and the times it reads. -/
inductive StoreCall
  | claimInitial (tenantId deliveryId : String) (clock : Clock)
  | claimReplay (deliveryId : String) (clock : Clock) (current : Option WebhookDelivery)
  | claimRecoverable (clock : Clock) (free : Bool)
  | queued (tenantId deliveryId : String) (now : Int)
  | sendAuthority (seen : DeliveryState) (tenantId deliveryId : String)
      (expectedAttempts now : Int)
  | delivered (tenantId deliveryId : String) (expectedAttempts now : Int)
  | replayFailed (tenantId deliveryId : String) (attempts now : Int)
  | deadLettered (tenantId deliveryId : String) (expectedAttempts now : Int)

/-- The transaction of a call. -/
def StoreCall.run (deployment : WebhookDeployment) (st : DeliveryState) :
    StoreCall → Except DeliveryError DeliveryState
  | .claimInitial tenantId deliveryId clock =>
      (claimInitialDelivery st tenantId deliveryId clock).map Prod.snd
  | .claimReplay deliveryId clock current =>
      (claimReplayByDeliveryId deployment st deliveryId clock current).map Prod.snd
  | .claimRecoverable clock free =>
      (claimRecoverableForQueue deployment st clock free).map Prod.snd
  | .queued tenantId deliveryId now => markQueued st tenantId deliveryId now
  | .sendAuthority seen tenantId deliveryId expectedAttempts now =>
      (validateActiveDeliverySendAuthority deployment.isControl st seen tenantId deliveryId
        expectedAttempts now).map Prod.snd
  | .delivered tenantId deliveryId expectedAttempts now =>
      (markDelivered st tenantId deliveryId expectedAttempts now).map Prod.snd
  | .replayFailed tenantId deliveryId attempts now =>
      (markReplayFailed st tenantId deliveryId attempts now).map Prod.snd
  | .deadLettered tenantId deliveryId expectedAttempts now =>
      (markDeadLettered deployment.isControl st tenantId deliveryId expectedAttempts now).map
        Prod.snd

/-- The attempt number that a settling call carries. -/
def StoreCall.carriedAttempts : StoreCall → Option Int
  | .sendAuthority _ _ _ expectedAttempts _ => some expectedAttempts
  | .delivered _ _ expectedAttempts _ => some expectedAttempts
  | .replayFailed _ _ attempts _ => some attempts
  | .deadLettered _ _ expectedAttempts _ => some expectedAttempts
  | _ => none

/-- What can happen to the delivery with the given id: a call of the store, a change of
the tenant or of the endpoint, the deletion of the tenant, or a call of the wallet under
another id. -/
inductive DeliveryEvent (deliveryId : String)
  | call (made : StoreCall)
  | tenantChanged (tenant : Tenant) (notPurged : tenant.status ≠ .purged)
  | endpointChanged (active : Bool) (secret : String)
  | deletionBarrier (platformAdmin : Bool) (now : Int)
  | deletionFinalized (barrierCreatedAt databaseNow : Int)
  | wallet (request : WalletRequest)
      (foreign : request.call.transactionId ≠ some (refundId deliveryId))

/-- The event is a call of the wallet. -/
def DeliveryEvent.isWallet {deliveryId : String} : DeliveryEvent deliveryId → Bool
  | .wallet _ _ => true
  | _ => false

/-- The transaction of an event. -/
def DeliveryEvent.run (deployment : WebhookDeployment) {deliveryId : String}
    (st : DeliveryState) : DeliveryEvent deliveryId → Except DeliveryError DeliveryState
  | .call made => made.run deployment st
  | .tenantChanged tenant _ => .ok { st with tenant := tenant }
  | .endpointChanged active secret =>
      .ok { st with endpoint := { st.endpoint with active := active, secret := secret } }
  | .deletionBarrier platformAdmin now =>
      commitDeletionBarrier deployment.isControl st platformAdmin now
  | .deletionFinalized barrierCreatedAt databaseNow =>
      finalizeDeletionBarrier st barrierCreatedAt databaseNow
  | .wallet request _ =>
      .ok { st with billing := (commit deployment.isControl st.billing request).2 }

/-- The step function: the error, where there is one, and the state afterwards. -/
def deliveryStep (deployment : WebhookDeployment) (deliveryId : String) (st : DeliveryState)
    (event : DeliveryEvent deliveryId) : Option DeliveryError × DeliveryState :=
  match event.run deployment st with
  | .ok next => (none, next)
  | .error error => (some error, st)

end LunchLineup.Webhooks
