import LunchLineup.Billing.LedgerInvariant
import LunchLineup.Lib.Attempts

/-!
# Purchases of credit packs

A paid Stripe checkout session either adds the credits of its pack to the wallet
or is refunded.  A checkout webhook runs two transactions: the first
(`preparePurchaseTransaction`) decides and, where the purchase is good, grants;
the second (`reconcileRefundTransaction`) runs only where a refund is required, asks
Stripe for the refund and records what came of it.  A refund webhook runs the
second alone.

What the service knows about a session are rows of `"BillingEvent"`; their ids are
digests of the session, the refund and its status, and are taken to be distinct
where these are.  Every transaction holds the tenant's billing lock, so that
transactions do not overlap, but one that fails is rolled back while a refund it
has asked for stays, or is still on its way.
-/

namespace LunchLineup.Billing

open LunchLineup.Lib

/-! ## Texts -/

/-- `text.toUpperCase()`, as far as the result may be ASCII. -/
def jsToUpperCase (text : String) : String :=
  String.ofList <| text.toList.map fun c =>
    if c = 'ı' then 'I' else if c = 'ſ' then 'S' else c.toUpper

/-- `text.toLowerCase()`, as far as the result may be ASCII. -/
def jsToLowerCase (text : String) : String :=
  String.ofList <| text.toList.map fun c => if c.toNat = 0x212a then 'k' else c.toLower

/-- `asString`. -/
def asString (value : Option String) : Option String := value.filter fun text => !isJsBlank text

/-- `asString(value)?.toLowerCase()`. -/
def asLowerString (value : Option String) : Option String := (asString value).map jsToLowerCase

/-- A JavaScript string or `null` in a condition. -/
def truthy (value : Option String) : Bool := value.any (· ≠ "")

/-- `parsePositiveInteger`. -/
def parsePositiveInteger (value : Option String) : Option Int :=
  match value.map String.toList with
  | some (first :: rest) =>
      if '1' ≤ first ∧ first ≤ '9' ∧ rest.all Char.isDigit then
        let parsed : Int := (first :: rest).foldl (fun n c => n * 10 + (c.toNat - '0'.toNat)) 0
        if parsed ≤ maxSafeInteger then some parsed else none
      else none
  | _ => none

/-- `/^[a-z]{3}$/`. -/
def isCurrencyCode (text : String) : Bool :=
  text.toList.length == 3 && text.toList.all fun c => 'a' ≤ c && c ≤ 'z'

/-! ## Packs -/

/-- `CreditPackConfig`. -/
structure CreditPackConfig where
  code : String
  credits : Int
  deriving DecidableEq

/-- `CREDIT_PACKS`. -/
def creditPacks : List CreditPackConfig :=
  [⟨"CREDITS_100", 100⟩, ⟨"CREDITS_500", 500⟩, ⟨"CREDITS_2000", 2000⟩]

/-- `CREDIT_PACK_PURCHASE_TYPE`. -/
def creditPackPurchaseType : String := "credit_pack"

/-- `findCreditPack`. -/
def findCreditPack (code : Option String) : Option CreditPackConfig :=
  let normalized := (code.map fun text => jsToUpperCase (jsTrim text)).getD ""
  creditPacks.find? (·.code = normalized)

/-! ## Objects of Stripe

A customer, a price or a payment intent may come as its id or expanded; the models
keep the id. -/

/-- The metadata of a checkout session. -/
structure SessionMetadata where
  purchaseType : Option String
  tenantId : Option String
  creditPackCode : Option String
  creditAmount : Option String
  priceId : Option String
  unitAmount : Option String
  currency : Option String
  quantity : Option String
  deriving DecidableEq

/-- A checkout session. -/
structure Session where
  id : String
  mode : Option String
  status : Option String
  paymentStatus : Option String
  amountSubtotal : Option Int
  amountTotal : Option Int
  currency : Option String
  customer : Option String
  clientReferenceId : Option String
  paymentIntent : Option String
  metadata : SessionMetadata

/-- The price of a line item. -/
structure LinePrice where
  id : Option String
  type : Option String
  unitAmount : Option Int
  currency : Option String

/-- A line item of a session. -/
structure LineItem where
  price : LinePrice
  quantity : Option Int
  amountSubtotal : Option Int
  amountTotal : Option Int
  currency : Option String

/-- `LineItems`. -/
structure LineItems where
  data : List LineItem
  hasMore : Bool

/-- `PurchaseContext`: a session that names a tenant. -/
structure PurchaseContext where
  session : Session
  lineItems : LineItems
  tenantId : String
  authoritative : asString session.metadata.tenantId = some tenantId

/-- `TenantStatus`. -/
inductive TenantStatus
  | trial
  | active
  | pastDue
  | suspended
  | cancelled
  | purged
  deriving DecidableEq

/-- `TenantState`. -/
structure TenantState where
  planTier : String
  status : TenantStatus
  deletedAt : Option Int
  stripeCustomerId : Option String
  stripeSubscriptionId : Option String
  stripeSubscriptionCurrentPeriodEnd : Option Int

/-- A subscription, as `subscriptions.retrieve` returns it. -/
structure StripeSubscription where
  id : Option String
  deleted : Bool
  status : Option String
  customer : Option String
  priceIds : List (Option String)
  tenantId : Option String

/-! ## Verification -/

/-- `CreditPurchaseDisposition`. -/
inductive Disposition
  | applied
  | skippedDeleted
  | skippedInactiveSubscription
  | skippedMismatch
  | skippedNotComplete
  | skippedSuspended
  | skippedTenantMismatch
  | skippedUnpaid
  | legacyRefundRecovery
  deriving DecidableEq

/-- `AuthoritativePrice`. -/
structure AuthoritativePrice where
  priceId : String
  amount : Int
  currency : String

/-- `PurchaseVerification`. -/
structure PurchaseVerification where
  pack : Option CreditPackConfig
  price : Option AuthoritativePrice
  disposition : Disposition

/-- Why a transaction was rolled back. -/
inductive PurchaseError
  | serviceUnavailable (message : String)
  | billing (error : BillingError)
  | uniqueViolation
  | provider
  | rolledBack
  deriving DecidableEq

/-- `buildCreditPackMetadata`. -/
def buildCreditPackMetadata (tenantId : String) (pack : CreditPackConfig) (priceId : String)
    (unitAmount : Int) (currency : String) : SessionMetadata where
  purchaseType := some creditPackPurchaseType
  tenantId := some tenantId
  creditPackCode := some pack.code
  creditAmount := some (toString pack.credits)
  priceId := some priceId
  unitAmount := some (toString unitAmount)
  currency := some (jsToLowerCase currency)
  quantity := some "1"

/-- The metadata has one of the fields that newer sessions carry. -/
def SessionMetadata.hasSnapshotField (metadata : SessionMetadata) : Bool :=
  metadata.unitAmount.isSome || metadata.currency.isSome || metadata.quantity.isSome

namespace PurchaseContext

variable (context : PurchaseContext)

/-- The price of a session without a snapshot of it. -/
def legacyPrice (pack : CreditPackConfig) : Option AuthoritativePrice := do
  let metadata := context.session.metadata
  let priceId ← asString metadata.priceId
  let linePrice ← context.lineItems.data.head?.map (·.price)
  let amount ← linePrice.unitAmount
  let currency ← asLowerString linePrice.currency
  if metadata.purchaseType = some creditPackPurchaseType ∧
      asString metadata.tenantId = some context.tenantId ∧
      asString metadata.creditPackCode = some pack.code ∧
      asString metadata.creditAmount = some (toString pack.credits) ∧
      asString linePrice.id = some priceId ∧ asLowerString linePrice.type = some "one_time" ∧
      amount ≤ maxSafeInteger ∧ 0 < amount ∧ isCurrencyCode currency = true then
    some ⟨priceId, amount, currency⟩
  else none

/-- `resolveMetadataPrice`; `creditPackMetadataMatches` compares every field. -/
def resolveMetadataPrice (pack : CreditPackConfig) : Option AuthoritativePrice :=
  let metadata := context.session.metadata
  if metadata.hasSnapshotField then do
    let priceId ← asString metadata.priceId
    let amount ← parsePositiveInteger metadata.unitAmount
    let currency ← asLowerString metadata.currency
    if isCurrencyCode currency = true ∧
        metadata = buildCreditPackMetadata context.tenantId pack priceId amount currency then
      some ⟨priceId, amount, currency⟩
    else none
  else context.legacyPrice pack

/-- `isExactLineItem`. -/
def isExactLineItem (price : AuthoritativePrice) : Bool :=
  match context.lineItems.hasMore, context.lineItems.data with
  | false, [lineItem] =>
      asString lineItem.price.id = some price.priceId ∧ lineItem.quantity = some 1 ∧
        lineItem.amountSubtotal = some price.amount ∧ lineItem.amountTotal = some price.amount ∧
        asLowerString lineItem.currency = some price.currency ∧
        context.session.amountSubtotal = some price.amount ∧
        context.session.amountTotal = some price.amount ∧
        asLowerString context.session.currency = some price.currency
  | _, _ => false

/-- The customer and the tenant of the session are not the tenant's. -/
def tenantMismatch (tenant : TenantState) : Bool :=
  (asString context.session.customer).isNone ||
    (truthy tenant.stripeCustomerId &&
      decide (asString context.session.customer ≠ tenant.stripeCustomerId)) ||
    (!truthy tenant.stripeCustomerId && tenant.deletedAt.isNone &&
      decide (tenant.status ≠ .purged) && decide (tenant.status ≠ .suspended)) ||
    decide (asString context.session.clientReferenceId ≠ some context.tenantId)

end PurchaseContext

/-- `resolveSessionDisposition`. -/
def Session.resolveSessionDisposition (session : Session) : Option Disposition :=
  if asLowerString session.mode ≠ some "payment" then some .skippedMismatch
  else if asLowerString session.status ≠ some "complete" then some .skippedNotComplete
  else if asLowerString session.paymentStatus ≠ some "paid" then some .skippedUnpaid
  else none

/-- `resolveEffectiveTenantEntitlement`: the entitlement comes from a paid
subscription. -/
def TenantState.hasPaidSubscription (tenant : TenantState) (now : Int) : Bool :=
  ["STARTER", "GROWTH", "ENTERPRISE"].contains (jsToUpperCase (jsTrim tenant.planTier)) &&
    decide (tenant.status = .active) && (asString tenant.stripeSubscriptionId).isSome &&
    tenant.stripeSubscriptionCurrentPeriodEnd.any (now < ·)

/-- `resolveTenantDisposition`. -/
def TenantState.resolveTenantDisposition (tenant : TenantState) (now : Int) : Option Disposition :=
  if tenant.deletedAt.isSome ∨ tenant.status = .purged then some .skippedDeleted
  else if tenant.status = .suspended then some .skippedSuspended
  else if tenant.hasPaidSubscription now = false then some .skippedInactiveSubscription
  else none

/-- `hasManagedSubscriptionPrice`; `configured` are the prices of the plans. -/
def StripeSubscription.hasManagedSubscriptionPrice (subscription : StripeSubscription)
    (configured : List String) : Bool :=
  ((subscription.priceIds.filterMap asString).filter (configured.contains ·)).dedup.length == 1

/-- `resolveSubscriptionDisposition`. -/
def TenantState.resolveSubscriptionDisposition (tenant : TenantState) (tenantId : String)
    (configured : List String) (subscription : StripeSubscription) : Option Disposition :=
  if subscription.deleted = true ∨ asString subscription.id ≠ tenant.stripeSubscriptionId ∨
      asLowerString subscription.status ≠ some "active" ∨
      subscription.hasManagedSubscriptionPrice configured = false then
    some .skippedInactiveSubscription
  else if asString subscription.customer ≠ tenant.stripeCustomerId ∨
      (asString subscription.tenantId).any (· ≠ tenantId) then some .skippedTenantMismatch
  else none

/-- One delivery of a checkout webhook: the event, and what Stripe, the tenant's row
and the clock say at that moment.  A subscription that is `none` could not be
retrieved. -/
structure CheckoutDelivery where
  eventId : String
  status : Option String
  paymentStatus : Option String
  tenant : Option TenantState
  subscription : Option StripeSubscription
  configured : List String
  now : Int

/-- The session as a delivery retrieves it.  Only its two statuses move. -/
def PurchaseContext.retrieved (context : PurchaseContext) (delivery : CheckoutDelivery) :
    PurchaseContext where
  session := { context.session with
    status := delivery.status, paymentStatus := delivery.paymentStatus }
  lineItems := context.lineItems
  tenantId := context.tenantId
  authoritative := context.authoritative

/-- `verifyPurchase`. -/
def verifyPurchase (context : PurchaseContext) (tenant : TenantState)
    (delivery : CheckoutDelivery) : Except PurchaseError PurchaseVerification :=
  let pack := findCreditPack context.session.metadata.creditPackCode
  match context.session.resolveSessionDisposition with
  | some disposition => .ok ⟨pack, none, disposition⟩
  | none =>
      match pack with
      | none => .ok ⟨none, none, .skippedMismatch⟩
      | some pack =>
          match context.resolveMetadataPrice pack with
          | none => .ok ⟨some pack, none, .skippedMismatch⟩
          | some price =>
              if context.isExactLineItem price = false then .ok ⟨some pack, price, .skippedMismatch⟩
              else if context.tenantMismatch tenant then .ok ⟨some pack, price, .skippedTenantMismatch⟩
              else
                match tenant.resolveTenantDisposition delivery.now with
                | some disposition => .ok ⟨some pack, price, disposition⟩
                | none =>
                    match delivery.subscription with
                    | none => .error .provider
                    | some subscription =>
                        .ok ⟨some pack, price, (tenant.resolveSubscriptionDisposition
                          context.tenantId delivery.configured subscription).getD .applied⟩

/-- `requiresRefund`. -/
def requiresRefund (context : PurchaseContext) (disposition : Disposition) : Bool :=
  decide (disposition ≠ .applied) && context.session.resolveSessionDisposition.isNone

/-! ## Rows -/

/-- The status of a refund. -/
inductive RefundStatus
  | pending
  | requiresAction
  | succeeded
  | failed
  | canceled
  deriving DecidableEq

/-- What the rows of `"BillingEvent"` about a session are. -/
inductive PurchaseSource
  /-- `stripe_credit_purchase` -/
  | purchase
  /-- `stripe_credit_purchase_refund` -/
  | refund
  /-- `stripe_credit_purchase_terminal` -/
  | terminal
  deriving DecidableEq

/-- `outcomeState`. -/
inductive OutcomeState
  | complete
  | recoverable
  | refundRequired
  | refundObserved
  | refundConfirmed
  deriving DecidableEq

/-- The id of a row, by what its digest is taken of. -/
inductive BillingEventId
  | purchase
  | recoverable (eventId : String)
  | refundState (refundId : String) (status : RefundStatus)
  | refundTerminal
  | legacy (id : String)
  deriving DecidableEq

/-- The metadata of a row about this session. -/
structure EventMetadata where
  source : PurchaseSource
  outcomeState : Option OutcomeState := none
  disposition : Option Disposition := none
  creditPackCode : Option String := none
  creditAmount : Option Int := none
  refundId : Option String := none
  attempt : Option Int := none
  legacyRefundId : Option String := none
  deriving DecidableEq

/-- A row of `"BillingEvent"` whose `checkoutSessionId` is the session. -/
structure BillingEvent where
  id : BillingEventId
  metadata : EventMetadata
  deriving DecidableEq

/-- The tables that the transactions read and write; the rows are in the order of
`createdAt`. -/
structure PurchaseDatabase where
  store : Store
  events : List BillingEvent
  deriving DecidableEq

/-- `CreditPackSettlementResult`. -/
structure CreditPackSettlementResult where
  transactionId : String
  newBalance : Int
  replayed : Bool
  deriving DecidableEq

/-- The state of a `PurchasePreparation`. -/
inductive PreparationState
  | complete
  | recoverable
  | refundRequired
  deriving DecidableEq

/-- `PurchasePreparation`. -/
structure PurchasePreparation where
  state : PreparationState
  settlement : Option CreditPackSettlementResult
  deriving DecidableEq

/-- `purchaseTransactionId`. -/
def purchaseTransactionId (sessionId : String) : String := "stripe-credit-purchase-" ++ sessionId

/-- The reason of a grant. -/
def purchaseReason (pack : CreditPackConfig) : String := "Stripe credit pack purchase " ++ pack.code

/-- `resolveExistingPurchaseSettlement`.  The columns are `INTEGER`, so the row's
numbers are safe. -/
def PurchaseContext.resolveExistingPurchaseSettlement (context : PurchaseContext)
    (existing : CreditTransaction) (recorded : Option BillingEvent) : Except PurchaseError CreditPackSettlementResult :=
  let malformed : PurchaseError :=
    .serviceUnavailable "Existing Stripe credit purchase settlement is malformed or mismatched"
  match findCreditPack context.session.metadata.creditPackCode, existing.balanceAfter,
    existing.debtAfter, recorded with
  | some pack, some balanceAfter, some debtAfter, some recorded => do
      ensure (context.session.metadata.purchaseType = some creditPackPurchaseType ∧
        asString context.session.metadata.creditAmount = some (toString pack.credits)) malformed
      ensure (existing.id = purchaseTransactionId context.session.id ∧
        existing.tenantId = context.tenantId ∧ 0 ≤ existing.amount ∧ existing.debtAmount ≤ 0 ∧
        existing.amount - existing.debtAmount = pack.credits ∧
        existing.reason = purchaseReason pack ∧ 0 ≤ balanceAfter ∧ 0 ≤ debtAfter) malformed
      ensure (recorded.metadata.source = .purchase ∧
        recorded.metadata.outcomeState = some .complete ∧
        recorded.metadata.disposition = some .applied ∧
        asString recorded.metadata.creditPackCode = some pack.code ∧
        recorded.metadata.creditAmount = some pack.credits) malformed
      .ok ⟨existing.id, balanceAfter, true⟩
  | _, _, _, _ => .error malformed

namespace PurchaseDatabase

variable (db : PurchaseDatabase)

/-- `billingEvent.findUnique`. -/
def findEvent (id : BillingEventId) : Option BillingEvent := db.events.find? (·.id = id)

/-- `billingEvent.create`. -/
def createEvent (event : BillingEvent) : Except PurchaseError PurchaseDatabase := do
  ensure (∀ other ∈ db.events, other.id ≠ event.id) .uniqueViolation
  .ok { db with events := db.events ++ [event] }

/-- `hasRefundTerminal`. -/
def hasRefundTerminal : Bool := (db.findEvent .refundTerminal).isSome

/-- The ledger row of the session's grant. -/
def existingTransaction (context : PurchaseContext) : Option CreditTransaction :=
  db.store.findUnique false context.tenantId (purchaseTransactionId context.session.id)

/-! ## The first transaction -/

/-- `recordPurchaseEvent`. -/
def recordPurchaseEvent (context : PurchaseContext) (verification : PurchaseVerification)
    (outcomeState : OutcomeState) (recordId : BillingEventId) :
    Except PurchaseError PurchaseDatabase :=
  db.createEvent ⟨recordId, {
    source := .purchase
    outcomeState := some outcomeState
    disposition := some verification.disposition
    creditPackCode := (verification.pack.map (·.code)).or
      (asString context.session.metadata.creditPackCode)
    creditAmount := verification.pack.map (·.credits) }⟩

/-- `findLegacyPurchaseEvent`, and the refund it names. -/
def legacyRefundId : Option String := db.events.head?.bind fun legacy => asString legacy.metadata.refundId

/-- `recordLegacyRefundRecoveryState`. -/
def recordLegacyRefundRecoveryState (refundId : String) : Except PurchaseError PurchaseDatabase :=
  db.createEvent ⟨.purchase, {
    source := .purchase
    outcomeState := some .refundRequired
    disposition := some .legacyRefundRecovery
    legacyRefundId := some refundId }⟩

/-- `grantPurchase`. -/
def grantPurchase (context : PurchaseContext) (pack : CreditPackConfig) :
    Except PurchaseError (CreditPackSettlementResult × PurchaseDatabase) := do
  let (settlement, store) ← (recordPositiveCreditSettlementInTransaction db.store false {
    tenantId := context.tenantId
    amount := .integer pack.credits
    reason := purchaseReason pack
    transactionId := purchaseTransactionId context.session.id }).mapError PurchaseError.billing
  .ok (⟨settlement.transactionId, settlement.newBalance, settlement.replayed⟩,
    { db with store := store })

/-- The part of `preparePurchaseTransaction` that finds no outcome of the session
yet. -/
def decidePurchase (context : PurchaseContext) (delivery : CheckoutDelivery) :
    Except PurchaseError (PurchasePreparation × PurchaseDatabase) :=
  match delivery.tenant with
  | none => .ok (⟨.complete, none⟩, db)
  | some tenant => do
      let verification ← verifyPurchase context tenant delivery
      if verification.disposition = .skippedUnpaid then
        if (db.findEvent (.recoverable delivery.eventId)).isSome then .ok (⟨.recoverable, none⟩, db)
        else do
          let db ← db.recordPurchaseEvent context verification .recoverable
            (.recoverable delivery.eventId)
          .ok (⟨.recoverable, none⟩, db)
      else if requiresRefund context verification.disposition then do
        let db ← db.recordPurchaseEvent context verification .refundRequired .purchase
        .ok (⟨.refundRequired, none⟩, db)
      else do
        let db ← db.recordPurchaseEvent context verification .complete .purchase
        match verification.disposition, verification.pack, verification.price with
        | .applied, some pack, some _ => do
            let (settlement, db) ← db.grantPurchase context pack
            .ok (⟨.complete, some settlement⟩, db)
        | _, _, _ => .ok (⟨.complete, none⟩, db)

/-- `preparePurchaseTransaction`. -/
def preparePurchaseTransaction (context : PurchaseContext) (delivery : CheckoutDelivery) :
    Except PurchaseError (PurchasePreparation × PurchaseDatabase) :=
  match db.hasRefundTerminal, db.existingTransaction context with
  | true, some _ =>
      .error (.serviceUnavailable "Stripe credit purchase has conflicting terminal outcomes")
  | true, none => .ok (⟨.complete, none⟩, db)
  | false, some existing => do
      let settlement ← context.resolveExistingPurchaseSettlement existing (db.findEvent .purchase)
      .ok (⟨.complete, some settlement⟩, db)
  | false, none =>
      match db.findEvent .purchase with
      | some recorded =>
          match recorded.metadata.outcomeState with
          | some .refundRequired => .ok (⟨.refundRequired, none⟩, db)
          | some .complete => .error (.serviceUnavailable
              "Stripe credit purchase completion is missing its immutable settlement")
          | _ => db.decidePurchase context delivery
      | none =>
          match db.legacyRefundId with
          | some refundId => do
              let db ← db.recordLegacyRefundRecoveryState refundId
              .ok (⟨.refundRequired, none⟩, db)
          | none => db.decidePurchase context delivery

end PurchaseDatabase

/-! ## Refunds at the provider -/

/-- A refund, with the metadata it was created with. -/
structure ProviderRefund where
  id : String
  status : RefundStatus
  amount : Option Int
  currency : Option String
  paymentIntent : Option String
  purchaseType : Option String
  tenantId : Option String
  checkoutSessionId : Option String
  deriving DecidableEq

/-- The refund pays, or may still pay. -/
def ProviderRefund.Active (refund : ProviderRefund) : Prop :=
  refund.status ≠ .failed ∧ refund.status ≠ .canceled

instance (refund : ProviderRefund) : Decidable refund.Active := inferInstanceAs (Decidable (_ ∧ _))

/-- `PurchaseRefund`. -/
structure PurchaseRefund where
  id : String
  status : RefundStatus
  deriving DecidableEq

/-- `validateRefund`. -/
def PurchaseContext.validateRefund (context : PurchaseContext) (refund : ProviderRefund) :
    Except PurchaseError PurchaseRefund :=
  let unverified : PurchaseError :=
    .serviceUnavailable "Stripe credit purchase refund could not be verified"
  do
    ensure ((asString (some refund.id)).isSome = true ∧
      refund.amount = context.session.amountTotal ∧
      asLowerString refund.currency = asLowerString context.session.currency ∧
      asString refund.paymentIntent = asString context.session.paymentIntent ∧
      refund.purchaseType = some creditPackPurchaseType ∧
      asString refund.tenantId = some context.tenantId ∧
      asString refund.checkoutSessionId = some context.session.id) unverified
    .ok ⟨refund.id, refund.status⟩

/-- `retrieveRefund`. -/
def PurchaseContext.retrieveRefund (context : PurchaseContext)
    (attempts : List (Attempt ProviderRefund)) (refundId : String) : Except PurchaseError PurchaseRefund :=
  match attempts.find? (·.current.id = refundId) with
  | none => .error (.serviceUnavailable "Stripe credit purchase refund lookup failed")
  | some attempt => context.validateRefund attempt.current

/-- What Stripe chooses for a new refund. -/
structure NewRefund where
  id : String
  status : RefundStatus
  currency : Option String

/-- The request of `createRefund`, filled in by Stripe. -/
def PurchaseContext.refundRequest (context : PurchaseContext) (new : NewRefund) :
    Except PurchaseError ProviderRefund :=
  match asString context.session.paymentIntent, context.session.amountTotal,
    asLowerString context.session.currency with
  | some paymentIntent, some amount, some _ => do
      ensure (0 < amount ∧ amount ≤ maxSafeInteger) (.serviceUnavailable
        "Stripe payment amount is not authoritative for refund")
      .ok {
        id := new.id
        status := new.status
        amount := some amount
        currency := new.currency
        paymentIntent := some paymentIntent
        purchaseType := some creditPackPurchaseType
        tenantId := some context.tenantId
        checkoutSessionId := some context.session.id }
  | none, _, _ =>
      .error (.serviceUnavailable "Stripe payment identity is not authoritative for refund")
  | _, _, _ =>
      .error (.serviceUnavailable "Stripe payment amount is not authoritative for refund")

/-! ## The second transaction -/

/-- `MAX_REFUND_ATTEMPTS`. -/
def maxRefundAttempts : Int := 5

/-- `metadataNumber(record.metadata, 'attempt') ?? -1`. -/
def BillingEvent.attempt (record : BillingEvent) : Int := record.metadata.attempt.getD (-1)

/-- The largest attempt of some records. -/
def largestAttempt (records : List BillingEvent) : Int :=
  records.foldl (fun maximum record => max maximum record.attempt) (-1)

/-- What `reconcileRefundTransaction` does before it asks for a refund: it is done
without one, or asks for an attempt. -/
inductive RefundPlan
  | finished (recoverable : Bool) (db : PurchaseDatabase)
  | create (attempt : Int) (db : PurchaseDatabase)

namespace PurchaseDatabase

variable (db : PurchaseDatabase)

/-- `refundRecords`. -/
def refundRecords : List BillingEvent := db.events.filter (·.metadata.source = .refund)

/-- `latest`. -/
def latestRecord : Option BillingEvent :=
  (db.refundRecords.mergeSort fun left right => decide (left.attempt ≤ right.attempt)).getLast?

/-- `recordRefundState`. -/
def recordRefundState (refund : PurchaseRefund) (attempt : Int) :
    Except PurchaseError PurchaseDatabase :=
  if (db.findEvent (.refundState refund.id refund.status)).isSome then .ok db
  else db.createEvent ⟨.refundState refund.id refund.status, {
    source := .refund
    outcomeState := some (if refund.status = .succeeded then .refundObserved else .recoverable)
    refundId := some refund.id
    attempt := some attempt }⟩

/-- `recordRefundTerminal`. -/
def recordRefundTerminal (refund : PurchaseRefund) (attempt : Int) :
    Except PurchaseError PurchaseDatabase :=
  if db.hasRefundTerminal then .ok db
  else db.createEvent ⟨.refundTerminal, {
    source := .terminal
    outcomeState := some .refundConfirmed
    refundId := some refund.id
    attempt := some attempt }⟩

/-- The attempt a retrieved refund counts as: the one recorded for it, or else one
more than the largest. -/
def attemptOf (refundId : String) : Int :=
  let known := largestAttempt (db.refundRecords.filter (asString ·.metadata.refundId = some refundId))
  if known < 0 then largestAttempt db.refundRecords + 1 else known

/-- `reconcileRefundTransaction`, where a refund is known. -/
def planKnown (refund : PurchaseRefund) : Except PurchaseError RefundPlan := do
  let attempt := db.attemptOf refund.id
  let db ← db.recordRefundState refund attempt
  match refund.status with
  | .succeeded => do
      let db ← db.recordRefundTerminal refund attempt
      .ok (.finished false db)
  | .pending | .requiresAction => .ok (.finished true db)
  | .failed | .canceled =>
      if maxRefundAttempts ≤ attempt + 1 then .ok (.finished true db)
      else .ok (.create (attempt + 1) db)

/-- `reconcileRefundTransaction`, up to `createRefund`. -/
def planRefund (context : PurchaseContext) (attempts : List (Attempt ProviderRefund))
    (webhookRefundId : Option String) : Except PurchaseError RefundPlan :=
  match db.existingTransaction context with
  | some _ =>
      .error (.serviceUnavailable "Stripe credit purchase has conflicting terminal outcomes")
  | none =>
      if db.hasRefundTerminal then .ok (.finished false db)
      else do
        let purchaseEvent := db.findEvent .purchase
        ensure (purchaseEvent.bind (·.metadata.outcomeState) = some .refundRequired)
          (.serviceUnavailable "Stripe credit purchase refund has no durable purchase state")
        let refundId := webhookRefundId.or
          ((db.latestRecord.bind fun latest => asString latest.metadata.refundId).or
            (purchaseEvent.bind fun event => asString event.metadata.legacyRefundId))
        match refundId with
        | some refundId => do
            let refund ← context.retrieveRefund attempts refundId
            db.planKnown refund
        | none => .ok (.create 0 db)

/-- `reconcileRefundTransaction`, from the response of `createRefund`. -/
def recordCreated (context : PurchaseContext) (attempt : Int) (response : ProviderRefund) :
    Except PurchaseError (Bool × PurchaseDatabase) := do
  let refund ← context.validateRefund response
  let db ← db.recordRefundState refund attempt
  if refund.status = .succeeded then do
    let db ← db.recordRefundTerminal refund attempt
    .ok (false, db)
  else .ok (true, db)

end PurchaseDatabase

/-! ## The system -/

/-- How a transaction ends that has not thrown by itself: it is committed; it is
rolled back after what it has asked Stripe for has happened; or it is rolled back
while that is on its way. -/
inductive Fate
  | committed
  | rolledBack
  | abandoned
  deriving DecidableEq

/-- A step of the system around one session: one of the two transactions, a request
of an abandoned transaction that arrives, a change of a refund at Stripe, or another
writer of the wallet. -/
inductive PurchaseEvent
  | checkout (delivery : CheckoutDelivery) (fate : Fate)
  | refund (webhookRefundId : Option String) (new : NewRefund) (fate : Fate)
  | arrives (attempt : Int) (new : NewRefund)
  | settles (refundId : String) (status : RefundStatus)
  | wallet (request : WalletRequest)

/-- The tables, the refunds that Stripe has, and the attempts on their way. -/
structure PurchaseState where
  db : PurchaseDatabase
  attempts : List (Attempt ProviderRefund)
  onTheWay : List Int

/-- What a transaction returns. -/
inductive PurchaseAnswer
  | prepared (preparation : PurchasePreparation)
  | reconciled (recoverable : Bool)
  | done
  deriving DecidableEq

namespace PurchaseState

variable (context : PurchaseContext) (state : PurchaseState)

/-- Stripe creates the refund of an attempt; ids are new. -/
def createAt (attempt : Int) (new : NewRefund) :
    Except PurchaseError (ProviderRefund × List (Attempt ProviderRefund)) := do
  let refund ← context.refundRequest new
  ensure (∀ other ∈ state.attempts, other.current.id ≠ new.id) .provider
  .ok (Attempt.create state.attempts attempt refund)

/-- The rest of a transaction that asks for an attempt. -/
def runAttempt (attempt : Int) (db : PurchaseDatabase) (new : NewRefund) (fate : Fate) :
    Except PurchaseError PurchaseAnswer × PurchaseState :=
  match state.createAt context attempt new with
  | .error error => (.error error, state)
  | .ok (response, attempts) =>
      match fate with
      | .abandoned => (.error .rolledBack, { state with onTheWay := state.onTheWay ++ [attempt] })
      | .rolledBack => (.error .rolledBack, { state with attempts := attempts })
      | .committed =>
          match db.recordCreated context attempt response with
          | .error error => (.error error, { state with attempts := attempts })
          | .ok (recoverable, db) =>
              (.ok (.reconciled recoverable), { state with db := db, attempts := attempts })

/-- Commit the tables, or leave them as they were. -/
def conclude (answer : PurchaseAnswer) (db : PurchaseDatabase) (fate : Fate) :
    Except PurchaseError PurchaseAnswer × PurchaseState :=
  if fate = .committed then (.ok answer, { state with db := db }) else (.error .rolledBack, state)

/-- A refund gets another status; a failed or canceled one stays so. -/
def settled (refundId : String) (status : RefundStatus) : List (Attempt ProviderRefund) :=
  Attempt.settle state.attempts (fun refund => refund.id = refundId ∧ refund.Active)
    fun refund => { refund with status := status }

end PurchaseState

/-- The step function. -/
def purchaseStep (context : PurchaseContext) (isControl : Char → Bool) (state : PurchaseState) :
    PurchaseEvent → Except PurchaseError PurchaseAnswer × PurchaseState
  | .checkout delivery fate =>
      match state.db.preparePurchaseTransaction (context.retrieved delivery) delivery with
      | .error error => (.error error, state)
      | .ok (preparation, db) => state.conclude (.prepared preparation) db fate
  | .refund webhookRefundId new fate =>
      match state.db.planRefund context state.attempts webhookRefundId with
      | .error error => (.error error, state)
      | .ok (.finished recoverable db) => state.conclude (.reconciled recoverable) db fate
      | .ok (.create attempt db) => state.runAttempt context attempt db new fate
  | .arrives attempt new =>
      if attempt ∈ state.onTheWay then
        match state.createAt context attempt new with
        | .error error => (.error error, state)
        | .ok (_, attempts) => (.ok .done, { state with attempts := attempts })
      else (.error .provider, state)
  | .settles refundId status =>
      (.ok .done, { state with attempts := state.settled refundId status })
  | .wallet request =>
      -- No other writer builds the session's ledger id.
      if request.call.transactionId = some (purchaseTransactionId context.session.id) then
        (.error .uniqueViolation, state)
      else
        let store := (commit isControl state.db.store request).2
        (.ok .done, { state with db := ⟨store, state.db.events⟩ })

/-- What an earlier version of the service left: its row, and the refund it asked
for, whose id is not blank. -/
structure LegacyPurchase where
  eventId : String
  disposition : Option Disposition
  refund : Option ProviderRefund
  named : ∀ created : ProviderRefund, refund = some created →
    asString (some created.id) = some created.id

/-- The row of an earlier version. -/
def LegacyPurchase.event (legacy : LegacyPurchase) : BillingEvent :=
  ⟨.legacy legacy.eventId, {
    source := .purchase
    disposition := legacy.disposition
    refundId := legacy.refund.map (·.id) }⟩

/-- The state before the first delivery. -/
def PurchaseState.initial (store : Store) (legacy : Option LegacyPurchase) : PurchaseState where
  db := ⟨store, (legacy.map (·.event)).toList⟩
  attempts := ((legacy.bind (·.refund)).map fun refund => ⟨0, refund, refund⟩).toList
  onTheWay := []

end LunchLineup.Billing
