import LunchLineup.Billing.PurchaseRuns

/-!
# Sessions that are looked at early

A session is retrieved anew at every delivery, so a delivery may see it before it
is complete or before it is paid.  An unpaid session is noted under an id of its
own and stays open.  A session that is not complete is written as the completed
purchase, without a grant, and from then on every delivery finds a completion whose
settlement is missing.

`early_looks_block` says that nothing else that is seen early matters: where no
such session was seen, the paid one is granted or refunded exactly where it would
have been at the first look.
-/

namespace LunchLineup.Billing

open LunchLineup.Lib

/-- The session has its credits, or its money goes back. -/
def Settled (context : PurchaseContext) (state : PurchaseState) : Prop :=
  purchaseRows context state.db.store ≠ [] ∨
    (state.db.findEvent .purchase).bind (·.metadata.outcomeState) = some .refundRequired

instance (context : PurchaseContext) (state : PurchaseState) : Decidable (Settled context state) :=
  inferInstanceAs (Decidable (_ ∨ _))

/-- The disposition of the session as a delivery sees it. -/
def PurchaseContext.seen (context : PurchaseContext) (delivery : CheckoutDelivery) :
    Option Disposition :=
  (context.retrieved delivery).session.resolveSessionDisposition

/-- Events before the session is complete and paid: checkouts that see it so, and
refund transactions. -/
def PurchaseContext.Early (context : PurchaseContext) : PurchaseEvent → Prop
  | .checkout delivery _ =>
      context.seen delivery = some .skippedNotComplete ∨ context.seen delivery = some .skippedUnpaid
  | .refund _ _ _ => True
  | .arrives _ _ => False
  | .settles _ _ => False
  | .wallet _ => False

/-- A committed checkout of a known tenant sees a session that is not complete. -/
def PurchaseContext.Closes (context : PurchaseContext) : PurchaseEvent → Prop
  | .checkout delivery fate => fate = .committed ∧ delivery.tenant.isSome = true ∧
      context.seen delivery = some .skippedNotComplete
  | _ => False

instance (context : PurchaseContext) (event : PurchaseEvent) : Decidable (context.Closes event) := by
  cases event with
  | checkout delivery fate => exact inferInstanceAs (Decidable (_ ∧ _ ∧ _))
  | refund _ _ _ => exact .isFalse id
  | arrives _ _ => exact .isFalse id
  | settles _ _ => exact .isFalse id
  | wallet _ => exact .isFalse id

/-- The wallet has room for what is left of the credits after the debt. -/
def Wallet.HasRoom (wallet : Wallet) (credits : Int) : Prop :=
  wallet.InRange ∧
    wallet.usageCredits + (credits - min wallet.creditDebt credits) ≤ maxStoredCreditBalance

/-- A complete and paid session is granted or refunded: the tenant is known, the
verification is done, and where the purchase is good its ledger id can be stored and
the tenant's wallet has room. -/
def PurchaseContext.Takes (context : PurchaseContext) (store : Store)
    (delivery : CheckoutDelivery) : Prop :=
  ∃ tenant verification, delivery.tenant = some tenant ∧
    verifyPurchase (context.retrieved delivery) tenant delivery = .ok verification ∧
    (verification.disposition = .applied →
      (jsLength (purchaseTransactionId context.session.id) ≤ 255 ∧
        ¬ hasJsControl (purchaseTransactionId context.session.id)) ∧
      ∃ pack wallet, findCreditPack context.session.metadata.creditPackCode = some pack ∧
        store.wallet? context.tenantId = some wallet ∧ wallet.HasRoom pack.credits)

/-! ## Wallets with room -/

/-- The texts and the credits of a pack pass the checks of a settlement. -/
theorem pack_checks {pack : CreditPackConfig} (hpack : pack ∈ creditPacks) :
    (0 < pack.credits ∧ pack.credits ≤ maxSafeInteger) ∧
      ¬ isJsBlank (purchaseReason pack) ∧ jsLength (purchaseReason pack) ≤ 500 := by
  have hall : ∀ pack ∈ creditPacks, (0 < pack.credits ∧ pack.credits ≤ maxSafeInteger) ∧
      ¬ isJsBlank (purchaseReason pack) ∧ jsLength (purchaseReason pack) ≤ 500 := by
    decide +kernel
  exact hall pack hpack

theorem isJsBlank_append (first last : String) :
    isJsBlank (first ++ last) = (isJsBlank first && isJsBlank last) := by
  simp only [isJsBlank, String.toList_append, List.all_append]

theorem purchaseTransactionId_not_blank (sessionId : String) :
    isJsBlank (purchaseTransactionId sessionId) = false := by
  have hfirst : isJsBlank "stripe-credit-purchase-" = false := by decide +kernel
  exact (isJsBlank_append _ sessionId).trans (by rw [hfirst]; rfl)

theorem PurchaseContext.tenantId_not_blank (context : PurchaseContext) :
    ¬ isJsBlank context.tenantId := by
  have hsome := context.authoritative
  rw [asString, Option.filter_eq_some_iff] at hsome
  simpa using hsome.2

/-- A wallet with room takes a new settlement, and only such a wallet does. -/
theorem recordPositive_isOk_iff {store : Store} {tenantId reason transactionId : String}
    {credits : Int} (hfresh : ∀ row ∈ store.ledger, row.id ≠ transactionId)
    (htenant : ¬ isJsBlank tenantId) (hcredits : 0 < credits ∧ credits ≤ maxSafeInteger)
    (hreason : ¬ isJsBlank reason ∧ jsLength reason ≤ 500) (hid : ¬ isJsBlank transactionId) :
    (∃ result, recordPositiveCreditSettlementInTransaction store false
        { tenantId := tenantId, amount := .integer credits, reason := reason,
          transactionId := transactionId } = .ok result) ↔
      (jsLength transactionId ≤ 255 ∧ ¬ hasJsControl transactionId) ∧
        ∃ wallet, store.wallet? tenantId = some wallet ∧ wallet.HasRoom credits := by
  have hsafe : (JsNumber.integer credits).safeInteger? = some credits := by
    simp only [JsNumber.safeInteger?]
    rw [if_pos]
    simp only [maxSafeInteger] at hcredits ⊢
    omega
  have hnone : store.findUnique false tenantId transactionId = none := by
    cases hfound : store.findUnique false tenantId transactionId with
    | none => rfl
    | some row =>
        obtain ⟨hmem, hrow⟩ := findUnique_spec hfound
        exact absurd hrow (hfresh row hmem)
  constructor
  · rintro ⟨⟨settlement, after⟩, h⟩
    simp only [recordPositiveCreditSettlementInTransaction, hsafe, hnone, bind_eq_ok,
      ensure_eq_ok] at h
    obtain ⟨_, _, _, _, _, _, _, hprintable, h⟩ := h
    refine ⟨hprintable.2, ?_⟩
    split at h
    · cases h
    rename_i wallet hwallet
    simp only [bind_eq_ok, ensure_eq_ok] at h
    obtain ⟨balance, hbalance, debt, hdebt, _, hstored, _, hroom, _⟩ := h
    obtain ⟨hbalance, hbalance'⟩ := requireStored_ok hbalance
    obtain ⟨hdebt, hdebt'⟩ := requireStored_ok hdebt
    obtain rfl := Option.some.inj hbalance
    obtain rfl := Option.some.inj hdebt
    refine ⟨wallet, hwallet, ⟨⟨hbalance', hstored.1⟩, hdebt', hstored.2⟩, ?_⟩
    omega
  · rintro ⟨hprintable, wallet, hwallet, ⟨⟨hbalance, hbalance'⟩, hdebt, hdebt'⟩, hroom⟩
    have hrequire (n : Int) (message : String) (hn : 0 ≤ n) (hn' : n ≤ maxStoredCreditBalance) :
        requireStored (some n) message = .ok n := by
      rw [requireStored, ensure_of_true _ ⟨hn, hn'.trans (by decide)⟩, ok_bind]
    have hmin := min_le_left wallet.creditDebt credits
    have hmin' := min_le_right wallet.creditDebt credits
    have hmin_nonneg : 0 ≤ min wallet.creditDebt credits := le_min hdebt hcredits.1.le
    have hpaid : min wallet.creditDebt credits = 0 → wallet.creditDebt = 0 := by omega
    have hmax : maxStoredCreditBalance = 2147483647 := rfl
    generalize hrepaid : min wallet.creditDebt credits = repaid at *
    have hupdate : store.updateTenant tenantId
        ⟨wallet.usageCredits + (credits - repaid), wallet.creditDebt - repaid⟩ =
        .ok { store with tenants := (Dict.set store.tenants tenantId
          ⟨wallet.usageCredits + (credits - repaid), wallet.creditDebt - repaid⟩) } := by
      rw [Store.updateTenant, ensure_of_true, ok_bind, ensure_of_true, ok_bind, ensure_of_true,
        ok_bind]
      · simp only
        omega
      · simp only
        omega
      · simp only [IsInteger]
        omega
    have hinsert : ∃ last, Store.insertCreditTransaction
        { store with tenants := (Dict.set store.tenants tenantId
          ⟨wallet.usageCredits + (credits - repaid), wallet.creditDebt - repaid⟩) }
        { id := transactionId, tenantId := tenantId, amount := credits - repaid,
          debtAmount := -repaid, reason := reason,
          balanceAfter := some (wallet.usageCredits + (credits - repaid)),
          debtAfter := some (wallet.creditDebt - repaid) } = .ok last := by
      simp only [Store.insertCreditTransaction, Store.wallet?, Dict.get?_set_self]
      rw [ensure_of_true, ok_bind, ensure_of_true, ok_bind, ensure_of_true, ok_bind,
        ensure_of_true, ok_bind, ensure_of_true _ hfresh, ok_bind]
      · exact ⟨_, rfl⟩
      · simp [IsInteger]
        omega
      · simp [IsInteger]
        omega
      · simp only [IsInteger]
        omega
      · omega
    obtain ⟨last, hinsert⟩ := hinsert
    simp only [recordPositiveCreditSettlementInTransaction, hsafe, hnone, hwallet]
    rw [ensure_of_true _ htenant, ok_bind, ensure_of_true _ hcredits.1, ok_bind,
      ensure_of_true _ hreason, ok_bind, ensure_of_true _ ⟨hid, hprintable⟩, ok_bind,
      hrequire _ _ hbalance hbalance', ok_bind, hrequire _ _ hdebt hdebt', ok_bind,
      ensure_of_true _ ⟨hbalance', hdebt'⟩, ok_bind, ensure_of_true _ (by omega), ok_bind,
      hrepaid, hupdate, ok_bind, hrequire _ _ (by omega) hroom, ok_bind,
      hrequire _ _ (by omega) (by omega), ok_bind, ensure_of_true _ ⟨rfl, rfl⟩, ok_bind,
      hinsert, ok_bind]
    exact ⟨_, rfl⟩
/-! ## Open and closed sessions -/

/-- Nothing is decided about the session. -/
structure OpenSession (store : Store) (state : PurchaseState) : Prop where
  store : state.db.store = store
  undecided : state.db.findEvent .purchase = none
  unconfirmed : state.db.hasRefundTerminal = false
  fresh : state.db.legacyRefundId = none

/-- The session is written as completed, without a grant. -/
structure ClosedSession (store : Store) (state : PurchaseState) : Prop where
  store : state.db.store = store
  completed : ∃ recorded, state.db.findEvent .purchase = some recorded ∧
    recorded.metadata.outcomeState = some .complete
  unconfirmed : state.db.hasRefundTerminal = false

section Looks

variable {context : PurchaseContext} {isControl : Char → Bool} {state : PurchaseState}
  {store : Store} {delivery : CheckoutDelivery}

theorem existing_none (hfresh : ∀ row ∈ store.ledger,
      row.id ≠ purchaseTransactionId context.session.id) (hstore : state.db.store = store) :
    state.db.existingTransaction context = none := by
  cases hfound : state.db.existingTransaction context with
  | none => rfl
  | some row =>
      obtain ⟨hmem, hid⟩ := findUnique_spec hfound
      rw [hstore] at hmem
      exact absurd hid (hfresh row hmem)

theorem purchaseRows_nil (hfresh : ∀ row ∈ store.ledger,
      row.id ≠ purchaseTransactionId context.session.id) (hstore : state.db.store = store) :
    purchaseRows context state.db.store = [] := by
  rw [purchaseRows, List.filter_eq_nil_iff, hstore]
  intro row hrow hid
  exact hfresh row hrow (of_decide_eq_true hid)

/-- A closed session refuses every delivery. -/
theorem ClosedSession.stays (hclosed : ClosedSession store state)
    (hfresh : ∀ row ∈ store.ledger, row.id ≠ purchaseTransactionId context.session.id)
    {event : PurchaseEvent} (hdelivery : event.isDelivery = true) :
    (purchaseStep context isControl state event).2 = state := by
  have hexisting := existing_none hfresh hclosed.store
  obtain ⟨recorded, hrecorded, hcomplete⟩ := hclosed.completed
  cases event with
  | checkout delivery fate =>
      have hexisting' : state.db.existingTransaction (context.retrieved delivery) = none := hexisting
      simp only [purchaseStep, PurchaseDatabase.preparePurchaseTransaction, hclosed.unconfirmed,
        hexisting', hrecorded, hcomplete]
  | refund webhookRefundId new fate =>
      have hnot : ¬ (some recorded).bind (·.metadata.outcomeState) = some .refundRequired := by
        simp [hcomplete]
      simp only [purchaseStep, PurchaseDatabase.planRefund, hexisting, hclosed.unconfirmed,
        hrecorded, ensure, if_neg hnot, Bool.false_eq_true, if_false, error_bind]
  | arrives _ _ => cases hdelivery
  | settles _ _ => cases hdelivery
  | wallet _ => cases hdelivery

/-- An open session has nothing to refund. -/
theorem OpenSession.refund (hopen : OpenSession store state)
    (hfresh : ∀ row ∈ store.ledger, row.id ≠ purchaseTransactionId context.session.id)
    (webhookRefundId : Option String) (new : NewRefund) (fate : Fate) :
    (purchaseStep context isControl state (.refund webhookRefundId new fate)).2 = state := by
  have hexisting := existing_none hfresh hopen.store
  have hnot : ¬ (none : Option BillingEvent).bind (·.metadata.outcomeState) =
      some .refundRequired := by simp
  simp only [purchaseStep, PurchaseDatabase.planRefund, hexisting, hopen.unconfirmed,
    hopen.undecided, ensure, if_neg hnot, Bool.false_eq_true, if_false, error_bind]

/-- The first transaction of an open session decides. -/
theorem OpenSession.prepare (hopen : OpenSession store state)
    (hfresh : ∀ row ∈ store.ledger, row.id ≠ purchaseTransactionId context.session.id)
    (delivery : CheckoutDelivery) :
    state.db.preparePurchaseTransaction (context.retrieved delivery) delivery =
      state.db.decidePurchase (context.retrieved delivery) delivery := by
  have hexisting : state.db.existingTransaction (context.retrieved delivery) = none :=
    existing_none hfresh hopen.store
  simp only [PurchaseDatabase.preparePurchaseTransaction, hopen.unconfirmed, hexisting,
    hopen.undecided, hopen.fresh]

/-- A new row about the session. -/
theorem createEvent_of_findEvent {db : PurchaseDatabase} {event : BillingEvent}
    (h : db.findEvent event.id = none) :
    db.createEvent event = .ok ⟨db.store, db.events ++ [event]⟩ := by
  have hfresh : ∀ other ∈ db.events, other.id ≠ event.id := by
    intro other hother hid
    have hnone := List.find?_eq_none.mp h other hother
    simp [hid] at hnone
  rw [PurchaseDatabase.createEvent, ensure_of_true _ hfresh, ok_bind]

/-- What the verification makes of a session that is not complete or not paid. -/
theorem verifyPurchase_seen {tenant : TenantState} {disposition : Disposition}
    (hseen : context.seen delivery = some disposition) :
    verifyPurchase (context.retrieved delivery) tenant delivery =
      .ok ⟨findCreditPack context.session.metadata.creditPackCode, none, disposition⟩ := by
  rw [PurchaseContext.seen] at hseen
  simp only [verifyPurchase, hseen]
  rfl

theorem resolveTenantDisposition_spec {tenant : TenantState} {now : Int}
    {disposition : Disposition} (h : tenant.resolveTenantDisposition now = some disposition) :
    disposition ≠ .skippedUnpaid ∧ disposition ≠ .applied := by
  unfold TenantState.resolveTenantDisposition at h
  split_ifs at h
  all_goals
    obtain rfl := Option.some.inj h
    decide

theorem resolveSubscriptionDisposition_spec {tenant : TenantState} {tenantId : String}
    {configured : List String} {subscription : StripeSubscription} {disposition : Disposition}
    (h : tenant.resolveSubscriptionDisposition tenantId configured subscription =
      some disposition) : disposition ≠ .skippedUnpaid ∧ disposition ≠ .applied := by
  unfold TenantState.resolveSubscriptionDisposition at h
  split_ifs at h
  all_goals
    obtain rfl := Option.some.inj h
    decide

/-- The verification of a complete and paid session looks past the session. -/
theorem verifyPurchase_paid {tenant : TenantState} {verification : PurchaseVerification}
    (hseen : context.seen delivery = none)
    (h : verifyPurchase (context.retrieved delivery) tenant delivery = .ok verification) :
    verification.disposition ≠ .skippedUnpaid ∧ (verification.disposition = .applied →
      ∃ pack price, verification.pack = some pack ∧ verification.price = some price ∧
        findCreditPack context.session.metadata.creditPackCode = some pack) := by
  rw [PurchaseContext.seen] at hseen
  simp only [verifyPurchase, hseen] at h
  split at h
  · obtain rfl := Except.ok.inj h
    exact ⟨by simp, by simp⟩
  rename_i pack hpack
  split at h
  · obtain rfl := Except.ok.inj h
    exact ⟨by simp, by simp⟩
  rename_i price _
  split at h
  · obtain rfl := Except.ok.inj h
    exact ⟨by simp, by simp⟩
  split at h
  · obtain rfl := Except.ok.inj h
    exact ⟨by simp, by simp⟩
  split at h
  · rename_i disposition htenant
    obtain rfl := Except.ok.inj h
    obtain ⟨hunpaid, happlied⟩ := resolveTenantDisposition_spec htenant
    exact ⟨hunpaid, fun heq => absurd heq happlied⟩
  split at h
  · cases h
  rename_i subscription _
  obtain rfl := Except.ok.inj h
  refine ⟨?_, fun _ => ⟨pack, price, rfl, rfl, hpack⟩⟩
  cases hsubscription : tenant.resolveSubscriptionDisposition
      (context.retrieved delivery).tenantId delivery.configured subscription with
  | none => simp
  | some disposition => exact (resolveSubscriptionDisposition_spec hsubscription).1

/-! ## Deliveries of an open session -/

/-- A note leaves the session open. -/
theorem OpenSession.noted (hopen : OpenSession store state) {db : PurchaseDatabase}
    {event : BillingEvent} {eventId : String} (hid : event.id = .recoverable eventId)
    (hrefund : event.metadata.refundId = none) (hstore : db.store = state.db.store)
    (hevents : db.events = state.db.events ++ [event]) :
    OpenSession store { state with db := db } := by
  have hne (id : BillingEventId) (hother : id ≠ .recoverable eventId) :
      ∀ row ∈ [event], row.id ≠ id := by
    intro row hrow
    rw [List.mem_singleton.mp hrow, hid]
    exact hother.symm
  refine ⟨hstore.trans hopen.store, ?_, ?_, ?_⟩
  · rw [findEvent_append hevents (hne _ (by simp))]
    exact hopen.undecided
  · rw [hasRefundTerminal_append hevents (hne _ (by simp))]
    exact hopen.unconfirmed
  · rw [legacyRefundId_append hevents (.inr (by simp [hrefund]))]
    exact hopen.fresh

/-- A completion without a grant closes the session. -/
theorem OpenSession.closed (hopen : OpenSession store state) {db : PurchaseDatabase}
    {event : BillingEvent} (hid : event.id = .purchase)
    (hcomplete : event.metadata.outcomeState = some .complete) (hstore : db.store = state.db.store)
    (hevents : db.events = state.db.events ++ [event]) :
    ClosedSession store { state with db := db } := by
  refine ⟨hstore.trans hopen.store, ⟨event, ?_, hcomplete⟩, ?_⟩
  · have hundecided := hopen.undecided
    rw [PurchaseDatabase.findEvent] at hundecided
    simp [PurchaseDatabase.findEvent, hevents, List.find?_append, hundecided, hid]
  · rw [hasRefundTerminal_append hevents (by simp [hid])]
    exact hopen.unconfirmed

theorem conclude_committed (answer : PurchaseAnswer) (db : PurchaseDatabase) :
    state.conclude answer db .committed = (.ok answer, { state with db := db }) :=
  if_pos rfl

/-- A delivery that sees the session unpaid leaves it open. -/
theorem OpenSession.unpaid (hopen : OpenSession store state)
    (hfresh : ∀ row ∈ store.ledger, row.id ≠ purchaseTransactionId context.session.id)
    (hseen : context.seen delivery = some .skippedUnpaid) (fate : Fate) :
    OpenSession store (purchaseStep context isControl state (.checkout delivery fate)).2 := by
  simp only [purchaseStep, hopen.prepare hfresh, PurchaseDatabase.decidePurchase]
  cases htenant : delivery.tenant with
  | none =>
      rw [conclude_same]
      exact hopen
  | some tenant =>
      simp only [verifyPurchase_seen hseen, ok_bind, if_true]
      cases hnoted : state.db.findEvent (.recoverable delivery.eventId) with
      | some event =>
          simp only [Option.isSome_some, if_true]
          rw [conclude_same]
          exact hopen
      | none =>
          simp only [Option.isSome_none, Bool.false_eq_true, if_false,
            PurchaseDatabase.recordPurchaseEvent]
          rw [createEvent_of_findEvent hnoted]
          simp only [ok_bind]
          rcases conclude_cases _ fate with hsame | hcommitted
          · rw [hsame]
            exact hopen
          · rw [hcommitted]
            exact hopen.noted rfl rfl rfl rfl

/-- A delivery that sees the session before it is complete closes it, if the tenant is
known and the transaction is committed. -/
theorem OpenSession.incomplete (hopen : OpenSession store state)
    (hfresh : ∀ row ∈ store.ledger, row.id ≠ purchaseTransactionId context.session.id)
    (hseen : context.seen delivery = some .skippedNotComplete) (fate : Fate) :
    (context.Closes (.checkout delivery fate) →
      ClosedSession store (purchaseStep context isControl state (.checkout delivery fate)).2) ∧
    (¬ context.Closes (.checkout delivery fate) →
      (purchaseStep context isControl state (.checkout delivery fate)).2 = state) := by
  simp only [purchaseStep, hopen.prepare hfresh, PurchaseDatabase.decidePurchase]
  cases htenant : delivery.tenant with
  | none =>
      refine ⟨fun hcloses => ?_, fun _ => conclude_same _ fate⟩
      have hknown := hcloses.2.1
      rw [htenant] at hknown
      cases hknown
  | some tenant =>
      have hrefund : requiresRefund (context.retrieved delivery) .skippedNotComplete = false := by
        rw [PurchaseContext.seen] at hseen
        simp [requiresRefund, hseen]
      simp only [verifyPurchase_seen hseen, ok_bind, hrefund, Bool.false_eq_true, if_false,
        reduceCtorEq, PurchaseDatabase.recordPurchaseEvent]
      rw [createEvent_of_findEvent hopen.undecided]
      simp only [ok_bind]
      refine ⟨?_, ?_⟩
      · rintro ⟨rfl, -, -⟩
        rw [conclude_committed]
        exact hopen.closed rfl rfl rfl rfl
      · intro hstays
        have hfate : fate ≠ .committed := by
          intro heq
          exact hstays ⟨heq, by simp [htenant], hseen⟩
        simp only [PurchaseState.conclude, if_neg hfate]

theorem OpenSession.not_settled (hopen : OpenSession store state)
    (hfresh : ∀ row ∈ store.ledger, row.id ≠ purchaseTransactionId context.session.id) :
    ¬ Settled context state := by
  rintro (hrows | hrefund)
  · exact hrows (purchaseRows_nil hfresh hopen.store)
  · rw [hopen.undecided] at hrefund
    cases hrefund

theorem ClosedSession.not_settled (hclosed : ClosedSession store state)
    (hfresh : ∀ row ∈ store.ledger, row.id ≠ purchaseTransactionId context.session.id) :
    ¬ Settled context state := by
  obtain ⟨recorded, hrecorded, hcomplete⟩ := hclosed.completed
  rintro (hrows | hrefund)
  · exact hrows (purchaseRows_nil hfresh hclosed.store)
  · rw [hrecorded] at hrefund
    simp [hcomplete] at hrefund

theorem grantPurchase_isOk_iff {db : PurchaseDatabase} {pack : CreditPackConfig}
    (hpack : pack ∈ creditPacks)
    (hfresh : ∀ row ∈ db.store.ledger, row.id ≠ purchaseTransactionId context.session.id) :
    (∃ result, db.grantPurchase context pack = .ok result) ↔
      (jsLength (purchaseTransactionId context.session.id) ≤ 255 ∧
        ¬ hasJsControl (purchaseTransactionId context.session.id)) ∧
      ∃ wallet, db.store.wallet? context.tenantId = some wallet ∧ wallet.HasRoom pack.credits := by
  obtain ⟨hcredits, hreason⟩ := pack_checks hpack
  have hid : ¬ isJsBlank (purchaseTransactionId context.session.id) = true := by
    simp [purchaseTransactionId_not_blank]
  rw [← recordPositive_isOk_iff hfresh context.tenantId_not_blank hcredits hreason hid]
  constructor
  · rintro ⟨result, h⟩
    obtain ⟨result, hrecord, -⟩ := bind_eq_ok.mp h
    exact ⟨result, mapError_eq_ok.mp hrecord⟩
  · rintro ⟨result, h⟩
    refine ⟨(⟨result.1.transactionId, result.1.newBalance, result.1.replayed⟩,
      { db with store := result.2 }), ?_⟩
    rw [PurchaseDatabase.grantPurchase, h]
    rfl

/-- A delivery that sees the session complete and paid settles it where it is taken. -/
theorem OpenSession.paid (hopen : OpenSession store state)
    (hfresh : ∀ row ∈ store.ledger, row.id ≠ purchaseTransactionId context.session.id)
    (hseen : context.seen delivery = none) :
    Settled context (purchaseStep context isControl state (.checkout delivery .committed)).2 ↔
      context.Takes store delivery := by
  have hopen_not := hopen.not_settled hfresh
  simp only [purchaseStep, hopen.prepare hfresh, PurchaseDatabase.decidePurchase]
  cases htenant : delivery.tenant with
  | none =>
      rw [conclude_same]
      refine iff_of_false hopen_not ?_
      rintro ⟨tenant, _, hsome, _⟩
      rw [htenant] at hsome
      cases hsome
  | some tenant =>
      cases hverify : verifyPurchase (context.retrieved delivery) tenant delivery with
      | error error =>
          simp only [hverify, error_bind]
          refine iff_of_false hopen_not ?_
          rintro ⟨tenant', _, hsome, hok, _⟩
          obtain rfl := Option.some.inj (htenant.symm.trans hsome)
          rw [hverify] at hok
          cases hok
      | ok verification =>
          obtain ⟨hunpaid, happlied⟩ := verifyPurchase_paid hseen hverify
          simp only [hverify, ok_bind, if_neg hunpaid, PurchaseDatabase.recordPurchaseEvent]
          by_cases hgood : verification.disposition = .applied
          · obtain ⟨pack, price, hpack, hprice, hfound⟩ := happlied hgood
            have hrefund : requiresRefund (context.retrieved delivery) .applied = false := by
              simp [requiresRefund]
            simp only [hgood, hrefund, Bool.false_eq_true, if_false]
            rw [createEvent_of_findEvent hopen.undecided]
            simp only [ok_bind, hpack, hprice]
            have htaken (events : List BillingEvent) : (∃ result,
                PurchaseDatabase.grantPurchase ⟨state.db.store, events⟩ (context.retrieved delivery)
                  pack = .ok result) ↔ context.Takes store delivery := by
              rw [hopen.store]
              refine (@grantPurchase_isOk_iff context _ _ (mem_creditPacks hfound)
                hfresh).trans ⟨?_, ?_⟩
              · rintro ⟨hid, wallet, hwallet, hroom⟩
                exact ⟨tenant, verification, htenant, hverify,
                  fun _ => ⟨hid, pack, wallet, hfound, hwallet, hroom⟩⟩
              · rintro ⟨tenant', verification', htenant', hverify', htakes⟩
                obtain rfl := Option.some.inj (htenant.symm.trans htenant')
                obtain rfl := Except.ok.inj (hverify.symm.trans hverify')
                obtain ⟨hid, pack', wallet, hfound', hwallet, hroom⟩ := htakes hgood
                obtain rfl := Option.some.inj (hfound.symm.trans hfound')
                exact ⟨hid, wallet, hwallet, hroom⟩
            split
            · rename_i error hfailed
              refine iff_of_false hopen_not ?_
              intro htakes
              obtain ⟨result, hgrant⟩ := (htaken _).mpr htakes
              rw [hgrant] at hfailed
              cases hfailed
            · rename_i preparation last hok
              obtain ⟨⟨settlement, db⟩, hgrant, hok⟩ := bind_eq_ok.mp hok
              obtain ⟨rfl, rfl⟩ := Prod.mk.inj (Except.ok.inj hok)
              refine iff_of_true (.inl ?_) ((htaken _).mp ⟨_, hgrant⟩)
              rw [conclude_committed]
              have hnone : purchaseRows (context.retrieved delivery) state.db.store = [] :=
                purchaseRows_nil hfresh hopen.store
              obtain ⟨row, _, _, _, hledger, hid, _⟩ := grantPurchase_ok (by exact hnone) hgrant
              refine List.ne_nil_of_mem (List.mem_filter.mpr ⟨?_, decide_eq_true hid⟩)
              rw [hledger]
              exact List.mem_append_right _ (List.mem_singleton_self row)
          · have hrefund : requiresRefund (context.retrieved delivery) verification.disposition =
                true := by
              rw [PurchaseContext.seen] at hseen
              simp [requiresRefund, hseen, hgood]
            simp only [hrefund, if_true]
            rw [createEvent_of_findEvent hopen.undecided]
            simp only [ok_bind, conclude_committed]
            refine iff_of_true (.inr ?_) ⟨tenant, verification, htenant, hverify, hgood.elim⟩
            have hundecided := hopen.undecided
            rw [PurchaseDatabase.findEvent] at hundecided
            simp [PurchaseDatabase.findEvent, List.find?_append, hundecided]

/-! ## Sessions that an earlier version has refunded -/

/-- An earlier version of the service has asked for a refund; a delivery has recorded
so, or the next one will. -/
structure AdoptedSession (store : Store) (state : PurchaseState) : Prop where
  store : state.db.store = store
  adopted : state.db.RefundRequired ∨ state.db.findEvent .purchase = none ∧
    state.db.hasRefundTerminal = false ∧ state.db.legacyRefundId ≠ none

theorem AdoptedSession.unchanged (hadopted : AdoptedSession store state)
    (attempts : List (Attempt ProviderRefund)) (onTheWay : List Int) :
    AdoptedSession store ⟨state.db, attempts, onTheWay⟩ :=
  ⟨hadopted.store, hadopted.adopted⟩

/-- A checkout that is committed has the refund recorded. -/
theorem AdoptedSession.checkout (hadopted : AdoptedSession store state)
    (hfresh : ∀ row ∈ store.ledger, row.id ≠ purchaseTransactionId context.session.id)
    (delivery : CheckoutDelivery) (fate : Fate) :
    AdoptedSession store (purchaseStep context isControl state (.checkout delivery fate)).2 ∧
      (fate = .committed →
        (purchaseStep context isControl state (.checkout delivery fate)).2.db.RefundRequired) := by
  have hexisting : state.db.existingTransaction (context.retrieved delivery) = none :=
    existing_none hfresh hadopted.store
  simp only [purchaseStep, PurchaseDatabase.preparePurchaseTransaction, hexisting]
  rcases hadopted.adopted with ⟨recorded, hrecorded, hrequired⟩ | ⟨hundecided, hopen, hlegacy⟩
  · simp only [hrecorded, hrequired]
    have hsame (answer : PurchaseAnswer) :
        AdoptedSession store (state.conclude answer state.db fate).2 ∧
          (fate = .committed → (state.conclude answer state.db fate).2.db.RefundRequired) := by
      rw [conclude_same]
      exact ⟨hadopted, fun _ => ⟨recorded, hrecorded, hrequired⟩⟩
    cases state.db.hasRefundTerminal with
    | true => exact hsame _
    | false => exact hsame _
  · obtain ⟨refundId, hrefund⟩ := Option.ne_none_iff_exists'.mp hlegacy
    simp only [hopen, hundecided, hrefund, PurchaseDatabase.recordLegacyRefundRecoveryState]
    rw [createEvent_of_findEvent hundecided]
    simp only [ok_bind]
    by_cases hfate : fate = .committed
    · subst hfate
      rw [conclude_committed]
      have hrequired : PurchaseDatabase.RefundRequired ⟨state.db.store, state.db.events ++
          [⟨.purchase, {
            source := .purchase
            outcomeState := some .refundRequired
            disposition := some .legacyRefundRecovery
            legacyRefundId := some refundId }⟩]⟩ := by
        have hcreate := @createEvent_of_findEvent _ ⟨.purchase, {
            source := .purchase
            outcomeState := some .refundRequired
            disposition := some .legacyRefundRecovery
            legacyRefundId := some refundId }⟩ hundecided
        exact ⟨_, (findEvent_of_createEvent hcreate).2, rfl⟩
      exact ⟨⟨hadopted.store, .inl hrequired⟩, fun _ => hrequired⟩
    · simp only [PurchaseState.conclude, if_neg hfate]
      exact ⟨hadopted, fun hcommitted => absurd hcommitted hfate⟩

/-- Rows about a refund leave the purchase's row. -/
theorem RefundWrite.required {refundId : String} {attempt : Int} {db db' : PurchaseDatabase}
    (hwrite : RefundWrite refundId attempt db db') (hrequired : db.RefundRequired) :
    db'.RefundRequired := by
  obtain ⟨recorded, hrecorded, hstate⟩ := hrequired
  obtain ⟨rows, hevents, _⟩ := hwrite.appended
  exact ⟨recorded, findEvent_append_of_some hevents hrecorded, hstate⟩

theorem AdoptedSession.refund (hadopted : AdoptedSession store state)
    (webhookRefundId : Option String) (new : NewRefund) (fate : Fate) :
    AdoptedSession store
      (purchaseStep context isControl state (.refund webhookRefundId new fate)).2 := by
  have hplanned {plan : RefundPlan}
      (h : state.db.planRefund context state.attempts webhookRefundId = .ok plan) :
      plan = .finished false state.db ∨ plan.db.RefundRequired := by
    obtain ⟨_, ⟨_, rfl⟩ | ⟨_, hrequired, rfl | ⟨_, _, _, _, hplan⟩⟩⟩ := planRefund_ok h
    · exact .inl rfl
    · exact .inr hrequired
    · exact .inr ((planKnown_ok hplan).1.required hrequired)
  refine ⟨(refund_store webhookRefundId new fate).trans hadopted.store, ?_⟩
  simp only [purchaseStep]
  split
  · exact hadopted.adopted
  · rename_i recoverable last hplan
    have hcases : (state.conclude (.reconciled recoverable) last fate).2 = state ∨ _ :=
      conclude_cases _ fate
    rcases hcases with hsame | hcommitted
    · rw [hsame]
      exact hadopted.adopted
    · rw [hcommitted]
      rcases hplanned hplan with hsame | hrequired
      · obtain ⟨_, rfl⟩ := RefundPlan.finished.inj hsame
        exact hadopted.adopted
      · exact .inl hrequired
  · rename_i number last hplan
    have hcases : (state.runAttempt context number last new fate).2 = state ∨ _ :=
      runAttempt_cases number new fate
    rcases hcases with hsame | honway |
      ⟨response, attempts, _, hrolledBack | ⟨written, recoverable, hrecord, hcommitted⟩⟩
    · rw [hsame]
      exact hadopted.adopted
    · rw [honway]
      exact hadopted.adopted
    · rw [hrolledBack]
      exact hadopted.adopted
    · rw [hcommitted]
      rcases hplanned hplan with hsame | hrequired
      · cases hsame
      · exact .inl ((recordCreated_ok hrecord).1.required hrequired)

/-! ## Runs -/

theorem PurchaseContext.Early.isDelivery {event : PurchaseEvent} (hearly : context.Early event) :
    event.isDelivery = true := by
  cases event with
  | checkout _ _ => rfl
  | refund _ _ _ => rfl
  | arrives _ _ => exact hearly.elim
  | settles _ _ => exact hearly.elim
  | wallet _ => exact hearly.elim

theorem OpenSession.early (hopen : OpenSession store state)
    (hfresh : ∀ row ∈ store.ledger, row.id ≠ purchaseTransactionId context.session.id)
    {event : PurchaseEvent} (hearly : context.Early event) :
    (context.Closes event → ClosedSession store (purchaseStep context isControl state event).2) ∧
      (¬ context.Closes event →
        OpenSession store (purchaseStep context isControl state event).2) := by
  cases event with
  | checkout delivery fate =>
      rcases hearly with hincomplete | hunpaid
      · obtain ⟨hcloses, hstays⟩ := @OpenSession.incomplete _ isControl _ _ _ hopen hfresh hincomplete fate
        refine ⟨hcloses, fun hnot => ?_⟩
        rw [hstays hnot]
        exact hopen
      · refine ⟨?_, fun _ => hopen.unpaid hfresh hunpaid fate⟩
        rintro ⟨_, _, hincomplete⟩
        rw [hunpaid] at hincomplete
        cases hincomplete
  | refund webhookRefundId new fate =>
      refine ⟨fun hcloses => hcloses.elim, fun _ => ?_⟩
      rw [hopen.refund hfresh]
      exact hopen
  | arrives _ _ => exact hearly.elim
  | settles _ _ => exact hearly.elim
  | wallet _ => exact hearly.elim

theorem ClosedSession.run (hclosed : ClosedSession store state)
    (hfresh : ∀ row ∈ store.ledger, row.id ≠ purchaseTransactionId context.session.id)
    {events : List PurchaseEvent} (hdeliveries : ∀ event ∈ events, event.isDelivery = true) :
    ClosedSession store (final (purchaseStep context isControl) state events) := by
  induction events with
  | nil => exact hclosed
  | cons event rest ih =>
      rw [final_cons, hclosed.stays hfresh (hdeliveries event List.mem_cons_self)]
      exact ih fun other hother => hdeliveries other (List.mem_cons_of_mem _ hother)

/-- After early events the session is closed if one of them closes it, and open
otherwise. -/
theorem OpenSession.run (hopen : OpenSession store state)
    (hfresh : ∀ row ∈ store.ledger, row.id ≠ purchaseTransactionId context.session.id)
    {events : List PurchaseEvent} (hearly : ∀ event ∈ events, context.Early event) :
    ((∃ event ∈ events, context.Closes event) →
        ClosedSession store (final (purchaseStep context isControl) state events)) ∧
      ((∀ event ∈ events, ¬ context.Closes event) →
        OpenSession store (final (purchaseStep context isControl) state events)) := by
  induction events generalizing state with
  | nil => exact ⟨by simp, fun _ => hopen⟩
  | cons event rest ih =>
      obtain ⟨hcloses, hstays⟩ :=
        @OpenSession.early _ isControl _ _ hopen hfresh _ (hearly event List.mem_cons_self)
      have hrest : ∀ other ∈ rest, context.Early other :=
        fun other hother => hearly other (List.mem_cons_of_mem _ hother)
      rw [final_cons]
      by_cases hfirst : context.Closes event
      · refine ⟨fun _ => ?_, fun hnone => absurd hfirst (hnone event List.mem_cons_self)⟩
        exact (hcloses hfirst).run hfresh fun other hother => (hrest other hother).isDelivery
      · obtain ⟨hclosed, hopened⟩ := ih (hstays hfirst) hrest
        refine ⟨?_, fun hnone => hopened fun other hother =>
          hnone other (List.mem_cons_of_mem _ hother)⟩
        rintro ⟨other, hother, hother_closes⟩
        rcases List.mem_cons.mp hother with rfl | hmem
        · exact absurd hother_closes hfirst
        · exact hclosed ⟨other, hmem, hother_closes⟩

theorem AdoptedSession.run (hadopted : AdoptedSession store state)
    (hfresh : ∀ row ∈ store.ledger, row.id ≠ purchaseTransactionId context.session.id)
    {events : List PurchaseEvent} (hdeliveries : ∀ event ∈ events, event.isDelivery = true) :
    AdoptedSession store (final (purchaseStep context isControl) state events) := by
  induction events generalizing state with
  | nil => exact hadopted
  | cons event rest ih =>
      rw [final_cons]
      refine ih ?_ fun other hother => hdeliveries other (List.mem_cons_of_mem _ hother)
      have hdelivery := hdeliveries event List.mem_cons_self
      cases event with
      | checkout delivery fate => exact (hadopted.checkout hfresh delivery fate).1
      | refund webhookRefundId new fate => exact hadopted.refund webhookRefundId new fate
      | arrives _ _ => cases hdelivery
      | settles _ _ => cases hdelivery
      | wallet _ => cases hdelivery

theorem openSession_initial {legacy : Option LegacyPurchase}
    (hlegacy : legacy.bind (·.refund) = none) : OpenSession store (.initial store legacy) := by
  cases legacy with
  | none => exact ⟨rfl, rfl, rfl, rfl⟩
  | some legacy =>
      have hnone : legacy.refund = none := hlegacy
      refine ⟨rfl, rfl, rfl, ?_⟩
      simp [PurchaseState.initial, PurchaseDatabase.legacyRefundId, LegacyPurchase.event, hnone,
        asString]

theorem adoptedSession_initial {legacy : Option LegacyPurchase}
    (hlegacy : (legacy.bind (·.refund)).isSome = true) :
    AdoptedSession store (.initial store legacy) := by
  cases legacy with
  | none => cases hlegacy
  | some legacy =>
      obtain ⟨refund, hrefund⟩ := Option.isSome_iff_exists.mp hlegacy
      have hrefund : legacy.refund = some refund := hrefund
      refine ⟨rfl, .inr ⟨rfl, rfl, ?_⟩⟩
      simp [PurchaseState.initial, PurchaseDatabase.legacyRefundId, LegacyPurchase.event, hrefund,
        legacy.named refund hrefund]

end Looks

/-- Early looks at a session that is then seen complete and paid.  The paid look
settles the session exactly if an earlier version has asked for its refund, or no
early look has closed it and the paid one is taken.  A session that an early look has
closed is settled by no later delivery. -/
theorem early_looks_block (context : PurchaseContext) (isControl : Char → Bool) (store : Store)
    (legacy : Option LegacyPurchase)
    (hfresh : ∀ row ∈ store.ledger, row.id ≠ purchaseTransactionId context.session.id)
    (early : List PurchaseEvent) (hearly : ∀ event ∈ early, context.Early event)
    (paid : CheckoutDelivery) (hpaid : context.seen paid = none) :
    (Settled context (final (purchaseStep context isControl) (.initial store legacy)
        (early ++ [.checkout paid .committed])) ↔
      (legacy.bind (·.refund)).isSome = true ∨
        ((∀ event ∈ early, ¬ context.Closes event) ∧ context.Takes store paid)) ∧
    ((legacy.bind (·.refund)).isSome = false → (∃ event ∈ early, context.Closes event) →
      ∀ later : List PurchaseEvent, (∀ event ∈ later, event.isDelivery = true) →
        ¬ Settled context (final (purchaseStep context isControl) (.initial store legacy)
          (early ++ later))) := by
  simp only [final_append]
  cases hlegacy : (legacy.bind (·.refund)).isSome with
  | true =>
      refine ⟨iff_of_true (.inr ?_) (.inl rfl), nofun⟩
      have hdeliveries : ∀ event ∈ early, event.isDelivery = true :=
        fun event hevent => (hearly event hevent).isDelivery
      have hadopted := @AdoptedSession.run _ isControl _ store (adoptedSession_initial hlegacy) hfresh
        _ hdeliveries
      obtain ⟨recorded, hrecorded, hrequired⟩ := (hadopted.checkout hfresh paid .committed).2 rfl
      rw [final_cons, final_nil, hrecorded]
      exact hrequired
  | false =>
      have hnone : legacy.bind (·.refund) = none := Option.isSome_eq_false_iff.mp hlegacy |>
        Option.isNone_iff_eq_none.mp
      obtain ⟨hclosed, hopened⟩ :=
        @OpenSession.run _ isControl _ store (openSession_initial hnone) hfresh _ hearly
      have hblocked : (∃ event ∈ early, context.Closes event) →
          ∀ later : List PurchaseEvent, (∀ event ∈ later, event.isDelivery = true) →
          ¬ Settled context (final (purchaseStep context isControl)
            (final (purchaseStep context isControl) (.initial store legacy) early) later) :=
        fun hcloses later hlater => ((hclosed hcloses).run hfresh hlater).not_settled hfresh
      refine ⟨?_, fun _ => hblocked⟩
      by_cases hcloses : ∃ event ∈ early, context.Closes event
      · refine iff_of_false (hblocked hcloses _ (by simp [PurchaseEvent.isDelivery])) ?_
        rintro (hfalse | ⟨hnone, _⟩)
        · cases hfalse
        · obtain ⟨event, hevent, hcloses⟩ := hcloses
          exact hnone event hevent hcloses
      · have hnone : ∀ event ∈ early, ¬ context.Closes event :=
          fun event hevent h => hcloses ⟨event, hevent, h⟩
        rw [final_cons, final_nil, (hopened hnone).paid hfresh hpaid]
        refine ⟨fun htakes => .inr ⟨hnone, htakes⟩, ?_⟩
        rintro (hfalse | ⟨_, htakes⟩)
        · cases hfalse
        · exact htakes

/-! ## A paid session that was looked at early -/

namespace Sample

/-- A checkout that sees the session with two statuses. -/
def look (status paymentStatus : String) : CheckoutDelivery where
  eventId := "look"
  status := some status
  paymentStatus := some paymentStatus
  tenant := some ⟨"FREE", .active, none, none, none, none⟩
  subscription := none
  configured := []
  now := 0

/-- An unpaid look does not block the refund of the session. -/
theorem unpaid_look_settled : Settled paidSession
    (purchaseAfter [.checkout (look "complete" "unpaid") .committed,
      .checkout (look "complete" "paid") .committed]) := by
  refine (early_looks_block paidSession (fun _ => false) ⟨[("tenant", ⟨0, 0⟩)], []⟩ none (by simp)
    [.checkout (look "complete" "unpaid") .committed] ?_ (look "complete" "paid")
    (by decide +kernel)).1.mpr (.inr ⟨?_, ?_⟩)
  · intro event hevent
    rw [List.mem_singleton.mp hevent]
    exact .inr (by decide +kernel)
  · decide +kernel
  · exact ⟨_, ⟨none, none, .skippedMismatch⟩, rfl, by rfl, nofun⟩

/-- A look before the session is complete does. -/
theorem incomplete_look_blocks :
    Settled paidSession (purchaseAfter [.checkout (look "complete" "paid") .committed]) ∧
    ¬ Settled paidSession (purchaseAfter [.checkout (look "open" "unpaid") .committed,
      .checkout (look "complete" "paid") .committed]) := by
  decide +kernel

end Sample

end LunchLineup.Billing
