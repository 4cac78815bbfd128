import LunchLineup.Billing.PurchaseWrites
import LunchLineup.Lib.Run

/-!
# One outcome for a purchase

A purchase is granted or refunded because one row decides: the row `.purchase` is
written once, says which of the two it is, and is written before either happens.
`Consistent` says so, and every step keeps it, whatever is delivered and wherever a
transaction is rolled back.
-/

namespace LunchLineup.Billing

open LunchLineup.Lib

/-! ## Appended rows -/

section Appended

variable {db db' : PurchaseDatabase} {rows : List BillingEvent}

theorem findEvent_append (hevents : db'.events = db.events ++ rows) {id : BillingEventId}
    (hne : ∀ row ∈ rows, row.id ≠ id) : db'.findEvent id = db.findEvent id := by
  have hnone : rows.find? (·.id = id) = none := by
    rw [List.find?_eq_none]
    intro row hrow heq
    exact hne row hrow (of_decide_eq_true heq)
  rw [PurchaseDatabase.findEvent, hevents, List.find?_append, hnone, Option.or_none]
  rfl

/-- A row that is found stays. -/
theorem findEvent_append_of_some (hevents : db'.events = db.events ++ rows) {id : BillingEventId}
    {event : BillingEvent} (h : db.findEvent id = some event) : db'.findEvent id = some event := by
  rw [PurchaseDatabase.findEvent] at h ⊢
  rw [hevents, List.find?_append, h]
  rfl

theorem hasRefundTerminal_append (hevents : db'.events = db.events ++ rows)
    (hne : ∀ row ∈ rows, row.id ≠ .refundTerminal) :
    db'.hasRefundTerminal = db.hasRefundTerminal := by
  rw [PurchaseDatabase.hasRefundTerminal, findEvent_append hevents hne]
  rfl

/-- The first row of a session decides what an earlier version has left. -/
theorem legacyRefundId_append (hevents : db'.events = db.events ++ rows)
    (hfirst : db.events ≠ [] ∨ ∀ row ∈ rows, row.metadata.refundId = none) :
    db'.legacyRefundId = db.legacyRefundId := by
  rw [PurchaseDatabase.legacyRefundId, PurchaseDatabase.legacyRefundId, hevents]
  cases hold : db.events with
  | cons first rest => rfl
  | nil =>
      cases hrows : rows with
      | nil => rfl
      | cons row rest =>
          rcases hfirst with hne | hnone
          · exact absurd hold hne
          · have hrow := hnone row (by simp [hrows])
            simp [hrow, asString]

theorem events_ne_nil {id : BillingEventId} {event : BillingEvent}
    (h : db.findEvent id = some event) : db.events ≠ [] := by
  intro hnil
  rw [PurchaseDatabase.findEvent, hnil] at h
  cases h

end Appended

/-! ## Grant or refund -/

/-- The ledger rows of the session's grant. -/
def purchaseRows (context : PurchaseContext) (store : Store) : List CreditTransaction :=
  store.ledger.filter (·.id = purchaseTransactionId context.session.id)

/-- The row of a grant: its value is the pack's, and a replay reads it back. -/
structure GrantRow (context : PurchaseContext) (db : PurchaseDatabase) (row : CreditTransaction) :
    Prop where
  tenant : row.tenantId = context.tenantId
  value : ∃ pack, findCreditPack context.session.metadata.creditPackCode = some pack ∧
    row.amount - row.debtAmount = pack.credits
  recorded : ∃ recorded, db.findEvent .purchase = some recorded ∧
    recorded.metadata.outcomeState = some .complete
  replay : ∃ balance, row.balanceAfter = some balance ∧
    context.resolveExistingPurchaseSettlement row (db.findEvent .purchase) =
      .ok ⟨row.id, balance, true⟩

/-- The refund path is taken, or will be as soon as the session is looked at. -/
def PurchaseDatabase.Refunding (db : PurchaseDatabase) : Prop :=
  db.RefundRequired ∨ (db.findEvent .purchase = none ∧ db.legacyRefundId ≠ none)

/-- What holds of a session between transactions. -/
structure Consistent (context : PurchaseContext) (state : PurchaseState) : Prop where
  once : (purchaseRows context state.db.store).length ≤ 1
  granted : ∀ row ∈ purchaseRows context state.db.store, GrantRow context state.db row
  refunds : state.attempts ≠ [] ∨ state.onTheWay ≠ [] ∨ state.db.hasRefundTerminal = true →
    state.db.Refunding

section Invariant

variable {context : PurchaseContext} {isControl : Char → Bool} {state : PurchaseState}
  {db' : PurchaseDatabase}

theorem GrantRow.of_findEvent {db : PurchaseDatabase} {row : CreditTransaction}
    (hrow : GrantRow context db row) (h : db'.findEvent .purchase = db.findEvent .purchase) :
    GrantRow context db' row := by
  refine ⟨hrow.tenant, hrow.value, ?_, ?_⟩
  · rw [h]
    exact hrow.recorded
  · rw [h]
    exact hrow.replay

/-- The statuses of the session at a delivery do not matter. -/
theorem GrantRow.retrieved {db : PurchaseDatabase} {row : CreditTransaction}
    (delivery : CheckoutDelivery) :
    GrantRow (context.retrieved delivery) db row ↔ GrantRow context db row :=
  ⟨fun h => ⟨h.tenant, h.value, h.recorded, h.replay⟩,
    fun h => ⟨h.tenant, h.value, h.recorded, h.replay⟩⟩

theorem Consistent.retrieved (delivery : CheckoutDelivery) :
    Consistent (context.retrieved delivery) state ↔ Consistent context state :=
  ⟨fun h => ⟨h.once, fun row hrow => (GrantRow.retrieved delivery).mp (h.granted row hrow),
      h.refunds⟩,
    fun h => ⟨h.once, fun row hrow => (GrantRow.retrieved delivery).mpr (h.granted row hrow),
      h.refunds⟩⟩

/-- A session on the refund path is not granted. -/
theorem Consistent.not_granted (hconsistent : Consistent context state)
    (hrefunding : state.db.Refunding) : purchaseRows context state.db.store = [] := by
  rw [List.eq_nil_iff_forall_not_mem]
  intro row hrow
  obtain ⟨recorded, hrecorded, hcomplete⟩ := (hconsistent.granted row hrow).recorded
  rcases hrefunding with ⟨other, hother, hrequired⟩ | ⟨hnone, _⟩
  · rw [hrecorded] at hother
    obtain rfl := Option.some.inj hother
    rw [hcomplete] at hrequired
    cases hrequired
  · rw [hrecorded] at hnone
    cases hnone

/-- A session whose purchase is not decided is not granted either. -/
theorem Consistent.undecided (hconsistent : Consistent context state)
    (hnone : state.db.findEvent .purchase = none) : purchaseRows context state.db.store = [] := by
  rw [List.eq_nil_iff_forall_not_mem]
  intro row hrow
  obtain ⟨recorded, hrecorded, _⟩ := (hconsistent.granted row hrow).recorded
  rw [hrecorded] at hnone
  cases hnone

/-- Rows that decide nothing. -/
theorem Consistent.noted (hconsistent : Consistent context state)
    (hstore : db'.store = state.db.store) {rows : List BillingEvent}
    (hevents : db'.events = state.db.events ++ rows) (hne : ∀ row ∈ rows, row.id ≠ .purchase)
    (hterminal : db'.hasRefundTerminal = true → state.db.Refunding ∨
      state.db.hasRefundTerminal = true)
    (hlegacy : db'.legacyRefundId = state.db.legacyRefundId) :
    Consistent context { state with db := db' } := by
  have hpurchase := findEvent_append hevents hne
  have hrefunding : state.db.Refunding → db'.Refunding := by
    unfold PurchaseDatabase.Refunding PurchaseDatabase.RefundRequired
    rw [hpurchase, hlegacy]
    exact id
  constructor
  · simp only [hstore]
    exact hconsistent.once
  · intro row hrow
    simp only [hstore] at hrow
    exact (hconsistent.granted row hrow).of_findEvent hpurchase
  · rintro (hattempts | honway | hterminal')
    · exact hrefunding (hconsistent.refunds (.inl hattempts))
    · exact hrefunding (hconsistent.refunds (.inr (.inl honway)))
    · rcases hterminal hterminal' with hold | hold
      · exact hrefunding hold
      · exact hrefunding (hconsistent.refunds (.inr (.inr hold)))

/-- A grant appends the session's row, with the value of the pack. -/
theorem grantPurchase_ok {db : PurchaseDatabase} {pack : CreditPackConfig}
    {settlement : CreditPackSettlementResult}
    (hfresh : purchaseRows context db.store = [])
    (h : db.grantPurchase context pack = .ok (settlement, db')) :
    ∃ row balance debt, db'.events = db.events ∧ db'.store.ledger = db.store.ledger ++ [row] ∧
      row.id = purchaseTransactionId context.session.id ∧ row.tenantId = context.tenantId ∧
      row.reason = purchaseReason pack ∧ 0 ≤ row.amount ∧ row.debtAmount ≤ 0 ∧
      row.amount - row.debtAmount = pack.credits ∧
      (row.balanceAfter = some balance ∧ 0 ≤ balance) ∧ (row.debtAfter = some debt ∧ 0 ≤ debt) ∧
      settlement = ⟨row.id, balance, false⟩ := by
  have hids : ∀ row ∈ db.store.ledger, row.id ≠ purchaseTransactionId context.session.id := by
    intro row hrow hid
    have hmem : row ∈ purchaseRows context db.store := List.mem_filter.mpr ⟨hrow, by simp [hid]⟩
    rw [hfresh] at hmem
    cases hmem
  obtain ⟨⟨positive, store⟩, hpositive, h⟩ := bind_eq_ok.mp h
  obtain ⟨rfl, rfl⟩ := Prod.mk.inj (Except.ok.inj h)
  obtain ⟨row, wallet, happlies, hid, htenant, hreason, hamount, hdebt, hvalue, hreplayed⟩ :=
    recordPositive_row hids (mapError_eq_ok.mp hpositive)
  obtain ⟨hreport_id, _, _, _, hreport_balance, _⟩ := happlies.reports
  have hrange := happlies.inRange
  refine ⟨row, _, _, rfl, happlies.ledger, hid, htenant, hreason, hamount, hdebt,
    (safeInteger?_integer hvalue).symm, ⟨happlies.balanceAfter, hrange.1.1⟩,
    ⟨happlies.debtAfter, hrange.2.1⟩, ?_⟩
  rw [happlies.balanceAfter] at hreport_balance
  rw [hreport_id, Option.some.inj hreport_balance, hreplayed]

theorem Consistent.granting (hconsistent : Consistent context state) {event : BillingEvent}
    {middle : PurchaseDatabase} {pack : CreditPackConfig} {settlement : CreditPackSettlementResult}
    (hterminal : state.db.hasRefundTerminal = false) (hevent : event.Grants pack)
    (hlegacy : state.db.legacyRefundId = none) (hverified : context.Verified pack)
    (h : state.db.createEvent event = .ok middle)
    (hgrant : middle.grantPurchase context pack = .ok (settlement, db')) :
    Consistent context { state with db := db' } ∧ state.attempts = [] ∧ state.onTheWay = [] ∧
      ∃ row balance, db'.store.ledger = state.db.store.ledger ++ [row] ∧
        row.id = purchaseTransactionId context.session.id ∧ row.balanceAfter = some balance ∧
        settlement = ⟨row.id, balance, false⟩ := by
  obtain ⟨hnone, hfound⟩ := findEvent_of_createEvent h
  rw [hevent.id] at hnone hfound
  have hnew := hconsistent.undecided hnone
  have hmiddle := (createEvent_ok h).2
  have hmiddle_store : middle.store = state.db.store := by rw [hmiddle]
  have hmiddle_events : middle.events = state.db.events ++ [event] :=
    congrArg PurchaseDatabase.events hmiddle
  rw [← hmiddle_store] at hnew
  obtain ⟨row, balance, debt, hevents, hledger, hid, htenant, hreason, hamount, hdebt, hvalue,
    ⟨hbalance, hbalance_nonneg⟩, ⟨hdebtAfter, hdebt_nonneg⟩, hsettlement⟩ :=
    grantPurchase_ok hnew hgrant
  rw [hmiddle_store] at hledger hnew
  -- Nothing was refunded: neither a row nor an earlier version asks for it.
  have hquiet : ¬ state.db.Refunding := by
    rintro (⟨recorded, hrecorded, _⟩ | ⟨_, hsome⟩)
    · rw [hnone] at hrecorded
      cases hrecorded
    · exact hsome hlegacy
  have hattempts : state.attempts = [] := by
    by_contra hne
    exact hquiet (hconsistent.refunds (.inl hne))
  have honway : state.onTheWay = [] := by
    by_contra hne
    exact hquiet (hconsistent.refunds (.inr (.inl hne)))
  have hpurchase : db'.findEvent .purchase = some event := by
    rw [PurchaseDatabase.findEvent, hevents]
    exact hfound
  have hterminal' : db'.hasRefundTerminal = false := by
    have hne : ∀ row ∈ [event], row.id ≠ .refundTerminal := by
      intro row hrow
      rw [List.mem_singleton.mp hrow, hevent.id]
      simp
    rw [hasRefundTerminal_append (hevents.trans hmiddle_events) hne]
    exact hterminal
  have hrows : purchaseRows context db'.store = [row] := by
    rw [purchaseRows, hledger, List.filter_append]
    have hold : state.db.store.ledger.filter
        (·.id = purchaseTransactionId context.session.id) = [] := hnew
    rw [hold, List.nil_append]
    simp [hid]
  refine ⟨⟨?_, ?_, ?_⟩, hattempts, honway, row, balance, hledger, hid, hbalance, hsettlement⟩
  · simp only [hrows, List.length_singleton, le_refl]
  · intro other hother
    simp only [hrows, List.mem_singleton] at hother
    subst hother
    refine ⟨htenant, ⟨pack, hverified.found, hvalue⟩, ⟨event, hpurchase, hevent.outcome⟩,
      balance, hbalance, ?_⟩
    have hcode : asString event.metadata.creditPackCode = some pack.code := by
      rw [hevent.code]
      exact (asString_pack (mem_creditPacks hverified.found)).1
    simp only [PurchaseContext.resolveExistingPurchaseSettlement, hverified.found, hbalance,
      hdebtAfter, hpurchase]
    rw [ensure_of_true _ ⟨hverified.purchaseType, hverified.creditAmount⟩, ok_bind,
      ensure_of_true _ ⟨hid, htenant, hamount, hdebt, hvalue, hreason, hbalance_nonneg,
        hdebt_nonneg⟩, ok_bind,
      ensure_of_true _ ⟨hevent.source, hevent.outcome, hevent.disposition, hcode, hevent.credits⟩,
      ok_bind]
  · rintro (hne | hne | hterminal)
    · exact absurd hattempts hne
    · exact absurd honway hne
    · rw [hterminal'] at hterminal
      cases hterminal

/-- The row that decides the purchase, where it does not grant. -/
theorem Consistent.decided (hconsistent : Consistent context state) {event : BillingEvent}
    (hid : event.id = .purchase) (hterminal : state.db.hasRefundTerminal = false)
    (hrequired : state.db.legacyRefundId ≠ none →
      event.metadata.outcomeState = some .refundRequired)
    (h : state.db.createEvent event = .ok db') : Consistent context { state with db := db' } := by
  obtain ⟨hnone, hfound⟩ := findEvent_of_createEvent h
  rw [hid] at hnone hfound
  have hnew := hconsistent.undecided hnone
  obtain ⟨_, rfl⟩ := createEvent_ok h
  constructor
  · rw [hnew]
    exact Nat.zero_le 1
  · intro row hrow
    rw [hnew] at hrow
    cases hrow
  · intro hexposed
    refine .inl ⟨event, hfound, hrequired ?_⟩
    have hold : state.db.Refunding := by
      rcases hexposed with hattempts | honway | hconfirmed
      · exact hconsistent.refunds (.inl hattempts)
      · exact hconsistent.refunds (.inr (.inl honway))
      · refine absurd hconfirmed ?_
        have hne : ∀ row ∈ [event], row.id ≠ .refundTerminal := by
          intro row hrow
          rw [List.mem_singleton.mp hrow, hid]
          nofun
        rw [hasRefundTerminal_append rfl hne, hterminal]
        nofun
    rcases hold with ⟨recorded, hrecorded, _⟩ | ⟨_, hlegacy⟩
    · rw [hnone] at hrecorded
      cases hrecorded
    · exact hlegacy

theorem Consistent.prepared (hconsistent : Consistent context state)
    {preparation : PurchasePreparation}
    (h : Prepared context state.db preparation db') :
    Consistent context { state with db := db' } := by
  cases h with
  | same _ => exact hconsistent
  | replayed _ _ => exact hconsistent
  | @noted _ event _ eventId _ _ hterminal hid _ hrefund h =>
      obtain ⟨_, rfl⟩ := createEvent_ok h
      have hone {P : BillingEvent → Prop} (hevent : P event) : ∀ row ∈ [event], P row := by
        intro row hrow
        rw [List.mem_singleton.mp hrow]
        exact hevent
      refine hconsistent.noted rfl rfl (hone ?_) ?_ ?_
      · rw [hid]
        nofun
      · intro hconfirmed
        rw [hasRefundTerminal_append rfl (hone (by rw [hid]; nofun))] at hconfirmed
        exact .inr hconfirmed
      · exact legacyRefundId_append rfl (.inr (hone hrefund))
  | decided _ _ hterminal hid _ _ _ hrequired h =>
      exact hconsistent.decided hid hterminal hrequired h
  | granted _ hterminal hevent _ _ hlegacy hverified h hgrant =>
      exact (hconsistent.granting hterminal hevent hlegacy hverified h hgrant).1

/-- Rows about refunds are written on the refund path only. -/
theorem Consistent.refunded (hconsistent : Consistent context state)
    (hrequired : state.db.RefundRequired) {refundId : String} {attempt : Int}
    (h : RefundWrite refundId attempt state.db db') :
    Consistent context { state with db := db' } ∧ db'.RefundRequired ∧
      db'.legacyRefundId = state.db.legacyRefundId := by
  obtain ⟨recorded, hrecorded, houtcome⟩ := hrequired
  obtain ⟨rows, hevents, hrows⟩ := h.appended
  have hlegacy := legacyRefundId_append hevents (.inl (events_ne_nil hrecorded))
  refine ⟨hconsistent.noted h.store hevents ?_ (fun _ => .inl (.inl ⟨recorded, hrecorded, houtcome⟩))
    hlegacy, ⟨recorded, findEvent_append_of_some hevents hrecorded, houtcome⟩, hlegacy⟩
  intro row hrow
  rcases (hrows row hrow).1 with hid | ⟨status, hid⟩
  · rw [hid]
    nofun
  · rw [hid]
    nofun

/-- The refunds at the provider and on their way move on the refund path only. -/
theorem Consistent.moved (hconsistent : Consistent context state) (hrefunding : state.db.Refunding)
    (attempts : List (Attempt ProviderRefund)) (onTheWay : List Int) :
    Consistent context ⟨state.db, attempts, onTheWay⟩ :=
  ⟨hconsistent.once, hconsistent.granted, fun _ => hrefunding⟩

theorem runAttempt_cases (attempt : Int) (new : NewRefund) (fate : Fate) :
    (state.runAttempt context attempt db' new fate).2 = state ∨
    (state.runAttempt context attempt db' new fate).2 =
      { state with onTheWay := state.onTheWay ++ [attempt] } ∨
    ∃ response attempts, state.createAt context attempt new = .ok (response, attempts) ∧
      ((state.runAttempt context attempt db' new fate).2 = { state with attempts := attempts } ∨
        ∃ last recoverable, db'.recordCreated context attempt response = .ok (recoverable, last) ∧
          (state.runAttempt context attempt db' new fate).2 =
            { state with db := last, attempts := attempts }) := by
  unfold PurchaseState.runAttempt
  split
  · exact .inl rfl
  · rename_i response attempts hcreate
    cases fate with
    | abandoned => exact .inr (.inl rfl)
    | rolledBack => exact .inr (.inr ⟨response, attempts, hcreate, .inl rfl⟩)
    | committed =>
        refine .inr (.inr ⟨response, attempts, hcreate, ?_⟩)
        cases hrecord : db'.recordCreated context attempt response with
        | error error => exact .inl rfl
        | ok result => exact .inr ⟨result.2, result.1, rfl, rfl⟩

theorem conclude_cases (answer : PurchaseAnswer) (fate : Fate) :
    (state.conclude answer db' fate).2 = state ∨
      (state.conclude answer db' fate).2 = { state with db := db' } := by
  unfold PurchaseState.conclude
  split
  · exact .inr rfl
  · exact .inl rfl

/-- What a plan has written is on the refund path. -/
theorem Consistent.planned (hconsistent : Consistent context state)
    {webhookRefundId : Option String} {plan : RefundPlan}
    (h : state.db.planRefund context state.attempts webhookRefundId = .ok plan) :
    Consistent context { state with db := plan.db } ∧
      ∀ attempt last, plan = .create attempt last →
        state.db.RefundRequired ∧ last.RefundRequired := by
  obtain ⟨_, ⟨_, rfl⟩ | ⟨_, hrequired, rfl | ⟨refundId, refund, _, _, hplan⟩⟩⟩ := planRefund_ok h
  · exact ⟨hconsistent, nofun⟩
  · refine ⟨hconsistent, ?_⟩
    intro attempt last heq
    obtain ⟨_, rfl⟩ := RefundPlan.create.inj heq
    exact ⟨hrequired, hrequired⟩
  · obtain ⟨hrefunded, hrequired', _⟩ := hconsistent.refunded hrequired (planKnown_ok hplan).1
    refine ⟨hrefunded, ?_⟩
    rintro attempt last rfl
    exact ⟨hrequired, hrequired'⟩

/-- The other writers of the wallet do not touch the session's row. -/
theorem purchaseRows_commit {request : WalletRequest}
    (hid : request.call.transactionId ≠ some (purchaseTransactionId context.session.id))
    (store : Store) :
    purchaseRows context (commit isControl store request).2 = purchaseRows context store := by
  rcases commit_cases isControl store request with hsame | ⟨_, row, _, hrow, _, happlies⟩
  · rw [hsame]
  · have hne : row.id ≠ purchaseTransactionId context.session.id := by
      intro heq
      rw [heq] at hrow
      exact hid hrow.symm
    rw [purchaseRows, happlies.ledger, List.filter_append, purchaseRows]
    simp [hne]

theorem Consistent.walletMoved (hconsistent : Consistent context state) {request : WalletRequest}
    (hid : request.call.transactionId ≠ some (purchaseTransactionId context.session.id)) :
    Consistent context { state with
      db := ⟨(commit isControl state.db.store request).2, state.db.events⟩ } := by
  have hrows := @purchaseRows_commit _ isControl _ hid state.db.store
  refine ⟨?_, ?_, hconsistent.refunds⟩
  · rw [hrows]
    exact hconsistent.once
  · intro row hrow
    rw [hrows] at hrow
    exact (hconsistent.granted row hrow).of_findEvent rfl

/-- Every step keeps a session consistent. -/
theorem Consistent.step (hconsistent : Consistent context state) (event : PurchaseEvent) :
    Consistent context (purchaseStep context isControl state event).2 := by
  cases event with
  | checkout delivery fate =>
      simp only [purchaseStep]
      split
      · exact hconsistent
      · rename_i preparation last hprepare
        rcases conclude_cases (.prepared preparation) fate with hsame | hcommitted
        · rw [hsame]
          exact hconsistent
        · rw [hcommitted, ← Consistent.retrieved delivery]
          exact ((Consistent.retrieved delivery).mpr hconsistent).prepared (prepared_of_ok hprepare)
  | refund webhookRefundId new fate =>
      simp only [purchaseStep]
      split
      · exact hconsistent
      · rename_i recoverable last hplan
        rcases conclude_cases (.reconciled recoverable) fate with hsame | hcommitted
        · rw [hsame]
          exact hconsistent
        · rw [hcommitted]
          exact (hconsistent.planned hplan).1
      · rename_i attempt last hplan
        obtain ⟨hplanned, hrefunding⟩ := hconsistent.planned hplan
        have hrequired := hrefunding attempt last rfl
        have hold : state.db.Refunding := .inl hrequired.1
        rcases @runAttempt_cases context state last attempt new fate with
          hsame | honway | ⟨response, attempts, _, hrolledBack | ⟨written, recoverable, hrecord, hcommitted⟩⟩
        · rw [hsame]
          exact hconsistent
        · rw [honway]
          exact hconsistent.moved hold _ _
        · rw [hrolledBack]
          exact hconsistent.moved hold _ _
        · rw [hcommitted]
          obtain ⟨hrecorded, hrecorded_required, _⟩ :=
            hplanned.refunded hrequired.2 (recordCreated_ok hrecord).1
          exact hrecorded.moved (.inl hrecorded_required) _ _
  | arrives attempt new =>
      simp only [purchaseStep]
      split
      · rename_i honway
        split
        · exact hconsistent
        · exact hconsistent.moved (hconsistent.refunds (.inr (.inl (List.ne_nil_of_mem honway)))) _ _
      · exact hconsistent
  | settles refundId status =>
      refine ⟨hconsistent.once, hconsistent.granted, ?_⟩
      rintro (hattempts | hrest)
      · refine hconsistent.refunds (.inl ?_)
        intro hnil
        apply hattempts
        simp [purchaseStep, PurchaseState.settled, Attempt.settle, hnil]
      · exact hconsistent.refunds (.inr hrest)
  | wallet request =>
      simp only [purchaseStep]
      split
      · exact hconsistent
      · rename_i hid
        exact hconsistent.walletMoved hid

end Invariant

end LunchLineup.Billing
