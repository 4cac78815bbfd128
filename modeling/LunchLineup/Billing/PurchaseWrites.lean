import LunchLineup.Billing.CreditPurchase

/-!
# What the purchase transactions write

An accepted transaction appends rows and may grant.  `Prepared` lists what the
first transaction may do, `RefundWrite` what the second one does: it appends rows
about one refund under one attempt.  The invariants of the next module are proved
for these cases once.
-/

namespace LunchLineup.Billing

open LunchLineup.Lib

/-! ## Rows -/

theorem createEvent_ok {db db' : PurchaseDatabase} {event : BillingEvent}
    (h : db.createEvent event = .ok db') :
    (∀ other ∈ db.events, other.id ≠ event.id) ∧
      db' = { db with events := db.events ++ [event] } := by
  simp only [PurchaseDatabase.createEvent, bind_eq_ok, ensure_eq_ok] at h
  obtain ⟨_, hfresh, h⟩ := h
  exact ⟨hfresh, (Except.ok.inj h).symm⟩

/-- A row that is new was not there. -/
theorem findEvent_of_createEvent {db db' : PurchaseDatabase} {event : BillingEvent}
    (h : db.createEvent event = .ok db') :
    db.findEvent event.id = none ∧ db'.findEvent event.id = some event := by
  obtain ⟨hfresh, rfl⟩ := createEvent_ok h
  have hnone : db.events.find? (·.id = event.id) = none := by
    rw [List.find?_eq_none]
    intro other hother hid
    exact hfresh other hother (of_decide_eq_true hid)
  refine ⟨hnone, ?_⟩
  simp [PurchaseDatabase.findEvent, List.find?_append, hnone]

/-! ## Grants -/

/-- A settlement under a new id appends its row, which splits the amount into debt
and spendable credits. -/
theorem recordPositive_row {store after : Store} {args : PositiveSettlementArgs}
    {settlement : PositiveCreditSettlement} {platformAdmin : Bool}
    (hfresh : ∀ row ∈ store.ledger, row.id ≠ args.transactionId)
    (h : recordPositiveCreditSettlementInTransaction store platformAdmin args =
      .ok (settlement, after)) :
    ∃ row wallet, Applies store (.positive settlement) after row wallet ∧
      row.id = args.transactionId ∧ row.tenantId = args.tenantId ∧ row.reason = args.reason ∧
      0 ≤ row.amount ∧ row.debtAmount ≤ 0 ∧
      args.amount.safeInteger? = some (row.amount - row.debtAmount) ∧
      settlement.replayed = false := by
  have hcases := recordPositive_cases h
  unfold recordPositiveCreditSettlementInTransaction at h
  obtain ⟨_, _, h⟩ := bind_eq_ok.mp h
  split at h
  · cases h
  rename_i amount hamount
  simp only [bind_eq_ok, ensure_eq_ok] at h
  obtain ⟨_, hpositive, _, _, _, _, h⟩ := h
  split at h
  · rename_i existing hexisting
    obtain ⟨hmem, hid⟩ := findUnique_spec hexisting
    exact absurd hid (hfresh existing hmem)
  · split at h
    · cases h
    rename_i current hfound
    simp only [bind_eq_ok, ensure_eq_ok, Except.ok.injEq, Prod.mk.injEq] at h
    obtain ⟨balance, hbalance, debt, hdebt, _, _, _, _, middle, hupdate, newBalance, hnewBalance,
      newDebt, hnewDebt, _, _, inserted, hinsert, rfl, rfl⟩ := h
    obtain ⟨row, hrow_id, hrow_tenant, _, hreplay | ⟨⟨wallet, happlies⟩, hreplayed⟩⟩ := hcases
    · exact absurd hrow_id (hfresh row hreplay.1.recorded)
    -- The appended row is the one the function builds.
    have hinserted := (insertCreditTransaction_ok rfl hinsert).2
    have hledger := happlies.ledger
    rw [hinserted, (updateTenant_ok hupdate).2] at hledger
    obtain rfl := List.singleton_inj.mp (List.append_cancel_left hledger)
    obtain ⟨hdebt_eq, hdebt_nonneg⟩ := requireStored_ok hdebt
    obtain rfl := Option.some.inj hdebt_eq
    refine ⟨_, wallet, happlies, rfl, rfl, rfl, ?_, ?_, ?_, hreplayed⟩
    · have hmin := min_le_right current.creditDebt amount
      exact sub_nonneg.mpr hmin
    · have hmin : 0 ≤ min current.creditDebt amount := le_min hdebt_nonneg hpositive.le
      exact neg_nonpos.mpr hmin
    · rw [hamount]
      congr 1
      ring

theorem safeInteger?_integer {n amount : Int}
    (h : (JsNumber.integer n).safeInteger? = some amount) : n = amount := by
  simp only [JsNumber.safeInteger?] at h
  split at h
  · exact Option.some.inj h
  · cases h

theorem mem_creditPacks {code : Option String} {pack : CreditPackConfig}
    (h : findCreditPack code = some pack) : pack ∈ creditPacks := by
  simp only [findCreditPack] at h
  exact List.mem_of_find?_eq_some h

/-- The texts of a pack are not blank. -/
theorem asString_pack {pack : CreditPackConfig} (h : pack ∈ creditPacks) :
    asString (some pack.code) = some pack.code ∧
      asString (some (toString pack.credits)) = some (toString pack.credits) := by
  simp only [creditPacks, List.mem_cons, List.not_mem_nil, or_false] at h
  rcases h with rfl | rfl | rfl
  all_goals decide +kernel

/-! ## The verification -/

/-- What a verified session says about its pack. -/
structure PurchaseContext.Verified (context : PurchaseContext) (pack : CreditPackConfig) : Prop where
  found : findCreditPack context.session.metadata.creditPackCode = some pack
  purchaseType : context.session.metadata.purchaseType = some creditPackPurchaseType
  creditAmount : asString context.session.metadata.creditAmount = some (toString pack.credits)

theorem legacyPrice_spec {context : PurchaseContext} {pack : CreditPackConfig}
    {price : AuthoritativePrice} (h : context.legacyPrice pack = some price) :
    context.session.metadata.purchaseType = some creditPackPurchaseType ∧
      asString context.session.metadata.creditAmount = some (toString pack.credits) := by
  simp only [PurchaseContext.legacyPrice, Option.bind_eq_bind, Option.bind_eq_some_iff] at h
  obtain ⟨_, _, _, _, _, _, _, _, h⟩ := h
  split at h
  · rename_i hchecks
    exact ⟨hchecks.1, hchecks.2.2.2.1⟩
  · cases h

theorem resolveMetadataPrice_spec {context : PurchaseContext} {pack : CreditPackConfig}
    {price : AuthoritativePrice} (hpack : pack ∈ creditPacks)
    (h : context.resolveMetadataPrice pack = some price) :
    context.session.metadata.purchaseType = some creditPackPurchaseType ∧
      asString context.session.metadata.creditAmount = some (toString pack.credits) := by
  simp only [PurchaseContext.resolveMetadataPrice] at h
  split at h
  · simp only [Option.bind_eq_bind, Option.bind_eq_some_iff] at h
    obtain ⟨_, _, _, _, _, _, h⟩ := h
    split at h
    · rename_i hchecks
      rw [hchecks.2]
      exact ⟨rfl, (asString_pack hpack).2⟩
    · cases h
  · exact legacyPrice_spec h

theorem verified_of_applied {context : PurchaseContext} {tenant : TenantState}
    {delivery : CheckoutDelivery} {verification : PurchaseVerification} {pack : CreditPackConfig}
    {price : AuthoritativePrice} (h : verifyPurchase context tenant delivery = .ok verification)
    (hpack : verification.pack = some pack) (hprice : verification.price = some price) :
    context.Verified pack := by
  simp only [verifyPurchase] at h
  split at h
  · obtain rfl := Except.ok.inj h
    cases hprice
  split at h
  · obtain rfl := Except.ok.inj h
    cases hpack
  rename_i found hfound
  split at h
  · obtain rfl := Except.ok.inj h
    cases hprice
  rename_i foundPrice hfoundPrice
  have hspec := resolveMetadataPrice_spec (mem_creditPacks hfound) hfoundPrice
  have hverified : verification.pack = some found := by
    split at h
    · obtain rfl := Except.ok.inj h
      rfl
    split at h
    · obtain rfl := Except.ok.inj h
      rfl
    split at h
    · obtain rfl := Except.ok.inj h
      rfl
    split at h
    · cases h
    · obtain rfl := Except.ok.inj h
      rfl
  obtain rfl := Option.some.inj (hverified.symm.trans hpack)
  exact ⟨hfound, hspec.1, hspec.2⟩

/-! ## The first transaction -/

/-- The row that closes a purchase with a grant. -/
structure BillingEvent.Grants (event : BillingEvent) (pack : CreditPackConfig) : Prop where
  id : event.id = .purchase
  source : event.metadata.source = .purchase
  outcome : event.metadata.outcomeState = some .complete
  disposition : event.metadata.disposition = some .applied
  code : event.metadata.creditPackCode = some pack.code
  credits : event.metadata.creditAmount = some pack.credits

/-- What an accepted first transaction has done. -/
inductive Prepared (context : PurchaseContext) (db : PurchaseDatabase) :
    PurchasePreparation → PurchaseDatabase → Prop
  | same {preparation : PurchasePreparation} (hnone : preparation.settlement = none) :
      Prepared context db preparation db
  | replayed {existing : CreditTransaction} {settlement : CreditPackSettlementResult}
      (hexisting : db.existingTransaction context = some existing)
      (h : context.resolveExistingPurchaseSettlement existing (db.findEvent .purchase) =
        .ok settlement) : Prepared context db ⟨.complete, some settlement⟩ db
  | noted {preparation : PurchasePreparation} {event : BillingEvent} {db' : PurchaseDatabase}
      {eventId : String} (hnone : preparation.settlement = none)
      (hexisting : db.existingTransaction context = none) (hterminal : db.hasRefundTerminal = false)
      (hid : event.id = .recoverable eventId) (hsource : event.metadata.source = .purchase)
      (hrefund : event.metadata.refundId = none) (h : db.createEvent event = .ok db') :
      Prepared context db preparation db'
  | decided {preparation : PurchasePreparation} {event : BillingEvent} {db' : PurchaseDatabase}
      (hnone : preparation.settlement = none)
      (hexisting : db.existingTransaction context = none) (hterminal : db.hasRefundTerminal = false)
      (hid : event.id = .purchase) (hsource : event.metadata.source = .purchase)
      (hrefund : event.metadata.refundId = none)
      (hlegacy : event.metadata.legacyRefundId = db.legacyRefundId)
      (hrequired : db.legacyRefundId ≠ none → event.metadata.outcomeState = some .refundRequired)
      (h : db.createEvent event = .ok db') : Prepared context db preparation db'
  | granted {event : BillingEvent} {middle db' : PurchaseDatabase} {pack : CreditPackConfig}
      {settlement : CreditPackSettlementResult}
      (hexisting : db.existingTransaction context = none) (hterminal : db.hasRefundTerminal = false)
      (hevent : event.Grants pack) (hrefund : event.metadata.refundId = none)
      (hnew : event.metadata.legacyRefundId = none)
      (hlegacy : db.legacyRefundId = none) (hverified : context.Verified pack)
      (h : db.createEvent event = .ok middle)
      (hgrant : middle.grantPurchase context pack = .ok (settlement, db')) :
      Prepared context db ⟨.complete, some settlement⟩ db'

section Preparing

variable {context : PurchaseContext} {db db' : PurchaseDatabase} {delivery : CheckoutDelivery}
  {preparation : PurchasePreparation}

theorem prepared_of_decidePurchase (hexisting : db.existingTransaction context = none)
    (hterminal : db.hasRefundTerminal = false)
    (hlegacy : db.findEvent .purchase = none → db.legacyRefundId = none)
    (h : db.decidePurchase context delivery = .ok (preparation, db')) :
    Prepared context db preparation db' := by
  unfold PurchaseDatabase.decidePurchase at h
  split at h
  · obtain ⟨rfl, rfl⟩ := Prod.mk.inj (Except.ok.inj h)
    exact .same rfl
  rename_i tenant _
  obtain ⟨verification, hverify, h⟩ := bind_eq_ok.mp h
  split at h
  · split at h
    · obtain ⟨rfl, rfl⟩ := Prod.mk.inj (Except.ok.inj h)
      exact .same rfl
    · obtain ⟨last, hcreate, h⟩ := bind_eq_ok.mp h
      obtain ⟨rfl, rfl⟩ := Prod.mk.inj (Except.ok.inj h)
      exact .noted rfl hexisting hterminal rfl rfl rfl hcreate
  split at h
  · obtain ⟨last, hcreate, h⟩ := bind_eq_ok.mp h
    obtain ⟨rfl, rfl⟩ := Prod.mk.inj (Except.ok.inj h)
    have hnone := hlegacy (findEvent_of_createEvent hcreate).1
    exact .decided rfl hexisting hterminal rfl rfl rfl hnone.symm (fun _ => rfl) hcreate
  · obtain ⟨middle, hcreate, h⟩ := bind_eq_ok.mp h
    have hnone := hlegacy (findEvent_of_createEvent hcreate).1
    split at h
    · rename_i pack price hdisposition hpack hprice
      obtain ⟨⟨settlement, last⟩, hgrant, h⟩ := bind_eq_ok.mp h
      obtain ⟨rfl, rfl⟩ := Prod.mk.inj (Except.ok.inj h)
      have hverified := verified_of_applied hverify hpack hprice
      refine .granted hexisting hterminal ⟨rfl, rfl, rfl, ?_, ?_, ?_⟩ rfl rfl hnone hverified hcreate
        hgrant
      · simp only [hdisposition]
      · simp only [hpack, Option.map_some, Option.some_or]
      · simp only [hpack, Option.map_some]
    · obtain ⟨rfl, rfl⟩ := Prod.mk.inj (Except.ok.inj h)
      exact .decided rfl hexisting hterminal rfl rfl rfl hnone.symm
        (fun hsome => absurd hnone hsome) hcreate

/-- The cases of an accepted first transaction. -/
theorem prepared_of_ok
    (h : db.preparePurchaseTransaction context delivery = .ok (preparation, db')) :
    Prepared context db preparation db' := by
  unfold PurchaseDatabase.preparePurchaseTransaction at h
  split at h
  · cases h
  · obtain ⟨rfl, rfl⟩ := Prod.mk.inj (Except.ok.inj h)
    exact .same rfl
  · rename_i existing _ hexisting
    obtain ⟨settlement, hsettlement, h⟩ := bind_eq_ok.mp h
    obtain ⟨rfl, rfl⟩ := Prod.mk.inj (Except.ok.inj h)
    exact .replayed hexisting hsettlement
  · rename_i hterminal hexisting
    split at h
    · rename_i recorded hrecorded
      have hlegacy : db.findEvent .purchase = none → db.legacyRefundId = none := by
        intro hnone
        rw [hrecorded] at hnone
        cases hnone
      split at h
      · obtain ⟨rfl, rfl⟩ := Prod.mk.inj (Except.ok.inj h)
        exact .same rfl
      · cases h
      · exact prepared_of_decidePurchase hexisting hterminal hlegacy h
    · split at h
      · rename_i refundId hrefund
        obtain ⟨last, hcreate, h⟩ := bind_eq_ok.mp h
        obtain ⟨rfl, rfl⟩ := Prod.mk.inj (Except.ok.inj h)
        exact .decided rfl hexisting hterminal rfl rfl rfl hrefund.symm (fun _ => rfl) hcreate
      · rename_i hlegacy
        exact prepared_of_decidePurchase hexisting hterminal (fun _ => hlegacy) h

end Preparing

/-! ## The second transaction -/

/-- Rows about one refund under one attempt. -/
structure RefundWrite (refundId : String) (attempt : Int) (db db' : PurchaseDatabase) : Prop where
  store : db'.store = db.store
  appended : ∃ rows, db'.events = db.events ++ rows ∧ ∀ row ∈ rows,
    (row.id = .refundTerminal ∨ ∃ status, row.id = .refundState refundId status) ∧
      row.metadata.refundId = some refundId ∧ row.metadata.attempt = some attempt
  ids : (db.events.map (·.id)).Nodup → (db'.events.map (·.id)).Nodup

/-- The tables of a plan. -/
def RefundPlan.db : RefundPlan → PurchaseDatabase
  | .finished _ db => db
  | .create _ db => db

/-- The session's money goes back. -/
def PurchaseDatabase.RefundRequired (db : PurchaseDatabase) : Prop :=
  ∃ recorded, db.findEvent .purchase = some recorded ∧
    recorded.metadata.outcomeState = some .refundRequired

section Recording

variable {refundId : String} {attempt : Int} {db db' : PurchaseDatabase}

theorem RefundWrite.refl (db : PurchaseDatabase) : RefundWrite refundId attempt db db :=
  ⟨rfl, ⟨[], by simp, by simp⟩, id⟩

theorem RefundWrite.trans {last : PurchaseDatabase} (hfirst : RefundWrite refundId attempt db db')
    (hsecond : RefundWrite refundId attempt db' last) : RefundWrite refundId attempt db last := by
  obtain ⟨first, hfirst_events, hfirst_rows⟩ := hfirst.appended
  obtain ⟨second, hsecond_events, hsecond_rows⟩ := hsecond.appended
  refine ⟨hsecond.store.trans hfirst.store, ⟨first ++ second, ?_, ?_⟩,
    fun hids => hsecond.ids (hfirst.ids hids)⟩
  · rw [hsecond_events, hfirst_events, List.append_assoc]
  · intro row hrow
    rcases List.mem_append.mp hrow with hrow | hrow
    · exact hfirst_rows row hrow
    · exact hsecond_rows row hrow

theorem RefundWrite.of_createEvent {event : BillingEvent}
    (hid : event.id = .refundTerminal ∨ ∃ status, event.id = .refundState refundId status)
    (hrefund : event.metadata.refundId = some refundId)
    (hattempt : event.metadata.attempt = some attempt) (h : db.createEvent event = .ok db') :
    RefundWrite refundId attempt db db' := by
  obtain ⟨hfresh, rfl⟩ := createEvent_ok h
  refine ⟨rfl, ⟨[event], rfl, ?_⟩, fun hids => nodup_keys_append hids hfresh⟩
  intro row hrow
  rw [List.mem_singleton.mp hrow]
  exact ⟨hid, hrefund, hattempt⟩

theorem recordRefundState_ok {refund : PurchaseRefund}
    (h : db.recordRefundState refund attempt = .ok db') : RefundWrite refund.id attempt db db' := by
  unfold PurchaseDatabase.recordRefundState at h
  split at h
  · obtain rfl := Except.ok.inj h
    exact .refl _
  · exact .of_createEvent (.inr ⟨_, rfl⟩) rfl rfl h

theorem recordRefundTerminal_ok {refund : PurchaseRefund}
    (h : db.recordRefundTerminal refund attempt = .ok db') :
    RefundWrite refund.id attempt db db' := by
  unfold PurchaseDatabase.recordRefundTerminal at h
  split at h
  · obtain rfl := Except.ok.inj h
    exact .refl _
  · exact .of_createEvent (.inl rfl) rfl rfl h

/-- A verified refund is the one of the response, and its id is not blank. -/
theorem validateRefund_ok {context : PurchaseContext} {response : ProviderRefund}
    {refund : PurchaseRefund} (h : context.validateRefund response = .ok refund) :
    refund = ⟨response.id, response.status⟩ ∧ asString (some response.id) = some response.id := by
  simp only [PurchaseContext.validateRefund, bind_eq_ok, ensure_eq_ok] at h
  obtain ⟨_, hchecks, h⟩ := h
  have hsome := hchecks.1
  simp only [asString, Option.isSome_filter, Option.any_some] at hsome
  refine ⟨(Except.ok.inj h).symm, ?_⟩
  simp [asString, Option.filter, hsome]

theorem recordCreated_ok {context : PurchaseContext} {response : ProviderRefund}
    {recoverable : Bool} (h : db.recordCreated context attempt response = .ok (recoverable, db')) :
    RefundWrite response.id attempt db db' ∧ asString (some response.id) = some response.id := by
  obtain ⟨refund, hvalid, h⟩ := bind_eq_ok.mp h
  obtain ⟨rfl, hnamed⟩ := validateRefund_ok hvalid
  refine ⟨?_, hnamed⟩
  obtain ⟨middle, hstate, h⟩ := bind_eq_ok.mp h
  have hwrite := recordRefundState_ok hstate
  split at h
  · obtain ⟨last, hterminal, h⟩ := bind_eq_ok.mp h
    obtain ⟨_, rfl⟩ := Prod.mk.inj (Except.ok.inj h)
    exact hwrite.trans (recordRefundTerminal_ok hterminal)
  · obtain ⟨_, rfl⟩ := Prod.mk.inj (Except.ok.inj h)
    exact hwrite

/-- A retrieved refund is one of the attempts. -/
theorem retrieveRefund_ok {context : PurchaseContext} {attempts : List (Attempt ProviderRefund)}
    {refund : PurchaseRefund} (h : context.retrieveRefund attempts refundId = .ok refund) :
    ∃ attempt ∈ attempts, attempt.current.id = refundId ∧ refund.id = refundId ∧
      refund.status = attempt.current.status ∧ asString (some refundId) = some refundId := by
  unfold PurchaseContext.retrieveRefund at h
  split at h
  · cases h
  · rename_i attempt hfind
    obtain ⟨rfl, hnamed⟩ := validateRefund_ok h
    have hid : attempt.current.id = refundId := by simpa using List.find?_some hfind
    rw [hid] at hnamed
    exact ⟨attempt, List.mem_of_find?_eq_some hfind, hid, hid, rfl, hnamed⟩

/-- What is done about a refund that is known: rows under its attempt, and the next
attempt where it has failed. -/
theorem planKnown_ok {refund : PurchaseRefund} {plan : RefundPlan}
    (h : db.planKnown refund = .ok plan) :
    RefundWrite refund.id (db.attemptOf refund.id) db plan.db ∧
      ∀ next db', plan = .create next db' → next = db.attemptOf refund.id + 1 ∧
        (refund.status = .failed ∨ refund.status = .canceled) := by
  obtain ⟨middle, hstate, h⟩ := bind_eq_ok.mp h
  have hwrite := recordRefundState_ok hstate
  -- A failed or canceled refund is followed by the next attempt, up to the bound.
  have hretry {plan : RefundPlan} (hover : refund.status = .failed ∨ refund.status = .canceled)
      (h : (if maxRefundAttempts ≤ db.attemptOf refund.id + 1 then
        Except.ok (ε := PurchaseError) (RefundPlan.finished true middle)
        else .ok (.create (db.attemptOf refund.id + 1) middle)) = .ok plan) :
      RefundWrite refund.id (db.attemptOf refund.id) db plan.db ∧
        ∀ next db', plan = .create next db' → next = db.attemptOf refund.id + 1 ∧
          (refund.status = .failed ∨ refund.status = .canceled) := by
    split at h
    · obtain rfl := Except.ok.inj h
      exact ⟨hwrite, nofun⟩
    · obtain rfl := Except.ok.inj h
      refine ⟨hwrite, ?_⟩
      intro next db' heq
      exact ⟨(RefundPlan.create.inj heq).1.symm, hover⟩
  cases hstatus : refund.status with
  | succeeded =>
      simp only [hstatus] at h
      obtain ⟨last, hterminal, h⟩ := bind_eq_ok.mp h
      obtain rfl := Except.ok.inj h
      exact ⟨hwrite.trans (recordRefundTerminal_ok hterminal), nofun⟩
  | pending =>
      simp only [hstatus] at h
      obtain rfl := Except.ok.inj h
      exact ⟨hwrite, nofun⟩
  | requiresAction =>
      simp only [hstatus] at h
      obtain rfl := Except.ok.inj h
      exact ⟨hwrite, nofun⟩
  | failed =>
      simp only [hstatus] at h
      obtain ⟨hwritten, hnext⟩ := hretry (.inl hstatus) h
      rw [hstatus] at hnext
      exact ⟨hwritten, hnext⟩
  | canceled =>
      simp only [hstatus] at h
      obtain ⟨hwritten, hnext⟩ := hretry (.inr hstatus) h
      rw [hstatus] at hnext
      exact ⟨hwritten, hnext⟩

/-- Where the id of the refund that is looked up comes from. -/
inductive KnownRefund (db : PurchaseDatabase) (webhookRefundId : Option String) (refundId : String) :
    Prop
  | webhook (h : webhookRefundId = some refundId)
  | record {record : BillingEvent} (hmem : record ∈ db.refundRecords)
      (h : asString record.metadata.refundId = some refundId)
  | legacy {recorded : BillingEvent} (hrecorded : db.findEvent .purchase = some recorded)
      (h : asString recorded.metadata.legacyRefundId = some refundId)
      (hnone : db.latestRecord.bind (fun latest => asString latest.metadata.refundId) = none)

theorem mem_of_latestRecord {record : BillingEvent} (h : db.latestRecord = some record) :
    record ∈ db.refundRecords := by
  have hmem := List.mem_of_getLast? h
  exact (List.mergeSort_perm _ _).mem_iff.mp hmem

theorem refundRecords_of_latestRecord (h : db.latestRecord = none) : db.refundRecords = [] := by
  have hnil := List.getLast?_eq_none_iff.mp h
  have hlength := (List.mergeSort_perm db.refundRecords
    fun left right => decide (left.attempt ≤ right.attempt)).length_eq
  rw [hnil, List.length_nil] at hlength
  exact List.length_eq_zero_iff.mp hlength.symm

/-- The cases of a second transaction up to the request it makes. -/
theorem planRefund_ok {context : PurchaseContext} {attempts : List (Attempt ProviderRefund)}
    {webhookRefundId : Option String} {plan : RefundPlan}
    (h : db.planRefund context attempts webhookRefundId = .ok plan) :
    db.existingTransaction context = none ∧
      ((db.hasRefundTerminal = true ∧ plan = .finished false db) ∨
        (db.hasRefundTerminal = false ∧ db.RefundRequired ∧
          (plan = .create 0 db ∨ ∃ refundId refund, KnownRefund db webhookRefundId refundId ∧
            context.retrieveRefund attempts refundId = .ok refund ∧
            db.planKnown refund = .ok plan))) := by
  unfold PurchaseDatabase.planRefund at h
  split at h
  · cases h
  rename_i hexisting
  refine ⟨hexisting, ?_⟩
  split at h
  · rename_i hterminal
    exact .inl ⟨hterminal, (Except.ok.inj h).symm⟩
  · rename_i hterminal
    simp only [bind_eq_ok, ensure_eq_ok] at h
    obtain ⟨_, hrequired, h⟩ := h
    obtain ⟨recorded, hrecorded, hstate⟩ := Option.bind_eq_some_iff.mp hrequired
    refine .inr ⟨by simpa using hterminal, ⟨recorded, hrecorded, hstate⟩, ?_⟩
    split at h
    · rename_i refundId hrefundId
      obtain ⟨refund, hretrieve, hplan⟩ := bind_eq_ok.mp h
      refine .inr ⟨refundId, refund, ?_, hretrieve, hplan⟩
      rw [hrecorded] at hrefundId
      rcases Option.or_eq_some_iff.mp hrefundId with hwebhook | ⟨_, hrest⟩
      · exact .webhook hwebhook
      rcases Option.or_eq_some_iff.mp hrest with hlatest | ⟨hnone, hlegacy⟩
      · obtain ⟨latest, hlatest, hid⟩ := Option.bind_eq_some_iff.mp hlatest
        exact .record (mem_of_latestRecord hlatest) hid
      · exact .legacy hrecorded hlegacy hnone
    · exact .inl (Except.ok.inj h).symm

end Recording

end LunchLineup.Billing
