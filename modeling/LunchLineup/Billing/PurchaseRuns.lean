import LunchLineup.Billing.PurchaseNumbers

/-!
# Runs of deliveries

What single deliveries do once a session has an outcome, and what holds after any
run of deliveries, retries, late requests and changes at the provider.  The last
clause, that at most one refund is active, holds of the runs whose refund webhooks
come in order; without that it fails (`Sample.overlapping_refunds`).
-/

namespace LunchLineup.Billing

open LunchLineup.Lib

/-! ## Deliveries -/

/-- A webhook of the session. -/
def PurchaseEvent.isDelivery : PurchaseEvent → Bool
  | .checkout _ _ => true
  | .refund _ _ _ => true
  | .arrives _ _ => false
  | .settles _ _ => false
  | .wallet _ => false

/-- What a delivery does: after an outcome is recorded nothing at all; else it may
append the row of the grant to the ledger, and a committed checkout that finds the
grant reads it back. -/
structure Delivered (context : PurchaseContext)
    (t : Transition PurchaseState PurchaseEvent (Except PurchaseError PurchaseAnswer)) : Prop where
  settled : t.request.isDelivery = true →
    (purchaseRows context t.before.db.store ≠ [] ∨ t.before.db.hasRefundTerminal = true) →
    t.after = t.before
  wallet : t.request.isDelivery = true → t.after.db.store = t.before.db.store ∨
    (purchaseRows context t.before.db.store = [] ∧ ∃ row,
      t.after.db.store.ledger = t.before.db.store.ledger ++ [row] ∧
      row.id = purchaseTransactionId context.session.id)
  replayed : ∀ delivery, t.request = .checkout delivery .committed →
    ∀ row ∈ purchaseRows context t.before.db.store, ∃ balance, row.balanceAfter = some balance ∧
      t.answer = .ok (.prepared ⟨.complete, some ⟨row.id, balance, true⟩⟩)
  reported : ∀ preparation settlement, t.answer = .ok (.prepared preparation) →
    preparation.settlement = some settlement →
    ∃ row ∈ purchaseRows context t.after.db.store, settlement.transactionId = row.id ∧
      row.balanceAfter = some settlement.newBalance

section Deliveries

variable {context : PurchaseContext} {isControl : Char → Bool} {state : PurchaseState}
  {db' : PurchaseDatabase}

/-- The row of the grant is found. -/
theorem Consistent.existing (hconsistent : Consistent context state) {row : CreditTransaction}
    (hrow : row ∈ purchaseRows context state.db.store) :
    state.db.existingTransaction context = some row := by
  have hrow' := List.mem_filter.mp hrow
  simp only [decide_eq_true_eq] at hrow'
  cases hfound : state.db.existingTransaction context with
  | none =>
      have hnone := List.find?_eq_none.mp hfound row hrow'.1
      simp [hrow'.2, (hconsistent.granted row hrow).tenant] at hnone
  | some found =>
      obtain ⟨hmem, hid⟩ := findUnique_spec hfound
      have hfound_row : found ∈ purchaseRows context state.db.store :=
        List.mem_filter.mpr ⟨hmem, decide_eq_true hid⟩
      obtain ⟨only, honly⟩ := List.length_eq_one_iff.mp
        (le_antisymm hconsistent.once (List.length_pos_of_mem hrow))
      rw [honly, List.mem_singleton] at hrow hfound_row
      rw [hrow, hfound_row]

theorem mem_purchaseRows_of_existing {existing : CreditTransaction}
    (h : state.db.existingTransaction context = some existing) :
    existing ∈ purchaseRows context state.db.store := by
  obtain ⟨hmem, hid⟩ := findUnique_spec h
  exact List.mem_filter.mpr ⟨hmem, decide_eq_true hid⟩

/-- A granted session has no refund and no confirmation of one. -/
theorem Consistent.exclusive (hconsistent : Consistent context state)
    (hgranted : purchaseRows context state.db.store ≠ []) :
    state.attempts = [] ∧ state.onTheWay = [] ∧ state.db.hasRefundTerminal = false := by
  have hquiet : ¬ state.db.Refunding := fun hrefunding =>
    hgranted (hconsistent.not_granted hrefunding)
  refine ⟨?_, ?_, ?_⟩
  · by_contra hne
    exact hquiet (hconsistent.refunds (.inl hne))
  · by_contra hne
    exact hquiet (hconsistent.refunds (.inr (.inl hne)))
  · by_contra hne
    exact hquiet (hconsistent.refunds (.inr (.inr (by simpa using hne))))

/-- A checkout that finds the grant reads it back. -/
theorem Consistent.prepare_granted (hconsistent : Consistent context state)
    {row : CreditTransaction} (hrow : row ∈ purchaseRows context state.db.store)
    (delivery : CheckoutDelivery) : ∃ balance, row.balanceAfter = some balance ∧
      state.db.preparePurchaseTransaction (context.retrieved delivery) delivery =
        .ok (⟨.complete, some ⟨row.id, balance, true⟩⟩, state.db) := by
  obtain ⟨balance, hbalance, hreplay⟩ := (hconsistent.granted row hrow).replay
  have hexisting : state.db.existingTransaction (context.retrieved delivery) = some row :=
    hconsistent.existing hrow
  have hterminal := (hconsistent.exclusive (List.ne_nil_of_mem hrow)).2.2
  have hreplay' : (context.retrieved delivery).resolveExistingPurchaseSettlement row
      (state.db.findEvent .purchase) = .ok ⟨row.id, balance, true⟩ := hreplay
  refine ⟨balance, hbalance, ?_⟩
  simp only [PurchaseDatabase.preparePurchaseTransaction, hterminal, hexisting, hreplay', ok_bind]

theorem prepare_terminal (hterminal : state.db.hasRefundTerminal = true)
    {delivery : CheckoutDelivery} {preparation : PurchasePreparation}
    (h : state.db.preparePurchaseTransaction context delivery = .ok (preparation, db')) :
    db' = state.db := by
  unfold PurchaseDatabase.preparePurchaseTransaction at h
  rw [hterminal] at h
  split at h
  · cases h
  · obtain ⟨_, rfl⟩ := Prod.mk.inj (Except.ok.inj h)
    rfl
  · rename_i hfalse _
    cases hfalse
  · rename_i hfalse _
    cases hfalse

/-- After an outcome a refund webhook finds nothing to do. -/
theorem plan_settled (hconsistent : Consistent context state)
    (hsettled : purchaseRows context state.db.store ≠ [] ∨ state.db.hasRefundTerminal = true)
    {webhookRefundId : Option String} {plan : RefundPlan}
    (h : state.db.planRefund context state.attempts webhookRefundId = .ok plan) :
    plan = .finished false state.db := by
  obtain ⟨hexisting, ⟨_, hplan⟩ | ⟨hopen, _⟩⟩ := planRefund_ok h
  · exact hplan
  · rcases hsettled with hgranted | hterminal
    · obtain ⟨row, hrow⟩ := List.exists_mem_of_ne_nil _ hgranted
      rw [hconsistent.existing hrow] at hexisting
      cases hexisting
    · rw [hopen] at hterminal
      cases hterminal

/-- A concluded transaction that wrote nothing leaves the state as it was. -/
theorem conclude_same (answer : PurchaseAnswer) (fate : Fate) :
    (state.conclude answer state.db fate).2 = state := by
  rcases @conclude_cases state state.db answer fate with hsame | hsame
  · exact hsame
  · exact hsame

/-- After an outcome no delivery changes anything. -/
theorem Consistent.settled (hconsistent : Consistent context state) {event : PurchaseEvent}
    (hdelivery : event.isDelivery = true)
    (hsettled : purchaseRows context state.db.store ≠ [] ∨ state.db.hasRefundTerminal = true) :
    (purchaseStep context isControl state event).2 = state := by
  cases event with
  | checkout delivery fate =>
      simp only [purchaseStep]
      split
      · rfl
      · rename_i preparation last hprepare
        have hlast : last = state.db := by
          rcases hsettled with hgranted | hterminal
          · obtain ⟨row, hrow⟩ := List.exists_mem_of_ne_nil _ hgranted
            obtain ⟨balance, _, hreplay⟩ := hconsistent.prepare_granted hrow delivery
            rw [hreplay] at hprepare
            exact (Prod.mk.inj (Except.ok.inj hprepare)).2.symm
          · exact prepare_terminal hterminal hprepare
        rw [hlast]
        exact conclude_same _ fate
  | refund webhookRefundId new fate =>
      simp only [purchaseStep]
      split
      · rfl
      · rename_i recoverable last hplan
        obtain ⟨rfl, rfl⟩ := RefundPlan.finished.inj (plan_settled hconsistent hsettled hplan)
        exact conclude_same _ fate
      · rename_i number last hplan
        cases plan_settled hconsistent hsettled hplan
  | arrives _ _ => cases hdelivery
  | settles _ _ => cases hdelivery
  | wallet _ => cases hdelivery

/-- The store after a first transaction. -/
theorem Consistent.prepared_store (hconsistent : Consistent context state)
    {preparation : PurchasePreparation} (h : Prepared context state.db preparation db') :
    (db'.store = state.db.store ∨ (purchaseRows context state.db.store = [] ∧ ∃ row,
      db'.store.ledger = state.db.store.ledger ++ [row] ∧
      row.id = purchaseTransactionId context.session.id)) ∧
    ∀ settlement, preparation.settlement = some settlement →
      ∃ row ∈ purchaseRows context db'.store, settlement.transactionId = row.id ∧
        row.balanceAfter = some settlement.newBalance := by
  cases h with
  | same hnone =>
      refine ⟨.inl rfl, ?_⟩
      intro settlement hsome
      rw [hnone] at hsome
      cases hsome
  | @replayed existing settlement hexisting hreplay =>
      refine ⟨.inl rfl, ?_⟩
      intro other hother
      obtain rfl := Option.some.inj hother
      have hrow := mem_purchaseRows_of_existing hexisting
      obtain ⟨balance, hbalance, hread⟩ := (hconsistent.granted existing hrow).replay
      rw [hread] at hreplay
      obtain rfl := Except.ok.inj hreplay
      exact ⟨existing, hrow, rfl, hbalance⟩
  | noted hnone _ _ _ _ _ h =>
      obtain ⟨_, rfl⟩ := createEvent_ok h
      refine ⟨.inl rfl, ?_⟩
      intro settlement hsome
      rw [hnone] at hsome
      cases hsome
  | decided hnone _ _ _ _ _ _ _ h =>
      obtain ⟨_, rfl⟩ := createEvent_ok h
      refine ⟨.inl rfl, ?_⟩
      intro settlement hsome
      rw [hnone] at hsome
      cases hsome
  | granted _ hterminal hevent _ _ hlegacy hverified h hgrant =>
      obtain ⟨hnone, _⟩ := findEvent_of_createEvent h
      rw [hevent.id] at hnone
      obtain ⟨_, _, _, row, balance, hledger, hid, hbalance, hsettlement⟩ :=
        hconsistent.granting hterminal hevent hlegacy hverified h hgrant
      refine ⟨.inr ⟨hconsistent.undecided hnone, row, hledger, hid⟩, ?_⟩
      intro other hother
      obtain rfl := Option.some.inj hother
      refine ⟨row, ?_, ?_, ?_⟩
      · rw [purchaseRows, hledger]
        simp [hid]
      · rw [hsettlement]
      · rw [hsettlement, hbalance]

/-- A refund transaction leaves the wallet and the ledger as they are. -/
theorem refund_store (webhookRefundId : Option String) (new : NewRefund) (fate : Fate) :
    (purchaseStep context isControl state (.refund webhookRefundId new fate)).2.db.store =
      state.db.store := by
  have hplanned {plan : RefundPlan}
      (h : state.db.planRefund context state.attempts webhookRefundId = .ok plan) :
      plan.db.store = state.db.store := by
    obtain ⟨_, ⟨_, rfl⟩ | ⟨_, _, rfl | ⟨_, _, _, _, hplan⟩⟩⟩ := planRefund_ok h
    · rfl
    · rfl
    · exact (planKnown_ok hplan).1.store
  simp only [purchaseStep]
  split
  · rfl
  · rename_i recoverable last hplan
    rcases @conclude_cases state last (.reconciled recoverable) fate with hsame | hcommitted
    · rw [hsame]
    · rw [hcommitted]
      exact hplanned hplan
  · rename_i number last hplan
    rcases @runAttempt_cases context state last number new fate with hsame | honway |
      ⟨response, attempts, _, hrolledBack | ⟨written, recoverable, hrecord, hcommitted⟩⟩
    · rw [hsame]
    · rw [honway]
    · rw [hrolledBack]
    · rw [hcommitted]
      exact (recordCreated_ok hrecord).1.store.trans (hplanned hplan)

end Deliveries

/-! ## Runs -/

section Runs

variable {context : PurchaseContext} {isControl : Char → Bool} {state : PurchaseState}

theorem delivered_transition (hconsistent : Consistent context state) (event : PurchaseEvent) :
    Delivered context (transition (purchaseStep context isControl) state event) := by
  refine ⟨fun hdelivery hsettled => hconsistent.settled hdelivery hsettled, ?_, ?_, ?_⟩
  · intro hdelivery
    cases event with
    | checkout delivery fate =>
        simp only [transition, purchaseStep]
        split
        · exact .inl rfl
        · rename_i preparation last hprepare
          rcases @conclude_cases state last (.prepared preparation) fate with
            hsame | hcommitted
          · rw [hsame]
            exact .inl rfl
          · rw [hcommitted]
            exact (((Consistent.retrieved delivery).mpr hconsistent).prepared_store
              (prepared_of_ok hprepare)).1
    | refund webhookRefundId new fate => exact .inl (refund_store webhookRefundId new fate)
    | arrives _ _ => cases hdelivery
    | settles _ _ => cases hdelivery
    | wallet _ => cases hdelivery
  · rintro delivery rfl row hrow
    obtain ⟨balance, hbalance, hprepare⟩ := hconsistent.prepare_granted hrow delivery
    refine ⟨balance, hbalance, ?_⟩
    simp only [transition, purchaseStep, hprepare, PurchaseState.conclude]
    rfl
  · intro preparation settlement hanswer hsome
    cases event with
    | checkout delivery fate =>
        simp only [transition, purchaseStep] at hanswer ⊢
        split at hanswer
        · cases hanswer
        · rename_i found last hprepare
          by_cases hfate : fate = .committed
          · simp only [PurchaseState.conclude, if_pos hfate, Except.ok.injEq,
              PurchaseAnswer.prepared.injEq] at hanswer ⊢
            subst hanswer
            exact (((Consistent.retrieved delivery).mpr hconsistent).prepared_store
              (prepared_of_ok hprepare)).2 settlement hsome
          · simp only [PurchaseState.conclude, if_neg hfate] at hanswer
            cases hanswer
    | refund webhookRefundId new fate =>
        simp only [transition, purchaseStep] at hanswer
        split at hanswer
        · cases hanswer
        · unfold PurchaseState.conclude at hanswer
          split at hanswer
          · cases hanswer
          · cases hanswer
        · unfold PurchaseState.runAttempt at hanswer
          split at hanswer
          · cases hanswer
          · split at hanswer
            · cases hanswer
            · cases hanswer
            · split at hanswer
              · cases hanswer
              · cases hanswer
    | arrives number new =>
        simp only [transition, purchaseStep] at hanswer
        split at hanswer
        · split at hanswer
          · cases hanswer
          · cases hanswer
        · cases hanswer
    | settles _ _ => cases hanswer
    | wallet request =>
        simp only [transition, purchaseStep] at hanswer
        split at hanswer
        · cases hanswer
        · cases hanswer

/-- The ledger only grows. -/
theorem ledger_prefix_purchaseStep (hconsistent : Consistent context state)
    (event : PurchaseEvent) : state.db.store.ledger <+:
      (purchaseStep context isControl state event).2.db.store.ledger := by
  have hdelivered := (@delivered_transition _ isControl _ hconsistent event).wallet
  cases event with
  | checkout delivery fate =>
      rcases hdelivered rfl with hsame | ⟨_, row, hledger, _⟩
      · have hledger := congrArg Store.ledger hsame
        simp only [transition] at hledger
        rw [hledger]
      · exact ⟨[row], hledger.symm⟩
  | refund webhookRefundId new fate =>
      rw [congrArg Store.ledger (refund_store webhookRefundId new fate)]
  | arrives number new =>
      simp only [purchaseStep]
      split
      · split
        · exact List.prefix_rfl
        · exact List.prefix_rfl
      · exact List.prefix_rfl
  | settles _ _ => exact List.prefix_rfl
  | wallet request =>
      simp only [purchaseStep]
      split
      · exact List.prefix_rfl
      · exact ledger_prefix_commit isControl state.db.store request

/-- A session that has no outcome yet. -/
theorem consistent_initial {store : Store} {legacy : Option LegacyPurchase}
    (hfresh : ∀ row ∈ store.ledger, row.id ≠ purchaseTransactionId context.session.id) :
    Consistent context (.initial store legacy) := by
  have hnone : purchaseRows context store = [] := by
    rw [purchaseRows, List.filter_eq_nil_iff]
    intro row hrow hid
    exact hfresh row hrow (of_decide_eq_true hid)
  refine ⟨?_, ?_, ?_⟩
  · simp [PurchaseState.initial, hnone]
  · intro row hrow
    simp [PurchaseState.initial, hnone] at hrow
  · intro hexposed
    cases legacy with
    | none => simp [PurchaseState.initial, PurchaseDatabase.hasRefundTerminal,
        PurchaseDatabase.findEvent] at hexposed
    | some legacy =>
        refine .inr ⟨rfl, ?_⟩
        cases hrefund : legacy.refund with
        | none =>
            simp [PurchaseState.initial, PurchaseDatabase.hasRefundTerminal,
              PurchaseDatabase.findEvent, LegacyPurchase.event, hrefund] at hexposed
        | some refund =>
            have hnamed := legacy.named refund hrefund
            simp [PurchaseState.initial, PurchaseDatabase.legacyRefundId, LegacyPurchase.event,
              hrefund, hnamed]

theorem numbered_initial (store : Store) (legacy : Option LegacyPurchase) :
    Numbered (.initial store legacy) := by
  cases legacy with
  | none =>
      constructor
      all_goals simp [PurchaseState.initial, PurchaseDatabase.refundRecords,
        PurchaseDatabase.legacyRefundId, PurchaseDatabase.findEvent, Attempt.Sequential.nil]
  | some legacy =>
      -- The row of an earlier version is about the purchase, and adopts nothing yet.
      have hrecords : (PurchaseState.initial store (some legacy)).db.refundRecords = [] := rfl
      have hundecided : (PurchaseState.initial store (some legacy)).db.findEvent .purchase = none :=
        rfl
      have hadopted : ∀ recorded,
          (PurchaseState.initial store (some legacy)).db.findEvent .purchase = some recorded →
          ∀ refundId, recorded.metadata.legacyRefundId = some refundId →
            (PurchaseState.initial store (some legacy)).db.legacyRefundId = some refundId := by
        intro recorded hrecorded
        rw [hundecided] at hrecorded
        cases hrecorded
      have honway : ∀ number ∈ (PurchaseState.initial store (some legacy)).onTheWay,
          Attempt.MayCreate ProviderRefund.Active
            (PurchaseState.initial store (some legacy)).attempts number :=
        fun number hnumber => absurd hnumber List.not_mem_nil
      cases hrefund : legacy.refund with
      | none =>
          have hattempts : (PurchaseState.initial store (some legacy)).attempts = [] := by
            simp [PurchaseState.initial, hrefund]
          have hnone : (PurchaseState.initial store (some legacy)).db.legacyRefundId = none := by
            simp [PurchaseState.initial, PurchaseDatabase.legacyRefundId, LegacyPurchase.event,
              hrefund, asString]
          refine ⟨?_, ?_, ?_, ?_, ?_, hadopted, honway⟩
          · rw [hattempts]
            exact .nil
          · rw [hattempts]
            exact List.nodup_nil
          · rw [hattempts]
            simp
          · rw [hrecords]
            simp
          · intro refundId hfound
            rw [hnone] at hfound
            cases hfound
      | some refund =>
          have hattempts : (PurchaseState.initial store (some legacy)).attempts =
              [⟨0, refund, refund⟩] := by simp [PurchaseState.initial, hrefund]
          have hfirst : (PurchaseState.initial store (some legacy)).db.legacyRefundId =
              some refund.id := by
            simp [PurchaseState.initial, PurchaseDatabase.legacyRefundId, LegacyPurchase.event,
              hrefund, legacy.named refund hrefund]
          refine ⟨?_, ?_, ?_, ?_, ?_, hadopted, honway⟩
          · rw [hattempts]
            exact ⟨rfl, by simp⟩
          · rw [hattempts]
            exact List.nodup_singleton _
          · rw [hattempts]
            simp
          · rw [hrecords]
            simp
          · intro refundId hfound
            rw [hfirst] at hfound
            rw [hattempts]
            exact ⟨_, List.mem_singleton_self _, rfl, Option.some.inj hfound⟩

/-- At most one outcome, granted once at the value of the pack. -/
structure OneOutcome (context : PurchaseContext) (state : PurchaseState) : Prop where
  once : (purchaseRows context state.db.store).length ≤ 1
  value : ∀ row ∈ purchaseRows context state.db.store, row.tenantId = context.tenantId ∧
    ∃ pack, findCreditPack context.session.metadata.creditPackCode = some pack ∧
      row.amount - row.debtAmount = pack.credits
  exclusive : purchaseRows context state.db.store ≠ [] →
    state.attempts = [] ∧ state.db.hasRefundTerminal = false

theorem Consistent.oneOutcome (hconsistent : Consistent context state) :
    OneOutcome context state := by
  refine ⟨hconsistent.once, ?_, ?_⟩
  · intro row hrow
    have hgrant := hconsistent.granted row hrow
    exact ⟨hgrant.tenant, hgrant.value⟩
  · intro hgranted
    obtain ⟨hattempts, _, hterminal⟩ := hconsistent.exclusive hgranted
    exact ⟨hattempts, hterminal⟩

end Runs

/-- The purchase of a credit pack.  In every run from a session without outcome: a
delivery that finds an outcome changes nothing, and one that finds the grant reads
it back; every settlement that is reported is the same; the session is granted at
most once, at the value of its pack, and then has no refund.  In the runs whose
refund webhooks come in order, at most one refund is pending or paid. -/
theorem credit_purchase_one_outcome (context : PurchaseContext) (isControl : Char → Bool)
    (store : Store) (legacy : Option LegacyPurchase)
    (hfresh : ∀ row ∈ store.ledger, row.id ≠ purchaseTransactionId context.session.id)
    (events : List PurchaseEvent)
    (horder : ∀ t ∈ trace (purchaseStep context isControl) (.initial store legacy) events,
      InOrder t.before t.request) :
    (∀ t ∈ trace (purchaseStep context isControl) (.initial store legacy) events,
      Delivered context t) ∧
    (∀ t ∈ trace (purchaseStep context isControl) (.initial store legacy) events,
      ∀ other ∈ trace (purchaseStep context isControl) (.initial store legacy) events,
      ∀ preparation preparation' settlement settlement',
        t.answer = .ok (.prepared preparation) → preparation.settlement = some settlement →
        other.answer = .ok (.prepared preparation') → preparation'.settlement = some settlement' →
        settlement.transactionId = settlement'.transactionId ∧
          settlement.newBalance = settlement'.newBalance) ∧
    OneOutcome context
      (final (purchaseStep context isControl) (.initial store legacy) events) ∧
    ((final (purchaseStep context isControl) (.initial store legacy) events).attempts.filter
      fun attempt => attempt.current.Active).length ≤ 1 := by
  have hinitial : Consistent context (.initial store legacy) := consistent_initial hfresh
  have hstep : ∀ state event, Consistent context state →
      Consistent context (purchaseStep context isControl state event).2 :=
    fun state event h => h.step event
  have hfinal := invariant_final (Consistent context) hstep hinitial events
  -- What a step has reported is a row that the final ledger still has.
  have hreported : ∀ t ∈ trace (purchaseStep context isControl) (.initial store legacy) events,
      ∀ preparation settlement, t.answer = .ok (.prepared preparation) →
        preparation.settlement = some settlement →
        ∃ row ∈ purchaseRows context
          (final (purchaseStep context isControl) (.initial store legacy) events).db.store,
          settlement.transactionId = row.id ∧ row.balanceAfter = some settlement.newBalance := by
    intro t ht preparation settlement hanswer hsome
    obtain ⟨hbefore, heq⟩ := invariant_of_mem_trace (Consistent context) hstep hinitial ht
    have hdelivered : Delivered context t := by
      rw [heq]
      exact delivered_transition hbefore t.request
    obtain ⟨row, hrow, hid, hbalance⟩ := hdelivered.reported preparation settlement hanswer hsome
    have hafter : t.after = (purchaseStep context isControl t.before t.request).2 := by
      rw [heq]
      rfl
    have hgrows := related_of_mem_trace
      (fun first last : PurchaseState => Consistent context first → Consistent context last ∧
        first.db.store.ledger <+: last.db.store.ledger)
      (fun state h => ⟨h, List.prefix_rfl⟩)
      (fun hfirst hsecond h => by
        obtain ⟨hmiddle, hgrows⟩ := hfirst h
        obtain ⟨hlast, hgrows'⟩ := hsecond hmiddle
        exact ⟨hlast, hgrows.trans hgrows'⟩)
      (fun state event h => ⟨h.step event, ledger_prefix_purchaseStep h event⟩) ht
    obtain ⟨_, hgrown⟩ := hgrows (hafter ▸ hbefore.step t.request)
    refine ⟨row, ?_, hid, hbalance⟩
    have hrow' := List.mem_filter.mp hrow
    exact List.mem_filter.mpr ⟨hgrown.subset hrow'.1, hrow'.2⟩
  refine ⟨?_, ?_, hfinal.oneOutcome, ?_⟩
  · intro t ht
    obtain ⟨hbefore, heq⟩ := invariant_of_mem_trace (Consistent context) hstep hinitial ht
    rw [heq]
    exact delivered_transition hbefore t.request
  · intro t ht other hother preparation preparation' settlement settlement' hanswer hsome
      hanswer' hsome'
    obtain ⟨row, hrow, hid, hbalance⟩ := hreported t ht preparation settlement hanswer hsome
    obtain ⟨row', hrow', hid', hbalance'⟩ :=
      hreported other hother preparation' settlement' hanswer' hsome'
    obtain ⟨only, honly⟩ := List.length_eq_one_iff.mp
      (le_antisymm hfinal.once (List.length_pos_of_mem hrow))
    rw [honly, List.mem_singleton] at hrow hrow'
    subst hrow hrow'
    rw [hbalance] at hbalance'
    exact ⟨hid.trans hid'.symm, Option.some.inj hbalance'⟩
  · have hnumbered := (invariant_final_of_trace
      (fun state => Consistent context state ∧ Numbered state)
      (fun state event h horder => ⟨h.1.step event, h.2.step h.1 horder⟩)
      ⟨hinitial, numbered_initial store legacy⟩ horder).2
    exact hnumbered.sequential.length_active_le_one

/-! ## A session that cannot be granted -/

namespace Sample

/-- A paid session that names no pack. -/
def paidSession : PurchaseContext where
  session := {
    id := "session"
    mode := some "payment"
    status := some "complete"
    paymentStatus := some "paid"
    amountSubtotal := some 1200
    amountTotal := some 1200
    currency := some "usd"
    customer := some "customer"
    clientReferenceId := some "tenant"
    paymentIntent := some "intent"
    metadata := ⟨some "credit_pack", some "tenant", none, none, none, none, none, none⟩ }
  lineItems := ⟨[], false⟩
  tenantId := "tenant"
  authoritative := by decide +kernel

def checkoutCompleted : PurchaseEvent :=
  .checkout ⟨"event", some "complete", some "paid",
    some ⟨"FREE", .active, none, none, none, none⟩, none, [], 0⟩ .committed

def pendingRefund (id : String) : NewRefund := ⟨id, .pending, some "usd"⟩

/-- The state after some deliveries. -/
def purchaseAfter (events : List PurchaseEvent) : PurchaseState :=
  final (purchaseStep paidSession fun _ => false) (.initial ⟨[("tenant", ⟨0, 0⟩)], []⟩ none) events

/-- The session is refunded once. -/
theorem paid_session_refunded :
    (purchaseAfter [checkoutCompleted, .refund none (pendingRefund "first") .committed]).attempts.map
      (·.current.status) = [.pending] ∧
    ((purchaseAfter [checkoutCompleted,
      .refund none (pendingRefund "first") .committed]).attempts.filter
        fun attempt => attempt.current.Active).length ≤ 1 := by
  refine ⟨by decide +kernel, ?_⟩
  refine (credit_purchase_one_outcome paidSession (fun _ => false) ⟨[("tenant", ⟨0, 0⟩)], []⟩ none
    (by simp) [checkoutCompleted, .refund none (pendingRefund "first") .committed] ?_).2.2.2
  intro t ht
  simp only [trace, List.mem_cons, List.not_mem_nil, or_false] at ht
  rcases ht with rfl | rfl
  · trivial
  · trivial

/-- Two refunds at once.  The transactions that ask for the first and the second
attempt are rolled back; the webhook of the second refund then counts it as the
first attempt, and the one of the failed first refund asks for a third while the
second is pending. -/
theorem overlapping_refunds :
    ¬ ((purchaseAfter [checkoutCompleted, .refund none (pendingRefund "first") .rolledBack,
      .settles "first" .failed, .refund (some "first") (pendingRefund "second") .rolledBack,
      .refund (some "second") (pendingRefund "third") .committed,
      .refund (some "first") (pendingRefund "third") .committed]).attempts.filter
        fun attempt => attempt.current.Active).length ≤ 1 := by
  decide +kernel

end Sample

end LunchLineup.Billing
