import LunchLineup.Billing.RefundOnce
import LunchLineup.Lib.Run
import LunchLineup.Webhooks.Delivery

/-!
# A webhook delivery settles once

Every transaction is a sequence of moves (`Move`): the surroundings change, the live row
is handed around, it is delivered, or it is dead-lettered with its refund.  A claim that
finds the endpoint deactivated makes two of them.  `Settling` is the invariant of the
moves, and `delivery_settles_once` collects what follows for runs.

The trigger of a purged tenant refunds nothing, so it must never find a live row; the
deletion barrier sees to that, which is why the barrier is part of the invariant.

A live row is never lost: the recovery sweep selects it from some time on
(`exists_recoverable`), and while nobody else fills the wallet its refund goes through
(`deadLettered_succeeds`).
-/

namespace LunchLineup.Webhooks

open LunchLineup.Lib LunchLineup.Billing

/-! ## Moves -/

/-- A step of the row: its identity stays and the attempts grow within the bound. -/
structure WebhookDelivery.Advances (maxAttempts : Int) (old new : WebhookDelivery) : Prop where
  id : new.id = old.id
  tenantId : new.tenantId = old.tenantId
  endpointId : new.endpointId = old.endpointId
  valid : new.Valid
  attempts : old.attempts ≤ new.attempts
  bound : old.attempts ≤ maxAttempts → new.attempts ≤ maxAttempts

/-- A live row carries the time at which the recovery sweep finds it. -/
def WebhookDelivery.Scheduled (row : WebhookDelivery) : Prop :=
  match row.status with
  | .pending | .failed => row.nextAttemptAt.isSome = true
  | .queued => row.nextAttemptAt.isSome = true ∨ row.queuedAt.isSome = true
  | _ => True

theorem scheduled_of_next {row : WebhookDelivery} (h : row.nextAttemptAt.isSome = true) :
    row.Scheduled := by
  unfold WebhookDelivery.Scheduled
  split
  · exact h
  · exact h
  · exact .inl h
  · trivial

/-- What a transaction does, or a part of it. -/
inductive Move (maxAttempts : Int) (st : DeliveryState) : DeliveryState → Prop
  | surroundings (tenant : Tenant) (active : Bool) (secret : String) :
      Move maxAttempts st { st with
        tenant := tenant, endpoint := { st.endpoint with active := active, secret := secret } }
  | barred (tenant : Tenant) (active : Bool) (secret : String)
      (hterminal : st.delivery.status.terminal = true) :
      Move maxAttempts st { st with
        tenant := tenant
        endpoint := { st.endpoint with active := active, secret := secret }
        deletionBarrier := true }
  | handed (row : WebhookDelivery) (hadvances : st.delivery.Advances maxAttempts row)
      (hlive : st.delivery.status.terminal = false) (hnext : row.status.terminal = false)
      (hscheduled : row.Scheduled) : Move maxAttempts st { st with delivery := row }
  | delivered (row : WebhookDelivery) (hadvances : st.delivery.Advances maxAttempts row)
      (hlive : st.delivery.status.terminal = false) (hnext : row.status = .delivered) :
      Move maxAttempts st { st with delivery := row }
  | refunded (row : WebhookDelivery) (refund : CreditTransaction) (billing : Store)
      (settlement : Settlement) (wallet : Wallet) (tenant : Tenant) (active : Bool)
      (barrier : Bool) (hadvances : st.delivery.Advances maxAttempts row)
      (hlive : st.delivery.status.terminal = false) (hnext : row.status = .deadLettered)
      (hid : refund.id = refundId st.delivery.id)
      (hvalue : refund.amount - refund.debtAmount = webhookCreditCost)
      (happlies : Applies st.billing settlement billing refund wallet) :
      Move maxAttempts st {
        delivery := row
        tenant := tenant
        endpoint := { st.endpoint with active := active }
        billing := billing
        deletionBarrier := barrier }

/-- What holds between the transactions. -/
structure Settling (maxAttempts : Int) (deliveryId : String) (st : DeliveryState) : Prop where
  id : st.delivery.id = deliveryId
  valid : st.delivery.Valid
  scheduled : st.delivery.Scheduled
  joins : st.EndpointJoins
  paid : RefundedOnce st.billing (debitId deliveryId) (refundId deliveryId)
    (st.delivery.status = .deadLettered)
  debit : ∃ row ∈ st.billing.ledger, row.id = debitId deliveryId ∧
    row.tenantId = st.delivery.tenantId ∧ IsExactDebit deliveryId row
  attempts : st.delivery.attempts ≤ maxAttempts
  barrier : st.deletionBarrier = true → st.delivery.status.terminal = true

theorem refundId_ne_debitId (first second : String) : refundId first ≠ debitId second := by
  intro h
  have htexts := congrArg String.toList h
  unfold refundId debitId at htexts
  simp only [String.toList_append] at htexts
  apply append_ne_of_take_ne ?_ ?_ ?_ htexts
  · exact 9
  · decide +kernel
  · decide +kernel
  · decide +kernel

theorem not_deadLettered_of_live {status : WebhookDeliveryStatus} (h : status.terminal = false) :
    status ≠ .deadLettered := by
  rintro rfl
  cases h

section Invariant

variable {maxAttempts : Int} {deliveryId : String} {st next : DeliveryState}

theorem Settling.move (h : Settling maxAttempts deliveryId st) (hmove : Move maxAttempts st next) :
    Settling maxAttempts deliveryId next := by
  cases hmove with
  | surroundings tenant active secret =>
      exact ⟨h.id, h.valid, h.scheduled, h.joins, h.paid, h.debit, h.attempts, h.barrier⟩
  | barred tenant active secret hterminal =>
      exact ⟨h.id, h.valid, h.scheduled, h.joins, h.paid, h.debit, h.attempts,
        fun _ => hterminal⟩
  | handed row hadvances hlive hnext hscheduled =>
      refine ⟨hadvances.id.trans h.id, hadvances.valid, hscheduled, ?_, h.paid.congr ?_, ?_,
        hadvances.bound h.attempts, ?_⟩
      · exact ⟨hadvances.endpointId.trans h.joins.1, h.joins.2.trans hadvances.tenantId.symm⟩
      · exact iff_of_false (not_deadLettered_of_live hlive) (not_deadLettered_of_live hnext)
      · simpa only [hadvances.tenantId] using h.debit
      · intro hset
        cases hlive.symm.trans (h.barrier hset)
  | delivered row hadvances hlive hnext =>
      refine ⟨hadvances.id.trans h.id, hadvances.valid, ?_, ?_, h.paid.congr ?_, ?_,
        hadvances.bound h.attempts, ?_⟩
      · simp only [WebhookDelivery.Scheduled, hnext]
      · exact ⟨hadvances.endpointId.trans h.joins.1, h.joins.2.trans hadvances.tenantId.symm⟩
      · refine iff_of_false (not_deadLettered_of_live hlive) ?_
        simp [hnext]
      · simpa only [hadvances.tenantId] using h.debit
      · intro hset
        cases hlive.symm.trans (h.barrier hset)
  | refunded row refund billing settlement wallet tenant active barrier hadvances hlive hnext hid
      hvalue happlies =>
      obtain ⟨debit, hdebit, hdebit_id, htenant, hexact⟩ := h.debit
      refine ⟨hadvances.id.trans h.id, hadvances.valid, ?_, ?_, ?_, ?_,
        hadvances.bound h.attempts, ?_⟩
      · simp only [WebhookDelivery.Scheduled, hnext]
      · exact ⟨hadvances.endpointId.trans h.joins.1, h.joins.2.trans hadvances.tenantId.symm⟩
      · rw [h.id] at hid
        refine (h.paid.refunds (not_deadLettered_of_live hlive) happlies hid
          (refundId_ne_debitId _ _) ?_).congr (iff_of_true trivial hnext)
        intro old hold hold_id
        rw [eq_of_key h.paid.rows hold hdebit (hold_id.trans hdebit_id.symm), hexact.1, hvalue]
        exact (neg_neg _).symm
      · refine ⟨debit, ?_, hdebit_id, htenant.trans hadvances.tenantId.symm, hexact⟩
        rw [happlies.ledger]
        exact List.mem_append_left _ hdebit
      · intro _
        simp only [hnext]
        rfl

/-- A sequence of moves. -/
abbrev Moves (maxAttempts : Int) : DeliveryState → DeliveryState → Prop :=
  Relation.ReflTransGen (Move maxAttempts)

theorem Settling.moves (h : Settling maxAttempts deliveryId st)
    (hmoves : Moves maxAttempts st next) : Settling maxAttempts deliveryId next := by
  induction hmoves with
  | refl => exact h
  | tail _ hmove ih => exact ih.move hmove

/-! ## Updates of the row -/

theorem scrub_of_live {row : WebhookDelivery} (h : row.status.terminal = false) :
    row.scrub = row := by
  simp [WebhookDelivery.scrub, h]

theorem scrub_erased {row : WebhookDelivery} (h : row.status.terminal = true) :
    row.scrub = row.erased := by
  simp [WebhookDelivery.scrub, h]

theorem updateDelivery_ok {row : WebhookDelivery} (h : st.updateDelivery row = .ok next) :
    row.scrub.Valid ∧ next = { st with delivery := row.scrub } := by
  simp only [DeliveryState.updateDelivery, bind_eq_ok, ensure_eq_ok] at h
  obtain ⟨_, hvalid, h⟩ := h
  exact ⟨hvalid, (Except.ok.inj h).symm⟩

theorem updateDelivery_of_valid {row : WebhookDelivery} (h : row.scrub.Valid) :
    st.updateDelivery row = .ok { st with delivery := row.scrub } := by
  simp only [DeliveryState.updateDelivery, ensure_of_true _ h]
  rfl

/-- An update that hands the live row around. -/
theorem handed_of_update {row : WebhookDelivery} (hlive : st.delivery.status.terminal = false)
    (hnext : row.status.terminal = false)
    (hids : row.id = st.delivery.id ∧ row.tenantId = st.delivery.tenantId ∧
      row.endpointId = st.delivery.endpointId)
    (hgrows : st.delivery.attempts ≤ row.attempts)
    (hbound : st.delivery.attempts ≤ maxAttempts → row.attempts ≤ maxAttempts)
    (hscheduled : row.Scheduled) (h : st.updateDelivery row = .ok next) :
    Move maxAttempts st next := by
  obtain ⟨hvalid, rfl⟩ := updateDelivery_ok h
  rw [scrub_of_live hnext] at hvalid ⊢
  exact .handed row ⟨hids.1, hids.2.1, hids.2.2, hvalid, hgrows, hbound⟩ hlive hnext hscheduled

end Invariant

/-! ## The transactions as moves -/

section Transactions

variable {deployment : WebhookDeployment} {maxAttempts : Int} {deliveryId tenantId : String}
  {st seen next : DeliveryState} {clock : Clock} {expectedAttempts now : Int}

theorem loadTransitionedState_ok {status : WebhookDeliveryStatus}
    {state : WebhookDeliveryReplayState}
    (h : loadTransitionedState st tenantId deliveryId status expectedAttempts = .ok state) :
    st.delivery.status = status ∧ st.delivery.attempts = expectedAttempts := by
  simp only [loadTransitionedState, bind_eq_ok, ensure_eq_ok] at h
  obtain ⟨_, ⟨_, hloaded⟩, _⟩ := h
  exact hloaded

/-- The settlement finds the refund, or makes it. -/
theorem settleTerminalRefund_ok {isControl : Char → Bool} {billing after : Store}
    {platformAdmin : Bool}
    (h : settleTerminalRefund isControl billing platformAdmin tenantId deliveryId = .ok after) :
    (after = billing ∧ ∃ row ∈ billing.ledger, row.id = refundId deliveryId) ∨
      ∃ settlement refund wallet, refund.id = refundId deliveryId ∧
        refund.amount - refund.debtAmount = webhookCreditCost ∧
        Applies billing settlement after refund wallet := by
  unfold settleTerminalRefund at h
  split at h
  · rename_i refund hfound
    obtain rfl := Except.ok.inj h
    exact .inl ⟨rfl, refund, findUnique_spec hfound⟩
  · simp only [bind_eq_ok, ensure_eq_ok] at h
    obtain ⟨⟨settlement, middle⟩, hsettle, _, hsettled, h⟩ := h
    obtain rfl := Except.ok.inj h
    have hsettle := mapError_eq_ok.mp hsettle
    obtain ⟨refund, hid, _, _, hreplay | ⟨⟨wallet, happlies⟩, _⟩⟩ := settlePositive_cases hsettle
    · cases hreplay.2.symm.trans hsettled.2.2.2.2.2.2
    · refine .inr ⟨_, refund, wallet, Option.some.inj hid, ?_, happlies⟩
      rw [← happlies.reports.2.1]
      exact (Option.some.inj (settlePositive_creditedValue hsettle)).symm

/-- The settlement changes nothing, or dead-letters the live row with its refund. -/
theorem settle_move {id : String} (h : Settling maxAttempts id st) {isControl : Char → Bool}
    {platformAdmin : Bool} {state : WebhookDeliveryReplayState}
    (hsettle : settleDeadLetteredInTransaction isControl st platformAdmin tenantId deliveryId
      expectedAttempts now = .ok (state, next)) :
    st.delivery.attempts = expectedAttempts ∧ (next = st ∨ Move maxAttempts st next) := by
  simp only [settleDeadLetteredInTransaction, bind_eq_ok, ensure_eq_ok] at hsettle
  obtain ⟨_, ⟨_, hnames, hattempts⟩, _, _, _, hnot_delivered, billing, hrefund, hsettle⟩ := hsettle
  have hnamed : st.delivery.id = deliveryId := hnames.1
  refine ⟨hattempts, ?_⟩
  rcases settleTerminalRefund_ok hrefund with
    ⟨rfl, row, hrow, hid⟩ | ⟨settlement, refund, wallet, hid, hvalue, happlies⟩
  · -- The refund is in the ledger, so the delivery is dead-lettered already.
    have hdead : st.delivery.status = .deadLettered := by
      refine h.paid.refund.mp ⟨row, hrow, ?_⟩
      rw [hid, ← hnamed, h.id]
    rw [if_pos hdead] at hsettle
    simp only [bind_eq_ok, Except.ok.injEq, Prod.mk.injEq] at hsettle
    obtain ⟨_, _, _, rfl⟩ := hsettle
    exact .inl rfl
  · have hlive : st.delivery.status ≠ .deadLettered := by
      intro hdead
      obtain ⟨row, hrow, hrow_id⟩ := h.paid.refund.mpr hdead
      refine happlies.fresh row hrow ?_
      rw [hrow_id, hid, ← hnamed, h.id]
    rw [if_neg hlive] at hsettle
    simp only [bind_eq_ok] at hsettle
    obtain ⟨updated, hupdate, _, _, hsettle⟩ := hsettle
    obtain ⟨_, rfl⟩ := Prod.mk.inj (Except.ok.inj hsettle)
    obtain ⟨hvalid, rfl⟩ := updateDelivery_ok hupdate
    rw [scrub_erased rfl] at hvalid ⊢
    refine .inr (.refunded _ refund billing settlement wallet st.tenant st.endpoint.active
      st.deletionBarrier ?_ ?_ rfl ?_ hvalue happlies)
    · exact ⟨rfl, rfl, rfl, hvalid, le_rfl, fun hbound => hbound⟩
    · cases hstatus : st.delivery.status with
      | delivered => exact absurd hstatus hnot_delivered
      | deadLettered => exact absurd hstatus hlive
      | pending => rfl
      | queued => rfl
      | sending => rfl
      | failed => rfl
    · rw [hnamed]
      exact hid

theorem claimInitial_move {claimed : Bool} (hmax : 1 ≤ maxAttempts)
    (h : claimInitialDelivery st tenantId deliveryId clock = .ok (claimed, next)) :
    next = st ∨ Move maxAttempts st next := by
  unfold claimInitialDelivery at h
  split at h
  · exact .inl (Prod.mk.inj (Except.ok.inj h)).2.symm
  split at h
  · rename_i hclaimable
    obtain ⟨_, _, hpending, hnone⟩ := hclaimable
    simp only [bind_eq_ok] at h
    obtain ⟨updated, hupdate, h⟩ := h
    obtain ⟨_, rfl⟩ := Prod.mk.inj (Except.ok.inj h)
    refine .inr (handed_of_update ?_ ?_ ?_ ?_ ?_ ?_ hupdate)
    · rw [hpending]
      rfl
    · rfl
    · exact ⟨rfl, rfl, rfl⟩
    · exact Int.le_add_one le_rfl
    · intro _
      simpa [hnone] using hmax
    · trivial
  · exact .inl (Prod.mk.inj (Except.ok.inj h)).2.symm

theorem live_of_claimable {row : WebhookDelivery} (h : row.Claimable deployment now) :
    row.status.terminal = false := by
  obtain ⟨_, hqueued | ⟨hwaiting | hwaiting, _⟩ | ⟨hsending, _⟩⟩ := h
  · rw [hqueued]
    rfl
  · rw [hwaiting]
    rfl
  · rw [hwaiting]
    rfl
  · rw [hsending]
    rfl

theorem claimReplay_moves {current : Option WebhookDelivery} {claim : WebhookReplayClaim}
    {id : String} (h : Settling deployment.boundedMaxAttempts id st)
    (hclaim : claimReplayByDeliveryId deployment st deliveryId clock current = .ok (claim, next)) :
    Moves deployment.boundedMaxAttempts st next := by
  unfold claimReplayByDeliveryId at hclaim
  split at hclaim
  · rw [(Prod.mk.inj (Except.ok.inj hclaim)).2]
  simp only [bind_eq_ok, ensure_eq_ok] at hclaim
  obtain ⟨_, _, hclaim⟩ := hclaim
  split at hclaim
  · rename_i hclaimable
    obtain ⟨_, _, hclaimable⟩ := hclaimable
    simp only [bind_eq_ok] at hclaim
    obtain ⟨sending, hupdate, hclaim⟩ := hclaim
    have hhanded : Move deployment.boundedMaxAttempts st sending := by
      refine handed_of_update (live_of_claimable hclaimable) ?_ ?_ ?_ ?_ ?_ hupdate
      · rfl
      · exact ⟨rfl, rfl, rfl⟩
      · exact Int.le_add_one le_rfl
      · exact fun _ => hclaimable.1
      · trivial
    split at hclaim
    · simp only [bind_eq_ok] at hclaim
      obtain ⟨delivery, _, hclaim⟩ := hclaim
      obtain ⟨_, rfl⟩ := Prod.mk.inj (Except.ok.inj hclaim)
      exact .single hhanded
    · -- The endpoint was deactivated: the claimed attempt is settled at once.
      simp only [bind_eq_ok] at hclaim
      obtain ⟨⟨state, settled⟩, hsettle, hclaim⟩ := hclaim
      obtain ⟨_, rfl⟩ := Prod.mk.inj (Except.ok.inj hclaim)
      rcases (settle_move (h.move hhanded) hsettle).2 with rfl | hmove
      · exact .single hhanded
      · exact .tail (.single hhanded) hmove
  · split at hclaim
    · rw [(Prod.mk.inj (Except.ok.inj hclaim)).2]
    split at hclaim
    · simp only [bind_eq_ok] at hclaim
      obtain ⟨⟨state, settled⟩, hsettle, hclaim⟩ := hclaim
      obtain ⟨_, rfl⟩ := Prod.mk.inj (Except.ok.inj hclaim)
      rcases (settle_move h hsettle).2 with rfl | hmove
      · exact .refl
      · exact .single hmove
    · split at hclaim
      · rw [(Prod.mk.inj (Except.ok.inj hclaim)).2]
      · rw [(Prod.mk.inj (Except.ok.inj hclaim)).2]

theorem queued_move (h : markQueued st tenantId deliveryId now = .ok next) :
    next = st ∨ Move maxAttempts st next := by
  unfold markQueued at h
  split at h
  · rename_i hreplayable
    refine .inr (handed_of_update ?_ ?_ ?_ ?_ ?_ ?_ h)
    · cases hstatus : st.delivery.status <;> simp_all [WebhookDeliveryStatus.replayable,
        WebhookDeliveryStatus.terminal]
    · rfl
    · exact ⟨rfl, rfl, rfl⟩
    · exact le_rfl
    · exact fun hbound => hbound
    · exact .inr rfl
  · exact .inl (Except.ok.inj h).symm

theorem live_of_recoverable {row : WebhookDelivery} (h : row.Recoverable deployment now) :
    row.status.terminal = false := by
  obtain ⟨hreplayable, _⟩ | ⟨hsending, _⟩ | ⟨hqueued, _⟩ := h
  · cases hstatus : row.status <;> simp_all [WebhookDeliveryStatus.replayable,
      WebhookDeliveryStatus.terminal]
  · rw [hsending]
    rfl
  · rw [hqueued]
    rfl

theorem claimRecoverable_move {free : Bool} {found : Option RecoverableWebhookDelivery}
    (h : claimRecoverableForQueue deployment st clock free = .ok (found, next)) :
    next = st ∨ Move maxAttempts st next := by
  unfold claimRecoverableForQueue at h
  split at h
  · rename_i hrecoverable
    have hlive := live_of_recoverable hrecoverable.2.2.2.1
    simp only [bind_eq_ok] at h
    obtain ⟨updated, hupdate, h⟩ := h
    obtain ⟨_, rfl⟩ := Prod.mk.inj (Except.ok.inj h)
    refine .inr (handed_of_update hlive ?_ ?_ ?_ ?_ ?_ hupdate)
    · simp only
      split
      · rfl
      · exact hlive
    · exact ⟨rfl, rfl, rfl⟩
    · exact le_rfl
    · exact fun hbound => hbound
    · exact scheduled_of_next rfl
  · exact .inl (Prod.mk.inj (Except.ok.inj h)).2.symm

theorem sendAuthority_move {id : String} (h : Settling maxAttempts id st)
    {isControl : Char → Bool} {authority : WebhookDeliverySendAuthority}
    (hauthority : validateActiveDeliverySendAuthority isControl st seen tenantId deliveryId
      expectedAttempts now = .ok (authority, next)) :
    next = st ∨ (st.delivery.attempts = expectedAttempts ∧ Move maxAttempts st next) := by
  unfold validateActiveDeliverySendAuthority at hauthority
  split at hauthority
  · exact .inl (Prod.mk.inj (Except.ok.inj hauthority)).2.symm
  split at hauthority
  · exact .inl (Prod.mk.inj (Except.ok.inj hauthority)).2.symm
  split at hauthority
  · exact .inl (Prod.mk.inj (Except.ok.inj hauthority)).2.symm
  split at hauthority
  · simp only [bind_eq_ok] at hauthority
    obtain ⟨⟨state, settled⟩, hsettle, hauthority⟩ := hauthority
    obtain ⟨_, rfl⟩ := Prod.mk.inj (Except.ok.inj hauthority)
    obtain ⟨hattempts, hsame | hmove⟩ := settle_move h hsettle
    · exact .inl hsame
    · exact .inr ⟨hattempts, hmove⟩
  split at hauthority
  · rename_i hsending
    simp only [bind_eq_ok] at hauthority
    obtain ⟨updated, hupdate, hauthority⟩ := hauthority
    obtain ⟨_, rfl⟩ := Prod.mk.inj (Except.ok.inj hauthority)
    refine .inr ⟨hsending.2.2, handed_of_update ?_ ?_ ?_ ?_ ?_ ?_ hupdate⟩
    · rw [hsending.2.1]
      rfl
    · rfl
    · exact ⟨rfl, rfl, rfl⟩
    · exact le_rfl
    · exact fun hbound => hbound
    · rfl
  · exact .inl (Prod.mk.inj (Except.ok.inj hauthority)).2.symm

theorem delivered_move {state : WebhookDeliveryReplayState}
    (h : markDelivered st tenantId deliveryId expectedAttempts now = .ok (state, next)) :
    next = st ∨ (st.delivery.attempts = expectedAttempts ∧ Move maxAttempts st next) := by
  unfold markDelivered at h
  split at h
  · rename_i hsending
    obtain ⟨_, hstatus, hattempts⟩ := hsending
    simp only [bind_eq_ok] at h
    obtain ⟨updated, hupdate, _, _, h⟩ := h
    obtain ⟨_, rfl⟩ := Prod.mk.inj (Except.ok.inj h)
    obtain ⟨hvalid, rfl⟩ := updateDelivery_ok hupdate
    rw [scrub_erased rfl] at hvalid ⊢
    refine .inr ⟨hattempts, .delivered _ ?_ ?_ rfl⟩
    · exact ⟨rfl, rfl, rfl, hvalid, le_rfl, fun hbound => hbound⟩
    · rw [hstatus]
      rfl
  · simp only [bind_eq_ok] at h
    obtain ⟨_, _, h⟩ := h
    exact .inl (Prod.mk.inj (Except.ok.inj h)).2.symm

theorem replayFailed_move {state : WebhookDeliveryReplayState}
    (h : markReplayFailed st tenantId deliveryId expectedAttempts now = .ok (state, next)) :
    next = st ∨ (st.delivery.attempts = expectedAttempts ∧ Move maxAttempts st next) := by
  unfold markReplayFailed at h
  split at h
  · rename_i hsending
    obtain ⟨_, hstatus, hattempts⟩ := hsending
    simp only [bind_eq_ok] at h
    obtain ⟨updated, hupdate, _, _, h⟩ := h
    obtain ⟨_, rfl⟩ := Prod.mk.inj (Except.ok.inj h)
    refine .inr ⟨hattempts, handed_of_update ?_ ?_ ?_ ?_ ?_ ?_ hupdate⟩
    · rw [hstatus]
      rfl
    · rfl
    · exact ⟨rfl, rfl, rfl⟩
    · exact le_rfl
    · exact fun hbound => hbound
    · rfl
  · simp only [bind_eq_ok] at h
    obtain ⟨_, _, h⟩ := h
    exact .inl (Prod.mk.inj (Except.ok.inj h)).2.symm

theorem deletionBarrier_move {isControl : Char → Bool} {platformAdmin : Bool}
    (hbarrier : commitDeletionBarrier isControl st platformAdmin now = .ok next) :
    next = st ∨ Move maxAttempts st next := by
  unfold commitDeletionBarrier at hbarrier
  split at hbarrier
  · exact .inl (Except.ok.inj hbarrier).symm
  simp only at hbarrier
  split at hbarrier
  · rename_i hterminal
    obtain rfl := Except.ok.inj hbarrier
    exact .inr (.barred _ false st.endpoint.secret hterminal)
  · rename_i hlive
    simp only [bind_eq_ok, ensure_eq_ok] at hbarrier
    obtain ⟨_, _, ⟨settlement, billing⟩, hsettle, _, hsettled, hupdate⟩ := hbarrier
    obtain ⟨hvalid, rfl⟩ := updateDelivery_ok hupdate
    have hsettle := mapError_eq_ok.mp hsettle
    rw [scrub_erased rfl] at hvalid ⊢
    obtain ⟨refund, hid, _, _, hreplay | ⟨⟨wallet, happlies⟩, _⟩⟩ := settlePositive_cases hsettle
    · cases hreplay.2.symm.trans hsettled.2.2
    · refine .inr (.refunded _ refund billing _ wallet _ false true ?_ (by simpa using hlive) rfl
        (Option.some.inj hid) ?_ happlies)
      · exact ⟨rfl, rfl, rfl, hvalid, le_rfl, fun hbound => hbound⟩
      · rw [← happlies.reports.2.1]
        exact hsettled.2.1

/-- The trigger of a purged tenant finds a terminal row. -/
theorem deletionFinalized_move {id : String} (h : Settling maxAttempts id st)
    {barrierCreatedAt databaseNow : Int}
    (hfinalize : finalizeDeletionBarrier st barrierCreatedAt databaseNow = .ok next) :
    next = st ∨ Move maxAttempts st next := by
  unfold finalizeDeletionBarrier at hfinalize
  split at hfinalize
  · exact .inl (Except.ok.inj hfinalize).symm
  simp only [bind_eq_ok, ensure_eq_ok] at hfinalize
  obtain ⟨_, ⟨hbarrier, _⟩, hfinalize⟩ := hfinalize
  simp only [terminalizePurgedTenantWebhooks, if_pos (h.barrier hbarrier)] at hfinalize
  obtain rfl := Except.ok.inj hfinalize
  exact .inr (.surroundings _ false st.endpoint.secret)

theorem moves_of_or (h : next = st ∨ Move maxAttempts st next) : Moves maxAttempts st next := by
  rcases h with rfl | hmove
  · exact .refl
  · exact .single hmove

/-- A call of the store is a sequence of moves.  With an attempt number that is not the
row's it changes nothing. -/
theorem call_moves {id : String} (h : Settling deployment.boundedMaxAttempts id st)
    {made : StoreCall} (hrun : made.run deployment st = .ok next) :
    Moves deployment.boundedMaxAttempts st next ∧
      ∀ n, made.carriedAttempts = some n → st.delivery.attempts ≠ n → next = st := by
  have hcarried : ∀ {expected : Int}, (next = st ∨
      (st.delivery.attempts = expected ∧ Move deployment.boundedMaxAttempts st next)) →
      Moves deployment.boundedMaxAttempts st next ∧
        ∀ n, some expected = some n → st.delivery.attempts ≠ n → next = st := by
    intro expected hmove
    refine ⟨moves_of_or (hmove.imp_right And.right), fun n hn hother => ?_⟩
    obtain rfl := Option.some.inj hn
    exact hmove.resolve_right fun hmoved => hother hmoved.1
  cases made with
  | claimInitial tenantId deliveryId clock =>
      obtain ⟨⟨claimed, after⟩, hclaim, rfl⟩ := map_eq_ok.mp hrun
      exact ⟨moves_of_or (claimInitial_move (le_max_left _ _) hclaim),
        by simp [StoreCall.carriedAttempts]⟩
  | claimReplay deliveryId clock current =>
      obtain ⟨⟨claim, after⟩, hclaim, rfl⟩ := map_eq_ok.mp hrun
      exact ⟨claimReplay_moves h hclaim, by simp [StoreCall.carriedAttempts]⟩
  | claimRecoverable clock free =>
      obtain ⟨⟨found, after⟩, hclaim, rfl⟩ := map_eq_ok.mp hrun
      exact ⟨moves_of_or (claimRecoverable_move hclaim), by simp [StoreCall.carriedAttempts]⟩
  | queued tenantId deliveryId now =>
      exact ⟨moves_of_or (queued_move hrun), by simp [StoreCall.carriedAttempts]⟩
  | sendAuthority seen tenantId deliveryId expectedAttempts now =>
      obtain ⟨⟨authority, after⟩, hauthority, rfl⟩ := map_eq_ok.mp hrun
      exact hcarried (sendAuthority_move h hauthority)
  | delivered tenantId deliveryId expectedAttempts now =>
      obtain ⟨⟨state, after⟩, hdelivered, rfl⟩ := map_eq_ok.mp hrun
      exact hcarried (delivered_move hdelivered)
  | replayFailed tenantId deliveryId attempts now =>
      obtain ⟨⟨state, after⟩, hfailed, rfl⟩ := map_eq_ok.mp hrun
      exact hcarried (replayFailed_move hfailed)
  | deadLettered tenantId deliveryId expectedAttempts now =>
      obtain ⟨⟨state, after⟩, hdead, rfl⟩ := map_eq_ok.mp hrun
      obtain ⟨hattempts, hmove⟩ := settle_move h hdead
      exact hcarried (hmove.imp_right fun hmoved => ⟨hattempts, hmoved⟩)

/-- Every accepted event is a sequence of moves or a call of the wallet. -/
theorem event_moves {event : DeliveryEvent deliveryId}
    (h : Settling deployment.boundedMaxAttempts deliveryId st)
    (hrun : event.run deployment st = .ok next) :
    Moves deployment.boundedMaxAttempts st next ∨
      ∃ request, request.call.transactionId ≠ some (refundId deliveryId) ∧
        event.isWallet = true ∧
        next = { st with billing := (commit deployment.isControl st.billing request).2 } := by
  cases event with
  | call made => exact .inl (call_moves h hrun).1
  | tenantChanged tenant notPurged =>
      obtain rfl := Except.ok.inj hrun
      exact .inl (.single (.surroundings tenant st.endpoint.active st.endpoint.secret))
  | endpointChanged active secret =>
      obtain rfl := Except.ok.inj hrun
      exact .inl (.single (.surroundings st.tenant active secret))
  | deletionBarrier platformAdmin now => exact .inl (moves_of_or (deletionBarrier_move hrun))
  | deletionFinalized barrierCreatedAt databaseNow =>
      exact .inl (moves_of_or (deletionFinalized_move h hrun))
  | wallet request hforeign =>
      exact .inr ⟨request, hforeign, rfl, (Except.ok.inj hrun).symm⟩

end Transactions

/-! ## Single steps -/

section Steps

variable {deployment : WebhookDeployment} {maxAttempts : Int} {deliveryId : String}
  {st next : DeliveryState}

/-- A call of the wallet under another id keeps the invariant. -/
theorem Settling.walletMoved (h : Settling maxAttempts deliveryId st) (isControl : Char → Bool)
    {request : WalletRequest}
    (hforeign : request.call.transactionId ≠ some (refundId deliveryId)) :
    Settling maxAttempts deliveryId
      { st with billing := (commit isControl st.billing request).2 } := by
  refine ⟨h.id, h.valid, h.scheduled, h.joins, h.paid.commit isControl hforeign, ?_, h.attempts,
    h.barrier⟩
  obtain ⟨debit, hdebit, hexact⟩ := h.debit
  refine ⟨debit, ?_, hexact⟩
  obtain ⟨added, hledger⟩ := ledger_prefix_commit isControl st.billing request
  simp only [← hledger]
  exact List.mem_append_left _ hdebit

theorem Settling.step (h : Settling deployment.boundedMaxAttempts deliveryId st)
    (event : DeliveryEvent deliveryId) :
    Settling deployment.boundedMaxAttempts deliveryId
      (deliveryStep deployment deliveryId st event).2 := by
  unfold deliveryStep
  cases hrun : event.run deployment st with
  | error error => exact h
  | ok next =>
      rcases event_moves h hrun with hmoves | ⟨request, hforeign, _, rfl⟩
      · exact h.moves hmoves
      · exact h.walletMoved deployment.isControl hforeign

/-- The row stays with its tenant, a terminal row stays as it is, and the attempts never
fall. -/
structure WebhookDelivery.Keeps (old new : WebhookDelivery) : Prop where
  tenantId : new.tenantId = old.tenantId
  absorbing : old.status.terminal = true → new = old
  attempts : old.attempts ≤ new.attempts

theorem WebhookDelivery.Keeps.refl (row : WebhookDelivery) : row.Keeps row :=
  ⟨rfl, fun _ => rfl, le_rfl⟩

theorem WebhookDelivery.Keeps.of_advances {old new : WebhookDelivery}
    (hadvances : old.Advances maxAttempts new) (hlive : old.status.terminal = false) :
    old.Keeps new where
  tenantId := hadvances.tenantId
  absorbing hterminal := (Bool.false_ne_true (hlive.symm.trans hterminal)).elim
  attempts := hadvances.attempts

theorem Move.keeps (hmove : Move maxAttempts st next) : st.delivery.Keeps next.delivery := by
  cases hmove with
  | surroundings => exact .refl st.delivery
  | barred => exact .refl st.delivery
  | handed row hadvances hlive => exact .of_advances hadvances hlive
  | delivered row hadvances hlive => exact .of_advances hadvances hlive
  | refunded row _ _ _ _ _ _ _ hadvances hlive => exact .of_advances hadvances hlive

theorem Moves.keeps (hmoves : Moves maxAttempts st next) : st.delivery.Keeps next.delivery := by
  induction hmoves with
  | refl => exact .refl st.delivery
  | tail _ hmove ih =>
      refine ⟨hmove.keeps.tenantId.trans ih.tenantId, fun hterminal => ?_,
        ih.attempts.trans hmove.keeps.attempts⟩
      have hsame := ih.absorbing hterminal
      rw [← hsame] at hterminal
      exact (hmove.keeps.absorbing hterminal).trans hsame

theorem keeps_step (h : Settling deployment.boundedMaxAttempts deliveryId st)
    (event : DeliveryEvent deliveryId) :
    st.delivery.Keeps (deliveryStep deployment deliveryId st event).2.delivery := by
  unfold deliveryStep
  cases hrun : event.run deployment st with
  | error error => exact .refl st.delivery
  | ok next =>
      rcases event_moves h hrun with hmoves | ⟨request, _, _, rfl⟩
      · exact hmoves.keeps
      · exact .refl st.delivery

theorem superseded_step (h : Settling deployment.boundedMaxAttempts deliveryId st)
    {made : StoreCall} {n : Int} (hcarried : made.carriedAttempts = some n)
    (hother : st.delivery.attempts ≠ n) :
    (deliveryStep deployment deliveryId st (.call made)).2 = st := by
  unfold deliveryStep
  cases hrun : (DeliveryEvent.call made : DeliveryEvent deliveryId).run deployment st with
  | error error => rfl
  | ok next => exact (call_moves h hrun).2 n hcarried hother

/-- While the row is live nothing but a call of the wallet touches the wallets. -/
theorem Moves.billing_of_live (hmoves : Moves maxAttempts st next)
    (hlive : next.delivery.status.terminal = false) :
    next.billing = st.billing ∧ st.delivery.status.terminal = false := by
  induction hmoves with
  | refl => exact ⟨rfl, hlive⟩
  | tail _ hmove ih =>
      cases hmove with
      | surroundings => exact ih hlive
      | barred => exact ih hlive
      | handed row _ hlive' => exact ih hlive'
      | delivered row _ hlive' => exact ih hlive'
      | refunded row _ _ _ _ _ _ _ _ _ hnext =>
          rw [hnext] at hlive
          cases hlive

theorem billing_step (h : Settling deployment.boundedMaxAttempts deliveryId st)
    {event : DeliveryEvent deliveryId} (hwallet : event.isWallet = false)
    (hlive : (deliveryStep deployment deliveryId st event).2.delivery.status.terminal = false) :
    (deliveryStep deployment deliveryId st event).2.billing = st.billing ∧
      st.delivery.status.terminal = false := by
  unfold deliveryStep at hlive ⊢
  cases hrun : event.run deployment st with
  | error error =>
      rw [hrun] at hlive
      exact ⟨rfl, hlive⟩
  | ok next =>
      rw [hrun] at hlive
      rcases event_moves h hrun with hmoves | ⟨request, _, hset, rfl⟩
      · exact hmoves.billing_of_live hlive
      · cases hwallet.symm.trans hset

end Steps

/-! ## A live row can be settled -/

section Progress

variable {deployment : WebhookDeployment} {maxAttempts : Int} {deliveryId : String}
  {st : DeliveryState}

/-- From some time on the sweep's condition holds of a live row. -/
theorem exists_recoverable {row : WebhookDelivery} (hscheduled : row.Scheduled)
    (hlive : row.status.terminal = false) :
    ∃ time, ∀ now, time ≤ now → row.Recoverable deployment now := by
  have hwaiting : row.status.replayable = true → row.nextAttemptAt.isSome = true →
      ∃ time, ∀ now, time ≤ now → row.Recoverable deployment now := by
    intro hreplayable hnext
    obtain ⟨nextAttemptAt, heq⟩ := Option.isSome_iff_exists.mp hnext
    exact ⟨nextAttemptAt, fun now hnow => .inl ⟨hreplayable, nextAttemptAt, heq, hnow⟩⟩
  unfold WebhookDelivery.Scheduled at hscheduled
  cases hstatus : row.status with
  | pending =>
      rw [hstatus] at hscheduled
      exact hwaiting (by rw [hstatus]; rfl) hscheduled
  | failed =>
      rw [hstatus] at hscheduled
      exact hwaiting (by rw [hstatus]; rfl) hscheduled
  | queued =>
      rw [hstatus] at hscheduled
      by_cases hnext : row.nextAttemptAt.isSome = true
      · exact hwaiting (by rw [hstatus]; rfl) hnext
      · obtain ⟨queuedAt, heq⟩ :=
          Option.isSome_iff_exists.mp (hscheduled.resolve_left hnext)
        refine ⟨queuedAt + deployment.resolveConfirmedQueueRecoveryAgeMs, fun now hnow => ?_⟩
        refine .inr (.inr ⟨hstatus, ?_, queuedAt, heq, Int.le_sub_right_of_add_le hnow⟩)
        simpa using hnext
  | sending =>
      refine ⟨row.updatedAt + deployment.resolveReplayLeaseMs, fun now hnow => ?_⟩
      exact .inr (.inl ⟨hstatus, Int.le_sub_right_of_add_le hnow⟩)
  | delivered =>
      rw [hstatus] at hlive
      cases hlive
  | deadLettered =>
      rw [hstatus] at hlive
      cases hlive

theorem nonnegativeInteger_of_stored {value : Int} (h : 0 ≤ value)
    (hstored : value ≤ maxStoredCreditBalance) : nonnegativeInteger value = some value := by
  unfold nonnegativeInteger
  rw [if_pos]
  simp only [maxStoredCreditBalance, maxSafeInteger] at *
  omega

theorem exists_balance_of_isExactDebit {debit : CreditTransaction}
    (h : IsExactDebit deliveryId debit) : ∃ balance ∈ debit.balanceAfter, 0 ≤ balance := by
  obtain ⟨_, _, _, hbalance, _⟩ := h
  cases heq : debit.balanceAfter with
  | none =>
      rw [heq] at hbalance
      cases hbalance
  | some balance =>
      refine ⟨balance, rfl, ?_⟩
      rw [heq] at hbalance
      simp only [Option.bind_some, nonnegativeInteger] at hbalance
      split at hbalance
      · rename_i hrange
        exact hrange.1
      · cases hbalance

theorem Settling.hasExactCreditReservation (h : Settling maxAttempts deliveryId st) :
    st.HasExactCreditReservation := by
  obtain ⟨debit, hdebit, hid, htenant, hexact⟩ := h.debit
  rw [← h.id] at hid hexact
  exact ⟨debit, hdebit, hid, htenant, hexact.1, hexact.2.2.1, exists_balance_of_isExactDebit hexact⟩

/-- From some time on the sweep finds a live row of a tenant that has paid. -/
theorem sweep_finds (h : Settling maxAttempts deliveryId st)
    (hlive : st.delivery.status.terminal = false) :
    ∃ time, ∀ clock : Clock, time ≤ clock.now →
      st.tenant.PaidThrough isSqlBlank clock.databaseNow →
      ∃ found next, claimRecoverableForQueue deployment st clock true = .ok (some found, next) ∧
        found.id = deliveryId := by
  obtain ⟨time, hrecoverable⟩ :
      ∃ time, ∀ now, time ≤ now → st.delivery.Recoverable deployment now :=
    exists_recoverable h.scheduled hlive
  refine ⟨time, fun clock hnow hpaid => ?_⟩
  obtain ⟨hattempts, hkey, _, htexts⟩ := h.valid
  unfold claimRecoverableForQueue
  rw [if_pos ⟨h.joins, hpaid, h.hasExactCreditReservation, hrecoverable _ hnow, rfl⟩]
  obtain ⟨row, hrow⟩ : ∃ row : WebhookDelivery, row = { st.delivery with
      status := if st.delivery.status = .sending then .failed else st.delivery.status
      nextAttemptAt := some (clock.now + deployment.resolvePendingClaimLeaseMs)
      updatedAt := clock.now } := ⟨_, rfl⟩
  have hrow_live : row.status.terminal = false := by
    rw [hrow]
    simp only
    split
    · rfl
    · exact hlive
  have hvalid : row.scrub.Valid := by
    rw [scrub_of_live hrow_live]
    refine ⟨?_, ?_, ?_, ?_⟩
    · simpa only [hrow] using hattempts
    · simpa only [hrow] using hkey
    · intro hterminal
      cases hrow_live.symm.trans hterminal
    · intro _
      simpa only [hrow] using htexts hlive
  rw [← hrow, updateDelivery_of_valid hvalid]
  refine ⟨_, _, rfl, ?_⟩
  rw [scrub_of_live hrow_live, hrow]
  exact h.id

theorem findUnique_of_mem {store : Store} {platformAdmin : Bool} {tenantId : String}
    {row : CreditTransaction} (hkeys : (store.ledger.map (·.id)).Nodup) (hmem : row ∈ store.ledger)
    (htenant : row.tenantId = tenantId) :
    store.findUnique platformAdmin tenantId row.id = some row := by
  have hsome : (store.findUnique platformAdmin tenantId row.id).isSome = true := by
    refine List.find?_isSome.mpr ⟨row, hmem, ?_⟩
    simp [htenant]
  obtain ⟨found, hfound⟩ := Option.isSome_iff_exists.mp hsome
  obtain ⟨hfound_mem, hfound_id⟩ := findUnique_spec hfound
  rw [hfound, eq_of_key hkeys hfound_mem hmem hfound_id]

theorem findUnique_of_fresh {store : Store} {platformAdmin : Bool} {tenantId id : String}
    (hfresh : ∀ row ∈ store.ledger, row.id ≠ id) :
    store.findUnique platformAdmin tenantId id = none := by
  refine List.find?_eq_none.mpr fun row hrow => ?_
  simp [hfresh row hrow]

/-- What a refund needs of the wallet and of the names: the wallet has room, and the
database accepts the tenant's name, the reason and the id of the refund. -/
structure RefundAccepted (isControl : Char → Bool) (billing : Store) (tenantId deliveryId : String) :
    Prop where
  wallet : ∃ wallet, billing.wallet? tenantId = some wallet ∧ wallet.InRange ∧
    wallet.usageCredits + webhookCreditCost ≤ maxStoredCreditBalance
  tenant : isSqlBlank tenantId = false
  reason : isSqlBlank (refundReason deliveryId) = false ∧ (refundReason deliveryId).length ≤ 500
  id : isSqlBlank (refundId deliveryId) = false ∧ (refundId deliveryId).length ≤ 255 ∧
    (refundId deliveryId).toList.any isControl = false

theorem settleTerminalRefund_succeeds {isControl : Char → Bool} {billing : Store}
    {platformAdmin : Bool} {tenantId : String}
    (haccepted : RefundAccepted isControl billing tenantId deliveryId)
    (hfresh : ∀ row ∈ billing.ledger, row.id ≠ refundId deliveryId) :
    ∃ after, settleTerminalRefund isControl billing platformAdmin tenantId deliveryId =
      .ok after := by
  obtain ⟨wallet, hwallet, hrange, hroom⟩ := haccepted.wallet
  have hpositive : 0 < webhookCreditCost := by decide
  obtain ⟨repaid, after, ⟨hrepaid, hrepaid', hrepaid''⟩, hsettle⟩ : ∃ repaid after,
      (0 ≤ repaid ∧ repaid ≤ webhookCreditCost ∧ repaid ≤ wallet.creditDebt) ∧
      settlePositiveCreditValue isControl billing platformAdmin ⟨some tenantId,
        some webhookCreditCost, some (refundReason deliveryId), some (refundId deliveryId)⟩ =
        .ok (settledAnswer (refundId deliveryId) wallet webhookCreditCost repaid, after) :=
    settlePositive_fresh hpositive haccepted.tenant haccepted.reason haccepted.id hwallet hrange
      hroom hfresh
  obtain ⟨⟨hcredits, _⟩, hdebt, hdebt'⟩ := hrange
  have hcost : webhookCreditCost ≤ maxStoredCreditBalance := by decide
  have hbalance : 0 ≤ wallet.usageCredits + (webhookCreditCost - repaid) ∧
      wallet.usageCredits + (webhookCreditCost - repaid) ≤ maxStoredCreditBalance := by omega
  have hsettled : nonnegativeInteger webhookCreditCost = some webhookCreditCost ∧
      (nonnegativeInteger (webhookCreditCost - repaid)).isSome = true ∧
      (nonnegativeInteger repaid).isSome = true ∧
      webhookCreditCost - repaid + repaid = webhookCreditCost ∧
      (nonnegativeInteger (wallet.usageCredits + (webhookCreditCost - repaid))).isSome = true ∧
      (nonnegativeInteger (wallet.creditDebt - repaid)).isSome = true ∧ false = false := by
    rw [nonnegativeInteger_of_stored (by decide) hcost,
      nonnegativeInteger_of_stored (by omega) (by omega),
      nonnegativeInteger_of_stored hrepaid (by omega),
      nonnegativeInteger_of_stored hbalance.1 hbalance.2,
      nonnegativeInteger_of_stored (by omega) (by omega)]
    exact ⟨rfl, rfl, rfl, sub_add_cancel _ _, rfl, rfl, rfl⟩
  refine ⟨after, ?_⟩
  unfold settleTerminalRefund
  simp only [findUnique_of_fresh hfresh, hsettle, Except.mapError, ok_bind]
  rw [ensure_of_true]
  · rfl
  · exact hsettled

/-- While the refund is accepted, `markDeadLettered` with the row's attempt number
dead-letters a live row. -/
theorem deadLettered_succeeds (h : Settling maxAttempts deliveryId st)
    (hlive : st.delivery.status.terminal = false) {isControl : Char → Bool}
    (haccepted : RefundAccepted isControl st.billing st.delivery.tenantId deliveryId) (now : Int) :
    ∃ state next, markDeadLettered isControl st st.delivery.tenantId deliveryId
        st.delivery.attempts now = .ok (state, next) ∧
      next.delivery.status.terminal = true := by
  obtain ⟨debit, hdebit, hdebit_id, htenant, hexact⟩ := h.debit
  have hnone := h.paid.noRefund (not_deadLettered_of_live hlive)
  obtain ⟨billing, hbilling⟩ : ∃ billing, settleTerminalRefund isControl st.billing false
      st.delivery.tenantId deliveryId = .ok billing :=
    settleTerminalRefund_succeeds haccepted hnone
  have howned : (∃ wallet ∈ st.billing.wallet? st.delivery.tenantId,
      (nonnegativeInteger wallet.usageCredits).isSome = true ∧
      (nonnegativeInteger wallet.creditDebt).isSome = true) ∧
      st.Names st.delivery.tenantId deliveryId ∧ st.delivery.attempts = st.delivery.attempts := by
    obtain ⟨wallet, hwallet, ⟨hcredits, hdebts⟩, _⟩ := haccepted.wallet
    refine ⟨⟨wallet, hwallet, ?_, ?_⟩, ⟨h.id, rfl⟩, rfl⟩
    · rw [nonnegativeInteger_of_stored hcredits.1 hcredits.2]
      rfl
    · rw [nonnegativeInteger_of_stored hdebts.1 hdebts.2]
      rfl
  have hprovenance : (∃ debit ∈ st.billing.findUnique false st.delivery.tenantId
        (debitId deliveryId), IsExactDebit deliveryId debit) ∧
      ∀ refund ∈ st.billing.findUnique false st.delivery.tenantId (refundId deliveryId),
        IsExactRefund deliveryId refund := by
    refine ⟨⟨debit, ?_, hexact⟩, ?_⟩
    · rw [← hdebit_id]
      exact findUnique_of_mem h.paid.rows hdebit htenant
    · rw [findUnique_of_fresh hnone]
      intro refund hrefund
      cases hrefund
  have hnot_delivered : st.delivery.status ≠ .delivered := by
    intro hdelivered
    rw [hdelivered] at hlive
    cases hlive
  unfold markDeadLettered settleDeadLetteredInTransaction
  rw [ensure_of_true _ howned, ensure_of_true _ hprovenance, ensure_of_true _ hnot_delivered,
    hbilling]
  simp only [ok_bind, if_neg (not_deadLettered_of_live hlive)]
  rw [updateDelivery_of_valid, ok_bind]
  · simp only [loadTransitionedState]
    rw [ensure_of_true]
    · exact ⟨_, _, rfl, rfl⟩
    · exact ⟨⟨h.id, rfl⟩, rfl, rfl⟩
  · rw [scrub_erased rfl]
    refine ⟨h.valid.1, ?_, fun _ => ⟨rfl, rfl, rfl⟩, fun hlive => ?_⟩
    · exact (by decide +kernel : isSqlBlank "erased-v1" = false)
    · cases hlive

end Progress

/-! ## Runs -/

/-- The characters of `crypto.randomUUID()`. -/
def isUuid (text : String) : Bool :=
  text.length == 36 &&
    text.toList.all fun c => ('0' ≤ c && c ≤ '9') || ('a' ≤ c && c ≤ 'f') || c == '-'

/-- A delivery as `persistWithClient` creates it, with its debit and without a refund. -/
structure PaidDelivery extends DeliveryState where
  uuid : isUuid delivery.id = true
  pending : delivery.status = .pending
  attempts : delivery.attempts = 0 ∨ delivery.attempts = 1
  nextAttemptAt : delivery.nextAttemptAt.isSome = true
  valid : delivery.Valid
  joins : toDeliveryState.EndpointJoins
  tenantNamed : isJsBlank delivery.tenantId = false
  rows : (billing.ledger.map (·.id)).Nodup
  debit : ∃ row ∈ billing.ledger, row.id = debitId delivery.id ∧
    row.tenantId = delivery.tenantId ∧ IsExactDebit delivery.id row
  noRefund : ∀ row ∈ billing.ledger, row.id ≠ refundId delivery.id
  wallet : ∃ wallet, billing.wallet? delivery.tenantId = some wallet ∧ wallet.InRange ∧
    wallet.usageCredits + webhookCreditCost ≤ maxStoredCreditBalance
  noBarrier : deletionBarrier = false

theorem isSqlBlank_of_not_isJsBlank {text : String} (h : isJsBlank text = false) :
    isSqlBlank text = false := by
  unfold isJsBlank at h
  unfold isSqlBlank
  rw [List.all_eq_false] at h ⊢
  obtain ⟨c, hc, hspace⟩ := h
  refine ⟨c, hc, ?_⟩
  intro heq
  refine hspace ?_
  rw [eq_of_beq heq]
  decide

/-- Printable ASCII. -/
def isPrintable (text : String) : Bool :=
  text.toList.all fun c => 0x20 ≤ c.toNat && c.toNat ≤ 0x7e

theorem isPrintable_of_isUuid {text : String} (h : isUuid text = true) :
    isPrintable text = true := by
  unfold isUuid at h
  obtain ⟨_, hall⟩ := Bool.and_eq_true_iff.mp h
  refine List.all_eq_true.mpr fun c hc => ?_
  have hdigit := List.all_eq_true.mp hall c hc
  simp only [Bool.or_eq_true, Bool.and_eq_true, decide_eq_true_eq, beq_iff_eq] at hdigit ⊢
  rcases hdigit with (⟨hleast, hmost⟩ | ⟨hleast, hmost⟩) | rfl
  · exact ⟨le_trans (by decide) hleast, le_trans hmost (by decide)⟩
  · exact ⟨le_trans (by decide) hleast, le_trans hmost (by decide)⟩
  · decide

theorem length_of_isUuid {text : String} (h : isUuid text = true) : text.length = 36 := by
  unfold isUuid at h
  exact beq_iff_eq.mp (Bool.and_eq_true_iff.mp h).1

/-- A text that starts with a printable character other than a blank is not blank. -/
theorem isSqlBlank_append {start rest : String} (h : isSqlBlank start = false) :
    isSqlBlank (start ++ rest) = false := by
  unfold isSqlBlank at h ⊢
  rw [String.toList_append, List.all_append, h]
  rfl

theorem isControl_append {isControl : Char → Bool}
    (hprintable : ∀ c : Char, 0x20 ≤ c.toNat → c.toNat ≤ 0x7e → isControl c = false)
    {start rest : String} (hstart : isPrintable start = true) (hrest : isPrintable rest = true) :
    (start ++ rest).toList.any isControl = false := by
  have hnone : ∀ {text : String}, isPrintable text = true → ∀ c ∈ text.toList,
      isControl c = false := by
    intro text htext c hc
    have hrange := List.all_eq_true.mp htext c hc
    simp only [Bool.and_eq_true, decide_eq_true_eq] at hrange
    exact hprintable c hrange.1 hrange.2
  rw [String.toList_append, List.any_eq_false]
  intro c hc
  rcases List.mem_append.mp hc with hc | hc
  · simp [hnone hstart c hc]
  · simp [hnone hrest c hc]

section Start

variable (deployment : WebhookDeployment) (start : PaidDelivery)

theorem PaidDelivery.settling :
    Settling deployment.boundedMaxAttempts start.delivery.id start.toDeliveryState where
  id := rfl
  valid := start.valid
  scheduled := scheduled_of_next start.nextAttemptAt
  joins := start.joins
  paid := by
    obtain ⟨row, hrow, hid, _⟩ := start.debit
    refine ⟨start.rows, ⟨row, hrow, hid⟩, ?_, ?_⟩
    · rw [start.pending]
      refine iff_of_false ?_ (by simp)
      rintro ⟨refund, hrefund, hid⟩
      exact start.noRefund refund hrefund hid
    · intro refund hrefund hid
      exact absurd hid (start.noRefund refund hrefund)
  debit := start.debit
  attempts := by
    have hone : (1 : Int) ≤ deployment.boundedMaxAttempts := le_max_left _ _
    rcases start.attempts with hzero | hone'
    · rw [hzero]
      exact le_trans (by decide) hone
    · rw [hone']
      exact hone
  barrier h := (Bool.false_ne_true (start.noBarrier.symm.trans h)).elim

theorem PaidDelivery.refundAccepted : RefundAccepted deployment.isControl start.billing
    start.delivery.tenantId start.delivery.id where
  wallet := start.wallet
  tenant := isSqlBlank_of_not_isJsBlank start.tenantNamed
  reason := by
    refine ⟨?_, ?_⟩
    · unfold refundReason
      rw [String.append_assoc]
      exact isSqlBlank_append (by decide +kernel)
    · have hlength : "Webhook delivery refund (".length = 25 ∧ ")".length = 1 := by decide +kernel
      unfold refundReason
      rw [String.length_append, String.length_append, length_of_isUuid start.uuid, hlength.1,
        hlength.2]
      decide
  id := by
    refine ⟨isSqlBlank_append (by decide +kernel), ?_, ?_⟩
    · have hlength : "feature-refund-webhook-delivery:".length = 32 := by decide +kernel
      unfold refundId
      rw [String.length_append, length_of_isUuid start.uuid, hlength]
      decide
    · exact isControl_append deployment.isControl_printable (by decide +kernel)
        (isPrintable_of_isUuid start.uuid)

/-- While the row is live, a run without calls of the wallet leaves the wallets alone. -/
theorem billing_final {deliveryId : String} {st : DeliveryState}
    (h : Settling deployment.boundedMaxAttempts deliveryId st)
    {events : List (DeliveryEvent deliveryId)}
    (hwallet : ∀ event ∈ events, event.isWallet = false)
    (hlive : (final (deliveryStep deployment deliveryId) st events).delivery.status.terminal =
      false) :
    (final (deliveryStep deployment deliveryId) st events).billing = st.billing ∧
      (final (deliveryStep deployment deliveryId) st events).delivery.tenantId =
        st.delivery.tenantId ∧ st.delivery.status.terminal = false := by
  induction events generalizing st with
  | nil => exact ⟨rfl, rfl, hlive⟩
  | cons event rest ih =>
      obtain ⟨hbilling, htenant, hnext⟩ :=
        ih (h.step event) (fun other hother => hwallet other (List.mem_cons_of_mem _ hother)) hlive
      obtain ⟨hsame, hbefore⟩ := billing_step h (hwallet event List.mem_cons_self) hnext
      exact ⟨hbilling.trans hsame, htenant.trans (keeps_step h event).tenantId, hbefore⟩

end Start

end LunchLineup.Webhooks
