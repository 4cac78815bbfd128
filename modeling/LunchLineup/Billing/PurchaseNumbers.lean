import LunchLineup.Billing.PurchaseOutcome

/-!
# The numbers of refund attempts

A new refund is asked for under the number after the attempt that has failed, and
the number of an attempt is read from the rows about it.  While these are the
numbers in the idempotency keys (`Numbered`) the attempts are sequential and at most
one of them is active.

A refund may have no row, because the transaction that asked for it was rolled back.
It is then given the number after the largest recorded one.  `InOrder` says that
this is its own; the steps that are in order keep the numbers right.
-/

namespace LunchLineup.Billing

open LunchLineup.Lib

/-! ## Numbered attempts -/

/-- The refund of an attempt, in a row about it. -/
def BillingEvent.Records (record : BillingEvent) (attempt : Attempt ProviderRefund) : Prop :=
  record.metadata.attempt = some attempt.number ∧
    asString record.metadata.refundId = some attempt.current.id

/-- The numbers in the tables are the numbers in the idempotency keys. -/
structure Numbered (state : PurchaseState) : Prop where
  sequential : Attempt.Sequential ProviderRefund.Active state.attempts
  refundIds : (state.attempts.map (·.current.id)).Nodup
  responses : ∀ attempt ∈ state.attempts, attempt.response.id = attempt.current.id
  records : ∀ record ∈ state.db.refundRecords, ∃ attempt ∈ state.attempts, record.Records attempt
  legacy : ∀ refundId, state.db.legacyRefundId = some refundId →
    ∃ attempt ∈ state.attempts, attempt.number = 0 ∧ attempt.current.id = refundId
  adopted : ∀ recorded, state.db.findEvent .purchase = some recorded →
    ∀ refundId, recorded.metadata.legacyRefundId = some refundId →
      state.db.legacyRefundId = some refundId
  onTheWay : ∀ number ∈ state.onTheWay,
    Attempt.MayCreate ProviderRefund.Active state.attempts number

/-- A refund webhook comes in order: its refund has rows, or it is the attempt after
the recorded ones. -/
def InOrder (state : PurchaseState) : PurchaseEvent → Prop
  | .refund (some refundId) _ _ => state.db.hasRefundTerminal = false →
      (∀ record ∈ state.db.refundRecords, asString record.metadata.refundId ≠ some refundId) →
      ∀ attempt ∈ state.attempts, attempt.current.id = refundId →
        attempt.number = largestAttempt state.db.refundRecords + 1
  | _ => True

theorem largestAttempt_of_forall {records : List BillingEvent} {n : Int} (hn : 0 ≤ n)
    (hne : records ≠ []) (hall : ∀ record ∈ records, record.attempt = n) :
    largestAttempt records = n := by
  have hfold (rest : List BillingEvent) (hrest : ∀ record ∈ rest, record.attempt = n) :
      rest.foldl (fun maximum record => max maximum record.attempt) n = n := by
    induction rest with
    | nil => rfl
    | cons record rest ih =>
        rw [List.foldl_cons, hrest record List.mem_cons_self, max_self]
        exact ih fun other hother => hrest other (List.mem_cons_of_mem _ hother)
  cases records with
  | nil => exact absurd rfl hne
  | cons record rest =>
      rw [largestAttempt, List.foldl_cons, hall record List.mem_cons_self, max_eq_right (by omega)]
      exact hfold rest fun other hother => hall other (List.mem_cons_of_mem _ hother)

section Numbers

variable {context : PurchaseContext} {isControl : Char → Bool} {state : PurchaseState}
  {db' : PurchaseDatabase}

/-- A refund that is recorded or comes in order counts as its own attempt. -/
theorem Numbered.attemptOf (hnumbered : Numbered state) {attempt : Attempt ProviderRefund}
    (hmem : attempt ∈ state.attempts)
    (horder : (∀ record ∈ state.db.refundRecords,
        asString record.metadata.refundId ≠ some attempt.current.id) →
      attempt.number = largestAttempt state.db.refundRecords + 1) :
    state.db.attemptOf attempt.current.id = attempt.number := by
  have hnonneg := (hnumbered.sequential.mem_numbers.mp ⟨attempt, hmem, rfl⟩).1
  have hknown : ∀ record ∈ state.db.refundRecords.filter
      (asString ·.metadata.refundId = some attempt.current.id), record.attempt = attempt.number := by
    intro record hrecord
    simp only [List.mem_filter, decide_eq_true_eq] at hrecord
    obtain ⟨other, hother, hnumber, hid⟩ := hnumbered.records record hrecord.1
    rw [hrecord.2] at hid
    obtain rfl := eq_of_key hnumbered.refundIds hother hmem (Option.some.inj hid).symm
    rw [BillingEvent.attempt, hnumber, Option.getD_some]
  simp only [PurchaseDatabase.attemptOf]
  by_cases hnone : state.db.refundRecords.filter
      (asString ·.metadata.refundId = some attempt.current.id) = []
  · have hlargest : largestAttempt ([] : List BillingEvent) = -1 := rfl
    rw [hnone, hlargest, if_pos (by omega)]
    refine (horder ?_).symm
    intro record hrecord hid
    exact List.filter_eq_nil_iff.mp hnone record hrecord (decide_eq_true hid)
  · rw [largestAttempt_of_forall hnonneg hnone hknown, if_neg (by omega)]

/-- The refund that is looked up counts as its own attempt. -/
theorem Numbered.attemptOf_known (hnumbered : Numbered state) {webhookRefundId : Option String}
    {new : NewRefund} {fate : Fate} (horder : InOrder state (.refund webhookRefundId new fate))
    (hopen : state.db.hasRefundTerminal = false) {attempt : Attempt ProviderRefund}
    (hmem : attempt ∈ state.attempts)
    (hknown : KnownRefund state.db webhookRefundId attempt.current.id) :
    state.db.attemptOf attempt.current.id = attempt.number := by
  apply hnumbered.attemptOf hmem
  intro hunrecorded
  cases hknown with
  | webhook h =>
      subst h
      exact horder hopen hunrecorded attempt hmem rfl
  | record hrecord h => exact absurd h (hunrecorded _ hrecord)
  | @legacy recorded hrecorded h hnone =>
      have hlatest : state.db.latestRecord = none := by
        cases hlatest : state.db.latestRecord with
        | none => rfl
        | some latest =>
            obtain ⟨other, _, _, hid⟩ := hnumbered.records latest (mem_of_latestRecord hlatest)
            rw [hlatest, Option.bind_some, hid] at hnone
            cases hnone
      obtain ⟨refundId, hrefundId, hid⟩ : ∃ refundId,
          recorded.metadata.legacyRefundId = some refundId ∧ refundId = attempt.current.id := by
        cases hlegacy : recorded.metadata.legacyRefundId with
        | none =>
            rw [hlegacy] at h
            cases h
        | some refundId =>
            rw [hlegacy] at h
            exact ⟨refundId, rfl, (Option.filter_eq_some_iff.mp h).1 |> Option.some.inj⟩
      obtain ⟨first, hfirst, hzero, hfirst_id⟩ :=
        hnumbered.legacy refundId (hnumbered.adopted recorded hrecorded refundId hrefundId)
      obtain rfl := eq_of_key hnumbered.refundIds hfirst hmem (hfirst_id.trans hid)
      rw [refundRecords_of_latestRecord hlatest, hzero]
      rfl

/-- Rows about an attempt under its own number. -/
theorem Numbered.refunded (hnumbered : Numbered state) {attempt : Attempt ProviderRefund}
    (hmem : attempt ∈ state.attempts)
    (hnamed : asString (some attempt.current.id) = some attempt.current.id)
    (hlegacy : db'.legacyRefundId = state.db.legacyRefundId)
    (h : RefundWrite attempt.current.id attempt.number state.db db') :
    Numbered { state with db := db' } := by
  obtain ⟨rows, hevents, hrows⟩ := h.appended
  have hpurchase : db'.findEvent .purchase = state.db.findEvent .purchase := by
    apply findEvent_append hevents
    intro row hrow
    rcases (hrows row hrow).1 with hid | ⟨status, hid⟩
    · rw [hid]
      nofun
    · rw [hid]
      nofun
  refine ⟨hnumbered.sequential, hnumbered.refundIds, hnumbered.responses, ?_, ?_, ?_,
    hnumbered.onTheWay⟩
  · intro record hrecord
    simp only [PurchaseDatabase.refundRecords, hevents, List.filter_append,
      List.mem_append] at hrecord
    rcases hrecord with hold | hnew
    · exact hnumbered.records record hold
    · obtain ⟨_, hrefundId, hnumber⟩ := hrows record (List.mem_filter.mp hnew).1
      refine ⟨attempt, hmem, hnumber, ?_⟩
      rw [hrefundId]
      exact hnamed
  · intro refundId hfound
    exact hnumbered.legacy refundId (hlegacy ▸ hfound)
  · intro recorded hrecorded refundId hrefundId
    simp only [hlegacy]
    exact hnumbered.adopted recorded (hpurchase ▸ hrecorded) refundId hrefundId

/-- A refund that is created under a number that may be used. -/
theorem Numbered.created (hnumbered : Numbered state) {number : Int}
    (hmay : Attempt.MayCreate ProviderRefund.Active state.attempts number) {new : NewRefund}
    {response : ProviderRefund} {attempts : List (Attempt ProviderRefund)}
    (h : state.createAt context number new = .ok (response, attempts)) :
    Numbered { state with attempts := attempts } ∧
      ∃ attempt ∈ attempts, attempt.number = number ∧ attempt.current.id = response.id := by
  obtain ⟨refund, hrequest, h⟩ := bind_eq_ok.mp h
  simp only [bind_eq_ok, ensure_eq_ok] at h
  obtain ⟨_, hfresh, h⟩ := h
  have hcreate := Except.ok.inj h
  have hid : refund.id = new.id := by
    unfold PurchaseContext.refundRequest at hrequest
    split at hrequest
    · simp only [bind_eq_ok, ensure_eq_ok] at hrequest
      obtain ⟨_, _, hrequest⟩ := hrequest
      obtain rfl := Except.ok.inj hrequest
      rfl
    · cases hrequest
    · cases hrequest
  have hattempts : attempts = (Attempt.create state.attempts number refund).2 := by rw [hcreate]
  have hresponse : response = (Attempt.create state.attempts number refund).1 := by rw [hcreate]
  have hkept : ∀ attempt ∈ state.attempts, attempt ∈ attempts := by
    intro attempt hattempt
    rw [hattempts]
    by_cases hmem : ∃ attempt ∈ state.attempts, attempt.number = number
    · rw [Attempt.create_of_mem hmem]
      exact hattempt
    · rw [Attempt.create_of_not_mem hmem]
      exact List.mem_append_left _ hattempt
  have hresponses : ∀ attempt ∈ attempts, attempt.response.id = attempt.current.id := by
    intro attempt hattempt
    rw [hattempts] at hattempt
    by_cases hmem : ∃ attempt ∈ state.attempts, attempt.number = number
    · rw [Attempt.create_of_mem hmem] at hattempt
      exact hnumbered.responses attempt hattempt
    · rw [Attempt.create_of_not_mem hmem] at hattempt
      rcases List.mem_append.mp hattempt with hold | hlast
      · exact hnumbered.responses attempt hold
      · rw [List.mem_singleton.mp hlast]
  refine ⟨⟨?_, ?_, hresponses, ?_, ?_, hnumbered.adopted, ?_⟩, ?_⟩
  · rw [hattempts]
    exact hnumbered.sequential.create refund hmay
  · rw [hattempts]
    by_cases hmem : ∃ attempt ∈ state.attempts, attempt.number = number
    · rw [Attempt.create_of_mem hmem]
      exact hnumbered.refundIds
    · rw [Attempt.create_of_not_mem hmem]
      apply nodup_keys_append hnumbered.refundIds
      intro other hother
      rw [hid]
      exact hfresh other hother
  · intro record hrecord
    obtain ⟨attempt, hattempt, hrecords⟩ := hnumbered.records record hrecord
    exact ⟨attempt, hkept attempt hattempt, hrecords⟩
  · intro refundId hfound
    obtain ⟨attempt, hattempt, hfirst⟩ := hnumbered.legacy refundId hfound
    exact ⟨attempt, hkept attempt hattempt, hfirst⟩
  · intro other hother
    rw [hattempts]
    exact (hnumbered.onTheWay other hother).create refund hmay
  · obtain ⟨attempt, hattempt, hnumber, hfirst⟩ :=
      Attempt.exists_response_create state.attempts number refund
    rw [← hattempts] at hattempt
    refine ⟨attempt, hattempt, hnumber, ?_⟩
    rw [← hresponses attempt hattempt, hfirst, hresponse]

/-- A plan numbers its rows and its next attempt right. -/
theorem Numbered.planned (hnumbered : Numbered state) {webhookRefundId : Option String}
    {new : NewRefund} {fate : Fate} (horder : InOrder state (.refund webhookRefundId new fate))
    {plan : RefundPlan}
    (h : state.db.planRefund context state.attempts webhookRefundId = .ok plan) :
    Numbered { state with db := plan.db } ∧ ∀ number last, plan = .create number last →
      Attempt.MayCreate ProviderRefund.Active state.attempts number := by
  obtain ⟨_, ⟨_, rfl⟩ | ⟨hopen, hrequired, rfl | ⟨refundId, refund, hknown, hretrieve, hplan⟩⟩⟩ :=
    planRefund_ok h
  · exact ⟨hnumbered, nofun⟩
  · refine ⟨hnumbered, ?_⟩
    intro number last heq
    obtain ⟨rfl, _⟩ := RefundPlan.create.inj heq
    exact .first hnumbered.sequential
  · obtain ⟨attempt, hmem, rfl, hid, hstatus, hnamed⟩ := retrieveRefund_ok hretrieve
    obtain ⟨hwrite, hnext⟩ := planKnown_ok hplan
    rw [hid, hnumbered.attemptOf_known horder hopen hmem hknown] at hwrite hnext
    obtain ⟨recorded, hrecorded, _⟩ := hrequired
    obtain ⟨rows, hevents, _⟩ := hwrite.appended
    have hlegacy := legacyRefundId_append hevents (.inl (events_ne_nil hrecorded))
    refine ⟨hnumbered.refunded hmem hnamed hlegacy hwrite, ?_⟩
    intro number last heq
    obtain ⟨rfl, hover⟩ := hnext number last heq
    apply Attempt.MayCreate.next hnumbered.sequential hmem
    rw [ProviderRefund.Active, ← hstatus]
    rcases hover with hfailed | hcanceled
    · exact fun hactive => hactive.1 hfailed
    · exact fun hactive => hactive.2 hcanceled

/-- The rows of the first transaction are not about refunds. -/
theorem Numbered.prepared (hnumbered : Numbered state) {preparation : PurchasePreparation}
    (h : Prepared context state.db preparation db') : Numbered { state with db := db' } := by
  -- One more row about the purchase, which adopts at most what an earlier version left.
  have hrow {event : BillingEvent} {next : PurchaseDatabase}
      (hsource : event.metadata.source = .purchase) (hrefund : event.metadata.refundId = none)
      (hadopted : event.id = .purchase → ∀ refundId,
        event.metadata.legacyRefundId = some refundId → state.db.legacyRefundId = some refundId)
      (hevents : next.events = state.db.events ++ [event]) :
      Numbered { state with db := next } := by
    have hlegacy : next.legacyRefundId = state.db.legacyRefundId := by
      apply legacyRefundId_append hevents
      refine .inr ?_
      intro row hrow
      rw [List.mem_singleton.mp hrow]
      exact hrefund
    refine ⟨hnumbered.sequential, hnumbered.refundIds, hnumbered.responses, ?_, ?_, ?_,
      hnumbered.onTheWay⟩
    · intro record hrecord
      simp only [PurchaseDatabase.refundRecords, hevents, List.filter_append,
        List.mem_append] at hrecord
      rcases hrecord with hold | hnew
      · exact hnumbered.records record hold
      · simp [hsource] at hnew
    · intro refundId hfound
      exact hnumbered.legacy refundId (hlegacy ▸ hfound)
    · intro recorded hrecorded refundId hrefundId
      simp only [hlegacy]
      simp only [PurchaseDatabase.findEvent, hevents, List.find?_append] at hrecorded
      rcases Option.or_eq_some_iff.mp hrecorded with hold | ⟨_, hnew⟩
      · exact hnumbered.adopted recorded hold refundId hrefundId
      · have hmem := List.mem_singleton.mp (List.mem_of_find?_eq_some hnew)
        have hid := List.find?_some hnew
        simp only [decide_eq_true_eq] at hid
        rw [hmem] at hid hrefundId
        exact hadopted hid refundId hrefundId
  cases h with
  | same _ => exact hnumbered
  | replayed _ _ => exact hnumbered
  | noted _ _ _ hid hsource hrefund h =>
      obtain ⟨_, rfl⟩ := createEvent_ok h
      refine hrow hsource hrefund ?_ rfl
      intro hpurchase
      rw [hid] at hpurchase
      cases hpurchase
  | decided _ _ _ _ hsource hrefund hlegacy _ h =>
      obtain ⟨_, rfl⟩ := createEvent_ok h
      refine hrow hsource hrefund ?_ rfl
      intro _ refundId hrefundId
      rw [← hlegacy]
      exact hrefundId
  | granted _ _ hevent hrefund hnew _ _ h hgrant =>
      obtain ⟨_, rfl⟩ := createEvent_ok h
      obtain ⟨⟨positive, store⟩, _, hgrant⟩ := bind_eq_ok.mp hgrant
      obtain ⟨_, rfl⟩ := Prod.mk.inj (Except.ok.inj hgrant)
      refine hrow hevent.source hrefund ?_ rfl
      intro _ refundId hrefundId
      rw [hnew] at hrefundId
      cases hrefundId

theorem exists_settled {attempt : Attempt ProviderRefund} (hmem : attempt ∈ state.attempts)
    (refundId : String) (status : RefundStatus) :
    ∃ settled ∈ state.settled refundId status, settled.number = attempt.number ∧
      settled.current.id = attempt.current.id := by
  refine ⟨_, List.mem_map_of_mem hmem, ?_⟩
  split
  · exact ⟨rfl, rfl⟩
  · exact ⟨rfl, rfl⟩

/-- A refund gets another status. -/
theorem Numbered.settles (hnumbered : Numbered state) (refundId : String) (status : RefundStatus) :
    Numbered { state with attempts := state.settled refundId status } := by
  have hsequential : Attempt.Sequential ProviderRefund.Active (state.settled refundId status) := by
    apply Attempt.Sequential.settle hnumbered.sequential
    intro attempt _ hchanged _
    exact (of_decide_eq_true hchanged).2
  have hmay {number : Int}
      (h : Attempt.MayCreate ProviderRefund.Active state.attempts number) :
      Attempt.MayCreate ProviderRefund.Active (state.settled refundId status) number := by
    apply Attempt.MayCreate.settle h
    intro attempt _ hchanged _
    exact (of_decide_eq_true hchanged).2
  refine ⟨hsequential, ?_, ?_, ?_, ?_, hnumbered.adopted, ?_⟩
  · have hids : (state.settled refundId status).map (·.current.id) =
        state.attempts.map (·.current.id) := by
      rw [PurchaseState.settled, Attempt.settle, List.map_map]
      apply List.map_congr_left
      intro attempt _
      rw [Function.comp_apply]
      split
      · rfl
      · rfl
    simp only [hids]
    exact hnumbered.refundIds
  · intro attempt hattempt
    obtain ⟨old, hold, rfl⟩ := List.mem_map.mp hattempt
    split
    · exact hnumbered.responses old hold
    · exact hnumbered.responses old hold
  · intro record hrecord
    obtain ⟨attempt, hattempt, hnumber, hid⟩ := hnumbered.records record hrecord
    obtain ⟨settled, hsettled, hsettled_number, hsettled_id⟩ :=
      exists_settled hattempt refundId status
    refine ⟨settled, hsettled, ?_, ?_⟩
    · rw [hsettled_number]
      exact hnumber
    · rw [hsettled_id]
      exact hid
  · intro other hother
    obtain ⟨attempt, hattempt, hzero, hid⟩ := hnumbered.legacy other hother
    obtain ⟨settled, hsettled, hsettled_number, hsettled_id⟩ :=
      exists_settled hattempt refundId status
    exact ⟨settled, hsettled, hsettled_number.trans hzero, hsettled_id.trans hid⟩
  · intro number hnumber
    exact hmay (hnumbered.onTheWay number hnumber)

/-- Every step in order keeps the numbers right. -/
theorem Numbered.step (hnumbered : Numbered state) (hconsistent : Consistent context state)
    {event : PurchaseEvent} (horder : InOrder state event) :
    Numbered (purchaseStep context isControl state event).2 := by
  cases event with
  | checkout delivery fate =>
      simp only [purchaseStep]
      split
      · exact hnumbered
      · rename_i preparation last hprepare
        rcases conclude_cases (.prepared preparation) fate with hsame | hcommitted
        · rw [hsame]
          exact hnumbered
        · rw [hcommitted]
          exact hnumbered.prepared (prepared_of_ok hprepare)
  | refund webhookRefundId new fate =>
      simp only [purchaseStep]
      split
      · exact hnumbered
      · rename_i recoverable last hplan
        rcases conclude_cases (.reconciled recoverable) fate with hsame | hcommitted
        · rw [hsame]
          exact hnumbered
        · rw [hcommitted]
          exact (hnumbered.planned horder hplan).1
      · rename_i number last hplan
        obtain ⟨hplanned, hnext⟩ := hnumbered.planned horder hplan
        have hmay := hnext number last rfl
        obtain ⟨recorded, hrecorded, _⟩ := ((hconsistent.planned hplan).2 number last rfl).2
        rcases @runAttempt_cases context state last number new fate with hsame | honway |
          ⟨response, attempts, hcreate, hrolledBack | ⟨written, recoverable, hrecord, hcommitted⟩⟩
        · rw [hsame]
          exact hnumbered
        · rw [honway]
          refine ⟨hnumbered.sequential, hnumbered.refundIds, hnumbered.responses,
            hnumbered.records, hnumbered.legacy, hnumbered.adopted, ?_⟩
          intro other hother
          rcases List.mem_append.mp hother with hold | hlast
          · exact hnumbered.onTheWay other hold
          · rw [List.mem_singleton.mp hlast]
            exact hmay
        · rw [hrolledBack]
          exact (hnumbered.created hmay hcreate).1
        · rw [hcommitted]
          obtain ⟨hcreated, attempt, hmem, hnumber, hid⟩ :=
            @Numbered.created _ { state with db := last } hplanned _ hmay _ _ _ hcreate
          obtain ⟨hwrite, hnamed⟩ := recordCreated_ok hrecord
          obtain ⟨rows, hevents, _⟩ := hwrite.appended
          have hlegacy := legacyRefundId_append hevents (.inl (events_ne_nil hrecorded))
          rw [← hid] at hnamed
          rw [← hid, ← hnumber] at hwrite
          exact @Numbered.refunded { state with db := last, attempts := attempts } _ hcreated _ hmem
            hnamed hlegacy hwrite
  | arrives number new =>
      simp only [purchaseStep]
      split
      · rename_i honway
        split
        · exact hnumbered
        · rename_i response attempts hcreate
          exact (hnumbered.created (hnumbered.onTheWay number honway) hcreate).1
      · exact hnumbered
  | settles refundId status => exact hnumbered.settles refundId status
  | wallet request =>
      simp only [purchaseStep]
      split
      · exact hnumbered
      · exact ⟨hnumbered.sequential, hnumbered.refundIds, hnumbered.responses, hnumbered.records,
          hnumbered.legacy, hnumbered.adopted, hnumbered.onTheWay⟩

end Numbers

end LunchLineup.Billing
