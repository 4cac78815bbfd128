import LunchLineup.Payroll.ExportEvidence

/-!
# Reconciliation of exports

Receipts come in any order and name any lines, so the state of a line is the fold
of many partial receipts, while a batch is completed by one receipt that happens
to find every line accepted.  `Reconciled` says what ties the two together: a line
state is the last recorded event of its line, every receipt still has the payload
its digest was taken of, and a completed batch has all its lines accepted and a
last receipt with its minutes.

A count of accepted states is compared with a count of lines.  The two agree only
when every line is accepted, because the states have distinct lines of the batch
(`accepted_of_count`).
-/

namespace LunchLineup.Payroll

open LunchLineup.Lib LunchLineup.Billing

/-! ## What the tables say about a line -/

/-- The state an event puts its line in. -/
def LineEvent.state (event : LineEvent) : LineState :=
  ⟨event.batchId, event.lineId, event.status, event.receiptId, event.reason⟩

/-- The outcome an event records. -/
def LineEvent.outcome (event : LineEvent) : Outcome :=
  ⟨event.lineId, event.status, event.reason⟩

/-- The line an event names. -/
def LineEvent.key (event : LineEvent) : String × String := (event.batchId, event.lineId)

namespace ExportDatabase

variable (db : ExportDatabase)

/-- The events of a line, in the order in which their receipts were recorded. -/
def eventsOf (batchId lineId : String) : List LineEvent :=
  db.lineEvents.filter fun event => event.key = (batchId, lineId)

/-- The current state of a line. -/
def lineState? (batchId lineId : String) : Option LineState :=
  db.lineStates.find? fun state => state.key = (batchId, lineId)

/-- The receipts of a batch, in the order in which they were recorded. -/
def receiptsOf (batchId : String) : List Receipt :=
  db.receipts.filter fun receipt => receipt.batchId = batchId

/-- The payload a receipt was recorded with. -/
def payloadOf (receipt : Receipt) : ReconciliationPayload where
  provider := receipt.provider
  providerEventId := receipt.providerEventId
  providerTotalMinutes := receipt.providerTotalMinutes
  outcomes := (db.lineEvents.filter fun event => event.receiptId = receipt.id).map LineEvent.outcome

/-- Every line of the batch is accepted, and its last receipt reported its
minutes. -/
def Completed (batch : ExportBatch) : Prop :=
  (∀ line ∈ db.linesOf batch.id,
    (db.lineState? batch.id line.id).map (·.status) = some .accepted) ∧
  (db.receiptsOf batch.id).getLast?.map (·.providerTotalMinutes) = some batch.totalPayableMinutes

end ExportDatabase

/-- What holds of the reconciliation between transactions. -/
structure Reconciled (hashes : ExportHashes) (db : ExportDatabase) : Prop where
  receiptIds : (db.receipts.map (·.id)).Nodup
  providerEvents : (db.receipts.map fun receipt =>
    (receipt.provider, receipt.providerEventId)).Nodup
  stateKeys : (db.lineStates.map LineState.key).Nodup
  matched : ∀ event ∈ db.lineEvents, db.EventMatches event
  projected : ∀ batchId lineId, db.lineState? batchId lineId =
    (db.eventsOf batchId lineId).getLast?.map LineEvent.state
  latest : ∀ state ∈ db.lineStates, db.LatestEvent state
  digests : ∀ receipt ∈ db.receipts, receipt.payloadSha256 =
    (hashes.reconciliation receipt.receivedByUserId receipt.batchId (db.payloadOf receipt)).val
  completed : ∀ batch ∈ db.batches, batch.status = .reconciled → db.Completed batch

/-! ## Counting accepted lines -/

/-- The states of a batch belong to distinct lines of it, so that as many accepted
states as there are lines are the states of all lines. -/
theorem accepted_of_count {db : ExportDatabase} {batchId : String}
    (hkeys : (db.lineStates.map LineState.key).Nodup)
    (hmatched : ∀ event ∈ db.lineEvents, db.EventMatches event)
    (hlatest : ∀ state ∈ db.lineStates, db.LatestEvent state)
    (hcount : db.acceptedLines batchId = (db.linesOf batchId).length) :
    ∀ line ∈ db.linesOf batchId,
      (db.lineState? batchId line.id).map (·.status) = some .accepted := by
  let accepted := db.lineStates.filter fun state =>
    state.batchId = batchId ∧ state.status = .accepted
  have haccepted {state : LineState} (hstate : state ∈ accepted) :
      state ∈ db.lineStates ∧ state.batchId = batchId ∧ state.status = .accepted := by
    have h := List.mem_filter.mp hstate
    simpa using h
  have hnodup : (accepted.map (·.lineId)).Nodup := by
    refine List.Nodup.map_on ?_ ((List.Nodup.of_map _ hkeys).filter _)
    intro first hfirst second hsecond heq
    obtain ⟨hfirst, hfirst_batch, _⟩ := haccepted hfirst
    obtain ⟨hsecond, hsecond_batch, _⟩ := haccepted hsecond
    refine eq_of_key hkeys hfirst hsecond ?_
    rw [LineState.key, LineState.key, hfirst_batch, hsecond_batch, heq]
  have hsubset : accepted.map (·.lineId) ⊆ (db.linesOf batchId).map (·.id) := by
    intro lineId hlineId
    obtain ⟨state, hstate, rfl⟩ := List.mem_map.mp hlineId
    obtain ⟨hstate, hbatch, _⟩ := haccepted hstate
    obtain ⟨event, hevent, _, _, _, hevent_batch, hevent_line, _⟩ := hlatest state hstate
    obtain ⟨_, _, _, _, line, hline, hline_batch, hline_id⟩ := hmatched event hevent
    refine List.mem_map.mpr ⟨line, List.mem_filter.mpr ⟨hline, ?_⟩, hline_id.trans hevent_line⟩
    rw [decide_eq_true_eq, hline_batch, hevent_batch, hbatch]
  have hlength : ((db.linesOf batchId).map (·.id)).length ≤ (accepted.map (·.lineId)).length := by
    rw [List.length_map, List.length_map, ← hcount, ExportDatabase.acceptedLines,
      List.countP_eq_length_filter]
  have hperm := (List.subperm_of_subset hnodup hsubset).perm_of_length_le hlength
  intro line hline
  have hmem : line.id ∈ accepted.map (·.lineId) :=
    hperm.mem_iff.mpr (List.mem_map.mpr ⟨line, hline, rfl⟩)
  obtain ⟨state, hstate, hid⟩ := List.mem_map.mp hmem
  obtain ⟨hstate, hbatch, hstatus⟩ := haccepted hstate
  have hkey : state.key = (batchId, line.id) := by rw [LineState.key, hbatch, hid]
  rw [ExportDatabase.lineState?, ← hkey, find?_key hkeys hstate, Option.map_some, hstatus]

/-! ## Every write keeps the invariant -/

section Invariant

variable {tenantId : String} {hashes : ExportHashes} {isControl : Char → Bool}
  {db db' : ExportDatabase}

theorem reconciled_initial (payroll : Database) (store : Store) (directory : Directory) :
    Reconciled hashes (.initial payroll store directory) := by
  constructor
  all_goals simp [ExportDatabase.initial, ExportDatabase.lineState?, ExportDatabase.eventsOf]

/-- Writes that leave the receipts, their events and the line states as they
are. -/
theorem Reconciled.around (hreconciled : Reconciled hashes db)
    (hreceipts : db'.receipts = db.receipts) (hevents : db'.lineEvents = db.lineEvents)
    (hstates : db'.lineStates = db.lineStates) (hlines : ∀ line ∈ db.lines, line ∈ db'.lines)
    (hbatches : ∀ batch ∈ db'.batches, batch.status = .reconciled →
      batch ∈ db.batches ∧ db'.linesOf batch.id = db.linesOf batch.id) :
    Reconciled hashes db' := by
  constructor
  · rw [hreceipts]
    exact hreconciled.receiptIds
  · rw [hreceipts]
    exact hreconciled.providerEvents
  · rw [hstates]
    exact hreconciled.stateKeys
  · intro event hevent
    rw [hevents] at hevent
    obtain ⟨receipt, hreceipt, hid, hbatch, line, hline, hmatch⟩ := hreconciled.matched event hevent
    rw [← hreceipts] at hreceipt
    exact ⟨receipt, hreceipt, hid, hbatch, line, hlines line hline, hmatch⟩
  · intro batchId lineId
    have hprojected := hreconciled.projected batchId lineId
    rw [ExportDatabase.lineState?, ExportDatabase.eventsOf] at hprojected ⊢
    rw [hstates, hevents]
    exact hprojected
  · intro state hstate
    rw [hstates] at hstate
    have hlatest := hreconciled.latest state hstate
    rw [ExportDatabase.LatestEvent] at hlatest ⊢
    rw [hevents, hreceipts]
    exact hlatest
  · intro receipt hreceipt
    rw [hreceipts] at hreceipt
    have hdigest := hreconciled.digests receipt hreceipt
    rw [ExportDatabase.payloadOf] at hdigest ⊢
    rw [hevents]
    exact hdigest
  · intro batch hbatch hstatus
    obtain ⟨hold, hsame⟩ := hbatches batch hbatch hstatus
    have hcompleted := hreconciled.completed batch hold hstatus
    rw [ExportDatabase.Completed, ExportDatabase.receiptsOf] at hcompleted ⊢
    simp only [ExportDatabase.lineState?] at hcompleted ⊢
    rw [hsame, hstates, hreceipts]
    exact hcompleted

/-! ### A new receipt -/

section Received

variable {args : ReconcileRequest} (reception : Reception hashes db args db')

include reception

theorem Reception.batches_eq : db'.batches = replaceRow (·.id) db.batches reception.after :=
  congrArg ExportDatabase.batches reception.result

theorem Reception.lines_eq : db'.lines = db.lines := by
  rw [congrArg ExportDatabase.lines reception.result]

theorem Reception.receipts_eq :
    db'.receipts = db.receipts ++ [hashes.newReceipt args reception.batch.id reception.payload] :=
  congrArg ExportDatabase.receipts reception.result

theorem Reception.lineEvents_eq : db'.lineEvents = db.lineEvents ++
    reception.payload.outcomes.map (Outcome.event args.receiptId reception.batch.id) :=
  congrArg ExportDatabase.lineEvents reception.result

theorem Reception.lineStates_eq : db'.lineStates =
    (reception.payload.outcomes.map (Outcome.state args.receiptId reception.batch.id)).foldl
      (upsertRow LineState.key) db.lineStates :=
  congrArg ExportDatabase.lineStates reception.result

/-- The new events name distinct lines. -/
theorem Reception.nodup_keys : ((reception.payload.outcomes.map
    (Outcome.event args.receiptId reception.batch.id)).map LineEvent.key).Nodup := by
  rw [List.map_map]
  have hkey : LineEvent.key ∘ Outcome.event args.receiptId reception.batch.id =
      Prod.mk reception.batch.id ∘ Outcome.lineId := rfl
  rw [hkey, ← List.map_map]
  exact reception.outcomes.2.map (Prod.mk_right_injective _)

/-- No event recorded before belongs to the new receipt. -/
theorem Reception.old_events (hmatched : ∀ event ∈ db.lineEvents, db.EventMatches event) :
    ∀ event ∈ db.lineEvents, event.receiptId ≠ args.receiptId := by
  intro event hevent hid
  obtain ⟨receipt, hreceipt, hreceipt_id, _⟩ := hmatched event hevent
  exact (reception.unique receipt hreceipt).1 (hreceipt_id.trans hid)

/-- The new states are the states of the new events. -/
theorem Reception.states_eq :
    reception.payload.outcomes.map (Outcome.state args.receiptId reception.batch.id) =
      (reception.payload.outcomes.map
        (Outcome.event args.receiptId reception.batch.id)).map LineEvent.state := by
  rw [List.map_map]
  rfl

theorem Reception.projected (hprojected : ∀ batchId lineId, db.lineState? batchId lineId =
      (db.eventsOf batchId lineId).getLast?.map LineEvent.state) (batchId lineId : String) :
    db'.lineState? batchId lineId =
      (db'.eventsOf batchId lineId).getLast?.map LineEvent.state := by
  have hkeys := reception.nodup_keys
  have hstateKeys : ((reception.payload.outcomes.map
      (Outcome.state args.receiptId reception.batch.id)).map LineState.key).Nodup := by
    rw [reception.states_eq, List.map_map]
    exact hkeys
  calc db'.lineState? batchId lineId
      = ((reception.payload.outcomes.map
          (Outcome.state args.receiptId reception.batch.id)).find?
            fun state => state.key = (batchId, lineId)).or (db.lineState? batchId lineId) := by
        rw [ExportDatabase.lineState?, reception.lineStates_eq, find?_foldl_upsertRow hstateKeys]
        rfl
    _ = (((reception.payload.outcomes.map
          (Outcome.event args.receiptId reception.batch.id)).find?
            fun event => event.key = (batchId, lineId)).map LineEvent.state).or
          ((db.eventsOf batchId lineId).getLast?.map LineEvent.state) := by
        rw [reception.states_eq, List.find?_map, hprojected]
        rfl
    _ = (db'.eventsOf batchId lineId).getLast?.map LineEvent.state := by
        rw [ExportDatabase.eventsOf, ExportDatabase.eventsOf, reception.lineEvents_eq,
          List.filter_append, List.getLast?_append, getLast?_filter_key hkeys, Option.map_or]

/-- A line state keeps its event as the latest when no new event names its
line. -/
theorem Reception.latest_other {state : LineState}
    (hmatched : ∀ event ∈ db.lineEvents, db.EventMatches event)
    (hother : ∀ event ∈ reception.payload.outcomes.map
      (Outcome.event args.receiptId reception.batch.id), state.key ≠ event.key)
    (hlatest : db.LatestEvent state) : db'.LatestEvent state := by
  obtain ⟨event, hevent, receipt, hreceipt, hid, hbatch, hline, hrest, hstatus, hreason, hnone⟩ :=
    hlatest
  have hevents := reception.lineEvents_eq
  have hreceipts := reception.receipts_eq
  refine ⟨event, ?_, receipt, ?_, hid, hbatch, hline, hrest, hstatus, hreason, ?_⟩
  · rw [hevents]
    exact List.mem_append_left _ hevent
  · rw [hreceipts]
    exact List.mem_append_left _ hreceipt
  · rintro ⟨later, hlater, laterReceipt, hlaterReceipt, hlater_id, hlater_batch, hlater_line,
      hlater_than⟩
    -- A later event of the line is an old one, and its receipt is old as well.
    rw [hevents] at hlater
    rw [hreceipts] at hlaterReceipt
    rcases List.mem_append.mp hlater with hlater | hlater
    · rcases List.mem_append.mp hlaterReceipt with hlaterReceipt | hlaterReceipt
      · exact hnone ⟨later, hlater, laterReceipt, hlaterReceipt, hlater_id, hlater_batch,
          hlater_line, hlater_than⟩
      · rw [List.mem_singleton.mp hlaterReceipt] at hlater_id
        exact reception.old_events hmatched later hlater hlater_id.symm
    · refine hother later hlater ?_
      rw [LineState.key, LineEvent.key, hlater_batch, hlater_line, hbatch, hline]

theorem Reception.payloadOf_old {receipt : Receipt} (hreceipt : receipt ∈ db.receipts) :
    db'.payloadOf receipt = db.payloadOf receipt := by
  have hnew : (reception.payload.outcomes.map (Outcome.event args.receiptId reception.batch.id)).filter
      (fun event => event.receiptId = receipt.id) = [] := by
    rw [List.filter_eq_nil_iff]
    intro event hevent
    obtain ⟨outcome, _, rfl⟩ := List.mem_map.mp hevent
    rw [decide_eq_true_eq]
    exact fun hid => (reception.unique receipt hreceipt).1 hid.symm
  simp only [ExportDatabase.payloadOf]
  rw [reception.lineEvents_eq, List.filter_append, hnew, List.append_nil]

theorem Reception.payloadOf_new (hmatched : ∀ event ∈ db.lineEvents, db.EventMatches event) :
    db'.payloadOf (hashes.newReceipt args reception.batch.id reception.payload) =
      reception.payload := by
  let receipt := hashes.newReceipt args reception.batch.id reception.payload
  have hold : db.lineEvents.filter (fun event => event.receiptId = receipt.id) = [] := by
    rw [List.filter_eq_nil_iff]
    intro event hevent
    rw [decide_eq_true_eq]
    exact reception.old_events hmatched event hevent
  have hnew : (reception.payload.outcomes.map (Outcome.event args.receiptId reception.batch.id)).filter
      (fun event => event.receiptId = receipt.id) =
      reception.payload.outcomes.map (Outcome.event args.receiptId reception.batch.id) := by
    rw [List.filter_eq_self]
    intro event hevent
    obtain ⟨outcome, _, rfl⟩ := List.mem_map.mp hevent
    exact decide_eq_true rfl
  have houtcomes : (reception.payload.outcomes.map
      (Outcome.event args.receiptId reception.batch.id)).map LineEvent.outcome =
      reception.payload.outcomes := by
    rw [List.map_map]
    exact List.map_id _
  rw [ExportDatabase.payloadOf, reception.lineEvents_eq, List.filter_append, hold, List.nil_append,
    hnew, houtcomes]
  rfl

/-- Another batch does not see the receipt. -/
theorem Reception.completed_other {batch : ExportBatch} (hne : batch.id ≠ reception.batch.id)
    (hprojected : ∀ batchId lineId, db.lineState? batchId lineId =
      (db.eventsOf batchId lineId).getLast?.map LineEvent.state)
    (hcompleted : db.Completed batch) : db'.Completed batch := by
  have hevents (lineId : String) : db'.eventsOf batch.id lineId = db.eventsOf batch.id lineId := by
    have hnew : (reception.payload.outcomes.map
        (Outcome.event args.receiptId reception.batch.id)).filter
          (fun event => event.key = (batch.id, lineId)) = [] := by
      rw [List.filter_eq_nil_iff]
      intro event hevent
      obtain ⟨outcome, _, rfl⟩ := List.mem_map.mp hevent
      rw [decide_eq_true_eq, LineEvent.key, Prod.mk.injEq]
      exact fun heq => hne heq.1.symm
    rw [ExportDatabase.eventsOf, reception.lineEvents_eq, List.filter_append, hnew, List.append_nil,
      ExportDatabase.eventsOf]
  have hreceipts : db'.receiptsOf batch.id = db.receiptsOf batch.id := by
    rw [ExportDatabase.receiptsOf, reception.receipts_eq, List.filter_append,
      ExportDatabase.receiptsOf]
    simp [ExportHashes.newReceipt, hne.symm]
  refine ⟨?_, ?_⟩
  · intro line hline
    rw [ExportDatabase.linesOf, reception.lines_eq] at hline
    rw [reception.projected hprojected, hevents, ← hprojected]
    exact hcompleted.1 line hline
  · rw [hreceipts]
    exact hcompleted.2

end Received

theorem Reconciled.received (hreconciled : Reconciled hashes db)
    (hexported : Exported tenantId hashes db) {args : ReconcileRequest}
    (reception : Reception hashes db args db') : Reconciled hashes db' := by
  have hmatched : ∀ event ∈ db'.lineEvents, db'.EventMatches event := by
    intro event hevent
    rw [reception.lineEvents_eq] at hevent
    rcases List.mem_append.mp hevent with hevent | hevent
    · obtain ⟨receipt, hreceipt, hid, hbatch, line, hline, hmatch⟩ :=
        hreconciled.matched event hevent
      refine ⟨receipt, ?_, hid, hbatch, line, ?_, hmatch⟩
      · rw [reception.receipts_eq]
        exact List.mem_append_left _ hreceipt
      · rw [reception.lines_eq]
        exact hline
    · exact reception.matched event hevent
  have hkeys : (db'.lineStates.map LineState.key).Nodup := by
    rw [reception.lineStates_eq]
    exact nodup_keys_foldl_upsertRow hreconciled.stateKeys _
  have hlatest : ∀ state ∈ db'.lineStates, db'.LatestEvent state := by
    intro state hstate
    rw [reception.lineStates_eq] at hstate
    rcases mem_foldl_upsertRow hstate with hnew | ⟨hold, hother⟩
    · exact reception.latest state hnew
    · refine reception.latest_other hreconciled.matched ?_ (hreconciled.latest state hold)
      intro event hevent
      refine hother event.state ?_
      rw [reception.states_eq]
      exact List.mem_map_of_mem hevent
  constructor
  · rw [reception.receipts_eq]
    exact nodup_keys_append hreconciled.receiptIds fun receipt hreceipt =>
      (reception.unique receipt hreceipt).1
  · rw [reception.receipts_eq]
    refine nodup_keys_append hreconciled.providerEvents ?_
    intro receipt hreceipt heq
    exact (reception.unique receipt hreceipt).2 (Prod.mk.inj heq)
  · exact hkeys
  · exact hmatched
  · exact reception.projected hreconciled.projected
  · exact hlatest
  · intro receipt hreceipt
    rw [reception.receipts_eq] at hreceipt
    rcases List.mem_append.mp hreceipt with hreceipt | hreceipt
    · rw [reception.payloadOf_old hreceipt]
      exact hreconciled.digests receipt hreceipt
    · rw [List.mem_singleton.mp hreceipt, reception.payloadOf_new hreconciled.matched]
      rfl
  · intro batch hbatch hstatus
    rw [reception.batches_eq] at hbatch
    rcases mem_replaceRow hbatch with rfl | ⟨hbatch, hne⟩
    · rcases reception.status with hreconciling | ⟨_, hcount, htotal⟩
      · rw [hreconciling] at hstatus
        cases hstatus
      have hafter := reception.snapshot.1
      have hlines : db'.linesOf reception.batch.id = db.linesOf reception.batch.id := by
        rw [ExportDatabase.linesOf, reception.lines_eq, ExportDatabase.linesOf]
      have hevidence := (hexported.evidence reception.batch reception.mem).count
      refine ⟨?_, ?_⟩
      · rw [hafter.1]
        apply accepted_of_count hkeys hmatched hlatest
        rw [hlines]
        omega
      · rw [hafter.1, ExportDatabase.receiptsOf, reception.receipts_eq, List.filter_append]
        have hnew : [hashes.newReceipt args reception.batch.id reception.payload].filter
            (fun receipt => receipt.batchId = reception.batch.id) =
            [hashes.newReceipt args reception.batch.id reception.payload] := by
          simp [ExportHashes.newReceipt]
        rw [hnew, List.getLast?_concat, Option.map_some]
        simp only [ExportHashes.newReceipt, htotal]
        rw [hafter.2.2.2.2.2.2.2.1]
    · refine reception.completed_other ?_ hreconciled.projected
        (hreconciled.completed batch hbatch hstatus)
      rw [← reception.snapshot.1.1]
      exact hne

/-! ### Statuses -/

/-- What one call may do to the status of a batch.  A receipt that finds a
downloaded batch passes through `RECONCILING` and may complete it at once. -/
inductive ExportStatus.Progress : ExportStatus → ExportStatus → Prop
  | stays (status : ExportStatus) : Progress status status
  | downloads : Progress .generated .downloaded
  | starts : Progress .downloaded .reconciling
  | completes : Progress .reconciling .reconciled
  | startsAndCompletes : Progress .downloaded .reconciled

/-- Every batch is kept and its status only advances, where it is completed by the
receipt that the call has recorded; a new batch is `GENERATED`. -/
structure StatusesAdvance (before after : ExportDatabase) : Prop where
  advances : ∀ batch ∈ before.batches, ∃ next ∈ after.batches, next.id = batch.id ∧
    batch.status.Progress next.status
  created : ∀ next ∈ after.batches, (∀ batch ∈ before.batches, batch.id ≠ next.id) →
    next.status = .generated
  completes : ∀ batch ∈ before.batches, ∀ next ∈ after.batches, next.id = batch.id →
    batch.status ≠ .reconciled → next.status = .reconciled →
    ∃ receipt, after.receipts = before.receipts ++ [receipt] ∧ receipt.batchId = next.id ∧
      receipt.providerTotalMinutes = next.totalPayableMinutes

theorem StatusesAdvance.of_eq (hids : (db.batches.map (·.id)).Nodup)
    (h : db'.batches = db.batches) : StatusesAdvance db db' := by
  refine ⟨?_, ?_, ?_⟩
  · intro batch hbatch
    rw [h]
    exact ⟨batch, hbatch, rfl, .stays _⟩
  · intro next hnext hnew
    rw [h] at hnext
    exact absurd rfl (hnew next hnext)
  · intro batch hbatch next hnext hid hunfinished hfinished
    rw [h] at hnext
    rw [eq_of_key hids hnext hbatch hid] at hfinished
    exact absurd hfinished hunfinished

/-- The update of one batch. -/
theorem StatusesAdvance.of_replaced (hids : (db.batches.map (·.id)).Nodup) {old new : ExportBatch}
    (hmem : old ∈ db.batches) (hid : new.id = old.id)
    (hprogress : old.status.Progress new.status)
    (h : db'.batches = replaceRow (·.id) db.batches new)
    (hcompletes : new.status = .reconciled →
      ∃ receipt, db'.receipts = db.receipts ++ [receipt] ∧ receipt.batchId = new.id ∧
        receipt.providerTotalMinutes = new.totalPayableMinutes) : StatusesAdvance db db' := by
  refine ⟨?_, ?_, ?_⟩
  · intro batch hbatch
    rw [h]
    by_cases heq : batch.id = new.id
    · rw [eq_of_key hids hbatch hmem (heq.trans hid)]
      exact ⟨new, new_mem_replaceRow hmem hid.symm, hid, hprogress⟩
    · exact ⟨batch, mem_replaceRow_of_ne hbatch heq, rfl, .stays _⟩
  · intro next hnext hnew
    rw [h] at hnext
    rcases mem_replaceRow hnext with rfl | ⟨hold, _⟩
    · exact absurd hid.symm (hnew old hmem)
    · exact absurd rfl (hnew next hold)
  · intro batch hbatch next hnext hnext_id hunfinished hfinished
    rw [h] at hnext
    rcases mem_replaceRow hnext with rfl | ⟨hold, _⟩
    · exact hcompletes hfinished
    · rw [eq_of_key hids hold hbatch hnext_id] at hfinished
      exact absurd hfinished hunfinished

theorem Reception.progress {args : ReconcileRequest} (reception : Reception hashes db args db') :
    reception.batch.status.Progress reception.after.status := by
  have hstarted := reception.started
  have hunfinished := reception.unfinished
  rcases reception.status with hafter | ⟨hafter, _⟩
  all_goals rw [hafter]
  all_goals cases hstatus : reception.batch.status with
    | generated => exact absurd hstatus hstarted
    | downloaded => constructor
    | reconciling => constructor
    | reconciled => exact absurd hstatus hunfinished

/-- Every write keeps the invariant and lets the statuses advance only. -/
theorem Reconciled.write (hreconciled : Reconciled hashes db)
    (hexported : Exported tenantId hashes db) {event : ExportEvent}
    (h : ExportWrite tenantId hashes isControl db event db') :
    Reconciled hashes db' ∧ StatusesAdvance db db' := by
  have hids := hexported.batchIds
  cases h with
  | same => exact ⟨hreconciled, .of_eq hids rfl⟩
  | created _ creation =>
      have hbatches := creation.batches_eq
      have hgenerated : creation.batch.status = .generated := rfl
      refine ⟨?_, ?_, ?_, ?_⟩
      · refine hreconciled.around ?_ ?_ ?_ ?_ ?_
        · rw [congrArg ExportDatabase.receipts creation.db_eq]
        · rw [congrArg ExportDatabase.lineEvents creation.db_eq]
        · rw [congrArg ExportDatabase.lineStates creation.db_eq]
        · intro line hline
          rw [creation.lines_eq]
          exact List.mem_append_left _ hline
        · intro batch hbatch hstatus
          rw [hbatches] at hbatch
          rcases List.mem_append.mp hbatch with hold | hnew
          · exact ⟨hold, creation.linesOf_other hold⟩
          · rw [List.mem_singleton.mp hnew, hgenerated] at hstatus
            cases hstatus
      · intro batch hbatch
        rw [hbatches]
        exact ⟨batch, List.mem_append_left _ hbatch, rfl, .stays _⟩
      · intro next hnext hnew
        rw [hbatches] at hnext
        rcases List.mem_append.mp hnext with hold | hlast
        · exact absurd rfl (hnew next hold)
        · rw [List.mem_singleton.mp hlast, hgenerated]
      · intro batch hbatch next hnext hid hunfinished hfinished
        rw [hbatches] at hnext
        rcases List.mem_append.mp hnext with hold | hlast
        · rw [eq_of_key hids hold hbatch hid] at hfinished
          exact absurd hfinished hunfinished
        · rw [List.mem_singleton.mp hlast, hgenerated] at hfinished
          cases hfinished
  | @downloaded batch hmem hgenerated =>
      refine ⟨?_, ?_⟩
      · refine hreconciled.around rfl rfl rfl (fun _ hline => hline) ?_
        intro other hother hstatus
        rcases mem_replaceRow hother with rfl | ⟨hold, _⟩
        · cases hstatus
        · exact ⟨hold, rfl⟩
      · refine .of_replaced hids hmem ?_ ?_ rfl ?_
        · rfl
        · rw [hgenerated]
          exact .downloads
        · intro hstatus
          cases hstatus
  | received _ reception =>
      refine ⟨hreconciled.received hexported reception, ?_⟩
      have hsnapshot := reception.snapshot.1
      refine .of_replaced hids reception.mem hsnapshot.1 reception.progress reception.batches_eq ?_
      intro hfinished
      rcases reception.status with hafter | ⟨_, _, htotal⟩
      · rw [hafter] at hfinished
        cases hfinished
      · refine ⟨_, reception.receipts_eq, hsnapshot.1.symm, ?_⟩
        exact htotal.trans hsnapshot.2.2.2.2.2.2.2.1.symm
  | payroll _ =>
      exact ⟨hreconciled.around rfl rfl rfl (fun _ hline => hline) fun _ hbatch _ => ⟨hbatch, rfl⟩,
        .of_eq hids rfl⟩
  | wallet _ =>
      exact ⟨hreconciled.around rfl rfl rfl (fun _ hline => hline) fun _ hbatch _ => ⟨hbatch, rfl⟩,
        .of_eq hids rfl⟩
  | register _ =>
      exact ⟨hreconciled.around rfl rfl rfl (fun _ hline => hline) fun _ hbatch _ => ⟨hbatch, rfl⟩,
        .of_eq hids rfl⟩

theorem Reconciled.step (hreconciled : Reconciled hashes db)
    (hexported : Exported tenantId hashes db) (event : ExportEvent) :
    Reconciled hashes (exportStep tenantId hashes isControl db event).2 ∧
      StatusesAdvance db (exportStep tenantId hashes isControl db event).2 :=
  exportStep_of_write event hexported.batchIds hexported.lineIds hexported.states
    fun _ hwrite => hreconciled.write hexported hwrite

end Invariant

/-! ## Repeated events -/

/-- The batch and the payload with internal identifiers that a request stands
for. -/
def ExportDatabase.Resolves (db : ExportDatabase) (args : ReconcileRequest) (batch : ExportBatch)
    (payload : ReconciliationPayload) : Prop :=
  ∃ publicId publicPayload, requiredPublicId args.publicExportId "payroll_export" = .ok publicId ∧
    db.batches.find? (·.publicId = publicId.toLower) = some batch ∧
    normalizeReconciliation args.body = .ok publicPayload ∧
    db.internalReconciliationPayload batch.id publicPayload = .ok payload

/-- The request names the provider's event of a receipt. -/
def ReconcileRequest.Repeats (args : ReconcileRequest) (receipt : Receipt) : Prop :=
  ∃ publicPayload, normalizeReconciliation args.body = .ok publicPayload ∧
    publicPayload.provider = receipt.provider ∧
    publicPayload.providerEventId = receipt.providerEventId

/-- Two different inputs of `reconciliationPayloadSha256` have the same digest. -/
def ExportHashes.Collide (hashes : ExportHashes)
    (first second : String × String × ReconciliationPayload) : Prop :=
  first ≠ second ∧ hashes.reconciliation first.1 first.2.1 first.2.2 =
    hashes.reconciliation second.1 second.2.1 second.2.2

section Replays

variable {tenantId : String} {hashes : ExportHashes} {isControl : Char → Bool}
  {db db' : ExportDatabase} {args : ReconcileRequest} {receipt : Receipt} {batch : ExportBatch}
  {payload : ReconciliationPayload}

theorem provider_of_internal {publicPayload : ReconciliationPayload}
    (h : db.internalReconciliationPayload batch.id publicPayload = .ok payload) :
    payload.provider = publicPayload.provider ∧
      payload.providerEventId = publicPayload.providerEventId := by
  simp only [ExportDatabase.internalReconciliationPayload, bind_eq_ok, ensure_eq_ok] at h
  obtain ⟨_, _, _, _, _, _, h⟩ := h
  obtain rfl := Except.ok.inj h
  exact ⟨rfl, rfl⟩

/-- An accepted request names a batch and lines of it. -/
theorem resolves_of_reconcileExport (h : db.reconcileExport tenantId hashes args = .ok db') :
    ∃ batch payload, db.Resolves args batch payload := by
  obtain ⟨publicId, hpublic, h⟩ := bind_eq_ok.mp h
  split at h
  · cases h
  · rename_i batch hbatch
    obtain ⟨publicPayload, hnormalized, h⟩ := bind_eq_ok.mp h
    obtain ⟨payload, hpayload, _⟩ := bind_eq_ok.mp h
    exact ⟨batch, payload, publicId, publicPayload, hpublic, hbatch, hnormalized, hpayload⟩

/-- A repeated event is compared with the receipt it repeats and writes
nothing. -/
theorem Reconciled.replay (hreconciled : Reconciled hashes db) (hreceipt : receipt ∈ db.receipts)
    (hrepeats : args.Repeats receipt) (hresolves : db.Resolves args batch payload) :
    db.reconcileExport tenantId hashes args =
      if receipt.batchId = batch.id ∧
          receipt.payloadSha256 = (hashes.reconciliation args.actorUserId batch.id payload).val then
        .ok db
      else .error (.problem 409 "idempotency_conflict") := by
  obtain ⟨publicId, publicPayload, hpublic, hbatch, hnormalized, hpayload⟩ := hresolves
  obtain ⟨_, hsame, hprovider, hevent⟩ := hrepeats
  obtain rfl := Except.ok.inj (hnormalized.symm.trans hsame)
  obtain ⟨hpayload_provider, hpayload_event⟩ := provider_of_internal hpayload
  have hfind : db.receipts.find? (fun other => other.provider = payload.provider ∧
      other.providerEventId = payload.providerEventId) = some receipt := by
    have hkey := find?_key hreconciled.providerEvents hreceipt
    simp only [Prod.mk.injEq] at hkey
    rw [hpayload_provider, hpayload_event, hprovider, hevent]
    exact hkey
  simp only [ExportDatabase.reconcileExport, hpublic, hbatch, hnormalized, ok_bind,
    ExportDatabase.reconcileBatch, hpayload, hfind]

/-- What a repeated event does: nothing.  It is accepted when the batch, the
payload and the actor are those of the receipt, and refused when the batch or the
payload is another, unless the two have the same digest. -/
structure Replays (tenantId : String) (hashes : ExportHashes) (isControl : Char → Bool)
    (db : ExportDatabase) (event : ExportEvent) (args : ReconcileRequest) (receipt : Receipt) :
    Prop where
  unchanged : (exportStep tenantId hashes isControl db event).2 = db
  unresolved : (¬ ∃ batch payload, db.Resolves args batch payload) →
    (exportStep tenantId hashes isControl db event).1.isSome = true
  accepted : ∀ batch payload, db.Resolves args batch payload → event.authorised = true →
    (args.actorUserId, batch.id, payload) =
      (receipt.receivedByUserId, receipt.batchId, db.payloadOf receipt) →
    (exportStep tenantId hashes isControl db event).1 = none
  refused : ∀ batch payload, db.Resolves args batch payload →
    (batch.id, payload) ≠ (receipt.batchId, db.payloadOf receipt) →
    (exportStep tenantId hashes isControl db event).1.isSome = true ∨
      hashes.Collide (args.actorUserId, batch.id, payload)
        (receipt.receivedByUserId, receipt.batchId, db.payloadOf receipt)

/-- A step whose command is refused changes nothing and tells so. -/
theorem exportStep_of_error {event : ExportEvent} {problem : Problem}
    (h : event.command.run tenantId hashes isControl db event.now = .error problem) :
    (exportStep tenantId hashes isControl db event).2 = db ∧
      (exportStep tenantId hashes isControl db event).1.isSome = true := by
  unfold exportStep
  split
  · rename_i next hnext
    obtain ⟨_, _, hrun⟩ := bind_eq_ok.mp hnext
    rw [h] at hrun
    cases hrun
  · exact ⟨rfl, rfl⟩

/-- A step whose command writes nothing changes nothing, and is accepted when the
session has its authority. -/
theorem exportStep_of_same {event : ExportEvent}
    (h : event.command.run tenantId hashes isControl db event.now = .ok db) :
    (exportStep tenantId hashes isControl db event).2 = db ∧
      (event.authorised = true → (exportStep tenantId hashes isControl db event).1 = none) := by
  unfold exportStep
  by_cases hauthorised : event.authorised = true
  · rw [ensure_of_true _ hauthorised, ok_bind, h]
    exact ⟨rfl, fun _ => rfl⟩
  · split
    · rename_i next hnext
      obtain ⟨_, hallowed, _⟩ := bind_eq_ok.mp hnext
      exact absurd (ensure_eq_ok.mp hallowed) hauthorised
    · exact ⟨rfl, fun h => absurd h hauthorised⟩

theorem Reconciled.replays (hreconciled : Reconciled hashes db) {event : ExportEvent}
    (hcommand : event.command = .reconcileExport args) (hreceipt : receipt ∈ db.receipts)
    (hrepeats : args.Repeats receipt) :
    Replays tenantId hashes isControl db event args receipt := by
  have hrun : event.command.run tenantId hashes isControl db event.now =
      db.reconcileExport tenantId hashes args := by
    rw [hcommand]
    rfl
  have hdigest := hreconciled.digests receipt hreceipt
  have hunresolved (hnone : ¬ ∃ batch payload, db.Resolves args batch payload) :
      (exportStep tenantId hashes isControl db event).2 = db ∧
        (exportStep tenantId hashes isControl db event).1.isSome = true := by
    cases hresult : db.reconcileExport tenantId hashes args with
    | error problem => exact exportStep_of_error (hrun.trans hresult)
    | ok next => exact absurd (resolves_of_reconcileExport hresult) hnone
  constructor
  case unresolved => exact fun hnone => (hunresolved hnone).2
  case unchanged =>
    by_cases hresolves : ∃ batch payload, db.Resolves args batch payload
    · obtain ⟨batch, payload, hresolves⟩ := hresolves
      have hreplay := hrun.trans (hreconciled.replay hreceipt hrepeats hresolves)
      split at hreplay
      · exact (exportStep_of_same hreplay).1
      · exact (exportStep_of_error hreplay).1
    · exact (hunresolved hresolves).1
  case accepted =>
    intro batch payload hresolves hauthorised hsame
    simp only [Prod.mk.injEq] at hsame
    obtain ⟨hactor, hbatch, hpayload⟩ := hsame
    have hreplay := hrun.trans (hreconciled.replay hreceipt hrepeats hresolves)
    rw [hactor, hbatch, hpayload, if_pos ⟨rfl, hdigest⟩] at hreplay
    exact (exportStep_of_same hreplay).2 hauthorised
  case refused =>
    intro batch payload hresolves hother
    have hreplay := hrun.trans (hreconciled.replay hreceipt hrepeats hresolves)
    split at hreplay
    · rename_i hsame
      refine .inr ⟨?_, ?_⟩
      · intro heq
        exact hother (congrArg Prod.snd heq)
      · apply Subtype.ext
        exact hsame.2.symm.trans hdigest
    · exact .inl (exportStep_of_error hreplay).2

end Replays

/-! ## Runs -/

/-- Reconciliation is a state machine.  In every run: a call that fails changes
nothing; the status of a batch only advances, and a call that completes a batch
has recorded a receipt with the minutes of the batch; a reconciled batch has
`rowCount` lines that are all accepted, and its last receipt reported its minutes;
the state of a line is the outcome of the last receipt that names it, which is
also the latest by time; and a repeated event of a provider changes nothing,
whether it is accepted as a replay or refused. -/
theorem payroll_reconciliation (tenantId : String) (hashes : ExportHashes)
    (isControl : Char → Bool) (payroll : Database) (store : Store) (directory : Directory)
    (hids : (store.ledger.map (·.id)).Nodup)
    (hfresh : ∀ row ∈ store.ledger, isExportTransactionId row.id = false)
    (events : List ExportEvent) :
    (∀ t ∈ trace (exportStep tenantId hashes isControl) (.initial payroll store directory) events,
      (t.answer.isSome = true → t.after = t.before) ∧ StatusesAdvance t.before t.after) ∧
    ∀ db, final (exportStep tenantId hashes isControl) (.initial payroll store directory) events =
        db →
      (∀ batch ∈ db.batches, batch.status = .reconciled →
        ((db.linesOf batch.id).length : Int) = batch.rowCount ∧ db.Completed batch) ∧
      (∀ batchId lineId,
        db.lineState? batchId lineId =
          (db.eventsOf batchId lineId).getLast?.map LineEvent.state ∧
        ∀ state ∈ db.lineState? batchId lineId, db.LatestEvent state) ∧
      ∀ event args receipt, event.command = .reconcileExport args → receipt ∈ db.receipts →
        args.Repeats receipt → Replays tenantId hashes isControl db event args receipt := by
  have hinitial : Exported tenantId hashes (.initial payroll store directory) ∧
      Reconciled hashes (.initial payroll store directory) :=
    ⟨exported_initial payroll directory hids hfresh, reconciled_initial payroll store directory⟩
  have hstep : ∀ db event, Exported tenantId hashes db ∧ Reconciled hashes db →
      Exported tenantId hashes (exportStep tenantId hashes isControl db event).2 ∧
        Reconciled hashes (exportStep tenantId hashes isControl db event).2 :=
    fun db event h => ⟨(h.1.step event).1, (h.2.step h.1 event).1⟩
  refine ⟨?_, ?_⟩
  · intro t ht
    obtain ⟨⟨hexported, hreconciled⟩, heq⟩ := invariant_of_mem_trace
      (fun db => Exported tenantId hashes db ∧ Reconciled hashes db) hstep hinitial ht
    rw [heq]
    refine ⟨?_, (hreconciled.step hexported t.request).2⟩
    intro hfailed
    simp only [transition] at hfailed ⊢
    unfold exportStep at hfailed ⊢
    split at hfailed
    · cases hfailed
    · rfl
  · rintro db rfl
    obtain ⟨hexported, hreconciled⟩ := invariant_final
      (fun db => Exported tenantId hashes db ∧ Reconciled hashes db) hstep hinitial events
    refine ⟨?_, ?_, ?_⟩
    · intro batch hbatch hstatus
      exact ⟨(hexported.evidence batch hbatch).count, hreconciled.completed batch hbatch hstatus⟩
    · intro batchId lineId
      refine ⟨hreconciled.projected batchId lineId, ?_⟩
      intro state hstate
      exact hreconciled.latest state (List.mem_of_find?_eq_some hstate)
    · intro event args receipt hcommand hreceipt hrepeats
      exact hreconciled.replays hcommand hreceipt hrepeats

namespace Sample

def downloadFirst : ExportEvent := ⟨1, true, .downloadExport batchUuid⟩

/-- The provider accepts the only line and reports eight hours. -/
def acceptFirst : ExportEvent := ⟨2, true, .reconcileExport ⟨"manager", batchUuid,
  ⟨"provider", "event", .integer 480, [⟨lineUuid, .accepted, none⟩]⟩, "receipt", 2, 2⟩⟩

/-- The receipt completes the batch. -/
theorem first_export_reconciled :
    ∃ batch ∈ (exportsAfter [exportFirst, downloadFirst, acceptFirst]).batches,
      batch.status = .reconciled ∧
      (exportsAfter [exportFirst, downloadFirst, acceptFirst]).Completed batch := by
  have hreconciled : (exportsAfter [exportFirst, downloadFirst, acceptFirst]).batches.map
      (·.status) = [.reconciled] := by decide +kernel
  obtain ⟨batch, hbatch, hstatus⟩ : ∃ batch ∈ (exportsAfter [exportFirst, downloadFirst,
      acceptFirst]).batches, batch.status = .reconciled := by
    have hmem : ExportStatus.reconciled ∈ (exportsAfter [exportFirst, downloadFirst,
        acceptFirst]).batches.map (·.status) := by simp [hreconciled]
    exact List.mem_map.mp hmem
  refine ⟨batch, hbatch, hstatus, ?_⟩
  exact (((payroll_reconciliation "tenant" exportHashes (fun _ => false) lockedPayroll purse
    publicNames (by decide) (by decide) [exportFirst, downloadFirst, acceptFirst]).2 _ rfl).1 batch
      hbatch hstatus).2

end Sample

end LunchLineup.Payroll
