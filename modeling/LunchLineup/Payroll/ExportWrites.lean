import LunchLineup.Payroll.Exports
import LunchLineup.Lib.Run

/-!
# What the export commands write

An accepted command is one of a few writes: a new batch with its lines and its
debit (`Creation`), a batch that is marked as downloaded, a receipt with its
events and line states (`Reception`), or a move of the tables around the export
(`ExportWrite`).  The invariants of the following modules are proved for each of
these once.
-/

namespace LunchLineup.Payroll

open LunchLineup.Lib LunchLineup.Billing

namespace ExportDatabase

variable {db db' : ExportDatabase}

/-! ## Statements -/

theorem insertBatch_ok {batch : ExportBatch} (h : db.insertBatch batch = .ok db') :
    (∃ period ∈ db.payroll.periods, period.id = batch.periodId) ∧ batch.ValuesValid ∧
      batch.StateValid ∧
      (∀ other ∈ db.batches, other.id ≠ batch.id ∧ other.publicId ≠ batch.publicId ∧
        other.periodId ≠ batch.periodId ∧ other.operationId ≠ batch.operationId) ∧
      db' = { db with batches := db.batches ++ [batch] } := by
  simp only [insertBatch, bind_eq_ok, ensure_eq_ok] at h
  obtain ⟨_, hperiod, _, hvalues, _, _, _, hunique, h⟩ := h
  exact ⟨hperiod, hvalues.1, hvalues.2, hunique, (Except.ok.inj h).symm⟩

theorem insertLine_ok {line : ExportLine} (h : db.insertLine line = .ok db') :
    (∀ other ∈ db.lines, other.id ≠ line.id ∧ other.publicId ≠ line.publicId) ∧
      db' = { db with lines := db.lines ++ [line] } := by
  simp only [insertLine, bind_eq_ok, ensure_eq_ok] at h
  obtain ⟨_, _, _, _, _, hunique, h⟩ := h
  exact ⟨fun other hother => ⟨(hunique other hother).1, (hunique other hother).2.1⟩,
    (Except.ok.inj h).symm⟩

theorem insertLines_ok {lines : List ExportLine} (h : db.insertLines lines = .ok db') :
    db' = { db with lines := db.lines ++ lines } ∧
      ((db.lines.map (·.id)).Nodup → (db'.lines.map (·.id)).Nodup) := by
  induction lines generalizing db with
  | nil =>
      obtain rfl := Except.ok.inj h
      simp
  | cons line rest ih =>
      obtain ⟨middle, hinsert, hrest⟩ := bind_eq_ok.mp h
      obtain ⟨hunique, rfl⟩ := insertLine_ok hinsert
      obtain ⟨hrows, hnodup⟩ := ih hrest
      refine ⟨?_, ?_⟩
      · simpa using hrows
      · intro hids
        exact hnodup (nodup_keys_append hids fun other hother => (hunique other hother).1)

theorem updateBatch_ok {old new : ExportBatch} (h : db.updateBatch old new = .ok db') :
    old.SameSnapshot new ∧ old.status.Advances new.status ∧ new.StateValid ∧
      db' = { db with batches := replaceRow (·.id) db.batches new } := by
  simp only [updateBatch, bind_eq_ok, ensure_eq_ok] at h
  obtain ⟨_, hsnapshot, _, _, _, hadvances, _, hstate, h⟩ := h
  exact ⟨hsnapshot, hadvances, hstate, (Except.ok.inj h).symm⟩

theorem insertReceipt_ok {receipt : Receipt} (h : db.insertReceipt receipt = .ok db') :
    (∀ other ∈ db.receipts, other.id ≠ receipt.id ∧
      ¬ (other.provider = receipt.provider ∧ other.providerEventId = receipt.providerEventId)) ∧
      db' = { db with receipts := db.receipts ++ [receipt] } := by
  simp only [insertReceipt, bind_eq_ok, ensure_eq_ok] at h
  obtain ⟨_, _, _, _, _, hunique, h⟩ := h
  exact ⟨hunique, (Except.ok.inj h).symm⟩

/-- The receipt and the line of an event belong to its batch. -/
def EventMatches (db : ExportDatabase) (event : LineEvent) : Prop :=
  ∃ receipt ∈ db.receipts, receipt.id = event.receiptId ∧ receipt.batchId = event.batchId ∧
    ∃ line ∈ db.lines, line.batchId = event.batchId ∧ line.id = event.lineId

theorem insertLineEvents_ok {events : List LineEvent} (h : db.insertLineEvents events = .ok db') :
    db' = { db with lineEvents := db.lineEvents ++ events } ∧
      ∀ event ∈ events, db.EventMatches event := by
  induction events generalizing db with
  | nil =>
      obtain rfl := Except.ok.inj h
      simp
  | cons event rest ih =>
      obtain ⟨middle, hinsert, hrest⟩ := bind_eq_ok.mp h
      simp only [insertLineEvent, bind_eq_ok, ensure_eq_ok] at hinsert
      obtain ⟨_, hmatches, _, _, _, _, hinsert⟩ := hinsert
      obtain rfl := Except.ok.inj hinsert
      obtain ⟨hrows, hevents⟩ := ih hrest
      refine ⟨by simpa using hrows, ?_⟩
      intro other hother
      rcases List.mem_cons.mp hother with rfl | hother
      · exact hmatches
      · exact hevents other hother

theorem upsertLineStates_ok {states : List LineState} (h : db.upsertLineStates states = .ok db') :
    db' = { db with lineStates := states.foldl (upsertRow LineState.key) db.lineStates } ∧
      ∀ state ∈ states, db.LatestEvent state := by
  induction states generalizing db with
  | nil =>
      obtain rfl := Except.ok.inj h
      simp
  | cons state rest ih =>
      obtain ⟨middle, hupsert, hrest⟩ := bind_eq_ok.mp h
      simp only [upsertLineState, bind_eq_ok, ensure_eq_ok] at hupsert
      obtain ⟨_, hlatest, hupsert⟩ := hupsert
      obtain rfl := Except.ok.inj hupsert
      obtain ⟨hrows, hstates⟩ := ih hrest
      refine ⟨by simpa using hrows, ?_⟩
      intro other hother
      rcases List.mem_cons.mp hother with rfl | hother
      · exact hlatest
      · exact hstates other hother

end ExportDatabase

/-! ## A new export -/

/-- A transaction that creates an export: what it read, built and wrote. -/
structure Creation (tenantId : String) (hashes : ExportHashes) (db : ExportDatabase)
    (args : ExportRequest) (db' : ExportDatabase) where
  period : Period
  creditCost : Int
  entries : List LockedEntry
  totalPayableMinutes : Int
  lines : List (CsvLine × ExportLine)
  csv : String
  settlement : CreditDebitSettlement
  store : Store
  middle : ExportDatabase
  fresh : ∀ batch ∈ db.batches, batch.operationId ≠ args.request.operationId
  periodId : period.id = args.periodId
  cost : args.expectedCreditCost = .integer creditCost
  bounded : 1 ≤ entries.length ∧ entries.length ≤ maxPayrollLockEntries
  total : (entries.map (·.payableMinutes)).sum = totalPayableMinutes
  safe : IsSafeInteger totalPayableMinutes
  built : hashes.exportLines db.directory (hashes.batchId args.request.operationId)
    args.publicLineId entries = .ok lines
  file : buildPayrollCsv (lines.map Prod.fst) = .ok csv
  debited : db.debitExport tenantId args period creditCost = .ok (settlement, store)
  consumed : settlement.consumedCredits = creditCost
  inserted : { db with store := store }.insertBatch (hashes.newBatch args period csv lines.length
    totalPayableMinutes settlement) = .ok middle
  written : middle.insertLines (lines.map Prod.snd) = .ok db'

/-- The batch of a new export. -/
def Creation.batch {tenantId : String} {hashes : ExportHashes} {db db' : ExportDatabase}
    {args : ExportRequest} (creation : Creation tenantId hashes db args db') : ExportBatch :=
  hashes.newBatch args creation.period creation.csv creation.lines.length
    creation.totalPayableMinutes creation.settlement

/-! ## A new receipt -/

/-- A transaction that records a receipt of a batch. -/
structure Reception (hashes : ExportHashes) (db : ExportDatabase) (args : ReconcileRequest)
    (db' : ExportDatabase) where
  batch : ExportBatch
  payload : ReconciliationPayload
  mem : batch ∈ db.batches
  started : batch.status ≠ .generated
  unfinished : batch.status ≠ .reconciled
  unique : ∀ other ∈ db.receipts, other.id ≠ args.receiptId ∧
    ¬ (other.provider = payload.provider ∧ other.providerEventId = payload.providerEventId)
  outcomes : payload.outcomes ≠ [] ∧ (payload.outcomes.map (·.lineId)).Nodup
  /-- The batch as the transaction leaves it. -/
  after : ExportBatch
  snapshot : batch.SameSnapshot after ∧ after.publicId = batch.publicId ∧ after.StateValid
  result : db' = { db with
    batches := replaceRow (·.id) db.batches after
    receipts := db.receipts ++ [hashes.newReceipt args batch.id payload]
    lineEvents := db.lineEvents ++
      payload.outcomes.map (Outcome.event args.receiptId batch.id)
    lineStates := (payload.outcomes.map (Outcome.state args.receiptId batch.id)).foldl
      (upsertRow LineState.key) db.lineStates }
  status : (after.status = .reconciling) ∨ (after.status = .reconciled ∧
    (db'.acceptedLines batch.id : Int) = batch.rowCount ∧
    payload.providerTotalMinutes = batch.totalPayableMinutes)
  matched : ∀ event ∈ payload.outcomes.map (Outcome.event args.receiptId batch.id),
    db'.EventMatches event
  latest : ∀ state ∈ payload.outcomes.map (Outcome.state args.receiptId batch.id),
    db'.LatestEvent state

/-! ## Writes -/

/-- What the committed transaction of an event has written. -/
inductive ExportWrite (tenantId : String) (hashes : ExportHashes) (isControl : Char → Bool)
    (db : ExportDatabase) (event : ExportEvent) : ExportDatabase → Prop
  | same : ExportWrite tenantId hashes isControl db event db
  | created {db' : ExportDatabase} {args : ExportRequest}
      (hcommand : event.command = .createExport args)
      (creation : Creation tenantId hashes db args db') :
      ExportWrite tenantId hashes isControl db event db'
  | downloaded {batch : ExportBatch} (hmem : batch ∈ db.batches)
      (hgenerated : batch.status = .generated) :
      ExportWrite tenantId hashes isControl db event { db with
        batches := replaceRow (·.id) db.batches
          { batch with status := .downloaded, downloadedAt := some event.now } }
  | received {db' : ExportDatabase} {args : ReconcileRequest}
      (hcommand : event.command = .reconcileExport args)
      (reception : Reception hashes db args db') :
      ExportWrite tenantId hashes isControl db event db'
  | payroll {next : Database}
      (hkept : ∀ period ∈ db.payroll.periods, ∃ kept ∈ next.periods, kept.id = period.id) :
      ExportWrite tenantId hashes isControl db event { db with payroll := next }
  | wallet {request : WalletRequest}
      (hid : ∀ id ∈ request.call.transactionId, isExportTransactionId id = false) :
      ExportWrite tenantId hashes isControl db event
        { db with store := (commit isControl db.store request).2 }
  | register {reference : Reference} {publicId : String}
      (hfresh : Dict.get? db.directory reference = none) :
      ExportWrite tenantId hashes isControl db event
        { db with directory := db.directory ++ [(reference, publicId)] }

section Commands

variable {tenantId : String} {hashes : ExportHashes} {isControl : Char → Bool}
  {db db' : ExportDatabase}

/-- An accepted `createExport` is a replay or a new export. -/
theorem creation_of_createExport {args : ExportRequest}
    (h : db.createExport tenantId hashes args = .ok db') :
    db' = db ∨ Nonempty (Creation tenantId hashes db args db') := by
  unfold ExportDatabase.createExport at h
  split at h
  · simp only [bind_eq_ok, ensure_eq_ok] at h
    obtain ⟨_, _, _, _, h⟩ := h
    exact .inl (Except.ok.inj h).symm
  · rename_i hnone
    simp only [bind_eq_ok, ensure_eq_ok] at h
    obtain ⟨period, hperiod, _, _, _, _, creditCost, _, _, hcost, ⟨entries, total⟩, hentries, lines,
      hlines, csv, hcsv, ⟨settlement, store⟩, hdebit, _, hsettled, h⟩ := h
    have hid : period.id = args.periodId := by
      unfold Database.requirePeriodById at hperiod
      split at hperiod
      · cases hperiod
      · rename_i found hfound
        obtain rfl := Except.ok.inj hperiod
        simpa using List.find?_some hfound
    have hfresh : ∀ batch ∈ db.batches, batch.operationId ≠ args.request.operationId := by
      intro batch hbatch
      simpa using List.find?_eq_none.mp hnone batch hbatch
    unfold ExportDatabase.exportableEntries at hentries
    split at hentries
    · cases hentries
    · simp only [bind_eq_ok, ensure_eq_ok] at hentries
      obtain ⟨_, hcount, _, htotal, _, _, _, _, hentries⟩ := hentries
      obtain ⟨rfl, rfl⟩ := Prod.mk.inj (Except.ok.inj hentries)
      simp only [ExportDatabase.writeExport, bind_eq_ok, ensure_eq_ok] at h
      obtain ⟨middle, hinserted, last, hwritten, _, _, _, _, h⟩ := h
      obtain rfl := Except.ok.inj h
      exact .inr ⟨⟨period, creditCost, _, _, lines, csv, settlement, store, middle, hfresh, hid,
        hcost, ⟨hcount.1, hcount.2.1⟩, rfl, htotal.1, hlines, hcsv, hdebit, hsettled.1, hinserted,
        hwritten⟩⟩

theorem mem_of_batch? {publicId : String} {batch : ExportBatch}
    (h : db.batches.find? (·.publicId = publicId) = some batch) :
    batch ∈ db.batches ∧ batch.publicId = publicId := by
  refine ⟨List.mem_of_find?_eq_some h, ?_⟩
  simpa using List.find?_some h

/-- An accepted `downloadExport` marks a batch as downloaded, or only reads. -/
theorem downloaded_of_downloadExport {now : Int} {publicExportId content : String}
    (h : db.downloadExport tenantId hashes now publicExportId = .ok (content, db')) :
    db' = db ∨ ∃ batch ∈ db.batches, batch.status = .generated ∧ db' = { db with
      batches := replaceRow (·.id) db.batches
        { batch with status := .downloaded, downloadedAt := some now } } := by
  obtain ⟨publicId, _, h⟩ := bind_eq_ok.mp h
  split at h
  · cases h
  · rename_i batch hbatch
    simp only [ExportDatabase.downloadBatch, bind_eq_ok, ensure_eq_ok] at h
    obtain ⟨_, _, _, _, content, _, h⟩ := h
    split at h
    · rename_i hgenerated
      simp only [bind_eq_ok, ensure_eq_ok] at h
      obtain ⟨middle, hupdate, _, _, h⟩ := h
      obtain ⟨_, rfl⟩ := Prod.mk.inj (Except.ok.inj h)
      obtain ⟨_, _, _, rfl⟩ := ExportDatabase.updateBatch_ok hupdate
      exact .inr ⟨batch, (mem_of_batch? hbatch).1, hgenerated, rfl⟩
    · obtain ⟨_, rfl⟩ := Prod.mk.inj (Except.ok.inj h)
      exact .inl rfl

/-- The outcomes of a payload name distinct lines, as they name distinct public
identifiers of lines. -/
theorem outcomes_of_internal {batchId : String} {publicPayload payload : ReconciliationPayload}
    (h : db.internalReconciliationPayload batchId publicPayload = .ok payload)
    (hnonempty : publicPayload.outcomes ≠ [])
    (hdistinct : (publicPayload.outcomes.map (·.lineId)).Nodup)
    (hids : (db.lines.map (·.id)).Nodup) :
    payload.outcomes ≠ [] ∧ (payload.outcomes.map (·.lineId)).Nodup := by
  simp only [ExportDatabase.internalReconciliationPayload, bind_eq_ok, ensure_eq_ok] at h
  obtain ⟨publicLineIds, _, _, _, outcomes, houtcomes, h⟩ := h
  obtain rfl := Except.ok.inj h
  have hpartners := mapM_eq_ok.mp houtcomes
  have hsorted : (sortedOutcomes outcomes).Perm outcomes := List.mergeSort_perm _ _
  refine ⟨?_, ?_⟩
  · intro hnil
    replace hnil : sortedOutcomes outcomes = [] := hnil
    have hlength := hsorted.length_eq.trans hpartners.length_eq.symm
    rw [hnil] at hlength
    exact hnonempty (List.length_eq_zero_iff.mp hlength.symm)
  · refine (hsorted.map _).nodup_iff.mpr ?_
    rw [List.Nodup, List.pairwise_map] at hdistinct ⊢
    refine pairwise_of_forall₂ hpartners hdistinct ?_
    intro first second firstOut secondOut hfirst hsecond hne heq
    split at hfirst
    · cases hfirst
    rename_i firstLine hfirstLine
    split at hsecond
    · cases hsecond
    rename_i secondLine hsecondLine
    obtain rfl := Except.ok.inj hfirst
    obtain rfl := Except.ok.inj hsecond
    have hmem (line : ExportLine) (ids : List String) (n : Nat)
        (h : line ∈ ((db.linesOf batchId).filter fun line =>
          line.publicId ∈ ids.map (·.toLower)).take n) : line ∈ db.lines :=
      (List.mem_filter.mp (List.mem_filter.mp (List.mem_of_mem_take h)).1).1
    have hsame := eq_of_key hids (hmem _ _ _ (List.mem_of_find?_eq_some hfirstLine))
      (hmem _ _ _ (List.mem_of_find?_eq_some hsecondLine)) heq
    have hfirstId := List.find?_some hfirstLine
    have hsecondId := List.find?_some hsecondLine
    simp only [decide_eq_true_eq] at hfirstId hsecondId
    rw [hsame] at hfirstId
    exact hne (hfirstId.symm.trans hsecondId)

theorem outcomes_of_normalize {body : ReconciliationBody} {payload : ReconciliationPayload}
    (h : normalizeReconciliation body = .ok payload) :
    payload.outcomes ≠ [] ∧ (payload.outcomes.map (·.lineId)).Nodup := by
  simp only [normalizeReconciliation, bind_eq_ok] at h
  obtain ⟨_, _, _, _, h⟩ := h
  split at h
  · cases h
  · simp only [bind_eq_ok, ensure_eq_ok] at h
    obtain ⟨_, hcount, outcomes, houtcomes, _, hdistinct, h⟩ := h
    obtain rfl := Except.ok.inj h
    refine ⟨?_, hdistinct⟩
    intro hnil
    have hlength := (mapM_eq_ok.mp houtcomes).length_eq
    have hsorted := (List.mergeSort_perm outcomes fun a b => decide (a.lineId ≤ b.lineId)).length_eq
    replace hnil : outcomes.mergeSort (fun a b => decide (a.lineId ≤ b.lineId)) = [] := hnil
    rw [hnil, List.length_nil] at hsorted
    omega

/-- The batch after `startReconciling`: it is under reconciliation, whether it
was before or not. -/
theorem startReconciling_ok {batch : ExportBatch} (h : db.startReconciling batch = .ok db')
    (hids : (db.batches.map (·.id)).Nodup) (hmem : batch ∈ db.batches) (hstate : batch.StateValid)
    (hstarted : batch.status ≠ .generated) (hunfinished : batch.status ≠ .reconciled) :
    db' = { db with
        batches := replaceRow (·.id) db.batches { batch with status := .reconciling } } ∧
      ExportBatch.StateValid { batch with status := .reconciling } := by
  unfold ExportDatabase.startReconciling at h
  split at h
  · obtain ⟨_, _, hvalid, hresult⟩ := ExportDatabase.updateBatch_ok h
    exact ⟨hresult, hvalid⟩
  · rename_i hnot
    have hreconciling : batch.status = .reconciling := by
      cases hstatus : batch.status <;> simp_all
    have hself : { batch with status := .reconciling } = batch := by
      rw [← hreconciling]
    rw [hself, replaceRow_self hids hmem]
    exact ⟨(Except.ok.inj h).symm, hstate⟩

theorem completeReconciling_ok {batch : ExportBatch} {payload : ReconciliationPayload} {now : Int}
    (hvalid : ExportBatch.StateValid { batch with status := .reconciling })
    (h : db.completeReconciling batch payload now = .ok db') :
    (db' = db ∧ ExportBatch.StateValid { batch with status := .reconciling }) ∨
      (db' = { db with
          batches := replaceRow (·.id) db.batches
            { batch with status := .reconciled, reconciledAt := some now } } ∧
        ExportBatch.StateValid { batch with status := .reconciled, reconciledAt := some now } ∧
        (db.acceptedLines batch.id : Int) = batch.rowCount ∧
        payload.providerTotalMinutes = batch.totalPayableMinutes) := by
  unfold ExportDatabase.completeReconciling at h
  split at h
  · rename_i hcomplete
    obtain ⟨_, _, hstate, hresult⟩ := ExportDatabase.updateBatch_ok h
    exact .inr ⟨hresult, hstate, hcomplete⟩
  · exact .inl ⟨(Except.ok.inj h).symm, hvalid⟩

theorem ExportBatch.sameSnapshot_status (batch : ExportBatch) (status : ExportStatus)
    (downloadedAt reconciledAt : Option Int) :
    batch.SameSnapshot { batch with
      status := status, downloadedAt := downloadedAt, reconciledAt := reconciledAt } :=
  ⟨rfl, rfl, rfl, rfl, rfl, rfl, rfl, rfl, rfl, rfl⟩

/-- The writes of an accepted new receipt. -/
theorem reception_of_recordReceipt {args : ReconcileRequest} {batch : ExportBatch}
    {payload : ReconciliationPayload} (hids : (db.batches.map (·.id)).Nodup)
    (hmem : batch ∈ db.batches) (hstate : batch.StateValid) (hstarted : batch.status ≠ .generated)
    (hunfinished : batch.status ≠ .reconciled)
    (houtcomes : payload.outcomes ≠ [] ∧ (payload.outcomes.map (·.lineId)).Nodup)
    (h : db.recordReceipt tenantId hashes args batch payload = .ok db') :
    Nonempty (Reception hashes db args db') := by
  simp only [ExportDatabase.recordReceipt, bind_eq_ok, ensure_eq_ok] at h
  obtain ⟨_, hreceipt, _, hevents, _, hstates, middle, hstart, last, hcomplete, _, _, _, _, h⟩ := h
  obtain ⟨hunique, rfl⟩ := ExportDatabase.insertReceipt_ok hreceipt
  obtain ⟨rfl, hmatched⟩ := ExportDatabase.insertLineEvents_ok hevents
  obtain ⟨rfl, hlatest⟩ := ExportDatabase.upsertLineStates_ok hstates
  obtain ⟨rfl, hreconciling⟩ := startReconciling_ok hstart hids hmem hstate hstarted hunfinished
  obtain rfl := Except.ok.inj h
  rcases completeReconciling_ok hreconciling hcomplete with
    ⟨rfl, hvalid⟩ | ⟨rfl, hvalid, haccepted, htotal⟩
  · exact ⟨⟨batch, payload, hmem, hstarted, hunfinished, hunique, houtcomes,
      { batch with status := .reconciling },
      ⟨batch.sameSnapshot_status _ _ _, rfl, hvalid⟩, rfl, .inl rfl, hmatched, hlatest⟩⟩
  · refine ⟨⟨batch, payload, hmem, hstarted, hunfinished, hunique, houtcomes,
      { batch with status := .reconciled, reconciledAt := some args.now },
      ⟨batch.sameSnapshot_status _ _ _, rfl, hvalid⟩, ?_, .inr ⟨rfl, haccepted, htotal⟩,
      hmatched, hlatest⟩⟩
    simp only [ExportDatabase.mk.injEq, true_and, and_true]
    exact replaceRow_replaceRow rfl

/-- An accepted `reconcileExport` is a replay or a new receipt. -/
theorem reception_of_reconcileExport {args : ReconcileRequest}
    (hids : (db.batches.map (·.id)).Nodup) (hlines : (db.lines.map (·.id)).Nodup)
    (hstates : ∀ batch ∈ db.batches, batch.StateValid)
    (h : db.reconcileExport tenantId hashes args = .ok db') :
    db' = db ∨ Nonempty (Reception hashes db args db') := by
  obtain ⟨publicId, _, h⟩ := bind_eq_ok.mp h
  split at h
  · cases h
  · rename_i batch hbatch
    obtain ⟨publicPayload, hpublic, h⟩ := bind_eq_ok.mp h
    obtain ⟨payload, hpayload, h⟩ := bind_eq_ok.mp h
    have hmem := (mem_of_batch? hbatch).1
    split at h
    · split at h
      · exact .inl (Except.ok.inj h).symm
      · cases h
    · simp only [bind_eq_ok, ensure_eq_ok] at h
      obtain ⟨_, hstarted, _, hunfinished, h⟩ := h
      obtain ⟨hnonempty, hdistinct⟩ := outcomes_of_normalize hpublic
      exact .inr (reception_of_recordReceipt hids hmem (hstates batch hmem) hstarted hunfinished
        (outcomes_of_internal hpayload hnonempty hdistinct hlines) h)

/-- A rule for the step function: what holds where nothing changes and of each
kind of write holds of every step. -/
theorem exportStep_of_write {R : ExportDatabase → Prop} (event : ExportEvent)
    (hids : (db.batches.map (·.id)).Nodup) (hlines : (db.lines.map (·.id)).Nodup)
    (hstates : ∀ batch ∈ db.batches, batch.StateValid)
    (hwrite : ∀ next, ExportWrite tenantId hashes isControl db event next → R next) :
    R (exportStep tenantId hashes isControl db event).2 := by
  unfold exportStep
  split
  · rename_i next hnext
    obtain ⟨_, _, hrun⟩ := bind_eq_ok.mp hnext
    apply hwrite
    cases hcommand : event.command with
    | createExport args =>
        rw [hcommand] at hrun
        rcases creation_of_createExport hrun with rfl | ⟨⟨creation⟩⟩
        · exact .same
        · exact .created hcommand creation
    | downloadExport publicExportId =>
        rw [hcommand] at hrun
        obtain ⟨⟨content, last⟩, hdownload, rfl⟩ := map_eq_ok.mp hrun
        rcases downloaded_of_downloadExport hdownload with rfl | ⟨batch, hmem, hgenerated, rfl⟩
        · exact .same
        · exact .downloaded hmem hgenerated
    | reconcileExport args =>
        rw [hcommand] at hrun
        rcases reception_of_reconcileExport hids hlines hstates hrun with rfl | ⟨⟨reception⟩⟩
        · exact .same
        · exact .received hcommand reception
    | payroll next =>
        rw [hcommand] at hrun
        simp only [ExportCommand.run, bind_eq_ok, ensure_eq_ok] at hrun
        obtain ⟨_, hkept, hrun⟩ := hrun
        obtain rfl := Except.ok.inj hrun
        exact .payroll hkept
    | wallet request =>
        rw [hcommand] at hrun
        simp only [ExportCommand.run, bind_eq_ok, ensure_eq_ok] at hrun
        obtain ⟨_, hid, hrun⟩ := hrun
        obtain rfl := Except.ok.inj hrun
        exact .wallet hid
    | register reference publicId =>
        rw [hcommand] at hrun
        simp only [ExportCommand.run, bind_eq_ok, ensure_eq_ok] at hrun
        obtain ⟨_, hfresh, hrun⟩ := hrun
        obtain rfl := Except.ok.inj hrun
        exact .register hfresh
  · exact hwrite db .same

end Commands

end LunchLineup.Payroll
