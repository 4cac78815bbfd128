import LunchLineup.Payroll.ExportWrites
import LunchLineup.Payroll.PeriodLife

/-!
# The evidence of an export

`createExport` hashes lines it builds from the locked entries, and every later
read hashes lines it rebuilds from the stored rows.  `Evidence` says what a batch
needs for the second to find what the first has stored: numbered rows, whose
public lines have the stored digests, a file with the stored digest, and the
ledger row of the debit.  A batch has it when it is written
(`evidence_of_createExport`), no later transaction takes it away
(`Evidence.mono`), and it makes the verification accept (`Evidence.read`).
-/

namespace LunchLineup.Payroll

open LunchLineup.Lib LunchLineup.Billing

/-! ## Files of numbered lines -/

/-- `lineNumber === index + 1`, for any kind of line. -/
def NumberedBy {Line : Type*} (number : Line → Int) (lines : List Line) : Prop :=
  lines.map number = (List.range lines.length).map fun index : Nat => (index : Int) + 1

theorem NumberedBy.pairwise {Line : Type*} {number : Line → Int} {lines : List Line}
    (h : NumberedBy number lines) : lines.Pairwise fun a b => number a < number b := by
  have hrange : ((List.range lines.length).map fun index : Nat => (index : Int) + 1).Pairwise
      (· < ·) := by
    rw [List.pairwise_map]
    refine List.pairwise_lt_range.imp ?_
    intro a b hlt
    omega
  rw [← h, List.pairwise_map] at hrange
  exact hrange

/-- Sorting numbered lines by their number changes nothing. -/
theorem NumberedBy.sort_eq {Line : Type*} {number : Line → Int} {lines : List Line}
    (h : NumberedBy number lines) {tie : Line → Line → Prop} [DecidableRel tie] :
    (lines.mergeSort fun a b =>
      decide (number a < number b ∨ (number a = number b ∧ tie a b))) = lines := by
  apply List.mergeSort_of_pairwise
  refine h.pairwise.imp ?_
  intro a b hlt
  exact decide_eq_true (.inl hlt)

theorem orderedLines_of_numbered {lines : List CsvLine} (h : Numbered lines) :
    orderedLines lines = lines := by
  have hnumbered : NumberedBy CsvLine.lineNumber lines := h
  exact hnumbered.sort_eq

theorem buildPayrollCsv_of_numbered {lines : List CsvLine} (h : Numbered lines)
    (hcells : ∀ line ∈ lines, line.CellsValid) : ∃ content, buildPayrollCsv lines = .ok content := by
  simp only [buildPayrollCsv, orderedLines_of_numbered h, ensure_of_true _ h,
    ensure_of_true _ hcells, ok_bind]
  exact ⟨_, rfl⟩

theorem cellsValid_of_buildPayrollCsv {lines : List CsvLine} {content : String}
    (hnumbered : Numbered lines) (h : buildPayrollCsv lines = .ok content) :
    ∀ line ∈ lines, line.CellsValid := by
  simp only [buildPayrollCsv, orderedLines_of_numbered hnumbered, bind_eq_ok, ensure_eq_ok] at h
  obtain ⟨_, _, _, hcells, _⟩ := h
  exact hcells

/-! ## Public identifiers stay -/

/-- Every row with a public identifier keeps it. -/
def Directory.Extends (old new : Directory) : Prop :=
  ∀ reference publicId, Dict.get? old reference = some publicId →
    Dict.get? new reference = some publicId

theorem Directory.Extends.refl (directory : Directory) : directory.Extends directory :=
  fun _ _ h => h

theorem Directory.extends_append (old : Directory) (entries : List (Reference × String)) :
    old.Extends (old ++ entries) := by
  intro reference publicId h
  rw [Dict.get?_append, h]
  rfl

section Stable

variable {old new : Directory}

theorem requireMapped_mono (h : old.Extends new) {reference : Reference} {publicId : String}
    (hmapped : old.requireMapped reference = .ok publicId) :
    new.requireMapped reference = .ok publicId := by
  unfold Directory.requireMapped at hmapped ⊢
  split at hmapped
  · cases hmapped
  · rename_i found hfound
    rw [h reference found hfound]
    exact hmapped

theorem publicLocation_mono (h : old.Extends new) {locationId publicId : Option String}
    (hmapped : old.publicLocation locationId = .ok publicId) :
    new.publicLocation locationId = .ok publicId := by
  cases locationId with
  | none => exact hmapped
  | some id =>
      simp only [Directory.publicLocation] at hmapped ⊢
      by_cases hempty : id = ""
      · rw [if_pos hempty] at hmapped ⊢
        exact hmapped
      · rw [if_neg hempty] at hmapped ⊢
        obtain ⟨found, hfound, hmapped⟩ := bind_eq_ok.mp hmapped
        rw [requireMapped_mono h hfound]
        exact hmapped

theorem publicLine_mono (h : old.Extends new) {row : ExportLine} {line : CsvLine}
    (hline : row.publicLine old = .ok line) : row.publicLine new = .ok line := by
  simp only [ExportLine.publicLine, bind_eq_ok] at hline
  obtain ⟨sourceId, hsource, employeeId, hemployee, locationId, hlocation, hline⟩ := hline
  simp only [ExportLine.publicLine, requireMapped_mono h hsource, requireMapped_mono h hemployee,
    publicLocation_mono h hlocation, ok_bind]
  exact hline

end Stable

/-! ## What the verification needs -/

/-- The stored row and the line of the file belong together. -/
def ExportHashes.Matches (hashes : ExportHashes) (directory : Directory) (batchId : String)
    (row : ExportLine) (line : CsvLine) : Prop :=
  row.publicLine directory = .ok line ∧
    row.canonicalSha256 = (hashes.exportLine batchId row.lockedEntryId line).val

/-- What is stored for a batch that `createExport` wrote. -/
structure Evidence (tenantId : String) (hashes : ExportHashes) (db : ExportDatabase)
    (batch : ExportBatch) : Prop where
  count : ((db.linesOf batch.id).length : Int) = batch.rowCount
  positive : 1 ≤ batch.rowCount
  bounded : batch.rowCount ≤ maxPayrollLockEntries
  numbered : NumberedBy ExportLine.lineNumber (db.linesOf batch.id)
  total : ((db.linesOf batch.id).map (·.payableMinutes)).sum = batch.totalPayableMinutes
  safe : IsSafeInteger batch.totalPayableMinutes
  file : ∃ lines content, List.Forall₂ (hashes.Matches db.directory batch.id)
      (db.linesOf batch.id) lines ∧ buildPayrollCsv lines = .ok content ∧
    batch.contentSha256 = (hashes.content content).val
  debit : ∃ row ∈ db.store.ledger, row.id = batch.creditTransactionId ∧ row.tenantId = tenantId ∧
    row.amount = -batch.consumedCredits ∧ row.debtAmount = 0 ∧
    row.reason = exportReason batch.periodId ∧ row.balanceAfter = some batch.newBalance ∧
    row.debtAfter = some 0
  transactionId : batch.creditTransactionId = exportTransactionId batch.operationId

section Verification

variable {tenantId : String} {hashes : ExportHashes} {db : ExportDatabase} {batch : ExportBatch}

/-- The public line of a row has the numbers of the row. -/
theorem publicLine_numbers {row : ExportLine} {directory : Directory} {line : CsvLine}
    (h : row.publicLine directory = .ok line) : line.lineNumber = row.lineNumber ∧
      line.breakMinutes = row.breakMinutes ∧ line.payableMinutes = row.payableMinutes := by
  simp only [ExportLine.publicLine, bind_eq_ok] at h
  obtain ⟨_, _, _, _, _, _, h⟩ := h
  obtain rfl := Except.ok.inj h
  exact ⟨rfl, rfl, rfl⟩

/-- The loop accepts rows that match, and finds the encoding with public
identifiers. -/
theorem verifyRows_of_matches {directory : Directory} {batchId : String} {rows : List ExportLine}
    {lines : List CsvLine} (h : List.Forall₂ (hashes.Matches directory batchId) rows lines)
    {encoding : Option Encoding} (hencoding : encoding = none ∨ encoding = some .publicIds) :
    hashes.verifyRows directory batchId encoding rows =
      .ok (if rows = [] then encoding else some .publicIds, lines) := by
  induction h generalizing encoding with
  | nil => rfl
  | @cons row line rows lines hfirst _ ih =>
      have hrow : hashes.rowEncoding batchId row line = some .publicIds := if_pos hfirst.2
      have hcheck : (some Encoding.publicIds).isSome = true ∧
          (encoding.isSome = true → encoding = some .publicIds) := by
        rcases hencoding with rfl | rfl <;> simp
      simp only [ExportHashes.verifyRows, hfirst.1, ok_bind, hrow, ensure_of_true _ hcheck,
        ih (.inr rfl)]
      simp

theorem numbered_of_matches {directory : Directory} {batchId : String} {rows : List ExportLine}
    {lines : List CsvLine} (h : List.Forall₂ (hashes.Matches directory batchId) rows lines)
    (hrows : NumberedBy ExportLine.lineNumber rows) : Numbered lines := by
  have hnumbers : rows.map (·.lineNumber) = lines.map (·.lineNumber) :=
    map_eq_of_forall₂ h fun hmatch => (publicLine_numbers hmatch.1).1.symm
  rw [Numbered, ← hnumbers, ← h.length_eq]
  exact hrows

theorem Evidence.orderedRows (hevidence : Evidence tenantId hashes db batch) :
    db.orderedRows batch.id = db.linesOf batch.id := by
  have hcount := hevidence.count
  have hbounded := hevidence.bounded
  unfold ExportDatabase.orderedRows
  rw [hevidence.numbered.sort_eq, List.take_of_length_le]
  omega

/-- The verification accepts, and the file has the stored digest. -/
theorem Evidence.load (hevidence : Evidence tenantId hashes db batch) :
    ∃ content, db.loadAndVerifyExportLines hashes batch = .ok content ∧
      (hashes.content content).val = batch.contentSha256 := by
  obtain ⟨lines, content, hmatches, hcontent, hdigest⟩ := hevidence.file
  have hcount := hevidence.count
  have hpositive := hevidence.positive
  have hbounded := hevidence.bounded
  have hnumbered := numbered_of_matches hmatches hevidence.numbered
  have hcells := cellsValid_of_buildPayrollCsv hnumbered hcontent
  -- The file with internal identifiers is built too, though only the digest of
  -- the other one is compared.
  obtain ⟨legacy, hlegacy⟩ : ∃ legacy,
      buildPayrollCsv ((db.linesOf batch.id).map (·.legacyLine)) = .ok legacy := by
    apply buildPayrollCsv_of_numbered
    · rw [Numbered, List.map_map, List.length_map]
      exact hevidence.numbered
    · intro line hline
      obtain ⟨row, hrow, rfl⟩ := List.mem_map.mp hline
      obtain ⟨public_, hpublic, hmatch⟩ := exists_right_of_forall₂ hmatches hrow
      obtain ⟨_, hbreak, hpayable⟩ := publicLine_numbers hmatch.1
      have hvalid := hcells public_ hpublic
      rw [CsvLine.CellsValid, hbreak, hpayable] at hvalid
      exact hvalid
  have hnonempty : db.linesOf batch.id ≠ [] := by
    intro hnil
    rw [hnil] at hcount
    simp at hcount
    omega
  refine ⟨content, ?_, hdigest.symm⟩
  simp only [ExportDatabase.loadAndVerifyExportLines, hevidence.orderedRows,
    verifyRows_of_matches hmatches (.inl rfl), if_neg hnonempty, hcontent, hlegacy, ok_bind,
    hevidence.total, bind_eq_ok, ensure_eq_ok]
  refine ⟨(), ⟨hpositive, hbounded⟩, (), ⟨hcount, by omega⟩, (), ⟨hevidence.safe, trivial⟩, (),
    .inl ⟨trivial, hdigest⟩, trivial⟩

theorem Evidence.provenance (hevidence : Evidence tenantId hashes db batch)
    (hids : (db.store.ledger.map (·.id)).Nodup) :
    db.verifyExportCreditProvenance tenantId batch = .ok () := by
  obtain ⟨row, hrow, hid, htenant, hamount, hdebt, hreason, hbalance, hafter⟩ := hevidence.debit
  unfold ExportDatabase.verifyExportCreditProvenance
  cases hfound : db.store.findUnique false tenantId batch.creditTransactionId with
  | none =>
      have hnone := List.find?_eq_none.mp hfound row hrow
      simp [hid, htenant] at hnone
  | some found =>
      have hmem := List.mem_of_find?_eq_some hfound
      have hmatch := List.find?_some hfound
      simp only [Bool.false_or, Bool.and_eq_true, decide_eq_true_eq] at hmatch
      obtain rfl := eq_of_key hids hmem hrow (hmatch.1.trans hid.symm)
      exact ensure_of_true _ ⟨hevidence.transactionId, hid.trans hevidence.transactionId, htenant,
        hamount, hdebt, hreason, hbalance, hafter⟩

theorem Evidence.read (hevidence : Evidence tenantId hashes db batch)
    (hids : (db.store.ledger.map (·.id)).Nodup) :
    ∃ content, db.readExport tenantId hashes batch = .ok content ∧
      (hashes.content content).val = batch.contentSha256 := by
  obtain ⟨content, hload, hdigest⟩ := hevidence.load
  refine ⟨content, ?_, hdigest⟩
  simp only [ExportDatabase.readExport, hevidence.provenance hids, hload, ok_bind]

end Verification

/-! ## Evidence stays -/

section Stays

variable {tenantId : String} {hashes : ExportHashes} {db db' : ExportDatabase}
  {batch batch' : ExportBatch}

/-- No later state takes the evidence of a batch away that keeps its snapshot,
its lines, the public identifiers and the ledger. -/
theorem Evidence.mono (hevidence : Evidence tenantId hashes db batch)
    (hsnapshot : batch.SameSnapshot batch') (hlines : db'.linesOf batch.id = db.linesOf batch.id)
    (hdirectory : db.directory.Extends db'.directory)
    (hledger : ∀ row ∈ db.store.ledger, row ∈ db'.store.ledger) :
    Evidence tenantId hashes db' batch' := by
  obtain ⟨hid, hperiod, hoperation, _, htransaction, hcontent, hcount, htotal, hconsumed, hbalance⟩ :=
    hsnapshot
  have hrows : db'.linesOf batch'.id = db.linesOf batch.id := by rw [hid, hlines]
  obtain ⟨lines, content, hmatches, hfile, hdigest⟩ := hevidence.file
  obtain ⟨row, hrow, hdebit⟩ := hevidence.debit
  refine ⟨?_, ?_, ?_, ?_, ?_, ?_, ⟨lines, content, ?_, hfile, hcontent.trans hdigest⟩,
    ⟨row, hledger row hrow, ?_⟩, ?_⟩
  · rw [hrows, hcount]
    exact hevidence.count
  · rw [hcount]
    exact hevidence.positive
  · rw [hcount]
    exact hevidence.bounded
  · rw [hrows]
    exact hevidence.numbered
  · rw [hrows, htotal]
    exact hevidence.total
  · rw [htotal]
    exact hevidence.safe
  · rw [hrows, hid]
    exact hmatches.imp fun _ _ hmatch => ⟨publicLine_mono hdirectory hmatch.1, hmatch.2⟩
  · rw [htransaction, hconsumed, hperiod, hbalance]
    exact hdebit
  · rw [htransaction, hoperation]
    exact hevidence.transactionId

end Stays

/-! ## A new export -/

section Written

variable {tenantId : String} {hashes : ExportHashes} {db db' : ExportDatabase}

/-- The lines of the file and the rows are made for each other. -/
theorem matches_of_exportedLine {directory : Directory} {batchId publicLineId : String}
    {index : Nat} {entry : LockedEntry} {line : CsvLine}
    (h : directory.exportedLine publicLineId index entry = .ok line) :
    hashes.Matches directory batchId (hashes.storedLine batchId entry line) line := by
  refine ⟨?_, rfl⟩
  simp only [Directory.exportedLine, bind_eq_ok] at h
  obtain ⟨sourceId, hsource, employeeId, hemployee, locationId, hlocation, h⟩ := h
  obtain rfl := Except.ok.inj h
  simp only [ExportLine.publicLine, ExportHashes.storedLine, hsource, hemployee, hlocation, ok_bind]

theorem exportLines_ok {directory : Directory} {batchId : String} {publicLineId : Nat → String}
    {entries : List LockedEntry} {lines : List (CsvLine × ExportLine)}
    (h : hashes.exportLines directory batchId publicLineId entries = .ok lines) :
    lines.length = entries.length ∧
      NumberedBy ExportLine.lineNumber (lines.map Prod.snd) ∧
      List.Forall₂ (hashes.Matches directory batchId) (lines.map Prod.snd) (lines.map Prod.fst) ∧
      (lines.map Prod.snd).map (·.payableMinutes) = entries.map (·.payableMinutes) ∧
      ∀ row ∈ lines.map Prod.snd, row.batchId = batchId := by
  have hpairs : List.Forall₂ (fun (source : LockedEntry × Nat) (pair : CsvLine × ExportLine) =>
      directory.exportedLine (publicLineId source.2) source.2 source.1 = .ok pair.1 ∧
        pair.2 = hashes.storedLine batchId source.1 pair.1) entries.zipIdx lines := by
    refine (mapM_eq_ok.mp h).imp ?_
    intro source pair hpair
    obtain ⟨line, hline, hpair⟩ := bind_eq_ok.mp hpair
    obtain rfl := Except.ok.inj hpair
    exact ⟨hline, rfl⟩
  have hnumber {source : LockedEntry × Nat} {pair : CsvLine × ExportLine}
      (hpair : directory.exportedLine (publicLineId source.2) source.2 source.1 = .ok pair.1 ∧
        pair.2 = hashes.storedLine batchId source.1 pair.1) :
      (source.2 : Int) + 1 = pair.2.lineNumber := by
    obtain ⟨hline, hrow⟩ := hpair
    simp only [Directory.exportedLine, bind_eq_ok] at hline
    obtain ⟨_, _, _, _, _, _, hline⟩ := hline
    rw [hrow, ← Except.ok.inj hline]
    rfl
  refine ⟨?_, ?_, ?_, ?_, ?_⟩
  · rw [← hpairs.length_eq, List.length_zipIdx]
  · unfold NumberedBy
    rw [List.map_map, List.length_map, ← hpairs.length_eq, List.length_zipIdx,
      List.range_eq_range', ← List.zipIdx_map_snd, List.map_map]
    exact (map_eq_of_forall₂ hpairs hnumber).symm
  · rw [List.forall₂_map_left_iff, List.forall₂_map_right_iff, List.forall₂_same]
    intro pair hpair
    obtain ⟨source, _, hline, hrow⟩ := exists_left_of_forall₂ hpairs hpair
    rw [hrow]
    exact matches_of_exportedLine hline
  · rw [List.map_map]
    have hentries : entries.zipIdx.map (LockedEntry.payableMinutes ∘ Prod.fst) =
        entries.map (·.payableMinutes) := by
      rw [← List.map_map, List.zipIdx_map_fst]
    rw [← hentries]
    refine (map_eq_of_forall₂ hpairs ?_).symm
    intro source pair hpair
    rw [Function.comp_apply, Function.comp_apply, hpair.2]
    rfl
  · intro row hrow
    obtain ⟨pair, hpair, rfl⟩ := List.mem_map.mp hrow
    obtain ⟨source, _, _, hrow⟩ := exists_left_of_forall₂ hpairs hpair
    rw [hrow]
    rfl

/-- The ledger row of the debit of an export. -/
def exportDebit (tenantId operationId periodId : String) (settlement : CreditDebitSettlement) :
    CreditTransaction where
  id := exportTransactionId operationId
  tenantId := tenantId
  amount := -settlement.consumedCredits
  debtAmount := 0
  reason := exportReason periodId
  balanceAfter := some settlement.newBalance
  debtAfter := some 0

/-- Where the ledger has no debit of the operation yet, the debit is one new row,
and the balance falls by the cost. -/
theorem debitExport_ok {args : ExportRequest} {period : Period} {creditCost : Int}
    {settlement : CreditDebitSettlement} {store : Store}
    (h : db.debitExport tenantId args period creditCost = .ok (settlement, store))
    (hfresh : ∀ row ∈ db.store.ledger, row.id ≠ exportTransactionId args.request.operationId) :
    ∃ wallet, db.store.wallet? tenantId = some wallet ∧
      settlement = ⟨creditCost, wallet.usageCredits - creditCost⟩ ∧
      store.ledger = db.store.ledger ++
        [exportDebit tenantId args.request.operationId period.id settlement] ∧
      store.wallet? tenantId = some ⟨wallet.usageCredits - creditCost, wallet.creditDebt⟩ := by
  have hdebit := mapError_eq_ok.mp h
  simp only [debitFeatureCredit] at hdebit
  obtain ⟨_, _, hdebit⟩ := bind_eq_ok.mp hdebit
  split at hdebit
  · rename_i existing hexisting
    obtain ⟨hmem, hid⟩ := findUnique_spec hexisting
    exact absurd hid (hfresh existing hmem)
  · simp only [bind_eq_ok, ensure_eq_ok, Except.ok.injEq, Prod.mk.injEq] at hdebit
    obtain ⟨_, _, _, _, ⟨updated, middle⟩, hpaid, _, _, _, ⟨_, hnodebt⟩, _, _, last, hinsert, _, _,
      rfl, rfl⟩ := hdebit
    obtain ⟨wallet, hfound, hwallet_debt, rfl, hupdate⟩ := debitWallet_ok hpaid
    obtain ⟨_, rfl⟩ := updateTenant_ok hupdate
    obtain ⟨_, rfl⟩ := insertCreditTransaction_ok rfl hinsert
    refine ⟨wallet, hfound, ?_, ?_, ?_⟩
    · simp [sub_eq_add_neg]
    · simp [exportDebit, FeatureDebitArgs.resolvedTransactionId, hwallet_debt]
    · simp [Store.wallet?, Dict.get?_set_self, sub_eq_add_neg]

end Written

/-! ## Transaction ids and reasons -/

theorem exportTransactionId_injective {first second : String}
    (h : exportTransactionId first = exportTransactionId second) : first = second :=
  (String.append_right_inj _).mp h

theorem isExportTransactionId_self (operationId : String) :
    isExportTransactionId (exportTransactionId operationId) = true := by
  unfold isExportTransactionId exportTransactionId
  rw [String.toList_append, List.isPrefixOf_iff_prefix]
  exact List.prefix_append _ _

theorem exportReason_injective {first second : String}
    (h : exportReason first = exportReason second) : first = second :=
  (String.append_right_inj _).mp ((String.append_left_inj _).mp h)

/-! ## The invariant -/

/-- What holds of the exports between transactions. -/
structure Exported (tenantId : String) (hashes : ExportHashes) (db : ExportDatabase) : Prop where
  batchIds : (db.batches.map (·.id)).Nodup
  publicIds : (db.batches.map (·.publicId)).Nodup
  periodIds : (db.batches.map (·.periodId)).Nodup
  lineIds : (db.lines.map (·.id)).Nodup
  ledgerIds : (db.store.ledger.map (·.id)).Nodup
  states : ∀ batch ∈ db.batches, batch.StateValid
  periods : ∀ batch ∈ db.batches, ∃ period ∈ db.payroll.periods, period.id = batch.periodId
  evidence : ∀ batch ∈ db.batches, Evidence tenantId hashes db batch
  lineBatches : ∀ line ∈ db.lines, ∃ batch ∈ db.batches, batch.id = line.batchId
  debits : ∀ row ∈ db.store.ledger, isExportTransactionId row.id = true →
    ∃ batch ∈ db.batches, batch.creditTransactionId = row.id ∧
      row.reason = exportReason batch.periodId

section Invariant

variable {tenantId : String} {hashes : ExportHashes} {isControl : Char → Bool}
  {db db' : ExportDatabase}

theorem exported_initial (payroll : Database) {store : Store} (directory : Directory)
    (hids : (store.ledger.map (·.id)).Nodup)
    (hfresh : ∀ row ∈ store.ledger, isExportTransactionId row.id = false) :
    Exported tenantId hashes (.initial payroll store directory) := by
  constructor
  case ledgerIds => exact hids
  case debits =>
    intro row hrow hexport
    rw [hfresh row hrow] at hexport
    cases hexport
  all_goals simp [ExportDatabase.initial]

/-- Moves of the tables around the exports. -/
theorem Exported.around (hexported : Exported tenantId hashes db)
    (hbatches : db'.batches = db.batches) (hlines : db'.lines = db.lines)
    (hstore : db'.store = db.store) (hdirectory : db.directory.Extends db'.directory)
    (hperiods : ∀ period ∈ db.payroll.periods, ∃ kept ∈ db'.payroll.periods,
      kept.id = period.id) : Exported tenantId hashes db' := by
  refine ⟨?_, ?_, ?_, ?_, ?_, ?_, ?_, ?_, ?_, ?_⟩
  all_goals simp only [hbatches, hlines, hstore]
  · exact hexported.batchIds
  · exact hexported.publicIds
  · exact hexported.periodIds
  · exact hexported.lineIds
  · exact hexported.ledgerIds
  · exact hexported.states
  · intro batch hbatch
    obtain ⟨period, hperiod, hid⟩ := hexported.periods batch hbatch
    obtain ⟨kept, hkept, hkept_id⟩ := hperiods period hperiod
    exact ⟨kept, hkept, hkept_id.trans hid⟩
  · intro batch hbatch
    refine (hexported.evidence batch hbatch).mono (batch.sameSnapshot_status _ _ _) ?_ hdirectory ?_
    · rw [ExportDatabase.linesOf, hlines]
      rfl
    · intro row hrow
      rw [hstore]
      exact hrow
  · exact hexported.lineBatches
  · exact hexported.debits

/-- A batch row changes its status only. -/
theorem Exported.batchUpdated (hexported : Exported tenantId hashes db) {old new : ExportBatch}
    (hmem : old ∈ db.batches) (hsnapshot : old.SameSnapshot new)
    (hpublic : new.publicId = old.publicId) (hstate : new.StateValid) :
    Exported tenantId hashes { db with batches := replaceRow (·.id) db.batches new } := by
  have hid := hsnapshot.1
  -- The new row stands for the old one, every other row stays.
  have hcolumn (column : ExportBatch → String) (hcolumn : column new = column old) :
      (replaceRow (·.id) db.batches new).map column = db.batches.map column := by
    rw [replaceRow, List.map_map]
    apply List.map_congr_left
    intro row hrow
    rw [Function.comp_apply]
    split
    · rename_i heq
      rw [hcolumn, eq_of_key hexported.batchIds hrow hmem (heq.trans hid)]
    · rfl
  have hnew : new ∈ replaceRow (·.id) db.batches new := new_mem_replaceRow hmem hid.symm
  have hkept {batch : ExportBatch} (hbatch : batch ∈ db.batches) :
      ∃ kept ∈ replaceRow (·.id) db.batches new, batch.SameSnapshot kept := by
    by_cases heq : batch.id = new.id
    · rw [eq_of_key hexported.batchIds hbatch hmem (heq.trans hid)]
      exact ⟨new, hnew, hsnapshot⟩
    · exact ⟨batch, mem_replaceRow_of_ne hbatch heq, batch.sameSnapshot_status _ _ _⟩
  refine ⟨?_, ?_, ?_, hexported.lineIds, hexported.ledgerIds, ?_, ?_, ?_, ?_, ?_⟩
  · rw [hcolumn _ hid]
    exact hexported.batchIds
  · rw [hcolumn _ hpublic]
    exact hexported.publicIds
  · rw [hcolumn _ hsnapshot.2.1]
    exact hexported.periodIds
  · intro batch hbatch
    rcases mem_replaceRow hbatch with rfl | ⟨hbatch, _⟩
    · exact hstate
    · exact hexported.states batch hbatch
  · intro batch hbatch
    rcases mem_replaceRow hbatch with rfl | ⟨hbatch, _⟩
    · rw [hsnapshot.2.1]
      exact hexported.periods old hmem
    · exact hexported.periods batch hbatch
  · intro batch hbatch
    rcases mem_replaceRow hbatch with rfl | ⟨hbatch, _⟩
    · exact (hexported.evidence old hmem).mono hsnapshot rfl (.refl _) fun _ hrow => hrow
    · exact (hexported.evidence batch hbatch).mono (batch.sameSnapshot_status _ _ _) rfl (.refl _)
        fun _ hrow => hrow
  · intro line hline
    obtain ⟨batch, hbatch, hbatch_id⟩ := hexported.lineBatches line hline
    obtain ⟨kept, hkept, hkept_snapshot⟩ := hkept hbatch
    exact ⟨kept, hkept, hkept_snapshot.1.trans hbatch_id⟩
  · intro row hrow hexport
    obtain ⟨batch, hbatch, htransaction, hreason⟩ := hexported.debits row hrow hexport
    obtain ⟨kept, hkept, _, hperiod, _, _, hkept_transaction, _⟩ := hkept hbatch
    refine ⟨kept, hkept, hkept_transaction.trans htransaction, ?_⟩
    rw [hperiod]
    exact hreason

/-- The tables of a new export. -/
theorem Creation.db_eq {args : ExportRequest} (creation : Creation tenantId hashes db args db') :
    db' = { db with
      store := creation.store
      batches := db.batches ++ [creation.batch]
      lines := db.lines ++ creation.lines.map Prod.snd } := by
  obtain ⟨_, _, _, _, hmiddle⟩ := ExportDatabase.insertBatch_ok creation.inserted
  obtain ⟨hwritten, _⟩ := ExportDatabase.insertLines_ok creation.written
  refine hwritten.trans ?_
  rw [hmiddle]
  rfl

theorem Creation.batches_eq {args : ExportRequest}
    (creation : Creation tenantId hashes db args db') :
    db'.batches = db.batches ++ [creation.batch] :=
  congrArg ExportDatabase.batches creation.db_eq

theorem Creation.lines_eq {args : ExportRequest} (creation : Creation tenantId hashes db args db') :
    db'.lines = db.lines ++ creation.lines.map Prod.snd :=
  congrArg ExportDatabase.lines creation.db_eq

theorem Creation.store_eq {args : ExportRequest} (creation : Creation tenantId hashes db args db') :
    db'.store = creation.store :=
  congrArg ExportDatabase.store creation.db_eq

theorem Creation.directory_eq {args : ExportRequest}
    (creation : Creation tenantId hashes db args db') : db'.directory = db.directory := by
  rw [congrArg ExportDatabase.directory creation.db_eq]

theorem Creation.payroll_eq {args : ExportRequest}
    (creation : Creation tenantId hashes db args db') : db'.payroll = db.payroll := by
  rw [congrArg ExportDatabase.payroll creation.db_eq]

/-- The ledger has no debit of a new export yet. -/
theorem Creation.undebited {args : ExportRequest} (creation : Creation tenantId hashes db args db')
    (hexported : Exported tenantId hashes db) :
    ∀ row ∈ db.store.ledger, row.id ≠ exportTransactionId args.request.operationId := by
  intro row hrow hid
  obtain ⟨batch, hbatch, htransaction, _⟩ := hexported.debits row hrow (by
    rw [hid]
    exact isExportTransactionId_self _)
  rw [(hexported.evidence batch hbatch).transactionId, hid] at htransaction
  exact creation.fresh batch hbatch (exportTransactionId_injective htransaction)

theorem Creation.linesOf {args : ExportRequest} (creation : Creation tenantId hashes db args db')
    (hexported : Exported tenantId hashes db) :
    db'.linesOf creation.batch.id = creation.lines.map Prod.snd := by
  obtain ⟨_, _, _, hunique, _⟩ := ExportDatabase.insertBatch_ok creation.inserted
  obtain ⟨_, _, _, _, hrows⟩ := exportLines_ok creation.built
  rw [ExportDatabase.linesOf, creation.lines_eq, List.filter_append]
  have hold : db.lines.filter (·.batchId = creation.batch.id) = [] := by
    rw [List.filter_eq_nil_iff]
    intro line hline
    obtain ⟨batch, hbatch, hid⟩ := hexported.lineBatches line hline
    rw [decide_eq_true_eq, ← hid]
    exact (hunique batch hbatch).1
  have hnew : (creation.lines.map Prod.snd).filter (·.batchId = creation.batch.id) =
      creation.lines.map Prod.snd := by
    rw [List.filter_eq_self]
    intro line hline
    exact decide_eq_true (hrows line hline)
  rw [hold, hnew, List.nil_append]

theorem Creation.linesOf_other {args : ExportRequest}
    (creation : Creation tenantId hashes db args db') {batch : ExportBatch}
    (hbatch : batch ∈ db.batches) : db'.linesOf batch.id = db.linesOf batch.id := by
  obtain ⟨_, _, _, hunique, _⟩ := ExportDatabase.insertBatch_ok creation.inserted
  obtain ⟨_, _, _, _, hrows⟩ := exportLines_ok creation.built
  rw [ExportDatabase.linesOf, creation.lines_eq, ExportDatabase.linesOf, List.filter_append]
  have hnew : (creation.lines.map Prod.snd).filter (·.batchId = batch.id) = [] := by
    rw [List.filter_eq_nil_iff]
    intro line hline
    rw [decide_eq_true_eq, hrows line hline]
    exact fun hid => (hunique batch hbatch).1 hid.symm
  rw [hnew, List.append_nil]

/-- The writer and the verifier agree: a new batch has its evidence. -/
theorem Creation.evidence {args : ExportRequest} (creation : Creation tenantId hashes db args db')
    (hexported : Exported tenantId hashes db) : Evidence tenantId hashes db' creation.batch := by
  obtain ⟨hlength, hnumbered, hmatches, hpayable, _⟩ := exportLines_ok creation.built
  obtain ⟨wallet, _, _, hledger, _⟩ :=
    debitExport_ok creation.debited (creation.undebited hexported)
  have hrows := creation.linesOf hexported
  have hcount : creation.batch.rowCount = (creation.lines.length : Int) := rfl
  have hbounded := creation.bounded
  refine ⟨?_, ?_, ?_, ?_, ?_, creation.safe, ⟨creation.lines.map Prod.fst, creation.csv, ?_,
    creation.file, rfl⟩, ⟨exportDebit tenantId args.request.operationId creation.period.id
      creation.settlement, ?_, rfl, rfl, rfl, rfl, rfl, rfl, rfl⟩, rfl⟩
  · rw [hrows, List.length_map]
    rfl
  · omega
  · omega
  · rw [hrows]
    exact hnumbered
  · rw [hrows, hpayable]
    exact creation.total
  · rw [hrows, creation.directory_eq]
    exact hmatches
  · rw [creation.store_eq, hledger]
    simp

theorem Exported.created (hexported : Exported tenantId hashes db) {args : ExportRequest}
    (creation : Creation tenantId hashes db args db') : Exported tenantId hashes db' := by
  obtain ⟨hperiod, _, hstate, hunique, hmiddle⟩ := ExportDatabase.insertBatch_ok creation.inserted
  obtain ⟨_, hlineIds⟩ := ExportDatabase.insertLines_ok creation.written
  obtain ⟨_, _, _, _, hrows⟩ := exportLines_ok creation.built
  have hundebited := creation.undebited hexported
  obtain ⟨wallet, _, _, hledger, _⟩ := debitExport_ok creation.debited hundebited
  have hevidence := creation.evidence hexported
  have hbatches := creation.batches_eq
  have hstore : db'.store.ledger = db.store.ledger ++
      [exportDebit tenantId args.request.operationId creation.period.id creation.settlement] := by
    rw [creation.store_eq, hledger]
  refine ⟨?_, ?_, ?_, ?_, ?_, ?_, ?_, ?_, ?_, ?_⟩
  · rw [hbatches]
    exact nodup_keys_append hexported.batchIds fun other hother => (hunique other hother).1
  · rw [hbatches]
    exact nodup_keys_append hexported.publicIds fun other hother => (hunique other hother).2.1
  · rw [hbatches]
    exact nodup_keys_append hexported.periodIds fun other hother => (hunique other hother).2.2.1
  · apply hlineIds
    rw [hmiddle]
    exact hexported.lineIds
  · rw [hstore]
    exact nodup_keys_append hexported.ledgerIds hundebited
  · intro batch hbatch
    rw [hbatches] at hbatch
    rcases List.mem_append.mp hbatch with hbatch | hbatch
    · exact hexported.states batch hbatch
    · rw [List.mem_singleton.mp hbatch]
      exact hstate
  · intro batch hbatch
    rw [hbatches] at hbatch
    rw [creation.payroll_eq]
    rcases List.mem_append.mp hbatch with hbatch | hbatch
    · exact hexported.periods batch hbatch
    · rw [List.mem_singleton.mp hbatch]
      exact hperiod
  · intro batch hbatch
    rw [hbatches] at hbatch
    rcases List.mem_append.mp hbatch with hbatch | hbatch
    · refine (hexported.evidence batch hbatch).mono (batch.sameSnapshot_status _ _ _)
        (creation.linesOf_other hbatch) ?_ ?_
      · rw [creation.directory_eq]
        exact .refl _
      · intro row hrow
        rw [hstore]
        exact List.mem_append_left _ hrow
    · rw [List.mem_singleton.mp hbatch]
      exact hevidence
  · intro line hline
    rw [creation.lines_eq] at hline
    rw [hbatches]
    rcases List.mem_append.mp hline with hline | hline
    · obtain ⟨batch, hbatch, hid⟩ := hexported.lineBatches line hline
      exact ⟨batch, List.mem_append_left _ hbatch, hid⟩
    · exact ⟨creation.batch, by simp, (hrows line hline).symm⟩
  · intro row hrow hexport
    rw [hstore] at hrow
    rw [hbatches]
    rcases List.mem_append.mp hrow with hrow | hrow
    · obtain ⟨batch, hbatch, hdebit⟩ := hexported.debits row hrow hexport
      exact ⟨batch, List.mem_append_left _ hbatch, hdebit⟩
    · rw [List.mem_singleton.mp hrow]
      exact ⟨creation.batch, by simp, rfl, rfl⟩

theorem Exported.received (hexported : Exported tenantId hashes db) {args : ReconcileRequest}
    (reception : Reception hashes db args db') : Exported tenantId hashes db' := by
  have hupdated := hexported.batchUpdated reception.mem reception.snapshot.1 reception.snapshot.2.1
    reception.snapshot.2.2
  rw [reception.result]
  exact hupdated.around rfl rfl rfl (.refl _) fun period hperiod => ⟨period, hperiod, rfl⟩

theorem Exported.walletMoved (hexported : Exported tenantId hashes db) {request : WalletRequest}
    (hid : ∀ id ∈ request.call.transactionId, isExportTransactionId id = false) :
    Exported tenantId hashes { db with store := (commit isControl db.store request).2 } := by
  rcases commit_cases isControl db.store request with hsame | ⟨_, row, _, hrow, _, happlies⟩
  · rw [hsame]
    exact hexported
  have hledger := happlies.ledger
  refine ⟨hexported.batchIds, hexported.publicIds, hexported.periodIds, hexported.lineIds, ?_,
    hexported.states, hexported.periods, ?_, hexported.lineBatches, ?_⟩
  · show ((commit isControl db.store request).2.ledger.map (·.id)).Nodup
    rw [hledger]
    exact nodup_keys_append hexported.ledgerIds happlies.fresh
  · intro batch hbatch
    refine (hexported.evidence batch hbatch).mono (batch.sameSnapshot_status _ _ _) rfl (.refl _) ?_
    intro other hother
    show other ∈ (commit isControl db.store request).2.ledger
    rw [hledger]
    exact List.mem_append_left _ hother
  · intro other hother hexport
    replace hother : other ∈ (commit isControl db.store request).2.ledger := hother
    rw [hledger] at hother
    rcases List.mem_append.mp hother with hother | hother
    · exact hexported.debits other hother hexport
    · rw [List.mem_singleton.mp hother, hid row.id hrow.symm] at hexport
      cases hexport

/-- The batches are all kept, with their content. -/
def BatchesKept (db db' : ExportDatabase) : Prop :=
  ∀ batch ∈ db.batches, ∃ kept ∈ db'.batches, batch.SameSnapshot kept ∧
    kept.publicId = batch.publicId

theorem BatchesKept.of_eq (h : db'.batches = db.batches) : BatchesKept db db' := by
  intro batch hbatch
  rw [h]
  exact ⟨batch, hbatch, batch.sameSnapshot_status _ _ _, rfl⟩

theorem BatchesKept.of_replaced (hids : (db.batches.map (·.id)).Nodup) {old new : ExportBatch}
    (hmem : old ∈ db.batches) (hsnapshot : old.SameSnapshot new)
    (hpublic : new.publicId = old.publicId)
    (h : db'.batches = replaceRow (·.id) db.batches new) : BatchesKept db db' := by
  intro batch hbatch
  rw [h]
  by_cases heq : batch.id = new.id
  · rw [eq_of_key hids hbatch hmem (heq.trans hsnapshot.1)]
    exact ⟨new, new_mem_replaceRow hmem hsnapshot.1.symm, hsnapshot, hpublic⟩
  · exact ⟨batch, mem_replaceRow_of_ne hbatch heq, batch.sameSnapshot_status _ _ _, rfl⟩

theorem ExportBatch.SameSnapshot.trans {first second third : ExportBatch}
    (hfirst : first.SameSnapshot second) (hsecond : second.SameSnapshot third) :
    first.SameSnapshot third := by
  unfold ExportBatch.SameSnapshot at *
  simp_all

theorem BatchesKept.trans {third : ExportDatabase} (hfirst : BatchesKept db db')
    (hsecond : BatchesKept db' third) : BatchesKept db third := by
  intro batch hbatch
  obtain ⟨kept, hkept, hsnapshot, hpublic⟩ := hfirst batch hbatch
  obtain ⟨last, hlast, hlast_snapshot, hlast_public⟩ := hsecond kept hkept
  exact ⟨last, hlast, hsnapshot.trans hlast_snapshot, hlast_public.trans hpublic⟩

/-- Every write keeps the invariant and the batches. -/
theorem Exported.write (hexported : Exported tenantId hashes db) {event : ExportEvent}
    (h : ExportWrite tenantId hashes isControl db event db') :
    Exported tenantId hashes db' ∧ BatchesKept db db' := by
  cases h with
  | same => exact ⟨hexported, .of_eq rfl⟩
  | created _ creation =>
      refine ⟨hexported.created creation, ?_⟩
      intro batch hbatch
      rw [creation.batches_eq]
      exact ⟨batch, List.mem_append_left _ hbatch, batch.sameSnapshot_status _ _ _, rfl⟩
  | @downloaded batch hmem hgenerated =>
      have hsnapshot := batch.sameSnapshot_status .downloaded (some event.now) batch.reconciledAt
      refine ⟨hexported.batchUpdated hmem hsnapshot rfl ?_,
        .of_replaced hexported.batchIds hmem hsnapshot rfl rfl⟩
      rcases hexported.states batch hmem with hstate | hstate | hstate
      · exact .inr (.inl ⟨.inl rfl, rfl, hstate.2.2⟩)
      · rw [hgenerated] at hstate
        simp at hstate
      · rw [hgenerated] at hstate
        simp at hstate
  | received _ reception =>
      refine ⟨hexported.received reception, ?_⟩
      exact .of_replaced hexported.batchIds reception.mem reception.snapshot.1
        reception.snapshot.2.1 (congrArg ExportDatabase.batches reception.result)
  | payroll hkept => exact ⟨hexported.around rfl rfl rfl (.refl _) hkept, .of_eq rfl⟩
  | wallet hid => exact ⟨hexported.walletMoved hid, .of_eq rfl⟩
  | register hfresh =>
      refine ⟨hexported.around rfl rfl rfl (Directory.extends_append _ _) ?_, .of_eq rfl⟩
      exact fun period hperiod => ⟨period, hperiod, rfl⟩

theorem Exported.step (hexported : Exported tenantId hashes db) (event : ExportEvent) :
    Exported tenantId hashes (exportStep tenantId hashes isControl db event).2 ∧
      BatchesKept db (exportStep tenantId hashes isControl db event).2 :=
  exportStep_of_write event hexported.batchIds hexported.lineIds hexported.states
    fun _ hwrite => hexported.write hwrite

/-- Every batch can be downloaded, and its file has the stored digest. -/
theorem Exported.download (hexported : Exported tenantId hashes db) {batch : ExportBatch}
    (hbatch : batch ∈ db.batches) {publicExportId publicId : String}
    (hpublic : requiredPublicId publicExportId "payroll_export" = .ok publicId)
    (hid : publicId.toLower = batch.publicId) (now : Int) :
    ∃ content next, db.downloadExport tenantId hashes now publicExportId = .ok (content, next) ∧
      (hashes.content content).val = batch.contentSha256 := by
  have hevidence := hexported.evidence batch hbatch
  obtain ⟨content, hload, hdigest⟩ := hevidence.load
  have hfound : db.batches.find? (·.publicId = publicId.toLower) = some batch := by
    cases hfind : db.batches.find? (·.publicId = publicId.toLower) with
    | none =>
        have hnone := List.find?_eq_none.mp hfind batch hbatch
        simp [hid] at hnone
    | some found =>
        obtain ⟨hmem, hfound_id⟩ := mem_of_batch? hfind
        rw [eq_of_key hexported.publicIds hmem hbatch (hfound_id.trans hid)]
  simp only [ExportDatabase.downloadExport, hpublic, hfound, ok_bind, ExportDatabase.downloadBatch,
    hevidence.provenance hexported.ledgerIds, ensure_of_true _ (hexported.periods batch hbatch),
    hload]
  by_cases hgenerated : batch.status = .generated
  · rw [if_pos hgenerated]
    have hstate := hexported.states batch hbatch
    simp only [ExportBatch.StateValid, hgenerated] at hstate
    simp only [true_and, reduceCtorEq, false_and, or_false] at hstate
    have hupdate : db.updateBatch batch
        { batch with status := .downloaded, downloadedAt := some now } = .ok { db with
          batches := replaceRow (·.id) db.batches
            { batch with status := .downloaded, downloadedAt := some now } } := by
      simp only [ExportDatabase.updateBatch, bind_eq_ok, ensure_eq_ok]
      refine ⟨(), batch.sameSnapshot_status _ _ _, (), ⟨?_, ?_⟩, (), .inl ⟨hgenerated, rfl⟩, (),
        .inr (.inl ⟨.inl rfl, rfl, hstate.2⟩), trivial⟩
      · simp [hstate.1]
      · simp [hstate.2]
    obtain ⟨row, hrow, hrow_id, htenant, hamount, _, hreason, hbalance, _⟩ := hevidence.debit
    rw [hupdate]
    simp only [ok_bind]
    rw [ensure_of_true]
    · exact ⟨content, _, rfl, hdigest⟩
    · exact ⟨hevidence.count, hevidence.total, row, hrow, hrow_id, htenant, hamount, hreason,
        hbalance⟩
  · rw [if_neg hgenerated]
    exact ⟨content, db, rfl, hdigest⟩

end Invariant

/-! ## Runs -/

/-- What one call of `createExport` may do: nothing, or add one batch for its
period with one debit of exactly the confirmed cost. -/
def Charges (tenantId : String) (args : ExportRequest) (before after : ExportDatabase) : Prop :=
  after = before ∨ ∃ batch row wallet cost, args.expectedCreditCost = .integer cost ∧
    batch.periodId = args.periodId ∧ batch.consumedCredits = cost ∧
    after.batches = before.batches ++ [batch] ∧
    after.store.ledger = before.store.ledger ++ [row] ∧ row.id = batch.creditTransactionId ∧
    row.tenantId = tenantId ∧ row.amount = -cost ∧ row.debtAmount = 0 ∧
    before.store.wallet? tenantId = some wallet ∧
    after.store.wallet? tenantId = some ⟨wallet.usageCredits - cost, wallet.creditDebt⟩

/-- The debits of a period's export. -/
def exportDebits (db : ExportDatabase) (periodId : String) : List CreditTransaction :=
  db.store.ledger.filter fun row =>
    isExportTransactionId row.id ∧ row.reason = exportReason periodId

section Runs

variable (tenantId : String) (hashes : ExportHashes) (isControl : Char → Bool)

theorem Exported.charges {db : ExportDatabase} (hexported : Exported tenantId hashes db)
    {event : ExportEvent} {args : ExportRequest} (hcommand : event.command = .createExport args) :
    Charges tenantId args db (exportStep tenantId hashes isControl db event).2 := by
  unfold exportStep
  split
  · rename_i next hnext
    obtain ⟨_, _, hrun⟩ := bind_eq_ok.mp hnext
    rw [hcommand] at hrun
    rcases creation_of_createExport hrun with rfl | ⟨⟨creation⟩⟩
    · exact .inl rfl
    · obtain ⟨wallet, hwallet, hsettlement, hledger, hafter⟩ :=
        debitExport_ok creation.debited (creation.undebited hexported)
      refine .inr ⟨creation.batch, exportDebit tenantId args.request.operationId creation.period.id
        creation.settlement, wallet, creation.creditCost, creation.cost, creation.periodId,
        creation.consumed, creation.batches_eq, ?_, rfl, rfl, ?_, rfl, hwallet, ?_⟩
      · rw [creation.store_eq]
        exact hledger
      · show -creation.settlement.consumedCredits = -creation.creditCost
        rw [creation.consumed]
      · rw [creation.store_eq]
        exact hafter
  · exact .inl rfl

/-- A period has at most one batch and at most one debit. -/
theorem Exported.once {db : ExportDatabase} (hexported : Exported tenantId hashes db)
    (periodId : String) : (db.batches.filter (·.periodId = periodId)).length ≤ 1 ∧
      (exportDebits db periodId).length ≤ 1 := by
  have hbatch {first second : ExportBatch} (hfirst : first ∈ db.batches)
      (hsecond : second ∈ db.batches) (hperiod : first.periodId = second.periodId) :
      first = second := eq_of_key hexported.periodIds hfirst hsecond hperiod
  constructor
  · apply length_le_one_of_eq ((List.Nodup.of_map _ hexported.batchIds).filter _)
    intro first hfirst second hsecond
    simp only [List.mem_filter, decide_eq_true_eq] at hfirst hsecond
    exact hbatch hfirst.1 hsecond.1 (hfirst.2.trans hsecond.2.symm)
  · apply length_le_one_of_eq ((List.Nodup.of_map _ hexported.ledgerIds).filter _)
    intro first hfirst second hsecond
    simp only [List.mem_filter, decide_eq_true_eq] at hfirst hsecond
    obtain ⟨firstBatch, hfirst_mem, hfirst_id, hfirst_reason⟩ :=
      hexported.debits first hfirst.1 hfirst.2.1
    obtain ⟨secondBatch, hsecond_mem, hsecond_id, hsecond_reason⟩ :=
      hexported.debits second hsecond.1 hsecond.2.1
    have hsame := hbatch hfirst_mem hsecond_mem (exportReason_injective
      (hfirst_reason.symm.trans (hfirst.2.2.trans (hsecond.2.2.symm.trans hsecond_reason))))
    refine eq_of_key hexported.ledgerIds hfirst.1 hsecond.1 ?_
    rw [← hfirst_id, ← hsecond_id, hsame]

/-- The evidence of payroll exports.  In every run, from a ledger without export
debits: a call that fails changes nothing, and `createExport` adds at most one
batch with one debit of the confirmed cost; a batch that was created stays, with
its content; every read of it verifies, and every download of it succeeds with a
file that has the stored digest; and a period has at most one batch and at most
one debit. -/
theorem payroll_export_evidence (payroll : Database) (store : Store) (directory : Directory)
    (hids : (store.ledger.map (·.id)).Nodup)
    (hfresh : ∀ row ∈ store.ledger, isExportTransactionId row.id = false)
    (events : List ExportEvent) :
    (∀ t ∈ trace (exportStep tenantId hashes isControl) (.initial payroll store directory) events,
      (t.answer.isSome = true → t.after = t.before) ∧
      (∀ args, t.request.command = .createExport args →
        Charges tenantId args t.before t.after) ∧
      BatchesKept t.after
        (final (exportStep tenantId hashes isControl) (.initial payroll store directory) events)) ∧
    (∀ batch ∈ (final (exportStep tenantId hashes isControl) (.initial payroll store directory)
        events).batches,
      (∃ content, (final (exportStep tenantId hashes isControl)
          (.initial payroll store directory) events).readExport tenantId hashes batch = .ok content ∧
        (hashes.content content).val = batch.contentSha256) ∧
      ∀ now publicExportId publicId,
        requiredPublicId publicExportId "payroll_export" = .ok publicId →
        publicId.toLower = batch.publicId → ∃ content next,
          (final (exportStep tenantId hashes isControl) (.initial payroll store directory)
            events).downloadExport tenantId hashes now publicExportId = .ok (content, next) ∧
          (hashes.content content).val = batch.contentSha256) ∧
    (∀ periodId,
      ((final (exportStep tenantId hashes isControl) (.initial payroll store directory)
        events).batches.filter (·.periodId = periodId)).length ≤ 1 ∧
      (exportDebits (final (exportStep tenantId hashes isControl)
        (.initial payroll store directory) events) periodId).length ≤ 1) := by
  have hinitial : Exported tenantId hashes (.initial payroll store directory) :=
    exported_initial payroll directory hids hfresh
  have hstep : ∀ db event, Exported tenantId hashes db →
      Exported tenantId hashes (exportStep tenantId hashes isControl db event).2 :=
    fun db event hexported => (hexported.step event).1
  have hfinal := invariant_final (Exported tenantId hashes) hstep hinitial events
  refine ⟨?_, ?_, hfinal.once⟩
  · intro t ht
    obtain ⟨hexported, heq⟩ := invariant_of_mem_trace (Exported tenantId hashes) hstep hinitial ht
    have hafter : t.after = (exportStep tenantId hashes isControl t.before t.request).2 := by
      rw [heq]
      rfl
    have hanswer : t.answer = (exportStep tenantId hashes isControl t.before t.request).1 := by
      rw [heq]
      rfl
    refine ⟨?_, ?_, ?_⟩
    · intro hfailed
      rw [hanswer] at hfailed
      rw [hafter]
      unfold exportStep at hfailed ⊢
      split at hfailed
      · cases hfailed
      · rfl
    · intro args hcommand
      rw [hafter]
      exact hexported.charges tenantId hashes isControl hcommand
    · -- From here on every state has the invariant, and every step keeps the batches.
      have hrest := related_of_mem_trace (fun db db' => Exported tenantId hashes db →
          Exported tenantId hashes db' ∧ BatchesKept db db')
        (fun db hexported => ⟨hexported, .of_eq rfl⟩)
        (fun hfirst hsecond hexported => by
          obtain ⟨hmiddle, hkept⟩ := hfirst hexported
          obtain ⟨hlast, hkept'⟩ := hsecond hmiddle
          exact ⟨hlast, hkept.trans hkept'⟩)
        (fun db event hexported => hexported.step event) ht
      refine (hrest ?_).2
      rw [hafter]
      exact hstep _ _ hexported
  · intro batch hbatch
    refine ⟨(hfinal.evidence batch hbatch).read hfinal.ledgerIds, ?_⟩
    intro now publicExportId publicId hpublic hid
    exact hfinal.download hbatch hpublic hid now

/-- The commands of the payroll and time-card services are moves of the payroll
tables: they keep every period. -/
theorem kept_of_step {zones : Zones} {locks : Hashes} {db : Database} (hsound : Sound db)
    (event : Event) : ∀ period ∈ db.periods,
      ∃ kept ∈ (step zones locks db event).2.periods, kept.id = period.id := by
  intro period hperiod
  obtain ⟨next, hnext, hmoves⟩ := (step_spec zones locks hsound event).2.1 period hperiod
  refine ⟨next, hnext, ?_⟩
  rcases hmoves with rfl | ⟨hsnapshot, _⟩
  · rfl
  · exact hsnapshot.1

end Runs

/-! ## An export of one day of work -/

namespace Sample

/-- The first period after it was locked with the card of one day. -/
def lockedPayroll : Database :=
  after (calendar ++ worked 28800 ++ decided .approved ++ [lockFirst])

def exportHashes : ExportHashes :=
  ⟨hashes, id, fun _ _ entryId => entryId, fun _ _ _ => digest, fun _ => digest, fun _ _ _ => digest⟩

def purse : Store := ⟨[("tenant", ⟨5, 0⟩)], []⟩

def publicNames : Directory := [(.staff "worker", "Worker"), (.location "site", "Site"),
  (.timeCard "card", "Card")]

/-- The batch's public identifier, and the one of its only line. -/
def batchUuid : String := "00000000-0000-4000-8000-000000000001"

def lineUuid : String := "00000000-0000-4000-8000-000000000002"

def exportFirst : ExportEvent := ⟨0, true, .createExport ⟨identity "export", "first", .integer 1,
  true, batchUuid, fun _ => lineUuid, fun _ => true⟩⟩

/-- The state after some events of the export service. -/
def exportsAfter (events : List ExportEvent) : ExportDatabase :=
  final (exportStep "tenant" exportHashes fun _ => false)
    (.initial lockedPayroll purse publicNames) events

/-- The period is exported for one credit, and the export verifies. -/
theorem first_export_verifies :
    (exportsAfter [exportFirst]).store.wallet? "tenant" = some ⟨4, 0⟩ ∧
    ∃ batch ∈ (exportsAfter [exportFirst]).batches, ∃ content,
      (exportsAfter [exportFirst]).readExport "tenant" exportHashes batch = .ok content ∧
      (exportHashes.content content).val = batch.contentSha256 := by
  refine ⟨by decide +kernel, ?_⟩
  have hcreated : (exportsAfter [exportFirst]).batches.length = 1 := by decide +kernel
  obtain ⟨batch, hbatch⟩ := List.length_eq_one_iff.mp hcreated
  have hmem : batch ∈ (exportsAfter [exportFirst]).batches := by simp [hbatch]
  refine ⟨batch, hmem, ?_⟩
  exact ((payroll_export_evidence "tenant" exportHashes (fun _ => false) lockedPayroll purse
    publicNames (by decide) (by decide) [exportFirst]).2.1 batch hmem).1

end Sample

end LunchLineup.Payroll
