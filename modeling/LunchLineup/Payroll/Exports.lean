import LunchLineup.Payroll.ExportTables

/-!
# Exporting and reconciling a locked period

`createExport` writes the batch, its lines and the debit in one transaction; what
it hashes are lines with public identifiers.  Every later read rebuilds these
lines from the stored rows (`loadAndVerifyExportLines`, which also knows the
encoding of older rows, with internal identifiers) and looks at the ledger row of
the debit (`verifyExportCreditProvenance`).  `reconcileExport` records a
provider's receipt and completes the batch when every line is accepted and the
receipt reports the batch's minutes.

A transaction that throws is rolled back, and the lookups that follow a conflict
(`findExportReplay`, `findReceiptReplay`) only read.
-/

namespace LunchLineup.Payroll

open LunchLineup.Lib LunchLineup.Billing

/-! ## Public identifiers -/

/-- The shape of a UUID, up to case: digits in groups of eight, four, four, four
and twelve, with a version and a variant. -/
def isUuid (text : String) : Bool :=
  let hex (c : Char) : Bool := ('0' ≤ c && c ≤ '9') || ('a' ≤ c && c ≤ 'f') || ('A' ≤ c && c ≤ 'F')
  text.toList.length == 36 && text.toList.zipIdx.all fun (c, index) =>
    if index == 8 || index == 13 || index == 18 || index == 23 then c == '-'
    else if index == 14 then '1' ≤ c && c ≤ '8'
    else if index == 19 then c == '8' || c == '9' || c == 'a' || c == 'b' || c == 'A' || c == 'B'
    else hex c

/-- `requiredPublicId`. -/
def requiredPublicId (value resource : String) : Except Problem String := do
  let id := jsTrim value
  ensure (isUuid id = true) (.problem 404 (resource ++ "_not_found"))
  .ok id

/-- `requireMapped` on the maps of `publicUsers`, `publicLocations`,
`publicTimeCards` and `publicAmendments`. -/
def Directory.requireMapped (directory : Directory) (reference : Reference) :
    Except Problem String :=
  match Dict.get? directory reference with
  | none => .error (.problem 503 "payroll_reference_integrity_failed")
  | some publicId => do
      ensure (publicId ≠ "") (.problem 503 "payroll_reference_integrity_failed")
      .ok publicId

/-- The row that a line's `sourceId` refers to. -/
def SourceType.reference (id : String) : SourceType → Reference
  | .timeCard => .timeCard id
  | .amendment => .amendment id

/-- `locationId ? requireMapped(locations, locationId, 'location') : null`. -/
def Directory.publicLocation (directory : Directory) : Option String → Except Problem (Option String)
  | none => .ok none
  | some id =>
      if id = "" then .ok none
      else do
        let publicId ← directory.requireMapped (.location id)
        .ok (some publicId)

/-! ## Writing the lines -/

/-- The `line` that `createExport` builds from an entry. -/
def Directory.exportedLine (directory : Directory) (publicLineId : String) (index : Nat)
    (entry : LockedEntry) : Except Problem CsvLine := do
  let sourceId ← directory.requireMapped (entry.sourceType.reference entry.sourceId)
  let employeeId ← directory.requireMapped (.staff entry.employeeId)
  let locationId ← directory.publicLocation entry.locationId
  .ok {
    id := publicLineId
    lineNumber := index + 1
    sourceType := entry.sourceType
    sourceId := sourceId
    employeeId := employeeId
    locationId := locationId
    workTimeZone := entry.workTimeZone
    clockInAt := entry.clockInAt
    clockOutAt := entry.clockOutAt
    breakMinutes := entry.breakMinutes
    payableMinutes := entry.payableMinutes }

/-- The row that `createExport` stores for an entry and its line. -/
def ExportHashes.storedLine (hashes : ExportHashes) (batchId : String) (entry : LockedEntry)
    (line : CsvLine) : ExportLine where
  id := hashes.lineId batchId line.lineNumber entry.id
  publicId := line.id
  batchId := batchId
  lineNumber := line.lineNumber
  lockedEntryId := entry.id
  sourceType := entry.sourceType
  sourceId := entry.sourceId
  employeeId := entry.employeeId
  locationId := entry.locationId
  workTimeZone := entry.workTimeZone
  clockInAt := entry.clockInAt
  clockOutAt := entry.clockOutAt
  breakMinutes := entry.breakMinutes
  payableMinutes := entry.payableMinutes
  canonicalSha256 := (hashes.exportLine batchId entry.id line).val

/-- `lines` of `createExport`: for each entry the line of the file and the row;
`publicLineId` is the supply of random identifiers. -/
def ExportHashes.exportLines (hashes : ExportHashes) (directory : Directory) (batchId : String)
    (publicLineId : Nat → String) (entries : List LockedEntry) :
    Except Problem (List (CsvLine × ExportLine)) :=
  entries.zipIdx.mapM fun (entry, index) => do
    let line ← directory.exportedLine (publicLineId index) index entry
    .ok (line, hashes.storedLine batchId entry line)

/-! ## Verifying the lines -/

/-- `publicLine` of `loadAndVerifyExportLines`. -/
def ExportLine.publicLine (row : ExportLine) (directory : Directory) : Except Problem CsvLine := do
  let sourceId ← directory.requireMapped (row.sourceType.reference row.sourceId)
  let employeeId ← directory.requireMapped (.staff row.employeeId)
  let locationId ← directory.publicLocation row.locationId
  .ok {
    id := row.publicId
    lineNumber := row.lineNumber
    sourceType := row.sourceType
    sourceId := sourceId
    employeeId := employeeId
    locationId := locationId
    workTimeZone := row.workTimeZone
    clockInAt := row.clockInAt
    clockOutAt := row.clockOutAt
    breakMinutes := row.breakMinutes
    payableMinutes := row.payableMinutes }

/-- `legacyLine` of `loadAndVerifyExportLines`. -/
def ExportLine.legacyLine (row : ExportLine) : CsvLine where
  id := row.id
  lineNumber := row.lineNumber
  sourceType := row.sourceType
  sourceId := row.sourceId
  employeeId := row.employeeId
  locationId := row.locationId
  workTimeZone := row.workTimeZone
  clockInAt := row.clockInAt
  clockOutAt := row.clockOutAt
  breakMinutes := row.breakMinutes
  payableMinutes := row.payableMinutes

/-- The two encodings of stored lines. -/
inductive Encoding
  | legacy
  | publicIds
  deriving DecidableEq

/-- `rowEncoding`. -/
def ExportHashes.rowEncoding (hashes : ExportHashes) (batchId : String) (row : ExportLine)
    (publicLine : CsvLine) : Option Encoding :=
  if row.canonicalSha256 = (hashes.exportLine batchId row.lockedEntryId publicLine).val then
    some .publicIds
  else if row.canonicalSha256 = (hashes.exportLine batchId row.lockedEntryId row.legacyLine).val then
    some .legacy
  else none

/-- The loop of `loadAndVerifyExportLines`: the encoding of the rows and their
public lines. -/
def ExportHashes.verifyRows (hashes : ExportHashes) (directory : Directory) (batchId : String) :
    Option Encoding → List ExportLine → Except Problem (Option Encoding × List CsvLine)
  | encoding, [] => .ok (encoding, [])
  | encoding, row :: rest => do
      let publicLine ← row.publicLine directory
      let rowEncoding := hashes.rowEncoding batchId row publicLine
      ensure (rowEncoding.isSome = true ∧ (encoding.isSome = true → encoding = rowEncoding))
        integrityFailed
      let (encoding, lines) ← verifyRows hashes directory batchId rowEncoding rest
      .ok (encoding, publicLine :: lines)

namespace ExportDatabase

variable (db : ExportDatabase) (tenantId : String) (hashes : ExportHashes)

/-- The rows of a batch in the order of the verification. -/
def orderedRows (batchId : String) : List ExportLine :=
  ((db.linesOf batchId).mergeSort fun a b =>
    decide (a.lineNumber < b.lineNumber ∨ (a.lineNumber = b.lineNumber ∧ a.id ≤ b.id))).take
      (maxPayrollLockEntries + 1)

/-- `loadAndVerifyExportLines`; the result is `publicContent`. -/
def loadAndVerifyExportLines (batch : ExportBatch) : Except Problem String := do
  ensure (1 ≤ batch.rowCount ∧ batch.rowCount ≤ maxPayrollLockEntries) integrityFailed
  let rows := db.orderedRows batch.id
  ensure ((rows.length : Int) = batch.rowCount ∧ rows.length ≤ maxPayrollLockEntries)
    integrityFailed
  let (encoding, lines) ← hashes.verifyRows db.directory batch.id none rows
  let total := (rows.map (·.payableMinutes)).sum
  ensure (IsSafeInteger total ∧ total = batch.totalPayableMinutes) integrityFailed
  let publicContent ← buildPayrollCsv lines
  let legacyContent ← buildPayrollCsv (rows.map (·.legacyLine))
  ensure ((encoding = some .publicIds ∧ batch.contentSha256 = (hashes.content publicContent).val) ∨
      (encoding = some .legacy ∧ batch.contentSha256 = (hashes.content legacyContent).val))
    integrityFailed
  .ok publicContent

/-- `verifyExportCreditProvenance`. -/
def verifyExportCreditProvenance (batch : ExportBatch) : Except Problem Unit :=
  match db.store.findUnique false tenantId batch.creditTransactionId with
  | none => .error integrityFailed
  | some ledger =>
      ensure (batch.creditTransactionId = exportTransactionId batch.operationId ∧
          ledger.id = exportTransactionId batch.operationId ∧ ledger.tenantId = tenantId ∧
          ledger.amount = -batch.consumedCredits ∧ ledger.debtAmount = 0 ∧
          ledger.reason = exportReason batch.periodId ∧
          ledger.balanceAfter = some batch.newBalance ∧ ledger.debtAfter = some 0)
        integrityFailed

/-- The verification of `getExport`, of a replayed `createExport` and of
`downloadExport`. -/
def readExport (batch : ExportBatch) : Except Problem String := do
  db.verifyExportCreditProvenance tenantId batch
  db.loadAndVerifyExportLines hashes batch

/-! ## Creating the export -/

/-- `assertFeatureEntitled(transaction, tenantId, 'time_cards', true)`.
`subscribed` is what it reads besides the wallet: the subscription, the plan and
the override. -/
def assertFeatureEntitled (subscribed : Bool) : Except Problem Int :=
  match db.store.wallet? tenantId with
  | none => .error (.problem 403 BillableFeature.timeCards.notEntitled)
  | some wallet => do
      ensure (subscribed = true ∧ wallet.creditDebt = 0 ∧ 1 ≤ wallet.usageCredits)
        (.problem 403 BillableFeature.timeCards.notEntitled)
      .ok 1

/-- The locked entries of a period in export order. -/
def exportEntries (periodId : String) : List LockedEntry :=
  ((db.payroll.entriesOf periodId).mergeSort fun a b =>
    decide (a.sequence < b.sequence ∨ (a.sequence = b.sequence ∧ a.id ≤ b.id))).take
      (maxPayrollLockEntries + 1)

end ExportDatabase

/-- A call of `createExport`, with what the clock, the random generator and the
tenant's subscription supply.  `current` is `assertCurrent` inside the debit. -/
structure ExportRequest where
  request : RequestIdentity
  periodId : String
  expectedCreditCost : JsNumber
  subscribed : Bool
  publicId : String
  publicLineId : Nat → String
  current : Nat → Bool

/-- The batch row that `createExport` inserts. -/
def ExportHashes.newBatch (hashes : ExportHashes) (args : ExportRequest) (period : Period)
    (content : String) (rowCount : Nat) (totalPayableMinutes : Int)
    (settlement : CreditDebitSettlement) : ExportBatch where
  id := hashes.batchId args.request.operationId
  publicId := args.publicId
  periodId := period.id
  operationId := args.request.operationId
  requestHash := args.request.requestHash.val
  creditTransactionId := exportTransactionId args.request.operationId
  status := .generated
  contentSha256 := (hashes.content content).val
  rowCount := rowCount
  totalPayableMinutes := totalPayableMinutes
  consumedCredits := settlement.consumedCredits
  newBalance := settlement.newBalance
  downloadedAt := none
  reconciledAt := none

/-- An error of the billing functions as the problem the caller sees. -/
def Problem.ofBilling : BillingError → Problem
  | .badRequest message => .problem 400 message
  | .badRequestCode code _ => .problem 400 code
  | .conflict message => .problem 409 message
  | .forbidden message => .problem 403 message
  | .problem status code => .problem status code
  | .notFound => .problem 404 "not_found"
  | .sql _ message => .constraint message
  | .superseded => .problem 403 "permission_denied"

namespace ExportDatabase

variable (db : ExportDatabase) (tenantId : String) (hashes : ExportHashes)

/-- The checks of `createExport` on the locked period: its entries and their
total. -/
def exportableEntries (period : Period) : Except Problem (List LockedEntry × Int) :=
  match period.lock with
  | none => .error (.problem 409 "payroll_export_entry_count_invalid")
  | some lock => do
      let entries := db.exportEntries period.id
      ensure (1 ≤ entries.length ∧ entries.length ≤ maxPayrollLockEntries ∧
          (entries.length : Int) = lock.lockedEntryCount)
        (.problem 409 "payroll_export_entry_count_invalid")
      let totalPayableMinutes := (entries.map (·.payableMinutes)).sum
      ensure (IsSafeInteger totalPayableMinutes ∧ totalPayableMinutes = lock.totalPayableMinutes)
        (.problem 409 "payroll_export_totals_invalid")
      ensure (∀ entry ∈ entries, isSha256 entry.canonicalSha256 = true)
        (.problem 409 "payroll_export_integrity_invalid")
      ensure ((hashes.locks.lockAggregate period.id (entries.map (·.canonicalSha256))
          totalPayableMinutes).val = lock.lockedEntrySha256)
        (.problem 409 "payroll_export_integrity_mismatch")
      .ok (entries, totalPayableMinutes)

/-- The debit of `createExport`. -/
def debitExport (args : ExportRequest) (period : Period) (creditCost : Int) :
    Except Problem (CreditDebitSettlement × Store) :=
  (debitFeatureCredit db.store false {
    tenantId := tenantId
    feature := .timeCards
    creditCost := .integer creditCost
    operationId := "payroll-export:" ++ args.request.operationId
    reason := exportReason period.id
    transactionId := some (exportTransactionId args.request.operationId)
    current := args.current }).mapError Problem.ofBilling

/-- The writes of `createExport`, and the response, which is read back. -/
def writeExport (batch : ExportBatch) (lines : List ExportLine) : Except Problem ExportDatabase := do
  let db ← db.insertBatch batch
  let db ← db.insertLines lines
  let _ ← db.loadAndVerifyExportLines hashes batch
  ensure (db.BatchComplete tenantId batch) (.constraint "PayrollExportBatch_lines_complete")
  .ok db

/-- `createExport`. -/
def createExport (args : ExportRequest) : Except Problem ExportDatabase :=
  match db.batches.find? (·.operationId = args.request.operationId) with
  | some replay => do
      ensure (replay.periodId = args.periodId ∧
          replay.requestHash = args.request.requestHash.val)
        (.problem 409 "idempotency_conflict")
      let _ ← db.readExport tenantId hashes replay
      .ok db
  | none => do
      let period ← db.payroll.requirePeriodById args.periodId
      ensure (period.status = .locked) (.problem 409 "payroll_export_state_invalid")
      ensure (∀ batch ∈ db.batches, batch.periodId ≠ period.id)
        (.problem 409 "payroll_export_exists")
      let creditCost ← db.assertFeatureEntitled tenantId args.subscribed
      ensure (args.expectedCreditCost = .integer creditCost)
        (.problem 409 "payroll_credit_cost_changed")
      let (entries, totalPayableMinutes) ← db.exportableEntries hashes period
      let lines ← hashes.exportLines db.directory (hashes.batchId args.request.operationId)
        args.publicLineId entries
      let csv ← buildPayrollCsv (lines.map Prod.fst)
      let (settlement, store) ← db.debitExport tenantId args period creditCost
      ensure (settlement.consumedCredits = creditCost ∧ IsSafeInteger settlement.newBalance ∧
          0 ≤ settlement.newBalance)
        (.problem 503 "payroll_export_settlement_invalid")
      { db with store := store }.writeExport tenantId hashes
        (hashes.newBatch args period csv lines.length totalPayableMinutes settlement)
        (lines.map Prod.snd)

/-! ## Downloading -/

/-- `downloadExport` on the batch: the content of the file. -/
def downloadBatch (now : Int) (batch : ExportBatch) : Except Problem (String × ExportDatabase) := do
  db.verifyExportCreditProvenance tenantId batch
  ensure (∃ period ∈ db.payroll.periods, period.id = batch.periodId)
    (.problem 503 "payroll_reference_integrity_failed")
  let content ← db.loadAndVerifyExportLines hashes batch
  if batch.status = .generated then do
    let downloaded := { batch with status := .downloaded, downloadedAt := some now }
    let db ← db.updateBatch batch downloaded
    ensure (db.BatchComplete tenantId downloaded) (.constraint "PayrollExportBatch_lines_complete")
    .ok (content, db)
  else .ok (content, db)

/-- `downloadExport`. -/
def downloadExport (now : Int) (publicExportId : String) :
    Except Problem (String × ExportDatabase) := do
  let publicId ← requiredPublicId publicExportId "payroll_export"
  match db.batches.find? (·.publicId = publicId.toLower) with
  | none => .error (.problem 404 "payroll_export_not_found")
  | some batch => db.downloadBatch tenantId hashes now batch

end ExportDatabase

/-! ## Reconciling -/

/-- `MAX_RECONCILIATION_OUTCOMES`. -/
def maxReconciliationOutcomes : Nat := 500

/-- `boundedText`. -/
def boundedText (value field : String) (maximum : Nat) : Except Problem String := do
  let normalized := jsTrim value
  ensure (normalized ≠ "" ∧ jsLength normalized ≤ maximum ∧ hasJsControl normalized = false)
    (.problem 422 ("invalid_payroll_" ++ field))
  .ok normalized

/-- `requireId`. -/
def requireId (value field : String) : Except Problem String := do
  let normalized := jsTrim value
  ensure (normalized ≠ "" ∧ jsLength normalized ≤ 512 ∧
      normalized.toList.all fun c => 0x20 ≤ c.toNat ∧ c.toNat ≤ 0x7e)
    (.problem 422 ("invalid_payroll_" ++ field))
  .ok normalized

/-- The body of `reconcileExport`. -/
structure ReconciliationBody where
  provider : String
  providerEventId : String
  providerTotalMinutes : JsNumber
  outcomes : List Outcome

/-- The normalisation of one outcome. -/
def Outcome.normalize (outcome : Outcome) : Except Problem Outcome := do
  let lineId ← requireId outcome.lineId "lineId"
  match outcome.reason with
  | none => .ok ⟨lineId, outcome.status, none⟩
  | some reason => do
      let reason ← boundedText reason "reason" 500
      .ok ⟨lineId, outcome.status, some reason⟩

/-- `compareText` on the line ids. -/
def sortedOutcomes (outcomes : List Outcome) : List Outcome :=
  outcomes.mergeSort fun a b => decide (a.lineId ≤ b.lineId)

/-- `normalizeReconciliation`. -/
def normalizeReconciliation (value : ReconciliationBody) : Except Problem ReconciliationPayload := do
  let provider ← boundedText value.provider "provider" 100
  let providerEventId ← boundedText value.providerEventId "providerEventId" 200
  match value.providerTotalMinutes.safeInteger? with
  | none => .error (.problem 422 "invalid_payroll_provider_total")
  | some providerTotalMinutes => do
      ensure (1 ≤ value.outcomes.length ∧ value.outcomes.length ≤ maxReconciliationOutcomes)
        (.problem 422 "invalid_payroll_outcomes")
      let outcomes ← value.outcomes.mapM Outcome.normalize
      let outcomes := sortedOutcomes outcomes
      ensure (outcomes.map (·.lineId)).Nodup (.problem 422 "duplicate_payroll_outcomes")
      .ok ⟨provider, providerEventId, providerTotalMinutes, outcomes⟩

/-- A call of `reconcileExport`, with the row id and the instants the database
and the clock supply. -/
structure ReconcileRequest where
  actorUserId : String
  publicExportId : String
  body : ReconciliationBody
  receiptId : String
  receivedAt : Int
  now : Int

/-- The event of an outcome. -/
def Outcome.event (receiptId batchId : String) (outcome : Outcome) : LineEvent :=
  ⟨receiptId, batchId, outcome.lineId, outcome.status, outcome.reason⟩

/-- The state an outcome puts its line in. -/
def Outcome.state (receiptId batchId : String) (outcome : Outcome) : LineState :=
  ⟨batchId, outcome.lineId, outcome.status, receiptId, outcome.reason⟩

/-- The receipt row, with `reconciliationCounts`. -/
def ExportHashes.newReceipt (hashes : ExportHashes) (args : ReconcileRequest)
    (batchId : String) (payload : ReconciliationPayload) : Receipt where
  id := args.receiptId
  batchId := batchId
  provider := payload.provider
  providerEventId := payload.providerEventId
  payloadSha256 := (hashes.reconciliation args.actorUserId batchId payload).val
  providerTotalMinutes := payload.providerTotalMinutes
  acceptedCount := (payload.outcomes.countP (·.status = .accepted) : Nat)
  rejectedCount := (payload.outcomes.countP (·.status = .rejected) : Nat)
  pendingCount := (payload.outcomes.countP (·.status = .pending) : Nat)
  receivedByUserId := args.actorUserId
  receivedAt := args.receivedAt

namespace ExportDatabase

variable (db : ExportDatabase) (tenantId : String) (hashes : ExportHashes)

/-- `internalReconciliationPayload`.  The database compares UUIDs without regard
to case; the map of the lines does not.  Line ids are hexadecimal digests, which
`localeCompare` orders as plain text. -/
def internalReconciliationPayload (batchId : String) (payload : ReconciliationPayload) :
    Except Problem ReconciliationPayload := do
  let publicLineIds ← payload.outcomes.mapM fun outcome =>
    requiredPublicId outcome.lineId "payroll_export_line"
  let lines := ((db.linesOf batchId).filter fun line =>
    line.publicId ∈ publicLineIds.map (·.toLower)).take publicLineIds.length
  ensure (lines.length = publicLineIds.length) (.problem 409 "payroll_reconciliation_line_invalid")
  let outcomes ← payload.outcomes.mapM fun outcome =>
    match lines.find? (·.publicId = outcome.lineId) with
    | none => .error (.problem 503 "payroll_reference_integrity_failed")
    | some line => .ok { outcome with lineId := line.id }
  .ok { payload with outcomes := sortedOutcomes outcomes }

/-- `updateMany` to `RECONCILING`, where the batch is only downloaded. -/
def startReconciling (batch : ExportBatch) : Except Problem ExportDatabase :=
  if batch.status = .downloaded then db.updateBatch batch { batch with status := .reconciling }
  else .ok db

/-- The number of accepted lines of a batch. -/
def acceptedLines (batchId : String) : Nat :=
  db.lineStates.countP fun state => state.batchId = batchId ∧ state.status = .accepted

/-- `updateMany` to `RECONCILED`, where every line is accepted and the receipt
reports the batch's minutes. -/
def completeReconciling (batch : ExportBatch) (payload : ReconciliationPayload) (now : Int) :
    Except Problem ExportDatabase :=
  if (db.acceptedLines batch.id : Int) = batch.rowCount ∧
      payload.providerTotalMinutes = batch.totalPayableMinutes then
    db.updateBatch { batch with status := .reconciling }
      { batch with status := .reconciled, reconciledAt := some now }
  else .ok db

/-- The writes of `reconcileExport`. -/
def recordReceipt (args : ReconcileRequest) (batch : ExportBatch)
    (payload : ReconciliationPayload) : Except Problem ExportDatabase := do
  let receipt := hashes.newReceipt args batch.id payload
  let db ← db.insertReceipt receipt
  let db ← db.insertLineEvents (payload.outcomes.map (Outcome.event args.receiptId batch.id))
  let db ← db.upsertLineStates (payload.outcomes.map (Outcome.state args.receiptId batch.id))
  let db ← db.startReconciling batch
  let db ← db.completeReconciling batch payload args.now
  ensure (db.ReceiptComplete receipt) (.constraint "PayrollReconciliationReceipt_lines_complete")
  ensure (∀ row ∈ db.batches, row.id = batch.id → row ≠ batch → db.BatchComplete tenantId row)
    (.constraint "PayrollExportBatch_lines_complete")
  .ok db

/-- `reconcileExport` on the batch.  The lines of a batch are written with it and
never change, so the payload read before the transaction and the one read inside
it agree. -/
def reconcileBatch (args : ReconcileRequest) (publicPayload : ReconciliationPayload)
    (batch : ExportBatch) : Except Problem ExportDatabase := do
  let payload ← db.internalReconciliationPayload batch.id publicPayload
  match db.receipts.find? fun receipt => receipt.provider = payload.provider ∧
      receipt.providerEventId = payload.providerEventId with
  | some replay =>
      if replay.batchId = batch.id ∧
          replay.payloadSha256 = (hashes.reconciliation args.actorUserId batch.id payload).val then
        .ok db
      else .error (.problem 409 "idempotency_conflict")
  | none => do
      ensure (batch.status ≠ .generated) (.problem 409 "payroll_reconciliation_before_download")
      ensure (batch.status ≠ .reconciled) (.problem 409 "payroll_reconciliation_terminal")
      db.recordReceipt tenantId hashes args batch payload

/-- `reconcileExport`. -/
def reconcileExport (args : ReconcileRequest) : Except Problem ExportDatabase := do
  let publicId ← requiredPublicId args.publicExportId "payroll_export"
  match db.batches.find? (·.publicId = publicId.toLower) with
  | none => .error (.problem 404 "payroll_export_not_found")
  | some batch => do
      let publicPayload ← normalizeReconciliation args.body
      db.reconcileBatch tenantId hashes args publicPayload batch

end ExportDatabase

/-! ## The system -/

/-- A command of the export service, or a move of the tables around it: the
payroll commands, the wallet's other writers, and rows that get a public
identifier. -/
inductive ExportCommand
  | createExport (args : ExportRequest)
  | downloadExport (publicExportId : String)
  | reconcileExport (args : ReconcileRequest)
  | payroll (next : Database)
  | wallet (request : WalletRequest)
  | register (reference : Reference) (publicId : String)

/-- A command at an instant, by a session that has or has lost its authority. -/
structure ExportEvent where
  now : Int
  authorised : Bool
  command : ExportCommand

/-- The ids `createExport` gives its debits; no other writer builds one. -/
def isExportTransactionId (id : String) : Bool :=
  exportTransactionPrefix.toList.isPrefixOf id.toList

/-- What a command does to the tables. -/
def ExportCommand.run (tenantId : String) (hashes : ExportHashes) (isControl : Char → Bool)
    (db : ExportDatabase) (now : Int) : ExportCommand → Except Problem ExportDatabase
  | .createExport args => db.createExport tenantId hashes args
  | .downloadExport publicExportId =>
      (db.downloadExport tenantId hashes now publicExportId).map Prod.snd
  | .reconcileExport args => db.reconcileExport tenantId hashes args
  | .payroll next => do
      -- Foreign keys keep every period that is there.
      ensure (∀ period ∈ db.payroll.periods, ∃ kept ∈ next.periods, kept.id = period.id)
        (.constraint "PayrollExportBatch_period_tenant_fkey")
      .ok { db with payroll := next }
  | .wallet request => do
      ensure (∀ id ∈ request.call.transactionId, isExportTransactionId id = false)
        (.problem 409 "credit_settlement_conflict")
      .ok { db with store := (commit isControl db.store request).2 }
  | .register reference publicId => do
      ensure (Dict.get? db.directory reference = none) (.constraint "publicId_key")
      .ok { db with directory := db.directory ++ [(reference, publicId)] }

/-- The step function: the refusal, where there is one, and the tables
afterwards. -/
def exportStep (tenantId : String) (hashes : ExportHashes) (isControl : Char → Bool)
    (db : ExportDatabase) (event : ExportEvent) : Option Problem × ExportDatabase :=
  match (do
    ensure (event.authorised = true) (.problem 403 "permission_denied")
    event.command.run tenantId hashes isControl db event.now : Except Problem ExportDatabase) with
  | .ok next => (none, next)
  | .error problem => (some problem, db)

/-- The tables of a tenant before its first export. -/
def ExportDatabase.initial (payroll : Database) (store : Store) (directory : Directory) :
    ExportDatabase where
  payroll := payroll
  store := store
  directory := directory
  batches := []
  lines := []
  receipts := []
  lineEvents := []
  lineStates := []

end LunchLineup.Payroll
