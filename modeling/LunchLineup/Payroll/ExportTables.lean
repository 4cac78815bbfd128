import LunchLineup.Payroll.Periods
import LunchLineup.Billing.LedgerInvariant

/-!
# The tables of payroll exports and reconciliation

A locked period is exported once: a batch, one line for each locked entry, and a
debit of the tenant's wallet.  The lines keep internal identifiers; the file that
is downloaded shows public ones, which the services look up (`Directory`).  What
the payroll provider answers is kept as receipts with one event for each line they
name, and as the current state of each line.

The statements check what the column constraints, the unique indexes and the
triggers check.  `PayrollExportBatch_lines_complete` and
`PayrollReconciliationReceipt_lines_complete` are deferred to the commit.
-/

namespace LunchLineup.Payroll

open LunchLineup.Lib LunchLineup.Billing

/-! ## Rows -/

/-- `PayrollExportStatus`. -/
inductive ExportStatus
  | generated
  | downloaded
  | reconciling
  | reconciled
  deriving DecidableEq

/-- `PayrollReconciliationLineStatus`. -/
inductive LineStatus
  | pending
  | accepted
  | rejected
  deriving DecidableEq

/-- A `"PayrollExportBatch"` row. -/
structure ExportBatch where
  id : String
  publicId : String
  periodId : String
  operationId : String
  requestHash : String
  creditTransactionId : String
  status : ExportStatus
  contentSha256 : String
  rowCount : Int
  totalPayableMinutes : Int
  consumedCredits : Int
  newBalance : Int
  downloadedAt : Option Int
  reconciledAt : Option Int
  deriving DecidableEq

/-- A `"PayrollExportLine"` row. -/
structure ExportLine where
  id : String
  publicId : String
  batchId : String
  lineNumber : Int
  lockedEntryId : String
  sourceType : SourceType
  sourceId : String
  employeeId : String
  locationId : Option String
  workTimeZone : String
  clockInAt : Int
  clockOutAt : Int
  breakMinutes : Int
  payableMinutes : Int
  canonicalSha256 : String
  deriving DecidableEq

/-- A `"PayrollReconciliationReceipt"` row. -/
structure Receipt where
  id : String
  batchId : String
  provider : String
  providerEventId : String
  payloadSha256 : String
  providerTotalMinutes : Int
  acceptedCount : Int
  rejectedCount : Int
  pendingCount : Int
  receivedByUserId : String
  receivedAt : Int
  deriving DecidableEq

/-- A `"PayrollReconciliationLineEvent"` row. -/
structure LineEvent where
  receiptId : String
  batchId : String
  lineId : String
  status : LineStatus
  reason : Option String
  deriving DecidableEq

/-- A `"PayrollReconciliationLineState"` row. -/
structure LineState where
  batchId : String
  lineId : String
  status : LineStatus
  latestReceiptId : String
  reason : Option String
  deriving DecidableEq

/-- The unique key of a line state. -/
def LineState.key (state : LineState) : String × String := (state.batchId, state.lineId)

/-- A row that a line refers to. -/
inductive Reference
  | staff (id : String)
  | location (id : String)
  | timeCard (id : String)
  | amendment (id : String)
  deriving DecidableEq

/-- The public identifiers of the tenant's rows. -/
abbrev Directory := Dict Reference String

/-- The tables of a tenant that the export commands read and write. -/
structure ExportDatabase where
  payroll : Database
  store : Store
  directory : Directory
  batches : List ExportBatch
  lines : List ExportLine
  receipts : List Receipt
  lineEvents : List LineEvent
  lineStates : List LineState

/-! ## Line files -/

/-- `PayrollCsvLine`. -/
structure CsvLine where
  id : String
  lineNumber : Int
  sourceType : SourceType
  sourceId : String
  employeeId : String
  locationId : Option String
  workTimeZone : String
  clockInAt : Int
  clockOutAt : Int
  breakMinutes : Int
  payableMinutes : Int
  deriving DecidableEq

/-- The name of a `PayrollSourceType` value. -/
def SourceType.text : SourceType → String
  | .timeCard => "TIME_CARD"
  | .amendment => "AMENDMENT"

/-- The decimal digits of a number, with leading zeros. -/
def padded (width : Nat) (n : Int) : String :=
  let digits := toString n.natAbs
  String.ofList (List.replicate (width - digits.length) '0') ++ digits

/-- The year, month and day of a day number. -/
def civilDate (day : Int) : Int × Int × Int :=
  let shifted := day + 719468
  let era := shifted / 146097
  let dayOfEra := shifted % 146097
  let yearOfEra := (dayOfEra - dayOfEra / 1460 + dayOfEra / 36524 - dayOfEra / 146096) / 365
  let dayOfYear := dayOfEra - (365 * yearOfEra + yearOfEra / 4 - yearOfEra / 100)
  let shiftedMonth := (5 * dayOfYear + 2) / 153
  let month := if shiftedMonth < 10 then shiftedMonth + 3 else shiftedMonth - 9
  let year := yearOfEra + era * 400 + if month ≤ 2 then 1 else 0
  (year, month, dayOfYear - (153 * shiftedMonth + 2) / 5 + 1)

/-- `Date.prototype.toISOString`. -/
def toISOString (instant : Int) : String :=
  let (year, month, day) := civilDate (instant / 86400000)
  let ms := instant % 86400000
  let yearText := if 0 ≤ year ∧ year ≤ 9999 then padded 4 year
    else (if year < 0 then "-" else "+") ++ padded 6 year
  yearText ++ "-" ++ padded 2 month ++ "-" ++ padded 2 day ++ "T" ++ padded 2 (ms / 3600000) ++
    ":" ++ padded 2 (ms / 60000 % 60) ++ ":" ++ padded 2 (ms / 1000 % 60) ++ "." ++
    padded 3 (ms % 1000) ++ "Z"

example : toISOString 1784160000123 = "2026-07-16T00:00:00.123Z" := by decide +kernel

/-- A cell with its quotes. -/
def quotedCell (cell : String) : String :=
  "\"" ++ String.ofList (cell.toList.flatMap fun c => if c = '"' then ['"', '"'] else [c]) ++ "\""

/-- The row of a line in the file. -/
def CsvLine.row (line : CsvLine) : String :=
  ",".intercalate <| [line.id, line.sourceType.text, line.sourceId, line.employeeId,
    line.locationId.getD "", line.workTimeZone, toISOString line.clockInAt,
    toISOString line.clockOutAt, toString line.breakMinutes,
    toString line.payableMinutes].map quotedCell

/-- `ordered` of `buildPayrollCsv`. -/
def orderedLines (lines : List CsvLine) : List CsvLine :=
  lines.mergeSort fun a b =>
    decide (a.lineNumber < b.lineNumber ∨ (a.lineNumber = b.lineNumber ∧ a.id ≤ b.id))

/-- `line.lineNumber === index + 1` for every line. -/
def Numbered (lines : List CsvLine) : Prop :=
  lines.map (·.lineNumber) = (List.range lines.length).map fun index : Nat => (index : Int) + 1

instance (lines : List CsvLine) : Decidable (Numbered lines) := inferInstanceAs (Decidable (_ = _))

/-- The numbers of the line pass `unsignedIntegerCell` and `signedIntegerCell`. -/
def CsvLine.CellsValid (line : CsvLine) : Prop :=
  (IsSafeInteger line.breakMinutes ∧ 0 ≤ line.breakMinutes) ∧ IsSafeInteger line.payableMinutes

instance (line : CsvLine) : Decidable line.CellsValid := inferInstanceAs (Decidable (_ ∧ _))

/-- The refusal both callers of `buildPayrollCsv` turn its errors into, and the
one of the verification. -/
def integrityFailed : Problem := .problem 503 "payroll_export_integrity_failed"

/-- `buildPayrollCsv`. -/
def buildPayrollCsv (lines : List CsvLine) : Except Problem String := do
  let ordered := orderedLines lines
  ensure (Numbered ordered) integrityFailed
  ensure (∀ line ∈ ordered, line.CellsValid) integrityFailed
  let header := "payroll_line_id,source_type,source_id,employee_id,location_id,work_time_zone," ++
    "clock_in_utc,clock_out_utc,break_minutes,payable_minutes"
  let rows := ordered.map (·.row)
  .ok (header ++ "\n" ++ if 0 < rows.length then "\n".intercalate rows ++ "\n" else "")

/-! ## Reconciliation payloads -/

/-- One outcome of a normalised payload. -/
structure Outcome where
  lineId : String
  status : LineStatus
  reason : Option String
  deriving DecidableEq

/-- `ReconciliationPayload`. -/
structure ReconciliationPayload where
  provider : String
  providerEventId : String
  providerTotalMinutes : Int
  outcomes : List Outcome
  deriving DecidableEq

/-! ## Digests -/

/-- The SHA-256 digests and the identifiers derived from them.  The tenant is
fixed and left out of the arguments. -/
structure ExportHashes where
  locks : Hashes
  /-- `deterministicPayrollId('batch', operationId)`. -/
  batchId : String → String
  /-- `deterministicPayrollId('line', { batchId, lineNumber, lockedEntryId })`. -/
  lineId : String → Int → String → String
  /-- `payrollExportLineSha256`. -/
  exportLine : String → String → CsvLine → Sha256
  /-- `payrollContentSha256`. -/
  content : String → Sha256
  /-- `reconciliationPayloadSha256`. -/
  reconciliation : String → String → ReconciliationPayload → Sha256

/-! ## Statements -/

/-- What the ledger ids of export debits start with. -/
def exportTransactionPrefix : String := "feature-usage-payroll-export:"

/-- `feature-usage-payroll-export:${operationId}`. -/
def exportTransactionId (operationId : String) : String :=
  exportTransactionPrefix ++ operationId

/-- `Payroll export (${periodId})`. -/
def exportReason (periodId : String) : String := "Payroll export (" ++ periodId ++ ")"

/-- `"PayrollExportBatch_values_valid"`. -/
def ExportBatch.ValuesValid (batch : ExportBatch) : Prop :=
  isSha256 batch.requestHash = true ∧ isSha256 batch.contentSha256 = true ∧
    batch.creditTransactionId = exportTransactionId batch.operationId ∧ 0 < batch.rowCount ∧
    0 < batch.consumedCredits ∧ 0 ≤ batch.newBalance

instance (batch : ExportBatch) : Decidable batch.ValuesValid := inferInstanceAs (Decidable (_ ∧ _))

/-- `"PayrollExportBatch_state_valid"`. -/
def ExportBatch.StateValid (batch : ExportBatch) : Prop :=
  (batch.status = .generated ∧ batch.downloadedAt = none ∧ batch.reconciledAt = none) ∨
    ((batch.status = .downloaded ∨ batch.status = .reconciling) ∧
      batch.downloadedAt.isSome = true ∧ batch.reconciledAt = none) ∨
    (batch.status = .reconciled ∧ batch.downloadedAt.isSome = true ∧
      batch.reconciledAt.isSome = true)

instance (batch : ExportBatch) : Decidable batch.StateValid := inferInstanceAs (Decidable (_ ∨ _))

/-- The columns `"PayrollExportBatch_snapshot_immutable"` protects. -/
def ExportBatch.SameSnapshot (old new : ExportBatch) : Prop :=
  new.id = old.id ∧ new.periodId = old.periodId ∧ new.operationId = old.operationId ∧
    new.requestHash = old.requestHash ∧ new.creditTransactionId = old.creditTransactionId ∧
    new.contentSha256 = old.contentSha256 ∧ new.rowCount = old.rowCount ∧
    new.totalPayableMinutes = old.totalPayableMinutes ∧
    new.consumedCredits = old.consumedCredits ∧ new.newBalance = old.newBalance

instance (old new : ExportBatch) : Decidable (old.SameSnapshot new) :=
  inferInstanceAs (Decidable (_ ∧ _))

/-- The transitions `"PayrollExportBatch_status_transition"` admits. -/
def ExportStatus.Advances (old new : ExportStatus) : Prop :=
  (old = .generated ∧ new = .downloaded) ∨ (old = .downloaded ∧ new = .reconciling) ∨
    (old = .reconciling ∧ (new = .reconciling ∨ new = .reconciled)) ∨ old = new

instance (old new : ExportStatus) : Decidable (old.Advances new) :=
  inferInstanceAs (Decidable (_ ∨ _))

/-- The line is the snapshot of the entry. -/
def ExportLine.Snapshots (line : ExportLine) (entry : LockedEntry) : Prop :=
  line.lineNumber = entry.sequence + 1 ∧ line.sourceType = entry.sourceType ∧
    line.sourceId = entry.sourceId ∧ line.employeeId = entry.employeeId ∧
    line.locationId = entry.locationId ∧ line.workTimeZone = entry.workTimeZone ∧
    line.clockInAt = entry.clockInAt ∧ line.clockOutAt = entry.clockOutAt ∧
    line.breakMinutes = entry.breakMinutes ∧ line.payableMinutes = entry.payableMinutes

instance (line : ExportLine) (entry : LockedEntry) : Decidable (line.Snapshots entry) :=
  inferInstanceAs (Decidable (_ ∧ _))

/-- `"PayrollExportLine_values_valid"`. -/
def ExportLine.ValuesValid (line : ExportLine) : Prop :=
  0 < line.lineNumber ∧ TimeZoneText line.workTimeZone ∧ line.clockInAt < line.clockOutAt ∧
    0 ≤ line.breakMinutes ∧ isSha256 line.canonicalSha256 = true

instance (line : ExportLine) : Decidable line.ValuesValid := inferInstanceAs (Decidable (_ ∧ _))

/-- `char_length(btrim(text)) BETWEEN 1 AND maximum`. -/
def TrimmedLength (text : String) (maximum : Nat) : Prop :=
  1 ≤ (btrim text).length ∧ (btrim text).length ≤ maximum

instance (text : String) (maximum : Nat) : Decidable (TrimmedLength text maximum) :=
  inferInstanceAs (Decidable (_ ∧ _))

/-- `"PayrollReconciliationReceipt_values_valid"`; the counts are nonnegative by
construction. -/
def Receipt.ValuesValid (receipt : Receipt) : Prop :=
  TrimmedLength receipt.provider 100 ∧ TrimmedLength receipt.providerEventId 200 ∧
    isSha256 receipt.payloadSha256 = true ∧ IsInteger receipt.providerTotalMinutes

instance (receipt : Receipt) : Decidable receipt.ValuesValid := inferInstanceAs (Decidable (_ ∧ _))

/-- `ROW(receivedAt, id) > ROW(receivedAt, id)`. -/
def Receipt.Later (first second : Receipt) : Prop :=
  second.receivedAt < first.receivedAt ∨
    (second.receivedAt = first.receivedAt ∧ second.id < first.id)

instance (first second : Receipt) : Decidable (first.Later second) :=
  inferInstanceAs (Decidable (_ ∨ _))

namespace ExportDatabase

variable (db : ExportDatabase)

/-- The lines of a batch. -/
def linesOf (batchId : String) : List ExportLine := db.lines.filter (·.batchId = batchId)

/-- The deferred trigger `validate_payroll_export_batch_complete`. -/
def BatchComplete (tenantId : String) (batch : ExportBatch) : Prop :=
  ((db.linesOf batch.id).length : Int) = batch.rowCount ∧
    ((db.linesOf batch.id).map (·.payableMinutes)).sum = batch.totalPayableMinutes ∧
    ∃ row ∈ db.store.ledger, row.id = batch.creditTransactionId ∧ row.tenantId = tenantId ∧
      row.amount = -batch.consumedCredits ∧ row.reason = exportReason batch.periodId ∧
      row.balanceAfter = some batch.newBalance

instance (tenantId : String) (batch : ExportBatch) : Decidable (db.BatchComplete tenantId batch) :=
  inferInstanceAs (Decidable (_ ∧ _ ∧ ∃ row ∈ db.store.ledger, _))

/-- `INSERT INTO "PayrollExportBatch"`. -/
def insertBatch (batch : ExportBatch) : Except Problem ExportDatabase := do
  ensure (∃ period ∈ db.payroll.periods, period.id = batch.periodId)
    (.constraint "PayrollExportBatch_period_tenant_fkey")
  ensure (batch.ValuesValid ∧ batch.StateValid) (.constraint "PayrollExportBatch_values_valid")
  ensure (IsInteger batch.totalPayableMinutes) .outOfRange
  ensure (∀ other ∈ db.batches, other.id ≠ batch.id ∧ other.publicId ≠ batch.publicId ∧
      other.periodId ≠ batch.periodId ∧ other.operationId ≠ batch.operationId)
    (.constraint "PayrollExportBatch_periodId_key")
  .ok { db with batches := db.batches ++ [batch] }

/-- `INSERT INTO "PayrollExportLine"`, with the trigger
`validate_payroll_export_line`. -/
def insertLine (line : ExportLine) : Except Problem ExportDatabase := do
  ensure (∃ batch ∈ db.batches, batch.id = line.batchId ∧
      db.payroll.PeriodIs batch.periodId .locked ∧
      ∃ entry ∈ db.payroll.entries, entry.periodId = batch.periodId ∧
        entry.id = line.lockedEntryId ∧ line.Snapshots entry)
    (.constraint "PayrollExportLine_locked_snapshot")
  ensure line.ValuesValid (.constraint "PayrollExportLine_values_valid")
  ensure (∀ other ∈ db.lines, other.id ≠ line.id ∧ other.publicId ≠ line.publicId ∧
      ¬ (other.batchId = line.batchId ∧ (other.lineNumber = line.lineNumber ∨
        other.lockedEntryId = line.lockedEntryId)))
    (.constraint "PayrollExportLine_batchId_lineNumber_key")
  .ok { db with lines := db.lines ++ [line] }

/-- `createMany` of the lines. -/
def insertLines (db : ExportDatabase) : List ExportLine → Except Problem ExportDatabase
  | [] => .ok db
  | line :: rest => do
      let db ← db.insertLine line
      insertLines db rest

/-- `UPDATE "PayrollExportBatch"`: the trigger
`enforce_payroll_export_batch_transition` and the check on the status columns. -/
def updateBatch (old new : ExportBatch) : Except Problem ExportDatabase := do
  ensure (old.SameSnapshot new) (.constraint "PayrollExportBatch_snapshot_immutable")
  ensure ((old.downloadedAt.isSome = true → new.downloadedAt = old.downloadedAt) ∧
      (old.reconciledAt.isSome = true → new.reconciledAt = old.reconciledAt))
    (.constraint "PayrollExportBatch_state_time_immutable")
  ensure (old.status.Advances new.status) (.constraint "PayrollExportBatch_status_transition")
  ensure new.StateValid (.constraint "PayrollExportBatch_state_valid")
  .ok { db with batches := replaceRow (·.id) db.batches new }

/-- `INSERT INTO "PayrollReconciliationReceipt"`. -/
def insertReceipt (receipt : Receipt) : Except Problem ExportDatabase := do
  ensure (∃ batch ∈ db.batches, batch.id = receipt.batchId)
    (.constraint "PayrollReconciliationReceipt_batch_tenant_fkey")
  ensure receipt.ValuesValid (.constraint "PayrollReconciliationReceipt_values_valid")
  ensure (∀ other ∈ db.receipts, other.id ≠ receipt.id ∧
      ¬ (other.provider = receipt.provider ∧ other.providerEventId = receipt.providerEventId))
    (.constraint "PayrollReconciliationReceipt_tenantId_provider_providerEventId_key")
  .ok { db with receipts := db.receipts ++ [receipt] }

/-- `INSERT INTO "PayrollReconciliationLineEvent"`, with the trigger
`validate_payroll_reconciliation_line_event`. -/
def insertLineEvent (event : LineEvent) : Except Problem ExportDatabase := do
  ensure (∃ receipt ∈ db.receipts, receipt.id = event.receiptId ∧
      receipt.batchId = event.batchId ∧
      ∃ line ∈ db.lines, line.batchId = event.batchId ∧ line.id = event.lineId)
    (.constraint "PayrollReconciliationLineEvent_batch_match")
  ensure (∀ reason ∈ event.reason, TrimmedLength reason 500)
    (.constraint "PayrollReconciliationLineEvent_reason_valid")
  ensure (∀ other ∈ db.lineEvents,
      ¬ (other.receiptId = event.receiptId ∧ other.lineId = event.lineId))
    (.constraint "PayrollReconciliationLineEvent_receiptId_lineId_key")
  .ok { db with lineEvents := db.lineEvents ++ [event] }

/-- `createMany` of the events. -/
def insertLineEvents (db : ExportDatabase) : List LineEvent → Except Problem ExportDatabase
  | [] => .ok db
  | event :: rest => do
      let db ← db.insertLineEvent event
      insertLineEvents db rest

/-- The state is the projection of the latest event of its line. -/
def LatestEvent (state : LineState) : Prop :=
  ∃ event ∈ db.lineEvents, ∃ receipt ∈ db.receipts, receipt.id = event.receiptId ∧
    event.batchId = state.batchId ∧ event.lineId = state.lineId ∧
    event.receiptId = state.latestReceiptId ∧ event.status = state.status ∧
    event.reason = state.reason ∧
    ¬ ∃ later ∈ db.lineEvents, ∃ laterReceipt ∈ db.receipts,
      laterReceipt.id = later.receiptId ∧ later.batchId = event.batchId ∧
      later.lineId = event.lineId ∧ laterReceipt.Later receipt

instance (state : LineState) : Decidable (db.LatestEvent state) :=
  inferInstanceAs (Decidable (∃ event ∈ db.lineEvents, _))

/-- `upsert` of `"PayrollReconciliationLineState"`, with the trigger
`validate_payroll_reconciliation_line_state`. -/
def upsertLineState (state : LineState) : Except Problem ExportDatabase := do
  ensure (db.LatestEvent state) (.constraint "PayrollReconciliationLineState_latest_event")
  .ok { db with lineStates := upsertRow LineState.key db.lineStates state }

/-- The loop over the outcomes. -/
def upsertLineStates (db : ExportDatabase) : List LineState → Except Problem ExportDatabase
  | [] => .ok db
  | state :: rest => do
      let db ← db.upsertLineState state
      upsertLineStates db rest

/-- The deferred trigger `validate_payroll_reconciliation_receipt_complete`. -/
def ReceiptComplete (receipt : Receipt) : Prop :=
  let events := db.lineEvents.filter fun event =>
    event.receiptId = receipt.id ∧ event.batchId = receipt.batchId
  (events.countP (·.status = .accepted) : Int) = receipt.acceptedCount ∧
    (events.countP (·.status = .rejected) : Int) = receipt.rejectedCount ∧
    (events.countP (·.status = .pending) : Int) = receipt.pendingCount ∧ 1 ≤ events.length

instance (receipt : Receipt) : Decidable (db.ReceiptComplete receipt) :=
  inferInstanceAs (Decidable (_ ∧ _))

end ExportDatabase

end LunchLineup.Payroll
