import LunchLineup.Payroll.TimeCards

/-!
# Review, decisions, locking and amendments

The commands that take a period from `OPEN` over `REVIEW` to `LOCKED`.  Locking
turns each approved card of the period and each approved amendment filed into it
into a `LockedEntrySource`, sorts the sources, hashes them and inserts them as
entries.  The SHA-256 of a canonical JSON text is the parameter `hashes`, a
function of what is hashed.
-/

namespace LunchLineup.Payroll

open LunchLineup.Lib LunchLineup.Billing

/-! ## Candidate cards -/

/-- `MAX_PAYROLL_LOCK_ENTRIES`. -/
def maxPayrollLockEntries : Nat := 5000

/-- The filter of `lockPayrollCandidateCards`: the cards of the period and those
that overlap its window. -/
def Period.Candidate (period : Period) (card : TimeCard) : Prop :=
  card.payrollPeriodId = some period.id ∨
    (card.deletedAt = none ∧ card.clockInAt < period.endsAt ∧
      ∀ clockOutAt ∈ card.clockOutAt, period.startsAt < clockOutAt)

instance (period : Period) (card : TimeCard) : Decidable (period.Candidate card) :=
  inferInstanceAs (Decidable (_ ∨ _))

/-- `lockPayrollCandidateCards`. -/
def Database.lockPayrollCandidateCards (db : Database) (period : Period) :
    Except Problem (List TimeCard) := do
  let cards := db.cards.filter fun card => period.Candidate card
  ensure (cards.length ≤ maxPayrollLockEntries) (.problem 422 "payroll_period_card_limit")
  .ok cards

/-- An assigned card is closed and wholly inside its period. -/
def Period.Holds (period : Period) (card : TimeCard) : Prop :=
  card.status = .closed ∧ card.clockOutAt.isSome = true ∧ period.startsAt ≤ card.clockInAt ∧
    ∀ clockOutAt ∈ card.clockOutAt, clockOutAt ≤ period.endsAt

instance (period : Period) (card : TimeCard) : Decidable (period.Holds card) :=
  inferInstanceAs (Decidable (_ ∧ _))

/-- `validatePayrollCandidateCards`. -/
def Zones.validatePayrollCandidateCards (zones : Zones) (cards : List TimeCard) (period : Period) :
    Except Problem (List TimeCard) := do
  let assigned := cards.filter fun card => card.payrollPeriodId = some period.id
  ensure (∀ card ∈ cards, card.status ≠ .opened) (.problem 409 "payroll_open_card_overlap")
  ensure (∀ card ∈ cards, card.status ≠ .void ∧ card.deletedAt = none)
    (.problem 409 "payroll_invalid_card_state")
  ensure (∀ card ∈ cards, card.payrollPeriodId = some period.id)
    (.problem 409 "payroll_unassigned_card_overlap")
  ensure (∀ card ∈ assigned, period.Holds card) (.problem 409 "payroll_card_window_invalid")
  ensure (∀ card ∈ assigned, isJsBlank card.userId = false ∧ isJsBlank card.workTimeZone = false)
    (.problem 409 "payroll_card_context_invalid")
  ensure (∀ card ∈ assigned, zones.known card.workTimeZone = true)
    (.problem 422 "invalid_payroll_timezone")
  .ok assigned

/-! ## Review and adoption -/

/-- `requirePeriodById`. -/
def Database.requirePeriodById (db : Database) (id : String) : Except Problem Period :=
  match db.period? id with
  | none => .error (.problem 404 "payroll_period_not_found")
  | some period => .ok period

/-- `startReview`. -/
def Zones.startReview (zones : Zones) (db : Database) (now : Int) (request : RequestIdentity)
    (actorUserId periodId : String) (expectedRevision : Int) : Except Problem Database := do
  match db.replay request with
  | some answer => answer
  | none => do
      let period ← db.requirePeriodById periodId
      ensure (period.status = .opened) (.problem 409 "payroll_review_state_invalid")
      ensure (period.revision = expectedRevision) (.problem 409 "payroll_concurrent_change")
      ensure (period.endsAt ≤ now) (.problem 422 "payroll_period_not_ended")
      let candidates ← db.lockPayrollCandidateCards period
      let _ ← zones.validatePayrollCandidateCards candidates period
      let db ← db.updatePeriod period { period with
        status := .review
        revision := period.revision + 1
        reviewStarted := some (now, actorUserId) }
      db.insertOperation ⟨request.operationId, request.requestHash.val⟩

/-- One card of an adoption. -/
structure AdoptedCard where
  id : String
  expectedRevision : Int

/-- The row `adoptCards` writes. -/
def TimeCard.adopted (card : TimeCard) (now : Int) (periodId : String) : TimeCard :=
  { card with
    payrollPeriodId := some periodId
    revision := card.revision + 1
    updatedAt := now }

/-- The updates of `adoptCards`, card by card; each is refused unless the row is
still as it was read. -/
def Database.adoptRows (now : Int) (periodId : String) :
    Database → List TimeCard → Except Problem Database
  | db, [] => .ok db
  | db, card :: rest =>
      let current? := db.cards.find? fun row => row.id = card.id ∧ row.revision = card.revision ∧
        row.payrollPeriodId = none ∧ row.status = .closed ∧ row.deletedAt = none
      match current? with
      | none => .error (.problem 409 "payroll_concurrent_change")
      | some current => do
          let db ← db.updateTimeCard now current (current.adopted now periodId)
          Database.adoptRows now periodId db rest

/-- `adoptCards`. -/
def Database.adoptCards (db : Database) (now : Int) (request : RequestIdentity) (periodId : String)
    (cards : List AdoptedCard) : Except Problem Database := do
  ensure (cards.map (·.id)).Nodup (.problem 422 "duplicate_payroll_cards")
  match db.replay request with
  | some answer => answer
  | none => do
      let period ← db.requirePeriodById periodId
      ensure (period.status = .opened) (.problem 409 "payroll_adoption_state_invalid")
      let rows := db.cards.filter fun card => card.id ∈ cards.map (·.id)
      ensure (rows.length = cards.length) (.problem 404 "time_card_not_found")
      ensure (∀ card ∈ rows, (∃ item ∈ cards, item.id = card.id ∧
          item.expectedRevision = card.revision) ∧ card.status = .closed ∧
          card.deletedAt = none ∧ card.clockOutAt.isSome = true ∧ card.payrollPeriodId = none)
        (.problem 409 "payroll_concurrent_change")
      ensure (∀ card ∈ rows, period.startsAt ≤ card.clockInAt ∧
          (∀ clockOutAt ∈ card.clockOutAt, clockOutAt ≤ period.endsAt) ∧
          isJsBlank card.workTimeZone = false)
        (.problem 422 "payroll_card_not_adoptable")
      let db ← Database.adoptRows now period.id db rows
      db.insertOperation ⟨request.operationId, request.requestHash.val⟩

/-! ## Card decisions -/

/-- One decision of a request. -/
structure CardDecision where
  timeCardId : String
  expectedRevision : Int
  decision : Decision
  deriving DecidableEq

/-- The inserts of `decideCards`, decision by decision.  `childOperationId` is
the identity derived for each. -/
def Database.insertApprovals (now : Int) (actorUserId periodId : String)
    (childOperationId : String → Int → String) :
    Database → List CardDecision → Except Problem Database
  | db, [] => .ok db
  | db, decision :: rest => do
      let db ← db.insertApproval {
        periodId := periodId
        timeCardId := decision.timeCardId
        timeCardRevision := decision.expectedRevision
        decision := decision.decision
        operationId := childOperationId decision.timeCardId decision.expectedRevision
        decidedAt := now
        decidedByUserId := actorUserId }
      Database.insertApprovals now actorUserId periodId childOperationId db rest

/-- `decideCards`. -/
def Database.decideCards (db : Database) (now : Int) (request : RequestIdentity)
    (childOperationId : String → Int → String) (actorUserId periodId : String)
    (decisions : List CardDecision) : Except Problem Database := do
  ensure (decisions.map fun item => (item.timeCardId, item.expectedRevision)).Nodup
    (.problem 422 "duplicate_payroll_decisions")
  match db.replay request with
  | some answer => answer
  | none => do
      let period ← db.requirePeriodById periodId
      ensure (period.status = .review) (.problem 409 "payroll_decision_state_invalid")
      let rows := db.cards.filter fun card => card.payrollPeriodId = some period.id ∧
        card.id ∈ decisions.map (·.timeCardId)
      ensure (rows.length = decisions.length) (.problem 404 "time_card_not_found")
      ensure (∀ card ∈ rows, (∃ item ∈ decisions, item.timeCardId = card.id ∧
          item.expectedRevision = card.revision) ∧ card.status = .closed ∧ card.deletedAt = none)
        (.problem 409 "payroll_concurrent_change")
      ensure (∀ card ∈ rows, card.userId ≠ actorUserId)
        (.problem 409 "payroll_self_approval_denied")
      ensure (∀ row ∈ db.approvals, ∀ item ∈ decisions,
          ¬ (row.timeCardId = item.timeCardId ∧ row.timeCardRevision = item.expectedRevision))
        (.problem 409 "payroll_decision_exists")
      let db ← Database.insertApprovals now actorUserId period.id childOperationId db decisions
      db.insertOperation ⟨request.operationId, request.requestHash.val⟩

/-! ## Locking -/

/-- `LockedEntrySource`. -/
structure LockedEntrySource where
  sourceType : SourceType
  sourceId : String
  sourceRevision : Int
  employeeId : String
  locationId : Option String
  workTimeZone : String
  clockInAt : Int
  clockOutAt : Int
  breakMinutes : Int
  payableMinutes : Int
  approvedAt : Int
  approvedByUserId : String
  breakIntervals : List BreakInterval
  deriving DecidableEq

/-- `canonicalSha256` of the two things locking hashes. -/
structure Hashes where
  lockEntry : String → LockedEntrySource → Sha256
  lockAggregate : String → List String → Int → Sha256

/-- `Number.isSafeInteger` of an integer. -/
def IsSafeInteger (n : Int) : Prop := -maxSafeInteger ≤ n ∧ n ≤ maxSafeInteger

instance (n : Int) : Decidable (IsSafeInteger n) := inferInstanceAs (Decidable (_ ∧ _))

/-- `payrollWorkedMinutes`. -/
def payrollWorkedMinutes (clockInAt clockOutAt breakMinutes : Int) (failure : Problem) :
    Except Problem Int := do
  ensure (IsSafeInteger breakMinutes ∧ 0 ≤ breakMinutes) failure
  let grossMinutes := floorMinutes clockInAt clockOutAt
  ensure (clockInAt < clockOutAt ∧ IsSafeInteger grossMinutes ∧ 0 ≤ grossMinutes - breakMinutes)
    failure
  .ok (grossMinutes - breakMinutes)

/-- The scan of `lockAndValidateBreaks` over the intervals of one card. -/
def checkLockedBreaks (clockInAt clockOutAt : Int) : Int → List BreakInterval →
    Except Problem Unit
  | _, [] => .ok ()
  | previousEnd, interval :: rest => do
      ensure (clockInAt ≤ interval.startAt ∧ interval.endAt ≤ clockOutAt ∧
          interval.startAt < interval.endAt ∧ previousEnd ≤ interval.startAt)
        (.problem 422 "payroll_break_evidence_invalid")
      checkLockedBreaks clockInAt clockOutAt interval.endAt rest

/-- `lockAndValidateBreaks` for one card. -/
def Database.lockAndValidateBreaks (db : Database) (card : TimeCard) : Except Problem Unit := do
  match db.breaksOf card.id, card.clockOutAt with
  | [], _ => .ok ()
  | _, none => .error (.problem 422 "payroll_break_evidence_invalid")
  | intervals, some clockOutAt => do
      checkLockedBreaks card.clockInAt clockOutAt card.clockInAt intervals
      ensure (intervalMinutes intervals = card.breakMinutes)
        (.problem 422 "payroll_break_minutes_mismatch")

/-- `approvedCardSources` for one card. -/
def Database.approvedCardSource (db : Database) (periodId : String) (card : TimeCard) :
    Except Problem LockedEntrySource :=
  match (db.approval? card.id card.revision).filter (·.periodId = periodId), card.clockOutAt with
  | some row, some clockOutAt => do
      ensure (row.decision = .approved) (.problem 422 "payroll_approval_missing")
      let payableMinutes ← payrollWorkedMinutes card.clockInAt clockOutAt card.breakMinutes
        (.problem 422 "payroll_card_duration_invalid")
      .ok {
        sourceType := .timeCard
        sourceId := card.id
        sourceRevision := card.revision
        employeeId := card.userId
        locationId := card.locationId
        workTimeZone := card.workTimeZone
        clockInAt := card.clockInAt
        clockOutAt := clockOutAt
        breakMinutes := card.breakMinutes
        payableMinutes := payableMinutes
        approvedAt := row.decidedAt
        approvedByUserId := row.decidedByUserId
        breakIntervals := db.breaksOf card.id }
  | _, _ => .error (.problem 422 "payroll_approval_missing")

/-- The source of an approved amendment. -/
def Amendment.source (amendment : Amendment) (original : LockedEntry) (row : AmendmentDecision) :
    LockedEntrySource where
  sourceType := .amendment
  sourceId := amendment.id
  sourceRevision := 1
  employeeId := original.employeeId
  locationId := original.locationId
  workTimeZone := original.workTimeZone
  clockInAt := amendment.replacementClockInAt
  clockOutAt := amendment.replacementClockOutAt
  breakMinutes := amendment.replacementBreakMinutes
  payableMinutes := amendment.minuteDelta
  approvedAt := row.decidedAt
  approvedByUserId := row.decidedByUserId
  breakIntervals := []

/-- An amendment whose decision, where there is one, is an approval. -/
def Database.Approved (db : Database) (amendment : Amendment) : Prop :=
  (db.decision? amendment.id).map (·.decision) = some .approved

instance (db : Database) (amendment : Amendment) : Decidable (db.Approved amendment) :=
  inferInstanceAs (Decidable (_ = _))

/-- `approvedAmendmentSources`. -/
def Database.approvedAmendmentSources (db : Database) (periodId : String) :
    Except Problem (List LockedEntrySource) := do
  let amendments := db.amendments.filter (·.adjustmentPeriodId = periodId)
  ensure (amendments.length ≤ maxPayrollLockEntries)
    (.problem 422 "payroll_amendment_limit_invalid")
  ensure (∀ amendment ∈ amendments, (db.decision? amendment.id).isSome = true)
    (.problem 422 "payroll_amendment_pending")
  (amendments.filter fun amendment => db.Approved amendment).mapM fun amendment =>
    match db.entry? amendment.lockedEntryId, db.decision? amendment.id with
    | some original, some row => .ok (amendment.source original row)
    | _, _ => .error (.problem 503 "payroll_reference_integrity_failed")

/-- `compareText(left, right) || next`. -/
def compareText (left right : String) (next : Bool) : Bool :=
  if left < right then true else if right < left then false else next

/-- The comparison of `materializeLockedSnapshots`. -/
def LockedEntrySource.before (left right : LockedEntrySource) : Bool :=
  compareText left.employeeId right.employeeId <|
    if left.clockInAt = right.clockInAt then
      match left.sourceType, right.sourceType with
      -- "AMENDMENT" stands before "TIME_CARD" in the text order.
      | .amendment, .timeCard => true
      | .timeCard, .amendment => false
      | _, _ => compareText left.sourceId right.sourceId true
    else decide (left.clockInAt < right.clockInAt)

/-- The entry that the source at position `sequence` becomes. -/
def LockedEntrySource.entry (source : LockedEntrySource) (hashes : Hashes) (id periodId : String)
    (sequence : Nat) : LockedEntry where
  id := id
  periodId := periodId
  sequence := sequence
  sourceType := source.sourceType
  sourceId := source.sourceId
  sourceRevision := source.sourceRevision
  employeeId := source.employeeId
  locationId := source.locationId
  workTimeZone := source.workTimeZone
  clockInAt := source.clockInAt
  clockOutAt := source.clockOutAt
  breakMinutes := source.breakMinutes
  payableMinutes := source.payableMinutes
  approvedAt := source.approvedAt
  approvedByUserId := source.approvedByUserId
  canonicalSha256 := (hashes.lockEntry periodId source).val

/-- The entries of `materializeLockedSnapshots`; `newId` names the row at each
position. -/
def materializeLockedSnapshots (hashes : Hashes) (newId : Nat → String) (periodId : String)
    (sources : List LockedEntrySource) : List LockedEntry :=
  (sources.mergeSort LockedEntrySource.before).zipIdx.map fun (source, sequence) =>
    source.entry hashes (newId sequence) periodId sequence

/-- The running total of `materializeLockedSnapshots`. -/
def totalPayableMinutes (total : Int) : List LockedEntry → Except Problem Int
  | [] => .ok total
  | entry :: rest => do
      ensure (IsSafeInteger (total + entry.payableMinutes)) (.problem 422 "payroll_source_invalid")
      totalPayableMinutes (total + entry.payableMinutes) rest

/-- `createMany` of the entries, row by row. -/
def Database.insertLockedEntries : Database → List LockedEntry → Except Problem Database
  | db, [] => .ok db
  | db, entry :: rest => do
      let db ← db.insertLockedEntry entry
      Database.insertLockedEntries db rest

/-- The row `lockPeriod` writes. -/
def Period.lockedAs (period : Period) (lock : LockRecord) : Period :=
  { period with
    status := .locked
    revision := period.revision + 1
    lock := some lock }

/-- `lockPeriod`. -/
def Zones.lockPeriod (zones : Zones) (hashes : Hashes) (db : Database) (now : Int)
    (request : RequestIdentity) (newId : Nat → String) (actorUserId periodId : String)
    (expectedRevision : Int) : Except Problem Database := do
  let period ← db.requirePeriodById periodId
  match period.status with
  | .locked =>
      if period.lock.map (fun lock => (lock.lockOperationId, lock.lockRequestHash)) =
          some (request.operationId, request.requestHash.val) then .ok db
      else .error (.problem 409 "idempotency_conflict")
  | .opened => .error (.problem 409 "payroll_lock_state_invalid")
  | .review => do
      ensure (period.revision = expectedRevision) (.problem 409 "payroll_concurrent_change")
      ensure (period.endsAt ≤ now) (.problem 422 "payroll_period_not_ended")
      let candidates ← db.lockPayrollCandidateCards period
      let cards ← zones.validatePayrollCandidateCards candidates period
      checkAll cards db.lockAndValidateBreaks
      let cardSources ← cards.mapM (db.approvedCardSource period.id)
      let amendmentSources ← db.approvedAmendmentSources period.id
      ensure (cardSources.length + amendmentSources.length ≤ maxPayrollLockEntries)
        (.problem 422 "payroll_lock_entry_limit")
      let entries := materializeLockedSnapshots hashes newId period.id
        (cardSources ++ amendmentSources)
      let total ← totalPayableMinutes 0 entries
      let db ← db.insertLockedEntries entries
      db.updatePeriod period (period.lockedAs {
        lockedAt := now
        lockedByUserId := actorUserId
        lockOperationId := request.operationId
        lockRequestHash := request.requestHash.val
        lockedEntrySha256 :=
          (hashes.lockAggregate period.id (entries.map (·.canonicalSha256)) total).val
        lockedEntryCount := entries.length
        totalPayableMinutes := total })

/-! ## Amendments -/

/-- The body of `createAmendment`; `id` is the identifier the database
generates. -/
structure AmendmentRequest where
  id : String
  entryId : String
  adjustmentPeriodId : String
  replacementClockInAt : Int
  replacementClockOutAt : Int
  replacementBreakMinutes : JsNumber

/-- `createAmendment`. -/
def Database.createAmendment (db : Database) (request : RequestIdentity) (actorUserId : String)
    (body : AmendmentRequest) : Except Problem Database := do
  let failure := Problem.problem 422 "invalid_payroll_amendment_time"
  match body.replacementBreakMinutes.safeInteger? with
  | none => .error failure
  | some breakMinutes => do
      let payableMinutes ← payrollWorkedMinutes body.replacementClockInAt
        body.replacementClockOutAt breakMinutes failure
      match db.amendments.find? (·.operationId = request.operationId) with
      | some replay =>
          if replay.requestHash = request.requestHash.val then .ok db
          else .error (.problem 409 "idempotency_conflict")
      | none => do
          let adjustmentPeriod ← db.requirePeriodById body.adjustmentPeriodId
          match db.entry? body.entryId with
          | none => .error (.problem 404 "payroll_locked_entry_not_found")
          | some entry => do
              ensure (entry.sourceType = .timeCard)
                (.problem 422 "payroll_amendment_source_invalid")
              ensure (entry.employeeId ≠ actorUserId)
                (.problem 409 "payroll_self_amendment_denied")
              ensure (adjustmentPeriod.status = .opened)
                (.problem 409 "payroll_adjustment_period_invalid")
              let sourcePeriod ← db.requirePeriodById entry.periodId
              ensure (sourcePeriod.endsAt ≤ adjustmentPeriod.startsAt)
                (.problem 409 "payroll_adjustment_period_order_invalid")
              let minuteDelta := payableMinutes - entry.payableMinutes
              ensure (IsSafeInteger minuteDelta) (.problem 422 "payroll_amendment_delta_invalid")
              db.insertAmendment {
                id := body.id
                lockedEntryId := entry.id
                adjustmentPeriodId := adjustmentPeriod.id
                operationId := request.operationId
                requestHash := request.requestHash.val
                requestedByUserId := actorUserId
                replacementClockInAt := body.replacementClockInAt
                replacementClockOutAt := body.replacementClockOutAt
                replacementBreakMinutes := breakMinutes
                replacementPayableMinutes := payableMinutes
                minuteDelta := minuteDelta }

/-- `decideAmendment`. -/
def Database.decideAmendment (db : Database) (now : Int) (request : RequestIdentity)
    (actorUserId amendmentId : String) (decision : Decision) : Except Problem Database := do
  match db.decisions.find? (·.operationId = request.operationId) with
  | some replay =>
      if replay.requestHash = request.requestHash.val then .ok db
      else .error (.problem 409 "idempotency_conflict")
  | none =>
      match db.amendment? amendmentId with
      | none => .error (.problem 404 "payroll_amendment_not_found")
      | some amendment => do
          let adjustmentPeriod ← db.requirePeriodById amendment.adjustmentPeriodId
          match db.entry? amendment.lockedEntryId with
          | none => .error (.problem 503 "payroll_reference_integrity_failed")
          | some source => do
              ensure (adjustmentPeriod.status = .review)
                (.problem 409 "payroll_amendment_decision_state_invalid")
              ensure (amendment.requestedByUserId ≠ actorUserId ∧ source.employeeId ≠ actorUserId)
                (.problem 409 "payroll_self_amendment_decision_denied")
              ensure (db.decision? amendment.id = none)
                (.problem 409 "payroll_amendment_decision_exists")
              db.insertDecision {
                amendmentId := amendment.id
                decision := decision
                operationId := request.operationId
                requestHash := request.requestHash.val
                decidedByUserId := actorUserId
                decidedAt := now }

end LunchLineup.Payroll
