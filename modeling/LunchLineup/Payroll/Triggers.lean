import LunchLineup.Payroll.Tables
import LunchLineup.Lib.Table

/-!
# Statements on the payroll tables

Every write of the services goes through one of the statements below.  A
statement checks the column constraints, the unique indexes and the triggers of
its table in the transaction's current state and then changes the table, or it
fails and the transaction is rolled back.  No statement of the services deletes
a period, a card, an approval, an entry or an amendment, so only the triggers
for inserts and updates appear.
-/

namespace LunchLineup.Payroll

open LunchLineup.Lib LunchLineup.Billing

/-! ## What the triggers compare -/

/-- `daterange("localStartDate", "localEndDateExclusive", '[)') && ...`. -/
def Period.DatesOverlap (first second : Period) : Prop :=
  first.localStartDate < second.localEndDateExclusive ∧
    second.localStartDate < first.localEndDateExclusive

instance (first second : Period) : Decidable (first.DatesOverlap second) :=
  inferInstanceAs (Decidable (_ ∧ _))

/-- The instant lies in the period's window. -/
def Period.Contains (period : Period) (instant : Int) : Prop :=
  period.startsAt ≤ instant ∧ instant < period.endsAt

instance (period : Period) (instant : Int) : Decidable (period.Contains instant) :=
  inferInstanceAs (Decidable (_ ∧ _))

/-- The columns `"PayrollPeriod_snapshot_immutable"` protects. -/
def Period.SameSnapshot (old new : Period) : Prop :=
  new.id = old.id ∧ new.policyVersionId = old.policyVersionId ∧
    new.localStartDate = old.localStartDate ∧
    new.localEndDateExclusive = old.localEndDateExclusive ∧ new.startsAt = old.startsAt ∧
    new.endsAt = old.endsAt ∧ new.timeZone = old.timeZone ∧ new.cadence = old.cadence

instance (old new : Period) : Decidable (old.SameSnapshot new) :=
  inferInstanceAs (Decidable (_ ∧ _))

/-- The card is subject to `"TimeCard_employee_no_overlap"`. -/
def TimeCard.Active (card : TimeCard) : Prop := card.deletedAt = none ∧ card.status ≠ .void

instance (card : TimeCard) : Decidable card.Active := inferInstanceAs (Decidable (_ ∧ _))

/-- The card is subject to `"TimeCard_one_open_per_user_idx"`. -/
def TimeCard.Running (card : TimeCard) : Prop := card.status = .opened ∧ card.deletedAt = none

instance (card : TimeCard) : Decidable card.Running := inferInstanceAs (Decidable (_ ∧ _))

/-- `tsrange("clockInAt", "clockOutAt", '[)') && ...`, where a missing end is
unbounded. -/
def TimeCard.Overlaps (first second : TimeCard) : Prop :=
  (∀ clockOutAt ∈ second.clockOutAt, first.clockInAt < clockOutAt) ∧
    (∀ clockOutAt ∈ first.clockOutAt, second.clockInAt < clockOutAt)

instance (first second : TimeCard) : Decidable (first.Overlaps second) :=
  inferInstanceAs (Decidable (_ ∧ _))

/-- The columns whose change is `business_changed`. -/
def TimeCard.SameBusiness (old new : TimeCard) : Prop :=
  new.userId = old.userId ∧ new.locationId = old.locationId ∧ new.shiftId = old.shiftId ∧
    new.clockInAt = old.clockInAt ∧ new.clockOutAt = old.clockOutAt ∧
    new.breakMinutes = old.breakMinutes ∧ new.status = old.status ∧ new.notes = old.notes ∧
    new.deletedAt = old.deletedAt ∧ new.payrollPeriodId = old.payrollPeriodId ∧
    new.workTimeZone = old.workTimeZone

instance (old new : TimeCard) : Decidable (old.SameBusiness new) :=
  inferInstanceAs (Decidable (_ ∧ _))

namespace Database

variable (db : Database)

/-! ## Periods -/

/-- `INSERT INTO "PayrollPeriod"`. -/
def insertPeriod (period : Period) : Except Problem Database := do
  ensure (∀ other ∈ db.periods, other.id ≠ period.id) (.constraint "PayrollPeriod_pkey")
  ensure (∀ other ∈ db.periods, other.localStartDate ≠ period.localStartDate)
    (.constraint "PayrollPeriod_tenantId_localStartDate_key")
  ensure (∀ other ∈ db.periods, ¬ other.DatesOverlap period)
    (.constraint "PayrollPeriod_tenant_no_overlap")
  ensure (period.localStartDate < period.localEndDateExclusive ∧ period.startsAt < period.endsAt)
    (.constraint "PayrollPeriod_windows_valid")
  ensure (TimeZoneText period.timeZone) (.constraint "PayrollPeriod_snapshot_valid")
  .ok { db with periods := db.periods ++ [period] }

/-- The tables after the period `new` took the place of the row with its id. -/
def replacePeriod (new : Period) : Database :=
  { db with periods := replaceRow (·.id) db.periods new }

/-- The entries of a period. -/
def entriesOf (periodId : String) : List LockedEntry := db.entries.filter (·.periodId = periodId)

/-- `UPDATE "PayrollPeriod"`: the trigger `enforce_payroll_period_transition` and
the checks on the review and lock columns. -/
def updatePeriod (old new : Period) : Except Problem Database := do
  ensure (old.SameSnapshot new) (.constraint "PayrollPeriod_snapshot_immutable")
  ensure (new.revision = old.revision + 1) (.constraint "PayrollPeriod_revision_transition")
  ensure ((old.status = .opened ∧ new.status = .review) ∨
      (old.status = .review ∧ new.status = .locked))
    (.constraint "PayrollPeriod_status_transition")
  match new.status, new.lock with
  | .locked, some lock => do
      ensure (new.reviewStarted = old.reviewStarted)
        (.constraint "PayrollPeriod_review_snapshot_immutable")
      ensure (((db.entriesOf new.id).length : Int) = lock.lockedEntryCount ∧
          ((db.entriesOf new.id).map (·.payableMinutes)).sum = lock.totalPayableMinutes)
        (.constraint "PayrollPeriod_locked_totals_match")
      ensure (isSha256 lock.lockRequestHash = true ∧ isSha256 lock.lockedEntrySha256 = true)
        (.constraint "PayrollPeriod_lock_state_valid")
      ensure (∀ other ∈ db.periods, ∀ otherLock ∈ other.lock,
          otherLock.lockOperationId ≠ lock.lockOperationId)
        (.constraint "PayrollPeriod_lockOperationId_key")
      ensure (IsInteger lock.totalPayableMinutes) .outOfRange
      .ok (db.replacePeriod new)
  | .review, none => do
      ensure (new.reviewStarted.isSome = true) (.constraint "PayrollPeriod_review_state_valid")
      .ok (db.replacePeriod new)
  | _, _ => .error (.constraint "PayrollPeriod_lock_state_valid")

/-! ## Time cards -/

/-- A period with the given id exists and has left `OPEN`. -/
def MembershipFrozen (periodId : Option String) : Prop :=
  ∃ period ∈ db.periods, some period.id = periodId ∧ period.status ≠ .opened

instance (periodId : Option String) : Decidable (db.MembershipFrozen periodId) :=
  inferInstanceAs (Decidable (∃ period ∈ db.periods, _))

/-- `"TimeCard_payroll_period_assignment"`: an assigned card starts in the
window of its period, and that period is not locked. -/
def Assignable (card : TimeCard) : Prop :=
  ∀ periodId ∈ card.payrollPeriodId,
    ∃ period ∈ db.periods, period.id = periodId ∧ period.status ≠ .locked ∧
      period.Contains card.clockInAt

instance (card : TimeCard) : Decidable (db.Assignable card) :=
  inferInstanceAs (Decidable (∀ periodId ∈ card.payrollPeriodId, _))

/-- A locked period owns the card or contains its start. -/
def UnderLock (card : TimeCard) : Prop :=
  ∃ period ∈ db.periods, period.status = .locked ∧
    (some period.id = card.payrollPeriodId ∨ period.Contains card.clockInAt)

instance (card : TimeCard) : Decidable (db.UnderLock card) :=
  inferInstanceAs (Decidable (∃ period ∈ db.periods, _))

/-- The work time zone a card with this location must carry. -/
def ZoneOf (locationId : Option String) (workTimeZone : String) : Prop :=
  match locationId with
  | some id => ∃ location ∈ db.locations, location.id = id ∧ location.timezone = workTimeZone
  | none => workTimeZone = "UTC"

instance (locationId : Option String) (workTimeZone : String) :
    Decidable (db.ZoneOf locationId workTimeZone) :=
  match locationId with
  | some _ => inferInstanceAs (Decidable (∃ location ∈ db.locations, _))
  | none => inferInstanceAs (Decidable (_ = _))

/-- The unique indexes and the exclusion constraint over the other cards. -/
def CardIndexes (card : TimeCard) : Prop :=
  ∀ other ∈ db.cards, other.id ≠ card.id →
    ¬ (card.Running ∧ other.Running ∧ other.userId = card.userId) ∧
      ¬ (card.Active ∧ other.Active ∧ other.userId = card.userId ∧ other.Overlaps card)

instance (card : TimeCard) : Decidable (db.CardIndexes card) :=
  inferInstanceAs (Decidable (∀ other ∈ db.cards, _))

/-- `INSERT INTO "TimeCard"`, with the trigger `enforce_time_card_payroll_state`. -/
def insertTimeCard (card : TimeCard) : Except Problem Database := do
  ensure (db.ZoneOf card.locationId card.workTimeZone)
    (.constraint "TimeCard_work_timezone_snapshot")
  ensure (¬ db.MembershipFrozen card.payrollPeriodId)
    (.constraint "TimeCard_payroll_review_membership")
  ensure (db.Assignable card) (.constraint "TimeCard_payroll_period_assignment")
  ensure card.ValuesValid (.constraint "TimeCard_values_valid")
  ensure (∀ other ∈ db.cards, other.id ≠ card.id) (.constraint "TimeCard_pkey")
  ensure (∀ other ∈ db.cards, other.clockInOperationId.isSome = true →
      other.clockInOperationId ≠ card.clockInOperationId)
    (.constraint "TimeCard_clockInOperationId_key")
  ensure (db.CardIndexes card) (.constraint "TimeCard_employee_no_overlap")
  .ok { db with cards := db.cards ++ [card] }

/-- The tables after the card `new` took the place of the row with its id. -/
def replaceCard (new : TimeCard) : Database :=
  { db with cards := replaceRow (·.id) db.cards new }

/-- `UPDATE "TimeCard"`, with the triggers `enforce_time_card_payroll_state` and
`enforce_time_card_parent_window`. -/
def updateTimeCard (now : Int) (old new : TimeCard) : Except Problem Database := do
  ensure (∀ interval ∈ db.breaks, interval.timeCardId = new.id →
      new.clockInAt ≤ interval.startAt ∧ interval.endAt ≤ new.clockOutAt.getD now)
    (.constraint "TimeCard_breaks_inside_parent")
  ensure (if new.locationId = old.locationId then new.workTimeZone = old.workTimeZone
      else db.ZoneOf new.locationId new.workTimeZone)
    (.constraint "TimeCard_work_timezone_immutable")
  ensure (new.payrollPeriodId = old.payrollPeriodId ∨
      (¬ db.MembershipFrozen old.payrollPeriodId ∧ ¬ db.MembershipFrozen new.payrollPeriodId))
    (.constraint "TimeCard_payroll_review_membership")
  ensure (db.Assignable new) (.constraint "TimeCard_payroll_period_assignment")
  ensure (¬ db.UnderLock old ∧ ¬ db.UnderLock new) (.constraint "TimeCard_payroll_period_locked")
  ensure (new.revision = if old.SameBusiness new then old.revision else old.revision + 1)
    (.constraint "TimeCard_revision_transition")
  ensure new.ValuesValid (.constraint "TimeCard_values_valid")
  ensure (db.CardIndexes new) (.constraint "TimeCard_employee_no_overlap")
  .ok (db.replaceCard new)

/-! ## Breaks -/

/-- The trigger `enforce_time_card_break_payroll_state` lets the breaks of the
card change: its period is not locked, and no decision on its current revision
stands in a period under review. -/
def BreaksFree (timeCardId : String) : Prop :=
  ∀ card ∈ db.cards, card.id = timeCardId →
    (∀ period ∈ db.periods, some period.id = card.payrollPeriodId → period.status ≠ .locked) ∧
    (∀ row ∈ db.approvals, row.timeCardId = card.id → row.timeCardRevision = card.revision →
      ∀ period ∈ db.periods, period.id = row.periodId → period.status ≠ .review)

instance (timeCardId : String) : Decidable (db.BreaksFree timeCardId) :=
  inferInstanceAs (Decidable (∀ card ∈ db.cards, _))

/-- `DELETE FROM "TimeCardBreak"` for one card; the trigger fires on each row. -/
def deleteBreaks (timeCardId : String) : Except Problem Database := do
  ensure ((∃ interval ∈ db.breaks, interval.timeCardId = timeCardId) → db.BreaksFree timeCardId)
    (.constraint "TimeCardBreak_payroll_period_locked")
  .ok { db with breaks := db.breaks.filter (·.timeCardId ≠ timeCardId) }

/-- `INSERT INTO "TimeCardBreak"`, with the triggers
`enforce_time_card_break_payroll_state` and `enforce_time_card_break_window`. -/
def insertBreak (now : Int) (interval : TimeCardBreak) : Except Problem Database := do
  ensure (db.BreaksFree interval.timeCardId) (.constraint "TimeCardBreak_payroll_period_locked")
  ensure (∃ card ∈ db.cards, card.id = interval.timeCardId ∧ card.Active ∧
      card.clockInAt ≤ interval.startAt ∧ interval.endAt ≤ card.clockOutAt.getD now)
    (.constraint "TimeCardBreak_parent_window_valid")
  ensure (interval.startAt < interval.endAt) (.constraint "TimeCardBreak_window_valid")
  ensure (∀ other ∈ db.breaks, other.timeCardId = interval.timeCardId →
      ¬ (other.startAt < interval.endAt ∧ interval.startAt < other.endAt))
    (.constraint "TimeCardBreak_no_overlap")
  .ok { db with breaks := db.breaks ++ [interval] }

/-! ## Approvals, entries and amendments -/

/-- `INSERT INTO "PayrollTimeCardApproval"`, with the trigger
`validate_payroll_approval`. -/
def insertApproval (row : Approval) : Except Problem Database := do
  ensure (∃ card ∈ db.cards, card.id = row.timeCardId ∧ card.payrollPeriodId = some row.periodId ∧
      db.PeriodIs row.periodId .review ∧ card.status = .closed ∧
      card.revision = row.timeCardRevision)
    (.constraint "PayrollTimeCardApproval_current_revision")
  ensure (∀ card ∈ db.cards, card.id = row.timeCardId → card.userId ≠ row.decidedByUserId)
    (.constraint "PayrollTimeCardApproval_separation")
  ensure (∀ other ∈ db.approvals, ¬ (other.timeCardId = row.timeCardId ∧
      other.timeCardRevision = row.timeCardRevision) ∧ other.operationId ≠ row.operationId)
    (.constraint "PayrollTimeCardApproval_tenantId_timeCardId_timeCardRevision_key")
  .ok { db with approvals := db.approvals ++ [row] }

/-- The entry is the snapshot of an approved card that
`validate_payroll_locked_entry` expects. -/
def SnapshotsCard (entry : LockedEntry) (card : TimeCard) (row : Approval) : Prop :=
  card.id = entry.sourceId ∧ card.payrollPeriodId = some entry.periodId ∧ card.status = .closed ∧
    card.deletedAt = none ∧ row.periodId = entry.periodId ∧ row.timeCardId = card.id ∧
    row.timeCardRevision = card.revision ∧ row.decision = .approved ∧
    entry.employeeId = card.userId ∧ entry.locationId = card.locationId ∧
    entry.workTimeZone = card.workTimeZone ∧ entry.clockInAt = card.clockInAt ∧
    some entry.clockOutAt = card.clockOutAt ∧ entry.breakMinutes = card.breakMinutes ∧
    entry.payableMinutes = floorMinutes entry.clockInAt entry.clockOutAt - card.breakMinutes ∧
    entry.approvedAt = row.decidedAt ∧ entry.approvedByUserId = row.decidedByUserId ∧
    entry.sourceRevision = card.revision

instance (entry : LockedEntry) (card : TimeCard) (row : Approval) :
    Decidable (SnapshotsCard entry card row) :=
  inferInstanceAs (Decidable (_ ∧ _))

/-- The entry is the snapshot of an approved amendment that
`validate_payroll_locked_entry` expects. -/
def SnapshotsAmendment (entry : LockedEntry) (amendment : Amendment) (row : AmendmentDecision)
    (original : LockedEntry) : Prop :=
  amendment.id = entry.sourceId ∧ amendment.adjustmentPeriodId = entry.periodId ∧
    row.amendmentId = amendment.id ∧ row.decision = .approved ∧
    original.id = amendment.lockedEntryId ∧ entry.employeeId = original.employeeId ∧
    entry.locationId = original.locationId ∧ entry.workTimeZone = original.workTimeZone ∧
    entry.clockInAt = amendment.replacementClockInAt ∧
    entry.clockOutAt = amendment.replacementClockOutAt ∧
    entry.breakMinutes = amendment.replacementBreakMinutes ∧
    entry.payableMinutes = amendment.minuteDelta ∧ entry.approvedAt = row.decidedAt ∧
    entry.approvedByUserId = row.decidedByUserId ∧ entry.sourceRevision = 1

instance (entry : LockedEntry) (amendment : Amendment) (row : AmendmentDecision)
    (original : LockedEntry) : Decidable (SnapshotsAmendment entry amendment row original) :=
  inferInstanceAs (Decidable (_ ∧ _))

/-- `"PayrollLockedEntry_source_snapshot"`. -/
def SnapshotsSource (entry : LockedEntry) : Prop :=
  match entry.sourceType with
  | .timeCard => ∃ card ∈ db.cards, ∃ row ∈ db.approvals, SnapshotsCard entry card row
  | .amendment => ∃ amendment ∈ db.amendments, ∃ row ∈ db.decisions, ∃ original ∈ db.entries,
      SnapshotsAmendment entry amendment row original

instance (entry : LockedEntry) : Decidable (db.SnapshotsSource entry) :=
  match h : entry.sourceType with
  | .timeCard => decidable_of_iff
      (∃ card ∈ db.cards, ∃ row ∈ db.approvals, SnapshotsCard entry card row) (by
        simp [SnapshotsSource, h])
  | .amendment => decidable_of_iff
      (∃ amendment ∈ db.amendments, ∃ row ∈ db.decisions, ∃ original ∈ db.entries,
        SnapshotsAmendment entry amendment row original) (by
        simp [SnapshotsSource, h])

/-- `INSERT INTO "PayrollLockedEntry"`, with the trigger
`validate_payroll_locked_entry`. -/
def insertLockedEntry (entry : LockedEntry) : Except Problem Database := do
  ensure (db.PeriodIs entry.periodId .review) (.constraint "PayrollLockedEntry_review_period")
  ensure (db.SnapshotsSource entry) (.constraint "PayrollLockedEntry_source_snapshot")
  ensure entry.ValuesValid (.constraint "PayrollLockedEntry_values_valid")
  ensure (IsInteger entry.payableMinutes) .outOfRange
  ensure (∀ other ∈ db.entries, other.id ≠ entry.id) (.constraint "PayrollLockedEntry_pkey")
  ensure (∀ other ∈ db.entries, other.periodId = entry.periodId →
      other.sequence ≠ entry.sequence ∧
        ¬ (other.sourceType = entry.sourceType ∧ other.sourceId = entry.sourceId))
    (.constraint "PayrollLockedEntry_periodId_sourceType_sourceId_key")
  .ok { db with entries := db.entries ++ [entry] }

/-- `INSERT INTO "PayrollAmendment"`, with the trigger
`validate_payroll_amendment`. -/
def insertAmendment (amendment : Amendment) : Except Problem Database := do
  ensure (IsInteger amendment.replacementBreakMinutes ∧
      IsInteger amendment.replacementPayableMinutes ∧ IsInteger amendment.minuteDelta ∧
      IsInteger (floorMinutes amendment.replacementClockInAt amendment.replacementClockOutAt))
    .outOfRange
  ensure (∃ entry ∈ db.entries, entry.id = amendment.lockedEntryId ∧
      entry.sourceType = .timeCard ∧ entry.employeeId ≠ amendment.requestedByUserId ∧
      (∃ source ∈ db.periods, source.id = entry.periodId ∧ source.status = .locked ∧
        ∃ adjustment ∈ db.periods, adjustment.id = amendment.adjustmentPeriodId ∧
          adjustment.status = .opened ∧ source.endsAt ≤ adjustment.startsAt) ∧
      0 ≤ amendment.replacementPayableMinutes ∧
      amendment.replacementPayableMinutes =
        floorMinutes amendment.replacementClockInAt amendment.replacementClockOutAt -
          amendment.replacementBreakMinutes ∧
      amendment.minuteDelta = amendment.replacementPayableMinutes - entry.payableMinutes)
    (.constraint "PayrollAmendment_source_snapshot")
  ensure amendment.ValuesValid (.constraint "PayrollAmendment_values_valid")
  ensure (∀ other ∈ db.amendments, other.id ≠ amendment.id ∧
      other.operationId ≠ amendment.operationId)
    (.constraint "PayrollAmendment_operationId_key")
  .ok { db with amendments := db.amendments ++ [amendment] }

/-- `INSERT INTO "PayrollAmendmentDecision"`, with the trigger
`validate_payroll_amendment_decision`. -/
def insertDecision (row : AmendmentDecision) : Except Problem Database := do
  ensure (∃ amendment ∈ db.amendments, amendment.id = row.amendmentId ∧
      (∃ entry ∈ db.entries, entry.id = amendment.lockedEntryId ∧
        row.decidedByUserId ≠ amendment.requestedByUserId ∧
        row.decidedByUserId ≠ entry.employeeId) ∧
      db.PeriodIs amendment.adjustmentPeriodId .review ∧
      (row.decision = .approved → ∀ other ∈ db.amendments,
        other.lockedEntryId = amendment.lockedEntryId → other.id ≠ amendment.id →
        ∀ decided ∈ db.decisions, decided.amendmentId = other.id → decided.decision ≠ .approved))
    (.constraint "PayrollAmendmentDecision_separation")
  ensure (∀ other ∈ db.decisions, other.amendmentId ≠ row.amendmentId ∧
      other.operationId ≠ row.operationId)
    (.constraint "PayrollAmendmentDecision_amendmentId_key")
  .ok { db with decisions := db.decisions ++ [row] }

/-- `INSERT INTO "PayrollOperation"`. -/
def insertOperation (row : Operation) : Except Problem Database := do
  ensure (∀ other ∈ db.operations, other.operationId ≠ row.operationId)
    (.constraint "PayrollOperation_pkey")
  .ok { db with operations := db.operations ++ [row] }

end Database

end LunchLineup.Payroll
