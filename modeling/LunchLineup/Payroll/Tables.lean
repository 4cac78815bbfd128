import LunchLineup.Billing.Wallet

/-!
# The payroll tables of one tenant

Time cards are assigned to payroll periods; a period goes through review and
lock, and locking it copies every approved card and amendment into an immutable
entry.  Row-level security confines a session to one tenant, so the tables here
are those of one tenant and carry no tenant column.  Public identifiers stand
in bijection with the internal ones and are left out, and so are the audit log
and the stored responses.

Instants are milliseconds since the epoch, as in the `TIMESTAMP(3)` columns, and
calendar dates are day numbers.
-/

namespace LunchLineup.Payroll

open LunchLineup.Lib LunchLineup.Billing

/-! ## Texts -/

/-- `btrim(text)`: PostgreSQL trims spaces only. -/
def btrim (text : String) : List Char :=
  (((text.toList.dropWhile (· == ' ')).reverse).dropWhile (· == ' ')).reverse

/-- `char_length(btrim(text)) BETWEEN 1 AND 100`. -/
def TimeZoneText (text : String) : Prop :=
  1 ≤ (btrim text).length ∧ (btrim text).length ≤ 100

instance (text : String) : Decidable (TimeZoneText text) := inferInstanceAs (Decidable (_ ∧ _))

/-- `text ~ '^[a-f0-9]{64}$'`. -/
def isSha256 (text : String) : Bool :=
  text.toList.length == 64 &&
    text.toList.all fun c => ('0' ≤ c && c ≤ '9') || ('a' ≤ c && c ≤ 'f')

/-- The hexadecimal text of a SHA-256 digest. -/
abbrev Sha256 := {text : String // isSha256 text = true}

/-! ## Enumerations -/

/-- `PayrollCadence`. -/
inductive Cadence
  | weekly
  | biweekly
  deriving DecidableEq

/-- `PayrollPeriodStatus`. -/
inductive PeriodStatus
  | opened
  | review
  | locked
  deriving DecidableEq

/-- `TimeCardStatus`. -/
inductive CardStatus
  | opened
  | closed
  | void
  deriving DecidableEq

/-- `PayrollApprovalDecision`. -/
inductive Decision
  | approved
  | rejected
  deriving DecidableEq

/-- `PayrollSourceType`. -/
inductive SourceType
  | timeCard
  | amendment
  deriving DecidableEq

/-! ## Rows -/

/-- A `"Location"` row. -/
structure Location where
  id : String
  timezone : String
  deriving DecidableEq

/-- A `"PayrollPolicyVersion"` row. -/
structure PolicyVersion where
  id : String
  version : Int
  timeZone : String
  cadence : Cadence
  anchorDate : Int
  effectiveFrom : Int
  operationId : String
  requestHash : String
  deriving DecidableEq

/-- What the transition to `LOCKED` records. -/
structure LockRecord where
  lockedAt : Int
  lockedByUserId : String
  lockOperationId : String
  lockRequestHash : String
  lockedEntrySha256 : String
  lockedEntryCount : Int
  totalPayableMinutes : Int
  deriving DecidableEq

/-- A `"PayrollPeriod"` row.  `"PayrollPeriod_review_state_valid"` and
`"PayrollPeriod_lock_state_valid"` make the two column groups present together
or absent together, so each is one optional record. -/
structure Period where
  id : String
  policyVersionId : String
  localStartDate : Int
  localEndDateExclusive : Int
  startsAt : Int
  endsAt : Int
  timeZone : String
  cadence : Cadence
  status : PeriodStatus
  revision : Int
  reviewStarted : Option (Int × String)
  lock : Option LockRecord
  deriving DecidableEq

/-- A `"TimeCard"` row. -/
structure TimeCard where
  id : String
  userId : String
  locationId : Option String
  shiftId : Option String
  clockInOperationId : Option String
  clockInRequestHash : Option String
  clockInAt : Int
  clockOutAt : Option Int
  payrollPeriodId : Option String
  workTimeZone : String
  revision : Int
  breakMinutes : Int
  notes : Option String
  status : CardStatus
  updatedAt : Int
  deletedAt : Option Int
  deriving DecidableEq

/-- A `"TimeCardBreak"` row. -/
structure TimeCardBreak where
  timeCardId : String
  startAt : Int
  endAt : Int
  deriving DecidableEq

/-- A `"PayrollTimeCardApproval"` row. -/
structure Approval where
  periodId : String
  timeCardId : String
  timeCardRevision : Int
  decision : Decision
  operationId : String
  decidedAt : Int
  decidedByUserId : String
  deriving DecidableEq

/-- A `"PayrollLockedEntry"` row. -/
structure LockedEntry where
  id : String
  periodId : String
  sequence : Int
  sourceType : SourceType
  sourceId : String
  sourceRevision : Int
  employeeId : String
  locationId : Option String
  workTimeZone : String
  clockInAt : Int
  clockOutAt : Int
  breakMinutes : Int
  payableMinutes : Int
  approvedAt : Int
  approvedByUserId : String
  canonicalSha256 : String
  deriving DecidableEq

/-- A `"PayrollAmendment"` row. -/
structure Amendment where
  id : String
  lockedEntryId : String
  adjustmentPeriodId : String
  operationId : String
  requestHash : String
  requestedByUserId : String
  replacementClockInAt : Int
  replacementClockOutAt : Int
  replacementBreakMinutes : Int
  replacementPayableMinutes : Int
  minuteDelta : Int
  deriving DecidableEq

/-- A `"PayrollAmendmentDecision"` row. -/
structure AmendmentDecision where
  amendmentId : String
  decision : Decision
  operationId : String
  requestHash : String
  decidedByUserId : String
  decidedAt : Int
  deriving DecidableEq

/-- A `"PayrollOperation"` row, the record that makes a command replayable. -/
structure Operation where
  operationId : String
  requestHash : String
  deriving DecidableEq

/-- The payroll tables of a tenant, each in order of insertion. -/
structure Database where
  locations : List Location
  policies : List PolicyVersion
  periods : List Period
  cards : List TimeCard
  breaks : List TimeCardBreak
  approvals : List Approval
  entries : List LockedEntry
  amendments : List Amendment
  decisions : List AmendmentDecision
  operations : List Operation

/-! ## Refusals -/

/-- Why a transaction is rolled back: the code of a service's `ProblemError`, or
the constraint a statement violates. -/
inductive Problem
  | problem (status : Nat) (code : String)
  | constraint (name : String)
  | outOfRange
  deriving DecidableEq

/-! ## Reading the tables -/

namespace Database

variable (db : Database)

/-- The period with the given id. -/
def period? (id : String) : Option Period := db.periods.find? (·.id = id)

/-- The card with the given id. -/
def card? (id : String) : Option TimeCard := db.cards.find? (·.id = id)

/-- The locked entry with the given id. -/
def entry? (id : String) : Option LockedEntry := db.entries.find? (·.id = id)

/-- The amendment with the given id. -/
def amendment? (id : String) : Option Amendment := db.amendments.find? (·.id = id)

/-- The decision on an amendment. -/
def decision? (amendmentId : String) : Option AmendmentDecision :=
  db.decisions.find? (·.amendmentId = amendmentId)

/-- The approval row of a card revision, whatever its decision. -/
def approval? (timeCardId : String) (revision : Int) : Option Approval :=
  db.approvals.find? fun row => row.timeCardId = timeCardId ∧ row.timeCardRevision = revision

/-- The status of the period with the given id is `status`. -/
def PeriodIs (id : String) (status : PeriodStatus) : Prop :=
  ∃ period ∈ db.periods, period.id = id ∧ period.status = status

instance (id : String) (status : PeriodStatus) : Decidable (db.PeriodIs id status) :=
  inferInstanceAs (Decidable (∃ period ∈ db.periods, _))

end Database

/-! ## Durations -/

/-- `floor(EXTRACT(EPOCH FROM (b - a)) / 60)`, and `Math.floor((b - a) / 60_000)`
in the services. -/
def floorMinutes (a b : Int) : Int := (b - a) / 60000

/-- `"PayrollLockedEntry_values_valid"`, with the cast of the elapsed minutes to
`integer`. -/
def LockedEntry.ValuesValid (entry : LockedEntry) : Prop :=
  0 ≤ entry.sequence ∧ 0 < entry.sourceRevision ∧ TimeZoneText entry.workTimeZone ∧
    entry.clockInAt < entry.clockOutAt ∧ 0 ≤ entry.breakMinutes ∧
    IsInteger (floorMinutes entry.clockInAt entry.clockOutAt) ∧
    entry.breakMinutes < floorMinutes entry.clockInAt entry.clockOutAt ∧
    isSha256 entry.canonicalSha256 = true

instance (entry : LockedEntry) : Decidable entry.ValuesValid :=
  inferInstanceAs (Decidable (_ ∧ _))

/-- `"PayrollAmendment_values_valid"`, as far as it reads the modelled columns. -/
def Amendment.ValuesValid (amendment : Amendment) : Prop :=
  isSha256 amendment.requestHash = true ∧
    amendment.replacementClockInAt < amendment.replacementClockOutAt ∧
    0 ≤ amendment.replacementBreakMinutes ∧ 0 ≤ amendment.replacementPayableMinutes

instance (amendment : Amendment) : Decidable amendment.ValuesValid :=
  inferInstanceAs (Decidable (_ ∧ _))

/-- `"TimeCard_status_clock_consistent"`. -/
def CardStatus.clockConsistent : CardStatus → Option Int → Bool
  | .opened, clockOutAt => clockOutAt.isNone
  | .closed, clockOutAt => clockOutAt.isSome
  | .void, _ => true

/-- The checks on the columns of a `"TimeCard"` row. -/
def TimeCard.ValuesValid (card : TimeCard) : Prop :=
  0 < card.revision ∧ TimeZoneText card.workTimeZone ∧ 0 ≤ card.breakMinutes ∧
    IsInteger card.breakMinutes ∧ (∀ clockOutAt ∈ card.clockOutAt, card.clockInAt < clockOutAt) ∧
    card.status.clockConsistent card.clockOutAt = true

instance (card : TimeCard) : Decidable card.ValuesValid := inferInstanceAs (Decidable (_ ∧ _))

end LunchLineup.Payroll
