import LunchLineup.Payroll.Calendar

/-!
# Clock-in, clock-out and correction

The three commands of the time-card service, each one transaction.  What they
read before the payroll rules (the worker, the shift, the location, the
entitlement and the debit of the clock-in) is the flag `admitted`: where it is
false the command is refused and nothing is written.  `team` says whether the
caller holds the team permissions, and `now` is `new Date()`.
-/

namespace LunchLineup.Payroll

open LunchLineup.Lib LunchLineup.Billing

variable (zones : Zones)

/-! ## Clock-in -/

/-- A clock-in request, with the rows it names resolved: the worker, the
location of the body or else of the shift, and the shift. -/
structure ClockInRequest where
  id : String
  actorUserId : String
  userId : String
  team : Bool
  admitted : Bool
  location : Option Location
  shiftId : Option String
  clockInAt : Option Int
  notes : Option String
  operationId : String
  requestHash : String

/-- `clockIn`. -/
def Zones.clockIn (db : Database) (now : Int) (request : ClockInRequest) :
    Except Problem Database := do
  ensure (request.team = true ∨ (request.userId = request.actorUserId ∧ request.clockInAt = none))
    (.problem 403 "manual_clock_time_denied")
  match db.cards.find? (·.clockInOperationId = some request.operationId) with
  | some card =>
      if card.clockInRequestHash = some request.requestHash then .ok db
      else .error (.problem 409 "idempotency_conflict")
  | none =>
      ensure (request.admitted = true) (.problem 403 "time_cards_not_entitled")
      ensure (∀ card ∈ db.cards, ¬ (card.userId = request.userId ∧ card.Running))
        (.problem 422 "invalid_time_card_input")
      let clockInAt := request.clockInAt.getD now
      let payroll ← zones.resolveTimeCardPayrollAssignment db clockInAt request.location
      db.insertTimeCard {
        id := request.id
        userId := request.userId
        locationId := request.location.map (·.id)
        shiftId := request.shiftId
        clockInOperationId := some request.operationId
        clockInRequestHash := some request.requestHash
        clockInAt := clockInAt
        clockOutAt := none
        payrollPeriodId := payroll.payrollPeriodId
        workTimeZone := payroll.workTimeZone
        revision := 1
        breakMinutes := 0
        notes := request.notes
        status := .opened
        updatedAt := now
        deletedAt := none }

/-! ## Clock-out -/

/-- `findScopedTimeCard`: a caller without the team permissions sees its own
cards only. -/
def Database.findScopedTimeCard (db : Database) (actorUserId : String) (team : Bool) (id : String)
    (includeClosed : Bool) : Except Problem TimeCard :=
  match db.card? id with
  | none => .error (.problem 404 "time_card_not_found")
  | some card => do
      ensure (card.deletedAt = none ∧ (includeClosed = true ∨ card.status ≠ .void) ∧
          (team = true ∨ card.userId = actorUserId))
        (.problem 404 "time_card_not_found")
      .ok card

/-- The check `lockTimeCardPayrollContext` makes of one period id: the period
exists and is not locked. -/
def Database.lockPayrollContext (db : Database) (periodId : Option String) : Except Problem Unit :=
  match periodId with
  | none => .ok ()
  | some id =>
      match db.period? id with
      | none => .error (.problem 409 "payroll_period_changed")
      | some period => ensure (period.status ≠ .locked) (.problem 409 "payroll_period_locked")

/-- `assertClockOutWithinPayrollPeriod`. -/
def Database.assertClockOutWithinPayrollPeriod (db : Database) (periodId : Option String)
    (clockOutAt : Int) : Except Problem Unit :=
  match periodId with
  | none => .ok ()
  | some id =>
      match db.period? id with
      | none => .error (.problem 409 "payroll_period_changed")
      | some period => ensure (clockOutAt ≤ period.endsAt) (.problem 409 "payroll_period_cutoff")

/-- `normalizeClockOutBreakMinutes`. -/
def normalizeClockOutBreakMinutes (value : Option JsNumber) (totalMinutes : Int) :
    Except Problem Int :=
  match value with
  | none => .ok 0
  | some .nonInteger => .error (.problem 422 "invalid_time_card_input")
  | some (.integer value) => do
      ensure (0 ≤ value) (.problem 422 "invalid_time_card_input")
      ensure (¬ (0 < value ∧ totalMinutes ≤ value)) (.problem 422 "invalid_time_card_input")
      .ok value

/-- A clock-out request.  `notes` is absent where the body has none. -/
structure ClockOutRequest where
  cardId : String
  actorUserId : String
  team : Bool
  clockOutAt : Option Int
  breakMinutes : Option JsNumber
  notes : Option (Option String)

/-- The row `clockOut` writes. -/
def TimeCard.clockedOut (card : TimeCard) (now clockOutAt breakMinutes : Int)
    (notes : Option (Option String)) : TimeCard :=
  { card with
    clockOutAt := some clockOutAt
    breakMinutes := breakMinutes
    notes := notes.getD card.notes
    status := .closed
    revision := card.revision + 1
    updatedAt := now }

/-- `clockOut`; it returns the closed card. -/
def Database.clockOut (db : Database) (now : Int) (request : ClockOutRequest) :
    Except Problem (TimeCard × Database) := do
  ensure (request.team = true ∨ request.clockOutAt = none) (.problem 403 "manual_clock_time_denied")
  let card ← db.findScopedTimeCard request.actorUserId request.team request.cardId false
  db.lockPayrollContext card.payrollPeriodId
  ensure (card.status = .opened) (.problem 422 "invalid_time_card_input")
  let clockOutAt := request.clockOutAt.getD now
  ensure (card.clockInAt < clockOutAt) (.problem 422 "invalid_time_card_input")
  db.assertClockOutWithinPayrollPeriod card.payrollPeriodId clockOutAt
  let totalMinutes := floorMinutes card.clockInAt clockOutAt
  let breakMinutes ← normalizeClockOutBreakMinutes request.breakMinutes totalMinutes
  ensure (card.clockOutAt = none) (.problem 409 "concurrent_time_card_change")
  let closed := card.clockedOut now clockOutAt breakMinutes request.notes
  let db ← db.updateTimeCard now card closed
  .ok (closed, db)

/-! ## Correction -/

/-- A break interval of a request. -/
structure BreakInterval where
  startAt : Int
  endAt : Int
  deriving DecidableEq

/-- The body of a correction.  A field that is absent keeps the stored value; a
clock-out given as `null` reopens the card. -/
structure CorrectionRequest where
  cardId : String
  actorUserId : String
  team : Bool
  admitted : Bool
  expectedUpdatedAt : Int
  clockInAt : Option Int
  clockOutAt : Option (Option Int)
  breakIntervals : Option (List BreakInterval)

/-- `ValidatedTimeCardCorrection`. -/
structure Correction where
  clockInAt : Int
  clockOutAt : Option Int
  breakIntervals : Option (List BreakInterval)
  breakMinutes : Int
  status : CardStatus

/-- `assertCorrectionWindow`: at most five minutes ahead, not empty, at most 31
days. -/
def assertCorrectionWindow (clockInAt : Int) (clockOutAt : Option Int) (now : Int) :
    Except Problem Unit := do
  ensure (clockInAt ≤ now + 300000 ∧ ∀ instant ∈ clockOutAt, instant ≤ now + 300000)
    (.problem 422 "invalid_time_card_input")
  ensure (clockInAt < clockOutAt.getD now) (.problem 422 "invalid_time_card_input")
  ensure (clockOutAt.getD now - clockInAt ≤ 31 * dayMs) (.problem 422 "invalid_time_card_input")

/-- The loop of `validateBreakIntervals`. -/
def checkBreakIntervals (clockInAt cardEnd : Int) : Option Int → List BreakInterval →
    Except Problem Unit
  | _, [] => .ok ()
  | previousEnd, interval :: rest => do
      ensure (interval.startAt < interval.endAt) (.problem 422 "invalid_time_card_input")
      ensure ((interval.endAt - interval.startAt) % 60000 = 0)
        (.problem 422 "invalid_time_card_input")
      ensure (clockInAt ≤ interval.startAt ∧ interval.endAt ≤ cardEnd)
        (.problem 422 "invalid_time_card_input")
      ensure (∀ bound ∈ previousEnd, bound ≤ interval.startAt)
        (.problem 422 "invalid_time_card_input")
      checkBreakIntervals clockInAt cardEnd (some interval.endAt) rest

/-- `validateBreakIntervals`. -/
def validateBreakIntervals (intervals : List BreakInterval) (clockInAt : Int)
    (clockOutAt : Option Int) (now : Int) : Except Problem Unit := do
  ensure (intervals.length ≤ 24) (.problem 422 "invalid_time_card_input")
  checkBreakIntervals clockInAt (clockOutAt.getD now) none intervals

/-- The sum of `durationMinutes` over the intervals. -/
def intervalMinutes (intervals : List BreakInterval) : Int :=
  (intervals.map fun interval => (interval.endAt - interval.startAt) / 60000).sum

/-- The stored break intervals of a card, by start. -/
def Database.breaksOf (db : Database) (timeCardId : String) : List BreakInterval :=
  ((db.breaks.filter (·.timeCardId = timeCardId)).map fun row => ⟨row.startAt, row.endAt⟩).mergeSort
    fun a b => decide (a.startAt ≤ b.startAt)

/-- `validateTimeCardCorrection`. -/
def validateTimeCardCorrection (body : CorrectionRequest) (current : TimeCard)
    (stored : List BreakInterval) (now : Int) : Except Problem Correction := do
  ensure (body.clockInAt.isSome = true ∨ body.clockOutAt.isSome = true ∨
      body.breakIntervals.isSome = true)
    (.problem 422 "invalid_time_card_input")
  let clockInAt := body.clockInAt.getD current.clockInAt
  let clockOutAt := body.clockOutAt.getD current.clockOutAt
  assertCorrectionWindow clockInAt clockOutAt now
  let intervals := body.breakIntervals.getD stored
  validateBreakIntervals intervals clockInAt clockOutAt now
  ensure (body.breakIntervals.isSome = true ∨ intervals = [] ∨
      intervalMinutes intervals = current.breakMinutes)
    (.problem 422 "invalid_time_card_input")
  let grossMinutes := floorMinutes clockInAt (clockOutAt.getD now)
  let nextBreakMinutes :=
    if body.breakIntervals.isSome = true then intervalMinutes intervals else current.breakMinutes
  ensure (¬ (0 < nextBreakMinutes ∧ grossMinutes ≤ nextBreakMinutes))
    (.problem 422 "invalid_time_card_input")
  .ok {
    clockInAt := clockInAt
    clockOutAt := clockOutAt
    breakIntervals := body.breakIntervals
    breakMinutes := nextBreakMinutes
    status := if clockOutAt.isSome = true then .closed else .opened }

/-- The row `correct` writes. -/
def TimeCard.corrected (card : TimeCard) (now : Int) (correction : Correction)
    (assignment : Assignment) : TimeCard :=
  { card with
    clockInAt := correction.clockInAt
    clockOutAt := correction.clockOutAt
    breakMinutes := correction.breakMinutes
    status := correction.status
    payrollPeriodId := assignment.payrollPeriodId
    workTimeZone := assignment.workTimeZone
    revision := card.revision + 1
    updatedAt := now }

/-- `createMany` of the corrected intervals, row by row. -/
def Database.insertBreaks (now : Int) (cardId : String) :
    Database → List BreakInterval → Except Problem Database
  | db, [] => .ok db
  | db, interval :: rest => do
      let db ← db.insertBreak now ⟨cardId, interval.startAt, interval.endAt⟩
      Database.insertBreaks now cardId db rest

/-- The break rows after a correction that gives intervals. -/
def Database.replaceBreaks (db : Database) (now : Int) (cardId : String) :
    Option (List BreakInterval) → Except Problem Database
  | none => .ok db
  | some intervals => do
      let db ← db.deleteBreaks cardId
      Database.insertBreaks now cardId db intervals

/-- `correct`; it returns the corrected card. -/
def Zones.correct (db : Database) (now : Int) (request : CorrectionRequest) :
    Except Problem (TimeCard × Database) := do
  ensure (request.team = true) (.problem 403 "time_card_correction_denied")
  ensure (request.admitted = true) (.problem 403 "time_cards_not_entitled")
  let card ← db.findScopedTimeCard request.actorUserId request.team request.cardId true
  ensure (card.status ≠ .void) (.problem 422 "invalid_time_card_input")
  let correction ← validateTimeCardCorrection request card (db.breaksOf card.id) now
  let location := card.locationId.map fun id => (⟨id, card.workTimeZone⟩ : Location)
  let assignment ← zones.resolveTimeCardPayrollAssignment db correction.clockInAt location
  db.lockPayrollContext card.payrollPeriodId
  db.lockPayrollContext assignment.payrollPeriodId
  ensure (∀ other ∈ db.cards, ¬ (other.userId = card.userId ∧ other.id ≠ card.id ∧ other.Active ∧
      (∀ clockOutAt ∈ correction.clockOutAt, other.clockInAt < clockOutAt) ∧
      (∀ clockOutAt ∈ other.clockOutAt, correction.clockInAt < clockOutAt)))
    (.problem 409 "time_card_overlap")
  ensure (card.updatedAt = request.expectedUpdatedAt)
    (.problem 409 "concurrent_time_card_change")
  let corrected := card.corrected now correction assignment
  let db ← db.updateTimeCard now card corrected
  let db ← db.replaceBreaks now card.id correction.breakIntervals
  match corrected.clockOutAt with
  | none => .ok (corrected, db)
  | some clockOutAt => do
      db.assertClockOutWithinPayrollPeriod corrected.payrollPeriodId clockOutAt
      .ok (corrected, db)

end LunchLineup.Payroll
