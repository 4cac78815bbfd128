import LunchLineup.Payroll.ClockIn
import LunchLineup.Python.Reference

/-!
# Shifts and their lunches and breaks

The tables behind the lunch and break service of one tenant: shifts with their
breaks, the schedules that hold them, the directory, the policy, the receipts of
replaced breaks, and the wallet.  Row-level security confines a session to one
tenant, so no row but that of the wallet carries a tenant.

Instants are milliseconds since the epoch.  A break's column `createdAt`, the notes
and the role of a shift, and the window of a schedule are left out: nothing here
reads them.  Ids are lower-case UUIDs, on which `localeCompare` is the order of their
characters.
-/

namespace LunchLineup.Breaks

open LunchLineup.Lib LunchLineup.Billing
open LunchLineup.Payroll (Problem problemOf UserRole given)

/-! ## Rows -/

/-- `BreakType`. -/
inductive BreakType
  | break1
  | lunch
  | break2
  deriving DecidableEq

/-- `BREAK_TYPES`. -/
def breakTypes : List BreakType := [.break1, .lunch, .break2]

/-- A `"Break"` row.  Rows from before the column `type` have none. -/
structure Break where
  id : String
  type : Option BreakType
  startTime : Int
  endTime : Int
  paid : Bool
  deriving DecidableEq

/-- A `"Shift"` row with its breaks. -/
structure Shift where
  id : String
  publicId : String
  locationId : String
  scheduleId : Option String
  userId : Option String
  startTime : Int
  endTime : Int
  updatedAt : Int
  deleted : Bool
  breaks : List Break
  deriving DecidableEq

/-- A `"Location"` row. -/
structure Location where
  id : String
  publicId : String
  deleted : Bool
  deriving DecidableEq

/-- A `"User"` row. -/
structure User where
  id : String
  publicId : String
  name : String
  role : UserRole
  deleted : Bool
  suspended : Bool
  deriving DecidableEq

/-- `ScheduleStatus`. -/
inductive ScheduleStatus
  | draft
  | published
  | archived
  deriving DecidableEq

/-- A `"Schedule"` row. -/
structure Schedule where
  id : String
  status : ScheduleStatus
  deleted : Bool
  revision : Int
  deriving DecidableEq

/-- A break as the interface shows it. -/
structure PublicBreak where
  type : BreakType
  startTime : Int
  endTime : Int
  durationMinutes : Int
  paid : Bool
  deriving DecidableEq

/-- `LunchBreakRow`: a shift with its breaks as the interface shows them. -/
structure LunchBreakRow where
  shiftId : Option String
  userId : Option String
  employeeName : Option String
  startTime : Int
  endTime : Int
  breaks : List PublicBreak
  deriving DecidableEq

/-- The `"AuditLog"` row that `replaceShiftBreaks` writes.  Triggers refuse every
update and deletion of the table, and nothing else writes rows of this action. -/
structure ShiftBreakReceipt where
  resourceId : String
  requestHash : String
  response : LunchBreakRow
  deriving DecidableEq

/-- The value of the setting `lunch_break_policy`: what `Number` makes of each field,
with `none` where that is not finite. -/
structure StoredPolicy where
  break1OffsetMinutes : Option Rat
  lunchOffsetMinutes : Option Rat
  break2OffsetMinutes : Option Rat
  break1DurationMinutes : Option Rat
  lunchDurationMinutes : Option Rat
  break2DurationMinutes : Option Rat
  timeStepMinutes : Option Rat
  deriving DecidableEq

/-- The tables of the service; `policy` is absent where there is no setting or its value
is no object. -/
structure Board where
  shifts : List Shift
  schedules : List Schedule
  locations : List Location
  users : List User
  policy : Option StoredPolicy
  receipts : List ShiftBreakReceipt
  billing : Store

/-! ## Instants -/

/-- The number that `count` digits from `start` on write. -/
def digitsAt (text : List Char) (start count : Nat) : Option Int :=
  let field := (text.drop start).take count
  if field.length = count ∧ field.all Char.isDigit = true then
    some (field.foldl (fun value c => 10 * value + (c.toNat - '0'.toNat : Nat)) 0)
  else none

/-- The milliseconds of `(?:\.(\d{1,3}))?Z$`. -/
def fractionOf : List Char → Option Int
  | ['Z'] => some 0
  | ['.', a, 'Z'] => (digitsAt [a] 0 1).map (100 * ·)
  | ['.', a, b, 'Z'] => (digitsAt [a, b] 0 2).map (10 * ·)
  | ['.', a, b, c, 'Z'] => digitsAt [a, b, c] 0 3
  | _ => none

/-- `parseUtcInstant`, to milliseconds.  A date that the calendar does not have, or an
hour past 23, is not the one `Date` gives back. -/
def parseUtcInstant (text : String) : Except Problem Int :=
  let chars := text.toList
  let parsed : Option Int := do
    let year ← digitsAt chars 0 4
    let month ← digitsAt chars 5 2
    let day ← digitsAt chars 8 2
    let hour ← digitsAt chars 11 2
    let minute ← digitsAt chars 14 2
    let second ← digitsAt chars 17 2
    let fraction ← fractionOf (chars.drop 19)
    let date := Python.Reference.daysFromCivil year month day
    if [chars[4]?, chars[7]?, chars[10]?, chars[13]?, chars[16]?] =
        [some '-', some '-', some 'T', some ':', some ':'] ∧
        Python.Reference.civilFromDays date = (year, month, day) ∧
        hour ≤ 23 ∧ minute ≤ 59 ∧ second ≤ 59 then
      some ((date * 24 + hour) * 3600000 + (minute * 60 + second) * 1000 + fraction)
    else none
  match parsed with
  | some instant => .ok instant
  | none => .error (.problem 422 "invalid_utc_instant")

/-! ## The policy -/

/-- `LunchBreakPolicy`. -/
structure LunchBreakPolicy where
  break1OffsetMinutes : Int
  lunchOffsetMinutes : Int
  break2OffsetMinutes : Int
  break1DurationMinutes : Int
  lunchDurationMinutes : Int
  break2DurationMinutes : Int
  timeStepMinutes : Int
  deriving DecidableEq

/-- `DEFAULT_POLICY`. -/
def defaultPolicy : LunchBreakPolicy where
  break1OffsetMinutes := 120
  lunchOffsetMinutes := 240
  break2OffsetMinutes := 120
  break1DurationMinutes := 10
  lunchDurationMinutes := 30
  break2DurationMinutes := 10
  timeStepMinutes := 5

/-- `Math.round`, which rounds halves up. -/
def mathRound (value : Rat) : Int := (value + 1 / 2).floor

/-- `integer`; `none` is a value that is not finite. -/
def integer (value : Option Rat) (fallback minimum maximum : Int) : Int :=
  match value with
  | none => fallback
  | some parsed => min maximum (max minimum (mathRound parsed))

/-- `normalizePolicy`. -/
def normalizePolicy (value : StoredPolicy) : LunchBreakPolicy where
  break1OffsetMinutes :=
    integer value.break1OffsetMinutes defaultPolicy.break1OffsetMinutes 10 480
  lunchOffsetMinutes := integer value.lunchOffsetMinutes defaultPolicy.lunchOffsetMinutes 30 600
  break2OffsetMinutes :=
    integer value.break2OffsetMinutes defaultPolicy.break2OffsetMinutes 10 480
  break1DurationMinutes :=
    integer value.break1DurationMinutes defaultPolicy.break1DurationMinutes 5 60
  lunchDurationMinutes :=
    integer value.lunchDurationMinutes defaultPolicy.lunchDurationMinutes 15 120
  break2DurationMinutes :=
    integer value.break2DurationMinutes defaultPolicy.break2DurationMinutes 5 60
  timeStepMinutes := integer value.timeStepMinutes defaultPolicy.timeStepMinutes 1 60

/-- `readPolicy`. -/
def Board.readPolicy (board : Board) : LunchBreakPolicy :=
  match board.policy with
  | none => defaultPolicy
  | some value => normalizePolicy value

/-! ## The interface's view of a shift -/

/-- The order of `serializeBreaks`: by start, then by id. -/
def breakLe (left right : Break) : Prop :=
  left.startTime < right.startTime ∨ left.startTime = right.startTime ∧ left.id ≤ right.id

instance : DecidableRel breakLe := fun _ _ => inferInstanceAs (Decidable (_ ∨ _))

/-- The row that stands for a type: the first of that type, or else one without a type. -/
def fallback (ordered : List Break) (type : BreakType) : Option Break :=
  let typed := ordered.find? (·.type = some type)
  let untyped := ordered.filter (·.type = none)
  let paid := untyped.filter (·.paid)
  let unpaid := untyped.filter (! ·.paid)
  match type with
  | .break1 => typed <|> paid[0]? <|> untyped[0]?
  | .lunch => typed <|> unpaid[0]? <|> untyped[untyped.length / 2]?
  | .break2 => typed <|> paid[1]? <|> untyped.getLast?

/-- The rows shown for `types`, each row once; `used` are the ids of those already
shown. -/
def publicBreaks (ordered : List Break) :
    List BreakType → List String → Except Problem (List PublicBreak)
  | [], _ => .ok []
  | type :: rest, used =>
      match fallback ordered type with
      | none => publicBreaks ordered rest used
      | some entry =>
          if entry.id ∈ used then publicBreaks ordered rest used
          else do
            let durationMinutes := mathRound ((entry.endTime - entry.startTime : Int) / 60000)
            ensure (1 ≤ durationMinutes ∧ entry.startTime < entry.endTime)
              (.problem 500 "invalid_lunch_break_record")
            let more ← publicBreaks ordered rest (entry.id :: used)
            .ok ({
              type := type
              startTime := entry.startTime
              endTime := entry.endTime
              durationMinutes := durationMinutes
              paid := entry.paid } :: more)

/-- `serializeBreaks`. -/
def serializeBreaks (entries : List Break) : Except Problem (List PublicBreak) :=
  publicBreaks (entries.insertionSort breakLe) breakTypes []

/-- The worker of a shift. -/
def Board.userOf (board : Board) (shift : Shift) : Option User :=
  shift.userId.bind fun id => board.users.find? (·.id = id)

/-- `serializeLunchBreakRow`. -/
def Board.serializeLunchBreakRow (board : Board) (shift : Shift) :
    Except Problem LunchBreakRow := do
  let breaks ← serializeBreaks shift.breaks
  .ok {
    shiftId := some shift.publicId
    userId := (board.userOf shift).map (·.publicId)
    employeeName := given ((board.userOf shift).map (·.name))
    startTime := shift.startTime
    endTime := shift.endTime
    breaks := breaks }

/-- `SCHEDULABLE_SHIFT_USER_FILTER`. -/
def Board.schedulable (board : Board) (shift : Shift) : Bool :=
  shift.userId.isNone || (board.userOf shift).any fun user =>
    (user.role == .manager || user.role == .staff) && ! user.deleted && ! user.suspended

/-- Every break id in the table. -/
def Board.breakIds (board : Board) : List String :=
  board.shifts.flatMap fun shift => shift.breaks.map (·.id)

/-! ## Schedules -/

/-- The distinct ids that are given. -/
def scheduleIdsOf (ids : List (Option String)) : List String := (ids.filterMap given).dedup

/-- `assertDraftSchedules`. -/
def Board.assertDraftSchedules (board : Board) (scheduleIds : List (Option String)) :
    Except Problem Unit :=
  let ids := scheduleIdsOf scheduleIds
  let rows := board.schedules.filter (·.id ∈ ids)
  ensure (rows.length = ids.length ∧ rows.all (·.status = .draft) = true)
    (.problem 409 "schedule_locked")

/-- `incrementDraftRevisions`. -/
def Board.incrementDraftRevisions (board : Board) (scheduleIds : List (Option String)) :
    Except Problem Board := do
  let ids := scheduleIdsOf scheduleIds
  let matched (row : Schedule) : Bool := row.id ∈ ids && row.status = .draft && ! row.deleted
  ensure ((board.schedules.filter matched).length = ids.length)
    (.problem 409 "concurrent_change")
  .ok { board with
    schedules := board.schedules.map fun row =>
      if matched row = true then { row with revision := row.revision + 1 } else row }

/-! ## The entitlement -/

/-- `assertFeatureEntitled` for a billable use of lunches and breaks; `entitled` is what it
decides before it looks at the wallet. -/
def Board.assertFeatureEntitled (board : Board) (tenantId : String) (entitled : Bool) :
    Except Problem Unit :=
  match board.billing.wallet? tenantId with
  | none => .error (.problem 403 "lunch_breaks_not_entitled")
  | some wallet =>
      ensure (entitled = true ∧ wallet.creditDebt = 0 ∧ 1 ≤ wallet.usageCredits)
        (.problem 403 "lunch_breaks_not_entitled")

/-! ## Idempotency keys -/

/-- `/^[A-Za-z0-9._:-]{8,200}$/`. -/
def isIdempotencyKey (text : String) : Bool :=
  8 ≤ text.toList.length && text.toList.length ≤ 200 &&
    text.toList.all fun c => c.isAlphanum || c == '.' || c == '_' || c == ':' || c == '-'

/-- `requireIdempotencyKey`. -/
def requireIdempotencyKey (value : Option String) : Except Problem String := do
  let normalized := (value.map jsTrim).getD ""
  ensure (isIdempotencyKey normalized = true) (.problem 428 "idempotency_key_required")
  .ok normalized

end LunchLineup.Breaks
