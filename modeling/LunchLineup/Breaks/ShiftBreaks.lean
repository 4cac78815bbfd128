import LunchLineup.Breaks.Board

/-!
# Replacing the breaks of a shift

`replaceShiftBreaks` looks for the receipt of its idempotency key, outside and then
inside the transaction.  Where there is none it reads the shift (`inspect`), returns what
it found if that already has the requested breaks, and otherwise pays a credit, replaces
the breaks and writes the receipt.

The look-up outside the transaction and the one inside it see the same tables here, as
requests are served one after the other.  Where the transaction fails to report its
commit the receipt is looked up once more.
-/

namespace LunchLineup.Breaks

open LunchLineup.Lib LunchLineup.Billing
open LunchLineup.Payroll (Problem problemOf given)

/-! ## Requests -/

/-- An entry of `ShiftBreakUpdateRequest`. -/
structure BreakInput where
  type : BreakType
  startTime : Option String
  durationMinutes : Option Int
  skip : Bool
  deriving DecidableEq

/-- A call of `replaceShiftBreaks`.  `authorised` is whether the authority of the session
holds at every check of the request, `entitled` what `assertFeatureEntitled` decides before
it looks at the wallet, and `current` whether the authority holds at each site of the
debit.  `breakId` gives the ids that new rows would get. -/
structure ShiftBreakCall where
  shiftPublicId : String
  idempotencyKey : Option String
  locationId : String
  breaks : List BreakInput
  breakId : BreakType → String
  now : Int
  authorised : Bool
  entitled : Bool
  current : Nat → Bool

/-- `NormalizedBreakInput`. -/
structure NormalizedBreakInput where
  type : BreakType
  skip : Bool
  startTime : Option Int
  durationMinutes : Option Int
  deriving DecidableEq

/-- A normalised body: what `shiftBreakIdentity` digests. -/
structure ShiftBreakInput where
  locationId : String
  breaks : List NormalizedBreakInput
  deriving DecidableEq

/-- The entry of a type that is left out. -/
def NormalizedBreakInput.skipped (type : BreakType) : NormalizedBreakInput where
  type := type
  skip := true
  startTime := none
  durationMinutes := none

/-- One round of the loop of `normalizeBreakUpdate`. -/
def normalizeEntry (entry : BreakInput) : Except Problem NormalizedBreakInput :=
  if entry.skip = true then .ok (.skipped entry.type)
  else
    match given entry.startTime with
    | none => .error (.problem 422 "invalid_break_update")
    | some text => do
        let startTime ← parseUtcInstant text
        .ok {
          type := entry.type
          skip := false
          startTime := some startTime
          durationMinutes := entry.durationMinutes }

/-- The loop of `normalizeBreakUpdate`, with the entries that it has seen. -/
def normalizeEntries (byType : List NormalizedBreakInput) :
    List BreakInput → Except Problem (List NormalizedBreakInput)
  | [] => .ok byType
  | entry :: rest => do
      ensure (∀ other ∈ byType, other.type ≠ entry.type) (.problem 422 "invalid_break_update")
      let normalized ← normalizeEntry entry
      normalizeEntries (byType ++ [normalized]) rest

/-- `normalizeBreakUpdate`. -/
def normalizeBreakUpdate (call : ShiftBreakCall) : Except Problem ShiftBreakInput := do
  let byType ← normalizeEntries [] call.breaks
  .ok {
    locationId := call.locationId
    breaks := breakTypes.map fun type => (byType.find? (·.type = type)).getD (.skipped type) }

/-- The digests of the service. -/
structure BreakHashes where
  sha256 : String → String
  shiftBreakIdentity : ShiftBreakInput → String

/-- The lunch and break service of one tenant. -/
structure BreakService where
  tenantId : String
  hashes : BreakHashes

/-- `canonicalIdempotencyOperation` for the breaks of a shift. -/
def BreakService.operationId (service : BreakService) (shiftPublicId key : String) : String :=
  service.hashes.sha256
    ("api-v2:lunch-break-shift:" ++ shiftPublicId ++ ":" ++ service.tenantId ++ ":" ++ key)

/-- A request that passed validation and authority. -/
structure ShiftBreakRequest where
  input : ShiftBreakInput
  operationId : String
  bodyHash : String

/-- What `replaceShiftBreaks` does before it reads the tables. -/
def BreakService.prepare (service : BreakService) (call : ShiftBreakCall) :
    Except Problem ShiftBreakRequest := do
  let key ← requireIdempotencyKey call.idempotencyKey
  let input ← normalizeBreakUpdate call
  ensure (call.authorised = true) (.problem 403 "permission_denied")
  .ok {
    input := input
    operationId := service.operationId call.shiftPublicId key
    bodyHash := service.hashes.shiftBreakIdentity input }

/-! ## Receipts -/

/-- `findShiftBreakReplayInTransaction`. -/
def Board.findShiftBreakReplay (board : Board) (operationId bodyHash : String) :
    Except Problem (Option LunchBreakRow) :=
  match board.receipts.find? (·.resourceId = operationId) with
  | none => .ok none
  | some stored => do
      ensure (stored.requestHash = bodyHash) (.problem 409 "idempotency_conflict")
      .ok (some stored.response)

/-! ## The requested breaks -/

/-- The default, the least and the greatest duration of a type. -/
def durationBounds (policy : LunchBreakPolicy) : BreakType → Int × Int × Int
  | .lunch => (policy.lunchDurationMinutes, 15, 120)
  | .break1 => (policy.break1DurationMinutes, 5, 60)
  | .break2 => (policy.break2DurationMinutes, 5, 60)

/-- `breakPayload`. -/
def breakPayload (policy : LunchBreakPolicy) :
    List NormalizedBreakInput → Except Problem (List PublicBreak)
  | [] => .ok []
  | entry :: rest =>
      if entry.skip = true then breakPayload policy rest
      else
        match entry.startTime with
        | none => .error (.problem 422 "invalid_break_update")
        | some start => do
            let (fallback, minimum, maximum) := durationBounds policy entry.type
            let durationMinutes :=
              integer (entry.durationMinutes.map (Int.cast ·)) fallback minimum maximum
            let more ← breakPayload policy rest
            .ok ({
              type := entry.type
              startTime := start
              endTime := start + durationMinutes * 60000
              durationMinutes := durationMinutes
              paid := decide (entry.type ≠ .lunch) } :: more)

/-- The loop of `assertBreaksInsideShift`, over breaks in the order of their starts. -/
def insideFrom (shiftStart shiftEnd priorEnd : Int) : List PublicBreak → Bool
  | [] => true
  | entry :: rest =>
      (! (entry.startTime < shiftStart || shiftEnd < entry.endTime ||
        entry.endTime ≤ entry.startTime || entry.startTime < priorEnd)) &&
        insideFrom shiftStart shiftEnd entry.endTime rest

/-- `assertBreaksInsideShift`. -/
def assertBreaksInsideShift (shiftStart shiftEnd : Int) (breaks : List PublicBreak) :
    Except Problem Unit :=
  ensure (insideFrom shiftStart shiftEnd shiftStart
      (breaks.insertionSort (·.startTime ≤ ·.startTime)) = true)
    (.problem 422 "invalid_break_window")

/-- The text that `sameBreaks` builds of a break. -/
def breakKey (entry : PublicBreak) : BreakType × Int × Int × Bool :=
  (entry.type, entry.startTime, entry.endTime, entry.paid)

/-- `sameBreaks`: two lists of texts have the same sorted join exactly when one is a
rearrangement of the other. -/
def sameBreaks (current next : List PublicBreak) : Bool :=
  current.length == next.length && (current.map breakKey).isPerm (next.map breakKey)

/-! ## The transaction -/

/-- What the transaction reads of a shift: its row, the breaks it should have, and the
interface's view of it. -/
structure Inspection where
  shift : Shift
  nextBreaks : List PublicBreak
  current : LunchBreakRow
  deriving DecidableEq

/-- The shift that a request names. -/
def Board.findShift (board : Board) (shiftPublicId locationId : String) : Option Shift :=
  board.shifts.find? fun shift =>
    shift.publicId == shiftPublicId && ! shift.deleted &&
      (board.locations.any fun location =>
        location.id == shift.locationId && location.publicId == locationId &&
          ! location.deleted) &&
      board.schedulable shift

/-- The part of the transaction that reads and validates. -/
def Board.inspect (board : Board) (shiftPublicId : String) (input : ShiftBreakInput) :
    Except Problem Inspection :=
  match board.findShift shiftPublicId input.locationId with
  | none => .error (.problem 404 "shift_not_found")
  | some shift => do
      board.assertDraftSchedules [shift.scheduleId]
      let nextBreaks ← breakPayload board.readPolicy input.breaks
      assertBreaksInsideShift shift.startTime shift.endTime nextBreaks
      let current ← board.serializeLunchBreakRow shift
      .ok ⟨shift, nextBreaks, current⟩

/-- The arguments of the debit. -/
def BreakService.debitArgs (service : BreakService) (call : ShiftBreakCall)
    (operationId : String) : FeatureDebitArgs where
  tenantId := service.tenantId
  feature := .lunchBreaks
  creditCost := .integer 1
  operationId := operationId
  reason := "Lunch/break shift replacement (" ++ operationId ++ ")"
  transactionId := none
  current := call.current

/-- The rows that `createMany` inserts. -/
def ShiftBreakCall.newBreaks (call : ShiftBreakCall) (nextBreaks : List PublicBreak) :
    List Break :=
  nextBreaks.map fun entry => {
    id := call.breakId entry.type
    type := some entry.type
    startTime := entry.startTime
    endTime := entry.endTime
    paid := entry.paid }

/-- The part of the transaction that writes.  The ids of new breaks are random, so they
differ from those of the rows just deleted too. -/
def BreakService.replace (service : BreakService) (board : Board) (call : ShiftBreakCall)
    (request : ShiftBreakRequest) (seen : Inspection) :
    Except Problem (LunchBreakRow × Board) := do
  board.assertFeatureEntitled service.tenantId call.entitled
  let (_, billing) ← (debitFeatureCredit board.billing false
    (service.debitArgs call request.operationId)).mapError problemOf
  let newBreaks := call.newBreaks seen.nextBreaks
  ensure (∀ entry ∈ newBreaks, entry.id ∉ board.breakIds) (.constraint "Break_pkey")
  let shifts := replaceRow (·.id) board.shifts
    { seen.shift with breaks := newBreaks, updatedAt := call.now }
  let written ← { board with shifts := shifts, billing := billing }.incrementDraftRevisions
    [seen.shift.scheduleId]
  match written.shifts.find? fun shift => shift.id = seen.shift.id ∧ shift.deleted = false with
  | none => .error (.problem 409 "concurrent_change")
  | some updated => do
      let response ← written.serializeLunchBreakRow updated
      .ok (response, { written with
        receipts := written.receipts ++ [⟨request.operationId, request.bodyHash, response⟩] })

/-- The transaction of `replaceShiftBreaks`. -/
def BreakService.transaction (service : BreakService) (board : Board) (call : ShiftBreakCall)
    (request : ShiftBreakRequest) : Except Problem (LunchBreakRow × Board) := do
  match ← board.findShiftBreakReplay request.operationId request.bodyHash with
  | some replay => .ok (replay, board)
  | none => do
      let seen ← board.inspect call.shiftPublicId request.input
      if sameBreaks seen.current.breaks seen.nextBreaks = true then .ok (seen.current, board)
      else service.replace board call request seen

/-! ## Runs -/

/-- What a caller learns. -/
inductive BreakOutcome
  | row (row : LunchBreakRow)
  | refused (problem : Problem)
  | lost
  | other
  deriving DecidableEq

/-- The look-up after a transaction that did not report its commit. -/
def Board.recover (board : Board) (request : ShiftBreakRequest) : BreakOutcome :=
  match board.findShiftBreakReplay request.operationId request.bodyHash with
  | .error problem => .refused problem
  | .ok (some committed) => .row committed
  | .ok none => .lost

/-- `replaceShiftBreaks`. -/
def BreakService.replaceShiftBreaks (service : BreakService) (board : Board)
    (call : ShiftBreakCall) (fate : Payroll.Fate) : BreakOutcome × Board :=
  match service.prepare call with
  | .error problem => (.refused problem, board)
  | .ok request =>
      match service.transaction board call request, fate with
      | .error problem, _ => (.refused problem, board)
      | .ok (row, next), .acknowledged => (.row row, next)
      | .ok (_, next), .unacknowledged => (next.recover request, next)
      | .ok _, .rolledBack => (board.recover request, board)

/-- What can happen at a board.  `others` are all the other operations on shifts,
schedules, the directory and the policy, which may write anything there, and `wallet`
those on the wallet. -/
inductive BreakEvent
  | replace (call : ShiftBreakCall) (fate : Payroll.Fate)
  | others (shifts : List Shift) (schedules : List Schedule) (locations : List Location)
      (users : List User) (policy : Option StoredPolicy)
  | wallet (request : WalletRequest)

/-- The step function. -/
def BreakService.step (service : BreakService) (isControl : Char → Bool) (board : Board) :
    BreakEvent → BreakOutcome × Board
  | .replace call fate => service.replaceShiftBreaks board call fate
  | .others shifts schedules locations users policy =>
      (.other, {
        shifts := shifts
        schedules := schedules
        locations := locations
        users := users
        policy := policy
        receipts := board.receipts
        billing := board.billing })
  | .wallet request => (.other, { board with billing := (commit isControl board.billing request).2 })

end LunchLineup.Breaks
