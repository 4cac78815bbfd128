import LunchLineup.Payroll.Transactions
import LunchLineup.Billing.LedgerInvariant

/-!
# The clock-in transaction

A clock-in creates a card and charges one credit for it, in one serializable
transaction.  `Zones.clockIn` is its payroll part; here it is put together with
what comes before, the worker, the shift and the location that the request names
and the replay by idempotency key, and with the debit that comes after.

Where that transaction fails the request opens a second one (`recover`), which
only looks for a card of the same key: the first may have committed although its
acknowledgement was lost.

`operationId` and `clockInRequestHash` are SHA-256 digests; which digests is the
parameter `ClockInHashes`.
-/

namespace LunchLineup.Payroll

open LunchLineup.Lib LunchLineup.Billing

/-! ## The directory -/

/-- `UserRole`. -/
inductive UserRole
  | superAdmin
  | admin
  | manager
  | staff
  deriving DecidableEq

/-- A `"User"` row. -/
structure User where
  id : String
  role : UserRole
  suspended : Bool
  deleted : Bool
  deriving DecidableEq

/-- A `"Shift"` row. -/
structure Shift where
  id : String
  locationId : String
  userId : Option String
  deleted : Bool
  deriving DecidableEq

/-- The tables that a clock-in reads or writes. -/
structure Workspace where
  payroll : Database
  billing : Store
  users : List User
  shifts : List Shift
  deletedLocations : List String

/-- The user with the given id, deleted or not. -/
def Workspace.user? (ws : Workspace) (id : String) : Option User := ws.users.find? (·.id = id)

/-- The shift with the given id, deleted or not. -/
def Workspace.shift? (ws : Workspace) (id : String) : Option Shift := ws.shifts.find? (·.id = id)

/-- The location with the given id, deleted or not. -/
def Workspace.location? (ws : Workspace) (id : String) : Option Location :=
  ws.payroll.locations.find? (·.id = id)

/-! ## Requests -/

/-- What `clockInRequestHash` digests. -/
structure ClockInContent where
  actorUserId : String
  targetUserId : String
  locationId : Option String
  shiftId : Option String
  clockInAt : Option Int
  notes : Option String
  deriving DecidableEq

/-- The two digests of a clock-in. -/
structure ClockInHashes where
  operationId : String → String
  requestHash : ClockInContent → String

/-- A call of `clockIn`.  `authorised` is what `authorizeCurrentMutation` decides,
`entitled` what `assertFeatureEntitled` decides before it looks at the wallet, and
`current` whether `assertCurrent` passes at each site of the debit.  `cardId` is
the id a new card would get. -/
structure ClockInCall where
  actorUserId : String
  team : Bool
  idempotencyKey : Option String
  userId : Option String
  locationId : Option String
  shiftId : Option String
  clockInAt : Option Int
  notes : Option String
  cardId : String
  now : Int
  authorised : Bool
  entitled : Bool
  current : Nat → Bool

/-- An optional text of a body, where the empty text is falsy. -/
def given (value : Option String) : Option String := value.filter (· ≠ "")

/-- `normalizeClockInIdempotencyKey`. -/
def normalizeClockInIdempotencyKey (value : Option String) : Except Problem String := do
  let key := (value.map jsTrim).getD ""
  ensure (key ≠ "") (.problem 428 "idempotency_key_required")
  ensure (jsLength key ≤ 255 ∧ ¬ hasJsControl key) (.problem 422 "invalid_idempotency_key")
  .ok key

/-- `normalizeTimeCardNotes(body.notes) ?? null`. -/
def normalizeTimeCardNotes (value : Option String) : Except Problem (Option String) := do
  let normalized := value.map jsTrim
  ensure (∀ text ∈ normalized, jsLength text ≤ 1000) (.problem 422 "invalid_time_card_input")
  .ok (given normalized)

/-- `assertRequestScope`, with `writableTargetPublicId`. -/
def ClockInCall.assertRequestScope (call : ClockInCall) : Except Problem Unit := do
  ensure (call.team = true ∨ call.userId.getD call.actorUserId = call.actorUserId)
    (.problem 403 "time_card_scope_denied")
  ensure (call.team = true ∨ call.clockInAt = none) (.problem 403 "manual_clock_time_denied")

/-! ## Reading the directory -/

/-- The rows that the request names, whatever their state: what is digested. -/
def Workspace.resolveForReplay (ws : Workspace) (call : ClockInCall) (notes : Option String) :
    Except Problem ClockInContent := do
  let target := call.userId.getD call.actorUserId
  ensure ((ws.user? target).isSome = true) (.problem 422 "invalid_time_card_input")
  ensure (target = (given call.userId).getD call.actorUserId)
    (.problem 409 "time_card_target_changed")
  ensure (∀ id ∈ given call.locationId, (ws.location? id).isSome = true)
    (.problem 422 "invalid_time_card_input")
  ensure (∀ id ∈ given call.shiftId, (ws.shift? id).isSome = true)
    (.problem 422 "invalid_time_card_input")
  .ok {
    actorUserId := call.actorUserId
    targetUserId := target
    locationId := given call.locationId
    shiftId := given call.shiftId
    clockInAt := call.clockInAt
    notes := notes }

/-- `readActiveClockInTarget`. -/
def Workspace.readActiveClockInTarget (ws : Workspace) (id : String) : Except Problem Unit :=
  match ws.user? id with
  | none => .error (.problem 422 "invalid_time_card_input")
  | some user =>
      ensure ((user.role = .manager ∨ user.role = .staff) ∧ user.deleted = false ∧
          user.suspended = false)
        (.problem 422 "invalid_time_card_input")

/-- `resolveShift`. -/
def Workspace.resolveShift (ws : Workspace) (id targetUserId : String) :
    Except Problem Shift :=
  match ws.shift? id with
  | none => .error (.problem 422 "invalid_time_card_input")
  | some shift => do
      ensure (shift.deleted = false) (.problem 422 "invalid_time_card_input")
      ensure (∀ owner ∈ given shift.userId, owner = targetUserId)
        (.problem 422 "invalid_time_card_input")
      .ok shift

/-- `resolveLocation` and `resolveLocationByInternalId`. -/
def Workspace.resolveLocation (ws : Workspace) (id : String) : Except Problem Location :=
  match ws.location? id with
  | none => .error (.problem 422 "invalid_time_card_input")
  | some location => do
      ensure (id ∉ ws.deletedLocations) (.problem 422 "invalid_time_card_input")
      .ok location

/-- The location of a new card: that of the body, or else that of the shift. -/
def Workspace.resolveClockInLocation (ws : Workspace) (content : ClockInContent) :
    Except Problem (Option Location) :=
  match content.locationId, content.shiftId with
  | some id, none => (ws.resolveLocation id).map some
  | none, none => .ok none
  | none, some shiftId => do
      let shift ← ws.resolveShift shiftId content.targetUserId
      (ws.resolveLocation shift.locationId).map some
  | some id, some shiftId => do
      let shift ← ws.resolveShift shiftId content.targetUserId
      let location ← ws.resolveLocation id
      ensure (location.id = shift.locationId) (.problem 422 "invalid_time_card_input")
      .ok (some location)

/-! ## The debit -/

/-- The reason of the ledger row of a clock-in. -/
def clockInReason (cardId : String) : String := "Time card clock-in (" ++ cardId ++ ")"

/-- How an error of the wallet leaves the time-card service.  The debit of a
feature throws only the first three. -/
def problemOf : BillingError → Problem
  | .problem status code => .problem status code
  | .superseded => .problem 403 "permission_denied"
  | .sql _ message => .constraint message
  | .badRequest message => .constraint message
  | .badRequestCode _ message => .constraint message
  | .conflict message => .constraint message
  | .forbidden message => .constraint message
  | .notFound => .constraint "not found"

/-- The time-card service of one tenant. -/
structure ClockService where
  zones : Zones
  hashes : ClockInHashes
  tenantId : String

/-- `assertFeatureEntitled` for a billable time card. -/
def ClockService.assertFeatureEntitled (service : ClockService) (billing : Store)
    (entitled : Bool) : Except Problem Unit :=
  match billing.wallet? service.tenantId with
  | none => .error (.problem 403 "time_cards_not_entitled")
  | some wallet => do
      ensure (entitled = true) (.problem 403 "time_cards_not_entitled")
      ensure (wallet.creditDebt = 0) (.problem 403 "time_cards_not_entitled")
      ensure (1 ≤ wallet.usageCredits) (.problem 403 "time_cards_not_entitled")

/-- The arguments of the debit of a clock-in. -/
def ClockService.debitArgs (service : ClockService) (call : ClockInCall) (operation : String) :
    FeatureDebitArgs where
  tenantId := service.tenantId
  feature := .timeCards
  creditCost := .integer 1
  operationId := operation
  reason := clockInReason call.cardId
  transactionId := none
  current := call.current

/-! ## The two transactions -/

/-- What a clock-in returns: the card, and whether it was there before. -/
structure ClockInAnswer where
  cardId : String
  reused : Bool
  deriving DecidableEq

/-- The payroll part of a clock-in whose rows are resolved. -/
def ClockInCall.payrollRequest (call : ClockInCall) (content : ClockInContent)
    (location : Option Location) (operation requestHash : String) : ClockInRequest where
  id := call.cardId
  actorUserId := call.actorUserId
  userId := content.targetUserId
  team := call.team
  admitted := true
  location := location
  shiftId := content.shiftId
  clockInAt := content.clockInAt
  notes := content.notes
  operationId := operation
  requestHash := requestHash

/-- The first transaction of `clockIn`. -/
def ClockService.clockIn (service : ClockService) (ws : Workspace) (call : ClockInCall) :
    Except Problem (ClockInAnswer × Workspace) := do
  let key ← normalizeClockInIdempotencyKey call.idempotencyKey
  let operation := service.hashes.operationId key
  let notes ← normalizeTimeCardNotes call.notes
  ensure (call.authorised = true) (.problem 403 "permission_denied")
  call.assertRequestScope
  let content ← ws.resolveForReplay call notes
  let requestHash := service.hashes.requestHash content
  match ws.payroll.cards.find? (·.clockInOperationId = some operation) with
  | some card => do
      ensure (card.clockInRequestHash = some requestHash) (.problem 409 "idempotency_conflict")
      .ok (⟨card.id, true⟩, ws)
  | none => do
      ws.readActiveClockInTarget content.targetUserId
      let location ← ws.resolveClockInLocation content
      service.assertFeatureEntitled ws.billing call.entitled
      let payroll ← service.zones.clockIn ws.payroll call.now
        (call.payrollRequest content location operation requestHash)
      let (_, billing) ← (debitFeatureCredit ws.billing false
        (service.debitArgs call operation)).mapError problemOf
      .ok (⟨call.cardId, false⟩, { ws with payroll := payroll, billing := billing })

/-- The refusals after which no second transaction is opened. -/
def isAuthorityRefusal : Problem → Bool
  | .problem _ code => ["permission_denied", "pin_rotation_required", "mfa_verification_required",
      "time_card_scope_denied", "manual_clock_time_denied"].contains code
  | _ => false

/-- `isUniqueConstraint`, over the unique indexes that a clock-in can violate. -/
def isUniqueConstraint : Problem → Bool
  | .constraint name => ["TimeCard_pkey", "TimeCard_clockInOperationId_key",
      "TimeCard_one_open_per_user_idx", "CreditTransaction_pkey"].contains name
  | _ => false

/-- The second transaction of `clockIn`, after the first ended in `failure`;
`expectedRequestHash` is the digest where the first came so far. -/
def ClockService.recover (service : ClockService) (ws : Workspace) (call : ClockInCall)
    (expectedRequestHash : Option String) (failure : Problem) : Except Problem ClockInAnswer := do
  ensure (isAuthorityRefusal failure = false) failure
  let key ← normalizeClockInIdempotencyKey call.idempotencyKey
  ensure (call.authorised = true) (.problem 403 "permission_denied")
  call.assertRequestScope
  let row := ws.payroll.cards.find? (·.clockInOperationId = some (service.hashes.operationId key))
  match row, expectedRequestHash with
  | some card, some requestHash => do
      ensure (card.clockInRequestHash = some requestHash) (.problem 409 "idempotency_conflict")
      .ok ⟨card.id, true⟩
  | _, _ =>
      .error (if isUniqueConstraint failure = true then .problem 422 "invalid_time_card_input"
        else failure)

/-! ## Runs -/

/-- The commands that a run may interleave as they are: every one but the
clock-in and the change of the locations, which have events of their own. -/
def Command.elsewhere : Command → Bool
  | .clockIn _ => false
  | .locations _ => false
  | _ => true

/-- The call is no debit with the reason of a clock-in. -/
def Foreign : WalletCall → Prop
  | .creditDebit args => ∀ cardId, args.reason ≠ clockInReason cardId
  | .featureDebit args => ∀ cardId, args.reason ≠ clockInReason cardId
  | .positiveSettlement _ => True
  | .settlePositive _ => True

/-- How a transaction that reached its commit ends: the caller learns of it, or
the acknowledgement is lost, or the commit fails (a serialization conflict, a lost
connection) and everything is rolled back. -/
inductive Fate
  | acknowledged
  | unacknowledged
  | rolledBack
  deriving DecidableEq

/-- What can happen in the workspace.  A retry after a serialization conflict is a
clock-in that was rolled back and another one. -/
inductive ClockEvent
  | clockIn (call : ClockInCall) (fate : Fate)
  | recover (call : ClockInCall) (expectedRequestHash : Option String) (failure : Problem)
  | payroll (event : Event) (elsewhere : event.command.elsewhere = true)
  | wallet (request : WalletRequest) (foreign : Foreign request.call)
  | directory (users : List User) (shifts : List Shift) (locations : List Location)
      (deletedLocations : List String)

/-- What a caller learns. -/
inductive ClockOutcome
  | card (answer : ClockInAnswer)
  | refused (problem : Problem)
  | lost
  | other

/-- Every row that a card refers to is there: the foreign keys of `"TimeCard"`,
which restrict deletions. -/
structure Referenced (users : List User) (shifts : List Shift) (locations : List Location)
    (card : TimeCard) : Prop where
  user : ∃ user ∈ users, user.id = card.userId
  shift : ∀ id ∈ card.shiftId, ∃ shift ∈ shifts, shift.id = id
  location : ∀ id ∈ card.locationId, ∃ location ∈ locations, location.id = id

instance (users : List User) (shifts : List Shift) (locations : List Location) (card : TimeCard) :
    Decidable (Referenced users shifts locations card) :=
  decidable_of_iff ((∃ user ∈ users, user.id = card.userId) ∧
      (∀ id ∈ card.shiftId, ∃ shift ∈ shifts, shift.id = id) ∧
      ∀ id ∈ card.locationId, ∃ location ∈ locations, location.id = id)
    ⟨fun h => ⟨h.1, h.2.1, h.2.2⟩, fun h => ⟨h.user, h.shift, h.location⟩⟩

/-- The step function of the workspace. -/
def ClockService.step (service : ClockService) (hashes : Hashes) (isControl : Char → Bool)
    (ws : Workspace) : ClockEvent → ClockOutcome × Workspace
  | .clockIn call fate =>
      match service.clockIn ws call, fate with
      | .error problem, _ => (.refused problem, ws)
      | .ok (answer, next), .acknowledged => (.card answer, next)
      | .ok (_, next), .unacknowledged => (.lost, next)
      | .ok _, .rolledBack => (.lost, ws)
  | .recover call expectedRequestHash failure =>
      match service.recover ws call expectedRequestHash failure with
      | .error problem => (.refused problem, ws)
      | .ok answer => (.card answer, ws)
  | .payroll event _ =>
      (.other, { ws with
        payroll := (LunchLineup.Payroll.step service.zones hashes ws.payroll event).2 })
  | .wallet request _ => (.other, { ws with billing := (commit isControl ws.billing request).2 })
  | .directory users shifts locations deletedLocations =>
      if ∀ card ∈ ws.payroll.cards, Referenced users shifts locations card then
        (.other, {
          payroll := { ws.payroll with locations := locations }
          billing := ws.billing
          users := users
          shifts := shifts
          deletedLocations := deletedLocations })
      else (.other, ws)

end LunchLineup.Payroll
