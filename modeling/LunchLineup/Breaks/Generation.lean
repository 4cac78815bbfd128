import LunchLineup.Breaks.Board

/-!
# Generating breaks

A call of `generate` runs several transactions.  The first looks its idempotency key up
in `"LunchBreakGenerationRequest"` and takes a claim on the row, under a token of its own
that expires after two minutes; the next computes the breaks; the last pays, saves them
and settles the row.  A call that fails settles its claim as failed.

* `GenerationCall.prepare` and `claimGeneration` are the first transaction.  It reads the
  row without a lock, so the read (`seen`) and the write stand apart.
* `prepareGeneration` only reads; what it computes is arbitrary here.
* `completeGeneration` locks the row with its first statement.
* `failGeneration` is one statement, and so is `findGeneration`, with which a call looks
  for its outcome once more (`recoverGeneration`).

Times are milliseconds and arbitrary.  The columns `failureMessage`, `completedAt`,
`creditConsumption`, `creditTransactionId` and `calculationSnapshot`, which nothing reads
but a message, are left out; `response` contains the second and third of the charge.
-/

namespace LunchLineup.Breaks

open LunchLineup.Lib LunchLineup.Billing
open LunchLineup.Payroll (Problem problemOf given)

/-! ## Rows -/

/-- The statuses of a row. -/
inductive GenerationStatus
  | pending
  | succeeded
  | failed
  deriving DecidableEq

/-- Where the shifts came from. -/
inductive GenerationSource
  | sharedSchedule
  | standalone
  deriving DecidableEq

/-- The charge of a generation; its source is always `credits`. -/
structure CreditConsumption where
  consumedCredits : Int
  newBalance : Int
  deriving DecidableEq

/-- `LunchBreakGenerationResponse`. -/
structure GenerationResponse where
  locationId : Option String
  source : GenerationSource
  persisted : Bool
  policy : LunchBreakPolicy
  creditConsumption : CreditConsumption
  data : List LunchBreakRow
  reused : Bool
  deriving DecidableEq

/-- A `"LunchBreakGenerationRequest"` row. -/
structure GenerationRequest where
  id : String
  requestKeyHash : String
  requestHash : String
  status : GenerationStatus
  response : Option GenerationResponse
  failureStatus : Option Nat
  claimToken : Option String
  claimExpiresAt : Option Int
  attempts : Nat
  deriving DecidableEq

/-- `GenerationClaim`. -/
structure GenerationClaim where
  requestId : String
  claimToken : String
  deriving DecidableEq

/-- A claim with the digest of the body of the call that took it. -/
structure Holder where
  claim : GenerationClaim
  bodyHash : String
  deriving DecidableEq

/-- `GenerationSnapshot`. -/
structure GenerationSnapshot where
  id : String
  publicId : String
  scheduleId : Option String
  startTime : Int
  endTime : Int
  updatedAt : Int
  deriving DecidableEq

/-- `PreparedGeneration`. -/
structure PreparedGeneration where
  locationId : Option String
  source : GenerationSource
  persisted : Bool
  policy : LunchBreakPolicy
  data : List LunchBreakRow
  snapshot : List GenerationSnapshot

/-! ## Calls -/

/-- An entry of `body.shifts`. -/
structure ManualShift where
  id : Option String
  userId : Option String
  employeeName : Option String
  startTime : String
  endTime : String
  lunchDurationMinutes : Option Int
  deriving DecidableEq

/-- `LunchBreakGenerationRequest`, the body. -/
structure GenerationBody where
  locationId : Option String
  scheduleId : Option String
  shiftIds : Option (List String)
  shifts : Option (List ManualShift)
  policy : Option StoredPolicy
  persist : Bool
  deriving DecidableEq

/-- `assertGenerationRequest`. -/
def assertGenerationRequest (body : GenerationBody) : Except Problem Unit := do
  let hasIds := ∃ ids ∈ body.shiftIds, ids ≠ []
  let hasShifts := ∃ shifts ∈ body.shifts, shifts ≠ []
  ensure (body.shifts = none ∨ body.shiftIds = none ∧ given body.scheduleId = none)
    (.problem 422 "invalid_break_generation")
  ensure (body.persist = true → given body.locationId ≠ none ∧ hasIds ∧ ¬ hasShifts)
    (.problem 422 "invalid_break_generation")
  ensure (hasShifts ∨ hasIds ∨ given body.scheduleId ≠ none ∨ given body.locationId ≠ none)
    (.problem 422 "invalid_break_generation")

/-- A call of `generate` as far as its claim.  `requestId` and `claimToken` are the random
ids it draws, `now` its clock at the claim, and `authorised` whether the authority of the
session holds. -/
structure GenerationCall where
  idempotencyKey : Option String
  body : GenerationBody
  requestId : String
  claimToken : String
  now : Int
  authorised : Bool
  deriving DecidableEq

/-- The generation of breaks for one tenant, with its two digests. -/
structure GenerationService where
  tenantId : String
  sha256 : String → String
  requestHash : GenerationBody → String

/-- The digests of a call that passed validation and authority. -/
structure GenerationDigests where
  keyHash : String
  bodyHash : String
  deriving DecidableEq

/-- What `generate` does before it reads the tables. -/
def GenerationService.prepare (service : GenerationService) (call : GenerationCall) :
    Except Problem GenerationDigests := do
  let key ← requireIdempotencyKey call.idempotencyKey
  assertGenerationRequest call.body
  ensure (call.authorised = true) (.problem 403 "permission_denied")
  .ok ⟨service.sha256 key, service.requestHash call.body⟩

/-! ## The claim -/

/-- The tables, and the claims that were handed out. -/
structure GenerationDesk where
  board : Board
  requests : List GenerationRequest
  holders : List Holder

/-- What `claimGeneration` returns. -/
inductive ClaimAnswer
  | claim (claim : GenerationClaim)
  | response (response : GenerationResponse)
  deriving DecidableEq

/-- The two minutes of a claim. -/
def claimMs : Int := 120000

/-- The row under an idempotency key. -/
def GenerationDesk.findUnique (desk : GenerationDesk) (keyHash : String) :
    Option GenerationRequest :=
  desk.requests.find? (·.requestKeyHash = keyHash)

/-- The insertion of a row; `id` is the primary key, and the hash of the idempotency key is
unique. -/
def GenerationDesk.create (desk : GenerationDesk) (row : GenerationRequest) :
    Except Problem GenerationDesk := do
  ensure (∀ other ∈ desk.requests, other.id ≠ row.id)
    (.constraint "LunchBreakGenerationRequest_pkey")
  ensure (∀ other ∈ desk.requests, other.requestKeyHash ≠ row.requestKeyHash)
    (.constraint "LunchBreakGenerationRequest_tenantId_requestKeyHash_key")
  .ok { desk with requests := desk.requests ++ [row] }

/-- The row that the claim of a new key inserts. -/
def GenerationCall.newRow (call : GenerationCall) (digests : GenerationDigests) :
    GenerationRequest where
  id := call.requestId
  requestKeyHash := digests.keyHash
  requestHash := digests.bodyHash
  status := .pending
  response := none
  failureStatus := none
  claimToken := some call.claimToken
  claimExpiresAt := some (call.now + claimMs)
  attempts := 1

/-- The condition under which a row is taken over. -/
def GenerationRequest.Reclaimable (row : GenerationRequest) (id bodyHash : String) (now : Int) :
    Prop :=
  row.id = id ∧ row.requestHash = bodyHash ∧
    (row.status = .failed ∨ row.status = .pending ∧ ∀ expiry ∈ row.claimExpiresAt, expiry ≤ now)

instance (row : GenerationRequest) (id bodyHash : String) (now : Int) :
    Decidable (row.Reclaimable id bodyHash now) :=
  inferInstanceAs (Decidable (_ ∧ _ ∧ (_ ∨ _ ∧ _)))

/-- A row under a new claim. -/
def GenerationRequest.reclaimed (row : GenerationRequest) (call : GenerationCall) :
    GenerationRequest :=
  { row with
    status := .pending
    claimToken := some call.claimToken
    claimExpiresAt := some (call.now + claimMs)
    attempts := row.attempts + 1
    failureStatus := none }

/-- The transaction of `claimGeneration`, past its read; `seen` is what it read.  The second
transaction, after the unique index refused the first, may not create a row. -/
def GenerationDesk.claimGeneration (desk : GenerationDesk) (call : GenerationCall)
    (digests : GenerationDigests) (seen : Option GenerationRequest) (allowCreate : Bool) :
    Except Problem (ClaimAnswer × GenerationDesk) :=
  match seen with
  | none => do
      ensure (allowCreate = true) (.problem 503 "generation_claim_unavailable")
      let created ← desk.create (call.newRow digests)
      let claim : GenerationClaim := ⟨call.requestId, call.claimToken⟩
      .ok (.claim claim, { created with holders := desk.holders ++ [⟨claim, digests.bodyHash⟩] })
  | some existing => do
      ensure (existing.requestHash = digests.bodyHash) (.problem 409 "idempotency_conflict")
      if existing.status = .succeeded then
        match existing.response with
        | none => .error (.problem 409 "idempotency_conflict")
        | some response => .ok (.response { response with reused := true }, desk)
      else do
        ensure (¬ (existing.status = .pending ∧ ∃ expiry ∈ existing.claimExpiresAt, call.now < expiry))
          (.problem 409 "generation_in_progress")
        ensure (¬ (existing.status = .failed ∧ existing.failureStatus ≠ some 403 ∧
            existing.failureStatus ≠ some 409 ∧ existing.failureStatus.getD 500 < 500))
          (.problem (existing.failureStatus.getD 422) "generation_previously_rejected")
        ensure (∃ row ∈ desk.requests, row.Reclaimable existing.id digests.bodyHash call.now)
          (.problem 409 "generation_in_progress")
        let claim : GenerationClaim := ⟨existing.id, call.claimToken⟩
        .ok (.claim claim, { desk with
          requests := desk.requests.map fun row =>
            if row.Reclaimable existing.id digests.bodyHash call.now then row.reclaimed call
            else row
          holders := desk.holders ++ [⟨claim, digests.bodyHash⟩] })

/-! ## Completion -/

/-- What the completing transaction meets.  `entitled` is what `assertFeatureEntitled`
decides before it looks at the wallet, `current` whether the authority holds at each site
of the debit, `breakId` the ids that new rows would get. -/
structure Completion where
  authorised : Bool
  entitled : Bool
  current : Nat → Bool
  now : Int
  breakId : Nat → String

/-- The row that the holder may settle. -/
def GenerationRequest.HeldBy (row : GenerationRequest) (claim : GenerationClaim) : Prop :=
  row.id = claim.requestId ∧ row.status = .pending ∧ row.claimToken = some claim.claimToken

instance (row : GenerationRequest) (claim : GenerationClaim) : Decidable (row.HeldBy claim) :=
  inferInstanceAs (Decidable (_ ∧ _ ∧ _))

/-- A snapshot still describes the row of its shift. -/
def Board.Matches (board : Board) (prepared : PreparedGeneration) (snapshot : GenerationSnapshot)
    (row : Shift) : Prop :=
  row.publicId = snapshot.publicId ∧
    (board.locations.find? (·.id = row.locationId)).map (·.publicId) = prepared.locationId ∧
    row.scheduleId = snapshot.scheduleId ∧ row.startTime = snapshot.startTime ∧
    row.endTime = snapshot.endTime ∧ row.updatedAt = snapshot.updatedAt ∧
    ∀ scheduleId ∈ row.scheduleId,
      (board.schedules.find? (·.id = scheduleId)).map (·.status) = some .draft

instance (board : Board) (prepared : PreparedGeneration) (snapshot : GenerationSnapshot)
    (row : Shift) : Decidable (board.Matches prepared snapshot row) :=
  inferInstanceAs (Decidable (_ ∧ _ ∧ _ ∧ _ ∧ _ ∧ _ ∧ _))

/-- `assertPersistableGeneration`. -/
def Board.assertPersistableGeneration (board : Board) (prepared : PreparedGeneration) :
    Except Problem Unit := do
  ensure (given prepared.locationId ≠ none ∧ prepared.snapshot ≠ [] ∧
      prepared.snapshot.length = prepared.data.length)
    (.problem 409 "generation_scope_changed")
  board.assertDraftSchedules (prepared.snapshot.map (·.scheduleId))
  let shiftIds := prepared.snapshot.map (·.id)
  let current := board.shifts.filter fun shift =>
    ! shift.deleted && shiftIds.contains shift.id && board.schedulable shift
  ensure ((∀ snapshot ∈ prepared.snapshot, ∃ row ∈ current, row.id = snapshot.id ∧
      board.Matches prepared snapshot row) ∧ current.length = prepared.snapshot.length)
    (.problem 409 "generation_scope_changed")

/-- The shift that a row of the result belongs to: the last entry of its public id wins, as
in the `Map`. -/
def PreparedGeneration.shiftOf (prepared : PreparedGeneration) (row : LunchBreakRow) :
    Option String :=
  (given row.shiftId).bind fun publicId =>
    (prepared.snapshot.reverse.find? (·.publicId = publicId)).map (·.id)

/-- The breaks to insert, with their shifts. -/
def PreparedGeneration.entries (prepared : PreparedGeneration) :
    Except Problem (List (String × PublicBreak)) := do
  let rows ← prepared.data.mapM fun row =>
    row.breaks.mapM fun entry =>
      match prepared.shiftOf row with
      | none => Except.error (Problem.problem 409 "generation_scope_changed")
      | some shiftId => .ok (shiftId, entry)
  .ok rows.flatten

/-- The rows that `createMany` inserts for a shift. -/
def Completion.newBreaks (completion : Completion) (entries : List (String × PublicBreak))
    (shiftId : String) : List Break :=
  (entries.zipIdx.filter (·.1.1 = shiftId)).map fun entry => {
    id := completion.breakId entry.2
    type := some entry.1.2.type
    startTime := entry.1.2.startTime
    endTime := entry.1.2.endTime
    paid := entry.1.2.paid }

/-- `persistGeneratedBreaks`.  The checks are `"Break_window_valid"` and the primary key of
`"Break"`. -/
def Board.persistGeneratedBreaks (board : Board) (completion : Completion)
    (prepared : PreparedGeneration) : Except Problem Board := do
  let entries ← prepared.entries
  let shiftIds := prepared.snapshot.map (·.id)
  ensure (∀ entry ∈ entries, entry.2.startTime < entry.2.endTime)
    (.constraint "Break_window_valid")
  ensure (∀ entry ∈ entries.zipIdx, completion.breakId entry.2 ∉ board.breakIds)
    (.constraint "Break_pkey")
  let written : Board := { board with
    shifts := board.shifts.map fun shift =>
      if shift.id ∈ shiftIds then
        { shift with
          breaks := completion.newBreaks entries shift.id
          updatedAt := if shift.deleted = true then shift.updatedAt else completion.now }
      else shift }
  written.incrementDraftRevisions (prepared.snapshot.map (·.scheduleId))

/-- The reason of the debit of a generation. -/
def generationReason (requestId : String) : String :=
  "Lunch/break generation (" ++ requestId ++ ")"

/-- The id of the debit of a generation. -/
def generationCreditId (requestId : String) : String := "lunch-break-credit-" ++ requestId

/-- The arguments of the debit. -/
def GenerationService.debitArgs (service : GenerationService) (completion : Completion)
    (requestId : String) : FeatureDebitArgs where
  tenantId := service.tenantId
  feature := .lunchBreaks
  creditCost := .integer 1
  operationId := requestId
  reason := generationReason requestId
  transactionId := some (generationCreditId requestId)
  current := completion.current

/-- The response that a completion stores and returns. -/
def PreparedGeneration.response (prepared : PreparedGeneration)
    (settlement : CreditDebitSettlement) : GenerationResponse where
  locationId := prepared.locationId
  source := prepared.source
  persisted := prepared.persisted
  policy := prepared.policy
  creditConsumption := ⟨settlement.consumedCredits, settlement.newBalance⟩
  data := prepared.data
  reused := false

/-- A row that succeeded. -/
def GenerationRequest.succeeded (row : GenerationRequest) (response : GenerationResponse) :
    GenerationRequest :=
  { row with
    status := .succeeded
    response := some response
    failureStatus := none
    claimToken := none
    claimExpiresAt := none }

/-- `completeGeneration`.  The renewed expiry of the claim is overwritten by the last
statement. -/
def GenerationService.completeGeneration (service : GenerationService) (desk : GenerationDesk)
    (holder : Holder) (prepared : PreparedGeneration) (completion : Completion) :
    Except Problem (GenerationResponse × GenerationDesk) := do
  ensure (completion.authorised = true) (.problem 403 "permission_denied")
  ensure (∃ row ∈ desk.requests, row.HeldBy holder.claim ∧ row.requestHash = holder.bodyHash)
    (.problem 409 "generation_claim_expired")
  desk.board.assertFeatureEntitled service.tenantId completion.entitled
  let _ ← (if prepared.persisted = true then desk.board.assertPersistableGeneration prepared
    else .ok ())
  let (settlement, billing) ← (debitFeatureCredit desk.board.billing false
    (service.debitArgs completion holder.claim.requestId)).mapError problemOf
  let response := prepared.response settlement
  let paid := { desk.board with billing := billing }
  let board ← (if prepared.persisted = true then paid.persistGeneratedBreaks completion prepared
    else .ok paid)
  .ok (response, { desk with
    board := board
    requests := desk.requests.map fun row =>
      if row.id = holder.claim.requestId then row.succeeded response else row })

/-! ## Failure and recovery -/

/-- A row that failed. -/
def GenerationRequest.failed (row : GenerationRequest) (failureStatus : Nat) :
    GenerationRequest :=
  { row with
    status := .failed
    failureStatus := some failureStatus
    claimToken := none
    claimExpiresAt := none }

/-- `failGeneration`, which swallows its own errors.  A status outside of the check of the
table is refused. -/
def GenerationDesk.failGeneration (desk : GenerationDesk) (claim : GenerationClaim)
    (failureStatus : Nat) : GenerationDesk :=
  if 400 ≤ failureStatus ∧ failureStatus ≤ 599 then
    { desk with
      requests := desk.requests.map fun row =>
        if row.HeldBy claim then row.failed failureStatus else row }
  else desk

/-- The look-up with which `generate` recovers from a lost claim or a lost connection. -/
def GenerationDesk.recoverGeneration (desk : GenerationDesk) (digests : GenerationDigests) :
    Option GenerationResponse :=
  match desk.findUnique digests.keyHash with
  | none => none
  | some existing =>
      if existing.status = .succeeded ∧ existing.requestHash = digests.bodyHash then
        existing.response.map fun response => { response with reused := true }
      else none

/-! ## Runs -/

/-- What a caller learns from a transaction. -/
inductive GenerationOutcome
  | claimed (claim : GenerationClaim)
  | response (response : GenerationResponse)
  | refused (problem : Problem)
  | lost
  | other
  deriving DecidableEq

/-- The call is no debit with the reason of a generation. -/
def ForeignToGeneration : WalletCall → Prop
  | .creditDebit args => ∀ requestId, args.reason ≠ generationReason requestId
  | .featureDebit args => ∀ requestId, args.reason ≠ generationReason requestId
  | .positiveSettlement _ => True
  | .settlePositive _ => True

/-- The desk, and what the claiming transactions under way have read. -/
structure GenerationState extends GenerationDesk where
  reads : List (GenerationCall × Option GenerationRequest)

/-- What can happen: the read of a claiming transaction, the rest of it, a completion, a
failure and a recovery, by any caller and at any time after the claim that it needs; and
all the other operations, on the board and on the wallet. -/
inductive GenerationEvent
  | read (call : GenerationCall)
  | claim (call : GenerationCall) (seen : Option GenerationRequest) (allowCreate : Bool)
      (fate : Payroll.Fate)
  | complete (holder : Holder) (prepared : PreparedGeneration) (completion : Completion)
      (fate : Payroll.Fate)
  | fail (holder : Holder) (failureStatus : Nat)
  | recover (call : GenerationCall)
  | others (shifts : List Shift) (schedules : List Schedule) (locations : List Location)
      (users : List User) (policy : Option StoredPolicy)
  | wallet (request : WalletRequest) (foreign : ForeignToGeneration request.call)

/-- How a transaction ends, after what it returned and left. -/
def GenerationState.settle (st : GenerationState) (fate : Payroll.Fate)
    (outcome : GenerationOutcome) (next : GenerationDesk) : GenerationOutcome × GenerationState :=
  match fate with
  | .acknowledged => (outcome, { st with toGenerationDesk := next })
  | .unacknowledged => (.lost, { st with toGenerationDesk := next })
  | .rolledBack => (.lost, st)

/-- The outcome of a claim. -/
def ClaimAnswer.outcome : ClaimAnswer → GenerationOutcome
  | .claim taken => .claimed taken
  | .response stored => .response stored

/-- The random ids of a call are new. -/
def GenerationState.Draws (st : GenerationState) (call : GenerationCall) : Prop :=
  (∀ holder ∈ st.holders, holder.claim.claimToken ≠ call.claimToken) ∧
    ∀ row ∈ st.requests, row.id ≠ call.requestId

instance (st : GenerationState) (call : GenerationCall) : Decidable (st.Draws call) :=
  inferInstanceAs (Decidable (_ ∧ _))

/-- The step function.  A claim needs its read, with random ids that are new, and the other
steps of a call need its claim. -/
def GenerationService.step (service : GenerationService) (isControl : Char → Bool)
    (st : GenerationState) : GenerationEvent → GenerationOutcome × GenerationState
  | .read call =>
      match service.prepare call with
      | .error problem => (.refused problem, st)
      | .ok digests => (.other, { st with
          reads := st.reads ++ [(call, st.findUnique digests.keyHash)] })
  | .claim call seen allowCreate fate =>
      if (call, seen) ∈ st.reads ∧ st.Draws call then
        match service.prepare call with
        | .error problem => (.refused problem, st)
        | .ok digests =>
            match st.claimGeneration call digests seen allowCreate with
            | .error problem => (.refused problem, st)
            | .ok (answer, next) => st.settle fate answer.outcome next
      else (.other, st)
  | .complete holder prepared completion fate =>
      if holder ∈ st.holders then
        match service.completeGeneration st.toGenerationDesk holder prepared completion with
        | .error problem => (.refused problem, st)
        | .ok (response, next) => st.settle fate (.response response) next
      else (.other, st)
  | .fail holder failureStatus =>
      if holder ∈ st.holders then
        (.other, { st with toGenerationDesk := st.failGeneration holder.claim failureStatus })
      else (.other, st)
  | .recover call =>
      match service.prepare call with
      | .error problem => (.refused problem, st)
      | .ok digests =>
          match st.recoverGeneration digests with
          | some response => (.response response, st)
          | none => (.other, st)
  | .others shifts schedules locations users policy =>
      (.other, { st with
        board := {
          shifts := shifts
          schedules := schedules
          locations := locations
          users := users
          policy := policy
          receipts := st.board.receipts
          billing := st.board.billing } })
  | .wallet request _ =>
      (.other, { st with
        board := { st.board with billing := (commit isControl st.board.billing request).2 } })

end LunchLineup.Breaks
