import LunchLineup.Lib.Keyset
import LunchLineup.Lib.Checked
import LunchLineup.Pagination.Cursors
import LunchLineup.Jobs.Database

/-!
# The lists that are read page by page

Lunch breaks in the order of their start, time cards and pay periods newest first.
Each list filters its rows, continues after its cursor, asks for one row more than
the page has and cuts that row off again.  The requests are those of a caller who
may read the list.

A reader who follows the cursors reads each row of the filtered list once, in the
order of the list: the three queries continue after the key of the last row, and
the readers of the cursors give that key back.  The lists of lunch breaks and time
cards have pages of up to 200 rows, the list of pay periods of up to 50.
-/

namespace LunchLineup.Pagination

open LunchLineup.Lib LunchLineup.Python.Reference
open LunchLineup.Billing (jsTrim)
open LunchLineup.Payroll (toISOString ValidDate)
open LunchLineup.Jobs (UserRole ScheduleStatus)

/-! ## Limits and windows -/

/-- The number of rows of a page: digits only, within the bounds. -/
def limitOf (standard maximum : Nat) (malformed outside : ProblemError) (value : Option String) :
    Except ProblemError Nat :=
  match value with
  | none => .ok standard
  | some text =>
      if text = "" then .ok standard
      else if text.toList.all Char.isDigit = false then .error malformed
      else
        let parsed := Nat.ofDigitChars 10 text.toList 0
        if parsed < 1 ∨ maximum < parsed then .error outside else .ok parsed

/-- `parseLimit`. -/
def parseLimit : Option String → Except ProblemError Nat :=
  limitOf 100 200 (invalidPagination "limit must be an integer from 1 through 200.")
    (invalidPagination "limit must be an integer from 1 through 200.")

/-- `parseTimeCardLimit`. -/
def parseTimeCardLimit : Option String → Except ProblemError Nat :=
  limitOf 100 200 (invalidCursorOrLimit "limit must be an integer from 1 through 200.")
    (invalidCursorOrLimit "limit must be an integer from 1 through 200.")

/-- `parseBoundedLimit` of the pay periods. -/
def parsePeriodLimit : Option String → Except ProblemError Nat :=
  limitOf 25 50 (invalidPayroll "period_limit" "period_limit must be a whole number.")
    (invalidPayroll "period_limit" "period_limit must be between 1 and 50.")

theorem limitOf_pos {standard maximum limit : Nat} {malformed outside : ProblemError}
    {value : Option String} (hstandard : 0 < standard)
    (h : limitOf standard maximum malformed outside value = .ok limit) : 0 < limit := by
  unfold limitOf at h
  cases value with
  | none =>
      cases h
      exact hstandard
  | some text =>
      dsimp only at h
      split_ifs at h with hempty hdigits hrange
      · cases h
        exact hstandard
      · obtain rfl := Except.ok.inj h
        omega

/-- Every limit within the bounds can be given. -/
theorem limitOf_toString {standard maximum limit : Nat} {malformed outside : ProblemError}
    (hpos : 1 ≤ limit) (hle : limit ≤ maximum) :
    limitOf standard maximum malformed outside (some (toString limit)) = .ok limit := by
  have hchars : (toString limit).toList = Nat.toDigits 10 limit := by
    rw [Nat.toString_eq_ofList_toDigits, String.toList_ofList]
  have hne : toString limit ≠ "" := by
    intro hempty
    rw [hempty] at hchars
    exact Nat.toDigits_ne_nil hchars.symm
  have hdigits : (toString limit).toList.all Char.isDigit = true := by
    rw [hchars]
    exact List.all_eq_true.mpr fun c hc => Nat.isDigit_of_mem_toDigits (by decide) (by decide) hc
  have hvalue : Nat.ofDigitChars 10 (toString limit).toList 0 = limit := by
    rw [hchars, Nat.ofDigitChars_toDigits (by decide) (by decide)]
  unfold limitOf
  dsimp only
  rw [if_neg hne, hdigits, if_neg (by decide), hvalue, if_neg (by omega)]

/-- The instants a list is limited to. -/
structure Window where
  startDate : Option Int
  endDate : Option Int
  deriving DecidableEq

/-- `parseOptionalInstant`. -/
def parseOptionalInstant (value : Option String) (field : String) :
    Except ProblemError (Option Int) :=
  match value with
  | none => .ok none
  | some text =>
      if text = "" then .ok none
      else
        match newDateFourDigits text.toList with
        | none => .error (invalidPagination (field ++ " must be a UTC ISO 8601 instant."))
        | some parsed =>
            if toISOString parsed ≠ text then
              .error (invalidPagination (field ++ " must be a UTC ISO 8601 instant."))
            else .ok (some parsed)

/-- The window ends after its start. -/
def Window.Ordered (window : Window) : Prop :=
  ∀ start ∈ window.startDate, ∀ finish ∈ window.endDate, start < finish

instance (window : Window) : Decidable window.Ordered :=
  inferInstanceAs (Decidable (∀ start ∈ window.startDate, ∀ finish ∈ window.endDate, start < finish))

/-- `parseWindow`. -/
def parseWindow (startDate endDate : Option String) : Except ProblemError Window := do
  let startDate ← parseOptionalInstant startDate "startDate"
  let endDate ← parseOptionalInstant endDate "endDate"
  ensure (Window.Ordered ⟨startDate, endDate⟩) (invalidPagination "endDate must be after startDate.")
  .ok ⟨startDate, endDate⟩

/-! ## Pages -/

/-- `BoundedPagination`. -/
structure BoundedPagination where
  limit : Nat
  maxLimit : Nat
  returned : Nat
  hasMore : Bool
  nextCursor : Option String
  startDate : Option String
  endDate : Option String

structure ListPage (Row : Type) where
  data : List Row
  pagination : BoundedPagination

/-- `page` of the operations lists. -/
def page {Row : Type} (rows : List Row) (limit : Nat) (rowCursor : Row → OperationsCursor)
    (window : Window) : Except Failure (ListPage Row) := do
  let hasMore := decide (limit < rows.length)
  let data := if hasMore then rows.take limit else rows
  let last := if hasMore then data.getLast? else none
  let nextCursor ← last.mapM fun row => encodeCursor (rowCursor row)
  .ok ⟨data, ⟨limit, 200, data.length, hasMore, nextCursor, window.startDate.map toISOString,
    window.endDate.map toISOString⟩⟩

/-! ## Values of `uuid` columns in queries -/

/-- The text of a `uuid` value that a query gives. -/
def uuidValue (text : String) : String := String.ofList (text.toList.map Char.toLower)

theorem toLower_of_isLowerHex {c : Char} (h : isLowerHex c = true) : c.toLower = c := by
  have hupper : ¬('A'.val ≤ c.val ∧ c.val ≤ 'Z'.val) := by
    simp only [isLowerHex, Bool.or_eq_true, Bool.and_eq_true, decide_eq_true_eq, isDigit_iff] at h
    rw [UInt32.le_iff_toNat_le, UInt32.le_iff_toNat_le]
    change ¬(65 ≤ c.toNat ∧ c.toNat ≤ 90)
    omega
  exact dif_neg hupper

/-- The text of a row is that of its value. -/
theorem uuidValue_text (id : Uuid) : uuidValue id.text = id.text := by
  have hchars : ∀ c ∈ id.text.toList, c.toLower = c := by
    refine forall_of_fits ?_ id.canonical
    intro kind hkind c hc
    simp only [uuidKinds, List.mem_append, List.mem_cons, List.mem_replicate] at hkind
    have hkinds : kind = isLowerHex ∨ kind = (· == '-') := by tauto
    rcases hkinds with rfl | rfl
    · exact toLower_of_isLowerHex hc
    · obtain rfl := beq_iff_eq.mp hc
      decide
  rw [uuidValue, List.map_congr_left hchars, List.map_id', String.ofList_toList]

/-- A filter that a query may leave out. -/
def given (value : Option String) : Option String := value.filter (· ≠ "")

/-- The row has the id that the query asks for, if it asks for one. -/
def matchesId (value : Option String) (id : Uuid) : Bool :=
  decide (∀ text ∈ given value, id.text = uuidValue text)

/-! ## Lunch breaks -/

structure ShiftUser where
  role : UserRole
  deletedAt : Option Int
  suspendedAt : Option Int

structure ShiftLocation where
  publicId : Uuid
  deletedAt : Option Int

structure ShiftSchedule where
  publicId : Uuid
  status : ScheduleStatus
  deletedAt : Option Int

/-- A `"Shift"` row with the rows it refers to.  A column of instants holds what a
`Date` holds. -/
structure ShiftRow where
  publicId : Uuid
  tenantId : String
  location : ShiftLocation
  schedule : Option ShiftSchedule
  userId : Option String
  user : Option ShiftUser
  startTime : Int
  endTime : Int
  deletedAt : Option Int
  startTime_valid : ValidTime startTime

structure OperationsIdentity where
  tenantId : String
  sub : String
  isStaff : Bool

structure LunchBreakListQuery where
  locationId : Option String
  scheduleId : Option String
  shiftIds : Option String
  startDate : Option String
  endDate : Option String
  limit : Option String

/-- `SCHEDULABLE_SHIFT_USER_FILTER`. -/
def schedulableShiftUser (row : ShiftRow) : Bool :=
  row.userId == none || row.user.any fun user =>
    decide ((user.role = .manager ∨ user.role = .staff) ∧ user.deletedAt = none ∧
      user.suspendedAt = none)

/-- `publicShiftIds`: the ids of a list with commas. -/
def publicShiftIds (value : String) : Except ProblemError (List String) :=
  let ids := ((((value.toList.splitOn ',').map fun entry => jsTrim (String.ofList entry)).filter
    (· ≠ "")).dedup)
  if ids = [] ∨ 1000 < ids.length ∨ ids.any (fun id => !isUuid id) then
    .error ⟨422, "invalid_shift_reference",
      "shiftIds must contain up to 1,000 public shift UUIDs.", "Lunch and break validation failed"⟩
  else .ok ids

/-- The filter on the schedule: given when the query names one or the caller is staff. -/
def matchesSchedule (identity : OperationsIdentity) (query : LunchBreakListQuery)
    (schedule : Option ShiftSchedule) : Bool :=
  if (given query.scheduleId).isSome || identity.isStaff then
    schedule.any fun schedule =>
      matchesId query.scheduleId schedule.publicId &&
        (!identity.isStaff || decide (schedule.status = .published ∧ schedule.deletedAt = none))
  else true

/-- `where` of the list of lunch breaks, but for the cursor. -/
def lunchBreakWhere (identity : OperationsIdentity) (query : LunchBreakListQuery) (window : Window)
    (shiftIds : Option (List String)) (row : ShiftRow) : Bool :=
  decide (row.tenantId = identity.tenantId ∧ row.deletedAt = none ∧ row.location.deletedAt = none) &&
    matchesId query.locationId row.location.publicId && schedulableShiftUser row &&
    matchesSchedule identity query row.schedule &&
    decide (∀ ids ∈ shiftIds, row.publicId.text ∈ ids.map uuidValue) &&
    (!identity.isStaff || row.userId == some identity.sub) &&
    decide (∀ start ∈ window.startDate, start < row.endTime) &&
    decide (∀ finish ∈ window.endDate, row.startTime < finish)

/-- The rows after a cursor of lunch breaks. -/
def ShiftRow.after (cursor : OperationsCursor) (row : ShiftRow) : Bool :=
  decide (cursor.timestamp < row.startTime ∨
    cursor.timestamp = row.startTime ∧ uuidValue cursor.publicId < row.publicId.text)

/-- `orderBy: [{ startTime: 'asc' }, { publicId: 'asc' }]`. -/
def ShiftRow.key (row : ShiftRow) : Int ×ₗ String := toLex (row.startTime, row.publicId.text)

/-- `list` of the lunch breaks. -/
def listLunchBreaks (rows : List ShiftRow) (identity : OperationsIdentity)
    (query : LunchBreakListQuery) (cursor : Option String) : Except Failure (ListPage ShiftRow) := do
  let limit ← (parseLimit query.limit).mapError Failure.problem
  let cursor ← (decodeCursor cursor).mapError Failure.problem
  let window ← (parseWindow query.startDate query.endDate).mapError Failure.problem
  let shiftIds ← ((given query.shiftIds).mapM publicShiftIds).mapError Failure.problem
  let found := (orderedBy ShiftRow.key (rows.filter fun row =>
    lunchBreakWhere identity query window shiftIds row &&
      decide (∀ after ∈ cursor, row.after after = true))).take (limit + 1)
  page found limit (fun row => ⟨row.startTime, row.publicId.text⟩) window

/-! ## Time cards -/

structure CardLocation where
  publicId : Uuid
  deletedAt : Option Int

/-- A `"TimeCard"` row with the rows it refers to.  Clock-ins have a year of four
digits, as every reader of them asks for, and the public id is the default of its
column. -/
structure TimeCardRow where
  publicId : Uuid
  tenantId : String
  userPublicId : Uuid
  location : Option CardLocation
  clockInAt : Int
  deletedAt : Option Int
  clockInAt_year : FourDigitYear clockInAt
  publicId_random : publicId.Random

structure TimeCardIdentity where
  tenantId : String
  publicUserId : String
  canViewTeam : Bool

structure TimeCardListQuery where
  userId : Option String
  locationId : Option String
  startDate : Option String
  endDate : Option String
  limit : Option String

/-- `invalidTimeCardInput`. -/
def invalidTimeCardInput (detail : String) : ProblemError :=
  ⟨422, "invalid_time_card_input", detail, "Time-card validation failed"⟩

/-- `parseTimeCardInstant`: the text and the instant agree up to the second. -/
def parseTimeCardInstant (value field : String) : Except ProblemError Int :=
  let normalized := (jsTrim value).toList
  if normalized = [] then .error (invalidTimeCardInput (field ++ " is required."))
  else
    match newDateFourDigits normalized with
    | none => .error (invalidTimeCardInput (field ++ " must use a UTC ISO 8601 instant."))
    | some parsed =>
        if (toISOString parsed).toList.take 19 ≠ normalized.take 19 then
          .error (invalidTimeCardInput (field ++ " must use a valid UTC ISO 8601 instant."))
        else .ok parsed

/-- The window of the time cards. -/
def parseTimeCardWindow (startDate endDate : Option String) : Except ProblemError Window := do
  let startDate ← (given startDate).mapM (parseTimeCardInstant · "startDate")
  let endDate ← (given endDate).mapM (parseTimeCardInstant · "endDate")
  ensure (Window.Ordered ⟨startDate, endDate⟩)
    (invalidTimeCardInput "endDate must be after startDate.")
  .ok ⟨startDate, endDate⟩

/-- `requestedPublicUserId`. -/
def requestedPublicUserId (identity : TimeCardIdentity) (query : TimeCardListQuery) :
    Option String :=
  match query.userId with
  | some userId => some userId
  | none => if identity.canViewTeam then none else some identity.publicUserId

/-- `where` of the list of time cards, but for the cursor. -/
def timeCardWhere (identity : TimeCardIdentity) (query : TimeCardListQuery) (window : Window)
    (row : TimeCardRow) : Bool :=
  decide (row.tenantId = identity.tenantId ∧ row.deletedAt = none) &&
    matchesId (requestedPublicUserId identity query) row.userPublicId &&
    ((given query.locationId).isNone || row.location.any fun location =>
      matchesId query.locationId location.publicId && location.deletedAt == none) &&
    decide (∀ start ∈ window.startDate, start ≤ row.clockInAt) &&
    decide (∀ finish ∈ window.endDate, row.clockInAt < finish)

/-- The rows after a cursor of time cards. -/
def TimeCardRow.after (cursor : TimeCardCursor) (row : TimeCardRow) : Bool :=
  decide (row.clockInAt < cursor.clockInAt ∨
    row.clockInAt = cursor.clockInAt ∧ row.publicId.text < uuidValue cursor.publicId)

/-- `orderBy: [{ clockInAt: 'desc' }, { publicId: 'desc' }]`. -/
def TimeCardRow.key (row : TimeCardRow) : (Int ×ₗ String)ᵒᵈ :=
  OrderDual.toDual (toLex (row.clockInAt, row.publicId.text))

/-- `list` of the time cards. -/
def listTimeCards (rows : List TimeCardRow) (identity : TimeCardIdentity)
    (query : TimeCardListQuery) (cursor : Option String) :
    Except Failure (ListPage TimeCardRow) := do
  let limit ← (parseTimeCardLimit query.limit).mapError Failure.problem
  let cursor ← (decodeTimeCardCursor cursor).mapError Failure.problem
  let window ← (parseTimeCardWindow query.startDate query.endDate).mapError Failure.problem
  ensure (identity.canViewTeam = true ∨ ∀ userId ∈ given query.userId, userId = identity.publicUserId)
    (Failure.problem ⟨403, "time_card_scope_denied", "Staff can only view their own time cards.",
      "Forbidden"⟩)
  let found := (orderedBy TimeCardRow.key (rows.filter fun row =>
    timeCardWhere identity query window row &&
      decide (∀ after ∈ cursor, row.after after = true))).take (limit + 1)
  let data := found.take limit
  let hasMore := decide (limit < found.length)
  let last := if hasMore then data.getLast? else none
  let nextCursor ← last.mapM fun row => encodeTimeCardCursor ⟨row.clockInAt, row.publicId.text⟩
  .ok ⟨data, ⟨limit, 200, data.length, hasMore, nextCursor, window.startDate.map toISOString,
    window.endDate.map toISOString⟩⟩

/-! ## Pay periods -/

/-- A `"PayrollPeriod"` row; its first date is one that `normalizeDateOnly` accepts. -/
structure PeriodRow where
  publicId : Uuid
  tenantId : String
  localStartDate : Int
  localStartDate_valid : ValidDate localStartDate

/-- The answer of `listPeriods`. -/
structure PeriodPage where
  data : List PeriodRow
  nextCursor : Option String

/-- The rows after a cursor of pay periods. -/
def PeriodRow.after (cursor : PeriodCursor) (row : PeriodRow) : Bool :=
  decide (row.localStartDate < cursor.localStartDate ∨
    row.localStartDate = cursor.localStartDate ∧ row.publicId.text < uuidValue cursor.publicId)

/-- `orderBy: [{ localStartDate: 'desc' }, { publicId: 'desc' }]`. -/
def PeriodRow.key (row : PeriodRow) : (Int ×ₗ String)ᵒᵈ :=
  OrderDual.toDual (toLex (row.localStartDate, row.publicId.text))

/-- `listPeriods`. -/
def listPeriods (rows : List PeriodRow) (tenantId : String) (limit cursor : Option String) :
    Except Failure PeriodPage := do
  let limit ← (parsePeriodLimit limit).mapError Failure.problem
  let cursor ← (readPeriodCursor cursor).mapError Failure.problem
  let found := (orderedBy PeriodRow.key (rows.filter fun row =>
    row.tenantId == tenantId && decide (∀ after ∈ cursor, row.after after = true))).take (limit + 1)
  let data := found.take limit
  let nextCursor :=
    if limit < found.length then
      data.getLast?.map fun row => encodePeriodCursor ⟨row.localStartDate, row.publicId.text⟩
    else none
  .ok ⟨data, nextCursor⟩

end LunchLineup.Pagination
