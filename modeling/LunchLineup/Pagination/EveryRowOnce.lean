import LunchLineup.Pagination.Lists

/-!
# A reader of a list sees every row once

Each of the three lists is a keyset list: what its query finds after a cursor are the
rows after the key that the cursor was written for (`orderedBy_after`), and the
cursor of a page is that of its last row (`mapM_last`).  The rest is the rule of
keyset lists.
-/

namespace LunchLineup.Pagination

open LunchLineup.Lib
open LunchLineup.Jobs (UserRole ScheduleStatus)
open LunchLineup.Payroll (toISOString)

/-! ## Pages of a query -/

section

variable {Row Key Cursor : Type} [LinearOrder Key] {key : Row → Key}

/-- A query that continues after a cursor finds the rows after its key. -/
theorem orderedBy_after {rows : List Row} {filter : Row → Bool} {after : Cursor → Row → Bool}
    {cursorKey : Cursor → Key} (hafter : ∀ c row, after c row = true ↔ cursorKey c < key row)
    (cursor : Option Cursor) :
    (orderedBy key (rows.filter fun row => filter row && decide (∀ c ∈ cursor, after c row = true))) =
      keysetRows key (cursor.map cursorKey) (rows.filter filter) := by
  rw [keysetRows, List.filter_filter]
  congr 1
  refine List.filter_congr fun row _ => ?_
  rw [Bool.and_comm]
  congr 1
  refine decide_eq_decide.mpr ?_
  cases cursor with
  | none => simp
  | some c => simp [hafter]

variable {rows : List Row} {limit : Nat}

theorem lt_length_take : limit < (rows.take (limit + 1)).length ↔ limit < rows.length := by
  rw [List.length_take]
  omega

/-- The page is the first rows that were found. -/
theorem take_page : (rows.take (limit + 1)).take limit = rows.take limit := by
  rw [List.take_take]
  congr 1
  omega

/-- The page as `page` cuts it. -/
theorem data_page : (if decide (limit < (rows.take (limit + 1)).length) = true then
    (rows.take (limit + 1)).take limit else rows.take (limit + 1)) = rows.take limit := by
  split_ifs with h
  · exact take_page
  · have hle : rows.length ≤ limit := by
      rw [decide_eq_true_eq, lt_length_take] at h
      omega
    rw [List.take_of_length_le hle, List.take_of_length_le (by omega)]

/-- There is a next cursor exactly if there are more rows, and it is that of the last row. -/
theorem mapM_last (rows : List Row) (limit : Nat) {encode : Row → Except Failure String}
    (hencode : ∀ row, ∃ text, encode row = .ok text) :
    ∃ next, Option.mapM encode (if decide (limit < (rows.take (limit + 1)).length) = true then
        (rows.take limit).getLast? else none) = .ok next ∧
      (rows.length ≤ limit → next = none) ∧
      (limit < rows.length → ∀ last, (rows.take limit).getLast? = some last →
        ∃ text, encode last = .ok text ∧ next = some text) := by
  by_cases hmore : limit < rows.length
  · rw [if_pos (decide_eq_true (lt_length_take.mpr hmore))]
    cases hlast : (rows.take limit).getLast? with
    | none => exact ⟨none, rfl, fun _ => rfl, fun _ last h => absurd h (by simp)⟩
    | some row =>
        obtain ⟨text, htext⟩ := hencode row
        refine ⟨some text, ?_, fun hle => absurd hle (by omega), ?_⟩
        · rw [Option.mapM_some, htext]
          rfl
        · rintro _ last hlast
          obtain rfl := Option.some.inj hlast
          exact ⟨text, htext, rfl⟩
  · rw [if_neg (by rw [decide_eq_true_eq, lt_length_take]; exact hmore)]
    exact ⟨none, rfl, fun _ => rfl, fun h => absurd h hmore⟩

end

/-! ## Keys -/

theorem ShiftRow.after_iff (cursor : OperationsCursor) (row : ShiftRow) :
    row.after cursor = true ↔ toLex (cursor.timestamp, uuidValue cursor.publicId) < row.key := by
  rw [ShiftRow.after, decide_eq_true_eq, ShiftRow.key, Prod.Lex.toLex_lt_toLex]

theorem TimeCardRow.after_iff (cursor : TimeCardCursor) (row : TimeCardRow) :
    row.after cursor = true ↔
      OrderDual.toDual (toLex (cursor.clockInAt, uuidValue cursor.publicId)) < row.key := by
  rw [TimeCardRow.after, decide_eq_true_eq, TimeCardRow.key, OrderDual.toDual_lt_toDual,
    Prod.Lex.toLex_lt_toLex]

theorem PeriodRow.after_iff (cursor : PeriodCursor) (row : PeriodRow) :
    row.after cursor = true ↔
      OrderDual.toDual (toLex (cursor.localStartDate, uuidValue cursor.publicId)) < row.key := by
  rw [PeriodRow.after, decide_eq_true_eq, PeriodRow.key, OrderDual.toDual_lt_toDual,
    Prod.Lex.toLex_lt_toLex]

/-- Rows with different public ids have different keys. -/
theorem nodup_keys {Row Key : Type} (key : Row → Key) {id : Row → String} {rows : List Row}
    (hid : ∀ a b, key a = key b → id a = id b) (h : (rows.map id).Nodup) (keep : Row → Bool) :
    ((rows.filter keep).map key).Nodup := by
  have hkept : ((rows.filter keep).map id).Nodup := h.sublist (List.filter_sublist.map id)
  rw [List.Nodup, List.pairwise_map] at hkept ⊢
  exact hkept.imp fun hne heq => hne (hid _ _ heq)

/-! ## Lunch breaks -/

/-- What a reader of the lunch breaks gets for a cursor. -/
def lunchBreakPages (rows : List ShiftRow) (identity : OperationsIdentity)
    (query : LunchBreakListQuery) (cursor : Option String) :
    Except Failure (CursorPage ShiftRow String) :=
  (listLunchBreaks rows identity query cursor).map fun answer =>
    ⟨answer.data, answer.pagination.nextCursor⟩

/-- A shift has a cursor. -/
theorem exists_encodeCursor (row : ShiftRow) :
    ∃ text, encodeCursor ⟨row.startTime, row.publicId.text⟩ = .ok text :=
  ⟨_, if_pos ⟨row.startTime_valid, row.publicId.isCursorId⟩⟩

/-- `page` gives the first rows and the cursor of the last one. -/
theorem page_eq (rows : List ShiftRow) (limit : Nat) (window : Window) :
    ∃ answer, page (rows.take (limit + 1)) limit (fun row => ⟨row.startTime, row.publicId.text⟩)
        window = .ok answer ∧
      answer.data = rows.take limit ∧
      (rows.length ≤ limit → answer.pagination.nextCursor = none) ∧
      (limit < rows.length → ∀ last, (rows.take limit).getLast? = some last → ∃ text,
        encodeCursor ⟨last.startTime, last.publicId.text⟩ = .ok text ∧
          answer.pagination.nextCursor = some text) := by
  obtain ⟨next, hnext, hlast, hmore⟩ := mapM_last rows limit exists_encodeCursor
  unfold page
  dsimp only
  rw [data_page, hnext]
  exact ⟨_, rfl, rfl, hlast, hmore⟩

variable {identity : OperationsIdentity} {query : LunchBreakListQuery} {limit : Nat}
  {window : Window} {shiftIds : Option (List String)}

/-- The list of lunch breaks serves its cursors. -/
theorem lunchBreaks_serve {rows : List ShiftRow}
    (hids : (rows.map fun row => row.publicId.text).Nodup)
    (hlimit : parseLimit query.limit = .ok limit)
    (hwindow : parseWindow query.startDate query.endDate = .ok window)
    (hshiftIds : (given query.shiftIds).mapM publicShiftIds = .ok shiftIds) :
    Serves (lunchBreakPages rows identity query) limit fun cursor remaining => ∃ after,
      (∃ found, decodeCursor cursor = .ok found ∧
        after = found.map fun c => toLex (c.timestamp, uuidValue c.publicId)) ∧
      remaining = keysetRows ShiftRow.key after
        (rows.filter (lunchBreakWhere identity query window shiftIds)) := by
  have hkeys := nodup_keys ShiftRow.key (fun a b h => (Prod.ext_iff.mp h).2) hids
    (lunchBreakWhere identity query window shiftIds)
  refine serves_of_keyset hkeys (limitOf_pos (by decide) hlimit) ?_
  rintro cursor after ⟨found, hfound, rfl⟩
  obtain ⟨answer, hanswer, hdata, hlast, hmore⟩ := page_eq
    (keysetRows ShiftRow.key (found.map fun c => toLex (c.timestamp, uuidValue c.publicId))
      (rows.filter (lunchBreakWhere identity query window shiftIds))) limit window
  refine ⟨⟨answer.data, answer.pagination.nextCursor⟩, ?_, hdata, hlast, ?_⟩
  · unfold lunchBreakPages listLunchBreaks
    rw [hlimit, hfound, hwindow, hshiftIds]
    simp only [Except.mapError, ok_bind, orderedBy_after ShiftRow.after_iff, hanswer]
    rfl
  · intro hlong last hrow
    obtain ⟨text, htext, hnext⟩ := hmore hlong last (hdata ▸ hrow)
    refine ⟨text, hnext, _, decodeCursor_encodeCursor htext, ?_⟩
    rw [Option.map_some, uuidValue_text]
    rfl

/-- A reader of the lunch breaks sees every row of the filtered list once, in its order. -/
theorem lunchBreaks_every_row_once {rows : List ShiftRow}
    (hids : (rows.map fun row => row.publicId.text).Nodup)
    (hlimit : parseLimit query.limit = .ok limit)
    (hwindow : parseWindow query.startDate query.endDate = .ok window)
    (hshiftIds : (given query.shiftIds).mapM publicShiftIds = .ok shiftIds) {fuel : Nat}
    (hfuel : rows.length < fuel) :
    ∃ pages, follow (lunchBreakPages rows identity query) fuel none = some (.ok pages) ∧
      pages.flatten.Perm (rows.filter (lunchBreakWhere identity query window shiftIds)) ∧
      (pages.flatten.Pairwise fun a b => a.startTime < b.startTime ∨
        a.startTime = b.startTime ∧ a.publicId.text < b.publicId.text) ∧
      ∀ page ∈ pages, page.length ≤ limit := by
  have hkeys := nodup_keys ShiftRow.key (fun a b h => (Prod.ext_iff.mp h).2) hids
    (lunchBreakWhere identity query window shiftIds)
  have hshort : (rows.filter (lunchBreakWhere identity query window shiftIds)).length < fuel :=
    (List.length_filter_le _ _).trans_lt hfuel
  obtain ⟨pages, hfollow, hperm, hordered, hpages⟩ :=
    follow_keyset hkeys (limitOf_pos (by decide) hlimit)
      (lunchBreaks_serve hids hlimit hwindow hshiftIds) ⟨none, rfl, rfl⟩ hshort
  exact ⟨pages, hfollow, hperm, hordered.imp fun h => Prod.Lex.toLex_lt_toLex.mp h, hpages⟩

/-! ## Time cards -/

/-- What a reader of the time cards gets for a cursor. -/
def timeCardPages (rows : List TimeCardRow) (identity : TimeCardIdentity)
    (query : TimeCardListQuery) (cursor : Option String) :
    Except Failure (CursorPage TimeCardRow String) :=
  (listTimeCards rows identity query cursor).map fun answer =>
    ⟨answer.data, answer.pagination.nextCursor⟩

/-- A time card has a cursor. -/
theorem exists_encodeTimeCardCursor (row : TimeCardRow) :
    ∃ text, encodeTimeCardCursor ⟨row.clockInAt, row.publicId.text⟩ = .ok text := by
  obtain ⟨hlow, hhigh⟩ := row.clockInAt_year
  exact ⟨_, if_pos ⟨by dsimp only; omega, by dsimp only; omega⟩⟩

section

variable {identity : TimeCardIdentity} {query : TimeCardListQuery} {limit : Nat} {window : Window}

/-- The caller may read the cards that the query asks for. -/
def InScope (identity : TimeCardIdentity) (query : TimeCardListQuery) : Prop :=
  identity.canViewTeam = true ∨ ∀ userId ∈ given query.userId, userId = identity.publicUserId

/-- The list of time cards serves its cursors. -/
theorem timeCards_serve {rows : List TimeCardRow}
    (hids : (rows.map fun row => row.publicId.text).Nodup)
    (hlimit : parseTimeCardLimit query.limit = .ok limit)
    (hwindow : parseTimeCardWindow query.startDate query.endDate = .ok window)
    (hscope : InScope identity query) :
    Serves (timeCardPages rows identity query) limit fun cursor remaining => ∃ after,
      (∃ found, decodeTimeCardCursor cursor = .ok found ∧ after = found.map fun c =>
        OrderDual.toDual (toLex (c.clockInAt, uuidValue c.publicId))) ∧
      remaining = keysetRows TimeCardRow.key after
        (rows.filter (timeCardWhere identity query window)) := by
  have hkeys := nodup_keys TimeCardRow.key (fun a b h => (Prod.ext_iff.mp h).2) hids
    (timeCardWhere identity query window)
  refine serves_of_keyset hkeys (limitOf_pos (by decide) hlimit) ?_
  rintro cursor after ⟨found, hfound, rfl⟩
  generalize hrest : keysetRows TimeCardRow.key (found.map fun c =>
    OrderDual.toDual (toLex (c.clockInAt, uuidValue c.publicId)))
      (rows.filter (timeCardWhere identity query window)) = rest
  obtain ⟨next, hnext, hlast, hmore⟩ := mapM_last rest limit exists_encodeTimeCardCursor
  refine ⟨⟨rest.take limit, next⟩, ?_, rfl, hlast, ?_⟩
  · have hallowed : identity.canViewTeam = true ∨
        ∀ userId ∈ given query.userId, userId = identity.publicUserId := hscope
    unfold timeCardPages listTimeCards
    rw [hlimit, hfound, hwindow, ensure_of_true _ hallowed]
    simp only [Except.mapError, ok_bind, orderedBy_after TimeCardRow.after_iff, hrest, take_page]
    rw [hnext]
    rfl
  · intro hlong last hrow
    obtain ⟨text, htext, hnextText⟩ := hmore hlong last hrow
    refine ⟨text, hnextText, _, decodeTimeCardCursor_encodeTimeCardCursor last.clockInAt_year
      last.publicId_random.isUuid htext, ?_⟩
    rw [Option.map_some, uuidValue_text]
    rfl

/-- A reader of the time cards sees every row of the filtered list once, newest first. -/
theorem timeCards_every_row_once {rows : List TimeCardRow}
    (hids : (rows.map fun row => row.publicId.text).Nodup)
    (hlimit : parseTimeCardLimit query.limit = .ok limit)
    (hwindow : parseTimeCardWindow query.startDate query.endDate = .ok window)
    (hscope : InScope identity query) {fuel : Nat} (hfuel : rows.length < fuel) :
    ∃ pages, follow (timeCardPages rows identity query) fuel none = some (.ok pages) ∧
      pages.flatten.Perm (rows.filter (timeCardWhere identity query window)) ∧
      (pages.flatten.Pairwise fun a b => b.clockInAt < a.clockInAt ∨
        b.clockInAt = a.clockInAt ∧ b.publicId.text < a.publicId.text) ∧
      ∀ page ∈ pages, page.length ≤ limit := by
  have hkeys := nodup_keys TimeCardRow.key (fun a b h => (Prod.ext_iff.mp h).2) hids
    (timeCardWhere identity query window)
  have hshort : (rows.filter (timeCardWhere identity query window)).length < fuel :=
    (List.length_filter_le _ _).trans_lt hfuel
  obtain ⟨pages, hfollow, hperm, hordered, hpages⟩ :=
    follow_keyset hkeys (limitOf_pos (by decide) hlimit)
      (timeCards_serve hids hlimit hwindow hscope) ⟨none, rfl, rfl⟩ hshort
  exact ⟨pages, hfollow, hperm, hordered.imp fun h => Prod.Lex.toLex_lt_toLex.mp h, hpages⟩

end

/-! ## Pay periods -/

/-- What a reader of the pay periods gets for a cursor. -/
def periodPages (rows : List PeriodRow) (tenantId : String) (limit cursor : Option String) :
    Except Failure (CursorPage PeriodRow String) :=
  (listPeriods rows tenantId limit cursor).map fun answer => ⟨answer.data, answer.nextCursor⟩

section

variable {tenantId : String} {limitText : Option String} {limit : Nat}

/-- The list of pay periods serves its cursors. -/
theorem periods_serve {rows : List PeriodRow}
    (hids : (rows.map fun row => row.publicId.text).Nodup)
    (hlimit : parsePeriodLimit limitText = .ok limit) :
    Serves (periodPages rows tenantId limitText) limit fun cursor remaining => ∃ after,
      (∃ found, readPeriodCursor cursor = .ok found ∧ after = found.map fun c =>
        OrderDual.toDual (toLex (c.localStartDate, uuidValue c.publicId))) ∧
      remaining = keysetRows PeriodRow.key after (rows.filter fun row => row.tenantId == tenantId) := by
  have hkeys := nodup_keys PeriodRow.key (fun a b h => (Prod.ext_iff.mp h).2) hids
    fun row => row.tenantId == tenantId
  refine serves_of_keyset hkeys (limitOf_pos (by decide) hlimit) ?_
  rintro cursor after ⟨found, hfound, rfl⟩
  generalize hrest : keysetRows PeriodRow.key (found.map fun c =>
    OrderDual.toDual (toLex (c.localStartDate, uuidValue c.publicId)))
      (rows.filter fun row => row.tenantId == tenantId) = rest
  refine ⟨⟨rest.take limit, if limit < rest.length then (rest.take limit).getLast?.map fun row =>
    encodePeriodCursor ⟨row.localStartDate, row.publicId.text⟩ else none⟩, ?_, rfl,
    fun hle => if_neg (by omega), ?_⟩
  · unfold periodPages listPeriods
    rw [hlimit, hfound]
    simp only [Except.mapError, ok_bind, orderedBy_after PeriodRow.after_iff, hrest, take_page,
      lt_length_take]
    rfl
  · intro hlong last hrow
    refine ⟨encodePeriodCursor ⟨last.localStartDate, last.publicId.text⟩, ?_, _,
      readPeriodCursor_encodePeriodCursor last.localStartDate_valid last.publicId.isCursorId, ?_⟩
    · dsimp only at hrow ⊢
      rw [if_pos hlong, hrow]
      rfl
    · rw [Option.map_some, uuidValue_text]
      rfl

/-- A reader of the pay periods sees every period of the tenant once, newest first. -/
theorem periods_every_row_once (tenantId : String) {rows : List PeriodRow}
    (hids : (rows.map fun row => row.publicId.text).Nodup)
    (hlimit : parsePeriodLimit limitText = .ok limit) {fuel : Nat} (hfuel : rows.length < fuel) :
    ∃ pages, follow (periodPages rows tenantId limitText) fuel none = some (.ok pages) ∧
      pages.flatten.Perm (rows.filter fun row => row.tenantId == tenantId) ∧
      (pages.flatten.Pairwise fun a b => b.localStartDate < a.localStartDate ∨
        b.localStartDate = a.localStartDate ∧ b.publicId.text < a.publicId.text) ∧
      ∀ page ∈ pages, page.length ≤ limit := by
  have hkeys := nodup_keys PeriodRow.key (fun a b h => (Prod.ext_iff.mp h).2) hids
    fun row => row.tenantId == tenantId
  have hshort : (rows.filter fun row => row.tenantId == tenantId).length < fuel :=
    (List.length_filter_le _ _).trans_lt hfuel
  obtain ⟨pages, hfollow, hperm, hordered, hpages⟩ :=
    follow_keyset hkeys (limitOf_pos (by decide) hlimit) (periods_serve hids hlimit)
      ⟨none, rfl, rfl⟩ hshort
  exact ⟨pages, hfollow, hperm, hordered.imp fun h => Prod.Lex.toLex_lt_toLex.mp h, hpages⟩

end

/-! ## The three lists -/

/-- The lists of lunch breaks and time cards take every limit from 1 to 200 and the list of
pay periods every limit from 1 to 50.  With each of them a reader who follows the cursors
reaches a last page, and the pages together are the rows of the filter, once each and in the
order of the list.  The readers of the cursors return what the writers were given. -/
theorem lists_every_row_once :
    (∀ (rows : List ShiftRow) (identity : OperationsIdentity) (query : LunchBreakListQuery)
      (limit : Nat) (window : Window) (shiftIds : Option (List String)),
      (rows.map fun row => row.publicId.text).Nodup → 1 ≤ limit → limit ≤ 200 →
      query.limit = some (toString limit) →
      parseWindow query.startDate query.endDate = .ok window →
      (given query.shiftIds).mapM publicShiftIds = .ok shiftIds →
      ∃ pages, (∀ fuel, rows.length < fuel →
          follow (lunchBreakPages rows identity query) fuel none = some (.ok pages)) ∧
        pages.flatten.Perm (rows.filter (lunchBreakWhere identity query window shiftIds)) ∧
        (pages.flatten.Pairwise fun a b => a.startTime < b.startTime ∨
          a.startTime = b.startTime ∧ a.publicId.text < b.publicId.text) ∧
        ∀ page ∈ pages, page.length ≤ limit) ∧
    (∀ (rows : List TimeCardRow) (identity : TimeCardIdentity) (query : TimeCardListQuery)
      (limit : Nat) (window : Window),
      (rows.map fun row => row.publicId.text).Nodup → 1 ≤ limit → limit ≤ 200 →
      query.limit = some (toString limit) →
      parseTimeCardWindow query.startDate query.endDate = .ok window → InScope identity query →
      ∃ pages, (∀ fuel, rows.length < fuel →
          follow (timeCardPages rows identity query) fuel none = some (.ok pages)) ∧
        pages.flatten.Perm (rows.filter (timeCardWhere identity query window)) ∧
        (pages.flatten.Pairwise fun a b => b.clockInAt < a.clockInAt ∨
          b.clockInAt = a.clockInAt ∧ b.publicId.text < a.publicId.text) ∧
        ∀ page ∈ pages, page.length ≤ limit) ∧
    (∀ (rows : List PeriodRow) (tenantId : String) (limit : Nat),
      (rows.map fun row => row.publicId.text).Nodup → 1 ≤ limit → limit ≤ 50 →
      ∃ pages, (∀ fuel, rows.length < fuel →
          follow (periodPages rows tenantId (some (toString limit))) fuel none =
            some (.ok pages)) ∧
        pages.flatten.Perm (rows.filter fun row => row.tenantId == tenantId) ∧
        (pages.flatten.Pairwise fun a b => b.localStartDate < a.localStartDate ∨
          b.localStartDate = a.localStartDate ∧ b.publicId.text < a.publicId.text) ∧
        ∀ page ∈ pages, page.length ≤ limit) ∧
    (∀ cursor text, encodeCursor cursor = .ok text →
      decodeCursor (some text) = .ok (some cursor)) ∧
    (∀ (row : TimeCardRow) text, encodeTimeCardCursor ⟨row.clockInAt, row.publicId.text⟩ = .ok text →
      decodeTimeCardCursor (some text) = .ok (some ⟨row.clockInAt, row.publicId.text⟩)) ∧
    ∀ row : PeriodRow,
      readPeriodCursor (some (encodePeriodCursor ⟨row.localStartDate, row.publicId.text⟩)) =
        .ok (some ⟨row.localStartDate, row.publicId.text⟩) := by
  refine ⟨?_, ?_, ?_, ?_, ?_, ?_⟩
  · intro rows identity query limit window shiftIds hids hpos hle hlimit hwindow hshiftIds
    have hparsed : parseLimit query.limit = .ok limit := by
      rw [hlimit]
      exact limitOf_toString hpos hle
    obtain ⟨pages, hfollow, hrest⟩ :=
      lunchBreaks_every_row_once hids hparsed hwindow hshiftIds (Nat.lt_succ_self rows.length)
    exact ⟨pages, fun fuel hfuel => follow_mono hfollow hfuel, hrest⟩
  · intro rows identity query limit window hids hpos hle hlimit hwindow hscope
    have hparsed : parseTimeCardLimit query.limit = .ok limit := by
      rw [hlimit]
      exact limitOf_toString hpos hle
    obtain ⟨pages, hfollow, hrest⟩ :=
      timeCards_every_row_once hids hparsed hwindow hscope (Nat.lt_succ_self rows.length)
    exact ⟨pages, fun fuel hfuel => follow_mono hfollow hfuel, hrest⟩
  · intro rows tenantId limit hids hpos hle
    obtain ⟨pages, hfollow, hrest⟩ := periods_every_row_once tenantId hids
      (limitOf_toString hpos hle) (Nat.lt_succ_self rows.length)
    exact ⟨pages, fun fuel hfuel => follow_mono hfollow hfuel, hrest⟩
  · exact fun cursor text h => decodeCursor_encodeCursor h
  · exact fun row text h => decodeTimeCardCursor_encodeTimeCardCursor row.clockInAt_year
      row.publicId_random.isUuid h
  · exact fun row => readPeriodCursor_encodePeriodCursor row.localStartDate_valid
      row.publicId.isCursorId

namespace TwoRows

/-- Two public ids. -/
def firstId : Uuid := ⟨"0e6a2c1c-54d7-4c3e-8f5b-2f6f6d2f9a01", by decide⟩

def secondId : Uuid := ⟨"7d0b8c54-9d3a-4b1f-a7c2-1c9e5f3b8d02", by decide⟩

/-- Two shifts of one tenant that start at one time. -/
def shifts : List ShiftRow :=
  [⟨secondId, "tenant-1", ⟨firstId, none⟩, none, none, none, 1784160000000, 1784188800000, none,
      by decide⟩,
    ⟨firstId, "tenant-1", ⟨firstId, none⟩, none, none, none, 1784160000000, 1784174400000, none,
      by decide⟩]

def cards : List TimeCardRow :=
  [⟨firstId, "tenant-1", firstId, none, 1784160000000, none, by decide, by decide⟩,
    ⟨secondId, "tenant-1", firstId, none, 1784246400000, none, by decide, by decide⟩]

def periods : List PeriodRow :=
  [⟨firstId, "tenant-1", 20640, by decide⟩, ⟨secondId, "tenant-1", 20654, by decide⟩]

def manager : OperationsIdentity := ⟨"tenant-1", "user-1", false⟩

def owner : TimeCardIdentity := ⟨"tenant-1", "user-1", true⟩

def shiftQuery : LunchBreakListQuery :=
  ⟨none, none, none, some "2026-07-16T00:00:00.000Z", none, some (toString 1)⟩

def cardQuery : TimeCardListQuery := ⟨none, none, none, none, some (toString 1)⟩

/-- Pages of one row, with two rows that start at one time. -/
theorem every_row_once :
    (∃ pages, (∀ fuel, 2 < fuel →
        follow (lunchBreakPages shifts manager shiftQuery) fuel none = some (.ok pages)) ∧
      pages.flatten.Perm (shifts.filter (lunchBreakWhere manager shiftQuery
        ⟨some 1784160000000, none⟩ none)) ∧ ∀ page ∈ pages, page.length ≤ 1) ∧
    (∃ pages, (∀ fuel, 2 < fuel →
        follow (timeCardPages cards owner cardQuery) fuel none = some (.ok pages)) ∧
      pages.flatten.Perm (cards.filter (timeCardWhere owner cardQuery ⟨none, none⟩)) ∧
      ∀ page ∈ pages, page.length ≤ 1) ∧
    (∃ pages, (∀ fuel, 2 < fuel →
        follow (periodPages periods "tenant-1" (some (toString 1))) fuel none = some (.ok pages)) ∧
      pages.flatten.Perm (periods.filter fun row => row.tenantId == "tenant-1") ∧
      ∀ page ∈ pages, page.length ≤ 1) ∧
    decodeCursor (some (base64urlJson (.obj [("v", .num ⟨1, 0⟩),
      ("timestamp", .str (toISOString 1784160000000)), ("publicId", .str firstId.text)]))) =
        .ok (some ⟨1784160000000, firstId.text⟩) ∧
    decodeTimeCardCursor (some (base64urlJson (.obj [("v", .num ⟨1, 0⟩),
      ("clockInAt", .str (toISOString 1784160000000)), ("publicId", .str firstId.text)]))) =
        .ok (some ⟨1784160000000, firstId.text⟩) := by
  obtain ⟨hshifts, hcards, hperiods, hcursor, hcardCursor, -⟩ := lists_every_row_once
  have hwindow : parseWindow shiftQuery.startDate shiftQuery.endDate =
      .ok ⟨some 1784160000000, none⟩ := by decide +kernel
  have hopen : parseTimeCardWindow cardQuery.startDate cardQuery.endDate = .ok ⟨none, none⟩ := by
    decide +kernel
  refine ⟨?_, ?_, ?_, ?_, ?_⟩
  · obtain ⟨pages, hfollow, hperm, -, hpages⟩ := hshifts shifts manager shiftQuery 1
      ⟨some 1784160000000, none⟩ none (by decide +kernel) (by decide) (by decide) rfl hwindow rfl
    exact ⟨pages, hfollow, hperm, hpages⟩
  · obtain ⟨pages, hfollow, hperm, -, hpages⟩ := hcards cards owner cardQuery 1 ⟨none, none⟩
      (by decide +kernel) (by decide) (by decide) rfl hopen (Or.inl rfl)
    exact ⟨pages, hfollow, hperm, hpages⟩
  · obtain ⟨pages, hfollow, hperm, -, hpages⟩ := hperiods periods "tenant-1" 1
      (by decide +kernel) (by decide) (by decide)
    exact ⟨pages, hfollow, hperm, hpages⟩
  · exact hcursor ⟨1784160000000, firstId.text⟩ _ (if_pos ⟨by decide, by decide⟩)
  · exact hcardCursor ⟨firstId, "tenant-1", firstId, none, 1784160000000, none, by decide,
      by decide⟩ _ (if_pos (by decide))

end TwoRows

/-- A page of 51 pay periods is refused, and so is the cursor of a clock-in in the year 10000
and that of a public id without a version. -/
theorem not_every_limit_or_card :
    (¬∀ limit : Nat, 1 ≤ limit → limit ≤ 200 → ∃ fuel pages,
      follow (periodPages TwoRows.periods "tenant-1" (some (toString limit))) fuel none =
        some (.ok pages)) ∧
    (∃ text, encodeTimeCardCursor ⟨253402300800000, TwoRows.firstId.text⟩ = .ok text ∧
      decodeTimeCardCursor (some text) = .error (invalidCursorOrLimit "cursor is invalid.")) ∧
    ∃ text, encodeTimeCardCursor ⟨1784160000000, "00000000-0000-0000-0000-000000000000"⟩ = .ok text ∧
      decodeTimeCardCursor (some text) = .error (invalidCursorOrLimit "cursor is invalid.") := by
  refine ⟨?_, ⟨_, if_pos (by decide), by decide +kernel⟩, ⟨_, if_pos (by decide), by decide +kernel⟩⟩
  intro h
  obtain ⟨fuel, pages, hfollow⟩ := h 51 (by decide) (by decide)
  have hlist : periodPages TwoRows.periods "tenant-1" (some (toString 51)) none =
      .error (.problem (invalidPayroll "period_limit"
        "period_limit must be between 1 and 50.")) := rfl
  cases fuel with
  | zero => simp [follow] at hfollow
  | succ fuel =>
      rw [follow, hlist] at hfollow
      exact absurd (Option.some.inj hfollow) (by simp)

end LunchLineup.Pagination
