import LunchLineup.Breaks.ShiftBreaks
import LunchLineup.Lib.Run

/-!
# Repeating a replacement of breaks

A request that replaces the breaks writes a receipt, and receipts are never removed
(`Board.Recorded.step`); so its repeats are answered from the receipt, and no key changes
breaks or pays twice.  A request that finds the breaks as it wants them writes none.  Its
repeat is a fresh request, which is harmless only where the shift is then again as the
first request found it.

`replaceShiftBreaks_cases` lists the three ways in which a request is answered with a row;
everything else is read off it.
-/

namespace LunchLineup.Breaks

open LunchLineup.Lib LunchLineup.Billing
open LunchLineup.Payroll (Problem problemOf given)

/-! ## Boards and requests -/

/-- Every break in the table, by its shift. -/
def Board.breakRows (board : Board) : List (String × List Break) :=
  board.shifts.map fun shift => (shift.id, shift.breaks)

/-- The receipt of the request has the given row. -/
def Board.Recorded (board : Board) (request : ShiftBreakRequest) (row : LunchBreakRow) : Prop :=
  board.findShiftBreakReplay request.operationId request.bodyHash = .ok (some row)

/-- Nothing is recorded for the key of the request. -/
def Board.Unrecorded (board : Board) (request : ShiftBreakRequest) : Prop :=
  board.findShiftBreakReplay request.operationId request.bodyHash = .ok none

/-- The shift has the breaks that the request asks for. -/
def Inspection.AsRequested (seen : Inspection) : Prop :=
  sameBreaks seen.current.breaks seen.nextBreaks = true

instance (seen : Inspection) : Decidable seen.AsRequested := inferInstanceAs (Decidable (_ = true))

/-- The two calls carry the same request. -/
structure ShiftBreakCall.Repeats (call first : ShiftBreakCall) : Prop where
  shiftPublicId : call.shiftPublicId = first.shiftPublicId
  idempotencyKey : call.idempotencyKey = first.idempotencyKey
  locationId : call.locationId = first.locationId
  breaks : call.breaks = first.breaks

section Facts

variable {service : BreakService} {board after : Board} {call : ShiftBreakCall}
  {request : ShiftBreakRequest} {row : LunchBreakRow}

theorem Board.unrecorded_iff : board.Unrecorded request ↔
    board.receipts.find? (·.resourceId = request.operationId) = none := by
  unfold Board.Unrecorded Board.findShiftBreakReplay
  split
  · rename_i hnone
    simp [hnone]
  · rename_i stored hstored
    simp [hstored, bind_eq_ok]

theorem Board.recorded_iff : board.Recorded request row ↔
    ∃ stored, board.receipts.find? (·.resourceId = request.operationId) = some stored ∧
      stored.requestHash = request.bodyHash ∧ stored.response = row := by
  unfold Board.Recorded Board.findShiftBreakReplay
  split
  · rename_i hnone
    simp [hnone]
  · rename_i stored hstored
    simp [hstored, bind_eq_ok]

theorem Board.Recorded.not_unrecorded (h : board.Recorded request row) :
    ¬ board.Unrecorded request := by
  intro hnone
  cases h.symm.trans hnone

/-- Later receipts do not hide an earlier one. -/
theorem Board.Recorded.append {later : Board} (h : board.Recorded request row)
    {more : List ShiftBreakReceipt} (hmore : later.receipts = board.receipts ++ more) :
    later.Recorded request row := by
  obtain ⟨stored, hfind, hstored⟩ := Board.recorded_iff.mp h
  refine Board.recorded_iff.mpr ⟨stored, ?_, hstored⟩
  rw [hmore, List.find?_append, hfind, Option.some_or]

/-! ## What a request does -/

theorem Board.incrementDraftRevisions_ok {written : Board} {ids : List (Option String)}
    (h : board.incrementDraftRevisions ids = .ok written) :
    ∃ schedules, written = { board with schedules := schedules } := by
  simp only [Board.incrementDraftRevisions, bind_eq_ok, ensure_eq_ok] at h
  obtain ⟨_, _, h⟩ := h
  exact ⟨_, (Except.ok.inj h).symm⟩

/-- What `replace` writes. -/
structure BreakService.Replaces (board : Board) (request : ShiftBreakRequest)
    (seen : Inspection) (row : LunchBreakRow) (after : Board) : Prop where
  receipts : after.receipts = board.receipts ++ [⟨request.operationId, request.bodyHash, row⟩]
  breaks : ∃ newBreaks : List Break, newBreaks.length = seen.nextBreaks.length ∧
    (∀ entry ∈ newBreaks, entry.id ∉ board.breakIds) ∧ ∃ shift,
      shift.id = seen.shift.id ∧ shift.breaks = newBreaks ∧
      after.shifts = replaceRow (·.id) board.shifts shift

theorem BreakService.replace_ok {seen : Inspection}
    (h : service.replace board call request seen = .ok (row, after)) :
    BreakService.Replaces board request seen row after := by
  simp only [BreakService.replace, bind_eq_ok, ensure_eq_ok] at h
  obtain ⟨_, _, ⟨_, billing⟩, _, _, hfresh, written, hwritten, h⟩ := h
  obtain ⟨schedules, rfl⟩ := Board.incrementDraftRevisions_ok hwritten
  split at h
  · cases h
  obtain ⟨response, _, h⟩ := bind_eq_ok.mp h
  obtain ⟨rfl, rfl⟩ := Prod.mk.inj (Except.ok.inj h)
  exact {
    receipts := rfl
    breaks := ⟨call.newBreaks seen.nextBreaks, by simp [ShiftBreakCall.newBreaks], hfresh,
      { seen.shift with breaks := call.newBreaks seen.nextBreaks, updatedAt := call.now },
      rfl, rfl, rfl⟩ }

/-- The receipt that a replacement writes is the one found from then on. -/
theorem BreakService.Replaces.recorded {seen : Inspection}
    (h : BreakService.Replaces board request seen row after) (hnone : board.Unrecorded request) :
    after.Recorded request row := by
  refine Board.recorded_iff.mpr ⟨⟨request.operationId, request.bodyHash, row⟩, ?_, rfl, rfl⟩
  rw [h.receipts, List.find?_append, Board.unrecorded_iff.mp hnone]
  simp

/-- A shift without breaks is shown without breaks. -/
theorem serializeBreaks_nil : serializeBreaks [] = .ok [] := rfl

theorem Board.inspect_ok {shiftPublicId : String} {input : ShiftBreakInput} {seen : Inspection}
    (h : board.inspect shiftPublicId input = .ok seen) :
    seen.shift ∈ board.shifts ∧ serializeBreaks seen.shift.breaks = .ok seen.current.breaks := by
  unfold Board.inspect at h
  split at h
  · cases h
  rename_i shift hfound
  simp only [bind_eq_ok] at h
  obtain ⟨_, _, nextBreaks, _, _, _, current, hcurrent, h⟩ := h
  obtain rfl := Except.ok.inj h
  refine ⟨List.mem_of_find?_eq_some hfound, ?_⟩
  simp only [Board.serializeLunchBreakRow, bind_eq_ok] at hcurrent
  obtain ⟨breaks, hbreaks, hcurrent⟩ := hcurrent
  obtain rfl := Except.ok.inj hcurrent
  exact hbreaks

/-- A replacement changes breaks: new rows have new ids, and where there are none the
shift had some. -/
theorem BreakService.Replaces.changes {shiftPublicId : String} {input : ShiftBreakInput}
    {seen : Inspection} (h : BreakService.Replaces board request seen row after)
    (hseen : board.inspect shiftPublicId input = .ok seen) (hdiffers : ¬ seen.AsRequested) :
    after.breakRows ≠ board.breakRows := by
  intro hsame
  obtain ⟨newBreaks, hlength, hfresh, shift, hid, rfl, hshifts⟩ := h.breaks
  obtain ⟨hmem, hserialized⟩ := Board.inspect_ok hseen
  -- the two tables agree at the place of the shift
  have hplace : shift.breaks = seen.shift.breaks := by
    simp only [Board.breakRows, hshifts, replaceRow, List.map_map] at hsame
    have := List.map_inj_left.mp hsame seen.shift hmem
    simpa [hid] using this
  cases hrows : shift.breaks with
  | nil =>
      rw [hrows] at hplace hlength
      rw [← hplace, serializeBreaks_nil] at hserialized
      have hcurrent : seen.current.breaks = [] := (Except.ok.inj hserialized).symm
      have hnext : seen.nextBreaks = [] := List.length_eq_zero_iff.mp hlength.symm
      exact hdiffers (by rw [Inspection.AsRequested, hcurrent, hnext]; rfl)
  | cons entry rest =>
      have hentry : entry ∈ shift.breaks := by simp [hrows]
      refine hfresh entry hentry ?_
      rw [hplace] at hentry
      exact List.mem_flatMap.mpr ⟨seen.shift, hmem, List.mem_map_of_mem hentry⟩

/-- The three ways in which the transaction answers with a row: from the receipt, with what
it found, or after a replacement. -/
inductive BreakService.Answers (service : BreakService) (board : Board) (call : ShiftBreakCall)
    (request : ShiftBreakRequest) (row : LunchBreakRow) : Board → Prop
  | replayed (h : board.Recorded request row) : Answers service board call request row board
  | kept {seen : Inspection} (hnone : board.Unrecorded request)
      (hseen : board.inspect call.shiftPublicId request.input = .ok seen)
      (hsame : seen.AsRequested) (hrow : row = seen.current) :
      Answers service board call request row board
  | replaced {seen : Inspection} {after : Board} (hnone : board.Unrecorded request)
      (hseen : board.inspect call.shiftPublicId request.input = .ok seen)
      (hdiffers : ¬ seen.AsRequested)
      (h : service.replace board call request seen = .ok (row, after)) :
      Answers service board call request row after

theorem BreakService.transaction_ok :
    service.transaction board call request = .ok (row, after) ↔
      service.Answers board call request row after := by
  constructor
  · intro h
    obtain ⟨found, hfound, h⟩ := bind_eq_ok.mp h
    cases found with
    | some replay =>
        obtain ⟨rfl, rfl⟩ := Prod.mk.inj (Except.ok.inj h)
        exact .replayed hfound
    | none =>
        obtain ⟨seen, hseen, h⟩ := bind_eq_ok.mp h
        split at h
        · rename_i hsame
          obtain ⟨hrow, rfl⟩ := Prod.mk.inj (Except.ok.inj h)
          exact .kept hfound hseen hsame hrow.symm
        · rename_i hdiffers
          exact .replaced hfound hseen hdiffers h
  · intro h
    cases h with
    | replayed h =>
        rw [BreakService.transaction, h]
        rfl
    | kept hnone hseen hsame hrow =>
        rw [BreakService.transaction, hnone, ok_bind]
        simp only [hseen, ok_bind, hrow]
        exact if_pos hsame
    | replaced hnone hseen hdiffers h =>
        rw [BreakService.transaction, hnone, ok_bind]
        simp only [hseen, ok_bind]
        exact (if_neg hdiffers).trans h

/-- Where nothing was recorded, a request leaves the tables as they are or records what it
replaced. -/
theorem BreakService.Answers.settles (h : service.Answers board call request row after) :
    after = board ∨ board.Unrecorded request ∧ after.Recorded request row := by
  cases h with
  | replayed h => exact .inl rfl
  | kept hnone hseen hsame hrow => exact .inl rfl
  | replaced hnone hseen hdiffers h =>
      exact .inr ⟨hnone, (BreakService.replace_ok h).recorded hnone⟩

theorem BreakService.Answers.receipts (h : service.Answers board call request row after) :
    ∃ more, after.receipts = board.receipts ++ more := by
  cases h with
  | replayed h => exact ⟨[], by simp⟩
  | kept hnone hseen hsame hrow => exact ⟨[], by simp⟩
  | replaced hnone hseen hdiffers h => exact ⟨_, (BreakService.replace_ok h).receipts⟩

/-- A request either leaves the tables or ends as its transaction does. -/
theorem BreakService.replaceShiftBreaks_after (service : BreakService) (board : Board)
    (call : ShiftBreakCall) (fate : Payroll.Fate) :
    (service.replaceShiftBreaks board call fate).2 = board ∨
      ∃ request row, service.prepare call = .ok request ∧
        service.Answers board call request row (service.replaceShiftBreaks board call fate).2 := by
  unfold BreakService.replaceShiftBreaks
  split
  · exact .inl rfl
  rename_i request hprepare
  split
  · exact .inl rfl
  · rename_i _ row next hnext
    exact .inr ⟨request, row, hprepare, BreakService.transaction_ok.mp hnext⟩
  · rename_i _ row next hnext
    exact .inr ⟨request, row, hprepare, BreakService.transaction_ok.mp hnext⟩
  · exact .inl rfl

theorem BreakService.step_receipts (service : BreakService) (isControl : Char → Bool)
    (board : Board) (event : BreakEvent) :
    ∃ more, (service.step isControl board event).2.receipts = board.receipts ++ more := by
  cases event with
  | replace call fate =>
      rcases service.replaceShiftBreaks_after board call fate with hsame | ⟨_, _, _, h⟩
      · exact ⟨[], by simp [BreakService.step, hsame]⟩
      · exact h.receipts
  | others shifts schedules locations users policy => exact ⟨[], by simp [BreakService.step]⟩
  | wallet request => exact ⟨[], by simp [BreakService.step]⟩

theorem Board.Recorded.step (h : board.Recorded request row) (isControl : Char → Bool)
    (event : BreakEvent) : (service.step isControl board event).2.Recorded request row := by
  obtain ⟨more, hmore⟩ := service.step_receipts isControl board event
  exact h.append hmore

theorem Board.Recorded.final (h : board.Recorded request row) (isControl : Char → Bool)
    (events : List BreakEvent) :
    (final (service.step isControl) board events).Recorded request row :=
  invariant_final (fun board : Board => board.Recorded request row)
    (fun _ event hkept => hkept.step isControl event) h events

/-! ## The first request and its repeat -/

/-- Two rows recorded for one request are the same. -/
theorem Board.Recorded.unique {other : LunchBreakRow} (h : board.Recorded request row)
    (h' : board.Recorded request other) : row = other :=
  Option.some.inj (Except.ok.inj (h.symm.trans h'))

theorem Board.recover_row (h : board.recover request = .row row) : board.Recorded request row := by
  unfold Board.recover at h
  split at h
  · cases h
  · rename_i committed hcommitted
    obtain rfl := BreakOutcome.row.inj h
    exact hcommitted
  · cases h

/-- A call that was answered with a row, in whatever way its transaction ended. -/
theorem BreakService.replaceShiftBreaks_row {fate : Payroll.Fate}
    (h : service.replaceShiftBreaks board call fate = (.row row, after)) :
    ∃ request, service.prepare call = .ok request ∧
      service.Answers board call request row after := by
  unfold BreakService.replaceShiftBreaks at h
  split at h
  · cases h
  rename_i request hprepare
  refine ⟨request, hprepare, ?_⟩
  split at h
  · cases h
  · rename_i _ found next hnext
    obtain ⟨hrow, rfl⟩ := Prod.mk.inj h
    obtain rfl := BreakOutcome.row.inj hrow
    exact BreakService.transaction_ok.mp hnext
  · -- the receipt was found once more
    rename_i _ found next hnext
    obtain ⟨hrow, rfl⟩ := Prod.mk.inj h
    have hrecorded := Board.recover_row hrow
    have hanswers := BreakService.transaction_ok.mp hnext
    rcases hanswers.settles with rfl | ⟨_, hfound⟩
    · exact .replayed hrecorded
    · obtain rfl := hfound.unique hrecorded
      exact hanswers
  · obtain ⟨hrow, rfl⟩ := Prod.mk.inj h
    exact .replayed (Board.recover_row hrow)

/-- Where the authority holds, a repeat is prepared as the first request was. -/
theorem BreakService.prepare_repeat {again : ShiftBreakCall} (hrepeats : again.Repeats call)
    (hauthorised : again.authorised = true) (h : service.prepare call = .ok request) :
    service.prepare again = .ok request := by
  simp only [BreakService.prepare, bind_eq_ok, ensure_eq_ok] at h ⊢
  obtain ⟨key, hkey, input, hinput, _, hcall, h⟩ := h
  refine ⟨key, by rw [hrepeats.idempotencyKey]; exact hkey, input, ?_, (), hauthorised, ?_⟩
  · simpa only [normalizeBreakUpdate, hrepeats.breaks, hrepeats.locationId] using hinput
  · rw [hrepeats.shiftPublicId]
    exact h

/-- The shift already had the requested breaks when the first request came, and nothing
was recorded for its key. -/
def BreakService.FoundAsRequested (service : BreakService) (board : Board) (call : ShiftBreakCall) :
    Prop :=
  ∃ request seen, service.prepare call = .ok request ∧ board.Unrecorded request ∧
    board.inspect call.shiftPublicId request.input = .ok seen ∧ seen.AsRequested

/-- By the time of the repeat either the row that the first request found was recorded for
its key and body, or nothing was and the shift is again found as it was. -/
def BreakService.AgainAsFound (service : BreakService) (board later : Board)
    (call : ShiftBreakCall) : Prop :=
  ∃ request seen, service.prepare call = .ok request ∧
    board.inspect call.shiftPublicId request.input = .ok seen ∧
    (later.Recorded request seen.current ∨ later.Unrecorded request ∧
      ∃ again, later.inspect call.shiftPublicId request.input = .ok again ∧
        again.AsRequested ∧ again.current = seen.current)

/-- The repeat returns the row of the first request, changes no break and makes no debit. -/
structure BreakService.AnsweredAlike (service : BreakService) (later : Board)
    (again : ShiftBreakCall) (first : LunchBreakRow) : Prop where
  row : (service.replaceShiftBreaks later again .acknowledged).1 = .row first
  breaks : (service.replaceShiftBreaks later again .acknowledged).2.breakRows = later.breakRows
  billing : (service.replaceShiftBreaks later again .acknowledged).2.billing = later.billing

theorem BreakService.replaceShiftBreaks_of_answers {later : Board} {again : ShiftBreakCall}
    (hprepare : service.prepare again = .ok request)
    (h : service.Answers later again request row after) :
    service.replaceShiftBreaks later again .acknowledged = (.row row, after) := by
  rw [BreakService.replaceShiftBreaks, hprepare]
  simp only [BreakService.transaction_ok.mpr h]

theorem BreakService.AnsweredAlike.of_answers {later : Board} {again : ShiftBreakCall}
    (hprepare : service.prepare again = .ok request)
    (h : service.Answers later again request row later) : service.AnsweredAlike later again row := by
  have hcall := BreakService.replaceShiftBreaks_of_answers hprepare h
  exact ⟨congrArg Prod.fst hcall, congrArg (·.2.breakRows) hcall, congrArg (·.2.billing) hcall⟩

/-- A repeat that is answered alike found the receipt, or the breaks as requested. -/
theorem BreakService.AnsweredAlike.cases {later : Board} {again : ShiftBreakCall}
    (h : service.AnsweredAlike later again row) (hprepare : service.prepare again = .ok request) :
    later.Recorded request row ∨ later.Unrecorded request ∧
      ∃ seen, later.inspect again.shiftPublicId request.input = .ok seen ∧ seen.AsRequested ∧
        seen.current = row := by
  obtain ⟨ended, hended⟩ : ∃ ended, (service.replaceShiftBreaks later again .acknowledged).2 = ended :=
    ⟨_, rfl⟩
  obtain ⟨request', hprepare', hanswers⟩ :=
    BreakService.replaceShiftBreaks_row (Prod.ext h.row hended)
  obtain rfl := Except.ok.inj (hprepare'.symm.trans hprepare)
  have hbreaks := h.breaks
  rw [hended] at hbreaks
  cases hanswers with
  | replayed hrecorded => exact .inl hrecorded
  | kept hnone hseen hsame hrow => exact .inr ⟨hnone, _, hseen, hsame, hrow.symm⟩
  | replaced hnone hseen hdiffers hreplace =>
      exact absurd hbreaks ((BreakService.replace_ok hreplace).changes hseen hdiffers)

/-- A first request that found the breaks as requested was answered with what it found. -/
theorem BreakService.Answers.row_of_asRequested {seen : Inspection}
    (h : service.Answers board call request row after) (hnone : board.Unrecorded request)
    (hseen : board.inspect call.shiftPublicId request.input = .ok seen)
    (hsame : seen.AsRequested) : row = seen.current := by
  cases h with
  | replayed h => exact absurd hnone h.not_unrecorded
  | kept _ hseen' _ hrow =>
      obtain rfl := Except.ok.inj (hseen'.symm.trans hseen)
      exact hrow
  | replaced _ hseen' hdiffers _ =>
      obtain rfl := Except.ok.inj (hseen'.symm.trans hseen)
      exact absurd hsame hdiffers

/-- Any other first request is recorded afterwards. -/
theorem BreakService.Answers.recorded (h : service.Answers board call request row after)
    (hprepare : service.prepare call = .ok request)
    (hnot : ¬ service.FoundAsRequested board call) : after.Recorded request row := by
  cases h with
  | replayed h => exact h
  | kept hnone hseen hsame hrow => exact absurd ⟨request, _, hprepare, hnone, hseen, hsame⟩ hnot
  | replaced hnone hseen hdiffers h => exact (BreakService.replace_ok h).recorded hnone

end Facts

/-! ## Runs -/

/-- The step is a request of the key that changes a break or pays. -/
def BreakService.Affects (service : BreakService) (operationId : String)
    (t : Transition Board BreakEvent BreakOutcome) : Prop :=
  ∃ call fate request, t.request = .replace call fate ∧ service.prepare call = .ok request ∧
    request.operationId = operationId ∧
    (t.after.breakRows ≠ t.before.breakRows ∨ t.after.billing ≠ t.before.billing)

/-- Some receipt has the given key. -/
def Board.HasReceipt (board : Board) (operationId : String) : Prop :=
  ∃ receipt ∈ board.receipts, receipt.resourceId = operationId

theorem Board.hasReceipt_iff {board : Board} {request : ShiftBreakRequest} :
    board.HasReceipt request.operationId ↔ ¬ board.Unrecorded request := by
  rw [Board.unrecorded_iff, List.find?_eq_none]
  simp [Board.HasReceipt]

/-- A request that affects anything had no receipt and has one afterwards. -/
theorem BreakService.Affects.enters {service : BreakService} {isControl : Char → Bool}
    {operationId : String} {board : Board} {event : BreakEvent}
    (h : service.Affects operationId (transition (service.step isControl) board event)) :
    ¬ board.HasReceipt operationId ∧
      (service.step isControl board event).2.HasReceipt operationId := by
  obtain ⟨call, fate, request, rfl, hprepare, rfl, hchanged⟩ := h
  rcases service.replaceShiftBreaks_after board call fate with hsame | ⟨request', _, hprepare', h⟩
  · simp [transition, BreakService.step, hsame] at hchanged
  obtain rfl := Except.ok.inj (hprepare'.symm.trans hprepare)
  rcases h.settles with hsame | ⟨hnone, hrecorded⟩
  · simp [transition, BreakService.step, hsame] at hchanged
  · rw [Board.hasReceipt_iff, Board.hasReceipt_iff, not_not]
    exact ⟨hnone, hrecorded.not_unrecorded⟩

theorem Board.HasReceipt.step {service : BreakService} {board : Board} {operationId : String}
    (h : board.HasReceipt operationId) (isControl : Char → Bool) (event : BreakEvent) :
    (service.step isControl board event).2.HasReceipt operationId := by
  obtain ⟨receipt, hreceipt, hid⟩ := h
  obtain ⟨more, hmore⟩ := service.step_receipts isControl board event
  exact ⟨receipt, by rw [hmore]; exact List.mem_append_left _ hreceipt, hid⟩

/-- A repeat of a request that succeeded is answered alike exactly where the first request
recorded its row, or where the shift is again as the first found it; and in every run at
most one request of a key changes a break or pays. -/
theorem shift_breaks_repeat_iff (service : BreakService) (isControl : Char → Bool) :
    (∀ (board : Board) (call again : ShiftBreakCall) (fate : Payroll.Fate) (first : LunchBreakRow)
      (after : Board) (events : List BreakEvent), again.Repeats call → again.authorised = true →
      service.replaceShiftBreaks board call fate = (.row first, after) →
      (service.AnsweredAlike (final (service.step isControl) after events) again first ↔
        ¬ service.FoundAsRequested board call ∨
          service.AgainAsFound board (final (service.step isControl) after events) call)) ∧
      ∀ (board : Board) (events : List BreakEvent) (operationId : String),
        (trace (service.step isControl) board events).Pairwise fun t t' =>
          ¬ (service.Affects operationId t ∧ service.Affects operationId t') := by
  refine ⟨?_, ?_⟩
  · intro board call again fate first after events hrepeats hauthorised hfirst
    obtain ⟨request, hprepare, hanswers⟩ := BreakService.replaceShiftBreaks_row hfirst
    have hagain := BreakService.prepare_repeat hrepeats hauthorised hprepare
    by_cases hfound : service.FoundAsRequested board call
    · obtain ⟨request', seen, hprepare', hnone, hseen, hsame⟩ := hfound
      obtain rfl := Except.ok.inj (hprepare'.symm.trans hprepare)
      have hcurrent : first = seen.current := hanswers.row_of_asRequested hnone hseen hsame
      constructor
      · intro halike
        refine .inr ⟨request', seen, hprepare', hseen, ?_⟩
        rw [← hcurrent, ← hrepeats.shiftPublicId]
        exact halike.cases hagain
      · rintro (hnot | ⟨request, seen', hprepare'', hseen', hlater⟩)
        · exact absurd ⟨request', seen, hprepare', hnone, hseen, hsame⟩ hnot
        obtain rfl := Except.ok.inj (hprepare''.symm.trans hprepare')
        obtain rfl := Except.ok.inj (hseen'.symm.trans hseen)
        rw [← hcurrent, ← hrepeats.shiftPublicId] at hlater
        rcases hlater with hrecorded | ⟨hunrecorded, seen, hlooks, hkept, hshown⟩
        · exact .of_answers hagain (.replayed hrecorded)
        · exact .of_answers hagain (.kept hunrecorded hlooks hkept hshown.symm)
    · have hrecorded : after.Recorded request first := hanswers.recorded hprepare hfound
      exact iff_of_true (.of_answers hagain (.replayed (hrecorded.final isControl events)))
        (.inl hfound)
  · intro board events operationId
    exact pairwise_trace_of_entering (fun _ => True) (Board.HasReceipt · operationId)
      (service.Affects operationId) (fun _ _ _ => trivial)
      (fun _ event _ h => h.step isControl event) (fun _ _ _ h => h.enters) trivial events

/-! ## A lunch that is moved and moved back -/

namespace Sample

/-- 2026-07-09 at the given hour, in milliseconds. -/
def hour (h : Int) : Int := 1783555200000 + h * 3600000

/-- The service, with the digests of the two keys and the two bodies used below. -/
def breakService : BreakService where
  tenantId := "tenant-1"
  hashes := {
    sha256 := fun text =>
      if text = "api-v2:lunch-break-shift:6a1f2c30-58d4-4b0e-9c1a-2f7d5e8b9a01:tenant-1:lunch-at-noon"
      then "cdb89a39bbf1bb7808032016cb6aadc5cc58d91923ddff4669eea49b29b2aca5"
      else "86ec04cfe0d803628e898eccd33a14408accc8b00c2936b490a7730a7b11c215"
    shiftBreakIdentity := fun input =>
      if input.breaks.any (·.startTime = some (hour 12)) then
        "285bf64e6e7246811919a6791f14a7f7e1e31ff5d48f63d806be6bb0fa2a5085"
      else "b13bd76eb205cffc887c829a5265fca68f2ef17d8e661423c15d3e2e66438140" }

/-- A shift from nine to five in a draft schedule, with an unpaid lunch at noon. -/
def noonBoard : Board where
  shifts := [{
    id := "shift-1"
    publicId := "6a1f2c30-58d4-4b0e-9c1a-2f7d5e8b9a01"
    locationId := "location-1"
    scheduleId := some "schedule-1"
    userId := none
    startTime := hour 9
    endTime := hour 17
    updatedAt := hour 0
    deleted := false
    breaks := [⟨"break-1", some .lunch, hour 12, hour 12 + 1800000, false⟩] }]
  schedules := [⟨"schedule-1", .draft, false, 4⟩]
  locations := [⟨"location-1", "0b9d4e77-13c2-4f6a-8d25-71c3a6e0f412", false⟩]
  users := []
  policy := none
  receipts := []
  billing := ⟨[("tenant-1", ⟨5, 0⟩)], []⟩

/-- A request for one lunch of half an hour. -/
def lunchAt (key startTime newId : String) : ShiftBreakCall where
  shiftPublicId := "6a1f2c30-58d4-4b0e-9c1a-2f7d5e8b9a01"
  idempotencyKey := some key
  locationId := "0b9d4e77-13c2-4f6a-8d25-71c3a6e0f412"
  breaks := [⟨.lunch, some startTime, some 30, false⟩]
  breakId := fun _ => newId
  now := hour 1
  authorised := true
  entitled := true
  current := fun _ => true

/-- Lunch at noon, as it is. -/
def first : ShiftBreakCall := lunchAt "lunch-at-noon" "2026-07-09T12:00:00Z" "break-3"

/-- Lunch at one, under a key of its own. -/
def other : ShiftBreakCall := lunchAt "lunch-at-one" "2026-07-09T13:00:00Z" "break-2"

/-- The row that the first request is answered with. -/
def noonRow : LunchBreakRow where
  shiftId := some "6a1f2c30-58d4-4b0e-9c1a-2f7d5e8b9a01"
  userId := none
  employeeName := none
  startTime := hour 9
  endTime := hour 17
  breaks := [⟨.lunch, hour 12, hour 12 + 1800000, 30, false⟩]

/-- The board after the first request, and after the other. -/
def afterFirst : Board :=
  (breakService.replaceShiftBreaks noonBoard first .acknowledged).2

def afterOther : Board :=
  final (breakService.step fun _ => false) afterFirst [.replace other .acknowledged]

/-- The board after the repeat of the first request. -/
def afterRepeat : Board :=
  (breakService.replaceShiftBreaks afterOther first .acknowledged).2

/-- The credits of the workspace. -/
def credits (board : Board) : Option Int := (board.billing.wallet? "tenant-1").map (·.usageCredits)

end Sample

/-- The first request finds lunch at noon and is free; the other moves lunch to one; the
repeat of the first moves it back and pays for that. -/
theorem noon_repeated_moves_and_pays :
    (Sample.breakService.replaceShiftBreaks Sample.noonBoard Sample.first .acknowledged).1 =
        .row Sample.noonRow ∧
      Sample.afterRepeat.breakRows ≠ Sample.afterOther.breakRows ∧
      Sample.credits Sample.afterOther = some 4 ∧ Sample.credits Sample.afterRepeat = some 3 ∧
      ¬ Sample.breakService.AnsweredAlike Sample.afterOther Sample.first Sample.noonRow := by
  have hmoved : Sample.afterRepeat.breakRows ≠ Sample.afterOther.breakRows := by decide +kernel
  refine ⟨by decide +kernel, hmoved, by decide +kernel, by decide +kernel, ?_⟩
  exact fun h => hmoved h.breaks

/-- The condition at that first request and its repeat. -/
theorem noon_repeat_iff :
    Sample.breakService.AnsweredAlike Sample.afterOther Sample.first Sample.noonRow ↔
      ¬ Sample.breakService.FoundAsRequested Sample.noonBoard Sample.first ∨
        Sample.breakService.AgainAsFound Sample.noonBoard Sample.afterOther Sample.first :=
  (shift_breaks_repeat_iff Sample.breakService fun _ => false).1 Sample.noonBoard Sample.first
    Sample.first .acknowledged Sample.noonRow Sample.afterFirst
    [.replace Sample.other .acknowledged] ⟨rfl, rfl, rfl, rfl⟩ rfl
    (Prod.ext (by decide +kernel) rfl)

end LunchLineup.Breaks
