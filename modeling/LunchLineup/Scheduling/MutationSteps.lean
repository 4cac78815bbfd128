import LunchLineup.Scheduling.Mutations

/-!
# What a write on a saved schedule changes

The mutations of a plan find their rows by id.  With distinct ids they stay within the rows
of the schedule, `applyMutations_within`, whatever the plan is; the order of execution and
the content of the plan do not matter for this.

A transaction that answers has found its receipt and changes nothing, or it is a change:
`mutate_eq_ok`.  `Changed` is all that the later arguments need of a change: one row of
`"Schedule"` gets its next revision, from the one that the caller named, one receipt is
added under a new key, and the shifts and windows of all other schedules are as they were.
-/

namespace LunchLineup.Scheduling

open LunchLineup.Lib LunchLineup.Idempotency
open LunchLineup.Breaks (User Location ScheduleStatus)
open LunchLineup.Payroll (Fate)

/-! ## Mutations stay within their schedule -/

/-- The rows that other schedules have, or none. -/
def otherRows (rows : List ShiftRow) (scheduleId : String) : List ShiftRow :=
  rows.filter fun row => row.scheduleId ≠ some scheduleId

/-- The table has changed among the rows of a schedule only. -/
structure Within (scheduleId : String) (rows next : List ShiftRow) : Prop where
  ids : (next.map (·.id)).Nodup
  others : otherRows next scheduleId = otherRows rows scheduleId

/-- The row with an id is one of the schedule. -/
def Owns (scheduleId : String) (id : Option String) (rows : List ShiftRow) : Prop :=
  ∀ row ∈ rows, some row.id = id → row.scheduleId = some scheduleId

section Mutations

variable {rows next : List ShiftRow} {scheduleId : String} {id : Option String}
  {change : ShiftRow → ShiftRow}

theorem Within.trans {last : List ShiftRow} (h : Within scheduleId rows next)
    (hnext : Within scheduleId next last) : Within scheduleId rows last :=
  ⟨hnext.ids, hnext.others.trans h.others⟩

/-- A statement about rows of the schedule stays within it. -/
theorem Within.map (hids : (rows.map (·.id)).Nodup) (hid : ∀ row, (change row).id = row.id)
    (howner : ∀ row ∈ rows, change row = row ∨
      row.scheduleId = some scheduleId ∧ (change row).scheduleId = some scheduleId) :
    Within scheduleId rows (rows.map change) := by
  refine ⟨?_, filter_map_of_unseen fun row hrow => ?_⟩
  · simpa [Function.comp_def, hid] using hids
  · refine (howner row hrow).imp_right ?_
    rintro ⟨hbefore, hafter⟩
    simp [hbefore, hafter]

theorem updateRow_within (hids : (rows.map (·.id)).Nodup) (hid : ∀ row, (change row).id = row.id)
    (howner : ∀ row, (change row).scheduleId = row.scheduleId)
    (h : updateRow rows scheduleId id change = .ok next) :
    Within scheduleId rows next ∧ Owns scheduleId id next := by
  simp only [updateRow, bind_eq_ok, ensure_eq_ok] at h
  obtain ⟨_, hone, h⟩ := h
  obtain rfl := Except.ok.inj h
  -- the one row that the statement matches is the only row with the id
  obtain ⟨found, hfound⟩ := List.length_eq_one_iff.mp hone
  have hmem : found ∈ rows.filter fun row => some row.id = id ∧ row.SavedIn scheduleId := by
    rw [hfound]
    exact List.mem_singleton_self found
  obtain ⟨hrow, hmatch⟩ := List.mem_filter.mp hmem
  obtain ⟨hfoundId, hsaved⟩ := of_decide_eq_true hmatch
  refine ⟨Within.map hids ?_ ?_, ?_⟩
  · intro row
    split
    · exact hid row
    · rfl
  · intro row _
    split
    · rename_i hcond
      exact .inr ⟨hcond.2.1, (howner row).trans hcond.2.1⟩
    · exact .inl rfl
  · intro row hmem hrowId
    obtain ⟨old, hold, rfl⟩ := List.mem_map.mp hmem
    have hkept : (if some old.id = id ∧ old.SavedIn scheduleId then change old else old).id =
        old.id := by
      split
      · exact hid old
      · rfl
    rw [hkept] at hrowId
    obtain rfl := eq_of_key hids hold hrow (Option.some.inj (hrowId.trans hfoundId.symm))
    rw [if_pos ⟨hfoundId, hsaved⟩, howner]
    exact hsaved.1

theorem placeBreaks_within {items : List PlannedBreak} (hids : (rows.map (·.id)).Nodup)
    (howns : Owns scheduleId id rows) (h : placeBreaks id rows items = .ok next) :
    Within scheduleId rows next := by
  induction items generalizing rows with
  | nil =>
      obtain rfl := Except.ok.inj h
      exact ⟨hids, rfl⟩
  | cons item rest ih =>
      obtain ⟨placed, hplaced, hrest⟩ := bind_eq_ok.mp h
      simp only [placeBreak, bind_eq_ok, ensure_eq_ok] at hplaced
      obtain ⟨_, _, hplaced⟩ := hplaced
      obtain rfl := Except.ok.inj hplaced
      have hwithin : Within scheduleId rows
          (rows.map fun row => if some row.id = id then row.withBreak item else row) := by
        refine Within.map hids ?_ ?_
        · intro row
          split
          · rfl
          · rfl
        · intro row hrow
          split
          · rename_i hmatch
            exact .inr ⟨howns row hrow hmatch, howns row hrow hmatch⟩
          · exact .inl rfl
      refine hwithin.trans (ih hwithin.ids ?_ hrest)
      intro row hmem hrowId
      obtain ⟨old, hold, rfl⟩ := List.mem_map.mp hmem
      by_cases hmatch : some old.id = id
      · rw [if_pos hmatch]
        exact howns old hold hmatch
      · rw [if_neg hmatch] at hrowId
        exact absurd hrowId hmatch

variable {schedule : LockedSchedule} {deletedAt : Int} {newIds : Nat → String}

theorem applyMutation_within {newId : String} {mutation : ShiftMutation}
    (hids : (rows.map (·.id)).Nodup)
    (h : applyMutation schedule deletedAt newId rows mutation = .ok next) :
    Within schedule.id rows next := by
  cases mutation with
  | delete before =>
      refine (updateRow_within hids ?_ ?_ h).1
      · exact fun _ => rfl
      · exact fun _ => rfl
  | create after clientId =>
      simp only [applyMutation, bind_eq_ok, ensure_eq_ok] at h
      obtain ⟨_, ⟨_, hnew⟩, h⟩ := h
      obtain rfl := Except.ok.inj h
      refine ⟨nodup_keys_append hids fun row hrow => (hnew row hrow).1, ?_⟩
      simp [otherRows, createdRow]
  | update before after =>
      simp only [applyMutation, bind_eq_ok] at h
      obtain ⟨updated, hupdated, _, _, hplaced⟩ := h
      have hupdate : Within schedule.id rows updated ∧
          Owns schedule.id before.internalId updated := by
        refine updateRow_within hids ?_ ?_ hupdated
        · exact fun _ => rfl
        · exact fun _ => rfl
      exact hupdate.1.trans (placeBreaks_within hupdate.1.ids hupdate.2 hplaced)

/-- Mutations touch no row of another schedule. -/
theorem applyMutations_within {mutations : List (ShiftMutation × Nat)}
    (hids : (rows.map (·.id)).Nodup)
    (h : applyMutations schedule deletedAt newIds rows mutations = .ok next) :
    Within schedule.id rows next := by
  induction mutations generalizing rows with
  | nil =>
      obtain rfl := Except.ok.inj h
      exact ⟨hids, rfl⟩
  | cons first rest ih =>
      obtain ⟨mutation, n⟩ := first
      obtain ⟨middle, hfirst, hrest⟩ := bind_eq_ok.mp h
      have hwithin := applyMutation_within hids hfirst
      exact hwithin.trans (ih hwithin.ids hrest)

/-- Another schedule has the rows that it had. -/
theorem Within.rows_eq (h : Within scheduleId rows next) {other : String}
    (hne : other ≠ scheduleId) :
    (next.filter fun row => row.scheduleId = some other) =
      rows.filter fun row => row.scheduleId = some other := by
  have hfilter : ∀ table : List ShiftRow, (table.filter fun row => row.scheduleId = some other) =
      (otherRows table scheduleId).filter fun row => row.scheduleId = some other := by
    intro table
    rw [otherRows, List.filter_filter]
    apply List.filter_congr
    intro row _
    by_cases heq : row.scheduleId = some other
    · simp [heq, hne]
    · simp [heq]
  rw [hfilter next, hfilter rows, h.others]

end Mutations

/-! ## The tables -/

/-- The unique indexes. -/
structure UniqueKeys (tables : ScheduleTables) : Prop where
  schedules : (tables.schedules.map (·.id)).Nodup
  publicIds : (tables.schedules.map (·.publicId)).Nodup
  shifts : (tables.shifts.map (·.id)).Nodup
  changes : (tables.receipts.map (·.key)).Nodup
  creations : (tables.creations.map (·.key)).Nodup
  publications : (tables.publications.map (·.key)).Nodup

/-- The shifts and the demand windows of a schedule. -/
structure BoardRows where
  shifts : List ShiftRow
  windows : List DemandWindowRow

def ScheduleTables.board (tables : ScheduleTables) (scheduleId : String) : BoardRows where
  shifts := tables.shifts.filter fun row => row.scheduleId = some scheduleId
  windows := tables.windows.filter fun window => window.scheduleId = scheduleId

/-- The status that a command asks of its schedule. -/
def ScheduleCommand.source : ScheduleCommand → ScheduleStatus
  | .changeSet _ => .draft
  | .replaceDemand _ => .draft
  | .reopen => .published

/-- What a command makes of the row of its schedule. -/
def ScheduleCommand.revise : ScheduleCommand → ScheduleRow → ScheduleRow
  | .changeSet _, row => row.revised
  | .replaceDemand _, row => row.revised
  | .reopen, row => row.reopened

/-- A change: one row gets its next revision, and one receipt is added under a new key. -/
structure Changed (service : SchedulingService) (call : ScheduleCall) (around : Surroundings)
    (prepared : PreparedCall) (row : ScheduleRow) (response : MutationResponse)
    (tables next : ScheduleTables) : Prop where
  request : service.prepare call = .ok prepared
  fresh : ∀ receipt ∈ tables.receipts, receipt.key ≠ prepared.keyHash
  mem : row ∈ tables.schedules
  live : row.publicId = call.schedulePublicId ∧ row.deleted = false
  status : row.status = call.command.source
  revision : row.revision = prepared.baseRevision
  schedules : next.schedules = replaceRow (·.id) tables.schedules (call.command.revise row)
  changeSets : ∃ changeSetId, next.changeSets =
    tables.changeSets ++ [call.receipt prepared row changeSetId response]
  shifts : next.shifts = tables.shifts ∨ ∃ operations plan,
    planSaved service.collation tables.shifts around.users row.locked operations
        around.publicIds = .ok plan ∧
      applyPlan row.locked around.now around.rowIds tables.shifts plan = .ok next.shifts
  windows : next.windows = tables.windows ∨ ∃ (items : List (WindowRequest × Nat)) (new : _),
    items.mapM (service.newWindow around row) = .ok new ∧
      insertWindows (tables.windows.filter fun window => ¬ window.Of row) new = .ok next.windows
  shiftIds : (next.shifts.map (·.id)).Nodup
  others : ∀ scheduleId, scheduleId ≠ row.id → next.board scheduleId = tables.board scheduleId
  reopened : row.status ≠ .draft → ∀ scheduleId, next.board scheduleId = tables.board scheduleId
  creations : next.creations = tables.creations
  publications : next.publications = tables.publications

@[simp] theorem ScheduleCommand.revise_id (command : ScheduleCommand) (row : ScheduleRow) :
    (command.revise row).id = row.id := by
  cases command with
  | changeSet body => rfl
  | replaceDemand body => rfl
  | reopen => rfl

@[simp] theorem ScheduleCommand.revise_publicId (command : ScheduleCommand) (row : ScheduleRow) :
    (command.revise row).publicId = row.publicId := by
  cases command with
  | changeSet body => rfl
  | replaceDemand body => rfl
  | reopen => rfl

@[simp] theorem ScheduleCommand.revise_revision (command : ScheduleCommand) (row : ScheduleRow) :
    (command.revise row).revision = row.revision + 1 := by
  cases command with
  | changeSet body => rfl
  | replaceDemand body => rfl
  | reopen => rfl

section Steps

variable {service : SchedulingService} {tables next : ScheduleTables} {call : ScheduleCall}
  {prepared : PreparedCall} {around : Surroundings} {row : ScheduleRow} {location : Location}
  {response : MutationResponse}

/-- What the checks before the transaction give. -/
theorem prepare_eq_ok (h : service.prepare call = .ok prepared) :
    requireScheduleRevision call.ifMatch call.schedulePublicId = .ok prepared.baseRevision ∧
      requestHash service.sha256 service.localeCompare call.hashed = some prepared.requestHash ∧
        ∃ key, requireIdempotencyKey call.idempotencyKey = .ok key ∧
          prepared.keyHash = service.sha256 key := by
  simp only [SchedulingService.prepare, bind_eq_ok] at h
  obtain ⟨baseRevision, hrevision, key, hkey, h⟩ := h
  split at h
  · cases h
  · rename_i hash hhash
    obtain rfl := Except.ok.inj h
    exact ⟨hrevision, hhash, key, hkey, rfl⟩

theorem lockSchedule_eq_ok {locations : List Location} {publicId : String}
    (h : tables.lockSchedule locations publicId = .ok (row, location)) :
    row ∈ tables.schedules ∧ row.publicId = publicId ∧ row.deleted = false ∧
      liveLocation locations row.locationId = some location := by
  unfold ScheduleTables.lockSchedule at h
  split at h
  · cases h
  · rename_i found hfound
    obtain rfl := Except.ok.inj h
    obtain ⟨other, hother, hlocated⟩ := List.mem_filterMap.mp (List.mem_of_head? hfound)
    obtain ⟨found, hlive, hpair⟩ := Option.map_eq_some_iff.mp hlocated
    obtain ⟨rfl, rfl⟩ := Prod.mk.inj hpair
    obtain ⟨hmem, hcond⟩ := List.mem_filter.mp hother
    obtain ⟨hpublicId, hdeleted⟩ := of_decide_eq_true hcond
    exact ⟨hmem, hpublicId, hdeleted, hlive⟩

/-- The update of a schedule changes the one row with its id. -/
theorem reviseSchedule_eq_ok {schedules revised : List ScheduleRow} {status : ScheduleStatus}
    {revision : Int} {change : ScheduleRow → ScheduleRow} (hids : (schedules.map (·.id)).Nodup)
    (hrow : row ∈ schedules) (hid : (change row).id = row.id)
    (h : reviseSchedule schedules row.id status revision change = .ok revised) :
    revised = replaceRow (·.id) schedules (change row) := by
  simp only [reviseSchedule, bind_eq_ok, ensure_eq_ok] at h
  obtain ⟨_, hone, h⟩ := h
  obtain ⟨found, hfound⟩ := List.length_eq_one_iff.mp hone
  have hmem : found ∈ schedules.filter (·.Revisable row.id status revision) := by
    rw [hfound]
    exact List.mem_singleton_self found
  obtain ⟨hother, hcond⟩ := List.mem_filter.mp hmem
  have hrevisable : found.Revisable row.id status revision := of_decide_eq_true hcond
  obtain rfl := eq_of_key hids hother hrow hrevisable.1
  obtain rfl := Except.ok.inj h
  rw [replaceRow, hid]
  apply List.map_congr_left
  intro other hother
  by_cases heq : other.id = found.id
  · obtain rfl := eq_of_key hids hother hrow heq
    rw [if_pos hrevisable, if_pos rfl]
  · rw [if_neg heq, if_neg fun hcond => heq hcond.1]

theorem assertRevision_eq_ok {status : ScheduleStatus} {problem : Problem} {revision : Int}
    {u : Unit} (h : row.assertRevision status problem revision = .ok u) :
    row.status = status ∧ row.revision = revision := by
  simp only [ScheduleRow.assertRevision, bind_eq_ok, ensure_eq_ok] at h
  obtain ⟨_, hstatus, hrevision⟩ := h
  exact ⟨hstatus, hrevision⟩

theorem recordChangeSet_eq_ok {changeSets recorded : List ChangeSetRow} {new : ChangeSetRow}
    (h : recordChangeSet changeSets new = .ok recorded) : recorded = changeSets ++ [new] := by
  simp only [recordChangeSet, bind_eq_ok, ensure_eq_ok] at h
  obtain ⟨_, _, h⟩ := h
  exact (Except.ok.inj h).symm

/-- New demand windows are windows of the schedule. -/
theorem newWindow_eq_ok {item : WindowRequest × Nat} {window : DemandWindowRow}
    (h : service.newWindow around row item = .ok window) : window.Of row := by
  simp only [SchedulingService.newWindow, bind_eq_ok] at h
  obtain ⟨_, _, _, _, _, _, _, _, h⟩ := h
  obtain rfl := Except.ok.inj h
  exact ⟨rfl, rfl⟩

/-- A replacement leaves the windows of other schedules. -/
theorem insertWindows_others {windows new replaced : List DemandWindowRow}
    (hnew : ∀ window ∈ new, window.Of row)
    (h : insertWindows (windows.filter fun window => ¬ window.Of row) new = .ok replaced)
    {scheduleId : String} (hne : scheduleId ≠ row.id) :
    (replaced.filter fun window => window.scheduleId = scheduleId) =
      windows.filter fun window => window.scheduleId = scheduleId := by
  simp only [insertWindows, bind_eq_ok, ensure_eq_ok] at h
  obtain ⟨_, _, h⟩ := h
  obtain rfl := Except.ok.inj h
  have hnone : (new.filter fun window => window.scheduleId = scheduleId) = [] := by
    rw [List.filter_eq_nil_iff]
    intro window hwindow hscheduleId
    exact hne ((of_decide_eq_true hscheduleId).symm.trans (hnew window hwindow).1)
  rw [List.filter_append, hnone, List.append_nil, List.filter_filter]
  apply List.filter_congr
  intro window _
  by_cases heq : window.scheduleId = scheduleId
  · have hother : ¬ window.Of row := fun hof => hne (heq.symm.trans hof.1)
    simp [heq, hother]
  · simp [heq]

/-! ## The three changes -/

variable (hkeys : UniqueKeys tables) (hprepared : service.prepare call = .ok prepared)
  (hfresh : ∀ receipt ∈ tables.receipts, receipt.key ≠ prepared.keyHash)
  (hlocked : tables.lockSchedule around.locations call.schedulePublicId = .ok (row, location))

include hkeys hprepared hfresh hlocked

theorem apply_changed {body : JsonValue} (hcommand : call.command = .changeSet body)
    (h : service.apply tables call prepared around row location body = .ok (response, next)) :
    Changed service call around prepared row response tables next := by
  obtain ⟨hrow, hpublicId, hdeleted, _⟩ := lockSchedule_eq_ok hlocked
  simp only [SchedulingService.apply, bind_eq_ok] at h
  obtain ⟨_, hassert, plan, hplan, shifts, hshifts, schedules, hschedules, views, hviews,
    changeSets, hchangeSets, h⟩ := h
  obtain ⟨hstatus, hrevision⟩ := assertRevision_eq_ok hassert
  obtain ⟨rfl, rfl⟩ := Prod.mk.inj (Except.ok.inj h)
  have hwithin : Within row.id tables.shifts shifts := applyMutations_within hkeys.shifts hshifts
  have hrevised : schedules = replaceRow (·.id) tables.schedules row.revised :=
    reviseSchedule_eq_ok hkeys.schedules hrow rfl hschedules
  refine ⟨hprepared, hfresh, hrow, ⟨hpublicId, hdeleted⟩, ?_, hrevision, ?_,
    ⟨_, recordChangeSet_eq_ok hchangeSets⟩, .inr ⟨_, plan, hplan, hshifts⟩, .inl rfl, hwithin.ids,
    ?_, ?_, rfl, rfl⟩
  · rw [hcommand]
    exact hstatus
  · rw [hcommand]
    exact hrevised
  · intro scheduleId hne
    simp only [ScheduleTables.board, hwithin.rows_eq hne]
  · exact fun hne => absurd hstatus hne

theorem replace_changed {body : JsonValue} (hcommand : call.command = .replaceDemand body)
    (h : service.replace tables call prepared around row body = .ok (response, next)) :
    Changed service call around prepared row response tables next := by
  obtain ⟨hrow, hpublicId, hdeleted, _⟩ := lockSchedule_eq_ok hlocked
  simp only [SchedulingService.replace, bind_eq_ok] at h
  obtain ⟨_, hassert, new, hnew, windows, hwindows, schedules, hschedules, changeSets, hchangeSets,
    h⟩ := h
  obtain ⟨hstatus, hrevision⟩ := assertRevision_eq_ok hassert
  obtain ⟨rfl, rfl⟩ := Prod.mk.inj (Except.ok.inj h)
  have hof : ∀ window ∈ new, window.Of row := by
    intro window hwindow
    obtain ⟨item, _, hitem⟩ := exists_input_of_mapM_ok hnew hwindow
    exact newWindow_eq_ok hitem
  have hrevised : schedules = replaceRow (·.id) tables.schedules row.revised :=
    reviseSchedule_eq_ok hkeys.schedules hrow rfl hschedules
  refine ⟨hprepared, hfresh, hrow, ⟨hpublicId, hdeleted⟩, ?_, hrevision, ?_,
    ⟨_, recordChangeSet_eq_ok hchangeSets⟩, .inl rfl, .inr ⟨_, new, hnew, hwindows⟩, hkeys.shifts,
    ?_, ?_, rfl, rfl⟩
  · rw [hcommand]
    exact hstatus
  · rw [hcommand]
    exact hrevised
  · intro scheduleId hne
    simp only [ScheduleTables.board, insertWindows_others hof hwindows hne]
  · exact fun hne => absurd hstatus hne

theorem reopen_changed (hcommand : call.command = .reopen)
    (h : tables.reopen call prepared around row location = .ok (response, next)) :
    Changed service call around prepared row response tables next := by
  obtain ⟨hrow, hpublicId, hdeleted, _⟩ := lockSchedule_eq_ok hlocked
  simp only [ScheduleTables.reopen, bind_eq_ok] at h
  obtain ⟨_, hassert, schedules, hschedules, changeSets, hchangeSets, h⟩ := h
  obtain ⟨hstatus, hrevision⟩ := assertRevision_eq_ok hassert
  obtain ⟨rfl, rfl⟩ := Prod.mk.inj (Except.ok.inj h)
  have hrevised : schedules = replaceRow (·.id) tables.schedules row.reopened :=
    reviseSchedule_eq_ok hkeys.schedules hrow rfl hschedules
  refine ⟨hprepared, hfresh, hrow, ⟨hpublicId, hdeleted⟩, ?_, hrevision, ?_,
    ⟨_, recordChangeSet_eq_ok hchangeSets⟩, .inl rfl, .inl rfl, hkeys.shifts, fun _ _ => rfl,
    fun _ _ => rfl, rfl, rfl⟩
  · rw [hcommand]
    exact hstatus
  · rw [hcommand]
    exact hrevised

end Steps

/-! ## Answers -/

/-- A new draft, or the draft of the same window, and a receipt under a new key. -/
structure Created (service : SchedulingService) (call : CreateCall) (prepared : PreparedCreation)
    (row : ScheduleRow) (response : ScheduleView) (tables next : ScheduleTables) : Prop where
  request : service.prepareCreation call = .ok prepared
  fresh : ∀ receipt ∈ tables.creations, receipt.key ≠ prepared.operationId
  draft : row.status = .draft ∧ row.deleted = false
  window : row.startDate = prepared.startDate ∧ row.endDate = prepared.endDate ∧
    prepared.startDate < prepared.endDate ∧
      prepared.endDate - prepared.startDate ≤ maxScheduleWindowMs
  schedules : (row ∈ tables.schedules ∧ next.schedules = tables.schedules) ∨
    (row.revision = 0 ∧ (∀ other ∈ tables.schedules, other.id ≠ row.id ∧
        other.publicId ≠ row.publicId ∧
          ¬ other.Meets row.locationId row.startDate row.endDate) ∧
      next.schedules = tables.schedules ++ [row])
  answered : ∃ locationPublicId, response = row.view locationPublicId
  creations : next.creations =
    tables.creations ++ [⟨prepared.operationId, prepared.requestHash, response⟩]
  shifts : next.shifts = tables.shifts
  windows : next.windows = tables.windows
  changeSets : next.changeSets = tables.changeSets
  publications : next.publications = tables.publications

/-- One draft is published at the accepted revision, with a receipt under a new key. -/
structure Published (service : SchedulingService) (call : PublishCall) (key : String) (now : Int)
    (row : ScheduleRow) (response : PublicationResponse) (tables next : ScheduleTables) :
    Prop where
  request : publicationKey call.idempotencyKey = .ok key
  fresh : ∀ receipt ∈ tables.publications,
    receipt.key ≠ service.publicationId call.scheduleId key
  mem : row ∈ tables.schedules
  draft : row.id = call.scheduleId ∧ row.status = .draft ∧ row.deleted = false
  revision : row.revision = call.acceptedContract.version
  schedules : next.schedules = replaceRow (·.id) tables.schedules (row.published now)
  answered : response.id = row.id ∧ response.status = .published ∧ response.publishedAt = now ∧
    response.acceptedContract = call.acceptedContract
  publications : next.publications = tables.publications ++
    [⟨service.publicationId call.scheduleId key,
      service.publicationHash call.scheduleId call.acceptedContract, response⟩]
  shifts : next.shifts = tables.shifts
  windows : next.windows = tables.windows
  changeSets : next.changeSets = tables.changeSets
  creations : next.creations = tables.creations

section Answers

variable {service : SchedulingService} {tables next : ScheduleTables}

theorem replayed_eq_none {Response : Type} {found : Replay Response}
    (h : replayed found = .ok none) : found = .fresh := by
  cases found with
  | fresh => rfl
  | recorded response => cases h
  | reused => cases h
  | unavailable => cases h

theorem replayed_eq_some {Response : Type} {found : Replay Response} {response : Response} :
    replayed found = .ok (some response) ↔ found = .recorded response := by
  cases found with
  | fresh => simp [replayed]
  | recorded other => simp [replayed]
  | reused => simp [replayed]
  | unavailable => simp [replayed]

theorem prepareCreation_window {call : CreateCall} {prepared : PreparedCreation}
    (h : service.prepareCreation call = .ok prepared) :
    prepared.startDate < prepared.endDate ∧
      prepared.endDate - prepared.startDate ≤ maxScheduleWindowMs := by
  simp only [SchedulingService.prepareCreation, bind_eq_ok] at h
  obtain ⟨key, _, h⟩ := h
  split at h
  · cases h
  · simp only [bind_eq_ok, ensure_eq_ok] at h
    obtain ⟨_, _, _, _, _, hwindow, h⟩ := h
    obtain rfl := Except.ok.inj h
    exact hwindow

theorem lockDraft_eq_ok {locations : List Location} {id : String} {row : ScheduleRow}
    (h : tables.lockDraft locations id = .ok row) :
    row ∈ tables.schedules ∧ row.id = id ∧ row.status = .draft ∧ row.deleted = false := by
  unfold ScheduleTables.lockDraft at h
  split at h
  · cases h
  · rename_i found hfound
    simp only [bind_eq_ok, ensure_eq_ok] at h
    obtain ⟨_, hstatus, h⟩ := h
    obtain rfl := Except.ok.inj h
    have hcond := List.find?_some hfound
    obtain ⟨hid, hdeleted, _⟩ : found.id = id ∧ found.deleted = false ∧ _ :=
      of_decide_eq_true hcond
    exact ⟨List.mem_of_find?_eq_some hfound, hid, hstatus, hdeleted⟩

/-- The update to `PUBLISHED` changes the one row with its id. -/
theorem publishRow_eq {schedules : List ScheduleRow} (hids : (schedules.map (·.id)).Nodup)
    {row : ScheduleRow} (hrow : row ∈ schedules) (hstatus : row.status = .draft)
    (hdeleted : row.deleted = false) (now : Int) :
    (schedules.map fun other => if other.Publishable row.id then other.published now else other) =
      replaceRow (·.id) schedules (row.published now) := by
  unfold replaceRow
  apply List.map_congr_left
  intro other hother
  show _ = if other.id = row.id then row.published now else other
  by_cases heq : other.id = row.id
  · obtain rfl := eq_of_key hids hother hrow heq
    -- The row was locked as a draft, so the condition of the update holds of it.
    have hpublishable : other.Publishable other.id := ⟨rfl, hstatus, hdeleted⟩
    rw [if_pos hpublishable, if_pos rfl]
  · rw [if_neg fun hcond => heq hcond.1, if_neg heq]

/-- A transaction that answers gives a recorded response and changes nothing, or it makes a
change. -/
theorem mutate_eq_ok {call : ScheduleCall} {around : Surroundings} {response : MutationResponse}
    (hkeys : UniqueKeys tables) (h : service.mutate tables call around = .ok (response, next)) :
    ∃ prepared, service.prepare call = .ok prepared ∧
      ((next = tables ∧ service.replay tables call prepared = .ok (some response)) ∨
        ∃ row, Changed service call around prepared row response tables next) := by
  simp only [SchedulingService.mutate, bind_eq_ok] at h
  obtain ⟨prepared, hprepared, _, _, _, _, found, hfound, h⟩ := h
  refine ⟨prepared, hprepared, ?_⟩
  cases found with
  | some recorded =>
      obtain ⟨rfl, rfl⟩ := Prod.mk.inj (Except.ok.inj h)
      exact .inl ⟨rfl, hfound⟩
  | none =>
      have hfresh := lookUp_eq_fresh.mp (replayed_eq_none hfound)
      -- No receipt has the key, so the command is carried out on the locked schedule.
      obtain ⟨⟨row, location⟩, hlocked, h⟩ := bind_eq_ok.mp h
      refine .inr ⟨row, ?_⟩
      cases hcommand : call.command with
      | changeSet body =>
          simp only [hcommand] at h
          exact apply_changed hkeys hprepared hfresh hlocked hcommand h
      | replaceDemand body =>
          simp only [hcommand] at h
          exact replace_changed hkeys hprepared hfresh hlocked hcommand h
      | reopen =>
          simp only [hcommand] at h
          exact reopen_changed hkeys hprepared hfresh hlocked hcommand h

theorem createRow_eq_ok {around : Surroundings} {locationId : String}
    {prepared : PreparedCreation} {row : ScheduleRow} {schedules : List ScheduleRow}
    (h : createRow tables around locationId prepared = .ok (row, schedules)) :
    (row.status = .draft ∧ row.deleted = false) ∧
      (row.startDate = prepared.startDate ∧ row.endDate = prepared.endDate) ∧
      ((row ∈ tables.schedules ∧ schedules = tables.schedules) ∨
        (row.revision = 0 ∧ (∀ other ∈ tables.schedules, other.id ≠ row.id ∧
            other.publicId ≠ row.publicId ∧
              ¬ other.Meets row.locationId row.startDate row.endDate) ∧
          schedules = tables.schedules ++ [row])) := by
  unfold createRow at h
  split at h
  · rename_i overlap hoverlap
    split at h
    · rename_i hsame
      obtain ⟨rfl, rfl⟩ := Prod.mk.inj (Except.ok.inj h)
      have hfound := List.find?_some hoverlap
      -- A draft of the same times is taken as it is.
      have hmeets : overlap.Meets locationId prepared.startDate prepared.endDate :=
        of_decide_eq_true hfound
      exact ⟨⟨hsame.1, hmeets.2.1⟩, hsame.2,
        .inl ⟨List.mem_of_find?_eq_some hoverlap, rfl⟩⟩
    · cases h
  · rename_i hnone
    simp only [bind_eq_ok, ensure_eq_ok] at h
    obtain ⟨_, hnew, h⟩ := h
    obtain ⟨rfl, rfl⟩ := Prod.mk.inj (Except.ok.inj h)
    refine ⟨⟨rfl, rfl⟩, ⟨rfl, rfl⟩, .inr ⟨rfl, fun other hother => ?_, rfl⟩⟩
    -- No live schedule of the location meets the window.
    have hapart := List.find?_eq_none.mp hnone other hother
    exact ⟨(hnew other hother).1, (hnew other hother).2,
      fun hmeets => hapart (decide_eq_true hmeets)⟩

theorem create_eq_ok {call : CreateCall} {around : Surroundings} {response : ScheduleView}
    (h : service.create tables around call = .ok (response, next)) :
    ∃ prepared, service.prepareCreation call = .ok prepared ∧
      ((next = tables ∧ lookUp service.matchesCreation tables.creations prepared.operationId
          prepared.requestHash = .recorded response) ∨
        ∃ row, Created service call prepared row response tables next) := by
  simp only [SchedulingService.create, bind_eq_ok] at h
  obtain ⟨prepared, hprepared, _, _, _, _, found, hfound, h⟩ := h
  refine ⟨prepared, hprepared, ?_⟩
  cases found with
  | some recorded =>
      obtain ⟨rfl, rfl⟩ := Prod.mk.inj (Except.ok.inj h)
      exact .inl ⟨rfl, replayed_eq_some.mp hfound⟩
  | none =>
      have hfresh := lookUp_eq_fresh.mp (replayed_eq_none hfound)
      simp only at h
      split at h
      · cases h
      · rename_i location _
        obtain ⟨⟨row, schedules⟩, hmade, h⟩ := bind_eq_ok.mp h
        obtain ⟨rfl, rfl⟩ := Prod.mk.inj (Except.ok.inj h)
        obtain ⟨hdraft, hwindow, hschedules⟩ := createRow_eq_ok hmade
        exact .inr ⟨row, hprepared, hfresh, hdraft,
          ⟨hwindow.1, hwindow.2, prepareCreation_window hprepared⟩, hschedules, ⟨_, rfl⟩, rfl, rfl,
          rfl, rfl, rfl⟩

theorem publish_eq_ok {call : PublishCall} {around : PublishSurroundings}
    {response : PublicationResponse} (hkeys : UniqueKeys tables)
    (h : service.publish tables call around = .ok (response, next)) :
    ∃ key, publicationKey call.idempotencyKey = .ok key ∧
      ((next = tables ∧ service.replayPublication tables call key = .ok (some response)) ∨
        ∃ row, Published service call key around.now row response tables next) := by
  simp only [SchedulingService.publish, bind_eq_ok] at h
  obtain ⟨key, hkey, _, _, found, hfound, h⟩ := h
  refine ⟨key, hkey, ?_⟩
  cases found with
  | some recorded =>
      obtain ⟨rfl, rfl⟩ := Prod.mk.inj (Except.ok.inj h)
      exact .inl ⟨rfl, hfound⟩
  | none =>
      have hfresh := lookUp_eq_fresh.mp (replayed_eq_none (mapError_eq_ok.mp hfound))
      simp only [bind_eq_ok, ensure_eq_ok] at h
      obtain ⟨row, hlocked, _, _, costs, _, _, hcontract, newBalance, _, _, _, h⟩ := h
      obtain ⟨rfl, rfl⟩ := Prod.mk.inj (Except.ok.inj h)
      obtain ⟨hrow, hid, hstatus, hdeleted⟩ := lockDraft_eq_ok hlocked
      refine .inr ⟨row, hkey, hfresh, hrow, ⟨hid, hstatus, hdeleted⟩, ?_, ?_,
        ⟨hid.symm, rfl, rfl, rfl⟩, rfl, rfl, rfl, rfl, rfl⟩
      · rw [hcontract]
      · rw [← hid]
        exact publishRow_eq hkeys.schedules hrow hstatus hdeleted around.now

/-! ## Steps -/

/-- What a step does to the tables. -/
inductive ScheduleMove (service : SchedulingService) (tables : ScheduleTables) :
    ScheduleEvent → ScheduleTables → Prop
  | kept (event) : ScheduleMove service tables event tables
  | changed {call around fate prepared row response next} (hfate : fate ≠ .rolledBack)
      (h : Changed service call around prepared row response tables next) :
      ScheduleMove service tables (.mutate call around fate) next
  | created {call around fate prepared row response next} (hfate : fate ≠ .rolledBack)
      (h : Created service call prepared row response tables next) :
      ScheduleMove service tables (.create call around fate) next
  | published {call around fate key row response next} (hfate : fate ≠ .rolledBack)
      (h : Published service call key around.now row response tables next) :
      ScheduleMove service tables (.publish call around fate) next

/-- A transaction leaves the tables, or it commits. -/
theorem settled_tables {Response : Type} {answer : Response → ScheduleAnswer} {fate : Fate}
    {outcome : Except Problem (Response × ScheduleTables)} {Leaves : ScheduleTables → Prop}
    (hkept : Leaves tables)
    (hmade : ∀ response next, outcome = .ok (response, next) → fate ≠ .rolledBack → Leaves next) :
    Leaves (settled tables answer fate outcome).2 := by
  cases outcome with
  | error problem => exact hkept
  | ok made =>
      obtain ⟨response, next⟩ := made
      cases fate with
      | acknowledged => exact hmade response next rfl (by simp)
      | unacknowledged => exact hmade response next rfl (by simp)
      | rolledBack => exact hkept

theorem step_move (hkeys : UniqueKeys tables) (event : ScheduleEvent) :
    ScheduleMove service tables event (service.step tables event).2 := by
  cases event with
  | look call around => exact .kept _
  | mutate call around fate =>
      refine settled_tables (.kept _) fun response next hmade hfate => ?_
      obtain ⟨prepared, _, ⟨rfl, _⟩ | ⟨row, hchanged⟩⟩ := mutate_eq_ok hkeys hmade
      · exact .kept _
      · exact .changed hfate hchanged
  | create call around fate =>
      refine settled_tables (.kept _) fun response next hmade hfate => ?_
      obtain ⟨prepared, _, ⟨rfl, _⟩ | ⟨row, hcreated⟩⟩ := create_eq_ok hmade
      · exact .kept _
      · exact .created hfate hcreated
  | lookPublication call => exact .kept _
  | publish call around fate =>
      refine settled_tables (.kept _) fun response next hmade hfate => ?_
      obtain ⟨key, _, ⟨rfl, _⟩ | ⟨row, hpublished⟩⟩ := publish_eq_ok hkeys hmade
      · exact .kept _
      · exact .published hfate hpublished

theorem Changed.receipts_eq {call : ScheduleCall} {around : Surroundings}
    {prepared : PreparedCall} {row : ScheduleRow} {response : MutationResponse}
    (h : Changed service call around prepared row response tables next) :
    next.receipts = tables.receipts ++ [⟨prepared.keyHash, prepared.requestHash, response⟩] := by
  obtain ⟨changeSetId, hchangeSets⟩ := h.changeSets
  simp only [ScheduleTables.receipts, hchangeSets, List.map_append]
  rfl

/-- The unique indexes hold after a step. -/
theorem UniqueKeys.move (hkeys : UniqueKeys tables) {event : ScheduleEvent}
    (h : ScheduleMove service tables event next) : UniqueKeys next := by
  cases h with
  | kept => exact hkeys
  | @changed call around fate prepared row response _ hfate hchanged =>
      refine ⟨?_, ?_, hchanged.shiftIds, ?_, ?_, ?_⟩
      · rw [hchanged.schedules, keys_replaceRow]
        exact hkeys.schedules
      · rw [hchanged.schedules, map_replaceRow hkeys.schedules hchanged.mem
          (call.command.revise_id row) (call.command.revise_publicId row)]
        exact hkeys.publicIds
      · rw [hchanged.receipts_eq]
        exact nodup_keys_append hkeys.changes hchanged.fresh
      · rw [hchanged.creations]
        exact hkeys.creations
      · rw [hchanged.publications]
        exact hkeys.publications
  | created hfate hcreated =>
      have hschedules : (next.schedules.map (·.id)).Nodup ∧
          (next.schedules.map (·.publicId)).Nodup := by
        rcases hcreated.schedules with ⟨_, hsame⟩ | ⟨_, hnew, hadded⟩
        · rw [hsame]
          exact ⟨hkeys.schedules, hkeys.publicIds⟩
        · rw [hadded]
          exact ⟨nodup_keys_append hkeys.schedules fun other hother => (hnew other hother).1,
            nodup_keys_append hkeys.publicIds fun other hother => (hnew other hother).2.1⟩
      refine ⟨hschedules.1, hschedules.2, ?_, ?_, ?_, ?_⟩
      · rw [hcreated.shifts]
        exact hkeys.shifts
      · rw [ScheduleTables.receipts, hcreated.changeSets]
        exact hkeys.changes
      · rw [hcreated.creations]
        exact nodup_keys_append hkeys.creations hcreated.fresh
      · rw [hcreated.publications]
        exact hkeys.publications
  | @published call around fate key row response _ hfate hpublished =>
      refine ⟨?_, ?_, ?_, ?_, ?_, ?_⟩
      · rw [hpublished.schedules, keys_replaceRow]
        exact hkeys.schedules
      · rw [hpublished.schedules, map_replaceRow hkeys.schedules hpublished.mem
          (show (row.published around.now).id = row.id from rfl) rfl]
        exact hkeys.publicIds
      · rw [hpublished.shifts]
        exact hkeys.shifts
      · rw [ScheduleTables.receipts, hpublished.changeSets]
        exact hkeys.changes
      · rw [hpublished.creations]
        exact hkeys.creations
      · rw [hpublished.publications]
        exact nodup_keys_append hkeys.publications hpublished.fresh

theorem step_uniqueKeys (hkeys : UniqueKeys tables) (event : ScheduleEvent) :
    UniqueKeys (service.step tables event).2 := hkeys.move (step_move hkeys event)

end Answers

end LunchLineup.Scheduling
