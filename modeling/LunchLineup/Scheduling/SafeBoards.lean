import LunchLineup.Scheduling.MutationRuns

/-!
# Boards that stay safe

Two invariants of the tables.  `SafeCalendar` is about schedules and demand windows: a
schedule runs for some time, of at most 31 days; two schedules of a location do not run at
the same time; a demand window lies in its schedule.  Every run keeps it.

`SafeShifts` of the planner is about one final state, before it is written.  `SafeRoster` is
about the table: no worker has two shifts at a time, in one schedule or in two, and the
shifts of a schedule lie in it.  A change set keeps it, as the rows of its schedule read as
the final state, no other row changes, and the planner has seen all other shifts of the
workers that it assigns.  That the random ids of new shifts are new is needed for it.
-/

namespace LunchLineup.Scheduling

open LunchLineup.Lib
open LunchLineup.Breaks (User)
open LunchLineup.Payroll (given)

/-! ## Schedules and demand windows -/

/-- Two schedules of one location that run at the same time. -/
def ScheduleFrame.Meets (first second : ScheduleFrame) : Prop :=
  first.locationId = second.locationId ∧ first.deleted = false ∧ second.deleted = false ∧
    Overlap first.startDate first.endDate second.startDate second.endDate

/-- The window lies in the schedule. -/
structure DemandWindowRow.Inside (window : DemandWindowRow) (frame : ScheduleFrame) : Prop where
  location : window.locationId = frame.locationId
  start : frame.startDate ≤ window.startTime ∧ window.startTime < frame.endDate
  length : window.startTime < window.endTime ∧ window.endTime - window.startTime ≤ dayMs
  staff : 0 < window.requiredStaff

structure SafeCalendar (tables : ScheduleTables) : Prop where
  lengths : ∀ row ∈ tables.schedules, row.startDate < row.endDate ∧
    row.endDate - row.startDate ≤ maxScheduleWindowMs
  apart : ∀ first ∈ tables.schedules, ∀ second ∈ tables.schedules, first.id ≠ second.id →
    ¬ first.frame.Meets second.frame
  windows : ∀ window ∈ tables.windows, ∃ row ∈ tables.schedules, row.id = window.scheduleId ∧
    window.Inside row.frame

section Calendar

variable {service : SchedulingService} {tables next : ScheduleTables} {event : ScheduleEvent}

/-- A row with the id and the frame of another in its place. -/
theorem frames_replaced {schedules : List ScheduleRow} {row new : ScheduleRow}
    (hids : (schedules.map (·.id)).Nodup) (hrow : row ∈ schedules) (hid : new.id = row.id)
    (hframe : new.frame = row.frame) :
    (replaceRow (·.id) schedules new).map (fun row => (row.id, row.frame)) =
      schedules.map fun row => (row.id, row.frame) :=
  map_replaceRow hids hrow hid (by rw [hid, hframe])

theorem ScheduleCommand.revise_frame (command : ScheduleCommand) (row : ScheduleRow) :
    (command.revise row).frame = row.frame := by
  cases command with
  | changeSet body => rfl
  | replaceDemand body => rfl
  | reopen => rfl

/-- A schedule that a step adds. -/
structure AddedSchedule (tables : ScheduleTables) (row : ScheduleRow) : Prop where
  fresh : ∀ other ∈ tables.schedules, other.id ≠ row.id
  apart : ∀ other ∈ tables.schedules, ¬ other.Meets row.locationId row.startDate row.endDate
  length : row.startDate < row.endDate ∧ row.endDate - row.startDate ≤ maxScheduleWindowMs

/-- A step leaves the ids and the frames of the schedules, or adds a schedule. -/
theorem ScheduleMove.frames (hkeys : UniqueKeys tables)
    (h : ScheduleMove service tables event next) :
    next.schedules.map (fun row => (row.id, row.frame)) =
        tables.schedules.map (fun row => (row.id, row.frame)) ∨
      ∃ row, AddedSchedule tables row ∧ next.schedules = tables.schedules ++ [row] ∧
        next.windows = tables.windows ∧ next.shifts = tables.shifts := by
  cases h with
  | kept => exact .inl rfl
  | @changed call around fate prepared row response _ hfate h =>
      rw [h.schedules]
      exact .inl (frames_replaced hkeys.schedules h.mem (call.command.revise_id row)
        (call.command.revise_frame row))
  | @created call around fate prepared row response _ hfate h =>
      rcases h.schedules with ⟨_, hsame⟩ | ⟨_, hnew, hadded⟩
      · exact .inl (by rw [hsame])
      · obtain ⟨hstart, hend, hlength⟩ := h.window
        refine .inr ⟨row, ⟨fun other hother => (hnew other hother).1,
          fun other hother => (hnew other hother).2.2, ?_⟩, hadded, h.windows, h.shifts⟩
        rw [hstart, hend]
        exact hlength
  | @published call around fate key row response _ hfate h =>
      rw [h.schedules]
      exact .inl (frames_replaced hkeys.schedules h.mem
        (show (row.published around.now).id = row.id from rfl) rfl)

/-- A row of one table has its id and frame in the other. -/
theorem exists_of_frames {schedules others : List ScheduleRow}
    (h : schedules.map (fun row => (row.id, row.frame)) =
      others.map fun row => (row.id, row.frame)) {row : ScheduleRow} (hrow : row ∈ schedules) :
    ∃ other ∈ others, other.id = row.id ∧ other.frame = row.frame := by
  have hmem : (row.id, row.frame) ∈ others.map fun row => (row.id, row.frame) := by
    rw [← h]
    exact List.mem_map_of_mem hrow
  obtain ⟨other, hother, heq⟩ := List.mem_map.mp hmem
  exact ⟨other, hother, (Prod.mk.inj heq).1, (Prod.mk.inj heq).2⟩

theorem newWindow_inside {around : Surroundings} {row : ScheduleRow} {item : WindowRequest × Nat}
    {window : DemandWindowRow} (h : service.newWindow around row item = .ok window) :
    window.scheduleId = row.id ∧ window.locationId = row.locationId ∧
      (row.startDate ≤ window.startTime ∧ window.startTime < row.endDate) ∧
        window.startTime < window.endTime ∧ window.endTime - window.startTime ≤ dayMs := by
  simp only [SchedulingService.newWindow, bind_eq_ok, ensure_eq_ok] at h
  obtain ⟨start, _, finish, _, _, hordered, _, hinside, h⟩ := h
  obtain rfl := Except.ok.inj h
  exact ⟨rfl, rfl, ⟨hinside.1, hinside.2.1⟩, hordered, hinside.2.2⟩

/-- The demand windows after a step are old ones, or lie in the schedule that they are of. -/
theorem ScheduleMove.windows (h : ScheduleMove service tables event next)
    {window : DemandWindowRow} (hwindow : window ∈ next.windows) :
    window ∈ tables.windows ∨
      ∃ row ∈ tables.schedules, row.id = window.scheduleId ∧ window.Inside row.frame := by
  cases h with
  | kept => exact .inl hwindow
  | @changed call around fate prepared row response _ hfate h =>
      rcases h.windows with hsame | ⟨items, new, hnew, hinserted⟩
      · exact .inl (hsame ▸ hwindow)
      · simp only [insertWindows, bind_eq_ok, ensure_eq_ok] at hinserted
        obtain ⟨_, ⟨_, _, hvalid⟩, hinserted⟩ := hinserted
        rw [← Except.ok.inj hinserted] at hwindow
        rcases List.mem_append.mp hwindow with hold | hmem
        · exact .inl (List.mem_filter.mp hold).1
        · obtain ⟨item, _, hitem⟩ := exists_input_of_mapM_ok hnew hmem
          obtain ⟨hid, hlocation, hstart, hlength⟩ := newWindow_inside hitem
          -- The windows are checked when they are inserted.
          exact .inr ⟨row, h.mem, hid.symm, hlocation, hstart, hlength, (hvalid window hmem).1⟩
  | created hfate h => exact .inl (h.windows ▸ hwindow)
  | published hfate h => exact .inl (h.windows ▸ hwindow)

theorem SafeCalendar.move (hsafe : SafeCalendar tables) (hkeys : UniqueKeys tables)
    (h : ScheduleMove service tables event next) : SafeCalendar next := by
  -- every window, old or new, lies in a schedule that was there before
  have hwindows : ∀ window ∈ next.windows, ∃ row ∈ tables.schedules,
      row.id = window.scheduleId ∧ window.Inside row.frame := by
    intro window hwindow
    rcases h.windows hwindow with hold | hnew
    · exact hsafe.windows window hold
    · exact hnew
  rcases h.frames hkeys with hframes | ⟨row, hadded, hschedules, _, _⟩
  · refine ⟨?_, ?_, ?_⟩
    · intro row hrow
      obtain ⟨old, hold, _, hframe⟩ := exists_of_frames hframes hrow
      have hlength := hsafe.lengths old hold
      have hstart : old.startDate = row.startDate := congrArg ScheduleFrame.startDate hframe
      have hend : old.endDate = row.endDate := congrArg ScheduleFrame.endDate hframe
      rwa [hstart, hend] at hlength
    · intro first hfirst second hsecond hne
      obtain ⟨old, hold, hid, hframe⟩ := exists_of_frames hframes hfirst
      obtain ⟨old', hold', hid', hframe'⟩ := exists_of_frames hframes hsecond
      have hapart := hsafe.apart old hold old' hold' (by rwa [hid, hid'])
      rwa [hframe, hframe'] at hapart
    · intro window hwindow
      obtain ⟨row, hrow, hid, hinside⟩ := hwindows window hwindow
      obtain ⟨kept, hkept, hsame, hframe⟩ := exists_of_frames hframes.symm hrow
      exact ⟨kept, hkept, hsame.trans hid, hframe.symm ▸ hinside⟩
  · -- A schedule is created only where no live one of its location meets it.
    have hmem : ∀ other ∈ next.schedules, other ∈ tables.schedules ∨ other = row := by
      intro other hother
      rw [hschedules] at hother
      exact (List.mem_append.mp hother).imp id List.mem_singleton.mp
    have hmeets : ∀ other ∈ tables.schedules, ¬ other.frame.Meets row.frame := by
      rintro other hother ⟨hlocation, hlive, _, hoverlap⟩
      exact hadded.apart other hother ⟨hlocation, hlive, hoverlap⟩
    refine ⟨?_, ?_, ?_⟩
    · intro other hother
      rcases hmem other hother with hold | rfl
      · exact hsafe.lengths other hold
      · exact hadded.length
    · intro first hfirst second hsecond hne
      rcases hmem first hfirst with hold | rfl
      · rcases hmem second hsecond with hold' | rfl
        · exact hsafe.apart first hold second hold' hne
        · exact hmeets first hold
      · rcases hmem second hsecond with hold' | rfl
        · rintro ⟨hlocation, hlive, hlive', hstart, hend⟩
          exact hmeets second hold' ⟨hlocation.symm, hlive', hlive, hend, hstart⟩
        · exact absurd rfl hne
    · intro window hwindow
      obtain ⟨row', hrow', hid, hinside⟩ := hwindows window hwindow
      refine ⟨row', ?_, hid, hinside⟩
      rw [hschedules]
      exact List.mem_append_left _ hrow'

/-- In every run the schedules of a location stay apart, and demand windows in their
schedules. -/
theorem calendar_stays_safe (service : SchedulingService) {tables : ScheduleTables}
    (hkeys : UniqueKeys tables) (hsafe : SafeCalendar tables) (events : List ScheduleEvent) :
    SafeCalendar (final service.step tables events) :=
  (invariant_final (fun tables => UniqueKeys tables ∧ SafeCalendar tables)
    (fun _ event h => ⟨step_uniqueKeys h.1 event, h.2.move h.1 (step_move h.1 event)⟩)
    ⟨hkeys, hsafe⟩ events).2

end Calendar

/-! ## Shifts -/

/-- Two live shifts that one worker has at one time. -/
def ShiftRow.DoubleBooks (first second : ShiftRow) : Prop :=
  first.deletedAt = none ∧ second.deletedAt = none ∧ (given first.userId).isSome = true ∧
    first.userId = second.userId ∧
      Overlap first.startTime first.endTime second.startTime second.endTime

/-- The shift lies in the schedule. -/
def ShiftRow.Inside (row : ShiftRow) (frame : ScheduleFrame) : Prop :=
  row.startTime < row.endTime ∧ frame.startDate ≤ row.startTime ∧
    row.startTime < frame.endDate ∧ row.endTime - row.startTime ≤ dayMs

structure SafeRoster (tables : ScheduleTables) : Prop where
  indexed : Indexed tables.shifts
  apart : ∀ first ∈ tables.shifts, ∀ second ∈ tables.shifts, first.id ≠ second.id →
    ¬ first.DoubleBooks second
  inside : ∀ row ∈ tables.shifts, ∀ scheduleId ∈ row.scheduleId,
    ∃ schedule ∈ tables.schedules, schedule.id = scheduleId ∧
      (row.deletedAt = none → row.Inside schedule.frame)

theorem ShiftRow.DoubleBooks.symm {first second : ShiftRow} (h : first.DoubleBooks second) :
    second.DoubleBooks first := by
  obtain ⟨hlive, hlive', hgiven, huser, hstart, hend⟩ := h
  exact ⟨hlive', hlive, huser ▸ hgiven, huser.symm, hend, hstart⟩

section Plan

variable {locale : Collation} {rows saved : List ShiftRow} {users : List User}
  {schedule : LockedSchedule} {operations : List Operation} {idFactory newIds : Nat → String}
  {deletedAt : Int} {plan : ChangeSetPlan} {first second row : ShiftRow}

/-- The planner has seen all other shifts that its own could clash with. -/
theorem SafeShifts.clear_of_others {loaded : List ExternalShift} {st : PlanState}
    (hloaded : externalShifts rows users schedule operations = .ok loaded)
    (hkeyed : st.Keyed (planInput rows users schedule operations idFactory loaded))
    (hsafe : SafeShifts (planInput rows users schedule operations idFactory loaded)
      (st.working.map Prod.snd)) {shift : PlannedShift}
    (hshift : shift ∈ st.working.map Prod.snd) {external : ExternalShift}
    (hexternal : external ∈ allOtherShifts rows schedule) : ¬ shift.ClashesOutside external := by
  intro hclash
  obtain ⟨entry, hentry, rfl⟩ := List.mem_map.mp hshift
  have hmem : external ∈ loaded := clashes_loaded hloaded (hkeyed.workers entry hentry)
    (hsafe.inside _ hshift) hexternal hclash
  exact hsafe.outside _ hshift external hmem hclash

/-- A plan that was made of the table, and its execution. -/
structure AppliedPlan (rows saved : List ShiftRow) (users : List User) (schedule : LockedSchedule)
    (operations : List Operation) (idFactory : Nat → String) (shifts : List PlannedShift) :
    Prop where
  indexed : Indexed saved
  others : otherRows saved schedule.id = otherRows rows schedule.id
  readings : ∀ row ∈ saved, row.SavedIn schedule.id → ∃ shift ∈ shifts,
    shift.publicId = row.publicId ∧ row.content users = shift.content
  ordered : ∀ shift ∈ shifts, shift.startTime < shift.endTime ∧
    schedule.startDate ≤ shift.startTime ∧ shift.startTime < schedule.endDate ∧
      shift.endTime - shift.startTime ≤ dayMs
  apart : shifts.Pairwise fun left right => ¬ left.Collides right
  clear : ∀ shift ∈ shifts, ∀ external ∈ allOtherShifts rows schedule,
    ¬ shift.ClashesOutside external

theorem appliedPlan_of_run (hindexed : Indexed rows) (hnew : NewIds rows idFactory newIds)
    (hplan : planSaved locale rows users schedule operations idFactory = .ok plan)
    (happlied : applyPlan schedule deletedAt newIds rows plan = .ok saved) :
    AppliedPlan rows saved users schedule operations idFactory plan.finalShifts := by
  simp only [planSaved, bind_eq_ok] at hplan
  obtain ⟨_, _, loaded, hloaded, hplan⟩ := hplan
  obtain ⟨st, hrun, _, hsafe, rfl⟩ := planScheduleChangeSet_eq_ok.mp hplan
  have h : PlannedRun rows (planInput rows users schedule operations idFactory loaded) newIds st :=
    ⟨hindexed, hnew, hrun, hsafe⟩
  have hwithin := applyMutations_within hindexed.ids happlied
  rw [h.applyPlan_eq] at happlied
  obtain rfl := Except.ok.inj happlied
  refine ⟨h.appliedIndexed, hwithin.others, ?_, ?_, hsafe.apart, ?_⟩
  · intro row hrow hsaved
    obtain ⟨shift, hget, hcontent⟩ := h.savedShift_of_row hrow hsaved
    have hentry := Dict.mem_of_get? hget
    exact ⟨shift, List.mem_map.mpr ⟨_, hentry, rfl⟩, h.keyed.ids _ hentry, hcontent⟩
  · exact fun shift hshift => ⟨hsafe.ordered shift hshift, hsafe.inside shift hshift⟩
  · exact fun shift hshift external hexternal =>
      hsafe.clear_of_others hloaded h.keyed hshift hexternal

namespace AppliedPlan

variable {shifts : List PlannedShift}
  (h : AppliedPlan rows saved users schedule operations idFactory shifts)

include h

/-- A row that the schedule does not have now was there before. -/
theorem mem_before (hrow : row ∈ saved) (hother : row.scheduleId ≠ some schedule.id) :
    row ∈ rows := by
  have hmem : row ∈ otherRows saved schedule.id :=
    List.mem_filter.mpr ⟨hrow, by simpa using hother⟩
  rw [h.others] at hmem
  exact (List.mem_filter.mp hmem).1

/-- The columns of a reading. -/
theorem reading (hrow : row ∈ saved) (hsaved : row.SavedIn schedule.id) :
    ∃ shift ∈ shifts, shift.publicId = row.publicId ∧ shift.userInternalId = row.userId ∧
      shift.startTime = row.startTime ∧ shift.endTime = row.endTime := by
  obtain ⟨shift, hshift, hpublicId, hcontent⟩ := h.readings row hrow hsaved
  simp only [ShiftRow.content, PlannedShift.content, plannedShift, ShiftContent.mk.injEq] at hcontent
  exact ⟨shift, hshift, hpublicId, hcontent.2.1.symm, hcontent.2.2.1.symm, hcontent.2.2.2.1.symm⟩

/-- Two shifts of the schedule are apart: they are in the final state. -/
theorem apart_inside (hfirst : first ∈ saved) (hsecond : second ∈ saved) (hne : first.id ≠ second.id)
    (hinside : first.scheduleId = some schedule.id)
    (hinside' : second.scheduleId = some schedule.id) : ¬ first.DoubleBooks second := by
  rintro ⟨hlive, hlive', hgiven, huser, hoverlap⟩
  -- Both are read back from the final state, which keeps its shifts apart.
  obtain ⟨left, hleft, hid, hworker, hstart, hend⟩ := h.reading hfirst ⟨hinside, hlive⟩
  obtain ⟨right, hright, hid', hworker', hstart', hend'⟩ := h.reading hsecond ⟨hinside', hlive'⟩
  have hdistinct : left ≠ right := by
    rintro rfl
    exact hne (congrArg ShiftRow.id (eq_of_key h.indexed.publicIds hfirst hsecond
      (hid.symm.trans hid')))
  have hsymm : Std.Symm fun left right : PlannedShift => ¬ left.Collides right := by
    constructor
    rintro left right hcollides ⟨hassigned, hsame, hbefore, hafter⟩
    exact hcollides ⟨hsame ▸ hassigned, hsame.symm, hafter, hbefore⟩
  refine h.apart.forall hleft hright hdistinct ⟨?_, ?_, ?_⟩
  · rw [PlannedShift.worker, hworker]
    exact hgiven
  · rw [PlannedShift.worker, PlannedShift.worker, hworker, hworker', huser]
  · show Overlap left.startTime left.endTime right.startTime right.endTime
    rw [hstart, hend, hstart', hend']
    exact hoverlap

/-- A shift of the schedule and one outside are apart: the planner saw the other. -/
theorem apart_outside (hfirst : first ∈ saved) (hsecond : second ∈ saved)
    (hinside : first.scheduleId = some schedule.id)
    (houtside : second.scheduleId ≠ some schedule.id) : ¬ first.DoubleBooks second := by
  rintro ⟨hlive, hlive', hgiven, huser, hoverlap⟩
  obtain ⟨shift, hshift, _, hworker, hstart, hend⟩ := h.reading hfirst ⟨hinside, hlive⟩
  obtain ⟨userId, hgiven⟩ := Option.isSome_iff_exists.mp hgiven
  -- The other shift was there before, so it is among those that the planner was given.
  have hexternal : (⟨second.id, userId, second.startTime, second.endTime⟩ : ExternalShift) ∈
      allOtherShifts rows schedule := by
    refine mem_allOtherShifts.mpr ⟨second, h.mem_before hsecond houtside, ⟨.inr houtside, hlive'⟩,
      ?_⟩
    rw [ShiftRow.external, ← huser, hgiven]
    rfl
  refine h.clear shift hshift _ hexternal ⟨?_, ?_⟩
  · rw [PlannedShift.worker, hworker]
    exact hgiven
  · rw [hstart, hend]
    exact hoverlap

end AppliedPlan

end Plan

section Roster

variable {service : SchedulingService} {tables next : ScheduleTables} {event : ScheduleEvent}

/-- The ids that a change set draws are new. -/
def DrawsNewIds (tables : ScheduleTables) : ScheduleEvent → Prop
  | .mutate _ around _ => NewIds tables.shifts around.publicIds around.rowIds
  | .look _ _ => True
  | .create _ _ _ => True
  | .lookPublication _ => True
  | .publish _ _ _ => True

/-- The schedules of the shifts are still there. -/
theorem SafeRoster.inside_kept (hsafe : SafeRoster tables) (hkeys : UniqueKeys tables)
    (h : ScheduleMove service tables event next) {row : ShiftRow} (hrow : row ∈ tables.shifts)
    {scheduleId : String} (hid : scheduleId ∈ row.scheduleId) :
    ∃ schedule ∈ next.schedules, schedule.id = scheduleId ∧
      (row.deletedAt = none → row.Inside schedule.frame) := by
  obtain ⟨schedule, hschedule, hsame, hinside⟩ := hsafe.inside row hrow scheduleId hid
  rcases h.frames hkeys with hframes | ⟨added, _, hschedules, _, _⟩
  · obtain ⟨kept, hkept, hkeptId, hframe⟩ := exists_of_frames hframes.symm hschedule
    exact ⟨kept, hkept, hkeptId.trans hsame, hframe.symm ▸ hinside⟩
  · refine ⟨schedule, ?_, hsame, hinside⟩
    rw [hschedules]
    exact List.mem_append_left _ hschedule

/-- A step that leaves the shifts. -/
theorem SafeRoster.of_shifts_eq (hsafe : SafeRoster tables) (hkeys : UniqueKeys tables)
    (h : ScheduleMove service tables event next) (hshifts : next.shifts = tables.shifts) :
    SafeRoster next := by
  refine ⟨hshifts ▸ hsafe.indexed, hshifts ▸ hsafe.apart, fun row hrow scheduleId hid => ?_⟩
  exact hsafe.inside_kept hkeys h (hshifts ▸ hrow) hid

theorem SafeRoster.move (hsafe : SafeRoster tables) (hkeys : UniqueKeys tables)
    (hdraws : DrawsNewIds tables event) (hmove : ScheduleMove service tables event next) :
    SafeRoster next := by
  have hcases := hmove
  cases hcases with
  | kept => exact hsafe
  | @changed call around fate prepared row response _ hfate h =>
      rcases h.shifts with hsame | ⟨operations, plan, hplan, happlied⟩
      · exact hsafe.of_shifts_eq hkeys hmove hsame
      · have hplanned := appliedPlan_of_run hsafe.indexed hdraws hplan happlied
        refine ⟨hplanned.indexed, ?_, ?_⟩
        · intro first hfirst second hsecond hne
          -- Which of the two the schedule has decides what keeps them apart.
          by_cases hinside : first.scheduleId = some row.locked.id
          · by_cases hinside' : second.scheduleId = some row.locked.id
            · exact hplanned.apart_inside hfirst hsecond hne hinside hinside'
            · exact hplanned.apart_outside hfirst hsecond hinside hinside'
          · by_cases hinside' : second.scheduleId = some row.locked.id
            · intro hbooks
              exact hplanned.apart_outside hsecond hfirst hinside' hinside hbooks.symm
            · exact hsafe.apart first (hplanned.mem_before hfirst hinside) second
                (hplanned.mem_before hsecond hinside') hne
        · intro shift hshift scheduleId hid
          by_cases hinside : shift.scheduleId = some row.locked.id
          · have hsame : row.id = scheduleId := Option.some.inj (hinside.symm.trans hid)
            -- The revision keeps the frame that the plan was checked against.
            refine ⟨call.command.revise row, ?_, ?_, fun hlive => ?_⟩
            · rw [h.schedules]
              exact new_mem_replaceRow h.mem (call.command.revise_id row).symm
            · rw [call.command.revise_id, hsame]
            · obtain ⟨found, hfound, _, _, hstart, hend⟩ := hplanned.reading hshift ⟨hinside, hlive⟩
              have hwindow := hplanned.ordered found hfound
              rw [hstart, hend] at hwindow
              rw [call.command.revise_frame]
              exact hwindow
          · exact hsafe.inside_kept hkeys hmove (hplanned.mem_before hshift hinside) hid
  | created hfate h => exact hsafe.of_shifts_eq hkeys hmove h.shifts
  | published hfate h => exact hsafe.of_shifts_eq hkeys hmove h.shifts

/-- In every run no worker has two shifts at a time, and the shifts of a schedule lie in it. -/
theorem roster_stays_safe (service : SchedulingService) {tables : ScheduleTables}
    (hkeys : UniqueKeys tables) (hsafe : SafeRoster tables) {events : List ScheduleEvent}
    (hdraws : ∀ t ∈ trace service.step tables events, DrawsNewIds t.before t.request) :
    SafeRoster (final service.step tables events) :=
  (invariant_final_of_trace (fun tables => UniqueKeys tables ∧ SafeRoster tables)
    (fun _ event h hdraws => ⟨step_uniqueKeys h.1 event,
      h.2.move h.1 hdraws (step_move h.1 event)⟩)
    ⟨hkeys, hsafe⟩ hdraws).2

end Roster

/-! ## A run

The change set of 2026-07-06: Ana's morning moves, her evening is taken away, Ben gets a
shift. -/

namespace Sample

theorem draft_calendar : SafeCalendar (tablesAt .draft) := by
  constructor
  · intro row hrow
    obtain rfl := List.mem_singleton.mp hrow
    decide
  · intro first hfirst second hsecond hne
    obtain rfl := List.mem_singleton.mp hfirst
    obtain rfl := List.mem_singleton.mp hsecond
    exact absurd rfl hne
  · exact fun window hwindow => by cases hwindow

theorem mem_saved {row : ShiftRow} (h : row ∈ saved) : row = saved[0] ∨ row = saved[1] := by
  simpa [saved] using h

theorem draft_roster : SafeRoster (tablesAt .draft) := by
  have hpair : ∀ row ∈ (tablesAt .draft).shifts, row = saved[0] ∨ row = saved[1] :=
    fun _ hrow => mem_saved hrow
  constructor
  · exact ⟨by decide +kernel, by decide +kernel, by decide +kernel⟩
  · intro first hfirst second hsecond hne
    rcases hpair first hfirst with rfl | rfl
    · rcases hpair second hsecond with rfl | rfl
      · exact absurd rfl hne
      · rintro ⟨_, _, _, _, hstart, hend⟩
        exact absurd hend (by decide)
    · rcases hpair second hsecond with rfl | rfl
      · rintro ⟨_, _, _, _, hstart, hend⟩
        exact absurd hstart (by decide)
      · exact absurd rfl hne
  · intro row hrow scheduleId hid
    refine ⟨_, List.mem_singleton_self _, ?_, fun _ => ?_⟩
    · rcases hpair row hrow with rfl | rfl
      · exact Option.some.inj hid
      · exact Option.some.inj hid
    · rcases hpair row hrow with rfl | rfl
      · exact ⟨by decide, by decide, by decide, by decide⟩
      · exact ⟨by decide, by decide, by decide, by decide⟩

end Sample

theorem changed_week_calendar : SafeCalendar (final Sample.scheduling.step
    (Sample.tablesAt .draft) [.mutate Sample.changing Sample.around .acknowledged]) :=
  calendar_stays_safe Sample.scheduling (Sample.keysAt .draft) Sample.draft_calendar _

theorem changed_week_roster : SafeRoster (final Sample.scheduling.step
    (Sample.tablesAt .draft) [.mutate Sample.changing Sample.around .acknowledged]) := by
  refine roster_stays_safe Sample.scheduling (Sample.keysAt .draft) Sample.draft_roster ?_
  intro t ht
  obtain rfl := List.mem_singleton.mp ht
  exact Sample.newIds

end LunchLineup.Scheduling
