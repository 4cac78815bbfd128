import LunchLineup.Scheduling.ChangeSet
import LunchLineup.Scheduling.PlanSafety

/-!
# The shifts that a plan is checked against

`apply` does not load all shifts of the tenant that run elsewhere, only those of the workers
involved and near the window of the schedule.  The planner gives the same answer for both
lists.  Two facts carry this: a worker of the final state is the worker of a saved shift or
one that the request names, `planOperations_keyed`; and a shift of the final state starts in
the schedule and ends within a day, as the windows are checked before the clashes.
-/

namespace LunchLineup.Scheduling

open LunchLineup.Lib LunchLineup.Billing
open LunchLineup.Breaks (User)
open LunchLineup.Payroll (given)

/-- All live shifts of the tenant that the schedule does not have. -/
def allOtherShifts (rows : List ShiftRow) (schedule : LockedSchedule) : List ExternalShift :=
  (rows.filter (·.Outside schedule.id)).filterMap (·.external)

section Loaded

variable {rows : List ShiftRow} {users : List User} {schedule : LockedSchedule}
  {operations : List Operation} {idFactory : Nat → String} {loaded : List ExternalShift}

/-- The rows that are loaded are the live rows of involved workers near the schedule. -/
theorem mem_externalShifts (h : externalShifts rows users schedule operations = .ok loaded)
    {external : ExternalShift} :
    external ∈ loaded ↔ ∃ row ∈ rows,
      row.MayClash schedule (involvedUserIds rows users schedule operations) ∧
        row.external = some external := by
  simp only [externalShifts, bind_eq_ok, ensure_eq_ok] at h
  obtain ⟨_, _, h⟩ := h
  obtain rfl := Except.ok.inj h
  by_cases hnone : (involvedUserIds rows users schedule operations).length > 0
  · simp [hnone, List.mem_filterMap, List.mem_insertionSort, and_assoc]
  · have hempty : involvedUserIds rows users schedule operations = [] :=
      List.length_eq_zero_iff.mp (by omega)
    simp [hempty, ShiftRow.MayClash]

theorem mem_allOtherShifts {external : ExternalShift} :
    external ∈ allOtherShifts rows schedule ↔
      ∃ row ∈ rows, row.Outside schedule.id ∧ row.external = some external := by
  simp [allOtherShifts, List.mem_filterMap, and_assoc]

/-- The columns of a row that the planner sees. -/
theorem ShiftRow.external_eq_some {row : ShiftRow} {external : ExternalShift}
    (h : row.external = some external) : row.userId = some external.userInternalId ∧
      row.startTime = external.startTime ∧ row.endTime = external.endTime := by
  obtain ⟨userId, huser, rfl⟩ := Option.map_eq_some_iff.mp h
  exact ⟨(Option.filter_eq_some_iff.mp huser).1, rfl, rfl⟩

/-- The workers that a plan can assign are involved. -/
theorem involved_of_known {external : List ExternalShift} {userId : String} (hgiven : userId ≠ "")
    (h : KnownWorker (planInput rows users schedule operations idFactory external)
      (some userId)) : userId ∈ involvedUserIds rows users schedule operations := by
  rcases h userId rfl with ⟨saved, hsaved, huser⟩ | ⟨key, user, hget, hid⟩
  · obtain ⟨row, hrow, rfl⟩ := List.mem_map.mp hsaved
    have hgiven : given row.userId = some userId :=
      Option.filter_eq_some_iff.mpr ⟨huser, by simpa using hgiven⟩
    exact List.mem_append_left _ (List.mem_filterMap.mpr ⟨row, hrow, hgiven⟩)
  · have hmem := (Dict.nodup_keys_ofPairs _).2 _ (Dict.mem_of_get? hget)
    obtain ⟨found, hfound, heq⟩ := List.mem_map.mp hmem
    refine List.mem_append_right _ (List.mem_map.mpr ⟨found, hfound, ?_⟩)
    rw [← hid, ← (Prod.mk.inj heq).2]

/-- A shift that clashes with any other shift clashes with one that is loaded. -/
theorem clashes_loaded (h : externalShifts rows users schedule operations = .ok loaded)
    {shift : PlannedShift} {external : ExternalShift}
    (hknown : KnownWorker (planInput rows users schedule operations idFactory loaded)
      shift.userInternalId)
    (hinside : schedule.startDate ≤ shift.startTime ∧ shift.startTime < schedule.endDate ∧
      shift.endTime - shift.startTime ≤ dayMs)
    (hmem : external ∈ allOtherShifts rows schedule) (hclash : shift.ClashesOutside external) :
    external ∈ loaded := by
  obtain ⟨row, hrow, houtside, hexternal⟩ := mem_allOtherShifts.mp hmem
  obtain ⟨huser, hstart, hend⟩ := ShiftRow.external_eq_some hexternal
  obtain ⟨hworker, hbefore, hafter⟩ := hclash
  obtain ⟨hassigned, hgiven⟩ := Option.filter_eq_some_iff.mp hworker
  have hinvolved := involved_of_known (by simpa using hgiven) (hassigned ▸ hknown)
  refine (mem_externalShifts h).mpr ⟨row, hrow, ⟨houtside, ⟨_, huser, hinvolved⟩, ?_, ?_⟩,
    hexternal⟩
  · omega
  · omega

/-- The check of a shift is the same against both lists. -/
theorem checkExternal_loaded (h : externalShifts rows users schedule operations = .ok loaded)
    {shift : PlannedShift} (hassigned : shift.worker.isSome = true)
    (hknown : KnownWorker (planInput rows users schedule operations idFactory loaded)
      shift.userInternalId)
    (hinside : schedule.startDate ≤ shift.startTime ∧ shift.startTime < schedule.endDate ∧
      shift.endTime - shift.startTime ≤ dayMs) :
    checkExternal loaded shift = checkExternal (allOtherShifts rows schedule) shift := by
  have hiff : (∀ external ∈ loaded, ¬ shift.Conflicts external) ↔
      ∀ external ∈ allOtherShifts rows schedule, ¬ shift.Conflicts external := by
    simp only [conflicts_iff hassigned]
    constructor
    · intro hnone external hmem hclash
      exact hnone external (clashes_loaded h hknown hinside hmem hclash) hclash
    · intro hnone external hmem
      obtain ⟨row, hrow, hmay, hexternal⟩ := (mem_externalShifts h).mp hmem
      exact hnone external (mem_allOtherShifts.mpr ⟨row, hrow, hmay.1, hexternal⟩)
  unfold checkExternal ensure
  simp only [hiff]

/-- Validation against all other shifts is validation against the loaded ones. -/
theorem validateFinal_loaded (locale : Collation)
    (h : externalShifts rows users schedule operations = .ok loaded)
    {shifts : List PlannedShift}
    (hknown : ∀ shift ∈ shifts,
      KnownWorker (planInput rows users schedule operations idFactory loaded)
        shift.userInternalId) :
    validateFinal locale (planInput rows users schedule operations idFactory loaded) shifts =
      validateFinal locale
        (planInput rows users schedule operations idFactory (allOtherShifts rows schedule))
        shifts := by
  unfold validateFinal
  cases hwindow : checkAll shifts (validateWindow schedule.startDate schedule.endDate) with
  | error problem => simp [planInput, hwindow]
  | ok u =>
      have hinside := fun shift hshift =>
        (validateWindow_eq_ok.mp (checkAll_eq_ok.mp hwindow shift hshift)).2
      have hexternal : checkAll (assignedShifts locale shifts) (checkExternal loaded) =
          checkAll (assignedShifts locale shifts)
            (checkExternal (allOtherShifts rows schedule)) := by
        refine checkAll_congr fun shift hshift => ?_
        obtain ⟨hmem, hassigned⟩ := mem_assignedShifts.mp hshift
        exact checkExternal_loaded h hassigned (hknown shift hmem) (hinside shift hmem)
      simp only [planInput, hwindow, hexternal]

end Loaded

/-- The loop over the operations does not look at other shifts. -/
theorem planOperations_external (input : PlanInput) (external : List ExternalShift)
    (st : PlanState) (index : Nat) (operations : List Operation) :
    planOperations { input with externalShifts := external } st index operations =
      planOperations input st index operations := by
  induction operations generalizing st index with
  | nil => rfl
  | cons operation rest ih =>
      have hstep : planOperation { input with externalShifts := external } st index operation =
          planOperation input st index operation := by
        cases operation with
        | create clientId userId startTime endTime role => rfl
        | update shiftId userId startTime endTime role => rfl
        | delete shiftId => rfl
      simp only [planOperations, hstep, ih]

/-- The planner gives the same answer for the loaded shifts as for all other shifts. -/
theorem loaded_shifts_suffice (locale : Collation) (rows : List ShiftRow) (users : List User)
    (schedule : LockedSchedule) (operations : List Operation) (idFactory : Nat → String)
    {loaded : List ExternalShift}
    (h : externalShifts rows users schedule operations = .ok loaded) :
    planScheduleChangeSet locale (planInput rows users schedule operations idFactory loaded) =
      planScheduleChangeSet locale
        (planInput rows users schedule operations idFactory (allOtherShifts rows schedule)) := by
  obtain ⟨near, hnear⟩ : ∃ near,
      near = planInput rows users schedule operations idFactory loaded := ⟨_, rfl⟩
  obtain ⟨all, hall⟩ : ∃ all, all =
      planInput rows users schedule operations idFactory (allOtherShifts rows schedule) := ⟨_, rfl⟩
  rw [← hnear, ← hall]
  have hrun : planOperations all all.initial 0 all.operations =
      planOperations near near.initial 0 near.operations := by
    rw [hnear, hall]
    exact planOperations_external
      (planInput rows users schedule operations idFactory loaded) _ _ _ _
  unfold planScheduleChangeSet
  rw [hrun]
  cases hplanned : planOperations near near.initial 0 near.operations with
  | error problem => rfl
  | ok st =>
      have hkeyed := planOperations_keyed near.initial_keyed hplanned
      have hknown : ∀ shift ∈ st.working.map Prod.snd, KnownWorker near shift.userInternalId := by
        intro shift hshift
        obtain ⟨entry, hentry, rfl⟩ := List.mem_map.mp hshift
        exact hkeyed.workers entry hentry
      have hvalid : validateFinal locale near (st.working.map Prod.snd) =
          validateFinal locale all (st.working.map Prod.snd) := by
        rw [hnear] at hknown
        rw [hnear, hall]
        exact validateFinal_loaded locale h hknown
      simp only [ok_bind, hvalid]

namespace Sample

/-- Ana's saved shift, which a request gives to Ben. -/
def rows : List ShiftRow := [
  ⟨"row-1", "morning", "kitchen", some "week", some "ana", hour 8, hour 12, none, none, []⟩,
  ⟨"row-2", "elsewhere", "bar", none, some "ben", hour 22, hour 26, none, none, []⟩,
  ⟨"row-3", "next-week", "bar", none, some "ben", hour 60, hour 64, none, none, []⟩]

def users : List User := [
  ⟨"ana", "ana-public", "Ana", .staff, false, false⟩,
  ⟨"ben", "ben-public", "Ben", .staff, false, false⟩]

def week : LockedSchedule := ⟨"week", "kitchen", hour 0, hour 24⟩

/-- The shift of the morning for Ben. -/
def handedOver : List Operation := [.update "morning" (some (some "ben-public")) none none none]

end Sample

theorem handed_over_suffices :
    planScheduleChangeSet Sample.locale
        (planInput Sample.rows Sample.users Sample.week Sample.handedOver toString
          [⟨"row-2", "ben", Sample.hour 22, Sample.hour 26⟩]) =
      planScheduleChangeSet Sample.locale
        (planInput Sample.rows Sample.users Sample.week Sample.handedOver toString
          (allOtherShifts Sample.rows Sample.week)) :=
  loaded_shifts_suffice Sample.locale Sample.rows Sample.users Sample.week Sample.handedOver
    toString (by decide +kernel)

end LunchLineup.Scheduling
