import LunchLineup.Scheduling.Execution
import LunchLineup.Scheduling.ExternalShifts

/-!
# The saved schedule after a plan

The planner works in the order of the request on a dictionary; the service deletes, then
updates, then creates, one row at a time, and an update that changes nothing is not among
the mutations at all.  Both come to the same shifts, since the mutations of a plan are about
different shifts: `Tracks` says what the dictionary has for each of them, `finalRow` what the
table has, and `savedShift_of_row` and `row_of_savedShift` compare the two.
-/

namespace LunchLineup.Scheduling

open LunchLineup.Lib LunchLineup.Billing
open LunchLineup.Breaks (User)
open LunchLineup.Payroll (given)

/-! ## What is compared -/

/-- A shift without the ids of its row and its worker's public id. -/
structure ShiftContent where
  publicId : String
  userInternalId : Option String
  startTime : Int
  endTime : Int
  role : Option String
  breaks : List PlannedBreak
  deriving DecidableEq

def PlannedShift.content (shift : PlannedShift) : ShiftContent where
  publicId := shift.publicId
  userInternalId := shift.userInternalId
  startTime := shift.startTime
  endTime := shift.endTime
  role := shift.role
  breaks := shift.breaks

/-- The content of a row, read as `apply` reads it. -/
def ShiftRow.content (users : List User) (row : ShiftRow) : ShiftContent :=
  (plannedShift users row).content

theorem SameContent.content_eq {before after : PlannedShift} (h : SameContent before after) :
    after.content = before.content := by
  simp only [PlannedShift.content, h.publicId, h.userInternalId, h.startTime, h.endTime, h.role,
    h.breaks]

/-- An update moves the breaks by as much as the shift. -/
theorem Updated.breaks_eq {before after : PlannedShift} (h : Updated before after) :
    after.breaks = before.breaks.map (·.moved (after.startTime - before.startTime)) := by
  have hmoved : List.Forall₂ (fun old new => new = old.moved (after.startTime - before.startTime))
      before.breaks after.breaks := by
    refine h.offsets.imp ?_
    rintro old new ⟨hid, hstart, hend⟩
    cases new
    simp only [PlannedBreak.moved, PlannedBreak.mk.injEq] at *
    exact ⟨hid, by omega, by omega⟩
  rw [← List.forall₂_eq_eq_eq, List.forall₂_map_right_iff]
  exact hmoved.flip.imp fun _ _ h => h

/-- The row after an update reads as the shift of the plan. -/
theorem content_updated {users : List User} {row : ShiftRow} {after : PlannedShift}
    (h : Updated (plannedShift users row) after) (deletedAt : Int) :
    (ShiftMutation.effect deletedAt row (.update (plannedShift users row) after)).content users =
      after.content := by
  obtain ⟨delta, hdelta⟩ : ∃ delta, delta = after.startTime - row.startTime := ⟨_, rfl⟩
  have hsorted : (row.breaks.map (·.moved delta)).insertionSort breakRowLe =
      (row.breaks.insertionSort breakRowLe).map (·.moved delta) := by
    symm
    apply List.map_insertionSort
    intro a _ b _
    simp only [breakRowLe, BreakRow.moved, add_lt_add_iff_right, add_left_inj]
  have hbreaks : ((row.breaks.map (·.moved delta)).insertionSort breakRowLe).map (·.planned) =
      after.breaks := by
    rw [h.breaks_eq, hsorted]
    simp [plannedShift, hdelta, BreakRow.planned, BreakRow.moved, PlannedBreak.moved]
  have hpublicId : after.publicId = row.publicId := h.publicId
  simp only [ShiftRow.content, PlannedShift.content, ShiftMutation.effect, ShiftRow.updated,
    plannedShift, ← hdelta, hbreaks, hpublicId]

/-! ## The order of execution -/

/-- The mutations of saved shifts, in the order of the service. -/
def changesOf (mutations : List ShiftMutation) : List ShiftMutation :=
  mutations.filter (·.isDelete) ++ mutations.filter (·.isUpdate)

theorem perm_executionOrder (mutations : List ShiftMutation) :
    (changesOf mutations ++ mutations.filter (·.isCreate)).Perm mutations := by
  induction mutations with
  | nil => exact .nil
  | cons mutation rest ih =>
      cases mutation with
      | delete before => exact .cons _ ih
      | update before after =>
          have hmiddle : (changesOf (.update before after :: rest) ++
              rest.filter (·.isCreate)).Perm (.update before after ::
                (changesOf rest ++ rest.filter (·.isCreate))) := by
            simp only [changesOf, List.append_assoc]
            exact List.perm_middle
          exact hmiddle.trans (.cons _ ih)
      | create after clientId =>
          have hmiddle : (changesOf rest ++ .create after clientId ::
              rest.filter (·.isCreate)).Perm (.create after clientId ::
                (changesOf rest ++ rest.filter (·.isCreate))) := List.perm_middle
          exact hmiddle.trans (.cons _ ih)

theorem mem_changesOf {mutations : List ShiftMutation} {mutation : ShiftMutation} :
    mutation ∈ changesOf mutations ↔ mutation ∈ mutations ∧ mutation.isCreate = false := by
  rw [changesOf, List.mem_append, List.mem_filter, List.mem_filter]
  cases mutation with
  | create after clientId => simp [ShiftMutation.isDelete, ShiftMutation.isUpdate,
      ShiftMutation.isCreate]
  | update before after => simp [ShiftMutation.isDelete, ShiftMutation.isUpdate,
      ShiftMutation.isCreate]
  | delete before => simp [ShiftMutation.isDelete, ShiftMutation.isUpdate,
      ShiftMutation.isCreate]

/-! ## Creations and mentions -/

/-- The public id of the saved shift that an operation is about. -/
def Operation.shiftId : Operation → Option String
  | .create _ _ _ _ _ => none
  | .update shiftId _ _ _ _ => some shiftId
  | .delete shiftId => some shiftId

/-- The shift is what a creation of the request asks for. -/
inductive CreatedBy (users : Dict String ResolvedUser) : Operation → PlannedShift → Prop
  | intro {clientId userId startTime endTime role shift} :
      (userId = none ∧ shift.userInternalId = none ∨ ∃ id user, userId = some id ∧
        Dict.get? users id = some user ∧ shift.userInternalId = some user.internalId) →
      Breaks.parseUtcInstant startTime = .ok shift.startTime →
      Breaks.parseUtcInstant endTime = .ok shift.endTime →
      normalizedRole role.join = .ok shift.role → shift.breaks = [] →
      CreatedBy users (.create clientId userId startTime endTime role) shift

/-- The client's id for a shift to create. -/
def Operation.createId : Operation → Option (Option String)
  | .create clientId _ _ _ _ => some clientId
  | .update _ _ _ _ _ => none
  | .delete _ => none

section Loop

variable {input : PlanInput} {st next : PlanState}

theorem parseUtcInstant_ok {value pointer : String} {instant : Int}
    (h : parseUtcInstant value pointer = .ok instant) :
    Breaks.parseUtcInstant value = .ok instant := mapError_eq_ok.mp h

/-- A creation notes its shift as created and as a mutation. -/
theorem planCreate_noted {pointer : String} {clientId userId : Option String}
    {startTime endTime : String} {role : Option (Option String)}
    (h : planCreate input st pointer clientId userId startTime endTime role = .ok next) :
    ∃ shift, CreatedBy input.usersByPublicId
        (.create clientId userId startTime endTime role) shift ∧
      next.created = st.created ++ [(clientId, shift.publicId)] ∧
        .create shift clientId ∈ next.mutations := by
  simp only [planCreate, bind_eq_ok, ensure_eq_ok] at h
  obtain ⟨_, _, user, huser, start, hstart, finish, hfinish, normalized, hrole, h⟩ := h
  obtain ⟨shift, hshift⟩ : ∃ shift : PlannedShift, shift = {
    internalId := none
    publicId := input.idFactory st.created.length
    userInternalId := user.map (·.internalId)
    userPublicId := user.map (·.publicId)
    startTime := start
    endTime := finish
    role := normalized
    breaks := []
    sourcePointer := pointer } := ⟨_, rfl⟩
  rw [← hshift] at h
  obtain rfl := Except.ok.inj h
  refine ⟨shift, ?_, by rw [hshift], by simp⟩
  subst hshift
  refine .intro ?_ (parseUtcInstant_ok hstart) (parseUtcInstant_ok hfinish) hrole rfl
  unfold userFor at huser
  split at huser
  · obtain rfl := Except.ok.inj huser
    exact .inl ⟨rfl, rfl⟩
  · rename_i id
    split at huser
    · cases huser
    · rename_i found hget
      obtain rfl := Except.ok.inj huser
      exact .inr ⟨id, found, rfl, hget, rfl⟩

/-- Nothing is taken off the list of mutations. -/
theorem planOperation_mutations {index : Nat} {operation : Operation}
    (h : planOperation input st index operation = .ok next) : st.mutations ⊆ next.mutations := by
  cases operation with
  | create clientId userId startTime endTime role =>
      obtain ⟨shift, _, _, _, _, rfl⟩ := planCreate_ok h
      exact List.subset_append_left _ _
  | update shiftId userId startTime endTime role =>
      obtain ⟨before, after, _, _, _, _, _, rfl⟩ := planUpdate_ok h
      show st.mutations ⊆ if sameShift before after = true then st.mutations
        else st.mutations ++ [.update before after]
      split
      · exact List.Subset.refl _
      · exact List.subset_append_left _ _
  | delete shiftId =>
      obtain ⟨before, _, _, rfl⟩ := planDelete_ok h
      exact List.subset_append_left _ _

theorem planOperations_mutations {index : Nat} {operations : List Operation}
    (h : planOperations input st index operations = .ok next) : st.mutations ⊆ next.mutations := by
  induction operations generalizing st index with
  | nil =>
      obtain rfl := Except.ok.inj h
      exact List.Subset.refl _
  | cons operation rest ih =>
      obtain ⟨middle, hfirst, hrest⟩ := bind_eq_ok.mp h
      exact List.Subset.trans (planOperation_mutations hfirst) (ih hrest)

/-- Only shifts that an operation names are touched. -/
theorem planOperations_touched {index : Nat} {operations : List Operation}
    (h : planOperations input st index operations = .ok next) :
    ∀ k ∈ next.touched, k ∈ st.touched ∨ ∃ operation ∈ operations, operation.shiftId = some k := by
  induction operations generalizing st index with
  | nil =>
      obtain rfl := Except.ok.inj h
      exact fun k hk => .inl hk
  | cons operation rest ih =>
      obtain ⟨middle, hfirst, hrest⟩ := bind_eq_ok.mp h
      intro k hk
      have hstep : ∀ k ∈ middle.touched, k ∈ st.touched ∨ operation.shiftId = some k := by
        intro k hk
        cases operation with
        | create clientId userId startTime endTime role =>
            obtain ⟨shift, _, _, _, _, rfl⟩ := planCreate_ok hfirst
            exact .inl hk
        | update shiftId userId startTime endTime role =>
            obtain ⟨before, after, _, _, _, _, _, rfl⟩ := planUpdate_ok hfirst
            exact (List.mem_append.mp hk).imp id fun hlast =>
              congrArg some (List.mem_singleton.mp hlast).symm
        | delete shiftId =>
            obtain ⟨before, _, _, rfl⟩ := planDelete_ok hfirst
            exact (List.mem_append.mp hk).imp id fun hlast =>
              congrArg some (List.mem_singleton.mp hlast).symm
      rcases ih hrest k hk with hmiddle | ⟨other, hother, hid⟩
      · rcases hstep k hmiddle with hold | hid
        · exact .inl hold
        · exact .inr ⟨operation, List.mem_cons_self, hid⟩
      · exact .inr ⟨other, List.mem_cons_of_mem _ hother, hid⟩

/-- The created list pairs each creation of the request, in order, with its shift. -/
theorem planOperations_created {index : Nat} {operations : List Operation}
    (h : planOperations input st index operations = .ok next) :
    ∃ entries, next.created = st.created ++ entries ∧
      List.Forall₂ (fun operation entry => operation.createId = some entry.1 ∧ ∃ shift,
        CreatedBy input.usersByPublicId operation shift ∧ entry.2 = shift.publicId ∧
          .create shift entry.1 ∈ next.mutations)
        (operations.filter (·.createId.isSome)) entries := by
  induction operations generalizing st index with
  | nil =>
      obtain rfl := Except.ok.inj h
      exact ⟨[], (List.append_nil _).symm, .nil⟩
  | cons operation rest ih =>
      obtain ⟨middle, hfirst, hrest⟩ := bind_eq_ok.mp h
      obtain ⟨entries, hcreated, hentries⟩ := ih hrest
      cases operation with
      | create clientId userId startTime endTime role =>
          obtain ⟨shift, hshift, hnoted, hmutation⟩ := planCreate_noted hfirst
          refine ⟨(clientId, shift.publicId) :: entries, ?_, .cons ⟨rfl, shift, hshift, rfl, ?_⟩
            hentries⟩
          · rw [hcreated, hnoted, List.append_assoc, List.singleton_append]
          · exact planOperations_mutations hrest hmutation
      | update shiftId userId startTime endTime role =>
          obtain ⟨before, after, _, _, _, _, _, rfl⟩ := planUpdate_ok hfirst
          exact ⟨entries, hcreated, hentries⟩
      | delete shiftId =>
          obtain ⟨before, _, _, rfl⟩ := planDelete_ok hfirst
          exact ⟨entries, hcreated, hentries⟩

end Loop

/-! ## The table and the dictionary -/

section Applied

variable {rows : List ShiftRow} {users : List User} {schedule : LockedSchedule}
  {operations : List Operation} {idFactory newIds : Nat → String}
  {external : List ExternalShift} {st : PlanState} {deletedAt : Int} {row : ShiftRow}

theorem mem_currentRows : row ∈ currentRows rows schedule ↔
    row ∈ rows ∧ row.SavedIn schedule.id := by
  simp [currentRows, List.mem_insertionSort]

/-- The planner finds the row with a public id. -/
theorem get?_byPublicId_iff (h : Indexed rows) {k : String} {before : PlannedShift} :
    Dict.get? (planInput rows users schedule operations idFactory external).byPublicId k =
        some before ↔
      ∃ row ∈ rows, row.SavedIn schedule.id ∧ row.publicId = k ∧
        before = plannedShift users row := by
  have hkeys : (((planInput rows users schedule operations idFactory external).currentShifts.map
      fun shift => (shift.publicId, shift)).map Prod.fst).Nodup := by
    have hperm : (currentRows rows schedule).Perm (rows.filter (·.SavedIn schedule.id)) :=
      List.perm_insertionSort _ _
    have hids : ((currentRows rows schedule).map (·.publicId)).Nodup :=
      (hperm.map _).nodup_iff.mpr (h.publicIds.sublist (List.filter_sublist.map _))
    simpa [planInput, plannedShift, Function.comp_def] using hids
  have hpairs : (planInput rows users schedule operations idFactory external).byPublicId =
      (planInput rows users schedule operations idFactory external).currentShifts.map
        fun shift => (shift.publicId, shift) := Dict.ofPairs_of_nodup hkeys
  constructor
  · intro hget
    obtain ⟨hmem, rfl⟩ := PlanInput.get?_byPublicId hget
    obtain ⟨row, hrow, rfl⟩ := List.mem_map.mp hmem
    obtain ⟨hrow, hsaved⟩ := mem_currentRows.mp hrow
    exact ⟨row, hrow, hsaved, rfl, rfl⟩
  · rintro ⟨row, hrow, hsaved, rfl, rfl⟩
    rw [hpairs]
    refine Dict.get?_of_mem hkeys (List.mem_map.mpr ⟨plannedShift users row, ?_, rfl⟩)
    exact List.mem_map_of_mem (mem_currentRows.mpr ⟨hrow, hsaved⟩)

/-- A run of the planner over indexed rows, with new ids, to a safe final state. -/
structure PlannedRun (rows : List ShiftRow) (input : PlanInput) (newIds : Nat → String)
    (st : PlanState) : Prop where
  indexed : Indexed rows
  fresh : NewIds rows input.idFactory newIds
  run : planOperations input input.initial 0 input.operations = .ok st
  safe : SafeShifts input (st.working.map Prod.snd)

theorem NewIds.freshIds (h : NewIds rows idFactory newIds) :
    FreshIds (planInput rows users schedule operations idFactory external) := by
  refine ⟨fun n shift hshift => ?_, h.distinct⟩
  obtain ⟨row, hrow, rfl⟩ := List.mem_map.mp hshift
  exact h.unsaved n row (mem_currentRows.mp hrow).1

theorem PlannedRun.tracks
    (h : PlannedRun rows (planInput rows users schedule operations idFactory external) newIds st) :
    st.Tracks (planInput rows users schedule operations idFactory external) :=
  planOperations_tracks h.fresh.freshIds (PlanInput.initial_tracks _) h.run

theorem PlannedRun.keyed
    (h : PlannedRun rows (planInput rows users schedule operations idFactory external) newIds st) :
    st.Keyed (planInput rows users schedule operations idFactory external) :=
  planOperations_keyed (PlanInput.initial_keyed _) h.run

/-- A shift of the dictionary ends after it starts. -/
theorem PlannedRun.ordered
    (h : PlannedRun rows (planInput rows users schedule operations idFactory external) newIds st)
    {k : String} {shift : PlannedShift} (hget : Dict.get? st.working k = some shift) :
    shift.startTime < shift.endTime :=
  h.safe.ordered shift (List.mem_map.mpr ⟨_, Dict.mem_of_get? hget, rfl⟩)

/-- A mutation that is no creation is about a saved row, as the planner saw it. -/
theorem PlannedRun.changes
    (h : PlannedRun rows (planInput rows users schedule operations idFactory external) newIds st)
    {mutation : ShiftMutation} (hmem : mutation ∈ changesOf st.mutations) :
    ∃ row ∈ rows, row.SavedIn schedule.id ∧ mutation.Changes users row := by
  obtain ⟨hmem, hkind⟩ := mem_changesOf.mp hmem
  cases mutation with
  | create after clientId => simp [ShiftMutation.isCreate] at hkind
  | update before after =>
      obtain ⟨_, hsaved, hworking, hupdated⟩ := h.tracks.updates before after hmem
      obtain ⟨row, hrow, hlive, _, hbefore⟩ := (get?_byPublicId_iff h.indexed).mp hsaved
      exact ⟨row, hrow, hlive, hbefore, h.ordered hworking, hupdated.breaks_eq⟩
  | delete before =>
      obtain ⟨_, hsaved, _⟩ := h.tracks.deletes before hmem
      obtain ⟨row, hrow, hlive, _, hbefore⟩ := (get?_byPublicId_iff h.indexed).mp hsaved
      exact ⟨row, hrow, hlive, hbefore⟩

/-- A creation has its shift in the dictionary, under a new id. -/
theorem PlannedRun.creation
    (h : PlannedRun rows (planInput rows users schedule operations idFactory external) newIds st)
    {mutation : ShiftMutation} (hmem : mutation ∈ st.mutations.filter (·.isCreate)) :
    ∃ after clientId, mutation = .create after clientId ∧
      Dict.get? st.working after.publicId = some after ∧
        ∃ n, after.publicId = idFactory n := by
  obtain ⟨hmem, hkind⟩ := List.mem_filter.mp hmem
  cases mutation with
  | create after clientId =>
      obtain ⟨hworking, _, _, n, _, hid⟩ := h.tracks.creates after clientId hmem
      exact ⟨after, clientId, rfl, hworking, n, hid⟩
  | update before after => simp [ShiftMutation.isCreate] at hkind
  | delete before => simp [ShiftMutation.isCreate] at hkind

theorem PlannedRun.targets
    (h : PlannedRun rows (planInput rows users schedule operations idFactory external) newIds st) :
    ((changesOf st.mutations).map (·.publicId)).Nodup ∧
      ((st.mutations.filter (·.isCreate)).map (·.publicId)).Nodup := by
  have hall := ((perm_executionOrder st.mutations).map (·.publicId)).nodup_iff.mpr
    h.tracks.targets
  rw [List.map_append, List.nodup_append] at hall
  exact ⟨hall.1, hall.2.1⟩

/-- The rows after the mutations. -/
def appliedRows (schedule : LockedSchedule) (deletedAt : Int) (newIds : Nat → String)
    (rows : List ShiftRow) (mutations : List ShiftMutation) : List ShiftRow :=
  rows.map (finalRow deletedAt (changesOf mutations)) ++
    ((mutations.filter (·.isCreate)).zipIdx (changesOf mutations).length).filterMap
      (insertedRow schedule newIds)

theorem finalRow_publicId (mutations : List ShiftMutation) :
    (finalRow deletedAt mutations row).publicId = row.publicId := by
  unfold finalRow
  split
  · rfl
  · exact ShiftMutation.effect_publicId

theorem finalRow_id (mutations : List ShiftMutation) :
    (finalRow deletedAt mutations row).id = row.id := by
  unfold finalRow
  split
  · rfl
  · exact ShiftMutation.effect_id

/-- The loops of the service succeed. -/
theorem PlannedRun.applyPlan_eq
    (h : PlannedRun rows (planInput rows users schedule operations idFactory external) newIds st) :
    applyPlan schedule deletedAt newIds rows
        ⟨st.working.map Prod.snd, st.mutations, st.created⟩ =
      .ok (appliedRows schedule deletedAt newIds rows st.mutations) := by
  have horder : executionOrder st.mutations =
      changesOf st.mutations ++ st.mutations.filter (·.isCreate) := rfl
  have hfst : (changesOf st.mutations).zipIdx.map Prod.fst = changesOf st.mutations :=
    List.zipIdx_map_fst _ _
  have hfirst : applyMutations schedule deletedAt newIds rows (changesOf st.mutations).zipIdx =
      .ok (rows.map (finalRow deletedAt ((changesOf st.mutations).zipIdx.map Prod.fst))) := by
    have hall : ∀ mutation ∈ (changesOf st.mutations).zipIdx.map Prod.fst,
        ∃ row ∈ rows, row.SavedIn schedule.id ∧ mutation.Changes users row := by
      rw [hfst]
      exact fun mutation hmutation => h.changes hmutation
    refine applyMutations_changes h.indexed ?_ hall
    rw [hfst]
    exact h.targets.1
  rw [hfst] at hfirst
  unfold applyPlan
  rw [horder, List.zipIdx_append, applyMutations_append, hfirst, ok_bind,
    Nat.zero_add]
  refine applyMutations_creates ?_ ?_ ?_ h.fresh.rowIds_distinct ?_
  · rw [List.zipIdx_map_fst]
    intro mutation hmutation
    obtain ⟨after, clientId, rfl, hworking, n, hid⟩ := h.creation hmutation
    refine ⟨after, clientId, rfl, h.ordered hworking, fun row hrow => ?_⟩
    obtain ⟨old, hold, rfl⟩ := List.mem_map.mp hrow
    rw [finalRow_publicId, hid]
    exact (h.fresh.unsaved n old hold).symm
  · rw [List.zipIdx_map_fst]
    exact h.targets.2
  · rw [List.zipIdx_map_snd]
    exact List.nodup_range'
  · intro n _ row hrow
    obtain ⟨old, hold, rfl⟩ := List.mem_map.mp hrow
    rw [finalRow_id]
    exact (h.fresh.rowIds n old hold).symm

/-- The mutation about a row decides what becomes of it. -/
theorem finalRow_of_target {mutations : List ShiftMutation}
    (hdistinct : (mutations.map (·.publicId)).Nodup) {mutation : ShiftMutation}
    (hmem : mutation ∈ mutations) (hid : mutation.publicId = row.publicId) :
    finalRow deletedAt mutations row = mutation.effect deletedAt row := by
  have hfind : mutations.find? (·.publicId = row.publicId) = some mutation :=
    hid ▸ find?_key hdistinct hmem
  rw [finalRow, hfind]

theorem finalRow_of_none {mutations : List ShiftMutation}
    (hnone : ∀ mutation ∈ mutations, mutation.publicId ≠ row.publicId) :
    finalRow deletedAt mutations row = row := by
  have hfind : mutations.find? (·.publicId = row.publicId) = none :=
    List.find?_eq_none.mpr fun mutation hmem => by simpa using hnone mutation hmem
  rw [finalRow, hfind]

/-- The rows that creations add. -/
theorem mem_inserted {mutations : List (ShiftMutation × Nat)} :
    row ∈ mutations.filterMap (insertedRow schedule newIds) ↔
      ∃ after clientId n, (.create after clientId, n) ∈ mutations ∧
        row = createdRow schedule (newIds n) after := by
  rw [List.mem_filterMap]
  constructor
  · rintro ⟨⟨mutation, n⟩, hmem, hrow⟩
    cases mutation with
    | create after clientId => exact ⟨after, clientId, n, hmem, (Option.some.inj hrow).symm⟩
    | update before after => cases hrow
    | delete before => cases hrow
  · rintro ⟨after, clientId, n, hmem, rfl⟩
    exact ⟨_, hmem, rfl⟩

/-- A created row is in the list of creations. -/
theorem create_mem_of_inserted {mutations : List ShiftMutation} {n : Nat}
    (h : row ∈ ((mutations.filter (·.isCreate)).zipIdx n).filterMap
      (insertedRow schedule newIds)) :
    ∃ after clientId m, .create after clientId ∈ mutations.filter (·.isCreate) ∧
      row = createdRow schedule (newIds m) after := by
  obtain ⟨after, clientId, m, hmem, rfl⟩ := mem_inserted.mp h
  exact ⟨after, clientId, m, List.fst_mem_of_mem_zipIdx hmem, rfl⟩

theorem inserted_of_create_mem {mutations : List ShiftMutation} {after : PlannedShift}
    {clientId : Option String} (h : .create after clientId ∈ mutations.filter (·.isCreate))
    (n : Nat) : ∃ m, createdRow schedule (newIds m) after ∈
      ((mutations.filter (·.isCreate)).zipIdx n).filterMap (insertedRow schedule newIds) := by
  have hmem : ShiftMutation.create after clientId ∈
      ((mutations.filter (·.isCreate)).zipIdx n).map Prod.fst := by
    rw [List.zipIdx_map_fst]
    exact h
  obtain ⟨⟨mutation, m⟩, hpair, rfl⟩ := List.mem_map.mp hmem
  exact ⟨m, mem_inserted.mpr ⟨after, clientId, m, hpair, rfl⟩⟩

theorem content_created {id : String} {after : PlannedShift} (h : after.breaks = []) :
    (createdRow schedule id after).content users = after.content := by
  simp [ShiftRow.content, PlannedShift.content, plannedShift, createdRow, h]

/-- A saved row of the table reads as the shift that the dictionary has under its id. -/
theorem PlannedRun.savedShift_of_row
    (h : PlannedRun rows (planInput rows users schedule operations idFactory external) newIds st)
    (hrow : row ∈ appliedRows schedule deletedAt newIds rows st.mutations)
    (hsaved : row.SavedIn schedule.id) :
    ∃ shift, Dict.get? st.working row.publicId = some shift ∧
      row.content users = shift.content := by
  rcases List.mem_append.mp hrow with hkept | hnew
  · obtain ⟨old, hold, rfl⟩ := List.mem_map.mp hkept
    rw [finalRow_publicId]
    by_cases htarget : ∃ mutation ∈ changesOf st.mutations, mutation.publicId = old.publicId
    · obtain ⟨mutation, hmem, hid⟩ := htarget
      rw [finalRow_of_target h.targets.1 hmem hid] at hsaved ⊢
      obtain ⟨target, htarget, _, hchanges⟩ := h.changes hmem
      obtain rfl := eq_of_key h.indexed.publicIds htarget hold
        (hchanges.publicId_eq.symm.trans hid)
      cases mutation with
      | create after clientId => exact hchanges.elim
      | update before after =>
          obtain ⟨_, _, hworking, hupdated⟩ := h.tracks.updates before after
            (mem_changesOf.mp hmem).1
          obtain ⟨rfl, _⟩ := hchanges
          exact ⟨after, hworking, content_updated hupdated deletedAt⟩
      | delete before => cases hsaved.2
    · have hnone : ∀ mutation ∈ changesOf st.mutations, mutation.publicId ≠ old.publicId :=
        fun mutation hmem hid => htarget ⟨mutation, hmem, hid⟩
      rw [finalRow_of_none hnone] at hsaved ⊢
      have hother : ∀ mutation ∈ st.mutations, mutation.publicId ≠ old.publicId := by
        intro mutation hmem hid
        cases hkind : mutation.isCreate with
        | false => exact hnone mutation (mem_changesOf.mpr ⟨hmem, hkind⟩) hid
        | true =>
            obtain ⟨after, clientId, rfl, _, n, hfactory⟩ :=
              h.creation (List.mem_filter.mpr ⟨hmem, hkind⟩)
            exact h.fresh.unsaved n old hold (hfactory.symm.trans hid)
      have hget : Dict.get? (planInput rows users schedule operations idFactory
          external).byPublicId old.publicId = some (plannedShift users old) :=
        (get?_byPublicId_iff h.indexed).mpr ⟨old, hold, hsaved, rfl, rfl⟩
      obtain ⟨after, hworking, hsame⟩ := (h.tracks.others _ hother).1 _ hget
      exact ⟨after, hworking, hsame.content_eq.symm⟩
  · obtain ⟨after, clientId, m, hmem, rfl⟩ := create_mem_of_inserted hnew
    obtain ⟨hworking, _, hbreaks, _⟩ := h.tracks.creates after clientId (List.mem_filter.mp hmem).1
    exact ⟨after, hworking, content_created hbreaks⟩

/-- Every shift of the dictionary is the reading of a saved row. -/
theorem PlannedRun.row_of_savedShift
    (h : PlannedRun rows (planInput rows users schedule operations idFactory external) newIds st)
    {k : String} {shift : PlannedShift} (hget : Dict.get? st.working k = some shift) :
    ∃ row ∈ appliedRows schedule deletedAt newIds rows st.mutations,
      row.SavedIn schedule.id ∧ row.content users = shift.content := by
  by_cases htarget : ∃ mutation ∈ st.mutations, mutation.publicId = k
  · obtain ⟨mutation, hmem, rfl⟩ := htarget
    cases mutation with
    | create after clientId =>
        obtain ⟨hworking, _, hbreaks, _⟩ := h.tracks.creates after clientId hmem
        obtain rfl := Option.some.inj (hworking.symm.trans hget)
        obtain ⟨m, hinserted⟩ : ∃ m, createdRow schedule (newIds m) after ∈
            ((st.mutations.filter (·.isCreate)).zipIdx
              (changesOf st.mutations).length).filterMap (insertedRow schedule newIds) :=
          inserted_of_create_mem (List.mem_filter.mpr ⟨hmem, rfl⟩) _
        exact ⟨_, List.mem_append_right _ hinserted, ⟨rfl, rfl⟩, content_created hbreaks⟩
    | update before after =>
        have hchange := mem_changesOf.mpr ⟨hmem, rfl⟩
        obtain ⟨row, hrow, hsaved, hchanges⟩ := h.changes hchange
        obtain ⟨_, _, hworking, hupdated⟩ := h.tracks.updates before after hmem
        obtain rfl := Option.some.inj (hworking.symm.trans hget)
        have hfinal : finalRow deletedAt (changesOf st.mutations) row =
            ShiftMutation.effect deletedAt row (.update before after) :=
          finalRow_of_target h.targets.1 hchange hchanges.publicId_eq
        refine ⟨_, List.mem_append_left _ (List.mem_map_of_mem hrow), ?_, ?_⟩
        · rw [hfinal]
          exact hsaved
        · rw [hfinal]
          obtain ⟨rfl, _⟩ := hchanges
          exact content_updated hupdated deletedAt
    | delete before =>
        obtain ⟨_, _, hworking⟩ := h.tracks.deletes before hmem
        cases hworking.symm.trans hget
  · have hnone : ∀ mutation ∈ st.mutations, mutation.publicId ≠ k :=
      fun mutation hmem hid => htarget ⟨mutation, hmem, hid⟩
    obtain ⟨hsaved, habsent⟩ := h.tracks.others k hnone
    cases hbefore : Dict.get?
        (planInput rows users schedule operations idFactory external).byPublicId k with
    | none => cases (habsent hbefore).symm.trans hget
    | some before =>
        obtain ⟨after, hworking, hsame⟩ := hsaved before hbefore
        obtain rfl := Option.some.inj (hworking.symm.trans hget)
        obtain ⟨row, hrow, hlive, rfl, rfl⟩ := (get?_byPublicId_iff h.indexed).mp hbefore
        have hfinal : finalRow deletedAt (changesOf st.mutations) row = row :=
          finalRow_of_none fun mutation hmem => hnone mutation (mem_changesOf.mp hmem).1
        refine ⟨_, List.mem_append_left _ (List.mem_map_of_mem hrow), ?_, ?_⟩
        · rw [hfinal]
          exact hlive
        · rw [hfinal]
          exact hsame.content_eq.symm

theorem insertedRow_keys {pair : ShiftMutation × Nat}
    (h : insertedRow schedule newIds pair = some row) :
    row.publicId = pair.1.publicId ∧ row.id = newIds pair.2 := by
  obtain ⟨mutation, n⟩ := pair
  cases mutation with
  | create after clientId =>
      obtain rfl := Option.some.inj h
      exact ⟨rfl, rfl⟩
  | update before after => cases h
  | delete before => cases h

/-- New rows keep a key distinct that is distinct among them and new. -/
theorem nodup_keys_inserted {β : Type} {key : ShiftRow → β} {kept : List ShiftRow}
    {mutations : List (ShiftMutation × Nat)} (hkept : (kept.map key).Nodup)
    (hnew : ∀ row ∈ mutations.filterMap (insertedRow schedule newIds), ∀ old ∈ kept,
      key row ≠ key old)
    (hdistinct : mutations.Pairwise fun a b => ∀ first, insertedRow schedule newIds a = some first →
      ∀ second, insertedRow schedule newIds b = some second → key first ≠ key second) :
    ((kept ++ mutations.filterMap (insertedRow schedule newIds)).map key).Nodup := by
  rw [List.map_append, List.nodup_append]
  refine ⟨hkept, ?_, ?_⟩
  · rw [List.Nodup, List.pairwise_map, List.pairwise_filterMap]
    exact hdistinct
  · intro first hfirst second hsecond heq
    obtain ⟨old, hold, rfl⟩ := List.mem_map.mp hfirst
    obtain ⟨row, hrow, rfl⟩ := List.mem_map.mp hsecond
    exact hnew row hrow old hold heq.symm

/-- The unique indexes hold after the plan. -/
theorem PlannedRun.appliedIndexed
    (h : PlannedRun rows (planInput rows users schedule operations idFactory external) newIds st) :
    Indexed (appliedRows schedule deletedAt newIds rows st.mutations) := by
  have hindexed := h.indexed
  obtain ⟨creates, hcreates⟩ : ∃ creates, creates =
    (st.mutations.filter (·.isCreate)).zipIdx (changesOf st.mutations).length := ⟨_, rfl⟩
  refine ⟨?_, ?_, ?_⟩
  · refine nodup_keys_inserted ?_ ?_ ?_
    · simpa [Function.comp_def, finalRow_id] using hindexed.ids
    · intro row hrow kept hkept
      obtain ⟨after, clientId, m, _, rfl⟩ := create_mem_of_inserted hrow
      obtain ⟨old, hold, rfl⟩ := List.mem_map.mp hkept
      rw [finalRow_id]
      exact h.fresh.rowIds m old hold
    · have hnumbers : (creates.map Prod.snd).Nodup := by
        rw [hcreates, List.zipIdx_map_snd]
        exact List.nodup_range'
      rw [← hcreates]
      refine (List.pairwise_map.mp hnumbers).imp ?_
      intro a b hne first hfirst second hsecond heq
      rw [(insertedRow_keys hfirst).2, (insertedRow_keys hsecond).2] at heq
      exact hne (h.fresh.rowIds_distinct heq)
  · refine nodup_keys_inserted ?_ ?_ ?_
    · simpa [Function.comp_def, finalRow_publicId] using hindexed.publicIds
    · intro row hrow kept hkept
      obtain ⟨after, clientId, m, hmem, rfl⟩ := create_mem_of_inserted hrow
      obtain ⟨old, hold, rfl⟩ := List.mem_map.mp hkept
      obtain ⟨after', clientId', heq, _, n, hid⟩ := h.creation hmem
      obtain ⟨rfl, rfl⟩ := ShiftMutation.create.inj heq
      rw [finalRow_publicId]
      exact fun hsame => h.fresh.unsaved n old hold (hid.symm.trans hsame)
    · have hids : ((creates.map Prod.fst).map (·.publicId)).Nodup := by
        rw [hcreates, List.zipIdx_map_fst]
        exact h.targets.2
      rw [← hcreates]
      refine (List.pairwise_map.mp (List.pairwise_map.mp hids)).imp ?_
      intro a b hne first hfirst second hsecond heq
      rw [(insertedRow_keys hfirst).1, (insertedRow_keys hsecond).1] at heq
      exact hne heq
  · intro row hrow
    rcases List.mem_append.mp hrow with hkept | hnew
    · obtain ⟨old, hold, rfl⟩ := List.mem_map.mp hkept
      unfold finalRow
      split
      · exact hindexed.breakIds old hold
      · rw [ShiftMutation.effect_breakIds]
        exact hindexed.breakIds old hold
    · obtain ⟨after, clientId, m, _, rfl⟩ := create_mem_of_inserted hnew
      exact List.nodup_nil

/-- A row that no operation names stays as it is. -/
theorem PlannedRun.unmentioned
    (h : PlannedRun rows (planInput rows users schedule operations idFactory external) newIds st)
    (hrow : row ∈ rows)
    (hunnamed : ∀ operation ∈ operations, operation.shiftId ≠ some row.publicId) :
    row ∈ appliedRows schedule deletedAt newIds rows st.mutations := by
  have htouched : row.publicId ∉ st.touched := by
    intro hmem
    rcases planOperations_touched h.run _ hmem with hinitial | ⟨operation, hoperation, hid⟩
    · cases hinitial
    · exact hunnamed operation hoperation hid
  have hnone : ∀ mutation ∈ changesOf st.mutations, mutation.publicId ≠ row.publicId := by
    intro mutation hmem hid
    obtain ⟨hmem, hkind⟩ := mem_changesOf.mp hmem
    cases mutation with
    | create after clientId => simp [ShiftMutation.isCreate] at hkind
    | update before after =>
        have hid : before.publicId = row.publicId := hid
        exact htouched (hid ▸ (h.tracks.updates before after hmem).1)
    | delete before =>
        have hid : before.publicId = row.publicId := hid
        exact htouched (hid ▸ (h.tracks.deletes before hmem).1)
  exact List.mem_append_left _ (List.mem_map.mpr ⟨row, hrow, finalRow_of_none hnone⟩)

/-- The rows of the schedule read as the final state of the plan. -/
theorem PlannedRun.content_perm
    (h : PlannedRun rows (planInput rows users schedule operations idFactory external) newIds st) :
    ((currentRows (appliedRows schedule deletedAt newIds rows st.mutations) schedule).map
      (·.content users)).Perm ((st.working.map Prod.snd).map (·.content)) := by
  obtain ⟨saved, hsaved⟩ : ∃ saved,
    saved = appliedRows schedule deletedAt newIds rows st.mutations := ⟨_, rfl⟩
  have hindexed : Indexed saved := hsaved ▸ h.appliedIndexed
  rw [← hsaved]
  have hrows : ((currentRows saved schedule).map (·.content users)).Nodup := by
    refine List.Nodup.of_map (·.publicId) ?_
    have hperm : (currentRows saved schedule).Perm (saved.filter (·.SavedIn schedule.id)) :=
      List.perm_insertionSort _ _
    have hids : ((currentRows saved schedule).map (·.publicId)).Nodup :=
      (hperm.map _).nodup_iff.mpr (hindexed.publicIds.sublist (List.filter_sublist.map _))
    simpa [Function.comp_def, ShiftRow.content, PlannedShift.content, plannedShift] using hids
  have hshifts : ((st.working.map Prod.snd).map (·.content)).Nodup := by
    refine List.Nodup.of_map (·.publicId) ?_
    have hkeys : st.working.map (fun entry => entry.2.publicId) = Dict.keys st.working :=
      List.map_congr_left h.keyed.ids
    simpa [Function.comp_def, PlannedShift.content, hkeys] using h.keyed.keys
  refine (List.perm_ext_iff_of_nodup hrows hshifts).mpr fun content => ?_
  constructor
  · intro hmem
    obtain ⟨row, hrow, rfl⟩ := List.mem_map.mp hmem
    obtain ⟨hrow, hlive⟩ := mem_currentRows.mp hrow
    obtain ⟨shift, hget, hcontent⟩ := h.savedShift_of_row (hsaved ▸ hrow) hlive
    rw [hcontent]
    exact List.mem_map_of_mem (List.mem_map.mpr ⟨_, Dict.mem_of_get? hget, rfl⟩)
  · intro hmem
    obtain ⟨shift, hshift, rfl⟩ := List.mem_map.mp hmem
    obtain ⟨entry, hentry, rfl⟩ := List.mem_map.mp hshift
    obtain ⟨row, hrow, hlive, hcontent⟩ :=
      h.row_of_savedShift (Dict.get?_of_mem h.keyed.keys hentry)
    rw [← hcontent]
    exact List.mem_map_of_mem (mem_currentRows.mpr ⟨hsaved ▸ hrow, hlive⟩)

end Applied

/-- The shift that a creation of the request left in the table, with its entry in the created
list. -/
structure CreatedRow (users : List User) (schedule : LockedSchedule)
    (operations : List Operation) (old saved : List ShiftRow) (operation : Operation)
    (entry : Option String × String) (row : ShiftRow) : Prop where
  clientId : operation.createId = some entry.1
  publicId : row.publicId = entry.2
  inserted : row ∈ saved ∧ row ∉ old
  savedIn : row.SavedIn schedule.id
  requested : ∃ shift, CreatedBy (usersByPublicId users operations) operation shift ∧
    row.content users = shift.content

/-- The table after the mutations of a plan has the plan's final state. -/
theorem applied_plan_is_final_state (locale : Collation) (users : List User)
    (schedule : LockedSchedule) (operations : List Operation) {rows : List ShiftRow}
    {idFactory newIds : Nat → String} {external : List ExternalShift} {plan : ChangeSetPlan}
    (deletedAt : Int) (hindexed : Indexed rows) (hnew : NewIds rows idFactory newIds)
    (hplan : planScheduleChangeSet locale
      (planInput rows users schedule operations idFactory external) = .ok plan) :
    ∃ saved, applyPlan schedule deletedAt newIds rows plan = .ok saved ∧ Indexed saved ∧
      ((currentRows saved schedule).map (·.content users)).Perm
        (plan.finalShifts.map (·.content)) ∧
      (∀ row ∈ rows, (∀ operation ∈ operations, operation.shiftId ≠ some row.publicId) →
        row ∈ saved) ∧
      List.Forall₂ (fun operation entry => ∃ row,
          CreatedRow users schedule operations rows saved operation entry row)
        (operations.filter (·.createId.isSome)) plan.created := by
  obtain ⟨st, hrun, _, hsafe, rfl⟩ := planScheduleChangeSet_eq_ok.mp hplan
  have h : PlannedRun rows (planInput rows users schedule operations idFactory external)
      newIds st := ⟨hindexed, hnew, hrun, hsafe⟩
  refine ⟨appliedRows schedule deletedAt newIds rows st.mutations, h.applyPlan_eq,
    h.appliedIndexed, h.content_perm, fun row hrow hunnamed => h.unmentioned hrow hunnamed, ?_⟩
  obtain ⟨entries, hcreated, hentries⟩ := planOperations_created hrun
  rw [show st.created = entries from hcreated]
  refine hentries.imp ?_
  rintro operation entry ⟨hid, shift, hshift, hpublicId, hmem⟩
  obtain ⟨m, hinserted⟩ : ∃ m, createdRow schedule (newIds m) shift ∈
      ((st.mutations.filter (·.isCreate)).zipIdx
        (changesOf st.mutations).length).filterMap (insertedRow schedule newIds) :=
    inserted_of_create_mem (List.mem_filter.mpr ⟨hmem, rfl⟩) _
  have hbreaks : shift.breaks = [] := (h.tracks.creates shift entry.1 hmem).2.2.1
  exact ⟨createdRow schedule (newIds m) shift, hid, hpublicId.symm,
    ⟨List.mem_append_right _ hinserted, fun hold => hnew.rowIds m _ hold rfl⟩, ⟨rfl, rfl⟩,
    shift, hshift, content_created hbreaks⟩

/-! ## A run

Ana's two shifts of 2026-07-06: the morning moves with its break, the evening is taken away,
and a new shift is made for Ben. -/

namespace Sample

def saved : List ShiftRow := [
  ⟨"row-1", "morning", "kitchen", some "week", some "ana", hour 8, hour 12, some "Cook", none,
    [⟨"break-1", hour 9, hour 10, true⟩]⟩,
  ⟨"row-2", "evening", "kitchen", some "week", some "ana", hour 16, hour 20, none, none, []⟩]

def request : List Operation := [
  .create (some "for-ben") (some "ben-public") "2026-07-06T16:00:00Z" "2026-07-06T20:00:00Z" none,
  .update "morning" none (some "2026-07-06T10:00:00Z") (some "2026-07-06T14:00:00Z") none,
  .delete "evening"]

/-- The id of the n-th new shift. -/
def draw (n : Nat) : String := String.ofList (List.replicate n 'n')

theorem draw_injective : Function.Injective draw := by
  intro n m heq
  have hletters := congrArg String.toList heq
  simpa [draw] using congrArg List.length hletters

/-- A text with another letter is not drawn. -/
theorem draw_ne {text : String} (h : text.toList.head? ≠ none ∧ text.toList.head? ≠ some 'n')
    (n : Nat) : draw n ≠ text := by
  rintro rfl
  cases n with
  | zero => exact h.1 (by simp [draw])
  | succ n => exact h.2 (by simp [draw, List.replicate_succ])

theorem newIds : NewIds saved draw draw := by
  refine ⟨?_, draw_injective, ?_, draw_injective⟩
  · intro n row hrow
    rcases List.mem_cons.mp hrow with rfl | hrow
    · exact draw_ne (by decide +kernel) n
    · obtain rfl := List.mem_singleton.mp hrow
      exact draw_ne (by decide +kernel) n
  · intro n row hrow
    rcases List.mem_cons.mp hrow with rfl | hrow
    · exact draw_ne (by decide +kernel) n
    · obtain rfl := List.mem_singleton.mp hrow
      exact draw_ne (by decide +kernel) n

end Sample

theorem monday_applied : ∃ plan saved,
    planScheduleChangeSet Sample.locale (planInput Sample.saved Sample.users Sample.week
      Sample.request Sample.draw []) = .ok plan ∧
      applyPlan Sample.week 0 Sample.draw Sample.saved plan = .ok saved ∧
        ((currentRows saved Sample.week).map (·.content Sample.users)).Perm
          (plan.finalShifts.map (·.content)) := by
  have hsome : (planScheduleChangeSet Sample.locale (planInput Sample.saved Sample.users
      Sample.week Sample.request Sample.draw [])).isOk = true := by decide +kernel
  obtain ⟨plan, hplan⟩ : ∃ plan, planScheduleChangeSet Sample.locale (planInput Sample.saved
      Sample.users Sample.week Sample.request Sample.draw []) = .ok plan := by
    cases hrun : planScheduleChangeSet Sample.locale (planInput Sample.saved Sample.users
        Sample.week Sample.request Sample.draw []) with
    | ok plan => exact ⟨plan, rfl⟩
    | error problem =>
        rw [hrun] at hsome
        cases hsome
  obtain ⟨saved, happlied, _, hperm, _⟩ := applied_plan_is_final_state Sample.locale Sample.users
    Sample.week Sample.request 0 ⟨by decide +kernel, by decide +kernel, by decide +kernel⟩
    Sample.newIds hplan
  exact ⟨plan, saved, hplan, happlied, hperm⟩

end LunchLineup.Scheduling
