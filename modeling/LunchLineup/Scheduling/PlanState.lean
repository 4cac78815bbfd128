import LunchLineup.Scheduling.Plan

/-!
# What the planning loop keeps

The loop works on a dictionary of shifts and notes each effective change as a mutation.
`Keyed` is what holds of the dictionary alone.  `Tracks` relates it to the mutations: these
have distinct targets, each target is in the dictionary as its mutation leaves it, and every
other saved shift is there with its saved content.  Each has a step lemma for an operation
and a run lemma for the loop.

New shifts get random ids.  That these differ from each other and from the saved ones is
`FreshIds`; only `Tracks` needs it.
-/

namespace LunchLineup.Scheduling

open LunchLineup.Lib LunchLineup.Billing
open LunchLineup.Payroll (given)

/-! ## Mutations -/

/-- The public id of the shift that a mutation is about. -/
def ShiftMutation.publicId : ShiftMutation → String
  | .create after _ => after.publicId
  | .update before _ => before.publicId
  | .delete before => before.publicId

/-- The entry of the created list that belongs to a mutation. -/
def ShiftMutation.createdEntry : ShiftMutation → Option (Option String × String)
  | .create after clientId => some (clientId, after.publicId)
  | .update _ _ => none
  | .delete _ => none

/-- Random ids are new. -/
structure FreshIds (input : PlanInput) : Prop where
  unsaved : ∀ n, ∀ shift ∈ input.currentShifts, input.idFactory n ≠ shift.publicId
  distinct : Function.Injective input.idFactory

/-- The break kept its place in its shift. -/
structure KeepsOffset (before after : PlannedShift) (old new : PlannedBreak) : Prop where
  internalId : new.internalId = old.internalId
  startTime : new.startTime - after.startTime = old.startTime - before.startTime
  endTime : new.endTime - after.startTime = old.endTime - before.startTime

/-- What an update makes of a saved shift. -/
structure Updated (before after : PlannedShift) : Prop where
  internalId : after.internalId = before.internalId
  publicId : after.publicId = before.publicId
  inside : ∀ item ∈ after.breaks, after.startTime ≤ item.startTime ∧ item.endTime ≤ after.endTime
  offsets : List.Forall₂ (KeepsOffset before after) before.breaks after.breaks

/-- Two shifts with the same saved columns and breaks. -/
structure SameContent (before after : PlannedShift) : Prop where
  internalId : after.internalId = before.internalId
  publicId : after.publicId = before.publicId
  userInternalId : after.userInternalId = before.userInternalId
  startTime : after.startTime = before.startTime
  endTime : after.endTime = before.endTime
  role : after.role = before.role
  breaks : after.breaks = before.breaks

theorem SameContent.refl (shift : PlannedShift) : SameContent shift shift :=
  ⟨rfl, rfl, rfl, rfl, rfl, rfl, rfl⟩

/-- The worker of a planned shift is the worker of a saved one or was looked up for the
request. -/
def KnownWorker (input : PlanInput) (userInternalId : Option String) : Prop :=
  ∀ id ∈ userInternalId, (∃ saved ∈ input.currentShifts, saved.userInternalId = some id) ∨
    ∃ key user, Dict.get? input.usersByPublicId key = some user ∧ user.internalId = id

/-- The dictionary of the loop. -/
structure PlanState.Keyed (input : PlanInput) (st : PlanState) : Prop where
  keys : (Dict.keys st.working).Nodup
  ids : ∀ entry ∈ st.working, entry.2.publicId = entry.1
  workers : ∀ entry ∈ st.working, KnownWorker input entry.2.userInternalId

/-- What the loop has done so far. -/
structure PlanState.Tracks (input : PlanInput) (st : PlanState) : Prop where
  targets : (st.mutations.map (·.publicId)).Nodup
  touched : ∀ k ∈ st.touched, ∃ before, Dict.get? input.byPublicId k = some before
  created : st.created = st.mutations.filterMap (·.createdEntry)
  creates : ∀ after clientId, .create after clientId ∈ st.mutations →
    Dict.get? st.working after.publicId = some after ∧ after.internalId = none ∧
      after.breaks = [] ∧ ∃ n < st.created.length, after.publicId = input.idFactory n
  updates : ∀ before after, .update before after ∈ st.mutations →
    before.publicId ∈ st.touched ∧ Dict.get? input.byPublicId before.publicId = some before ∧
      Dict.get? st.working before.publicId = some after ∧ Updated before after
  deletes : ∀ before, .delete before ∈ st.mutations →
    before.publicId ∈ st.touched ∧ Dict.get? input.byPublicId before.publicId = some before ∧
      Dict.get? st.working before.publicId = none
  others : ∀ k, (∀ mutation ∈ st.mutations, mutation.publicId ≠ k) →
    (∀ before, Dict.get? input.byPublicId k = some before →
      ∃ after, Dict.get? st.working k = some after ∧ SameContent before after) ∧
      (Dict.get? input.byPublicId k = none → Dict.get? st.working k = none)

section Facts

variable {input : PlanInput} {st next : PlanState} {pointer shiftId : String}

theorem PlanInput.byPublicId_nodup (input : PlanInput) : (Dict.keys input.byPublicId).Nodup :=
  (Dict.nodup_keys_ofPairs _).1

/-- A shift is saved under its own public id. -/
theorem PlanInput.mem_byPublicId {entry : String × PlannedShift} (h : entry ∈ input.byPublicId) :
    entry.2 ∈ input.currentShifts ∧ entry.2.publicId = entry.1 := by
  obtain ⟨shift, hshift, rfl⟩ := List.mem_map.mp ((Dict.nodup_keys_ofPairs _).2 entry h)
  exact ⟨hshift, rfl⟩

theorem PlanInput.get?_byPublicId {before : PlannedShift}
    (h : Dict.get? input.byPublicId shiftId = some before) :
    before ∈ input.currentShifts ∧ before.publicId = shiftId :=
  PlanInput.mem_byPublicId (Dict.mem_of_get? h)

/-- A new id is not that of a saved shift. -/
theorem FreshIds.ne_saved (h : FreshIds input) {before : PlannedShift} (n : Nat)
    (hsaved : Dict.get? input.byPublicId shiftId = some before) : input.idFactory n ≠ shiftId := by
  obtain ⟨hmem, rfl⟩ := PlanInput.get?_byPublicId hsaved
  exact h.unsaved n before hmem

theorem PlanInput.initial_keyed (input : PlanInput) : input.initial.Keyed input := by
  refine ⟨input.byPublicId_nodup, ?_, ?_⟩
  · exact fun entry hentry => (PlanInput.mem_byPublicId hentry).2
  · intro entry hentry id hid
    exact .inl ⟨entry.2, (PlanInput.mem_byPublicId hentry).1, hid⟩

theorem PlanInput.initial_tracks (input : PlanInput) : input.initial.Tracks input := by
  refine ⟨List.nodup_nil, ?_, rfl, ?_, ?_, ?_, ?_⟩
  · simp [PlanInput.initial]
  · simp [PlanInput.initial]
  · simp [PlanInput.initial]
  · simp [PlanInput.initial]
  · intro k _
    exact ⟨fun before hbefore => ⟨before, hbefore, .refl before⟩, id⟩

/-! ## Reading the branches back -/

theorem findTouched_ok {before : PlannedShift}
    (h : findTouched input st pointer shiftId = .ok before) :
    shiftId ∉ st.touched ∧ Dict.get? input.byPublicId shiftId = some before := by
  unfold findTouched at h
  obtain ⟨_, htouched, h⟩ := bind_eq_ok.mp h
  rw [ensure_eq_ok] at htouched
  split at h
  · cases h
  · rename_i found hfound
    obtain rfl := Except.ok.inj h
    exact ⟨htouched, hfound⟩

theorem translatedBreaks_ok {before : PlannedShift} {nextStart nextEnd : Int}
    {breaks : List PlannedBreak}
    (h : translatedBreaks before nextStart nextEnd pointer = .ok breaks) :
    breaks = before.breaks.map (·.moved (nextStart - before.startTime)) ∧
      ∀ item ∈ breaks, nextStart ≤ item.startTime ∧ item.endTime ≤ nextEnd := by
  simp only [translatedBreaks, bind_eq_ok, ensure_eq_ok] at h
  obtain ⟨_, hinside, h⟩ := h
  obtain rfl := Except.ok.inj h
  exact ⟨rfl, hinside⟩

theorem userFor_known {publicId : Option String} {user : Option ResolvedUser}
    (h : userFor publicId input.usersByPublicId pointer = .ok user) :
    KnownWorker input (user.map (·.internalId)) := by
  unfold userFor at h
  split at h
  · obtain rfl := Except.ok.inj h
    simp [KnownWorker]
  · rename_i key
    split at h
    · cases h
    · rename_i found hget
      obtain rfl := Except.ok.inj h
      intro id hid
      exact .inr ⟨key, found, hget, Option.some.inj hid⟩

/-- A create appends a shift under a new id. -/
theorem planCreate_ok {clientId userId : Option String} {startTime endTime : String}
    {role : Option (Option String)}
    (h : planCreate input st pointer clientId userId startTime endTime role = .ok next) :
    ∃ shift, shift.publicId = input.idFactory st.created.length ∧ shift.internalId = none ∧
      shift.breaks = [] ∧ KnownWorker input shift.userInternalId ∧
      next = {
        working := Dict.set st.working shift.publicId shift
        touched := st.touched
        clientIds := st.clientIds ++ (given clientId).toList
        mutations := st.mutations ++ [.create shift clientId]
        created := st.created ++ [(clientId, shift.publicId)] } := by
  simp only [planCreate, bind_eq_ok, ensure_eq_ok] at h
  obtain ⟨_, _, user, huser, start, _, finish, _, normalized, _, h⟩ := h
  obtain ⟨shift, hshift⟩ : ∃ shift : PlannedShift, shift = {
    internalId := none
    publicId := input.idFactory st.created.length
    userInternalId := user.map (·.internalId)
    userPublicId := user.map (·.publicId)
    startTime := start
    endTime := finish
    role := normalized
    breaks := []
    sourcePointer := pointer } := ⟨_, rfl⟩
  refine ⟨shift, by rw [hshift], by rw [hshift], by rw [hshift], ?_, ?_⟩
  · rw [hshift]
    exact userFor_known huser
  · rw [hshift]
    exact (Except.ok.inj h).symm

theorem planDelete_ok (h : planDelete input st pointer shiftId = .ok next) :
    ∃ before, shiftId ∉ st.touched ∧ Dict.get? input.byPublicId shiftId = some before ∧
      next = { st with
        working := Dict.erase st.working shiftId
        touched := st.touched ++ [shiftId]
        mutations := st.mutations ++ [.delete before] } := by
  simp only [planDelete, bind_eq_ok] at h
  obtain ⟨before, hfound, h⟩ := h
  obtain ⟨htouched, hsaved⟩ := findTouched_ok hfound
  exact ⟨before, htouched, hsaved, (Except.ok.inj h).symm⟩

/-- Breaks that move with their shift keep their offsets. -/
theorem keepsOffset_moved (before after : PlannedShift) :
    List.Forall₂ (KeepsOffset before after) before.breaks
      (before.breaks.map (·.moved (after.startTime - before.startTime))) := by
  rw [List.forall₂_map_right_iff, List.forall₂_same]
  intro item _
  refine ⟨rfl, ?_, ?_⟩
  · simp only [PlannedBreak.moved]
    omega
  · simp only [PlannedBreak.moved]
    omega

theorem updatedUser_known {before : PlannedShift} {userId : Option (Option String)}
    {user : Option String × Option String} (hsaved : before ∈ input.currentShifts)
    (h : updatedUser input before userId pointer = .ok user) : KnownWorker input user.1 := by
  unfold updatedUser at h
  split at h
  · obtain rfl := Except.ok.inj h
    exact fun id hid => .inl ⟨before, hsaved, hid⟩
  · obtain ⟨found, hfound, h⟩ := bind_eq_ok.mp h
    obtain rfl := Except.ok.inj h
    exact userFor_known hfound

/-- An update leaves a shift with the saved ids and moved breaks. -/
theorem planUpdate_ok {userId : Option (Option String)} {startTime endTime : Option String}
    {role : Option (Option String)}
    (h : planUpdate input st pointer shiftId userId startTime endTime role = .ok next) :
    ∃ before after, shiftId ∉ st.touched ∧ Dict.get? input.byPublicId shiftId = some before ∧
      Updated before after ∧ KnownWorker input after.userInternalId ∧
      after.breaks = before.breaks.map (·.moved (after.startTime - before.startTime)) ∧
      next = { st with
        working := Dict.set st.working shiftId after
        touched := st.touched ++ [shiftId]
        mutations := if sameShift before after = true then st.mutations
          else st.mutations ++ [.update before after] } := by
  simp only [planUpdate, bind_eq_ok] at h
  obtain ⟨before, hfound, nextStart, _, nextEnd, _, user, huser, role, _, breaks, hbreaks, h⟩ := h
  obtain ⟨htouched, hsaved⟩ := findTouched_ok hfound
  obtain ⟨hmoved, hinside⟩ := translatedBreaks_ok hbreaks
  obtain ⟨after, hafter⟩ : ∃ after, after = { before with
    userInternalId := user.1
    userPublicId := user.2
    startTime := nextStart
    endTime := nextEnd
    role := role
    breaks := breaks
    sourcePointer := pointer } := ⟨_, rfl⟩
  rw [← hafter] at h
  have hbreaks_eq : after.breaks =
      before.breaks.map (·.moved (after.startTime - before.startTime)) := by
    rw [hafter]
    exact hmoved
  refine ⟨before, after, htouched, hsaved, ⟨?_, ?_, ?_, ?_⟩, ?_, hbreaks_eq,
    (Except.ok.inj h).symm⟩
  · rw [hafter]
  · rw [hafter]
  · rw [hafter]
    exact hinside
  · rw [hbreaks_eq]
    exact keepsOffset_moved before after
  · rw [hafter]
    exact updatedUser_known (PlanInput.get?_byPublicId hsaved).1 huser

/-- An update that `sameShift` drops leaves the saved content. -/
theorem sameContent_of_sameShift {before after : PlannedShift} (hupdated : Updated before after)
    (hmoved : after.breaks = before.breaks.map (·.moved (after.startTime - before.startTime)))
    (h : sameShift before after = true) : SameContent before after := by
  simp only [sameShift, Bool.and_eq_true, decide_eq_true_eq] at h
  obtain ⟨⟨⟨⟨huser, hstart⟩, hend⟩, hrole⟩, _⟩ := h
  refine ⟨hupdated.internalId, hupdated.publicId, huser.symm, hstart.symm, hend.symm, hrole.symm,
    ?_⟩
  rw [hmoved, ← hstart, sub_self]
  simp [PlannedBreak.moved]

/-! ## The dictionary -/

theorem PlanState.Keyed.set (h : st.Keyed input) {key : String} {shift : PlannedShift}
    (hid : shift.publicId = key) (hworker : KnownWorker input shift.userInternalId)
    (hnext : next.working = Dict.set st.working key shift) : next.Keyed input := by
  refine ⟨hnext ▸ Dict.nodup_keys_set h.keys _ _, ?_, ?_⟩
  · intro entry hentry
    rcases Dict.mem_of_mem_set (hnext ▸ hentry) with rfl | hold
    · exact hid
    · exact h.ids entry hold
  · intro entry hentry
    rcases Dict.mem_of_mem_set (hnext ▸ hentry) with rfl | hold
    · exact hworker
    · exact h.workers entry hold

theorem planOperation_keyed (h : st.Keyed input) {index : Nat} {operation : Operation}
    (hrun : planOperation input st index operation = .ok next) : next.Keyed input := by
  cases operation with
  | create clientId userId startTime endTime role =>
      obtain ⟨shift, _, _, _, hworker, rfl⟩ := planCreate_ok hrun
      exact h.set rfl hworker rfl
  | update shiftId userId startTime endTime role =>
      obtain ⟨before, after, _, hsaved, hupdated, hworker, _, rfl⟩ := planUpdate_ok hrun
      have hid : after.publicId = shiftId :=
        hupdated.publicId.trans (PlanInput.get?_byPublicId hsaved).2
      exact h.set hid hworker rfl
  | delete shiftId =>
      obtain ⟨before, _, _, rfl⟩ := planDelete_ok hrun
      refine ⟨Dict.nodup_keys_erase h.keys _, ?_, ?_⟩
      · exact fun entry hentry => h.ids entry (Dict.mem_erase.mp hentry).1
      · exact fun entry hentry => h.workers entry (Dict.mem_erase.mp hentry).1

theorem planOperations_keyed (h : st.Keyed input) {index : Nat} {operations : List Operation}
    (hrun : planOperations input st index operations = .ok next) : next.Keyed input := by
  induction operations generalizing st index with
  | nil =>
      obtain rfl := Except.ok.inj hrun
      exact h
  | cons operation rest ih =>
      obtain ⟨middle, hfirst, hrest⟩ := bind_eq_ok.mp hrun
      exact ih (planOperation_keyed h hfirst) hrest

/-! ## The mutations -/

/-- A saved shift that is not touched yet is no target of a mutation. -/
theorem PlanState.Tracks.not_target (h : st.Tracks input) (hfresh : FreshIds input)
    {before : PlannedShift} (htouched : shiftId ∉ st.touched)
    (hsaved : Dict.get? input.byPublicId shiftId = some before) :
    ∀ mutation ∈ st.mutations, mutation.publicId ≠ shiftId := by
  rintro mutation hmutation rfl
  cases mutation with
  | create after clientId =>
      obtain ⟨_, _, _, n, _, hid⟩ := h.creates after clientId hmutation
      exact hfresh.ne_saved n hsaved hid.symm
  | update before after => exact htouched (h.updates before after hmutation).1
  | delete before => exact htouched (h.deletes before hmutation).1

/-- A new id is no target of a mutation. -/
theorem PlanState.Tracks.new_not_target (h : st.Tracks input) (hfresh : FreshIds input) :
    ∀ mutation ∈ st.mutations, mutation.publicId ≠ input.idFactory st.created.length := by
  intro mutation hmutation heq
  cases mutation with
  | create after clientId =>
      obtain ⟨_, _, _, n, hn, hid⟩ := h.creates after clientId hmutation
      have hsame : n = st.created.length := hfresh.distinct (hid.symm.trans heq)
      omega
  | update before after =>
      exact hfresh.ne_saved _ (h.updates before after hmutation).2.1 heq.symm
  | delete before => exact hfresh.ne_saved _ (h.deletes before hmutation).2.1 heq.symm

theorem planCreate_tracks (hfresh : FreshIds input) (h : st.Tracks input)
    {clientId userId : Option String} {startTime endTime : String} {role : Option (Option String)}
    (hrun : planCreate input st pointer clientId userId startTime endTime role = .ok next) :
    next.Tracks input := by
  obtain ⟨shift, hid, hinternal, hbreaks, _, rfl⟩ := planCreate_ok hrun
  have hnew : ∀ mutation ∈ st.mutations, mutation.publicId ≠ shift.publicId :=
    hid ▸ h.new_not_target hfresh
  have hget : ∀ k, k ≠ shift.publicId →
      Dict.get? (Dict.set st.working shift.publicId shift) k = Dict.get? st.working k :=
    fun k hk => Dict.get?_set_of_ne _ _ hk.symm
  refine ⟨nodup_keys_append h.targets hnew, h.touched, ?_, ?_, ?_, ?_, ?_⟩
  · simp only [h.created, List.filterMap_append]
    rfl
  · intro after client hmem
    rcases List.mem_append.mp hmem with hmem | hmem
    · obtain ⟨hworking, hnone, hempty, n, hn, hfactory⟩ := h.creates after client hmem
      refine ⟨(hget _ (hnew _ hmem)).trans hworking, hnone, hempty, n, ?_, hfactory⟩
      rw [List.length_append]
      omega
    · obtain ⟨rfl, rfl⟩ := ShiftMutation.create.inj (List.mem_singleton.mp hmem)
      refine ⟨Dict.get?_set_self _ _ _, hinternal, hbreaks, st.created.length, ?_, hid⟩
      simp
  · intro before after hmem
    have hmem : .update before after ∈ st.mutations := by simpa using hmem
    obtain ⟨htouched, hsaved, hworking, hupdated⟩ := h.updates before after hmem
    exact ⟨htouched, hsaved, (hget _ (hnew _ hmem)).trans hworking, hupdated⟩
  · intro before hmem
    have hmem : .delete before ∈ st.mutations := by simpa using hmem
    obtain ⟨htouched, hsaved, hworking⟩ := h.deletes before hmem
    exact ⟨htouched, hsaved, (hget _ (hnew _ hmem)).trans hworking⟩
  · intro k hk
    have hold : ∀ mutation ∈ st.mutations, mutation.publicId ≠ k :=
      fun mutation hmutation => hk mutation (List.mem_append_left _ hmutation)
    have hne : k ≠ shift.publicId := (hk (.create shift clientId) (by simp)).symm
    rw [hget k hne]
    exact h.others k hold

theorem planDelete_tracks (hfresh : FreshIds input) (h : st.Tracks input)
    (hrun : planDelete input st pointer shiftId = .ok next) : next.Tracks input := by
  obtain ⟨before, htouched, hsaved, rfl⟩ := planDelete_ok hrun
  have hid : before.publicId = shiftId := (PlanInput.get?_byPublicId hsaved).2
  have hnew : ∀ mutation ∈ st.mutations, mutation.publicId ≠ before.publicId :=
    hid ▸ h.not_target hfresh htouched hsaved
  have hget : ∀ k, k ≠ before.publicId →
      Dict.get? (Dict.erase st.working shiftId) k = Dict.get? st.working k := by
    intro k hk
    rw [Dict.get?_erase, if_neg (hid ▸ hk.symm)]
  refine ⟨nodup_keys_append h.targets hnew, ?_, ?_, ?_, ?_, ?_, ?_⟩
  · intro k hk
    rcases List.mem_append.mp hk with hk | hk
    · exact h.touched k hk
    · exact ⟨before, List.mem_singleton.mp hk ▸ hsaved⟩
  · simp only [h.created, List.filterMap_append]
    exact (List.append_nil _).symm
  · intro after client hmem
    have hmem : .create after client ∈ st.mutations := by simpa using hmem
    obtain ⟨hworking, hrest⟩ := h.creates after client hmem
    exact ⟨(hget _ (hnew _ hmem)).trans hworking, hrest⟩
  · intro old after hmem
    have hmem : .update old after ∈ st.mutations := by simpa using hmem
    obtain ⟨hold, hsaved, hworking, hupdated⟩ := h.updates old after hmem
    exact ⟨List.mem_append_left _ hold, hsaved, (hget _ (hnew _ hmem)).trans hworking, hupdated⟩
  · intro old hmem
    rcases List.mem_append.mp hmem with hmem | hmem
    · obtain ⟨hold, hsaved, hworking⟩ := h.deletes old hmem
      exact ⟨List.mem_append_left _ hold, hsaved, (hget _ (hnew _ hmem)).trans hworking⟩
    · obtain rfl := ShiftMutation.delete.inj (List.mem_singleton.mp hmem)
      refine ⟨by simp [hid], hid ▸ hsaved, ?_⟩
      rw [Dict.get?_erase, if_pos hid.symm]
  · intro k hk
    have hold : ∀ mutation ∈ st.mutations, mutation.publicId ≠ k :=
      fun mutation hmutation => hk mutation (List.mem_append_left _ hmutation)
    have hne : k ≠ before.publicId := (hk (.delete before) (by simp)).symm
    rw [hget k hne]
    exact h.others k hold

theorem planUpdate_tracks (hfresh : FreshIds input) (h : st.Tracks input)
    {userId : Option (Option String)} {startTime endTime : Option String}
    {role : Option (Option String)}
    (hrun : planUpdate input st pointer shiftId userId startTime endTime role = .ok next) :
    next.Tracks input := by
  obtain ⟨before, after, htouched, hsaved, hupdated, _, hmoved, rfl⟩ := planUpdate_ok hrun
  have hid : before.publicId = shiftId := (PlanInput.get?_byPublicId hsaved).2
  have hnew : ∀ mutation ∈ st.mutations, mutation.publicId ≠ before.publicId :=
    hid ▸ h.not_target hfresh htouched hsaved
  have hget : ∀ k, k ≠ before.publicId →
      Dict.get? (Dict.set st.working shiftId after) k = Dict.get? st.working k :=
    fun k hk => Dict.get?_set_of_ne _ _ (hid ▸ hk.symm)
  have htouched_all : ∀ k ∈ st.touched ++ [shiftId],
      ∃ before, Dict.get? input.byPublicId k = some before := by
    intro k hk
    rcases List.mem_append.mp hk with hk | hk
    · exact h.touched k hk
    · exact ⟨before, List.mem_singleton.mp hk ▸ hsaved⟩
  have hcreates : ∀ after' client, .create after' client ∈ st.mutations →
      Dict.get? (Dict.set st.working shiftId after) after'.publicId = some after' ∧
        after'.internalId = none ∧ after'.breaks = [] ∧
          ∃ n < st.created.length, after'.publicId = input.idFactory n := by
    intro after' client hmem
    obtain ⟨hworking, hrest⟩ := h.creates after' client hmem
    exact ⟨(hget _ (hnew _ hmem)).trans hworking, hrest⟩
  have hupdates : ∀ old new, .update old new ∈ st.mutations →
      old.publicId ∈ st.touched ++ [shiftId] ∧
        Dict.get? input.byPublicId old.publicId = some old ∧
        Dict.get? (Dict.set st.working shiftId after) old.publicId = some new ∧
          Updated old new := by
    intro old new hmem
    obtain ⟨hold, hsaved, hworking, hupdated⟩ := h.updates old new hmem
    exact ⟨List.mem_append_left _ hold, hsaved, (hget _ (hnew _ hmem)).trans hworking, hupdated⟩
  have hdeletes : ∀ old, .delete old ∈ st.mutations →
      old.publicId ∈ st.touched ++ [shiftId] ∧
        Dict.get? input.byPublicId old.publicId = some old ∧
        Dict.get? (Dict.set st.working shiftId after) old.publicId = none := by
    intro old hmem
    obtain ⟨hold, hsaved, hworking⟩ := h.deletes old hmem
    exact ⟨List.mem_append_left _ hold, hsaved, (hget _ (hnew _ hmem)).trans hworking⟩
  by_cases hsame : sameShift before after = true
  · -- the update is dropped: the saved shift is an other one
    simp only [if_pos hsame]
    refine ⟨h.targets, htouched_all, h.created, hcreates, hupdates, hdeletes, ?_⟩
    intro k hk
    by_cases heq : k = shiftId
    · subst heq
      refine ⟨fun saved hfound => ?_, fun hnone => absurd (hsaved.symm.trans hnone) (by simp)⟩
      obtain rfl := Option.some.inj (hsaved.symm.trans hfound)
      exact ⟨after, Dict.get?_set_self _ _ _, sameContent_of_sameShift hupdated hmoved hsame⟩
    · rw [hget k (hid.symm ▸ heq)]
      exact h.others k hk
  · simp only [if_neg hsame]
    refine ⟨nodup_keys_append h.targets hnew, htouched_all, ?_, ?_, ?_, ?_, ?_⟩
    · simp only [h.created, List.filterMap_append]
      exact (List.append_nil _).symm
    · intro after' client hmem
      exact hcreates after' client (by simpa using hmem)
    · intro old new hmem
      rcases List.mem_append.mp hmem with hmem | hmem
      · exact hupdates old new hmem
      · obtain ⟨rfl, rfl⟩ := ShiftMutation.update.inj (List.mem_singleton.mp hmem)
        refine ⟨by simp [hid], hid ▸ hsaved, ?_, hupdated⟩
        rw [hid]
        exact Dict.get?_set_self _ _ _
    · intro old hmem
      exact hdeletes old (by simpa using hmem)
    · intro k hk
      have hold : ∀ mutation ∈ st.mutations, mutation.publicId ≠ k :=
        fun mutation hmutation => hk mutation (List.mem_append_left _ hmutation)
      have hne : k ≠ before.publicId := (hk (.update before after) (by simp)).symm
      rw [hget k hne]
      exact h.others k hold

theorem planOperation_tracks (hfresh : FreshIds input) (h : st.Tracks input) {index : Nat}
    {operation : Operation} (hrun : planOperation input st index operation = .ok next) :
    next.Tracks input := by
  cases operation with
  | create clientId userId startTime endTime role => exact planCreate_tracks hfresh h hrun
  | update shiftId userId startTime endTime role => exact planUpdate_tracks hfresh h hrun
  | delete shiftId => exact planDelete_tracks hfresh h hrun

theorem planOperations_tracks (hfresh : FreshIds input) (h : st.Tracks input) {index : Nat}
    {operations : List Operation} (hrun : planOperations input st index operations = .ok next) :
    next.Tracks input := by
  induction operations generalizing st index with
  | nil =>
      obtain rfl := Except.ok.inj hrun
      exact h
  | cons operation rest ih =>
      obtain ⟨middle, hfirst, hrest⟩ := bind_eq_ok.mp hrun
      exact ih (planOperation_tracks hfresh h hfirst) hrest

end Facts

end LunchLineup.Scheduling
