import LunchLineup.Scheduling.PlanState

/-!
# A plan is safe

Overlaps are looked for between neighbours of the sorted list only.  In that list the shifts
of one worker are next to each other in order of their start, and all windows have been
checked before, so a shift that ends before its neighbour starts ends before every later
shift of the worker starts: `checkNeighbours_eq_ok_iff` makes the loop over neighbours a
statement about all pairs of the final state.

The breaks need a fact about the loop over the operations: no later operation moves the
breaks of a shift that has been updated, `planOperations_breaks`.
-/

namespace LunchLineup.Scheduling

open LunchLineup.Lib LunchLineup.Billing
open LunchLineup.Payroll (given)

/-! ## The order of the assigned shifts -/

section Order

variable {locale : Collation}

/-- A comparison by a key. -/
theorem transCmp_on {α β : Type*} (cmp : β → β → Ordering) [Std.TransCmp cmp] (key : α → β) :
    Std.TransCmp fun a b => cmp (key a) (key b) where
  eq_swap := Std.OrientedCmp.eq_swap
  isLE_trans := Std.TransCmp.isLE_trans

theorem transCmp_compareAssigned (locale : Collation) : Std.TransCmp (compareAssigned locale) := by
  have := locale.trans
  have hworker := transCmp_on locale.compare fun shift : PlannedShift => shift.worker.getD ""
  have hstart := transCmp_on (compare : Int → Int → Ordering) PlannedShift.startTime
  have hid := transCmp_on locale.compare PlannedShift.publicId
  exact inferInstanceAs (Std.TransCmp (compareLex _ (compareLex _ _)))

theorem assignedLe_trans {a b c : PlannedShift} (hab : assignedLe locale a b)
    (hbc : assignedLe locale b c) : assignedLe locale a c :=
  (transCmp_compareAssigned locale).isLE_trans hab hbc

theorem assignedLe_total (a b : PlannedShift) : assignedLe locale a b ∨ assignedLe locale b a := by
  have := transCmp_compareAssigned locale
  have hswap : compareAssigned locale b a = (compareAssigned locale a b).swap :=
    Std.OrientedCmp.eq_swap
  unfold assignedLe
  rw [hswap]
  cases compareAssigned locale a b with
  | lt => exact .inl rfl
  | eq => exact .inl rfl
  | gt => exact .inr rfl

theorem perm_assignedShifts (locale : Collation) (shifts : List PlannedShift) :
    (assignedShifts locale shifts).Perm (shifts.filter (·.worker.isSome)) :=
  List.perm_insertionSort _ _

theorem mem_assignedShifts {shifts : List PlannedShift} {shift : PlannedShift} :
    shift ∈ assignedShifts locale shifts ↔ shift ∈ shifts ∧ shift.worker.isSome = true := by
  rw [(perm_assignedShifts locale shifts).mem_iff, List.mem_filter]

theorem pairwise_assignedShifts (locale : Collation) (shifts : List PlannedShift) :
    (assignedShifts locale shifts).Pairwise (assignedLe locale) := by
  have htotal : Std.Total (assignedLe locale) := ⟨assignedLe_total⟩
  have htrans : IsTrans PlannedShift (assignedLe locale) := ⟨fun _ _ _ => assignedLe_trans⟩
  exact List.pairwise_insertionSort (assignedLe locale) _

/-- An assigned shift has its worker as its user. -/
theorem PlannedShift.worker_eq {shift : PlannedShift} (h : shift.worker.isSome = true) :
    shift.worker = shift.userInternalId := by
  obtain ⟨id, hid⟩ := Option.isSome_iff_exists.mp h
  rw [hid]
  exact (Option.filter_eq_some_iff.mp hid).1.symm

/-- Between two shifts of one worker there are only shifts of that worker. -/
theorem worker_between {a b c : PlannedShift} (hab : assignedLe locale a b)
    (hbc : assignedLe locale b c) (hac : a.worker = c.worker) :
    a.worker.getD "" = b.worker.getD "" := by
  have := locale.trans
  have := locale.lawful
  have hfirst := Ordering.isLE_left_of_isLE_then hab
  have hsecond := Ordering.isLE_left_of_isLE_then hbc
  rw [← hac] at hsecond
  exact Std.LawfulEqCmp.eq_of_compare (Std.OrientedCmp.isLE_antisymm hfirst hsecond)

/-- Shifts of one worker are in order of their start. -/
theorem start_le_of_assignedLe {a b : PlannedShift} (hab : assignedLe locale a b)
    (hworker : a.worker = b.worker) : a.startTime ≤ b.startTime := by
  have := locale.trans
  have hle : ((compare a.startTime b.startTime).then
      (locale.compare a.publicId b.publicId)).isLE = true := by
    simpa [assignedLe, compareAssigned, hworker, Std.ReflCmp.compare_self] using hab
  exact Int.isLE_compare.mp (Ordering.isLE_left_of_isLE_then hle)

end Order

/-! ## Neighbours and pairs -/

/-- What the loop over neighbours asks of two shifts. -/
def Apart (previous current : PlannedShift) : Prop :=
  ¬ (current.userInternalId = previous.userInternalId ∧ previous.Overlaps current)

theorem PlannedShift.Overlaps.symm {a b : PlannedShift} (h : a.Overlaps b) : b.Overlaps a :=
  ⟨h.2, h.1⟩

theorem Apart.symm {a b : PlannedShift} (h : Apart a b) : Apart b a :=
  fun hcollides => h ⟨hcollides.1.symm, hcollides.2.symm⟩

theorem checkNeighbours_eq_ok {shifts : List PlannedShift} {u : Unit} :
    checkNeighbours shifts = .ok u ↔ shifts.IsChain Apart := by
  induction shifts using checkNeighbours.induct with
  | case1 => simp [checkNeighbours]
  | case2 shift => simp [checkNeighbours]
  | case3 previous current rest ih =>
      rw [checkNeighbours, bind_eq_ok, List.isChain_cons_cons]
      simp only [ensure_eq_ok, exists_and_left, ih, Apart]
      simp

/-- The loop over neighbours passes exactly when no two shifts of the final state collide. -/
theorem checkNeighbours_eq_ok_iff {locale : Collation} {shifts : List PlannedShift} {u : Unit}
    (hvalid : ∀ shift ∈ shifts, shift.startTime < shift.endTime) :
    checkNeighbours (assignedShifts locale shifts) = .ok u ↔
      shifts.Pairwise fun left right => ¬ left.Collides right := by
  have hassigned : ∀ shift ∈ assignedShifts locale shifts,
      shift.worker.isSome = true ∧ shift.startTime < shift.endTime :=
    fun shift hshift => ⟨(mem_assignedShifts.mp hshift).2, hvalid _ (mem_assignedShifts.mp hshift).1⟩
  have hsorted := (pairwise_assignedShifts locale shifts).imp_of_mem
    (S := fun a b => assignedLe locale a b ∧ (a.worker.isSome = true ∧ a.startTime < a.endTime) ∧
      b.worker.isSome = true ∧ b.startTime < b.endTime)
    fun ha hb hab => ⟨hab, hassigned _ ha, hassigned _ hb⟩
  have hpairs : (assignedShifts locale shifts).IsChain Apart ↔
      (assignedShifts locale shifts).Pairwise Apart := by
    refine ⟨fun hchain => pairwise_of_isChain hsorted hchain ?_, List.Pairwise.isChain⟩
    rintro a b c ⟨hab, ⟨ha, _⟩, hb, hwindow⟩ ⟨hbc, _, hc, _⟩ _ hapart ⟨hsame, hoverlap⟩
    have hworker : a.worker = c.worker := by
      rw [PlannedShift.worker_eq ha, PlannedShift.worker_eq hc, hsame]
    have hmiddle : a.worker = b.worker := by
      obtain ⟨first, hfirst⟩ := Option.isSome_iff_exists.mp ha
      obtain ⟨second, hsecond⟩ := Option.isSome_iff_exists.mp hb
      simpa [hfirst, hsecond] using worker_between hab hbc hworker
    have huser : b.userInternalId = a.userInternalId := by
      rw [← PlannedShift.worker_eq ha, ← PlannedShift.worker_eq hb, hmiddle]
    have hstart := start_le_of_assignedLe hab hmiddle
    have hnext := start_le_of_assignedLe hbc (hmiddle.symm.trans hworker)
    -- the neighbour starts when the shift is over, and the later shift not before it
    have hover : a.endTime ≤ b.startTime := by
      by_contra hlt
      exact hapart ⟨huser, by omega, by omega⟩
    have hlater : c.startTime < a.endTime := hoverlap.2
    omega
  rw [checkNeighbours_eq_ok, hpairs,
    (perm_assignedShifts locale shifts).pairwise_iff Apart.symm, List.pairwise_filter]
  refine ⟨fun hpair => hpair.imp ?_, fun hpair => hpair.imp ?_⟩
  · rintro left right hapart ⟨hsome, hworker, hoverlap⟩
    have hright : right.worker.isSome = true := hworker ▸ hsome
    refine hapart hsome hright ⟨?_, hoverlap⟩
    rw [← PlannedShift.worker_eq hsome, ← PlannedShift.worker_eq hright, hworker]
  · rintro left right hcollides hleft hright ⟨hsame, hoverlap⟩
    refine hcollides ⟨hleft, ?_, hoverlap⟩
    rw [PlannedShift.worker_eq hleft, PlannedShift.worker_eq hright, hsame]

/-! ## The final state -/

/-- The shift is one of its worker's while another shift of the worker runs elsewhere. -/
def PlannedShift.ClashesOutside (shift : PlannedShift) (external : ExternalShift) : Prop :=
  shift.worker = some external.userInternalId ∧
    Overlap shift.startTime shift.endTime external.startTime external.endTime

/-- What is promised of a final state. -/
structure SafeShifts (input : PlanInput) (shifts : List PlannedShift) : Prop where
  ordered : ∀ shift ∈ shifts, shift.startTime < shift.endTime
  inside : ∀ shift ∈ shifts, input.scheduleStart ≤ shift.startTime ∧
    shift.startTime < input.scheduleEnd ∧ shift.endTime - shift.startTime ≤ dayMs
  apart : shifts.Pairwise fun left right => ¬ left.Collides right
  outside : ∀ shift ∈ shifts, ∀ external ∈ input.externalShifts, ¬ shift.ClashesOutside external

theorem validateWindow_eq_ok {scheduleStart scheduleEnd : Int} {shift : PlannedShift} {u : Unit} :
    validateWindow scheduleStart scheduleEnd shift = .ok u ↔ shift.startTime < shift.endTime ∧
      scheduleStart ≤ shift.startTime ∧ shift.startTime < scheduleEnd ∧
        shift.endTime - shift.startTime ≤ dayMs := by
  simp [validateWindow, bind_eq_ok]

theorem conflicts_iff {shift : PlannedShift} {external : ExternalShift}
    (h : shift.worker.isSome = true) : shift.Conflicts external ↔ shift.ClashesOutside external := by
  rw [PlannedShift.Conflicts, PlannedShift.ClashesOutside, PlannedShift.worker_eq h]

/-- The loop over the shifts outside of the schedule passes exactly when none clashes. -/
theorem checkExternal_eq_ok_iff {locale : Collation} {externalShifts : List ExternalShift}
    {shifts : List PlannedShift} :
    (∀ shift ∈ assignedShifts locale shifts, checkExternal externalShifts shift = .ok ()) ↔
      ∀ shift ∈ shifts, ∀ external ∈ externalShifts, ¬ shift.ClashesOutside external := by
  simp only [checkExternal, ensure_eq_ok, mem_assignedShifts]
  constructor
  · intro h shift hshift external hexternal hclash
    have hsome : shift.worker.isSome = true := by simp [hclash.1]
    exact h shift ⟨hshift, hsome⟩ external hexternal ((conflicts_iff hsome).mpr hclash)
  · intro h shift hshift external hexternal hconflict
    exact h shift hshift.1 external hexternal ((conflicts_iff hshift.2).mp hconflict)

theorem validateFinal_eq_ok {locale : Collation} {input : PlanInput} {shifts : List PlannedShift}
    {u : Unit} : validateFinal locale input shifts = .ok u ↔ SafeShifts input shifts := by
  simp only [validateFinal, bind_eq_ok, checkAll_eq_ok, validateWindow_eq_ok]
  constructor
  · rintro ⟨_, hwindow, _, hneighbours, houtside⟩
    have hordered : ∀ shift ∈ shifts, shift.startTime < shift.endTime :=
      fun shift hshift => (hwindow shift hshift).1
    refine ⟨hordered, fun shift hshift => (hwindow shift hshift).2, ?_, ?_⟩
    · exact (checkNeighbours_eq_ok_iff hordered).mp hneighbours
    · exact checkExternal_eq_ok_iff.mp houtside
  · intro h
    refine ⟨(), fun shift hshift => ⟨h.ordered shift hshift, h.inside shift hshift⟩, (), ?_, ?_⟩
    · exact (checkNeighbours_eq_ok_iff h.ordered).mpr h.apart
    · exact checkExternal_eq_ok_iff.mpr h.outside

/-! ## Rejections -/

/-- The computation is never rejected for an overlap. -/
def NoOverlapError {α : Type} (x : Except Problem α) : Prop :=
  ∀ problem, x = .error problem → problem.code ≠ "schedule_overlap"

section Rejections

variable {α β : Type} {x : Except Problem α} {input : PlanInput} {st : PlanState}

theorem NoOverlapError.ok (a : α) : NoOverlapError (.ok a) := fun _ h => by cases h

theorem NoOverlapError.error {problem : Problem} (h : problem.code ≠ "schedule_overlap") :
    NoOverlapError (.error problem : Except Problem α) := by
  rintro other hother
  obtain rfl := Except.error.inj hother
  exact h

theorem NoOverlapError.bind {f : α → Except Problem β} (hx : NoOverlapError x)
    (hf : ∀ a, NoOverlapError (f a)) : NoOverlapError (x >>= f) := by
  cases x with
  | ok a => exact hf a
  | error problem => exact .error (hx problem rfl)

theorem NoOverlapError.ensure {condition : Prop} [Decidable condition] {problem : Problem}
    (h : problem.code ≠ "schedule_overlap") : NoOverlapError (Lib.ensure condition problem) := by
  unfold Lib.ensure
  split
  · exact .ok ()
  · exact .error h

theorem NoOverlapError.checkAll {items : List β} {check : β → Except Problem Unit}
    (h : ∀ item, NoOverlapError (check item)) : NoOverlapError (Lib.checkAll items check) := by
  induction items with
  | nil => exact .ok ()
  | cons item rest ih => exact .bind (h item) fun _ => ih

theorem parseUtcInstant_noOverlapError (value pointer : String) :
    NoOverlapError (parseUtcInstant value pointer) := by
  unfold parseUtcInstant
  cases Breaks.parseUtcInstant value with
  | ok instant => exact .ok instant
  | error problem => exact .error (by simp [Problem.at])

theorem normalizedRole_noOverlapError (value : Option String) :
    NoOverlapError (normalizedRole value) := by
  unfold normalizedRole
  split
  · exact .ok none
  · exact .bind (.ensure (by simp)) fun _ => .ok _

theorem userFor_noOverlapError (publicId : Option String)
    (usersByPublicId : Dict String ResolvedUser) (pointer : String) :
    NoOverlapError (userFor publicId usersByPublicId pointer) := by
  unfold userFor
  split
  · exact .ok none
  · split
    · exact .error (by simp [Problem.at])
    · exact .ok _

theorem findTouched_noOverlapError (pointer shiftId : String) :
    NoOverlapError (findTouched input st pointer shiftId) := by
  refine .bind (.ensure (by simp [Problem.at])) fun _ => ?_
  split
  · exact .error (by simp)
  · exact .ok _

theorem planOperation_noOverlapError (index : Nat) (operation : Operation) :
    NoOverlapError (planOperation input st index operation) := by
  cases operation with
  | create clientId userId startTime endTime role =>
      refine .bind (.ensure (by simp [Problem.at])) fun _ => .bind (userFor_noOverlapError _ _ _) fun _ => ?_
      refine .bind (parseUtcInstant_noOverlapError _ _) fun _ => ?_
      refine .bind (parseUtcInstant_noOverlapError _ _) fun _ => ?_
      exact .bind (normalizedRole_noOverlapError _) fun _ => .ok _
  | update shiftId userId startTime endTime role =>
      refine .bind (findTouched_noOverlapError _ _) fun before => ?_
      have hinstant : ∀ saved value pointer, NoOverlapError (instantOr saved value pointer) := by
        intro saved value pointer
        unfold instantOr
        split
        · exact .ok saved
        · exact parseUtcInstant_noOverlapError _ _
      refine .bind (hinstant _ _ _) fun _ => .bind (hinstant _ _ _) fun _ => .bind ?_ fun _ => ?_
      · unfold updatedUser
        split
        · exact .ok _
        · exact .bind (userFor_noOverlapError _ _ _) fun _ => .ok _
      refine .bind ?_ fun _ => .bind (.bind (.ensure (by simp [Problem.at])) fun _ => .ok _) fun _ => .ok _
      unfold updatedRole
      split
      · exact .ok _
      · exact normalizedRole_noOverlapError _
  | delete shiftId => exact .bind (findTouched_noOverlapError _ _) fun _ => .ok _

theorem planOperations_noOverlapError (index : Nat) (operations : List Operation) :
    NoOverlapError (planOperations input st index operations) := by
  induction operations generalizing st index with
  | nil => exact .ok st
  | cons operation rest ih =>
      exact .bind (planOperation_noOverlapError index operation) fun _ => ih _

theorem validateWindow_noOverlapError (scheduleStart scheduleEnd : Int) (shift : PlannedShift) :
    NoOverlapError (validateWindow scheduleStart scheduleEnd shift) :=
  .bind (.ensure (by simp [Problem.at])) fun _ => .ensure (by simp [Problem.at])

end Rejections

/-! ## Breaks of updated shifts -/

/-- Every break is inside of the shift, where it was in the saved shift. -/
def BreaksKept (before shift : PlannedShift) : Prop :=
  ∀ item ∈ shift.breaks, (shift.startTime ≤ item.startTime ∧ item.endTime ≤ shift.endTime) ∧
    ∃ old ∈ before.breaks, KeepsOffset before shift old item

theorem Updated.breaksKept {before after : PlannedShift} (h : Updated before after) :
    BreaksKept before after :=
  fun item hitem => ⟨h.inside item hitem, exists_left_of_forall₂ h.offsets hitem⟩

section Breaks

variable {input : PlanInput} {st next : PlanState}

/-- An entry of the dictionary is left alone, or a new shift took its place. -/
def Untouched (input : PlanInput) (st next : PlanState) (k : String) : Prop :=
  Dict.get? next.working k = Dict.get? st.working k ∨
    ∃ shift n, Dict.get? next.working k = some shift ∧ shift.breaks = [] ∧ k = input.idFactory n

theorem Untouched.trans {middle : PlanState} {k : String} (h : Untouched input st middle k)
    (hnext : Untouched input middle next k) : Untouched input st next k := by
  rcases hnext with heq | hnew
  · rcases h with hfirst | ⟨shift, n, hget, hrest⟩
    · exact .inl (heq.trans hfirst)
    · exact .inr ⟨shift, n, heq.trans hget, hrest⟩
  · exact .inr hnew

/-- No operation is about a shift that has been named before. -/
theorem planOperation_untouched {index : Nat} {operation : Operation} {k : String}
    (htouched : k ∈ st.touched) (hrun : planOperation input st index operation = .ok next) :
    k ∈ next.touched ∧ Untouched input st next k := by
  cases operation with
  | create clientId userId startTime endTime role =>
      obtain ⟨shift, hid, _, hbreaks, _, rfl⟩ := planCreate_ok hrun
      refine ⟨htouched, ?_⟩
      -- A new shift takes the place of an entry only if its id is drawn again.
      by_cases heq : shift.publicId = k
      · exact .inr ⟨shift, _, heq ▸ Dict.get?_set_self _ _ _, hbreaks, heq.symm.trans hid⟩
      · exact .inl (Dict.get?_set_of_ne _ _ heq)
  | update shiftId userId startTime endTime role =>
      obtain ⟨before, after, hnew, _, _, _, _, rfl⟩ := planUpdate_ok hrun
      have hne : shiftId ≠ k := fun heq => hnew (heq ▸ htouched)
      exact ⟨List.mem_append_left _ htouched, .inl (Dict.get?_set_of_ne _ _ hne)⟩
  | delete shiftId =>
      obtain ⟨before, hnew, _, rfl⟩ := planDelete_ok hrun
      have hne : shiftId ≠ k := fun heq => hnew (heq ▸ htouched)
      refine ⟨List.mem_append_left _ htouched, .inl ?_⟩
      rw [Dict.get?_erase, if_neg hne]

theorem planOperations_untouched {index : Nat} {operations : List Operation} {k : String}
    (htouched : k ∈ st.touched) (hrun : planOperations input st index operations = .ok next) :
    Untouched input st next k := by
  induction operations generalizing st index with
  | nil =>
      obtain rfl := Except.ok.inj hrun
      exact .inl rfl
  | cons operation rest ih =>
      obtain ⟨middle, hfirst, hrest⟩ := bind_eq_ok.mp hrun
      obtain ⟨hmiddle, huntouched⟩ := planOperation_untouched htouched hfirst
      exact huntouched.trans (ih hmiddle hrest)

/-- The loop leaves what an update made of its shift, unless the id of the shift is drawn
again. -/
theorem planOperations_update {index : Nat} {operations : List Operation} {shiftId : String}
    {userId : Option (Option String)} {startTime endTime : Option String}
    {role : Option (Option String)}
    (hmem : .update shiftId userId startTime endTime role ∈ operations)
    (hrun : planOperations input st index operations = .ok next) :
    ∃ before, Dict.get? input.byPublicId shiftId = some before ∧ ∃ shift,
      Dict.get? next.working shiftId = some shift ∧
        (Updated before shift ∨ shift.breaks = [] ∧ ∃ n, shiftId = input.idFactory n) := by
  induction operations generalizing st index with
  | nil => cases hmem
  | cons operation rest ih =>
      obtain ⟨middle, hfirst, hrest⟩ := bind_eq_ok.mp hrun
      rcases List.mem_cons.mp hmem with rfl | hlater
      · obtain ⟨before, after, _, hsaved, hupdated, _, _, rfl⟩ := planUpdate_ok hfirst
        -- From here on the id has been named, so later operations leave its entry.
        have htouched : shiftId ∈ st.touched ++ [shiftId] := by simp
        refine ⟨before, hsaved, ?_⟩
        rcases planOperations_untouched htouched hrest with hkept | ⟨shift, n, hget, hempty, hn⟩
        · exact ⟨after, hkept.trans (Dict.get?_set_self _ _ _), .inl hupdated⟩
        · exact ⟨shift, hget, .inr ⟨hempty, n, hn⟩⟩
      · exact ih hlater hrest

end Breaks

/-! ## The planner -/

/-- The update of a saved shift by the request, in a final state. -/
structure UpdateKept (input : PlanInput) (shifts : List PlannedShift) (shiftId : String) :
    Prop where
  breaks : ∃ before ∈ input.currentShifts, before.publicId = shiftId ∧
    ∀ shift ∈ shifts, shift.publicId = shiftId → BreaksKept before shift
  updated : FreshIds input → ∃ before ∈ input.currentShifts, before.publicId = shiftId ∧
    ∃ shift ∈ shifts, Updated before shift

/-- A successful run of the planner. -/
theorem planScheduleChangeSet_eq_ok {locale : Collation} {input : PlanInput}
    {plan : ChangeSetPlan} :
    planScheduleChangeSet locale input = .ok plan ↔ ∃ st,
      planOperations input input.initial 0 input.operations = .ok st ∧ st.mutations ≠ [] ∧
        SafeShifts input (st.working.map Prod.snd) ∧
          plan = ⟨st.working.map Prod.snd, st.mutations, st.created⟩ := by
  simp only [planScheduleChangeSet, bind_eq_ok, ensure_eq_ok, validateFinal_eq_ok,
    Except.ok.injEq]
  constructor
  · rintro ⟨st, hst, _, hmutations, _, hsafe, hplan⟩
    exact ⟨st, hst, hmutations, hsafe, hplan.symm⟩
  · rintro ⟨st, hst, hmutations, hsafe, hplan⟩
    exact ⟨st, hst, (), hmutations, (), hsafe, hplan.symm⟩

theorem updateKept_of_run {input : PlanInput} {st : PlanState}
    (hrun : planOperations input input.initial 0 input.operations = .ok st) {shiftId : String}
    {userId : Option (Option String)} {startTime endTime : Option String}
    {role : Option (Option String)}
    (hmem : .update shiftId userId startTime endTime role ∈ input.operations) :
    UpdateKept input (st.working.map Prod.snd) shiftId := by
  obtain ⟨before, hsaved, after, hget, hafter⟩ := planOperations_update hmem hrun
  obtain ⟨hbefore, hid⟩ := PlanInput.get?_byPublicId hsaved
  have hkeyed := planOperations_keyed input.initial_keyed hrun
  refine ⟨⟨before, hbefore, hid, ?_⟩, fun hfresh => ⟨before, hbefore, hid, after, ?_, ?_⟩⟩
  · intro shift hshift hshiftId
    obtain ⟨entry, hentry, rfl⟩ := List.mem_map.mp hshift
    have hkey : entry.1 = shiftId := (hkeyed.ids entry hentry).symm.trans hshiftId
    have hfound : Dict.get? st.working shiftId = some entry.2 :=
      hkey ▸ Dict.get?_of_mem hkeyed.keys hentry
    obtain rfl := Option.some.inj (hget.symm.trans hfound)
    rcases hafter with hupdated | ⟨hempty, _⟩
    · exact hupdated.breaksKept
    · intro item hitem
      rw [hempty] at hitem
      cases hitem
  · exact List.mem_map.mpr ⟨_, Dict.mem_of_get? hget, rfl⟩
  · rcases hafter with hupdated | ⟨_, n, hn⟩
    · exact hupdated
    · exact absurd hn.symm (hfresh.ne_saved n hsaved)

/-- An overlap that validation reports is there. -/
theorem validateFinal_overlap {locale : Collation} {input : PlanInput}
    {shifts : List PlannedShift} {problem : Problem}
    (h : validateFinal locale input shifts = .error problem)
    (hcode : problem.code = "schedule_overlap") :
    (¬ shifts.Pairwise fun left right => ¬ left.Collides right) ∨
      ∃ shift ∈ shifts, ∃ external ∈ input.externalShifts, shift.ClashesOutside external := by
  cases hwindow : checkAll shifts (validateWindow input.scheduleStart input.scheduleEnd) with
  | error first =>
      have hfirst : first = problem := by
        simpa [validateFinal, hwindow] using h
      exact absurd hcode
        (NoOverlapError.checkAll (validateWindow_noOverlapError _ _) _ (hfirst ▸ hwindow))
  | ok u =>
      by_contra hnone
      rw [not_or, not_not] at hnone
      have hall := checkAll_eq_ok.mp hwindow
      have hsafe : SafeShifts input shifts := by
        refine ⟨?_, ?_, hnone.1, ?_⟩
        · exact fun shift hshift => (validateWindow_eq_ok.mp (hall shift hshift)).1
        · exact fun shift hshift => (validateWindow_eq_ok.mp (hall shift hshift)).2
        · exact fun shift hshift external hexternal hclash =>
            hnone.2 ⟨shift, hshift, external, hexternal, hclash⟩
      have hok : validateFinal locale input shifts = .ok () := validateFinal_eq_ok.mpr hsafe
      cases hok.symm.trans h

/-- A plan is safe, and an overlap that is reported is there. -/
theorem planned_schedule_safe (locale : Collation) (input : PlanInput) :
    (∀ plan, planScheduleChangeSet locale input = .ok plan →
      SafeShifts input plan.finalShifts ∧
        ∀ shiftId userId startTime endTime role,
          .update shiftId userId startTime endTime role ∈ input.operations →
            UpdateKept input plan.finalShifts shiftId) ∧
      ∀ problem, planScheduleChangeSet locale input = .error problem →
        problem.code = "schedule_overlap" →
          ∃ st, planOperations input input.initial 0 input.operations = .ok st ∧
            ((¬ (st.working.map Prod.snd).Pairwise fun left right => ¬ left.Collides right) ∨
              ∃ shift ∈ st.working.map Prod.snd, ∃ external ∈ input.externalShifts,
                shift.ClashesOutside external) := by
  constructor
  · intro plan hplan
    obtain ⟨st, hrun, _, hsafe, rfl⟩ := planScheduleChangeSet_eq_ok.mp hplan
    exact ⟨hsafe, fun _ _ _ _ _ hmem => updateKept_of_run hrun hmem⟩
  · intro problem herror hcode
    cases hrun : planOperations input input.initial 0 input.operations with
    | error first =>
        have hfirst : first = problem := by
          simpa [planScheduleChangeSet, hrun] using herror
        exact absurd hcode (planOperations_noOverlapError 0 input.operations _ (hfirst ▸ hrun))
    | ok st =>
        refine ⟨st, rfl, ?_⟩
        by_cases hmutations : st.mutations = []
        · have hproblem : problem = ⟨422, "no_effective_changes", []⟩ := by
            simpa [planScheduleChangeSet, hrun, ensure, hmutations, eq_comm] using herror
          rw [hproblem] at hcode
          exact absurd hcode (by simp)
        · cases hvalid : validateFinal locale input (st.working.map Prod.snd) with
          | error first =>
              have hfirst : first = problem := by
                simpa [planScheduleChangeSet, hrun, ensure, hmutations, hvalid] using herror
              exact validateFinal_overlap hvalid (hfirst ▸ hcode)
          | ok u =>
              have hok : planScheduleChangeSet locale input =
                  .ok ⟨st.working.map Prod.snd, st.mutations, st.created⟩ :=
                planScheduleChangeSet_eq_ok.mpr
                  ⟨st, hrun, hmutations, validateFinal_eq_ok.mp hvalid, rfl⟩
              cases hok.symm.trans herror

/-! ## A run

Ana's morning of 2026-07-06 is moved by two hours, with its break. -/

namespace Sample

/-- The order of the code points. -/
def locale : Collation := ⟨compare, inferInstance, inferInstance⟩

/-- An hour of 2026-07-06. -/
def hour (n : Int) : Int := 1783296000000 + n * 3600000

/-- Ana's saved shift. -/
def morning : PlannedShift where
  internalId := some "row-1"
  publicId := "morning"
  userInternalId := some "ana"
  userPublicId := some "ana-public"
  startTime := hour 8
  endTime := hour 12
  role := some "Cook"
  breaks := [⟨"break-1", hour 9, hour 10⟩]
  sourcePointer := "/saved"

/-- Ana's second shift. -/
def evening : PlannedShift :=
  { morning with
    internalId := some "row-2"
    publicId := "evening"
    startTime := hour 16
    endTime := hour 20
    breaks := [] }

/-- A request that moves the morning to `start` and `finish`. -/
def moving (start finish : String) : PlanInput where
  scheduleStart := hour 0
  scheduleEnd := hour 24
  currentShifts := [morning, evening]
  externalShifts := [⟨"row-3", "ana", hour 22, hour 23⟩]
  usersByPublicId := []
  operations := [.update "morning" none (some start) (some finish) none]
  idFactory := fun n => String.ofList (List.replicate n 'n')

def later : PlanInput := moving "2026-07-06T10:00:00Z" "2026-07-06T14:00:00Z"

def tooLate : PlanInput := moving "2026-07-06T13:00:00Z" "2026-07-06T17:00:00Z"

theorem freshIds (start finish : String) : FreshIds (moving start finish) := by
  constructor
  · intro n shift hshift heq
    have hsaved : shift.publicId = "morning" ∨ shift.publicId = "evening" := by
      rcases List.mem_cons.mp hshift with rfl | hshift
      · exact .inl rfl
      · exact .inr (List.mem_singleton.mp hshift ▸ rfl)
    have hletters : shift.publicId.toList = List.replicate n 'n' := by
      rw [← heq]
      exact String.toList_ofList
    have hall : ∀ letter ∈ shift.publicId.toList, letter = 'n' := by
      rw [hletters]
      exact fun letter hletter => List.eq_of_mem_replicate hletter
    rcases hsaved with hid | hid
    · exact absurd (hall 'm' (by rw [hid]; decide)) (by decide)
    · exact absurd (hall 'e' (by rw [hid]; decide)) (by decide)
  · intro n m heq
    have hletters := congrArg String.toList heq
    simpa [moving] using congrArg List.length hletters

end Sample

theorem later_morning_safe :
    (∃ plan, planScheduleChangeSet Sample.locale Sample.later = .ok plan ∧
      SafeShifts Sample.later plan.finalShifts ∧
        ∃ before ∈ Sample.later.currentShifts, before.publicId = "morning" ∧
          ∃ shift ∈ plan.finalShifts, Updated before shift) ∧
      ∃ st, planOperations Sample.tooLate Sample.tooLate.initial 0 Sample.tooLate.operations =
          .ok st ∧
        ((¬ (st.working.map Prod.snd).Pairwise fun left right => ¬ left.Collides right) ∨
          ∃ shift ∈ st.working.map Prod.snd, ∃ external ∈ Sample.tooLate.externalShifts,
            shift.ClashesOutside external) := by
  constructor
  · have hsome : (planScheduleChangeSet Sample.locale Sample.later).isOk = true := by
      decide +kernel
    obtain ⟨plan, hplan⟩ :
        ∃ plan, planScheduleChangeSet Sample.locale Sample.later = .ok plan := by
      cases hrun : planScheduleChangeSet Sample.locale Sample.later with
      | ok plan => exact ⟨plan, rfl⟩
      | error problem =>
          rw [hrun] at hsome
          cases hsome
    obtain ⟨hsafe, hupdates⟩ :=
      (planned_schedule_safe Sample.locale Sample.later).1 plan hplan
    exact ⟨plan, hplan, hsafe,
      (hupdates _ _ _ _ _ List.mem_cons_self).updated (Sample.freshIds _ _)⟩
  · have herror : planScheduleChangeSet Sample.locale Sample.tooLate =
        .error (.at 422 "schedule_overlap" "/saved" "shift_overlap") := by decide +kernel
    exact (planned_schedule_safe Sample.locale Sample.tooLate).2 _ herror rfl

end LunchLineup.Scheduling
