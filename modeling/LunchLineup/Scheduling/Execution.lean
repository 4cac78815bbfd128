import LunchLineup.Scheduling.ChangeSet
import LunchLineup.Scheduling.PlanState

/-!
# The mutations on the table

Each deletion and each update is one statement or a loop of statements about one row, found
by its id.  On a table with unique ids it replaces that row by its `effect`:
`applyMutation_change`.  Mutations of different rows do not meet, so a list of them acts on
each row by the mutation that is about it, `applyMutations_changes`, in whatever order they
come.  Creations append their rows, `applyMutations_creates`.
-/

namespace LunchLineup.Scheduling

open LunchLineup.Lib
open LunchLineup.Breaks (User)

/-- The unique indexes of the two tables. -/
structure Indexed (rows : List ShiftRow) : Prop where
  ids : (rows.map (·.id)).Nodup
  publicIds : (rows.map (·.publicId)).Nodup
  breakIds : ∀ row ∈ rows, (row.breaks.map (·.id)).Nodup

/-- A break of a row that moved by `delta`. -/
def BreakRow.moved (row : BreakRow) (delta : Int) : BreakRow :=
  { row with startTime := row.startTime + delta, endTime := row.endTime + delta }

/-- What a mutation makes of the row that it is about. -/
def ShiftMutation.effect (deletedAt : Int) (row : ShiftRow) : ShiftMutation → ShiftRow
  | .create _ _ => row
  | .update before after =>
      { row.updated after with
        breaks := row.breaks.map (·.moved (after.startTime - before.startTime)) }
  | .delete _ => { row with deletedAt := some deletedAt }

/-- The mutation changes the row, as the plan saw it. -/
def ShiftMutation.Changes (users : List User) (row : ShiftRow) : ShiftMutation → Prop
  | .create _ _ => False
  | .update before after => before = plannedShift users row ∧ after.startTime < after.endTime ∧
      after.breaks = before.breaks.map (·.moved (after.startTime - before.startTime))
  | .delete before => before = plannedShift users row

/-- What a list of mutations makes of a row: the one about the row acts. -/
def finalRow (deletedAt : Int) (mutations : List ShiftMutation) (row : ShiftRow) : ShiftRow :=
  match mutations.find? (·.publicId = row.publicId) with
  | none => row
  | some mutation => mutation.effect deletedAt row

section Rows

variable {rows : List ShiftRow} {users : List User} {schedule : LockedSchedule}
  {deletedAt : Int} {newIds : Nat → String} {row : ShiftRow} {mutation : ShiftMutation}

@[simp] theorem ShiftMutation.effect_id : (mutation.effect deletedAt row).id = row.id := by
  cases mutation with
  | create after clientId => rfl
  | update before after => rfl
  | delete before => rfl

@[simp] theorem ShiftMutation.effect_publicId :
    (mutation.effect deletedAt row).publicId = row.publicId := by
  cases mutation with
  | create after clientId => rfl
  | update before after => rfl
  | delete before => rfl

theorem ShiftMutation.effect_breakIds :
    (mutation.effect deletedAt row).breaks.map (·.id) = row.breaks.map (·.id) := by
  cases mutation with
  | create after clientId => rfl
  | update before after => simp [ShiftMutation.effect, BreakRow.moved]
  | delete before => rfl

theorem ShiftMutation.Changes.publicId_eq (h : mutation.Changes users row) :
    mutation.publicId = row.publicId := by
  cases mutation with
  | create after clientId => exact h.elim
  | update before after =>
      obtain ⟨rfl, _⟩ := h
      rfl
  | delete before =>
      obtain rfl : before = plannedShift users row := h
      rfl

/-- A row with its key and its breaks' ids in the place of another keeps the indexes. -/
theorem Indexed.replace (h : Indexed rows) {new : ShiftRow} (hrow : row ∈ rows)
    (hid : new.id = row.id) (hpublicId : new.publicId = row.publicId)
    (hbreaks : new.breaks.map (·.id) = row.breaks.map (·.id)) :
    Indexed (replaceRow (·.id) rows new) := by
  refine ⟨?_, ?_, ?_⟩
  · rw [keys_replaceRow]
    exact h.ids
  · have hkeys : (replaceRow (·.id) rows new).map (·.publicId) = rows.map (·.publicId) := by
      rw [replaceRow, List.map_map]
      apply List.map_congr_left
      intro other hother
      by_cases heq : other.id = new.id
      · rw [← eq_of_key h.ids hrow hother (hid.symm.trans heq.symm)]
        simp [hid, hpublicId]
      · simp [heq]
    rw [hkeys]
    exact h.publicIds
  · intro other hother
    rcases mem_replaceRow hother with rfl | ⟨hold, _⟩
    · rw [hbreaks]
      exact h.breakIds row hrow
    · exact h.breakIds other hold

/-- A statement about the row with an id is a statement about that row. -/
theorem filter_id (h : Indexed rows) (hrow : row ∈ rows) :
    rows.filter (fun other => some other.id = some row.id) = [row] := by
  refine eq_singleton_of_nodup ((List.Nodup.of_map _ h.ids).filter _) ?_ ?_
  · exact List.mem_filter.mpr ⟨hrow, by simp⟩
  · intro other hother
    obtain ⟨hmem, hid⟩ := List.mem_filter.mp hother
    exact eq_of_key h.ids hmem hrow (by simpa using hid)

theorem map_id (h : Indexed rows) (hrow : row ∈ rows) (change : ShiftRow → ShiftRow)
    (hid : (change row).id = row.id) :
    rows.map (fun other => if some other.id = some row.id then change other else other) =
      replaceRow (·.id) rows (change row) := by
  rw [replaceRow, hid]
  apply List.map_congr_left
  intro other hother
  by_cases heq : other.id = row.id
  · rw [eq_of_key h.ids hother hrow heq]
    simp
  · simp [heq]

theorem updateRow_eq_ok (h : Indexed rows) (hrow : row ∈ rows) (hsaved : row.SavedIn schedule.id)
    (change : ShiftRow → ShiftRow) (hid : (change row).id = row.id) :
    updateRow rows schedule.id (some row.id) change =
      .ok (replaceRow (·.id) rows (change row)) := by
  have hmatch : ∀ other ∈ rows, (some other.id = some row.id ∧ other.SavedIn schedule.id) ↔
      some other.id = some row.id := by
    intro other hother
    refine ⟨fun hboth => hboth.1, fun heq => ⟨heq, ?_⟩⟩
    rw [eq_of_key h.ids hother hrow (Option.some.inj heq)]
    exact hsaved
  have hfilter : rows.filter
      (fun other => some other.id = some row.id ∧ other.SavedIn schedule.id) = [row] := by
    rw [← filter_id h hrow]
    exact List.filter_congr fun other hother => by simp only [hmatch other hother]
  have hmap : rows.map (fun other =>
      if some other.id = some row.id ∧ other.SavedIn schedule.id then change other else other) =
        replaceRow (·.id) rows (change row) := by
    rw [← map_id h hrow change hid]
    apply List.map_congr_left
    intro other hother
    simp only [hmatch other hother]
  unfold updateRow
  rw [hfilter, hmap]
  rfl

/-! ## The breaks of an updated shift -/

/-- A row with some of its breaks placed. -/
def ShiftRow.placed (row : ShiftRow) (items : List PlannedBreak) : ShiftRow :=
  { row with breaks := row.breaks.map fun entry =>
      match items.find? (·.internalId = entry.id) with
      | none => entry
      | some item => entry.placed item }

theorem placeBreak_eq_ok (h : Indexed rows) (hrow : row ∈ rows) {item : PlannedBreak}
    (hitem : ∃ entry ∈ row.breaks, entry.id = item.internalId) :
    placeBreak rows (some row.id) item = .ok (replaceRow (·.id) rows (row.placed [item])) := by
  obtain ⟨entry, hentry, hid⟩ := hitem
  have hcount : row.breaks.countP (·.id = item.internalId) = 1 := by
    have hone := List.count_eq_one_of_mem (h.breakIds row hrow) (List.mem_map_of_mem hentry)
    rw [List.count, List.countP_map, hid] at hone
    rw [← hone]
    apply List.countP_congr
    simp
  have hplaced : row.withBreak item = row.placed [item] := by
    unfold ShiftRow.withBreak ShiftRow.placed
    congr 1
    apply List.map_congr_left
    intro other _
    by_cases heq : other.id = item.internalId
    · simp [heq]
    · simp [heq, Ne.symm heq]
  unfold placeBreak
  rw [filter_id h hrow, map_id h hrow (·.withBreak item) rfl, hplaced]
  simp [hcount, ensure]

theorem placeBreaks_eq_ok (h : Indexed rows) (hrow : row ∈ rows) {items : List PlannedBreak}
    (hitems : ∀ item ∈ items, ∃ entry ∈ row.breaks, entry.id = item.internalId)
    (hdistinct : (items.map (·.internalId)).Nodup) :
    placeBreaks (some row.id) rows items = .ok (replaceRow (·.id) rows (row.placed items)) := by
  induction items generalizing rows row with
  | nil =>
      have hsame : row.placed [] = row := by simp [ShiftRow.placed]
      rw [hsame, replaceRow_self h.ids hrow]
      rfl
  | cons item rest ih =>
      rw [List.map_cons, List.nodup_cons] at hdistinct
      have hbreakIds : (row.placed [item]).breaks.map (·.id) = row.breaks.map (·.id) := by
        rw [ShiftRow.placed, List.map_map]
        apply List.map_congr_left
        intro entry _
        simp only [Function.comp]
        split
        · rfl
        · rfl
      have hnext : Indexed (replaceRow (·.id) rows (row.placed [item])) :=
        h.replace hrow rfl rfl hbreakIds
      have hmem : row.placed [item] ∈ replaceRow (·.id) rows (row.placed [item]) :=
        new_mem_replaceRow hrow rfl
      have hrest := ih hnext hmem (fun other hother => by
        obtain ⟨entry, hentry, hid⟩ := hitems other (List.mem_cons_of_mem _ hother)
        have hids : entry.id ∈ (row.placed [item]).breaks.map (·.id) :=
          hbreakIds ▸ List.mem_map_of_mem hentry
        obtain ⟨placed, hplaced, heq⟩ := List.mem_map.mp hids
        exact ⟨placed, hplaced, heq.trans hid⟩) hdistinct.2
      have hboth : (row.placed [item]).placed rest = row.placed (item :: rest) := by
        unfold ShiftRow.placed
        congr 1
        rw [List.map_map]
        apply List.map_congr_left
        intro entry _
        by_cases heq : item.internalId = entry.id
        · -- the later items are about other breaks
          have hnone : rest.find? (fun other => other.internalId = entry.id) = none := by
            rw [List.find?_eq_none]
            intro other hother hsame
            refine hdistinct.1 (List.mem_map.mpr ⟨other, hother, ?_⟩)
            rw [of_decide_eq_true hsame, heq]
          simp [heq, BreakRow.placed, hnone]
        · simp [heq]
      rw [placeBreaks, placeBreak_eq_ok h hrow (hitems item List.mem_cons_self), ok_bind]
      have htwice : replaceRow (·.id) (replaceRow (·.id) rows (row.placed [item]))
          (row.placed (item :: rest)) = replaceRow (·.id) rows (row.placed (item :: rest)) :=
        replaceRow_replaceRow rfl
      rw [show some row.id = some (row.placed [item]).id from rfl, hrest, hboth, htwice]

theorem plannedBreaks_nodup (hbreakIds : (row.breaks.map (·.id)).Nodup) (delta : Int) :
    (((plannedShift users row).breaks.map (·.moved delta)).map (·.internalId)).Nodup := by
  have hsame : ((plannedShift users row).breaks.map (·.moved delta)).map (·.internalId) =
      (row.breaks.insertionSort breakRowLe).map (·.id) := by
    simp [plannedShift, PlannedBreak.moved, BreakRow.planned, Function.comp_def]
  rw [hsame]
  exact ((List.perm_insertionSort breakRowLe row.breaks).map _).nodup_iff.mpr hbreakIds

theorem mem_plannedBreaks {item : PlannedBreak} :
    item ∈ (plannedShift users row).breaks ↔ ∃ entry ∈ row.breaks, entry.planned = item := by
  simp [plannedShift, List.mem_insertionSort]

/-- Placing the moved breaks of the plan moves the breaks of the row. -/
theorem placed_moved (hbreakIds : (row.breaks.map (·.id)).Nodup) (after : PlannedShift)
    (delta : Int) :
    (row.updated after).placed ((plannedShift users row).breaks.map (·.moved delta)) =
      { row.updated after with breaks := row.breaks.map (·.moved delta) } := by
  unfold ShiftRow.placed
  congr 1
  apply List.map_congr_left
  intro entry hentry
  have hmem : entry.planned.moved delta ∈ (plannedShift users row).breaks.map (·.moved delta) :=
    List.mem_map_of_mem (mem_plannedBreaks.mpr ⟨entry, hentry, rfl⟩)
  have hfind : ((plannedShift users row).breaks.map (·.moved delta)).find?
      (·.internalId = entry.id) = some (entry.planned.moved delta) := find?_key (plannedBreaks_nodup hbreakIds delta) hmem
  rw [hfind]
  rfl

/-! ## Lists of mutations -/

theorem applyMutation_change (h : Indexed rows) (hrow : row ∈ rows)
    (hsaved : row.SavedIn schedule.id) (hchanges : mutation.Changes users row) (newId : String) :
    applyMutation schedule deletedAt newId rows mutation =
      .ok (replaceRow (·.id) rows (mutation.effect deletedAt row)) := by
  cases mutation with
  | create after clientId => exact hchanges.elim
  | delete before =>
      obtain rfl : before = plannedShift users row := hchanges
      exact updateRow_eq_ok h hrow hsaved _ rfl
  | update before after =>
      obtain ⟨rfl, hwindow, hbreaks⟩ := hchanges
      have hnext : Indexed (replaceRow (·.id) rows (row.updated after)) :=
        h.replace hrow rfl rfl rfl
      have hmem : row.updated after ∈ replaceRow (·.id) rows (row.updated after) :=
        new_mem_replaceRow hrow rfl
      have hplace : placeBreaks (some row.id) (replaceRow (·.id) rows (row.updated after))
          after.breaks = .ok (replaceRow (·.id) (replaceRow (·.id) rows (row.updated after))
            ((row.updated after).placed after.breaks)) := by
        refine placeBreaks_eq_ok hnext hmem ?_ ?_
        · intro item hitem
          rw [hbreaks] at hitem
          obtain ⟨old, hold, rfl⟩ := List.mem_map.mp hitem
          obtain ⟨entry, hentry, rfl⟩ := mem_plannedBreaks.mp hold
          exact ⟨entry, hentry, rfl⟩
        · rw [hbreaks]
          exact plannedBreaks_nodup (h.breakIds row hrow) _
      have htwice : replaceRow (·.id) (replaceRow (·.id) rows (row.updated after))
          ((row.updated after).placed after.breaks) =
            replaceRow (·.id) rows ((row.updated after).placed after.breaks) :=
        replaceRow_replaceRow rfl
      have heffect : (row.updated after).placed after.breaks =
          ShiftMutation.effect deletedAt row (.update (plannedShift users row) after) := by
        rw [hbreaks]
        exact placed_moved (h.breakIds row hrow) after _
      have hupdate : updateRow rows schedule.id (some row.id) (·.updated after) =
          .ok (replaceRow (·.id) rows (row.updated after)) :=
        updateRow_eq_ok h hrow hsaved _ rfl
      have hinternal : (plannedShift users row).internalId = some row.id := rfl
      rw [htwice, heffect] at hplace
      simp only [applyMutation, hinternal, hupdate, ok_bind, ensure_of_true _ hwindow, hplace]

/-- Mutations of different rows act on each row by the one about it. -/
theorem applyMutations_changes {mutations : List (ShiftMutation × Nat)} (h : Indexed rows)
    (hdistinct : ((mutations.map Prod.fst).map (·.publicId)).Nodup)
    (hchanges : ∀ mutation ∈ mutations.map Prod.fst, ∃ row ∈ rows, row.SavedIn schedule.id ∧
      mutation.Changes users row) :
    applyMutations schedule deletedAt newIds rows mutations =
      .ok (rows.map (finalRow deletedAt (mutations.map Prod.fst))) := by
  induction mutations generalizing rows with
  | nil => exact congrArg Except.ok (List.map_id rows).symm
  | cons first rest ih =>
      obtain ⟨mutation, n⟩ := first
      simp only [List.map_cons, List.nodup_cons] at hdistinct hchanges ⊢
      obtain ⟨row, hrow, hsaved, hchange⟩ := hchanges mutation List.mem_cons_self
      have hpublicId := hchange.publicId_eq
      have hnext : Indexed (replaceRow (·.id) rows (mutation.effect deletedAt row)) :=
        h.replace hrow mutation.effect_id mutation.effect_publicId mutation.effect_breakIds
      have hrest := ih hnext hdistinct.2 (fun other hother => by
        obtain ⟨target, htarget, htargetSaved, hother_change⟩ :=
          hchanges other (List.mem_cons_of_mem _ hother)
        refine ⟨target, mem_replaceRow_of_ne htarget ?_, htargetSaved, hother_change⟩
        intro heq
        rw [mutation.effect_id] at heq
        obtain rfl := eq_of_key h.ids htarget hrow heq
        refine hdistinct.1 (List.mem_map.mpr ⟨other, hother, ?_⟩)
        rw [hother_change.publicId_eq, hpublicId])
      rw [applyMutations, applyMutation_change h hrow hsaved hchange, ok_bind, hrest, replaceRow,
        List.map_map]
      congr 1
      apply List.map_congr_left
      intro other hother
      by_cases heq : other.id = row.id
      · obtain rfl := eq_of_key h.ids hother hrow heq
        have hnone : (rest.map Prod.fst).find? (·.publicId = other.publicId) = none := by
          rw [List.find?_eq_none]
          intro later hlater hsame
          refine hdistinct.1 (List.mem_map.mpr ⟨later, hlater, ?_⟩)
          rw [of_decide_eq_true hsame, hpublicId]
        simp [finalRow, hnone, hpublicId]
      · have hne : mutation.publicId ≠ other.publicId := by
          rw [hpublicId]
          intro hsame
          exact heq (congrArg ShiftRow.id (eq_of_key h.publicIds hrow hother hsame)).symm
        simp [finalRow, heq, hne]

theorem applyMutations_append (first second : List (ShiftMutation × Nat)) :
    applyMutations schedule deletedAt newIds rows (first ++ second) =
      applyMutations schedule deletedAt newIds rows first >>= fun next =>
        applyMutations schedule deletedAt newIds next second := by
  induction first generalizing rows with
  | nil => rfl
  | cons head rest ih =>
      obtain ⟨mutation, n⟩ := head
      rw [List.cons_append, applyMutations, applyMutations]
      cases applyMutation schedule deletedAt (newIds n) rows mutation with
      | error problem => rfl
      | ok next => exact ih

/-- The ids that the server and the database draw for new rows are new. -/
structure NewIds (rows : List ShiftRow) (idFactory newIds : Nat → String) : Prop where
  unsaved : ∀ n, ∀ row ∈ rows, idFactory n ≠ row.publicId
  distinct : Function.Injective idFactory
  rowIds : ∀ n, ∀ row ∈ rows, newIds n ≠ row.id
  rowIds_distinct : Function.Injective newIds

/-- The row that a mutation adds. -/
def insertedRow (schedule : LockedSchedule) (newIds : Nat → String) :
    ShiftMutation × Nat → Option ShiftRow
  | (.create after _, n) => some (createdRow schedule (newIds n) after)
  | (.update _ _, _) => none
  | (.delete _, _) => none

/-- Creations add their rows. -/
theorem applyMutations_creates {mutations : List (ShiftMutation × Nat)}
    (hcreates : ∀ mutation ∈ mutations.map Prod.fst, ∃ after clientId,
      mutation = .create after clientId ∧ after.startTime < after.endTime ∧
        ∀ row ∈ rows, row.publicId ≠ after.publicId)
    (hdistinct : ((mutations.map Prod.fst).map (·.publicId)).Nodup)
    (hnumbers : (mutations.map Prod.snd).Nodup) (hinjective : Function.Injective newIds)
    (hnew : ∀ n ∈ mutations.map Prod.snd, ∀ row ∈ rows, row.id ≠ newIds n) :
    applyMutations schedule deletedAt newIds rows mutations =
      .ok (rows ++ mutations.filterMap (insertedRow schedule newIds)) := by
  induction mutations generalizing rows with
  | nil => simp [applyMutations]
  | cons first rest ih =>
      obtain ⟨mutation, n⟩ := first
      simp only [List.map_cons, List.nodup_cons] at hdistinct hnumbers hcreates hnew
      obtain ⟨after, clientId, rfl, hwindow, hpublicIds⟩ :=
        hcreates mutation List.mem_cons_self
      have hvalid : after.startTime < after.endTime ∧
          ∀ row ∈ rows, row.id ≠ newIds n ∧ row.publicId ≠ after.publicId :=
        ⟨hwindow, fun row hrow => ⟨hnew n List.mem_cons_self row hrow, hpublicIds row hrow⟩⟩
      rw [applyMutations, applyMutation, ensure_of_true _ hvalid, ok_bind, ok_bind, ih]
      · simp [insertedRow]
      · intro other hother
        obtain ⟨later, client, rfl, hlater, hids⟩ := hcreates other (List.mem_cons_of_mem _ hother)
        refine ⟨later, client, rfl, hlater, fun row hrow => ?_⟩
        rcases List.mem_append.mp hrow with hrow | hrow
        · exact hids row hrow
        · obtain rfl := List.mem_singleton.mp hrow
          intro heq
          exact hdistinct.1 (List.mem_map.mpr ⟨_, hother, heq.symm⟩)
      · exact hdistinct.2
      · exact hnumbers.2
      · intro m hm row hrow
        rcases List.mem_append.mp hrow with hrow | hrow
        · exact hnew m (List.mem_cons_of_mem _ hm) row hrow
        · obtain rfl := List.mem_singleton.mp hrow
          intro heq
          exact hnumbers.1 (hinjective heq ▸ hm)

end Rows

end LunchLineup.Scheduling
