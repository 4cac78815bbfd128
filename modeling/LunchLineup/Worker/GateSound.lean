import LunchLineup.Worker.Gate
import LunchLineup.Python.Reference

/-!
# What passes the gate

The gate is sound for every response object: whatever it accepts is a schedule
that can be stored.  The reading loops are inverted once (`collectBreaks_ok`,
`collectShifts_ok`).  The coalescing loop fails exactly where neighbours of one
person overlap in the sorted list, and otherwise is the merging of neighbours
(`coalesceFrom_ok`); sorting by person first makes neighbours enough.  Merging
keeps well-formed shifts, the order of a person's shifts, the instants at which
the person works and the breaks of the person.
-/

namespace LunchLineup.Worker

open LunchLineup.Lib LunchLineup.Python

/-! ## Reading breaks -/

/-- The break is what the gate reads from the raw break. -/
def ReadsBreak (rt : Runtime) (rawBreak : RawBreak) (item : NormalizedBreak) : Prop :=
  (∃ index, readBreakFields rt index rawBreak =
      .ok (item.startTime, item.endTime, item.breakType)) ∧
    item.paid = (rawBreak.paid.getD (.other "False" false)).truthy

/-- The break is not empty and lies in the span of its shift. -/
def NormalizedBreak.Inside (item : NormalizedBreak) (shiftStart shiftEnd : Int) : Prop :=
  shiftStart ≤ item.startTime ∧ item.startTime < item.endTime ∧ item.endTime ≤ shiftEnd

/-- Two breaks do not overlap. -/
def NormalizedBreak.Disjoint (first second : NormalizedBreak) : Prop :=
  first.endTime ≤ second.startTime ∨ second.endTime ≤ first.startTime

theorem orElseReject_eq_ok {α : Type} {x : Except String α} {message : String} {value : α} :
    orElseReject x message = .ok value ↔ x = .ok value := by
  cases x with
  | ok a => simp [orElseReject]
  | error e => simp [orElseReject]

theorem collectBreaks_ok {rt : Runtime} {shiftId : String} {shiftStart shiftEnd : Int}
    {index : Nat} {seen : List (Int × Int × String)} {rawBreaks : List RawBreak}
    {items : List NormalizedBreak}
    (h : collectBreaks rt shiftId shiftStart shiftEnd index seen rawBreaks = .ok items) :
    List.Forall₂ (ReadsBreak rt) rawBreaks items ∧
      ∀ item ∈ items, item.Inside shiftStart shiftEnd := by
  induction rawBreaks generalizing index seen items with
  | nil =>
      cases h
      exact ⟨.nil, by simp⟩
  | cons rawBreak rest ih =>
      simp only [collectBreaks, bind_eq_ok, ensure_eq_ok, exists_const, orElseReject_eq_ok] at h
      obtain ⟨⟨startTime, endTime, breakType⟩, hfields, hinside, _, others, hothers, heq⟩ := h
      cases heq
      obtain ⟨hreads, hall⟩ := ih hothers
      refine ⟨.cons ⟨⟨index, hfields⟩, rfl⟩ hreads, ?_⟩
      intro item hitem
      rcases List.mem_cons.mp hitem with rfl | hitem
      · exact hinside
      · exact hall item hitem

/-- What the breaks of a shift are: those of the response, in order, each inside
the shift and after the one before. -/
theorem normalizeSolvedBreaks_ok {rt : Runtime} {rawShift : RawShift} {shiftId : String}
    {shiftStart shiftEnd : Int} {breaks : List NormalizedBreak}
    (h : normalizeSolvedBreaks rt rawShift shiftId shiftStart shiftEnd = .ok breaks) :
    (∃ rawBreaks items, rawShift.breaks.read = .ok rawBreaks ∧
        List.Forall₂ (ReadsBreak rt) rawBreaks items ∧ items.Perm breaks) ∧
      (∀ item ∈ breaks, item.Inside shiftStart shiftEnd) ∧
      breaks.Pairwise NormalizedBreak.Disjoint := by
  simp only [normalizeSolvedBreaks, bind_eq_ok] at h
  obtain ⟨rawBreaks, hraw, items, hitems, _, hcheck, heq⟩ := h
  cases heq
  obtain ⟨hreads, hinside⟩ := collectBreaks_ok hitems
  have hperm := List.perm_insertionSort NormalizedBreak.le items
  have hinside' : ∀ item ∈ items.insertionSort NormalizedBreak.le,
      item.Inside shiftStart shiftEnd := by
    intro item hitem
    exact hinside item (hperm.mem_iff.mp hitem)
  refine ⟨⟨rawBreaks, items, hraw, hreads, hperm.symm⟩, hinside', ?_⟩
  have hneighbours : (items.insertionSort NormalizedBreak.le).IsChain fun first second =>
      shiftId = shiftId → first.endTime ≤ second.startTime := by
    apply isChain_of_cuts
    intro pair hpair _
    simpa using checkAll_eq_ok.mp hcheck pair hpair
  -- all breaks belong to one shift, so the list is sorted by owner
  have hordered := pairwise_of_neighbours (List.pairwise_of_forall fun _ _ => le_refl shiftId)
    (fun item hitem => (hinside' item hitem).2.1) hneighbours
  exact hordered.imp fun hle => .inl (hle rfl)

/-! ## Reading shifts -/

/-- The shift is what the gate reads from the raw shift. -/
structure ReadsShift (rt : Runtime) (rawShift : RawShift) (shift : NormalizedShift) : Prop where
  staffId : shift.staffId = rawShift.staff
  fields : ∃ index, readShiftFields rt index rawShift =
    .ok (shift.startTime, shift.endTime, shift.role)
  breaks : ∃ rawBreaks items, rawShift.breaks.read = .ok rawBreaks ∧
    List.Forall₂ (ReadsBreak rt) rawBreaks items ∧ items.Perm shift.breaks

/-- A shift that is not empty, with breaks that are inside it and disjoint. -/
structure NormalizedShift.WellFormed (shift : NormalizedShift) : Prop where
  nonempty : shift.startTime < shift.endTime
  inside : ∀ item ∈ shift.breaks, item.Inside shift.startTime shift.endTime
  disjoint : shift.breaks.Pairwise NormalizedBreak.Disjoint

/-- A shift of a payload's staff that starts in the schedule window. -/
structure NormalizedShift.InWindow (shift : NormalizedShift) (payload : SolvePayload)
    (scheduleStart scheduleEnd : Int) : Prop where
  staff : shift.staffId ∈ payload.staffIds
  first : scheduleStart ≤ shift.startTime
  last : shift.startTime < scheduleEnd

theorem collectShifts_ok {rt : Runtime} {payload : SolvePayload} {scheduleStart scheduleEnd : Int}
    {index : Nat} {seen : List (String × Int × Int × String)} {rawShifts : List RawShift}
    {shifts : List NormalizedShift}
    (h : collectShifts rt payload scheduleStart scheduleEnd index seen rawShifts = .ok shifts) :
    List.Forall₂ (ReadsShift rt) rawShifts shifts ∧
      ∀ shift ∈ shifts, shift.WellFormed ∧ shift.InWindow payload scheduleStart scheduleEnd := by
  induction rawShifts generalizing index seen shifts with
  | nil =>
      cases h
      exact ⟨.nil, by simp⟩
  | cons rawShift rest ih =>
      simp only [collectShifts, bind_eq_ok, ensure_eq_ok, exists_const, orElseReject_eq_ok] at h
      obtain ⟨hstaff, ⟨startTime, endTime, role⟩, hfields, hnonempty, hwindow, _, breaks, hbreaks,
        others, hothers, heq⟩ := h
      cases heq
      obtain ⟨hreads, hall⟩ := ih hothers
      obtain ⟨hsource, hinside, hdisjoint⟩ := normalizeSolvedBreaks_ok hbreaks
      refine ⟨.cons ⟨rfl, ⟨index, hfields⟩, hsource⟩ hreads, ?_⟩
      intro shift hshift
      rcases List.mem_cons.mp hshift with rfl | hshift
      · exact ⟨⟨hnonempty, hinside, hdisjoint⟩, ⟨hstaff, hwindow.1, hwindow.2.1⟩⟩
      · exact hall shift hshift

/-! ## Coalescing -/

/-- Shifts of one person follow one another. -/
def NormalizedShift.Follows (first second : NormalizedShift) : Prop :=
  first.staffId = second.staffId → first.endTime ≤ second.startTime

theorem NormalizedShift.joins_iff {previous shift : NormalizedShift} :
    previous.joins shift = true ↔ previous.staffId = shift.staffId ∧
      shift.startTime = previous.endTime ∧ shift.role = previous.role := by
  simp only [joins, Bool.and_eq_true, decide_eq_true_eq, and_assoc]

/-- The loop succeeds only if neighbours of one person follow one another, and
then merges those that join. -/
theorem coalesceFrom_ok {rt : Runtime} {payload : SolvePayload} {previous : NormalizedShift}
    {rest out : List NormalizedShift} (h : coalesceFrom rt payload previous rest = .ok out) :
    (previous :: rest).IsChain NormalizedShift.Follows ∧
      out = coalesce NormalizedShift.joins (mergeShifts rt payload) previous rest := by
  induction rest generalizing previous out with
  | nil =>
      cases h
      exact ⟨.singleton _, rfl⟩
  | cons shift more ih =>
      rw [coalesceFrom] at h
      split at h
      · cases h
      rename_i hapart
      have hfollows : previous.Follows shift := by
        intro hstaff
        by_contra hoverlap
        exact hapart ⟨hstaff, not_le.mp hoverlap⟩
      rw [List.isChain_cons_cons, coalesce]
      split at h
      · rename_i hjoins
        obtain ⟨hchain, hout⟩ := ih h
        rw [if_pos hjoins]
        -- the merged shift has the person and the end of `shift`
        refine ⟨⟨hfollows, ?_⟩, hout⟩
        cases more with
        | nil => exact .singleton _
        | cons third tail =>
            rw [List.isChain_cons_cons] at hchain ⊢
            exact hchain
      · rename_i hjoins
        obtain ⟨others, hothers, heq⟩ := bind_eq_ok.mp h
        obtain ⟨hchain, hout⟩ := ih hothers
        cases heq
        rw [if_neg hjoins, hout]
        exact ⟨⟨hfollows, hchain⟩, rfl⟩

/-! ## Merged breaks -/

/-- A break without its id. -/
def NormalizedBreak.content (item : NormalizedBreak) : Int × Int × Bool × String :=
  (item.startTime, item.endTime, item.paid, item.breakType)

/-- Merging keeps the breaks up to their order and ids. -/
theorem mergedBreaks_content (rt : Runtime) (mergedId : String) (breaks : List NormalizedBreak) :
    ((mergedBreaks rt mergedId breaks).map NormalizedBreak.content).Perm
      (breaks.map NormalizedBreak.content) := by
  have hcontent : (mergedBreaks rt mergedId breaks).map NormalizedBreak.content =
      (breaks.insertionSort NormalizedBreak.le).map NormalizedBreak.content := by
    rw [mergedBreaks, List.map_map]
    conv_rhs => rw [← List.zipIdx_map_fst 0 (breaks.insertionSort NormalizedBreak.le), List.map_map]
    rfl
  rw [hcontent]
  exact (List.perm_insertionSort _ _).map _

/-- A property of the content of breaks holds of merged breaks. -/
theorem forall_mergedBreaks {rt : Runtime} {mergedId : String} {breaks : List NormalizedBreak}
    {Q : Int × Int × Bool × String → Prop} (h : ∀ item ∈ breaks, Q item.content) :
    ∀ item ∈ mergedBreaks rt mergedId breaks, Q item.content := by
  intro item hitem
  have hmem := (mergedBreaks_content rt mergedId breaks).mem_iff.mp (List.mem_map_of_mem hitem)
  obtain ⟨source, hsource, heq⟩ := List.mem_map.mp hmem
  rw [← heq]
  exact h source hsource

theorem pairwise_mergedBreaks {rt : Runtime} {mergedId : String} {breaks : List NormalizedBreak}
    (h : breaks.Pairwise NormalizedBreak.Disjoint) :
    (mergedBreaks rt mergedId breaks).Pairwise NormalizedBreak.Disjoint := by
  have hcontent : (breaks.map NormalizedBreak.content).Pairwise fun first second =>
      first.2.1 ≤ second.1 ∨ second.2.1 ≤ first.1 := by
    rw [List.pairwise_map]
    exact h
  have hmerged := (mergedBreaks_content rt mergedId breaks).symm.pairwise hcontent Or.symm
  rw [List.pairwise_map] at hmerged
  exact hmerged

/-- Merging keeps well-formed shifts that follow one another. -/
theorem merge_merging (rt : Runtime) (payload : SolvePayload) :
    Merging NormalizedShift.joins (mergeShifts rt payload) NormalizedShift.WellFormed
      NormalizedShift.Follows where
  valid := by
    intro previous shift hprevious hshift _ hjoins
    obtain ⟨_, hedge, _⟩ := NormalizedShift.joins_iff.mp hjoins
    have hfirst := hprevious.nonempty
    have hsecond := hshift.nonempty
    refine ⟨?_, ?_, ?_⟩
    · show previous.startTime < shift.endTime
      omega
    · refine forall_mergedBreaks (Q := fun content => previous.startTime ≤ content.1 ∧
        content.1 < content.2.1 ∧ content.2.1 ≤ shift.endTime) ?_
      intro item hitem
      rcases List.mem_append.mp hitem with hitem | hitem
      · obtain ⟨hlower, hnonempty, hupper⟩ := hprevious.inside item hitem
        exact ⟨hlower, hnonempty, by show item.endTime ≤ shift.endTime; omega⟩
      · obtain ⟨hlower, hnonempty, hupper⟩ := hshift.inside item hitem
        exact ⟨by show previous.startTime ≤ item.startTime; omega, hnonempty, hupper⟩
    · apply pairwise_mergedBreaks
      rw [List.pairwise_append]
      refine ⟨hprevious.disjoint, hshift.disjoint, ?_⟩
      intro first hfirstMem second hsecondMem
      have hbefore := (hprevious.inside first hfirstMem).2.2
      have hafter := (hshift.inside second hsecondMem).1
      exact .inl (by omega)
  chain := by
    intro previous shift third _ _ hnext
    exact hnext

/-! ## What merging keeps -/

/-- A merged shift works exactly when one of the two does. -/
theorem onDuty_mergeShifts {rt : Runtime} {payload : SolvePayload}
    {previous shift : NormalizedShift} (hprevious : previous.WellFormed)
    (hshift : shift.WellFormed) (hjoins : previous.joins shift = true) (t : Int) :
    (mergeShifts rt payload previous shift).duty.onDuty t = true ↔
      previous.duty.onDuty t = true ∨ shift.duty.onDuty t = true := by
  obtain ⟨_, hedge, _⟩ := NormalizedShift.joins_iff.mp hjoins
  have hfirst := hprevious.nonempty
  have hsecond := hshift.nonempty
  have hholes : ∀ hole, hole ∈ (mergeShifts rt payload previous shift).duty.holes ↔
      hole ∈ previous.duty.holes ∨ hole ∈ shift.duty.holes := by
    intro hole
    have hperm := (mergedBreaks_content rt
      (shiftId rt payload shift.staffId previous.startTime shift.endTime shift.role)
      (previous.breaks ++ shift.breaks)).map fun content => (content.1, content.2.1)
    rw [List.map_map, List.map_map, List.map_append] at hperm
    rw [← List.mem_append]
    exact hperm.mem_iff
  have hinside : ∀ {other : NormalizedShift}, other.WellFormed → ∀ hole ∈ other.duty.holes,
      other.startTime ≤ hole.1 ∧ hole.2 ≤ other.endTime := by
    intro other hother hole hhole
    obtain ⟨item, hitem, rfl⟩ := List.mem_map.mp hhole
    exact ⟨(hother.inside item hitem).1, (hother.inside item hitem).2.2⟩
  rw [Duty.onDuty_iff, Duty.onDuty_iff, Duty.onDuty_iff]
  show (previous.startTime ≤ t ∧ t < shift.endTime ∧ _) ↔
    (previous.startTime ≤ t ∧ t < previous.endTime ∧ _) ∨
      (shift.startTime ≤ t ∧ t < shift.endTime ∧ _)
  constructor
  · rintro ⟨hlower, hupper, hfree⟩
    rcases lt_or_ge t previous.endTime with hbefore | hafter
    · exact .inl ⟨hlower, hbefore, fun hole hhole => hfree hole ((hholes hole).mpr (.inl hhole))⟩
    · exact .inr ⟨by omega, hupper, fun hole hhole => hfree hole ((hholes hole).mpr (.inr hhole))⟩
  · -- a break of the one cannot cover an instant of the other
    rintro (⟨hlower, hupper, hfree⟩ | ⟨hlower, hupper, hfree⟩)
    · refine ⟨hlower, by omega, ?_⟩
      intro hole hhole
      rcases (hholes hole).mp hhole with hhole | hhole
      · exact hfree hole hhole
      · have := (hinside hshift hole hhole).1
        omega
    · refine ⟨by omega, hupper, ?_⟩
      intro hole hhole
      rcases (hholes hole).mp hhole with hhole | hhole
      · have := (hinside hprevious hole hhole).2
        omega
      · exact hfree hole hhole

/-- The contents of a list of breaks. -/
def contents (breaks : List NormalizedBreak) : Multiset (Int × Int × Bool × String) :=
  (breaks.map NormalizedBreak.content : List (Int × Int × Bool × String))

theorem contents_mergedBreaks (rt : Runtime) (mergedId : String)
    (first second : List NormalizedBreak) :
    contents (mergedBreaks rt mergedId (first ++ second)) = contents first + contents second := by
  unfold contents
  rw [Multiset.coe_add, ← List.map_append]
  exact Multiset.coe_eq_coe.mpr (mergedBreaks_content _ _ _)

/-- The breaks of a person. -/
def breaksOf (staffId : String) (shifts : List NormalizedShift) :
    Multiset (Int × Int × Bool × String) :=
  (shifts.map fun shift => if shift.staffId = staffId then contents shift.breaks else 0).sum

/-- The person is on a shift at the instant. -/
def OnShift (staffId : String) (t : Int) (shift : NormalizedShift) : Prop :=
  shift.staffId = staffId ∧ shift.startTime ≤ t ∧ t < shift.endTime

/-- The person is at work at the instant: on a shift, and not on a break. -/
def AtWork (staffId : String) (t : Int) (shift : NormalizedShift) : Prop :=
  shift.staffId = staffId ∧ shift.duty.onDuty t = true

instance : Std.Total NormalizedShift.le := ⟨fun first second => le_total first.key second.key⟩

instance : IsTrans NormalizedShift NormalizedShift.le :=
  ⟨fun _ _ _ hab hbc => le_trans (α := String ×ₗ Int ×ₗ Int ×ₗ String ×ₗ String) hab hbc⟩

theorem staffId_le_of_le {first second : NormalizedShift} (h : first.le second) :
    first.staffId ≤ second.staffId := by
  rcases Prod.Lex.le_iff.mp h with hlt | ⟨heq, _⟩
  · exact hlt.le
  · exact heq.le

/-- What coalescing does with shifts that were read. -/
structure Coalesced (solved shifts : List NormalizedShift) : Prop where
  wellFormed : ∀ shift ∈ shifts, shift.WellFormed
  follows : shifts.Pairwise NormalizedShift.Follows
  onShift : ∀ staffId t, (∃ shift ∈ shifts, OnShift staffId t shift) ↔
    ∃ shift ∈ solved, OnShift staffId t shift
  atWork : ∀ staffId t, (∃ shift ∈ shifts, AtWork staffId t shift) ↔
    ∃ shift ∈ solved, AtWork staffId t shift
  breaks : ∀ staffId, breaksOf staffId shifts = breaksOf staffId solved

theorem onShift_mergeShifts {rt : Runtime} {payload : SolvePayload}
    {previous shift : NormalizedShift} (hprevious : previous.WellFormed)
    (hshift : shift.WellFormed) (hjoins : previous.joins shift = true) (staffId : String)
    (t : Int) :
    OnShift staffId t (mergeShifts rt payload previous shift) ↔
      OnShift staffId t previous ∨ OnShift staffId t shift := by
  obtain ⟨hstaff, hedge, _⟩ := NormalizedShift.joins_iff.mp hjoins
  have hfirst := hprevious.nonempty
  have hsecond := hshift.nonempty
  unfold OnShift
  rw [hstaff]
  show (shift.staffId = staffId ∧ previous.startTime ≤ t ∧ t < shift.endTime) ↔ _
  by_cases hsame : shift.staffId = staffId
  · simp only [hsame, true_and]
    omega
  · simp only [hsame, false_and, or_self]

theorem atWork_mergeShifts {rt : Runtime} {payload : SolvePayload}
    {previous shift : NormalizedShift} (hprevious : previous.WellFormed)
    (hshift : shift.WellFormed) (hjoins : previous.joins shift = true) (staffId : String)
    (t : Int) :
    AtWork staffId t (mergeShifts rt payload previous shift) ↔
      AtWork staffId t previous ∨ AtWork staffId t shift := by
  have hstaff := (NormalizedShift.joins_iff.mp hjoins).1
  unfold AtWork
  rw [onDuty_mergeShifts hprevious hshift hjoins, hstaff, ← and_or_left]
  rfl

/-- Coalescing sorts by person, so that neighbours are enough, and merges. -/
theorem coalesceAdjacent_cases {rt : Runtime} {payload : SolvePayload}
    {solved shifts : List NormalizedShift} (hwell : ∀ shift ∈ solved, shift.WellFormed)
    (hsome : solved ≠ []) (h : coalesceAdjacentSolvedShifts rt payload solved = .ok shifts) :
    ∃ first rest, (first :: rest).Perm solved ∧
      ((first :: rest).Pairwise fun a b => a.staffId ≤ b.staffId) ∧
      (first :: rest).IsChain NormalizedShift.Follows ∧
      (first :: rest).Pairwise NormalizedShift.Follows ∧
      shifts = coalesce NormalizedShift.joins (mergeShifts rt payload) first rest := by
  have hperm := List.perm_insertionSort NormalizedShift.le solved
  have hsorted := List.pairwise_insertionSort NormalizedShift.le solved
  unfold coalesceAdjacentSolvedShifts at h
  cases hordered : solved.insertionSort NormalizedShift.le with
  | nil =>
      rw [hordered] at hperm
      exact absurd hperm.symm.eq_nil hsome
  | cons first rest =>
      rw [hordered] at h hperm hsorted
      obtain ⟨hchain, hshifts⟩ := coalesceFrom_ok h
      refine ⟨first, rest, hperm, hsorted.imp staffId_le_of_le, hchain, ?_, hshifts⟩
      exact pairwise_of_neighbours (hsorted.imp staffId_le_of_le)
        (fun shift hshift => (hwell shift (hperm.mem_iff.mp hshift)).nonempty) hchain

theorem coalesceAdjacent_ok {rt : Runtime} {payload : SolvePayload}
    {solved shifts : List NormalizedShift} (hwell : ∀ shift ∈ solved, shift.WellFormed)
    (hsome : solved ≠ []) (h : coalesceAdjacentSolvedShifts rt payload solved = .ok shifts) :
    Coalesced solved shifts := by
  obtain ⟨first, rest, hperm, _, hchain, hpairwise, rfl⟩ := coalesceAdjacent_cases hwell hsome h
  have hmerging := merge_merging rt payload
  have hvalid : ∀ shift ∈ first :: rest, shift.WellFormed := by
    intro shift hshift
    exact hwell shift (hperm.mem_iff.mp hshift)
  have hsource : ∀ Q : NormalizedShift → Prop,
      (∃ shift ∈ first :: rest, Q shift) ↔ ∃ shift ∈ solved, Q shift := by
    intro Q
    simp only [hperm.mem_iff]
  refine ⟨?_, ?_, ?_, ?_, ?_⟩
  · refine hmerging.forall_mem ?_ hvalid hchain hvalid
    intro previous shift hprevious hshift hfollows hjoins _ _
    exact hmerging.valid hprevious hshift hfollows hjoins
  · refine hmerging.pairwise ?_ ?_ hvalid hchain hpairwise
    · intro previous shift third _ _ _ _ _ hshift
      exact hshift
    · intro previous shift third _ _ _ hjoins hprevious _ hstaff
      exact hprevious (hstaff.trans (NormalizedShift.joins_iff.mp hjoins).1.symm)
  · intro staffId t
    rw [← hsource]
    constructor
    · refine hmerging.exists_down ?_ hvalid hchain
      intro previous shift hprevious hshift _ hjoins
      exact (onShift_mergeShifts hprevious hshift hjoins staffId t).mp
    · refine hmerging.exists_up ?_ hvalid hchain
      intro previous shift hprevious hshift _ hjoins
      exact (onShift_mergeShifts hprevious hshift hjoins staffId t).mpr
  · intro staffId t
    rw [← hsource]
    constructor
    · refine hmerging.exists_down ?_ hvalid hchain
      intro previous shift hprevious hshift _ hjoins
      exact (atWork_mergeShifts hprevious hshift hjoins staffId t).mp
    · refine hmerging.exists_up ?_ hvalid hchain
      intro previous shift hprevious hshift _ hjoins
      exact (atWork_mergeShifts hprevious hshift hjoins staffId t).mpr
  · intro staffId
    have hsum : breaksOf staffId (coalesce NormalizedShift.joins (mergeShifts rt payload) first
        rest) = breaksOf staffId (first :: rest) := by
      refine hmerging.sum ?_ hvalid hchain
      intro previous shift _ _ _ hjoins
      have hstaff := (NormalizedShift.joins_iff.mp hjoins).1
      show (if shift.staffId = staffId then contents (mergedBreaks rt
        (shiftId rt payload shift.staffId previous.startTime shift.endTime shift.role)
        (previous.breaks ++ shift.breaks)) else 0) = _
      rw [hstaff, contents_mergedBreaks]
      by_cases hsame : shift.staffId = staffId
      · rw [if_pos hsame, if_pos hsame, if_pos hsame]
      · rw [if_neg hsame, if_neg hsame, if_neg hsame, add_zero]
    rw [hsum]
    exact (hperm.map _).sum_eq

/-- A merge keeps the window of its first shift. -/
theorem coalesceAdjacent_inWindow {rt : Runtime} {payload : SolvePayload}
    {solved shifts : List NormalizedShift} {scheduleStart scheduleEnd : Int}
    (hwell : ∀ shift ∈ solved, shift.WellFormed)
    (hwindow : ∀ shift ∈ solved, shift.InWindow payload scheduleStart scheduleEnd)
    (hsome : solved ≠ []) (h : coalesceAdjacentSolvedShifts rt payload solved = .ok shifts) :
    ∀ shift ∈ shifts, shift.InWindow payload scheduleStart scheduleEnd := by
  obtain ⟨first, rest, hperm, _, hchain, _, rfl⟩ := coalesceAdjacent_cases hwell hsome h
  refine (merge_merging rt payload).forall_mem ?_
    (fun shift hshift => hwell shift (hperm.mem_iff.mp hshift)) hchain
    (fun shift hshift => hwindow shift (hperm.mem_iff.mp hshift))
  intro previous shift _ _ _ _ hprevious hshift
  exact ⟨hshift.staff, hprevious.first, hprevious.last⟩

/-! ## Demand -/

/-- The people at work at an instant. -/
def workingStaff (shifts : List NormalizedShift) (t : Int) : Finset String :=
  onDutyOwners NormalizedShift.staffId NormalizedShift.duty shifts t

/-- At every instant of the window enough people work, and enough of them hold
the window's skill if it has one. -/
def CoversWindow (rt : Runtime) (payload : SolvePayload) (shifts : List NormalizedShift)
    (window : DemandWindow) : Prop :=
  ∃ windowStart windowEnd,
    parseIsoDatetime rt window.startTime "demand window start_time" true = .ok windowStart ∧
    parseIsoDatetime rt window.endTime "demand window end_time" true = .ok windowEnd ∧
    ∀ t, windowStart ≤ t → t < windowEnd →
      window.requiredStaff ≤ (workingStaff shifts t).card ∧
        ∀ skill, window.skill = some skill → skill ≠ "" →
          window.requiredStaff ≤ ((workingStaff shifts t).filter fun staffId =>
            holdsSkill rt payload (rt.lower (strip skill)) staffId).card

/-- Two shifts of one person do not overlap. -/
abbrev NormalizedShift.Apart : NormalizedShift → NormalizedShift → Prop :=
  Separated NormalizedShift.staffId NormalizedShift.startTime NormalizedShift.endTime

theorem checkWindow_ok {rt : Runtime} {payload : SolvePayload} {shifts : List NormalizedShift}
    {window : DemandWindow} (hapart : shifts.Pairwise NormalizedShift.Apart) {u : Unit}
    (h : checkWindow rt payload shifts window = .ok u) : CoversWindow rt payload shifts window := by
  simp only [checkWindow, bind_eq_ok] at h
  obtain ⟨windowStart, hstart, windowEnd, hend, hpieces⟩ := h
  refine ⟨windowStart, windowEnd, hstart, hend, ?_⟩
  intro t hle hlt
  obtain ⟨piece, hpiece, hpieceLe, hpieceLt⟩ : ∃ piece ∈ cuts (sortedSet (clippedEdges windowStart
      windowEnd (shifts.map NormalizedShift.duty))), piece.1 ≤ t ∧ t < piece.2 :=
    exists_mem_cuts_clippedEdges hle hlt
  have hcheck := checkAll_eq_ok.mp hpieces piece hpiece
  simp only [checkWindowPiece, bind_eq_ok, ensure_eq_ok, exists_const] at hcheck
  rw [filter_workingOn_eq hpiece (hle.trans hlt.le) hpieceLe hpieceLt] at hcheck
  obtain ⟨hstaff, hskill⟩ := hcheck
  constructor
  · rw [workingStaff, card_onDutyOwners hapart]
    exact hstaff
  · intro skill hsome hne
    rw [hsome] at hskill
    dsimp only at hskill
    rw [if_neg hne, ensure_eq_ok] at hskill
    rw [workingStaff, card_filter_onDutyOwners _ hapart]
    exact hskill

/-! ## The gate -/

/-- What the worker stores is sound: nobody is booked twice or over an existing
shift, breaks are proper, nothing was added to or lost from the response, and
every demand window is covered. -/
structure Accepted (rt : Runtime) (payload : SolvePayload) (response : RawResponse)
    (shifts : List NormalizedShift) : Prop where
  keys : (shifts.map fun shift =>
    (shift.staffId, shift.startTime, shift.endTime, shift.role)).Nodup
  window : ∃ scheduleStart scheduleEnd,
    parseIsoDatetime rt payload.startDate "start_date" false = .ok scheduleStart ∧
    parseIsoDatetime rt payload.endDate "end_date" false = .ok scheduleEnd ∧
    ∀ shift ∈ shifts, shift.InWindow payload scheduleStart scheduleEnd
  length : ∀ shift ∈ shifts, shift.endTime - shift.startTime ≤ day
  apart : shifts.Pairwise NormalizedShift.Apart
  existing : ∀ shift ∈ shifts, ∀ existing ∈ payload.existingShifts,
    existing.staffId = shift.staffId → ∃ existingStart existingEnd,
      parseIsoDatetime rt existing.startTime "existing_shifts.start_time" true =
        .ok existingStart ∧
      parseIsoDatetime rt existing.endTime "existing_shifts.end_time" true = .ok existingEnd ∧
      ¬ (shift.startTime < existingEnd ∧ existingStart < shift.endTime)
  wellFormed : ∀ shift ∈ shifts, shift.WellFormed
  source : ∃ rawShifts solved, response.shifts.read = .ok rawShifts ∧
    List.Forall₂ (ReadsShift rt) rawShifts solved ∧ Coalesced solved shifts
  coverage : ∀ window ∈ payload.demandWindows, CoversWindow rt payload shifts window

theorem normalizeSolvedShifts_ok {rt : Runtime} {payload : SolvePayload} {response : RawResponse}
    {shifts : List NormalizedShift} (h : normalizeSolvedShifts rt payload response = .ok shifts) :
    ∃ scheduleStart scheduleEnd rawShifts solved,
      parseIsoDatetime rt payload.startDate "start_date" false = .ok scheduleStart ∧
      parseIsoDatetime rt payload.endDate "end_date" false = .ok scheduleEnd ∧
      response.shifts.read = .ok rawShifts ∧
      collectShifts rt payload scheduleStart scheduleEnd 0 [] rawShifts = .ok solved ∧
      solved ≠ [] ∧ coalesceAdjacentSolvedShifts rt payload solved = .ok shifts ∧
      ∀ shift ∈ shifts, checkFinalShift rt payload shift = .ok () := by
  simp only [normalizeSolvedShifts, bind_eq_ok, ensure_eq_ok, exists_const,
    orElseReject_eq_ok] at h
  obtain ⟨scheduleStart, hstart, scheduleEnd, hend, rawShifts, hraw, solved, hsolved, hsome, final,
    hfinal, _, hcheck, heq⟩ := h
  cases heq
  exact ⟨scheduleStart, scheduleEnd, rawShifts, solved, hstart, hend, hraw, hsolved, hsome, hfinal,
    checkAll_eq_ok.mp hcheck⟩

theorem checkFinalShift_ok {rt : Runtime} {payload : SolvePayload} {shift : NormalizedShift}
    {u : Unit} (h : checkFinalShift rt payload shift = .ok u) :
    shift.endTime - shift.startTime ≤ day ∧ ∀ existing ∈ payload.existingShifts,
      existing.staffId = shift.staffId → ∃ existingStart existingEnd,
        parseIsoDatetime rt existing.startTime "existing_shifts.start_time" true =
          .ok existingStart ∧
        parseIsoDatetime rt existing.endTime "existing_shifts.end_time" true = .ok existingEnd ∧
        ¬ (shift.startTime < existingEnd ∧ existingStart < shift.endTime) := by
  simp only [checkFinalShift, bind_eq_ok, ensure_eq_ok, exists_const] at h
  refine ⟨h.1, ?_⟩
  intro existing hexisting hstaff
  have hcheck := checkAll_eq_ok.mp h.2 existing
    (List.mem_filter.mpr ⟨hexisting, decide_eq_true hstaff⟩)
  simp only [bind_eq_ok, ensure_eq_ok] at hcheck
  obtain ⟨existingStart, hstart, existingEnd, hend, hclear⟩ := hcheck
  exact ⟨existingStart, existingEnd, hstart, hend, hclear⟩

/-- Shifts of one person that follow one another have distinct keys. -/
theorem keys_nodup {shifts : List NormalizedShift}
    (hwell : ∀ shift ∈ shifts, shift.WellFormed)
    (hfollows : shifts.Pairwise NormalizedShift.Follows) :
    (shifts.map fun shift =>
      (shift.staffId, shift.startTime, shift.endTime, shift.role)).Nodup := by
  rw [List.Nodup, List.pairwise_map]
  refine hfollows.imp_of_mem ?_
  intro first second hfirst _ hafter heq
  rw [Prod.mk.injEq, Prod.mk.injEq] at heq
  have hle := hafter heq.1
  have hnonempty := (hwell first hfirst).nonempty
  have hstart := heq.2.1
  omega

/-- Whatever the engine responds, what passes the gate for a payload with demand
windows can be stored. -/
theorem gate_sound {rt : Runtime} {payload : SolvePayload} {response : RawResponse}
    {shifts : List NormalizedShift} (hwindows : payload.demandWindows ≠ [])
    (hnormalize : normalizeSolvedShifts rt payload response = .ok shifts)
    (hvalidate : validateSolvedDemandCoverage rt payload shifts = .ok ()) :
    Accepted rt payload response shifts := by
  obtain ⟨scheduleStart, scheduleEnd, rawShifts, solved, hstart, hend, hraw, hsolved, hsome, hfinal,
    hcheck⟩ := normalizeSolvedShifts_ok hnormalize
  obtain ⟨hreads, hgood⟩ := collectShifts_ok hsolved
  have hwell : ∀ shift ∈ solved, shift.WellFormed := fun shift hshift => (hgood shift hshift).1
  have hcoalesced := coalesceAdjacent_ok hwell hsome hfinal
  have hapart : shifts.Pairwise NormalizedShift.Apart :=
    hcoalesced.follows.imp fun hafter hstaff => .inl (hafter hstaff)
  rw [validateSolvedDemandCoverage, if_neg hwindows] at hvalidate
  exact {
    keys := keys_nodup hcoalesced.wellFormed hcoalesced.follows
    window := ⟨scheduleStart, scheduleEnd, hstart, hend, coalesceAdjacent_inWindow hwell
      (fun shift hshift => (hgood shift hshift).2) hsome hfinal⟩
    length := fun shift hshift => (checkFinalShift_ok (hcheck shift hshift)).1
    apart := hapart
    existing := fun shift hshift => (checkFinalShift_ok (hcheck shift hshift)).2
    wellFormed := hcoalesced.wellFormed
    source := ⟨rawShifts, solved, hraw, hreads, hcoalesced⟩
    coverage := fun window hwindow =>
      checkWindow_ok hapart (checkAll_eq_ok.mp hvalidate window hwindow) }

/-! ## A response with touching fragments -/

namespace TouchingFragments

/-- A payload with one window for one cook. -/
def payload : SolvePayload where
  scheduleId := "s"
  tenantId := "t"
  locationId := "l"
  startDate := "2026-03-09"
  endDate := "2026-03-10"
  draftRevision := 0
  inputShiftSnapshot := []
  staffIds := ["a"]
  constraints := []
  availability := []
  availabilityExceptions := []
  availabilityConfigured := []
  staffSkills := [("a", ["Cook"])]
  skillRequirements := []
  dailyDemand := .none
  demandWindows := [⟨"w", "2026-03-09T09:00:00Z", "2026-03-09T10:00:00Z", 1, some "cook"⟩]
  timezone := "UTC"
  existingWeeklyMinutes := []
  existingShifts := []

/-- The response has the window in two fragments, the later one first and with a
break after the window. -/
def response : RawResponse where
  shifts := .items
    [{ staffId := some (.text "a")
       startTime := some (.text "2026-03-09T09:30:00Z")
       endTime := some (.text "2026-03-09T11:00:00Z")
       role := some (.text "cook")
       breaks := .items [⟨some (.text "2026-03-09T10:15:00Z"), some (.text "2026-03-09T10:30:00Z"),
         some (.text "rest"), none⟩] },
      { staffId := some (.text " a ")
        startTime := some (.text "2026-03-09T09:00:00Z")
        endTime := some (.text "2026-03-09T09:30:00Z")
        role := some (.text "cook")
        breaks := .missing }]

theorem passes :
    (match normalizeSolvedShifts (.reference fun _ => none) payload response with
      | .ok shifts => decide (shifts.length = 1) &&
          match validateSolvedDemandCoverage (.reference fun _ => none) payload shifts with
          | .ok _ => true
          | .error _ => false
      | .error _ => false) = true := by
  decide +kernel

/-- The two fragments pass as one shift. -/
theorem fragments_accepted :
    ∃ shifts, shifts.length = 1 ∧
      Accepted (.reference fun _ => none) payload response shifts := by
  have h := passes
  split at h
  · rename_i shifts hnormalize
    rw [Bool.and_eq_true, decide_eq_true_eq] at h
    obtain ⟨hlength, hvalid⟩ := h
    refine ⟨shifts, hlength, gate_sound (by decide) hnormalize ?_⟩
    split at hvalid
    · rename_i hvalidate
      exact hvalidate
    · cases hvalid
  · cases h

end TouchingFragments

end LunchLineup.Worker
