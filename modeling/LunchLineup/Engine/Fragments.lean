import LunchLineup.Engine.IsoRuns
import LunchLineup.Engine.Stagger
import LunchLineup.Python.Reference

/-!
# Coalescing conserves work and breaks

What `_coalesce_continuous_assignments` returns for slots that are apart: per
person the same time, cut at protected boundaries only, and each break of a run
in exactly one fragment.

A fragment is given every break that overlaps it.  No break is strictly around
the start of a fragment, or the fragment would not have been started there; so
a break inside a run that is not empty overlaps one fragment and lies within it
(`countP_reaches`), also when it ends or starts exactly at a boundary.
-/

namespace LunchLineup.Engine

open LunchLineup.Lib LunchLineup.Python

/-- The assignments in chains that touch, with time between two chains of one person. -/
structure MaximalRuns (assignments : List Assignment) (runs : List (List Assignment)) : Prop where
  partition : runs.flatten.Perm assignments
  run : ∀ run ∈ runs, IsRun run
  maximal : runs.Pairwise fun first second => ∀ a ∈ first, ∀ b ∈ second, a.staffId = b.staffId →
    a.endTime < b.startTime ∨ b.endTime < a.startTime

/-- A run cut at protected boundaries, with its breaks. -/
structure Fragments (protectedBoundaries : List Int) (run : List Assignment) (breaks : List Break)
    (fragments : List Assignment) : Prop where
  nonempty : fragments ≠ []
  valid : ∀ fragment ∈ fragments, fragment.Valid
  owner : ∀ fragment ∈ fragments, ∀ slot ∈ run, fragment.staffId = slot.staffId
  span : runSpan fragments = runSpan run
  touch : fragments.IsChain Assignment.Touches
  split : ∀ fragment ∈ fragments.tail, fragment.startTime ∈ protectedBoundaries
  breaks : (∀ item ∈ breaks, item.startTime < item.endTime ∧
      item.Inside (runSpan run).1 (runSpan run).2) →
    (fragments.flatMap Assignment.breaks).Perm breaks ∧
      ∀ fragment ∈ fragments, ∀ item ∈ fragment.breaks,
        fragment.startTime ≤ item.startTime ∧ item.endTime ≤ fragment.endTime

/-! ## The runs are maximal -/

section

variable {assignments : List Assignment} {staffIds : List String}

instance : Std.Total Assignment.spanLe where
  total first second := by
    simp only [Assignment.spanLe, intervalLe]
    omega

instance : IsTrans Assignment Assignment.spanLe where
  trans first second third h h' := by
    simp only [Assignment.spanLe, intervalLe] at h h' ⊢
    omega

/-- The slots of one person, in order. -/
def slotsOf (assignments : List Assignment) (staffId : String) : List Assignment :=
  (assignments.filter fun slot => slot.staffId = staffId).insertionSort Assignment.spanLe

theorem mem_slotsOf {staffId : String} {slot : Assignment} :
    slot ∈ slotsOf assignments staffId ↔ slot ∈ assignments ∧ slot.staffId = staffId := by
  rw [slotsOf, List.mem_insertionSort, List.mem_filter, decide_eq_true_eq]

/-- The slots of one person follow one another. -/
theorem slotsOf_follows (hvalid : ∀ slot ∈ assignments, slot.Valid)
    (hapart : assignments.Pairwise Assignment.Apart) (staffId : String) :
    (slotsOf assignments staffId).Pairwise fun first second =>
      first.endTime ≤ second.startTime := by
  have hsorted : (slotsOf assignments staffId).Pairwise Assignment.spanLe :=
    List.pairwise_insertionSort Assignment.spanLe _
  have hapartSorted : (slotsOf assignments staffId).Pairwise Assignment.Apart :=
    ((List.perm_insertionSort Assignment.spanLe _).pairwise_iff fun h => h.symm).mpr
      (hapart.filter _)
  refine (hsorted.and hapartSorted).imp_of_mem ?_
  rintro first second hfirst hsecond ⟨hle, haparts⟩
  obtain ⟨_, hfirstOwner⟩ := mem_slotsOf.mp hfirst
  obtain ⟨hmem, hsecondOwner⟩ := mem_slotsOf.mp hsecond
  have hlt := hvalid second hmem
  simp only [Assignment.spanLe, intervalLe, Assignment.span] at hle
  unfold Assignment.Valid at hlt
  rcases haparts (hfirstOwner.trans hsecondOwner.symm) with hbefore | hafter
  · exact hbefore
  · omega

/-- The last of some slots that follow one another ends last. -/
theorem endTime_le_getLast {run : List Assignment} (hne : run ≠ [])
    (hvalid : ∀ slot ∈ run, slot.Valid)
    (hfollows : run.Pairwise fun first second => first.endTime ≤ second.startTime) :
    ∀ slot ∈ run, slot.endTime ≤ (run.getLast hne).endTime := by
  induction run with
  | nil => exact absurd rfl hne
  | cons first rest ih =>
      obtain ⟨hfirst, hrest⟩ := List.pairwise_cons.mp hfollows
      cases rest with
      | nil => simp
      | cons next more =>
          have htail := ih (List.cons_ne_nil _ _)
            (fun slot hmem => hvalid slot (List.mem_cons_of_mem _ hmem)) hrest
          rw [List.getLast_cons (List.cons_ne_nil _ _)]
          intro slot hmem
          rcases List.mem_cons.mp hmem with rfl | hmem
          · have hnext := hvalid next (by simp)
            have hle := hfirst next List.mem_cons_self
            have hlast := htail next List.mem_cons_self
            unfold Assignment.Valid at hnext
            omega
          · exact htail slot hmem

/-- Runs that follow one another, with a gap between neighbours, have gaps between any two. -/
theorem pairwise_gap_of_neighbours {runs : List (List Assignment)}
    (hne : ∀ run ∈ runs, run ≠ []) (hvalid : ∀ run ∈ runs, ∀ slot ∈ run, slot.Valid)
    (hinner : ∀ run ∈ runs, run.Pairwise fun first second => first.endTime ≤ second.startTime)
    (houter : runs.Pairwise fun first second => ∀ a ∈ first, ∀ b ∈ second, a.endTime ≤ b.startTime)
    (hgap : runs.IsChain fun first second => ∃ hfirst hsecond,
      (first.getLast hfirst).endTime ≠ (second.head hsecond).startTime) :
    runs.Pairwise fun first second => ∀ a ∈ first, ∀ b ∈ second, a.endTime < b.startTime := by
  induction runs with
  | nil => exact .nil
  | cons run rest ih =>
      obtain ⟨hrun, hrest⟩ := List.pairwise_cons.mp houter
      have htail := ih (fun other hmem => hne other (List.mem_cons_of_mem _ hmem))
        (fun other hmem => hvalid other (List.mem_cons_of_mem _ hmem))
        (fun other hmem => hinner other (List.mem_cons_of_mem _ hmem)) hrest hgap.tail
      refine List.pairwise_cons.mpr ⟨?_, htail⟩
      intro other hmem a ha b hb
      cases rest with
      | nil => simp at hmem
      | cons next more =>
          obtain ⟨⟨hfirst, hsecond, hdiffer⟩, _⟩ := List.isChain_cons_cons.mp hgap
          have hlast := endTime_le_getLast hfirst (hvalid run List.mem_cons_self)
            (hinner run List.mem_cons_self) a ha
          have hhead := hrun next List.mem_cons_self _ (List.getLast_mem hfirst) _
            (List.head_mem hsecond)
          have hheadValid := hvalid next (by simp) _ (List.head_mem hsecond)
          unfold Assignment.Valid at hheadValid
          -- the first slot of the next run starts after `a` ends, and `b` not before it
          rcases List.mem_cons.mp hmem with rfl | hmem
          · obtain ⟨first, others, rfl⟩ := List.exists_cons_of_ne_nil hsecond
            rcases List.mem_cons.mp hb with rfl | hb
            · rw [List.head_cons] at hdiffer hhead
              omega
            · have hle := (List.pairwise_cons.mp (hinner (first :: others) (by simp))).1 b hb
              rw [List.head_cons] at hdiffer hhead hheadValid
              omega
          · have hle := (List.pairwise_cons.mp hrest).1 other hmem _ (List.head_mem hsecond) b hb
            omega

/-- Between two runs of one person there is time. -/
theorem splitBy_maximal {slots : List Assignment}
    (hfollows : slots.Pairwise fun first second => first.endTime ≤ second.startTime)
    (hvalid : ∀ slot ∈ slots, slot.Valid) :
    (slots.splitBy fun previous next => previous.endTime = next.startTime).Pairwise
      fun first second => ∀ a ∈ first, ∀ b ∈ second, a.endTime < b.startTime := by
  have hflat := List.flatten_splitBy
    (fun previous next : Assignment => decide (previous.endTime = next.startTime)) slots
  rw [← hflat, List.pairwise_flatten] at hfollows
  refine pairwise_gap_of_neighbours (fun run hrun => List.ne_nil_of_mem_splitBy hrun) ?_
    hfollows.1 hfollows.2 ?_
  · intro run hrun slot hslot
    apply hvalid
    rw [← hflat]
    exact List.mem_flatten.mpr ⟨run, hrun, hslot⟩
  · refine (List.isChain_getLast_head_splitBy _ slots).imp ?_
    rintro first second ⟨hfirst, hsecond, hdiffer⟩
    exact ⟨hfirst, hsecond, of_decide_eq_false hdiffer⟩

theorem visitedRuns_maximal (hvalid : ∀ slot ∈ assignments, slot.Valid)
    (hapart : assignments.Pairwise Assignment.Apart) :
    MaximalRuns assignments (visitedRuns staffIds assignments) := by
  have hperm : (visitedRuns staffIds assignments).Perm (runsOf assignments) :=
    List.perm_insertionSort _ _
  refine ⟨(hperm.flatten).trans (runsOf_flatten_perm assignments),
    fun run hrun => (mem_visitedRuns hrun).1, ?_⟩
  refine (hperm.pairwise_iff ?_).mpr ?_
  · intro first second h a ha b hb howner
    exact (h b hb a ha howner.symm).symm
  have howned : ∀ staffId, ∀ run ∈ (slotsOf assignments staffId).splitBy
      (fun previous next => previous.endTime = next.startTime),
      ∀ slot ∈ run, slot.staffId = staffId := by
    intro staffId run hrun slot hmem
    have hflat := List.mem_flatten.mpr ⟨run, hrun, hmem⟩
    rw [List.flatten_splitBy] at hflat
    exact (mem_slotsOf.mp hflat).2
  show ((firstOccurrences (assignments.map Assignment.staffId)).flatMap fun staffId =>
    (slotsOf assignments staffId).splitBy fun previous next =>
      previous.endTime = next.startTime).Pairwise _
  rw [List.pairwise_flatMap]
  constructor
  · intro staffId _
    have hmaximal := splitBy_maximal (slotsOf_follows hvalid hapart staffId)
      fun slot hmem => hvalid slot (mem_slotsOf.mp hmem).1
    refine hmaximal.imp ?_
    intro first second h a ha b hb _
    exact .inl (h a ha b hb)
  · -- runs of two people have no slots of one person
    refine (firstOccurrences_nodup _).imp ?_
    intro staffId other hne first hfirst second hsecond a ha b hb howner
    rw [howned staffId first hfirst a ha, howned other second hsecond b hb] at howner
    exact absurd howner hne

end

/-! ## One run -/

/-- `attachBreaks` gives the fragment the break. -/
def reaches (item : Break) (fragment : Assignment) : Bool :=
  item.startTime < fragment.endTime && fragment.startTime < item.endTime

theorem reaches_iff {item : Break} {fragment : Assignment} :
    reaches item fragment = true ↔
      item.startTime < fragment.endTime ∧ fragment.startTime < item.endTime := by
  simp only [reaches, Bool.and_eq_true, decide_eq_true_eq]

/-- The fragments of a chain start at its start or later. -/
theorem chain_start_le {first : Assignment} {rest : List Assignment}
    (hvalid : ∀ fragment ∈ first :: rest, fragment.Valid)
    (htouch : (first :: rest).IsChain Assignment.Touches) :
    ∀ fragment ∈ first :: rest, first.startTime ≤ fragment.startTime := by
  induction rest generalizing first with
  | nil => simp
  | cons next more ih =>
      obtain ⟨⟨hedge, _⟩, htail⟩ := List.isChain_cons_cons.mp htouch
      have hfirst := hvalid first List.mem_cons_self
      unfold Assignment.Valid at hfirst
      intro fragment hmem
      rcases List.mem_cons.mp hmem with rfl | hmem
      · exact le_rfl
      · have hnext := ih (fun other hother => hvalid other (List.mem_cons_of_mem _ hother)) htail
          fragment hmem
        omega

/-- A break that no fragment's start cuts overlaps one fragment, and lies within it. -/
theorem countP_reaches {first : Assignment} {rest : List Assignment} {endTime : Int} {item : Break}
    (hvalid : ∀ fragment ∈ first :: rest, fragment.Valid)
    (htouch : (first :: rest).IsChain Assignment.Touches)
    (hend : (first :: rest).getLast?.map Assignment.endTime = some endTime)
    (hnonempty : item.startTime < item.endTime) (hstart : first.startTime ≤ item.startTime)
    (hwithin : item.endTime ≤ endTime)
    (hcut : ∀ fragment ∈ rest,
      ¬ (item.startTime < fragment.startTime ∧ fragment.startTime < item.endTime)) :
    (first :: rest).countP (reaches item) = 1 ∧
      ∀ fragment ∈ first :: rest, reaches item fragment = true →
        fragment.startTime ≤ item.startTime ∧ item.endTime ≤ fragment.endTime := by
  induction rest generalizing first with
  | nil =>
      simp only [List.getLast?_singleton, Option.map_some, Option.some.injEq] at hend
      have hreaches : reaches item first = true := reaches_iff.mpr (by omega)
      constructor
      · rw [List.countP_singleton, if_pos hreaches]
      · intro fragment hmem _
        rw [List.mem_singleton] at hmem
        subst hmem
        omega
  | cons next more ih =>
      obtain ⟨⟨hedge, _⟩, htail⟩ := List.isChain_cons_cons.mp htouch
      have hvalidTail : ∀ fragment ∈ next :: more, fragment.Valid :=
        fun other hother => hvalid other (List.mem_cons_of_mem _ hother)
      have hfirst := hvalid first List.mem_cons_self
      unfold Assignment.Valid at hfirst
      have hnext := hcut next List.mem_cons_self
      rw [List.getLast?_cons_cons] at hend
      rw [List.countP_cons]
      by_cases hbefore : item.endTime ≤ next.startTime
      · -- the break ends before the first cut: all later fragments start after it
        have hreaches : reaches item first = true := reaches_iff.mpr (by omega)
        have hlater : ∀ fragment ∈ next :: more, ¬ reaches item fragment = true := by
          intro fragment hmem hreach
          have hle := chain_start_le hvalidTail htail fragment hmem
          have hlt := (reaches_iff.mp hreach).2
          omega
        rw [if_pos hreaches, List.countP_eq_zero.mpr hlater]
        refine ⟨rfl, ?_⟩
        intro fragment hmem hreach
        rcases List.mem_cons.mp hmem with rfl | hmem
        · omega
        · exact absurd hreach (hlater fragment hmem)
      · have hnot : ¬ reaches item first = true := by
          rw [reaches_iff]
          omega
        obtain ⟨hcount, hfragments⟩ := ih hvalidTail htail hend (by omega)
          (fun fragment hmem => hcut fragment (List.mem_cons_of_mem _ hmem))
        rw [if_neg hnot, hcount]
        refine ⟨rfl, ?_⟩
        intro fragment hmem hreach
        rcases List.mem_cons.mp hmem with rfl | hmem
        · exact absurd hreach hnot
        · exact hfragments fragment hmem hreach

/-- The slots of a chain belong to one person. -/
theorem owner_of_touch {first : Assignment} {rest : List Assignment}
    (htouch : (first :: rest).IsChain Assignment.Touches) :
    ∀ slot ∈ first :: rest, slot.staffId = first.staffId := by
  induction rest generalizing first with
  | nil => simp
  | cons next more ih =>
      obtain ⟨⟨_, howner⟩, htail⟩ := List.isChain_cons_cons.mp htouch
      intro slot hmem
      rcases List.mem_cons.mp hmem with rfl | hmem
      · rfl
      · exact (ih htail slot hmem).trans howner.symm

section

variable {protectedBoundaries : List Int} {breaks : List Break} {first : Assignment}
  {rest : List Assignment}

/-- The merged slots of a run, before the breaks. -/
structure Merged (protectedBoundaries : List Int) (breaks : List Break) (first : Assignment)
    (rest merged : List Assignment) : Prop where
  nonempty : merged ≠ []
  valid : ∀ fragment ∈ merged, fragment.Valid
  owner : ∀ fragment ∈ merged, fragment.staffId = first.staffId
  touch : merged.IsChain Assignment.Touches
  start : merged.head?.map Assignment.startTime = some first.startTime
  finish : merged.getLast?.map Assignment.endTime =
    (first :: rest).getLast?.map Assignment.endTime
  split : ∀ fragment ∈ merged.tail,
    preserveBoundary protectedBoundaries breaks fragment.startTime = true

theorem mergeRun_merged (hvalid : ∀ slot ∈ first :: rest, slot.Valid)
    (htouch : (first :: rest).IsChain Assignment.Touches) :
    Merged protectedBoundaries breaks first rest
      (mergeRun protectedBoundaries breaks (first :: rest)) := by
  obtain ⟨joins, hjoins⟩ : ∃ joins : Assignment → Assignment → Bool, joins = fun _ next =>
      !preserveBoundary protectedBoundaries breaks next.startTime := ⟨_, rfl⟩
  have hmerging := extend_merging joins
  rw [mergeRun, ← hjoins]
  have hne : coalesce joins Assignment.extend first rest ≠ [] := coalesce_ne_nil _ _
  refine ⟨hne, ?_, ?_, ?_, ?_, ?_, ?_⟩
  · refine hmerging.forall_mem ?_ hvalid htouch hvalid
    intro current next hcurrent hnext htouches hmerge _ _
    exact hmerging.valid hcurrent hnext htouches hmerge
  · refine hmerging.forall_mem ?_ hvalid htouch (owner_of_touch htouch)
    intro current next _ _ _ _ howner _
    exact howner
  · refine hmerging.isChain ?_ hvalid htouch
    intro current next third htouches _ _
    exact htouches
  · apply head?_coalesce
    intro current next
    rfl
  · apply getLast?_coalesce
    intro current next
    rfl
  · -- where two fragments meet, the slots were not merged
    have hleft : ∀ a b c : Assignment, joins b c = true → joins a (b.extend c) = joins a b := by
      intro a b c _
      rw [hjoins]
      rfl
    have hchain := isChain_coalesce hleft first rest
    obtain ⟨head, tail, heq⟩ := List.exists_cons_of_ne_nil hne
    rw [heq] at hchain ⊢
    intro fragment hmem
    rw [hjoins] at hchain
    simpa using isChain_right hchain fragment hmem

theorem preserveBoundary_iff {boundary : Int} :
    preserveBoundary protectedBoundaries breaks boundary = true ↔
      boundary ∈ protectedBoundaries ∧
        ∀ item ∈ breaks, ¬ (item.startTime < boundary ∧ boundary < item.endTime) := by
  simp [preserveBoundary]

/-- The fragments of a run. -/
theorem Merged.fragments {merged : List Assignment}
    (h : Merged protectedBoundaries breaks first rest merged) (rt : Runtime) (zone : ZoneInfo)
    (htouch : (first :: rest).IsChain Assignment.Touches) :
    Fragments protectedBoundaries (first :: rest) breaks
      (merged.map (attachBreaks rt zone breaks)) := by
  obtain ⟨head, tail, rfl⟩ := List.exists_cons_of_ne_nil h.nonempty
  have hstart : head.startTime = first.startTime := Option.some.inj h.start
  have hspan : runSpan ((head :: tail).map (attachBreaks rt zone breaks)) =
      runSpan (first :: rest) := by
    have hfinish := h.finish
    simp only [runSpan, List.head?_map, List.getLast?_map, Option.map_map] at hfinish ⊢
    show (head.startTime, (Option.map Assignment.endTime _).getD 0) = _
    rw [hfinish, hstart]
    rfl
  refine ⟨by simp, ?_, ?_, hspan, ?_, ?_, ?_⟩
  · intro fragment hmem
    obtain ⟨merged, hmerged, rfl⟩ := List.mem_map.mp hmem
    exact h.valid merged hmerged
  · intro fragment hmem slot hslot
    obtain ⟨merged, hmerged, rfl⟩ := List.mem_map.mp hmem
    exact (h.owner merged hmerged).trans (owner_of_touch htouch slot hslot).symm
  · rw [List.isChain_map]
    exact h.touch
  · intro fragment hmem
    rw [← List.map_tail] at hmem
    obtain ⟨merged, hmerged, rfl⟩ := List.mem_map.mp hmem
    exact (preserveBoundary_iff.mp (h.split merged hmerged)).1
  · intro hinside
    obtain ⟨endTime, hend⟩ : ∃ endTime,
        (head :: tail).getLast?.map Assignment.endTime = some endTime := by
      rw [List.getLast?_cons]
      exact ⟨_, rfl⟩
    have hrunEnd : (runSpan (first :: rest)).2 = endTime := by
      rw [runSpan, ← h.finish, hend]
      rfl
    have hone : ∀ item ∈ breaks, (head :: tail).countP (reaches item) = 1 ∧
        ∀ fragment ∈ head :: tail, reaches item fragment = true →
          fragment.startTime ≤ item.startTime ∧ item.endTime ≤ fragment.endTime := by
      intro item hitem
      obtain ⟨hnonempty, hfrom, huntil⟩ := hinside item hitem
      rw [hrunEnd] at huntil
      refine countP_reaches h.valid h.touch hend hnonempty (hstart.trans_le hfrom) huntil ?_
      intro fragment hmem
      exact (preserveBoundary_iff.mp (h.split fragment hmem)).2 item hitem
    constructor
    · rw [List.flatMap_map]
      exact flatMap_filter_perm_of_countP (fun fragment item => reaches item fragment)
        fun item hitem => (hone item hitem).1
    · intro fragment hmem item hitem
      obtain ⟨merged, hmerged, rfl⟩ := List.mem_map.mp hmem
      obtain ⟨hbreak, hreach⟩ := List.mem_filter.mp hitem
      exact (hone item hbreak).2 merged hmerged hreach

theorem finishRun_fragments (rt : Runtime) (zone : ZoneInfo) (rules : BreakRules)
    {run : List Assignment} (hrun : IsRun run) (hvalid : ∀ slot ∈ run, slot.Valid)
    (staggerIndex : Nat) :
    Fragments protectedBoundaries run (runBreaks rules run staggerIndex)
      (finishRun rt zone rules protectedBoundaries run staggerIndex) := by
  obtain ⟨first, rest, rfl⟩ := List.exists_cons_of_ne_nil hrun.1
  exact (mergeRun_merged hvalid hrun.2).fragments rt zone hrun.2

end

/-! ## All runs -/

/-- What coalescing keeps of the slots: the time of each person, and runs cut at protected
boundaries that hold their breaks. -/
structure Conserves (rules : BreakRules) (protectedBoundaries : List Int)
    (assignments : List Assignment) (runs : List (List Assignment × Nat))
    (result : List Assignment) : Prop where
  apart : result.Pairwise Assignment.Apart
  union : ∀ staffId t,
    (∃ fragment ∈ result, fragment.staffId = staffId ∧ fragment.startTime ≤ t ∧
        t < fragment.endTime) ↔
      ∃ slot ∈ assignments, slot.staffId = staffId ∧ slot.startTime ≤ t ∧ t < slot.endTime
  maximal : MaximalRuns assignments (runs.map Prod.fst)
  fragments : ∃ pieces : List (List Assignment), pieces.flatten.Perm result ∧
    List.Forall₂ (fun entry fragments =>
      Fragments protectedBoundaries entry.1 (runBreaks rules entry.1 entry.2) fragments) runs pieces

theorem SameTime.symm {first second : List Assignment} (h : SameTime first second) :
    SameTime second first where
  total := by
    intro M _ f hf
    exact (h.total hf).symm

/-- Coalescing slots that are apart keeps the time of each person and the breaks of each run, and
the order of the texts that it sorts by is the order of the instants. -/
theorem isoCoalesce_conserves (rt : Runtime) (zone : ZoneInfo) (rules : BreakRules)
    (staffIds : List String) (protectedBoundaries : List Int) {assignments : List Assignment}
    (hvalid : ∀ slot ∈ assignments, slot.Valid) (hapart : assignments.Pairwise Assignment.Apart)
    (hrange : ∀ slot ∈ assignments, InRange slot.span) :
    StrictMonoOn datetimeIsoformat datetimeRange ∧
      Conserves rules protectedBoundaries assignments
        (isoStaggerRuns [] (isoVisitedRuns staffIds assignments))
        (isoCoalesce rt zone rules staffIds protectedBoundaries assignments) := by
  refine ⟨datetimeIsoformat_strictMonoOn, ?_⟩
  rw [isoCoalesce_eq rt zone rules hvalid hrange, isoStaggerRuns_visited hrange]
  have hsame : SameTime (coalesceContinuousAssignments rt zone rules staffIds protectedBoundaries
      assignments) assignments := coalesce_sameTime rt zone rules hvalid
  refine ⟨hsame.apart (coalesce_valid rt zone rules hvalid) hapart, ?_, ?_, ?_⟩
  · intro staffId t
    constructor
    · rintro ⟨fragment, hmem, rfl, hle, hlt⟩
      exact hsame.exists_source hmem hle hlt
    · rintro ⟨slot, hmem, rfl, hle, hlt⟩
      exact hsame.symm.exists_source hmem hle hlt
  · rw [map_fst_staggerRuns]
    exact visitedRuns_maximal hvalid hapart
  · refine ⟨(staggerRuns [] (visitedRuns staffIds assignments)).map fun entry =>
      finishRun rt zone rules protectedBoundaries entry.1 entry.2, ?_, ?_⟩
    · rw [← List.flatMap_def]
      exact (List.perm_insertionSort _ _).symm
    · rw [List.forall₂_map_right_iff, List.forall₂_same]
      intro entry hentry
      obtain ⟨hrun, hsource⟩ := mem_visitedRuns (fst_mem_visitedRuns hentry)
      exact finishRun_fragments rt zone rules hrun (fun slot hmem => hvalid slot (hsource slot hmem))
        entry.2

/-! ## A lunch over a skill boundary

The boundaries at 13:15 and 14:00 are protected; the lunch from 13:00 to 13:30 keeps the first
from cutting the shift. -/

namespace SkillBoundary

/-- Monday, 2026-03-09. -/
def monday : Int := midnight 20521

def slot (startTime endTime : Int) (role : String) : Assignment :=
  ⟨"alice", "2026-03-09", monday + startTime, monday + endTime, some role, []⟩

def slots : List Assignment :=
  [slot (9 * hour) (13 * hour + 15 * minute) "STAFF",
    slot (13 * hour + 15 * minute) (14 * hour) "cashier", slot (14 * hour) (17 * hour) "STAFF"]

def boundaries : List Int := [monday + 13 * hour + 15 * minute, monday + 14 * hour]

def rest (startTime : Int) (type : BreakType) : Break :=
  ⟨monday + startTime, monday + startTime + 10 * minute, 10, true, type⟩

def fragments : List Assignment :=
  [{ slot (9 * hour) (14 * hour) "STAFF" with
      breaks := [rest (11 * hour) .break1,
        ⟨monday + 13 * hour, monday + 13 * hour + 30 * minute, 30, false, .lunch⟩] },
    { slot (14 * hour) (17 * hour) "STAFF" with breaks := [rest (15 * hour) .break2] }]

theorem coalesced :
    isoCoalesce Sample.runtime .utc Sample.defaultRules ["alice", "bob"] boundaries slots =
      fragments := by
  decide +kernel

theorem slots_valid : ∀ item ∈ slots, item.Valid := by
  simp only [slots, List.forall_mem_cons, slot, Assignment.Valid]
  decide

theorem slots_apart : slots.Pairwise Assignment.Apart := by
  have hfollows : slots.Pairwise fun first second => first.endTime ≤ second.startTime := by decide
  exact hfollows.imp fun h _ => .inl h

theorem slots_inRange : ∀ item ∈ slots, InRange item.span := by
  have hbounds : ∀ item ∈ slots, midnight (Reference.daysFromCivil 1 1 1) ≤ item.startTime ∧
      item.startTime < item.endTime ∧
      item.endTime < midnight (Reference.daysFromCivil 10000 1 1) := by decide
  intro item hmem
  obtain ⟨hfirst, hlt, hlast⟩ := hbounds item hmem
  exact ⟨⟨hfirst, hlt.trans hlast⟩, ⟨hfirst.trans hlt.le, hlast⟩⟩

end SkillBoundary

theorem lunch_over_boundary_conserved :
    StrictMonoOn datetimeIsoformat datetimeRange ∧
      Conserves Sample.defaultRules SkillBoundary.boundaries SkillBoundary.slots
        (isoStaggerRuns [] (isoVisitedRuns ["alice", "bob"] SkillBoundary.slots))
        SkillBoundary.fragments := by
  rw [← SkillBoundary.coalesced]
  exact isoCoalesce_conserves _ _ _ _ _ SkillBoundary.slots_valid SkillBoundary.slots_apart
    SkillBoundary.slots_inRange

end LunchLineup.Engine
