import LunchLineup.Engine.Assignments
import LunchLineup.Python.IsoText

/-!
# Coalescing by texts

The assignments that `_coalesce_continuous_assignments` works on carry ISO
texts, and it sorts them, finds the runs and counts equal spans by these texts.
`isoCoalesce` does the same.  On instants that a `datetime` can hold the texts
are ordered as the instants are, so it is the function on instants
(`isoCoalesce_eq`).
-/

namespace LunchLineup.Engine

open LunchLineup.Lib LunchLineup.Python

/-! ## Runs by texts -/

/-- `(item["start_time"], item["end_time"])`. -/
def isoSpan (span : Int × Int) : String × String :=
  (datetimeIsoformat span.1, datetimeIsoformat span.2)

/-- The order of `(start, end)` pairs of texts. -/
def isoSpanLe (first second : Int × Int) : Prop :=
  (isoSpan first).1 < (isoSpan second).1 ∨
    (isoSpan first).1 = (isoSpan second).1 ∧ (isoSpan first).2 ≤ (isoSpan second).2

instance : DecidableRel isoSpanLe := fun _ _ => inferInstanceAs (Decidable (_ ∨ _))

/-- The order of `(start, end, order)` triples with texts. -/
def isoRankedLe (first second : (Int × Int) × Nat) : Prop :=
  (isoSpan first.1 ≠ isoSpan second.1 ∧ isoSpanLe first.1 second.1) ∨
    (isoSpan first.1 = isoSpan second.1 ∧ first.2 ≤ second.2)

instance : DecidableRel isoRankedLe := fun _ _ => inferInstanceAs (Decidable (_ ∨ _))

/-- The runs of each person, by `current_run[-1]["end_time"] != assignment["start_time"]`. -/
def isoRunsOf (assignments : List Assignment) : List (List Assignment) :=
  (firstOccurrences (assignments.map Assignment.staffId)).flatMap fun staffId =>
    ((assignments.filter fun assignment => assignment.staffId = staffId).insertionSort
      fun first second => isoSpanLe first.span second.span).splitBy
        fun previous next => datetimeIsoformat previous.endTime = datetimeIsoformat next.startTime

def isoVisitedRuns (staffIds : List String) (assignments : List Assignment) :
    List (List Assignment) :=
  (isoRunsOf assignments).insertionSort fun first second =>
    isoRankedLe (runKey staffIds first) (runKey staffIds second)

/-- Number the runs with one `span_key`. -/
def isoStaggerRuns (spanCounts : Dict (String × String) Nat) :
    List (List Assignment) → List (List Assignment × Nat)
  | [] => []
  | run :: rest =>
      let staggerIndex := Dict.getD spanCounts (isoSpan (runSpan run)) 0
      (run, staggerIndex) ::
        isoStaggerRuns (Dict.set spanCounts (isoSpan (runSpan run)) (staggerIndex + 1)) rest

/-- `_coalesce_continuous_assignments`, with the texts that it compares. -/
def isoCoalesce (rt : Runtime) (zone : ZoneInfo) (rules : BreakRules) (staffIds : List String)
    (protectedBoundaries : List Int) (assignments : List Assignment) : List Assignment :=
  ((isoStaggerRuns [] (isoVisitedRuns staffIds assignments)).flatMap fun entry =>
    finishRun rt zone rules protectedBoundaries entry.1 entry.2).insertionSort
      fun first second =>
        isoRankedLe (assignmentKey staffIds first) (assignmentKey staffIds second)

/-! ## The order of the texts is that of the instants -/

/-- A span of instants that a `datetime` can hold. -/
def InRange (span : Int × Int) : Prop :=
  span.1 ∈ datetimeRange ∧ span.2 ∈ datetimeRange

section

variable {span other : Int × Int}

theorem isoSpan_eq_iff (h : InRange span) (h' : InRange other) :
    isoSpan span = isoSpan other ↔ span = other := by
  rw [isoSpan, isoSpan, Prod.mk.injEq, Prod.ext_iff,
    datetimeIsoformat_strictMonoOn.injOn.eq_iff h.1 h'.1,
    datetimeIsoformat_strictMonoOn.injOn.eq_iff h.2 h'.2]

theorem isoSpanLe_iff (h : InRange span) (h' : InRange other) :
    isoSpanLe span other ↔ intervalLe span other := by
  unfold isoSpanLe intervalLe isoSpan
  dsimp only
  rw [datetimeIsoformat_strictMonoOn.lt_iff_lt h.1 h'.1,
    datetimeIsoformat_strictMonoOn.injOn.eq_iff h.1 h'.1,
    datetimeIsoformat_strictMonoOn.le_iff_le h.2 h'.2]

theorem isoRankedLe_iff {first second : (Int × Int) × Nat} (h : InRange first.1)
    (h' : InRange second.1) : isoRankedLe first second ↔ rankedLe first second := by
  unfold isoRankedLe rankedLe
  rw [isoSpanLe_iff h h', ne_eq, isoSpan_eq_iff h h']

end

/-! ## The two functions are one -/

section

variable {assignments : List Assignment} {staffIds : List String}

theorem isoRunsOf_eq (hrange : ∀ assignment ∈ assignments, InRange assignment.span) :
    isoRunsOf assignments = runsOf assignments := by
  unfold isoRunsOf runsOf
  refine List.flatMap_congr fun staffId _ => ?_
  have hmem : ∀ assignment ∈ assignments.filter fun item => item.staffId = staffId,
      InRange assignment.span :=
    fun assignment hin => hrange assignment (List.mem_of_mem_filter hin)
  have hsort : (assignments.filter fun item => item.staffId = staffId).insertionSort
        (fun first second => isoSpanLe first.span second.span) =
      (assignments.filter fun item => item.staffId = staffId).insertionSort
        Assignment.spanLe :=
    insertionSort_congr fun first hfirst second hsecond =>
      isoSpanLe_iff (hmem first hfirst) (hmem second hsecond)
  rw [hsort]
  refine splitBy_congr fun previous hprevious next hnext => ?_
  rw [List.mem_insertionSort] at hprevious hnext
  exact decide_eq_decide.mpr
    (datetimeIsoformat_strictMonoOn.injOn.eq_iff (hmem previous hprevious).2 (hmem next hnext).1)

/-- The span of a run of assignments in the range is in the range. -/
theorem runSpan_inRange {run : List Assignment} (hne : run ≠ [])
    (hrange : ∀ assignment ∈ run, InRange assignment.span) : InRange (runSpan run) := by
  obtain ⟨first, rest, rfl⟩ := List.exists_cons_of_ne_nil hne
  constructor
  · exact (hrange first List.mem_cons_self).1
  · rw [runSpan, List.getLast?_eq_some_getLast hne]
    exact (hrange _ (List.getLast_mem hne)).2

theorem isoVisitedRuns_eq (hrange : ∀ assignment ∈ assignments, InRange assignment.span) :
    isoVisitedRuns staffIds assignments = visitedRuns staffIds assignments := by
  unfold isoVisitedRuns visitedRuns
  rw [isoRunsOf_eq hrange]
  have hspan : ∀ run ∈ runsOf assignments, InRange (runSpan run) := by
    intro run hrun
    refine runSpan_inRange (isRun_of_mem_runsOf hrun).1 fun assignment hin => ?_
    exact hrange assignment
      ((runsOf_flatten_perm assignments).mem_iff.mp (List.mem_flatten.mpr ⟨run, hrun, hin⟩))
  exact insertionSort_congr fun first hfirst second hsecond =>
    isoRankedLe_iff (hspan first hfirst) (hspan second hsecond)

/-- Counting by texts numbers the runs as counting by instants does, when the counts so far
agree. -/
theorem isoStaggerRuns_eq {runs : List (List Assignment)}
    (hrange : ∀ run ∈ runs, InRange (runSpan run)) {spanCounts : Dict (Int × Int) Nat}
    {isoCounts : Dict (String × String) Nat}
    (hcounts : ∀ span, InRange span →
      Dict.get? isoCounts (isoSpan span) = Dict.get? spanCounts span) :
    isoStaggerRuns isoCounts runs = staggerRuns spanCounts runs := by
  induction runs generalizing spanCounts isoCounts with
  | nil => rfl
  | cons run rest ih =>
      have hrun := hrange run List.mem_cons_self
      have hindex : Dict.getD isoCounts (isoSpan (runSpan run)) 0 =
          Dict.getD spanCounts (runSpan run) 0 := by
        rw [Dict.getD, Dict.getD, hcounts _ hrun]
      rw [isoStaggerRuns, staggerRuns, hindex]
      refine congrArg _ (ih (fun other hother => hrange other (List.mem_cons_of_mem _ hother)) ?_)
      intro span hspan
      rw [Dict.get?_set, Dict.get?_set, hcounts span hspan]
      simp only [isoSpan_eq_iff hrun hspan]

/-- The runs that are visited, and their numbers, are those by instants. -/
theorem isoStaggerRuns_visited (hrange : ∀ assignment ∈ assignments, InRange assignment.span) :
    isoStaggerRuns [] (isoVisitedRuns staffIds assignments) =
      staggerRuns [] (visitedRuns staffIds assignments) := by
  rw [isoVisitedRuns_eq hrange]
  refine isoStaggerRuns_eq ?_ fun _ _ => rfl
  intro run hrun
  obtain ⟨hisRun, hsource⟩ := mem_visitedRuns hrun
  exact runSpan_inRange hisRun.1 fun assignment hin => hrange assignment (hsource assignment hin)

/-- Coalescing by texts is coalescing by instants. -/
theorem isoCoalesce_eq (rt : Runtime) (zone : ZoneInfo) (rules : BreakRules)
    {protectedBoundaries : List Int}
    (hvalid : ∀ assignment ∈ assignments, assignment.Valid)
    (hrange : ∀ assignment ∈ assignments, InRange assignment.span) :
    isoCoalesce rt zone rules staffIds protectedBoundaries assignments =
      coalesceContinuousAssignments rt zone rules staffIds protectedBoundaries assignments := by
  -- the spans of the result are made of instants of the input
  have hresult : ∀ result ∈ coalesceContinuousAssignments rt zone rules staffIds
      protectedBoundaries assignments, InRange result.span := by
    refine forall_mem_coalesce rt zone rules hvalid ?_ ?_ hrange
    · intro first second _ _ _ hfirst hsecond
      exact ⟨hfirst.1, hsecond.2⟩
    · intro breaks assignment h
      exact h
  unfold isoCoalesce
  rw [isoStaggerRuns_visited hrange]
  unfold coalesceContinuousAssignments at hresult ⊢
  simp only [List.mem_insertionSort] at hresult
  exact insertionSort_congr fun first hfirst second hsecond =>
    isoRankedLe_iff (hresult first hfirst) (hresult second hsecond)

end

end LunchLineup.Engine
