import Mathlib.Data.List.SplitBy
import LunchLineup.Engine.Breaks
import LunchLineup.Lib.Coalesce
import LunchLineup.Lib.Coverage

/-!
# Assignments and their continuous runs

On the demand-window path a person is assigned slot by slot.
`coalesceContinuousAssignments` puts the slots of one person that touch into
runs, places the breaks once for each run, and merges the slots of a run again,
except at protected boundaries that no break crosses.

What the later modules need of it is `coalesce_sameTime`: for each person, any
additive measure of the time assigned is the same before and after.  The
covering count is such a measure, so merging adds no instant
(`SameTime.exists_source`) and never makes two assignments of one person overlap
(`SameTime.apart`); the overlap with a week is another.
-/

namespace LunchLineup.Engine

open LunchLineup.Lib LunchLineup.Python

/-- An assignment of the result.  Those of the day path have no role. -/
structure Assignment where
  staffId : String
  date : String
  startTime : Int
  endTime : Int
  role : Option String
  breaks : List Break
  deriving DecidableEq

namespace Assignment

/-- An assignment that is not empty. -/
def Valid (assignment : Assignment) : Prop :=
  assignment.startTime < assignment.endTime

/-- The time of an assignment and its breaks. -/
def duty (assignment : Assignment) : Duty Int :=
  ⟨assignment.startTime, assignment.endTime,
    assignment.breaks.map fun item => (item.startTime, item.endTime)⟩

/-- The span of an assignment. -/
def span (assignment : Assignment) : Int × Int :=
  (assignment.startTime, assignment.endTime)

/-- The order of one person's assignments. -/
def spanLe (first second : Assignment) : Prop :=
  intervalLe first.span second.span

instance : DecidableRel spanLe := fun _ _ => inferInstanceAs (Decidable (intervalLe _ _))

/-- Merge the next slot of a run. -/
def extend (current next : Assignment) : Assignment :=
  { current with
    endTime := next.endTime
    role := if current.role = next.role then current.role else some "STAFF" }

end Assignment

/-- Two assignments of one person do not overlap. -/
abbrev Assignment.Apart : Assignment → Assignment → Prop :=
  Separated Assignment.staffId Assignment.startTime Assignment.endTime

/-! ## Runs -/

/-- `staff_order.get(staff_id, 0)`. -/
def staffOrder (staffIds : List String) (staffId : String) : Nat :=
  if staffId ∈ staffIds then staffIds.idxOf staffId else 0

/-- The runs of each person: maximal chains of assignments that touch. -/
def runsOf (assignments : List Assignment) : List (List Assignment) :=
  (firstOccurrences (assignments.map Assignment.staffId)).flatMap fun staffId =>
    ((assignments.filter fun assignment => assignment.staffId = staffId).insertionSort
      Assignment.spanLe).splitBy fun previous next => previous.endTime = next.startTime

/-- The start of the first and the end of the last assignment of a run. -/
def runSpan (run : List Assignment) : Int × Int :=
  ((run.head?.map Assignment.startTime).getD 0, (run.getLast?.map Assignment.endTime).getD 0)

/-- The key by which runs are visited. -/
def runKey (staffIds : List String) (run : List Assignment) : (Int × Int) × Nat :=
  (runSpan run, staffOrder staffIds ((run.head?.map Assignment.staffId).getD ""))

/-- The key by which the result is sorted. -/
def assignmentKey (staffIds : List String) (assignment : Assignment) : (Int × Int) × Nat :=
  (assignment.span, staffOrder staffIds assignment.staffId)

/-- The runs, in the order in which they are visited. -/
def visitedRuns (staffIds : List String) (assignments : List Assignment) :
    List (List Assignment) :=
  (runsOf assignments).insertionSort fun first second =>
    rankedLe (runKey staffIds first) (runKey staffIds second)

/-- Number the runs with one span. -/
def staggerRuns (spanCounts : Dict (Int × Int) Nat) :
    List (List Assignment) → List (List Assignment × Nat)
  | [] => []
  | run :: rest =>
      let staggerIndex := Dict.getD spanCounts (runSpan run) 0
      (run, staggerIndex) ::
        staggerRuns (Dict.set spanCounts (runSpan run) (staggerIndex + 1)) rest

/-- The slots of a run stay apart at a protected boundary that no break crosses. -/
def preserveBoundary (protectedBoundaries : List Int) (runBreaks : List Break) (boundary : Int) :
    Bool :=
  boundary ∈ protectedBoundaries &&
    !runBreaks.any fun item => item.startTime < boundary && boundary < item.endTime

/-- `merged_run`. -/
def mergeRun (protectedBoundaries : List Int) (runBreaks : List Break) :
    List Assignment → List Assignment
  | [] => []
  | first :: rest =>
      coalesce (fun _ next => !preserveBoundary protectedBoundaries runBreaks next.startTime)
        Assignment.extend first rest

section

variable (rt : Runtime) (zone : ZoneInfo) (rules : BreakRules)

/-- The breaks of a run. -/
def runBreaks (run : List Assignment) (staggerIndex : Nat) : List Break :=
  breaksAsUtc id (rules.calculateBreaks (runSpan run).1 (runSpan run).2 staggerIndex)

/-- Date a merged assignment and give it the breaks that reach into it. -/
def attachBreaks (breaks : List Break) (assignment : Assignment) : Assignment :=
  { assignment with
    date := rt.dateIsoformat (dateOf (zone.toLocal assignment.startTime))
    breaks := breaks.filter fun item =>
      item.startTime < assignment.endTime && assignment.startTime < item.endTime }

/-- The assignments of one run. -/
def finishRun (protectedBoundaries : List Int) (run : List Assignment) (staggerIndex : Nat) :
    List Assignment :=
  let breaks := runBreaks rules run staggerIndex
  (mergeRun protectedBoundaries breaks run).map (attachBreaks rt zone breaks)

/-- `_coalesce_continuous_assignments`. -/
def coalesceContinuousAssignments (staffIds : List String) (protectedBoundaries : List Int)
    (assignments : List Assignment) : List Assignment :=
  ((staggerRuns [] (visitedRuns staffIds assignments)).flatMap fun entry =>
    finishRun rt zone rules protectedBoundaries entry.1 entry.2).insertionSort
      fun first second => rankedLe (assignmentKey staffIds first) (assignmentKey staffIds second)

end

/-! ## The runs partition the assignments -/

/-- Neighbours of a run touch and belong to one person. -/
def Assignment.Touches (first second : Assignment) : Prop :=
  first.endTime = second.startTime ∧ first.staffId = second.staffId

/-- A chain of assignments of one person. -/
def IsRun (run : List Assignment) : Prop :=
  run ≠ [] ∧ run.IsChain Assignment.Touches

theorem isRun_of_mem_runsOf {assignments run : List Assignment} (h : run ∈ runsOf assignments) :
    IsRun run := by
  obtain ⟨staffId, _, hrun⟩ := List.mem_flatMap.mp h
  refine ⟨List.ne_nil_of_mem_splitBy hrun, ?_⟩
  have hstaff : ∀ assignment ∈ run, assignment.staffId = staffId := by
    intro assignment hmem
    have hflat := List.mem_flatten.mpr ⟨run, hrun, hmem⟩
    rw [List.flatten_splitBy, List.mem_insertionSort, List.mem_filter] at hflat
    exact of_decide_eq_true hflat.2
  refine (List.isChain_of_mem_splitBy hrun).imp_of_mem_imp ?_
  intro first second hfirst hsecond htouch
  exact ⟨of_decide_eq_true htouch, (hstaff first hfirst).trans (hstaff second hsecond).symm⟩

theorem runsOf_flatten_perm (assignments : List Assignment) :
    (runsOf assignments).flatten.Perm assignments := by
  have hgroups := flatMap_filter_perm Assignment.staffId
    (firstOccurrences_nodup (assignments.map Assignment.staffId)) (l := assignments) (by
      intro assignment hmem
      rw [mem_firstOccurrences]
      exact List.mem_map_of_mem hmem)
  refine List.Perm.trans ?_ hgroups
  unfold runsOf
  induction firstOccurrences (assignments.map Assignment.staffId) with
  | nil => simp
  | cons staffId rest ih =>
      rw [List.flatMap_cons, List.flatMap_cons, List.flatten_append, List.flatten_splitBy]
      exact List.Perm.append (List.perm_insertionSort _ _) ih

theorem map_fst_staggerRuns (spanCounts : Dict (Int × Int) Nat) (runs : List (List Assignment)) :
    (staggerRuns spanCounts runs).map Prod.fst = runs := by
  induction runs generalizing spanCounts with
  | nil => rfl
  | cons run rest ih =>
      rw [staggerRuns, List.map_cons, ih]

/-- The runs that are visited are runs of the assignments. -/
theorem mem_visitedRuns {staffIds : List String} {assignments run : List Assignment}
    (h : run ∈ visitedRuns staffIds assignments) :
    IsRun run ∧ ∀ assignment ∈ run, assignment ∈ assignments := by
  rw [visitedRuns, List.mem_insertionSort] at h
  refine ⟨isRun_of_mem_runsOf h, ?_⟩
  intro assignment hmem
  exact (runsOf_flatten_perm assignments).mem_iff.mp (List.mem_flatten.mpr ⟨run, h, hmem⟩)

theorem fst_mem_visitedRuns {staffIds : List String} {assignments : List Assignment}
    {entry : List Assignment × Nat}
    (h : entry ∈ staggerRuns [] (visitedRuns staffIds assignments)) :
    entry.1 ∈ visitedRuns staffIds assignments := by
  rw [← map_fst_staggerRuns [] (visitedRuns staffIds assignments)]
  exact List.mem_map_of_mem h

/-! ## Merging a run -/

/-- Merging the slots of a run keeps a chain of assignments that are not empty. -/
theorem extend_merging (joins : Assignment → Assignment → Bool) :
    Merging joins Assignment.extend Assignment.Valid Assignment.Touches where
  valid := by
    intro first second hfirst hsecond htouch _
    show first.startTime < second.endTime
    have hedge := htouch.1
    unfold Assignment.Valid at hfirst hsecond
    omega
  chain := by
    intro first second third htouch _ hnext
    exact ⟨hnext.1, htouch.2.trans hnext.2⟩

section

variable (rt : Runtime) (zone : ZoneInfo) (rules : BreakRules)
variable {protectedBoundaries : List Int} {run : List Assignment} {staggerIndex : Nat}

/-- What an assignment of a finished run is. -/
theorem mem_finishRun {result : Assignment}
    (h : result ∈ finishRun rt zone rules protectedBoundaries run staggerIndex) :
    ∃ merged ∈ mergeRun protectedBoundaries (runBreaks rules run staggerIndex) run,
      result = attachBreaks rt zone (runBreaks rules run staggerIndex) merged := by
  obtain ⟨merged, hmerged, rfl⟩ := List.mem_map.mp h
  exact ⟨merged, hmerged, rfl⟩

/-- A property of assignments that merging keeps holds in a merged run. -/
theorem forall_mem_mergeRun {breaks : List Break} {Q : Assignment → Prop} (hrun : IsRun run)
    (hvalid : ∀ assignment ∈ run, assignment.Valid)
    (hQ : ∀ {first second}, first.Valid → second.Valid → first.Touches second →
      Q first → Q second → Q (first.extend second))
    (h : ∀ assignment ∈ run, Q assignment) :
    ∀ merged ∈ mergeRun protectedBoundaries breaks run, Q merged := by
  cases run with
  | nil => exact absurd rfl hrun.1
  | cons first rest =>
      rw [mergeRun]
      refine (extend_merging _).forall_mem ?_ hvalid hrun.2 h
      intro current next hcurrent hnext htouch _ hQcurrent hQnext
      exact hQ hcurrent hnext htouch hQcurrent hQnext

end

/-! ## Additive measures -/

section Measure

variable {M : Type} [AddCommMonoid M] (f : String → Int → Int → M)

/-- A measure of the time of one person that cutting an interval splits. -/
def Additive : Prop :=
  ∀ staffId {a b c : Int}, a < b → b < c → f staffId a c = f staffId a b + f staffId b c

/-- The measure of a list of assignments. -/
def totalOf (assignments : List Assignment) : M :=
  (assignments.map fun item => f item.staffId item.startTime item.endTime).sum

variable {f}

theorem totalOf_perm {first second : List Assignment} (h : first.Perm second) :
    totalOf f first = totalOf f second :=
  (h.map _).sum_eq

theorem totalOf_flatten (runs : List (List Assignment)) :
    totalOf f runs.flatten = (runs.map (totalOf f)).sum := by
  induction runs with
  | nil => rfl
  | cons run rest ih =>
      rw [List.flatten_cons, List.map_cons, List.sum_cons, ← ih]
      simp only [totalOf, List.map_append, List.sum_append]

variable (rt : Runtime) (zone : ZoneInfo) (rules : BreakRules)

theorem totalOf_finishRun (hf : Additive f) {protectedBoundaries : List Int}
    {run : List Assignment} {staggerIndex : Nat} (hrun : IsRun run)
    (hvalid : ∀ assignment ∈ run, assignment.Valid) :
    totalOf f (finishRun rt zone rules protectedBoundaries run staggerIndex) = totalOf f run := by
  cases run with
  | nil => exact absurd rfl hrun.1
  | cons first rest =>
      have hmerge := (extend_merging fun _ next =>
        !preserveBoundary protectedBoundaries (runBreaks rules (first :: rest) staggerIndex)
          next.startTime).sum (f := fun item => f item.staffId item.startTime item.endTime)
          (by
            intro current next hcurrent hnext htouch _
            show f current.staffId current.startTime next.endTime = _
            unfold Assignment.Valid at hcurrent hnext
            rw [hf current.staffId hcurrent (htouch.1 ▸ hnext), htouch.1, htouch.2])
          hvalid hrun.2
      rw [finishRun, totalOf, List.map_map]
      exact hmerge

/-- Coalescing keeps every additive measure of every person's time. -/
theorem totalOf_coalesce (hf : Additive f) {staffIds : List String}
    {protectedBoundaries : List Int} {assignments : List Assignment}
    (hvalid : ∀ assignment ∈ assignments, assignment.Valid) :
    totalOf f (coalesceContinuousAssignments rt zone rules staffIds protectedBoundaries
      assignments) = totalOf f assignments := by
  have hstep : ∀ entry ∈ staggerRuns [] (visitedRuns staffIds assignments),
      totalOf f (finishRun rt zone rules protectedBoundaries entry.1 entry.2) =
        totalOf f entry.1 := by
    intro entry hentry
    obtain ⟨hrun, hsource⟩ := mem_visitedRuns (fst_mem_visitedRuns hentry)
    exact totalOf_finishRun rt zone rules hf hrun
      fun assignment hmem => hvalid assignment (hsource assignment hmem)
  rw [coalesceContinuousAssignments, totalOf_perm (List.perm_insertionSort _ _), List.flatMap,
    totalOf_flatten, List.map_map]
  calc ((staggerRuns [] (visitedRuns staffIds assignments)).map
          fun entry => totalOf f (finishRun rt zone rules protectedBoundaries entry.1 entry.2)).sum
      = ((staggerRuns [] (visitedRuns staffIds assignments)).map
          fun entry => totalOf f entry.1).sum := by rw [List.map_congr_left hstep]
    _ = ((visitedRuns staffIds assignments).map (totalOf f)).sum := by
        conv_rhs => rw [← map_fst_staggerRuns [] (visitedRuns staffIds assignments), List.map_map]
        rfl
    _ = ((runsOf assignments).map (totalOf f)).sum :=
        ((List.perm_insertionSort _ _).map _).sum_eq
    _ = totalOf f assignments := by
        rw [← totalOf_flatten, totalOf_perm (runsOf_flatten_perm assignments)]

end Measure

/-! ## Lists with the same time -/

/-- Two lists of assignments give each person the same time: all additive
measures agree. -/
structure SameTime (first second : List Assignment) : Prop where
  total : ∀ {M : Type} [AddCommMonoid M] {f : String → Int → Int → M}, Additive f →
    totalOf f first = totalOf f second

/-- The indicator of an instant of a person. -/
def indicator (staffId : String) (t : Int) (owner : String) (lower upper : Int) : Nat :=
  if owner = staffId ∧ lower ≤ t ∧ t < upper then 1 else 0

theorem indicator_additive (staffId : String) (t : Int) : Additive (indicator staffId t) := by
  intro owner a b c hab hbc
  unfold indicator
  by_cases howner : owner = staffId
  · by_cases hleft : a ≤ t ∧ t < b
    · rw [if_pos ⟨howner, hleft.1, by omega⟩, if_pos ⟨howner, hleft⟩, if_neg (by omega)]
    · by_cases hright : b ≤ t ∧ t < c
      · rw [if_pos ⟨howner, by omega, hright.2⟩, if_neg (by omega), if_pos ⟨howner, hright⟩]
      · rw [if_neg (by omega), if_neg (by omega), if_neg (by omega)]
  · rw [if_neg (by tauto), if_neg (by tauto), if_neg (by tauto)]

theorem countP_covering_eq_totalOf (staffId : String) (t : Int) (l : List Assignment) :
    l.countP (covering Assignment.staffId Assignment.startTime Assignment.endTime staffId t) =
      totalOf (indicator staffId t) l := by
  induction l with
  | nil => rfl
  | cons item rest ih =>
      rw [List.countP_cons, ih, totalOf, totalOf, List.map_cons, List.sum_cons, add_comm]
      simp only [covering_iff, indicator]

namespace SameTime

variable {assignments bookings : List Assignment} (h : SameTime assignments bookings)

include h

/-- Each instant of a person is covered equally often. -/
theorem countP_covering (staffId : String) (t : Int) :
    assignments.countP
        (covering Assignment.staffId Assignment.startTime Assignment.endTime staffId t) =
      bookings.countP
        (covering Assignment.staffId Assignment.startTime Assignment.endTime staffId t) := by
  rw [countP_covering_eq_totalOf, countP_covering_eq_totalOf]
  exact h.total (indicator_additive staffId t)

/-- No instant of a person is added. -/
theorem exists_source {assignment : Assignment} (hmem : assignment ∈ assignments) {t : Int}
    (hle : assignment.startTime ≤ t) (hlt : t < assignment.endTime) :
    ∃ booking ∈ bookings, booking.staffId = assignment.staffId ∧
      booking.startTime ≤ t ∧ t < booking.endTime := by
  have hpos : 0 < bookings.countP (covering Assignment.staffId Assignment.startTime
      Assignment.endTime assignment.staffId t) := by
    rw [← h.countP_covering]
    exact List.countP_pos_iff.mpr ⟨assignment, hmem, covering_iff.mpr ⟨rfl, hle, hlt⟩⟩
  obtain ⟨booking, hbooking, hcover⟩ := List.countP_pos_iff.mp hpos
  exact ⟨booking, hbooking, covering_iff.mp hcover⟩

/-- Assignments that are apart stay apart. -/
theorem apart (hvalid : ∀ assignment ∈ assignments, assignment.Valid)
    (hapart : bookings.Pairwise Assignment.Apart) : assignments.Pairwise Assignment.Apart := by
  apply pairwise_separated_of_countP hvalid
  intro staffId t
  rw [h.countP_covering]
  exact countP_covering_le_one hapart staffId t

end SameTime

/-! ## What coalescing keeps -/

section

variable (rt : Runtime) (zone : ZoneInfo) (rules : BreakRules) {staffIds : List String}
  {protectedBoundaries : List Int} {assignments : List Assignment}

theorem coalesce_sameTime (hvalid : ∀ assignment ∈ assignments, assignment.Valid) :
    SameTime (coalesceContinuousAssignments rt zone rules staffIds protectedBoundaries
      assignments) assignments where
  total := by
    intro M _ f hf
    exact totalOf_coalesce rt zone rules hf hvalid

/-- An assignment of the result comes from a run of the input. -/
theorem mem_coalesce {result : Assignment}
    (h : result ∈ coalesceContinuousAssignments rt zone rules staffIds protectedBoundaries
      assignments) :
    ∃ run ∈ visitedRuns staffIds assignments, ∃ staggerIndex,
      result ∈ finishRun rt zone rules protectedBoundaries run staggerIndex := by
  rw [coalesceContinuousAssignments, List.mem_insertionSort] at h
  obtain ⟨entry, hentry, hresult⟩ := List.mem_flatMap.mp h
  exact ⟨entry.1, fst_mem_visitedRuns hentry, entry.2, hresult⟩

/-- A property that merging keeps, and that does not look at breaks and dates,
holds after coalescing. -/
theorem forall_mem_coalesce {Q : Assignment → Prop}
    (hvalid : ∀ assignment ∈ assignments, assignment.Valid)
    (hQ : ∀ {first second}, first.Valid → second.Valid → first.Touches second →
      Q first → Q second → Q (first.extend second))
    (hattach : ∀ breaks assignment, Q assignment → Q (attachBreaks rt zone breaks assignment))
    (h : ∀ assignment ∈ assignments, Q assignment) :
    ∀ result ∈ coalesceContinuousAssignments rt zone rules staffIds protectedBoundaries
      assignments, Q result := by
  intro result hresult
  obtain ⟨run, hrun, staggerIndex, hfinish⟩ := mem_coalesce rt zone rules hresult
  obtain ⟨hisRun, hsource⟩ := mem_visitedRuns hrun
  obtain ⟨merged, hmerged, rfl⟩ := mem_finishRun rt zone rules hfinish
  apply hattach
  exact forall_mem_mergeRun hisRun (fun assignment hmem => hvalid _ (hsource _ hmem)) hQ
    (fun assignment hmem => h _ (hsource _ hmem)) merged hmerged

theorem coalesce_valid (hvalid : ∀ assignment ∈ assignments, assignment.Valid) :
    ∀ result ∈ coalesceContinuousAssignments rt zone rules staffIds protectedBoundaries
      assignments, result.Valid := by
  refine forall_mem_coalesce rt zone rules hvalid ?_ ?_ hvalid
  · intro first second hfirst hsecond htouch _ _
    exact (extend_merging fun _ _ => true).valid hfirst hsecond htouch rfl
  · intro breaks assignment h
    exact h

end

end LunchLineup.Engine
