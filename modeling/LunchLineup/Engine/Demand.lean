import LunchLineup.Engine.Request
import LunchLineup.Lib.Coalesce

/-!
# Demand segments

The raw demand windows of a request may overlap.  The engine cuts them at all
their endpoints and gives each piece the strongest requirement of the windows
around it; neighbouring pieces with equal requirements are joined again.
`exists_segment_of_window` says that nothing is lost: every instant of a raw
window lies in a segment that asks for at least as much.
-/

namespace LunchLineup.Engine

open LunchLineup.Lib LunchLineup.Python

/-- A segment of merged demand. -/
structure Segment where
  startTime : Int
  endTime : Int
  requiredStaff : Int
  skillRequirements : Dict String Int
  protectStart : Bool
  deriving DecidableEq

/-! ## Merging windows -/

/-- The endpoints of the windows, `sorted(boundaries)`. -/
def windowBoundaries (windows : List DemandWindow) : List Int :=
  sortedSet (windows.flatMap fun window => [window.startTime, window.endTime])

/-- The windows around a piece. -/
def activeWindows (windows : List DemandWindow) (piece : Int × Int) : List DemandWindow :=
  windows.filter fun window => window.startTime < piece.2 && piece.1 < window.endTime

/-- `skill_requirements[skill] = max(skill_requirements.get(skill, 0), count)`,
for a window with a skill. -/
def addSkillRequirement (requirements : Dict String Int) (window : DemandWindow) :
    Dict String Int :=
  match window.skill with
  | none => requirements
  | some skill =>
      if skill = "" then requirements
      else Dict.set requirements skill (max (Dict.getD requirements skill 0) window.requiredStaff)

/-- A boundary inside the first and the last one that cuts a window. -/
def isProtectedBoundary (windows : List DemandWindow) (boundary : Int) : Bool :=
  boundary ∈ (windowBoundaries windows).tail.dropLast &&
    windows.any fun window => window.startTime < boundary && boundary < window.endTime

/-- The segment of one piece, if a window is around it. -/
def segmentOf (windows : List DemandWindow) (piece : Int × Int) : Option Segment :=
  match activeWindows windows piece with
  | [] => none
  | first :: rest => some {
      startTime := piece.1
      endTime := piece.2
      requiredStaff :=
        rest.foldl (fun required window => max required window.requiredStaff) first.requiredStaff
      skillRequirements := (first :: rest).foldl addSkillRequirement []
      protectStart := isProtectedBoundary windows piece.1 }

/-- Two neighbours with the same requirements. -/
def Segment.joins (current next : Segment) : Bool :=
  current.endTime = next.startTime && current.requiredStaff = next.requiredStaff &&
    Dict.eqv current.skillRequirements next.skillRequirements

/-- Extend `current`, the last segment so far, by the neighbours that join it. -/
def joinSegments (current : Segment) (rest : List Segment) : List Segment :=
  coalesce Segment.joins (fun current next => { current with endTime := next.endTime }) current rest

/-- The segments of `_normalize_demand_windows`. -/
def mergeWindows (windows : List DemandWindow) : List Segment :=
  match (cuts (windowBoundaries windows)).filterMap (segmentOf windows) with
  | [] => []
  | first :: rest => joinSegments first rest

/-- `_continuous_demand_span`, downwards from a slot. -/
def continuousStart (segments : List Segment) : Nat → Option Int
  | 0 => segments[0]?.map Segment.startTime
  | index + 1 =>
      match segments[index]?, segments[index + 1]? with
      | some previous, some slot =>
          if previous.endTime = slot.startTime then continuousStart segments index
          else some slot.startTime
      | _, slot => slot.map Segment.startTime

/-- `_continuous_demand_span`, upwards from the first of the given slots. -/
def continuousEnd : List Segment → Option Int
  | [] => none
  | [slot] => some slot.endTime
  | slot :: next :: rest =>
      if slot.endTime = next.startTime then continuousEnd (next :: rest) else some slot.endTime

/-- `_continuous_demand_span`. -/
def continuousDemandSpan (segments : List Segment) (slotIndex : Nat) : Int × Int :=
  ((continuousStart segments slotIndex).getD 0, (continuousEnd (segments.drop slotIndex)).getD 0)

/-! ## Daily demand -/

/-- The buckets of a date. -/
def bucketsOf (rt : Runtime) (date : Int) : List Bucket :=
  [.all, .weekday (weekday date), .date (rt.dateIsoformat date)]

/-- `_coverage_for_day`. -/
def coverageForDay (rt : Runtime) (dailyDemand : Dict Bucket Int) (date : Int) (default : Int) :
    Int :=
  max (max (Dict.getD dailyDemand .all default)
      (Dict.getD dailyDemand (.weekday (weekday date)) default))
    (Dict.getD dailyDemand (.date (rt.dateIsoformat date)) default)

/-- `_skill_requirements_for_day`. -/
def skillRequirementsForDay (rt : Runtime) (requirements : Dict Bucket (Dict String Int))
    (date : Int) : Dict String Int :=
  ((bucketsOf rt date).flatMap fun bucket => Dict.getD requirements bucket []).foldl
    (fun merged entry =>
      Dict.set merged entry.1 (max (Dict.getD merged entry.1 0) entry.2)) []

/-! ## Every instant of a window keeps its requirements -/

/-- The segment asks for at least what the window does. -/
def Segment.Dominates (segment : Segment) (window : DemandWindow) : Prop :=
  window.requiredStaff ≤ segment.requiredStaff ∧
    ∀ skill, window.skill = some skill → skill ≠ "" →
      ∃ count, Dict.get? segment.skillRequirements skill = some count ∧
        window.requiredStaff ≤ count

/-- A skill requirement only grows. -/
theorem addSkillRequirement_mono (requirements : Dict String Int) (window : DemandWindow)
    {skill : String} {count : Int} (h : Dict.get? requirements skill = some count) :
    ∃ larger, Dict.get? (addSkillRequirement requirements window) skill = some larger ∧
      count ≤ larger := by
  unfold addSkillRequirement
  split
  · exact ⟨count, h, le_rfl⟩
  · rename_i other _
    split
    · exact ⟨count, h, le_rfl⟩
    · rw [Dict.get?_set]
      by_cases hsame : other = skill
      · subst hsame
        rw [if_pos rfl]
        refine ⟨_, rfl, ?_⟩
        rw [Dict.getD, h, Option.getD_some]
        exact le_max_left _ _
      · rw [if_neg hsame]
        exact ⟨count, h, le_rfl⟩

theorem foldl_addSkillRequirement_mono (windows : List DemandWindow)
    {requirements : Dict String Int} {skill : String} {count : Int}
    (h : Dict.get? requirements skill = some count) :
    ∃ larger, Dict.get? (windows.foldl addSkillRequirement requirements) skill = some larger ∧
      count ≤ larger := by
  induction windows generalizing requirements count with
  | nil => exact ⟨count, h, le_rfl⟩
  | cons window rest ih =>
      obtain ⟨middle, hmiddle, hle⟩ := addSkillRequirement_mono requirements window h
      obtain ⟨larger, hlarger, hle'⟩ := ih hmiddle
      exact ⟨larger, hlarger, hle.trans hle'⟩

/-- Each window with a skill is accounted for. -/
theorem exists_skill_requirement {windows : List DemandWindow} (requirements : Dict String Int)
    {window : DemandWindow} (hmem : window ∈ windows) {skill : String}
    (hskill : window.skill = some skill) (hne : skill ≠ "") :
    ∃ count, Dict.get? (windows.foldl addSkillRequirement requirements) skill = some count ∧
      window.requiredStaff ≤ count := by
  induction windows generalizing requirements with
  | nil => simp at hmem
  | cons first rest ih =>
      rw [List.foldl_cons]
      rcases List.mem_cons.mp hmem with rfl | hmem
      · have hadded : Dict.get? (addSkillRequirement requirements window) skill =
            some (max (Dict.getD requirements skill 0) window.requiredStaff) := by
          simp [addSkillRequirement, hskill, hne, Dict.get?_set_self]
        obtain ⟨larger, hlarger, hle⟩ := foldl_addSkillRequirement_mono rest hadded
        exact ⟨larger, hlarger, (le_max_right _ _).trans hle⟩
      · exact ih _ hmem

/-- The segment of a piece dominates every window around the piece. -/
theorem segmentOf_dominates {windows : List DemandWindow} {piece : Int × Int}
    {window : DemandWindow} (hmem : window ∈ activeWindows windows piece) :
    ∃ segment, segmentOf windows piece = some segment ∧ segment.startTime = piece.1 ∧
      segment.endTime = piece.2 ∧ segment.Dominates window := by
  unfold segmentOf
  cases hactive : activeWindows windows piece with
  | nil =>
      rw [hactive] at hmem
      simp at hmem
  | cons first rest =>
      rw [hactive] at hmem
      refine ⟨_, rfl, rfl, rfl, ?_, ?_⟩
      · obtain ⟨hfirst, hrest⟩ :=
          le_foldl_max DemandWindow.requiredStaff rest first.requiredStaff
        rcases List.mem_cons.mp hmem with rfl | hmem
        · exact hfirst
        · exact hrest window hmem
      · intro skill hskill hne
        exact exists_skill_requirement [] hmem hskill hne

theorem segmentOf_eq_some {windows : List DemandWindow} {piece : Int × Int} {segment : Segment}
    (h : segmentOf windows piece = some segment) :
    segment.startTime = piece.1 ∧ segment.endTime = piece.2 := by
  unfold segmentOf at h
  split at h
  · cases h
  · cases h
    exact ⟨rfl, rfl⟩

/-! ## Joining segments -/

/-- The requirements of one segment are those of another. -/
def Segment.SameRequirements (first second : Segment) : Prop :=
  first.requiredStaff = second.requiredStaff ∧
    ∀ skill count, Dict.get? first.skillRequirements skill = some count →
      Dict.get? second.skillRequirements skill = some count

theorem Segment.Dominates.of_same {first second : Segment} {window : DemandWindow}
    (h : first.Dominates window) (hsame : first.SameRequirements second) :
    second.Dominates window := by
  refine ⟨hsame.1 ▸ h.1, ?_⟩
  intro skill hskill hne
  obtain ⟨count, hcount, hle⟩ := h.2 skill hskill hne
  exact ⟨count, hsame.2 skill count hcount, hle⟩

theorem Segment.joins_iff {current next : Segment} :
    current.joins next = true ↔
      current.endTime = next.startTime ∧ current.requiredStaff = next.requiredStaff ∧
        Dict.eqv current.skillRequirements next.skillRequirements = true := by
  simp only [joins, Bool.and_eq_true, decide_eq_true_eq, and_assoc]

theorem Segment.SameRequirements.refl (segment : Segment) : segment.SameRequirements segment :=
  ⟨rfl, fun _ _ h => h⟩

theorem Segment.SameRequirements.trans {first second third : Segment}
    (h : first.SameRequirements second) (h' : second.SameRequirements third) :
    first.SameRequirements third :=
  ⟨h.1.trans h'.1, fun skill count hcount => h'.2 skill count (h.2 skill count hcount)⟩

theorem Segment.sameRequirements_of_joins {current next : Segment}
    (h : current.joins next = true) : next.SameRequirements current := by
  obtain ⟨_, hrequired, heqv⟩ := Segment.joins_iff.mp h
  refine ⟨hrequired.symm, ?_⟩
  intro skill count hcount
  exact Dict.eqv_right heqv (Dict.mem_of_get? hcount)

/-- A segment that is not empty. -/
def Segment.Valid (segment : Segment) : Prop :=
  segment.startTime < segment.endTime

/-- Joining keeps segments that are not empty and the order between them. -/
theorem joins_merging :
    Merging Segment.joins (fun current next => { current with endTime := next.endTime })
      Segment.Valid fun first second => first.endTime ≤ second.startTime where
  valid := by
    intro first second hfirst hsecond hle _
    exact hfirst.trans_le hle |>.trans hsecond
  chain := by
    intro first second third _ _ hnext
    exact hnext

/-- Every instant of a segment lies in a joined one with the same requirements. -/
theorem exists_joined {current : Segment} {rest : List Segment}
    (hvalid : ∀ segment ∈ current :: rest, segment.Valid)
    (hordered : (current :: rest).Pairwise fun first second => first.endTime ≤ second.startTime)
    {segment : Segment} (hmem : segment ∈ current :: rest) {t : Int}
    (hle : segment.startTime ≤ t) (hlt : t < segment.endTime) :
    ∃ joined ∈ joinSegments current rest, joined.startTime ≤ t ∧ t < joined.endTime ∧
      segment.SameRequirements joined := by
  refine joins_merging.exists_up ?_ hvalid hordered.isChain ⟨segment, hmem, hle, hlt, .refl segment⟩
  intro first second hfirst hsecond _ hjoins h
  have hedge := (Segment.joins_iff.mp hjoins).1
  have hsecondSame : second.SameRequirements first := Segment.sameRequirements_of_joins hjoins
  unfold Segment.Valid at hfirst hsecond
  rcases h with ⟨hle, hlt, hsame⟩ | ⟨hle, hlt, hsame⟩
  · exact ⟨hle, by show t < second.endTime; omega, hsame⟩
  · exact ⟨by show first.startTime ≤ t; omega, hlt, hsame.trans hsecondSame⟩

/-- Joined segments are not empty and follow one another. -/
theorem joinSegments_ordered {current : Segment} {rest : List Segment}
    (hvalid : ∀ segment ∈ current :: rest, segment.Valid)
    (hordered : (current :: rest).Pairwise fun first second => first.endTime ≤ second.startTime) :
    (∀ segment ∈ joinSegments current rest, segment.Valid) ∧
      (joinSegments current rest).Pairwise
        fun first second => first.endTime ≤ second.startTime := by
  constructor
  · refine joins_merging.forall_mem ?_ hvalid hordered.isChain hvalid
    intro first second hfirst hsecond hle hjoins _ _
    exact joins_merging.valid hfirst hsecond hle hjoins
  · refine joins_merging.pairwise ?_ ?_ hvalid hordered.isChain hordered
    · intro first second third _ _ _ _ _ hsecond
      exact hsecond
    · intro first second third _ _ _ _ hfirst _
      exact hfirst

/-! ## The merged segments -/

/-- The segments before joining are not empty and follow one another. -/
theorem segments_ordered (windows : List DemandWindow) :
    (∀ segment ∈ (cuts (windowBoundaries windows)).filterMap (segmentOf windows),
      segment.Valid) ∧
      ((cuts (windowBoundaries windows)).filterMap (segmentOf windows)).Pairwise
        fun first second => first.endTime ≤ second.startTime := by
  have hsorted : (windowBoundaries windows).Pairwise (· < ·) := sortedSet_pairwise_lt _
  constructor
  · intro segment hsegment
    obtain ⟨piece, hpiece, hof⟩ := List.mem_filterMap.mp hsegment
    obtain ⟨hstart, hend⟩ := segmentOf_eq_some hof
    rw [Segment.Valid, hstart, hend]
    exact (not_lt_lt_of_mem_cuts hsorted hpiece).1
  · refine (cuts_pairwise_le hsorted).filterMap (segmentOf windows) ?_
    intro first second hle segment hsegment other hother
    obtain ⟨_, hend⟩ := segmentOf_eq_some hsegment
    obtain ⟨hstart, _⟩ := segmentOf_eq_some hother
    rw [hend, hstart]
    exact hle

theorem mergeWindows_ordered (windows : List DemandWindow) :
    (∀ segment ∈ mergeWindows windows, segment.Valid) ∧
      (mergeWindows windows).Pairwise
        fun first second => first.endTime ≤ second.startTime := by
  obtain ⟨hvalid, hordered⟩ := segments_ordered windows
  unfold mergeWindows
  split
  · simp
  · rename_i first rest hsegments
    rw [hsegments] at hvalid hordered
    exact joinSegments_ordered hvalid hordered

/-- Every instant of a raw window lies in a merged segment that asks for at
least as much. -/
theorem exists_segment_of_window {windows : List DemandWindow} {window : DemandWindow}
    (hmem : window ∈ windows) {t : Int} (hle : window.startTime ≤ t) (hlt : t < window.endTime) :
    ∃ segment ∈ mergeWindows windows, segment.startTime ≤ t ∧ t < segment.endTime ∧
      segment.Dominates window := by
  have hsorted : (windowBoundaries windows).Pairwise (· < ·) := sortedSet_pairwise_lt _
  have hstart : window.startTime ∈ windowBoundaries windows := by
    rw [windowBoundaries, mem_sortedSet, List.mem_flatMap]
    exact ⟨window, hmem, by simp⟩
  have hend : window.endTime ∈ windowBoundaries windows := by
    rw [windowBoundaries, mem_sortedSet, List.mem_flatMap]
    exact ⟨window, hmem, by simp⟩
  obtain ⟨piece, hpiece, hpieceLe, hpieceLt⟩ := exists_mem_cuts hsorted hstart hend hle hlt
  have hactive : window ∈ activeWindows windows piece := by
    unfold activeWindows
    rw [List.mem_filter]
    refine ⟨hmem, ?_⟩
    simp only [Bool.and_eq_true, decide_eq_true_eq]
    constructor <;> omega
  obtain ⟨segment, hsegment, hsegmentStart, hsegmentEnd, hdominates⟩ := segmentOf_dominates hactive
  have hlisted : segment ∈ (cuts (windowBoundaries windows)).filterMap (segmentOf windows) :=
    List.mem_filterMap.mpr ⟨piece, hpiece, hsegment⟩
  obtain ⟨hvalid, hordered⟩ := segments_ordered windows
  unfold mergeWindows
  split
  · rename_i hnil
    rw [hnil] at hlisted
    simp at hlisted
  · rename_i first rest hsegments
    rw [hsegments] at hlisted hvalid hordered
    obtain ⟨joined, hjoined, hjoinedLe, hjoinedLt, hsame⟩ := exists_joined hvalid hordered
      hlisted (hsegmentStart.trans_le hpieceLe) (hpieceLt.trans_eq hsegmentEnd.symm)
    exact ⟨joined, hjoined, hjoinedLe, hjoinedLt, hdominates.of_same hsame⟩

end LunchLineup.Engine
