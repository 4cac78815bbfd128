import LunchLineup.Engine.Outcome
import LunchLineup.Python.Reference

/-!
# Coverage of a feasible schedule

`_working_coverage_gaps` looks at finitely many pieces of each window and counts
assignments.  The pieces are cut at every edge of an assignment or a break, so
the count of a piece is the count at each of its instants
(`assignments_of_no_gaps`).  It is a count of people as long as the assignments
of one person are apart (`staffed_of_no_gaps`).

On the demand-window path they always are: segments do not overlap and
coalescing keeps each person's time.  On the day path they are apart when the
windows of the days are.  That fails in a zone that skips a day: the windows of
the day that does not exist and of the next day are the same instants, a person
assigned on both is counted twice, and a shortage goes unseen
(`SkippedDay.coverage_unsound`).
-/

namespace LunchLineup.Engine

open LunchLineup.Lib LunchLineup.Python

/-- The people at work at an instant: on an assignment and in none of its
breaks. -/
def workingStaff (assignments : List Assignment) (t : Int) : Finset String :=
  onDutyOwners Assignment.staffId Assignment.duty assignments t

/-- The people at work at an instant who hold a skill. -/
def qualifiedStaff (staffSkills : Dict String (List String)) (skill : String)
    (assignments : List Assignment) (t : Int) : Finset String :=
  (workingStaff assignments t).filter fun staffId => hasSkill staffSkills skill staffId

/-! ## Sampling is enough -/

section

variable {rt : Runtime} {assignments : List Assignment} {staffSkills : Dict String (List String)}
  {window : Segment}

/-- The working assignments are enough for a window. -/
def Enough (staffSkills : Dict String (List String)) (window : Segment)
    (working : List Assignment) : Prop :=
  window.requiredStaff ≤ working.length ∧
    ∀ entry ∈ window.skillRequirements, entry.2 ≤ (qualifiedOn staffSkills entry.1 working : Int)

theorem pieceGaps_eq_nil {pieces : List (Int × Int)}
    (h : pieceGaps rt assignments staffSkills window pieces = []) :
    ∀ piece ∈ pieces, Enough staffSkills window (workingOn assignments piece) := by
  induction pieces with
  | nil => simp
  | cons piece rest ih =>
      rw [pieceGaps] at h
      split at h
      · cases h
      rename_i henough
      split at h
      · cases h
      rename_i hskills
      intro other hother
      rcases List.mem_cons.mp hother with rfl | hother
      · refine ⟨not_lt.mp henough, ?_⟩
        intro entry hentry
        have hfound := List.find?_eq_none.mp hskills entry hentry
        simpa using hfound
      · exact ih h other hother

/-- Without gaps, each instant of a window is covered by enough assignments. -/
theorem assignments_of_no_gaps {windows : List Segment}
    (h : workingCoverageGaps rt assignments windows staffSkills = []) (hmem : window ∈ windows)
    {t : Int} (hle : window.startTime ≤ t) (hlt : t < window.endTime) :
    Enough staffSkills window
      (assignments.filter fun assignment => assignment.duty.onDuty t) := by
  have hpieces : pieceGaps rt assignments staffSkills window (windowPieces assignments window) =
      [] := by
    unfold workingCoverageGaps at h
    rw [List.flatMap_eq_nil_iff] at h
    exact h window hmem
  obtain ⟨piece, hpiece, hpieceLe, hpieceLt⟩ : ∃ piece ∈ windowPieces assignments window,
      piece.1 ≤ t ∧ t < piece.2 := exists_mem_cuts_clippedEdges hle hlt
  have hsame : workingOn assignments piece =
      assignments.filter fun assignment => assignment.duty.onDuty t :=
    filter_workingOn_eq hpiece (hle.trans hlt.le) hpieceLe hpieceLt
  have hcovered := pieceGaps_eq_nil hpieces piece hpiece
  rwa [hsame] at hcovered

/-- Without gaps, and with the assignments of each person apart, each instant
of a window has enough people, and enough with each required skill. -/
theorem staffed_of_no_gaps {windows : List Segment}
    (hapart : assignments.Pairwise Assignment.Apart)
    (h : workingCoverageGaps rt assignments windows staffSkills = []) (hmem : window ∈ windows)
    {t : Int} (hle : window.startTime ≤ t) (hlt : t < window.endTime) :
    window.requiredStaff ≤ (workingStaff assignments t).card ∧
      ∀ entry ∈ window.skillRequirements,
        entry.2 ≤ (qualifiedStaff staffSkills entry.1 assignments t).card := by
  obtain ⟨hstaff, hskills⟩ := assignments_of_no_gaps h hmem hle hlt
  refine ⟨?_, ?_⟩
  · rw [workingStaff, card_onDutyOwners hapart]
    exact hstaff
  · intro entry hentry
    rw [qualifiedStaff, workingStaff, card_filter_onDutyOwners _ hapart]
    exact hskills entry hentry

end

/-! ## The two paths -/

/-- Every raw demand window of the request, or without any every day's shift
window, has enough people at work at each of its instants, and enough of them
with each required skill. -/
structure Problem.Covered (rt : Runtime) (problem : Problem) (assignments : List Assignment) :
    Prop where
  windows : ∀ window ∈ problem.demandWindows, ∀ t, window.startTime ≤ t → t < window.endTime →
    window.requiredStaff ≤ (workingStaff assignments t).card ∧
      ∀ skill, window.skill = some skill →
        window.requiredStaff ≤ (qualifiedStaff problem.staffSkills skill assignments t).card
  days : problem.segments = [] → ∀ index < problem.numDays, ∀ t,
    problem.zone.toUtc (problem.shiftStart index) ≤ t →
    t < problem.zone.toUtc (problem.shiftEnd index) →
    problem.dayCoverage rt index ≤ (workingStaff assignments t).card ∧
      ∀ entry ∈ problem.daySkills rt index,
        entry.2 ≤ (qualifiedStaff problem.staffSkills entry.1 assignments t).card

/-- A raw window is covered because a segment around the instant asks for at
least as much. -/
theorem WindowOutcome.covered {rt : Runtime} {args : SolveArgs} {problem : Problem}
    {σ : ShiftVar → Int} {assignments : List Assignment} (hprepared : Prepared rt args problem)
    (h : WindowOutcome rt problem σ assignments) : problem.Covered rt assignments := by
  refine ⟨?_, fun hnone => absurd hnone h.path⟩
  intro window hwindow t hle hlt
  obtain ⟨segment, hsegment, hsegmentLe, hsegmentLt, hrequired, hskill⟩ :=
    exists_segment_of_window hwindow hle hlt
  obtain ⟨hstaffed, hqualified⟩ :=
    staffed_of_no_gaps (h.apart hprepared) h.noGaps hsegment hsegmentLe hsegmentLt
  refine ⟨hrequired.trans hstaffed, ?_⟩
  intro skill hsome
  obtain ⟨count, hcount, hle'⟩ := hskill skill hsome ((hprepared.window_ok hwindow).2 skill hsome)
  exact hle'.trans (hqualified (skill, count) (Dict.mem_of_get? hcount))

theorem DayOutcome.covered {rt : Runtime} {args : SolveArgs} {problem : Problem}
    {σ : ShiftVar → Int} {assignments : List Assignment} (hprepared : Prepared rt args problem)
    (hdays : problem.DaysApart) (h : DayOutcome rt problem σ assignments) :
    problem.Covered rt assignments := by
  refine ⟨?_, ?_⟩
  · -- without segments there is no raw window
    intro window hwindow t hle hlt
    obtain ⟨segment, hsegment, _⟩ := exists_segment_of_window hwindow hle hlt
    have hnil : mergeWindows problem.demandWindows = [] := h.path
    rw [hnil] at hsegment
    simp at hsegment
  · intro _ index hindex t hle hlt
    have hwindow := List.mem_map_of_mem (List.mem_range.mpr hindex)
      (f := fun index => ({
        startTime := problem.zone.toUtc (problem.shiftStart index)
        endTime := problem.zone.toUtc (problem.shiftEnd index)
        requiredStaff := problem.dayCoverage rt index
        skillRequirements := problem.daySkills rt index
        protectStart := false } : Segment))
    exact staffed_of_no_gaps (h.apart hprepared hdays) h.noGaps hwindow hle hlt

/-- A feasible result covers the demand of its request at every instant, on the
demand-window path always and on the day path as long as the windows of the days
do not overlap. -/
theorem feasible_result_covers_demand {rt : Runtime} {solver : CpSolver ShiftVar}
    {args : SolveArgs} {problem : Problem} {assignments : List Assignment} {score : ℚ}
    {stats : Stats} (hprepare : prepare rt args = .ok problem)
    (hsolve : solve rt solver args = .feasible assignments score stats)
    (hdays : problem.segments ≠ [] ∨ problem.DaysApart) : problem.Covered rt assignments := by
  obtain ⟨other, σ, hother, houtcome⟩ := feasible_cases hsolve
  obtain rfl : problem = other := Except.ok.inj (hprepare.symm.trans hother)
  have hprepared := prepare_ok hprepare
  rcases houtcome with hwindow | hday
  · exact hwindow.covered hprepared
  · rcases hdays with hpath | hapart
    · exact absurd hday.path hpath
    · exact hday.covered hprepared hapart

/-! ## A day that does not exist -/

namespace SkippedDay

/-- Three people, one at least on the floor, and two on 2011-12-30, the day that
`Pacific/Apia` skipped. -/
def args : SolveArgs where
  config := []
  staffIds := ["a", "b", "c"]
  startDate := "2011-12-29T10:00:00Z"
  endDate := "2011-12-31T10:00:00Z"
  constraints :=
    [("timezone", .str "Pacific/Apia"),
      ("daily_demand", .dict [("2011-12-30", .int 2)]),
      ("break_rules", .dict
        [("break_duration", .int 120), ("min_shift_for_second_break", .int 24)])]

/-- Everybody works every day. -/
def everyone : ShiftVar → Int
  | .assigned _ _ => 1
  | .maxLoad => 3

/-- Seven hours into the shifts of 2011-12-30 and 2011-12-31, which start at the
same instant. -/
def instant : Int := 1325271600000000 + 7 * hour

/-- What the run on this request shows at that instant. -/
theorem one_person_works :
    (match prepare (.reference fun _ => none) args,
        solve (.reference fun _ => none) (.candidate everyone) args with
      | .ok problem, .feasible assignments _ _ =>
          decide (problem.segments = [] ∧ 1 < problem.numDays ∧
            problem.zone.toUtc (problem.shiftStart 1) ≤ instant ∧
            instant < problem.zone.toUtc (problem.shiftEnd 1) ∧
            ((workingStaff assignments instant).card : Int) <
              problem.dayCoverage (.reference fun _ => none) 1)
      | _, _ => false) = true := by
  decide +kernel

/-- The request is feasible, and one person works where two are required. -/
theorem coverage_unsound :
    ∃ problem assignments score stats,
      prepare (.reference fun _ => none) args = .ok problem ∧
      solve (.reference fun _ => none) (.candidate everyone) args =
        .feasible assignments score stats ∧
      ¬ problem.Covered (.reference fun _ => none) assignments := by
  have h := one_person_works
  split at h
  · rename_i problem assignments score stats hprepare hsolve
    obtain ⟨hpath, hindex, hle, hlt, hshort⟩ := of_decide_eq_true h
    refine ⟨problem, assignments, score, stats, hprepare, hsolve, ?_⟩
    intro hcovered
    have hstaffed := (hcovered.days hpath 1 hindex instant hle hlt).1
    omega
  · cases h

end SkippedDay

/-! ## Two overlapping windows -/

namespace OverlappingWindows

/-- Two people, a window for two and one inside it for a cook. -/
def args : SolveArgs where
  config := []
  staffIds := ["a", "b"]
  startDate := "2026-03-09"
  endDate := "2026-03-10"
  constraints :=
    [("staff_skills", .dict [("a", .list [.str "Cook"])]),
      ("demand_windows", .list
        [.dict [("start_time", .str "2026-03-09T08:00:00Z"),
            ("end_time", .str "2026-03-09T11:00:00Z"), ("required_staff", .int 2)],
          .dict [("start_time", .str "2026-03-09T09:00:00Z"),
            ("end_time", .str "2026-03-09T10:00:00Z"), ("required_staff", .int 1),
            ("skill", .str "cook")]])]

/-- Everybody works in every slot. -/
def everyone : ShiftVar → Int
  | .assigned _ _ => 1
  | .maxLoad => 180

theorem found :
    (match prepare (.reference fun _ => none) args,
        solve (.reference fun _ => none) (.candidate everyone) args with
      | .ok problem, .feasible _ _ _ => decide (problem.segments ≠ [])
      | _, _ => false) = true := by
  decide +kernel

/-- The schedule found for these windows covers them. -/
theorem overlapping_windows_covered :
    ∃ problem assignments score stats,
      prepare (.reference fun _ => none) args = .ok problem ∧
      solve (.reference fun _ => none) (.candidate everyone) args =
        .feasible assignments score stats ∧
      problem.Covered (.reference fun _ => none) assignments := by
  have h := found
  split at h
  · rename_i problem assignments score stats hprepare hsolve
    exact ⟨problem, assignments, score, stats, hprepare, hsolve,
      feasible_result_covers_demand hprepare hsolve (.inl (of_decide_eq_true h))⟩
  · cases h

end OverlappingWindows

end LunchLineup.Engine
