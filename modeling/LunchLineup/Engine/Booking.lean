import LunchLineup.Engine.Outcome
import LunchLineup.Python.Reference

/-!
# Double booking

A feasible result must not put a person on two assignments at once, nor on an
assignment during one of the person's existing shifts.  The demand-window path
keeps both: its slots do not overlap, a slot that meets an existing shift is
excluded, and coalescing adds no instant to anybody's time.

The day path reads the existing shifts and never uses them, so it keeps the
second only if no window of a day meets an existing shift of somebody available
that day (`BookedElsewhere.double_booking` is the smallest request without
that), and the first only if the windows of its days are apart.
-/

namespace LunchLineup.Engine

open LunchLineup.Lib LunchLineup.Python

/-- The result books nobody twice: assignments do not meet the person's existing
shifts, and those of one person do not overlap. -/
structure Problem.BookedOnce (problem : Problem) (assignments : List Assignment) : Prop where
  existing : ∀ assignment ∈ assignments, ∀ interval ∈ problem.existingShiftIntervals,
    interval.staffId = assignment.staffId →
      ¬ (interval.startTime < assignment.endTime ∧ assignment.startTime < interval.endTime)
  apart : assignments.Pairwise Assignment.Apart

/-- No window of a day meets an existing shift of a person available that day. -/
def Problem.DaysClear (rt : Runtime) (problem : Problem) : Prop :=
  ∀ index < problem.numDays, ∀ staffId ∈ problem.staffIds,
    problem.dayAvailable rt index staffId = true →
      problem.hasExistingShiftOverlap staffId (problem.zone.toUtc (problem.shiftStart index))
        (problem.zone.toUtc (problem.shiftEnd index)) = false

theorem Problem.not_overlap_of_clear {problem : Problem} {staffId : String}
    {startTime endTime : Int}
    (h : problem.hasExistingShiftOverlap staffId startTime endTime = false)
    {interval : ExistingInterval} (hmem : interval ∈ problem.existingShiftIntervals)
    (hstaff : interval.staffId = staffId) :
    ¬ (interval.startTime < endTime ∧ startTime < interval.endTime) := by
  rintro ⟨hbefore, hafter⟩
  rw [Problem.hasExistingShiftOverlap, List.any_eq_false] at h
  exact h interval hmem (by simp [hstaff, hbefore, hafter])

theorem WindowOutcome.bookedOnce {rt : Runtime} {args : SolveArgs} {problem : Problem}
    {σ : ShiftVar → Int} {assignments : List Assignment} (hprepared : Prepared rt args problem)
    (h : WindowOutcome rt problem σ assignments) : problem.BookedOnce assignments := by
  refine ⟨?_, h.apart hprepared⟩
  rintro assignment hmem interval hinterval hstaff ⟨hbefore, hafter⟩
  have hvalid : assignment.startTime < assignment.endTime := h.valid assignment hmem
  have hinstant := hprepared.interval_ok hinterval
  -- the later of the two starts lies in both, so in a slot that was not excluded
  obtain ⟨index, slot, hslot, hlisted, hassigned, hle, hlt⟩ :=
    h.exists_slot hmem (t := max assignment.startTime interval.startTime) (by omega) (by omega)
  obtain ⟨_, hclear⟩ := h.allowed hslot hlisted hassigned
  apply Problem.not_overlap_of_clear hclear hinterval hstaff
  omega

theorem DayOutcome.bookedOnce {rt : Runtime} {args : SolveArgs} {problem : Problem}
    {σ : ShiftVar → Int} {assignments : List Assignment} (hprepared : Prepared rt args problem)
    (hapart : problem.DaysApart) (hclear : problem.DaysClear rt)
    (h : DayOutcome rt problem σ assignments) : problem.BookedOnce assignments := by
  refine ⟨?_, h.apart hprepared hapart⟩
  intro assignment hmem interval hinterval hstaff
  obtain ⟨index, hindex, hlisted, hassigned, hstart, hend⟩ := h.exists_day hmem
  have havailable := h.allowed hindex hlisted hassigned
  rw [hstart, hend]
  exact Problem.not_overlap_of_clear (hclear index hindex _ hlisted havailable) hinterval hstaff

/-- A feasible result books nobody twice, on the demand-window path always and
on the day path as long as the windows of the days are apart and meet no
existing shift of a person available that day. -/
theorem feasible_result_books_once {rt : Runtime} {solver : CpSolver ShiftVar} {args : SolveArgs}
    {problem : Problem} {assignments : List Assignment} {score : ℚ} {stats : Stats}
    (hprepare : prepare rt args = .ok problem)
    (hsolve : solve rt solver args = .feasible assignments score stats)
    (hclear : problem.segments ≠ [] ∨ (problem.DaysApart ∧ problem.DaysClear rt)) :
    problem.BookedOnce assignments := by
  obtain ⟨other, σ, hother, houtcome⟩ := feasible_cases hsolve
  obtain rfl : problem = other := Except.ok.inj (hprepare.symm.trans hother)
  have hprepared := prepare_ok hprepare
  rcases houtcome with hwindow | hday
  · exact hwindow.bookedOnce hprepared
  · rcases hclear with hpath | ⟨hapart, hdays⟩
    · exact absurd hday.path hpath
    · exact hday.bookedOnce hprepared hapart hdays

/-! ## A shift elsewhere -/

namespace BookedElsewhere

/-- An existing shift of a person, as the request writes it. -/
def existing : PyValue :=
  .list [.dict [("id", .str "e"), ("staff_id", .str "a"), ("location_id", .str "l"),
    ("start_time", .str "2026-03-09T10:00:00Z"), ("end_time", .str "2026-03-09T11:00:00Z")]]

/-- A day for one person who works elsewhere from 10:00 to 11:00. -/
def dayArgs : SolveArgs where
  config := []
  staffIds := ["a"]
  startDate := "2026-03-09"
  endDate := "2026-03-10"
  constraints :=
    [("existing_shift_intervals", existing),
      ("break_rules", .dict
        [("min_shift_for_break", .int 24), ("min_shift_for_second_break", .int 24)])]

/-- The person is assigned. -/
def assigned : ShiftVar → Int
  | .assigned _ _ => 1
  | .maxLoad => 120

/-- The person is assigned, for one day. -/
def assignedDay : ShiftVar → Int
  | .assigned _ _ => 1
  | .maxLoad => 1

theorem meets_existing :
    (match prepare (.reference fun _ => none) dayArgs,
        solve (.reference fun _ => none) (.candidate assignedDay) dayArgs with
      | .ok problem, .feasible assignments _ _ =>
          assignments.any fun assignment => problem.existingShiftIntervals.any fun interval =>
            interval.staffId = assignment.staffId && interval.startTime < assignment.endTime &&
              assignment.startTime < interval.endTime
      | _, _ => false) = true := by
  decide +kernel

/-- The request is feasible, and its assignment meets the existing shift. -/
theorem double_booking :
    ∃ problem assignments score stats,
      prepare (.reference fun _ => none) dayArgs = .ok problem ∧
      solve (.reference fun _ => none) (.candidate assignedDay) dayArgs =
        .feasible assignments score stats ∧
      ¬ problem.BookedOnce assignments := by
  have h := meets_existing
  split at h
  · rename_i problem assignments score stats hprepare hsolve
    refine ⟨problem, assignments, score, stats, hprepare, hsolve, ?_⟩
    intro hbooked
    obtain ⟨assignment, hmem, hany⟩ := List.any_eq_true.mp h
    obtain ⟨interval, hinterval, hmeets⟩ := List.any_eq_true.mp hany
    simp only [Bool.and_eq_true, decide_eq_true_eq] at hmeets
    exact hbooked.existing assignment hmem interval hinterval hmeets.1.1
      ⟨hmeets.1.2, hmeets.2⟩
  · cases h

/-- The same person, asked for two hours after the existing shift. -/
def windowArgs : SolveArgs where
  config := []
  staffIds := ["a"]
  startDate := "2026-03-09"
  endDate := "2026-03-10"
  constraints :=
    [("existing_shift_intervals", existing),
      ("demand_windows", .list
        [.dict [("start_time", .str "2026-03-09T11:00:00Z"),
          ("end_time", .str "2026-03-09T13:00:00Z"), ("required_staff", .int 1)]])]

theorem found :
    (match prepare (.reference fun _ => none) windowArgs,
        solve (.reference fun _ => none) (.candidate assigned) windowArgs with
      | .ok problem, .feasible _ _ _ =>
          decide (problem.segments ≠ [] ∧ problem.existingShiftIntervals ≠ [])
      | _, _ => false) = true := by
  decide +kernel

theorem window_booked_once :
    ∃ problem assignments score stats,
      prepare (.reference fun _ => none) windowArgs = .ok problem ∧
      solve (.reference fun _ => none) (.candidate assigned) windowArgs =
        .feasible assignments score stats ∧
      problem.existingShiftIntervals ≠ [] ∧ problem.BookedOnce assignments := by
  have h := found
  split at h
  · rename_i problem assignments score stats hprepare hsolve
    obtain ⟨hpath, hexisting⟩ := of_decide_eq_true h
    exact ⟨problem, assignments, score, stats, hprepare, hsolve, hexisting,
      feasible_result_books_once hprepare hsolve (.inl hpath)⟩
  · cases h

end BookedElsewhere

end LunchLineup.Engine
