import LunchLineup.Engine.Outcome
import LunchLineup.Python.Reference

/-!
# The check before the search

Both paths count people before they build a model, and answer at once where a slot
asks for more than are there.  The model says the same with constraints: people who
are not available, or are booked elsewhere, have their variable fixed to zero, and the
variables of a slot sum up to its demand at least.

So an assignment of the model's variables that meets these constraints leaves no
shortage (`daysSolvable_precheck`, `windowsSolvable_precheck`).  Both rest on
`sum_le_length_filter`: variables of at most one that vanish outside a set sum up to
no more than the size of the set.
-/

namespace LunchLineup.Engine

open LunchLineup.Lib LunchLineup.Python

/-! ## Sums of bounded variables -/

/-- Numbers of at most one that vanish outside `p` sum up to no more than there are
entries in `p`. -/
theorem sum_le_length_filter {α : Type*} {l : List α} {f : α → Int} {p : α → Bool}
    (hle : ∀ a ∈ l, f a ≤ 1) (hzero : ∀ a ∈ l, p a = false → f a = 0) :
    (l.map f).sum ≤ (l.filter p).length := by
  induction l with
  | nil => simp
  | cons a rest ih =>
      have hrest := ih (fun b hb => hle b (List.mem_cons_of_mem _ hb))
        (fun b hb => hzero b (List.mem_cons_of_mem _ hb))
      have hfirst := hle a List.mem_cons_self
      rw [List.map_cons, List.sum_cons]
      cases hp : p a with
      | false =>
          rw [List.filter_cons_of_neg (by simp [hp]), hzero a List.mem_cons_self hp]
          omega
      | true =>
          rw [List.filter_cons_of_pos hp, List.length_cons]
          push_cast
          omega

theorem atLeast_holds {σ : ShiftVar → Int} {staffIds : List String} {slot : Nat} {required : Int} :
    (atLeast staffIds slot required).Holds σ ↔
      required ≤ (staffIds.map fun staffId => σ (.assigned staffId slot)).sum := by
  simp [atLeast, LinearConstraint.Holds, LinearExpr.eval, LinearExpr.sum, LinearExpr.const,
    Function.comp_def]

theorem excluded_holds {σ : ShiftVar → Int} {staffId : String} {slot : Nat} :
    (excluded staffId slot).Holds σ ↔ σ (.assigned staffId slot) = 0 := by
  simp [excluded, LinearConstraint.Holds]

/-! ## The constraints on the people of a slot -/

/-- The variables of `count` slots take the values 0 and 1. -/
def BooleanOn (staffIds : List String) (count : Nat) (σ : ShiftVar → Int) : Prop :=
  ∀ x ∈ slotVars staffIds count, 0 ≤ σ x ∧ σ x ≤ 1

theorem BooleanOn.le_one {staffIds : List String} {count : Nat} {σ : ShiftVar → Int}
    (h : BooleanOn staffIds count σ) {staffId : String} (hstaff : staffId ∈ staffIds) {slot : Nat}
    (hslot : slot < count) : σ (.assigned staffId slot) ≤ 1 := by
  refine (h _ (List.mem_flatMap.mpr ⟨staffId, hstaff, ?_⟩)).2
  exact List.mem_map.mpr ⟨slot, List.mem_range.mpr hslot, rfl⟩

namespace Problem

variable (rt : Runtime) (problem : Problem)

/-- The constraints of the day path on coverage, availability and skills. -/
def dayRequirements : List (LinearConstraint ShiftVar) :=
  let days := List.range problem.numDays
  (days.map fun index =>
    atLeast problem.staffIds index (problem.dayCoverage rt index + problem.dayRelief index)) ++
  (days.flatMap fun index =>
    (problem.staffIds.filter fun staffId => !problem.dayAvailable rt index staffId).map
      fun staffId => excluded staffId index) ++
  (days.flatMap fun index => (problem.daySkills rt index).map fun entry =>
    atLeast (problem.staffIds.filter (hasSkill problem.staffSkills entry.1)) index
      (entry.2 + problem.dayRelief index))

/-- The constraints of the demand-window path on coverage, availability, existing shifts
and skills. -/
def windowRequirements : List (LinearConstraint ShiftVar) :=
  problem.segments.zipIdx.flatMap fun entry => problem.slotConstraints rt entry.1 entry.2

/-- Some assignment of the day path's variables meets its requirements. -/
def DaysSolvable : Prop :=
  ∃ σ, BooleanOn problem.staffIds problem.numDays σ ∧
    ∀ c ∈ problem.dayRequirements rt, c.Holds σ

/-- Some assignment of the demand-window path's variables meets its requirements. -/
def WindowsSolvable : Prop :=
  ∃ σ, BooleanOn problem.staffIds problem.segments.length σ ∧
    ∀ c ∈ problem.windowRequirements rt, c.Holds σ

/-- The model of the day path adds the weekly caps and the loads to the requirements. -/
theorem dayConstraints_eq :
    problem.dayConstraints rt = problem.dayRequirements rt ++
      weeklyCaps (calendarWeeks rt problem.zone problem.startTime problem.endTime)
        problem.staffIds problem.existingWeeklyMinutes problem.daySlots problem.maxWeekMinutes ++
      problem.staffIds.map fun staffId => .le
        (.sum ((List.range problem.numDays).map fun index => .assigned staffId index))
        (.var .maxLoad) := rfl

/-- The model of the demand-window path adds the weekly caps and the loads. -/
theorem windowConstraints_eq :
    problem.windowConstraints rt = problem.windowRequirements rt ++
      weeklyCaps (problem.slotWeeks rt) problem.staffIds problem.existingWeeklyMinutes
        problem.segmentSlots problem.maxWeekMinutes ++
      problem.staffIds.map fun staffId => .le
        ⟨problem.segments.zipIdx.map fun entry =>
          (durationMinutes entry.1, .assigned staffId entry.2), 0⟩ (.var .maxLoad) := rfl

/-! ## Shortages -/

variable {problem}

/-- Nothing is short where enough people are available, and enough of them have each
skill. -/
theorem shortages_eq_nil {date coverageMessage skillMessage : String} {required relief : Int}
    {skills : Dict String Int} {available : List String}
    (hcoverage : required + relief ≤ available.length)
    (hskills : ∀ entry ∈ skills, entry.2 + relief ≤
      (available.filter (hasSkill problem.staffSkills entry.1)).length) :
    problem.shortages date required relief skills available coverageMessage skillMessage = [] := by
  unfold shortages
  rw [if_neg (by omega), List.nil_append, List.filterMap_eq_nil_iff]
  intro entry hentry
  exact if_neg (not_lt.mpr (hskills entry hentry))

/-- A slot whose variables meet its demand, and vanish for whoever is not available, has no
shortage. -/
theorem shortages_of_holds {σ : ShiftVar → Int} (slot : Nat) {available : String → Bool}
    {date coverageMessage skillMessage : String} {required relief : Int} {skills : Dict String Int}
    (hle : ∀ staffId ∈ problem.staffIds, σ (.assigned staffId slot) ≤ 1)
    (hzero : ∀ staffId ∈ problem.staffIds, available staffId = false →
      σ (.assigned staffId slot) = 0)
    (hcoverage : (atLeast problem.staffIds slot (required + relief)).Holds σ)
    (hskills : ∀ entry ∈ skills,
      (atLeast (problem.staffIds.filter (hasSkill problem.staffSkills entry.1)) slot
        (entry.2 + relief)).Holds σ) :
    problem.shortages date required relief skills (problem.staffIds.filter available)
      coverageMessage skillMessage = [] := by
  apply shortages_eq_nil
  · exact (atLeast_holds.mp hcoverage).trans (sum_le_length_filter hle hzero)
  · intro entry hentry
    have hqualified : ∀ staffId ∈ problem.staffIds.filter (hasSkill problem.staffSkills entry.1),
        staffId ∈ problem.staffIds := fun staffId hstaff => (List.mem_filter.mp hstaff).1
    have hsum := sum_le_length_filter
      (l := problem.staffIds.filter (hasSkill problem.staffSkills entry.1))
      (fun staffId hstaff => hle staffId (hqualified staffId hstaff))
      (fun staffId hstaff => hzero staffId (hqualified staffId hstaff))
    rw [List.filter_comm] at hsum
    exact (atLeast_holds.mp (hskills entry hentry)).trans hsum

variable {rt}

/-- Without a shortage on any day the loop reports what it was given. -/
theorem precheckFrom_eq {details : List Detail} (hshort : details.length < 20) {days : List Nat}
    (hnone : ∀ index ∈ days, problem.shortages (rt.dateIsoformat (problem.dayDate index))
      (problem.dayCoverage rt index) (problem.dayRelief index) (problem.daySkills rt index)
      (problem.staffIds.filter (problem.dayAvailable rt index))
      "Floor coverage demand exceeds available staff for this day"
      "Skill demand exceeds available qualified staff for this day" = []) :
    problem.precheckFrom rt details days = details := by
  induction days with
  | nil => rfl
  | cons index rest ih =>
      simp only [precheckFrom, hnone index List.mem_cons_self, List.append_nil]
      rw [if_neg (by omega)]
      exact ih fun other hother => hnone other (List.mem_cons_of_mem _ hother)

theorem daysSolvable_precheck (h : problem.DaysSolvable rt) :
    problem.precheckDemandRequirements rt = [] := by
  obtain ⟨σ, hboolean, hholds⟩ := h
  refine precheckFrom_eq (by simp) ?_
  intro index hindex
  have hday : index < problem.numDays := List.mem_range.mp hindex
  apply shortages_of_holds (σ := σ) index
  · intro staffId hstaff
    exact hboolean.le_one hstaff hday
  · intro staffId hstaff havailable
    refine excluded_holds.mp (hholds _ (List.mem_append_left _ (List.mem_append_right _ ?_)))
    refine List.mem_flatMap.mpr ⟨index, hindex, ?_⟩
    exact List.mem_map_of_mem (List.mem_filter.mpr ⟨hstaff, by simp [havailable]⟩)
  · refine hholds _ (List.mem_append_left _ (List.mem_append_left _ ?_))
    exact List.mem_map_of_mem hindex
  · intro entry hentry
    refine hholds _ (List.mem_append_right _ (List.mem_flatMap.mpr ⟨index, hindex, ?_⟩))
    exact List.mem_map_of_mem hentry

theorem windowsSolvable_precheck (h : problem.WindowsSolvable rt) :
    problem.slotShortages rt = [] := by
  obtain ⟨σ, hboolean, hholds⟩ := h
  refine List.flatMap_eq_nil_iff.mpr ?_
  rintro ⟨slot, index⟩ hentry
  have hindex : index < problem.segments.length := by
    simpa using List.snd_lt_of_mem_zipIdx hentry
  have hslot : ∀ c ∈ problem.slotConstraints rt slot index, c.Holds σ :=
    fun c hc => hholds c (List.mem_flatMap.mpr ⟨(slot, index), hentry, hc⟩)
  apply shortages_of_holds (σ := σ) index
  · intro staffId hstaff
    exact hboolean.le_one hstaff hindex
  · intro staffId hstaff hrefused
    refine excluded_holds.mp (hslot _ (List.mem_append_left _ (List.mem_cons_of_mem _ ?_)))
    refine List.mem_flatMap.mpr ⟨staffId, hstaff, ?_⟩
    -- one of the two conditions that `available_staff` joins failed
    rcases Bool.and_eq_false_iff.mp hrefused with havailable | hbooked
    · exact List.mem_append_left _ (by simp [havailable])
    · exact List.mem_append_right _ (by simpa using hbooked)
  · exact hslot _ (List.mem_append_left _ List.mem_cons_self)
  · intro entry hentry
    exact hslot _ (List.mem_append_right _ (List.mem_map_of_mem hentry))

end Problem

/-- The check before the search rejects only requests whose requirements no assignment of
the model's variables meets, on both paths. -/
theorem precheck_rejects_unsolvable (rt : Runtime) (problem : Problem) :
    (problem.precheckDemandRequirements rt ≠ [] → ¬ problem.DaysSolvable rt) ∧
      (problem.slotShortages rt ≠ [] → ¬ problem.WindowsSolvable rt) := by
  constructor
  · intro hdetails hsolvable
    exact hdetails (Problem.daysSolvable_precheck hsolvable)
  · intro hdetails hsolvable
    exact hdetails (Problem.windowsSolvable_precheck hsolvable)

/-! ## A team too small to relieve a break -/

namespace SmallTeam

/-- Two people who both have to be on the floor all day, so that nobody can take a break. -/
def args : SolveArgs where
  config := []
  staffIds := ["a", "b"]
  startDate := "2026-03-09"
  endDate := "2026-03-10"
  constraints := [("timezone", .str "UTC"), ("min_floor_coverage", .int 2)]

theorem found :
    (match prepare (.reference fun _ => none) args with
      | .ok problem =>
          decide ((problem.precheckDemandRequirements (.reference fun _ => none)).map
            (fun detail => (detail.required, detail.available)) = [(3, 2)])
      | .error _ => false) = true := by
  decide +kernel

/-- The check rejects this request, and rightly so. -/
theorem rejected_unsolvable :
    ∃ problem, prepare (.reference fun _ => none) args = .ok problem ∧
      problem.precheckDemandRequirements (.reference fun _ => none) ≠ [] ∧
      ¬ problem.DaysSolvable (.reference fun _ => none) := by
  have h := found
  split at h
  · rename_i problem hprepare
    have hdetails := of_decide_eq_true h
    have hsome : problem.precheckDemandRequirements (.reference fun _ => none) ≠ [] := by
      intro hnone
      rw [hnone] at hdetails
      simp at hdetails
    exact ⟨problem, hprepare, hsome, (precheck_rejects_unsolvable _ problem).1 hsome⟩
  · cases h

end SmallTeam

end LunchLineup.Engine
