import LunchLineup.Engine.Breaks
import LunchLineup.Python.Reference

/-!
# Staggered breaks

The breaks of the n-th person on one span start n break lengths later, each on its own, and
each is held back at the end of the shift on its own.  A longer break moves faster than a
shorter one, so the lunch catches up with the second rest, and a break that is held back lets
those before it catch up.

Two breaks of valid unstaggered ones stay apart exactly when one of them, not held back,
leaves the time of the other: `staggered_apart_iff`.  That a break stays in its shift does
not depend on the others: `staggered_inside`.
-/

namespace LunchLineup.Engine

open LunchLineup.Lib LunchLineup.Python

/-- The break lies in the shift. -/
def Break.Inside (item : Break) (startTime endTime : Int) : Prop :=
  startTime ≤ item.startTime ∧ item.endTime ≤ endTime

/-- The breaks share no time. -/
def Break.Apart (first second : Break) : Prop :=
  first.endTime ≤ second.startTime ∨ second.endTime ≤ first.startTime

instance (item : Break) (startTime endTime : Int) : Decidable (item.Inside startTime endTime) :=
  inferInstanceAs (Decidable (_ ∧ _))

instance : DecidableRel Break.Apart := fun _ _ => inferInstanceAs (Decidable (_ ∨ _))

/-- The breaks lie in the shift and share no time. -/
structure ValidBreaks (startTime endTime : Int) (breaks : List Break) : Prop where
  inside : ∀ item ∈ breaks, item.Inside startTime endTime
  apart : breaks.Pairwise Break.Apart

/-! ## The condition

Lengths are in microseconds from the start of the shift: `length` is that of the shift, `p`
and `d` are the preferred start and the duration of a break. -/

/-- After `staggerIndex` steps the first break ends before the second starts, and there is
time for the second before the end of the shift; or the second is an empty break at the
end. -/
def LeavesTime (length : Int) (staggerIndex : Nat) (p d p' d' : Int) : Prop :=
  (p + (staggerIndex + 1) * d ≤ p' + staggerIndex * d' ∧
    p + (staggerIndex + 1) * d + d' ≤ length) ∨ length ≤ p'

instance (length : Int) (staggerIndex : Nat) (p d p' d' : Int) :
    Decidable (LeavesTime length staggerIndex p d p' d') :=
  inferInstanceAs (Decidable (_ ∨ _))

/-- One of the two breaks leaves time for the other. -/
def KeepApart (length : Int) (staggerIndex : Nat) (p d p' d' : Int) : Prop :=
  LeavesTime length staggerIndex p d p' d' ∨ LeavesTime length staggerIndex p' d' p d

instance (length : Int) (staggerIndex : Nat) (p d p' d' : Int) :
    Decidable (KeepApart length staggerIndex p d p' d') :=
  inferInstanceAs (Decidable (_ ∨ _))

/-- The shift gets at most one break, or each two of its three breaks keep apart. -/
def BreakRules.StaggerFits (rules : BreakRules) (length : Int) (staggerIndex : Nat) : Prop :=
  let rest := truncate rules.secondBreakDuration * minute
  let lunch := truncate rules.breakDuration * minute
  totalHours length < rules.minShiftForSecondBreak ∨
    KeepApart length staggerIndex (divideAndRound length 4) rest (divideAndRound length 2) lunch ∧
    KeepApart length staggerIndex (divideAndRound length 4) rest
      (divideAndRound (length * 3) 4) rest ∧
    KeepApart length staggerIndex (divideAndRound length 2) lunch
      (divideAndRound (length * 3) 4) rest

instance (rules : BreakRules) (length : Int) (staggerIndex : Nat) :
    Decidable (rules.StaggerFits length staggerIndex) :=
  inferInstanceAs (Decidable (_ ∨ _ ∧ _ ∧ _))

/-! ## Accepted rules -/

theorem normalizeRule_pos {rt : Runtime} {entries : Dict String PyValue} {key : String}
    {default value : ℚ} (h : normalizeRule rt entries key default = .ok value) : 0 < value := by
  unfold normalizeRule at h
  split at h
  · cases h
  · obtain ⟨_, hpos, h⟩ := bind_eq_ok.mp h
    obtain rfl := Except.ok.inj h
    exact ensure_eq_ok.mp hpos

theorem normalizeRules_durations {rt : Runtime} {entries : Dict String PyValue}
    {rules : BreakRules} (h : normalizeRules rt entries = .ok rules) :
    0 < rules.breakDuration ∧ 0 < rules.secondBreakDuration := by
  simp only [normalizeRules, bind_eq_ok] at h
  obtain ⟨_, _, first, _, lunch, hlunch, second, _, rest, hrest, paid, _, h⟩ := h
  obtain rfl := Except.ok.inj h
  exact ⟨normalizeRule_pos hlunch, normalizeRule_pos hrest⟩

theorem breakCalculator_durations {rt : Runtime} {value : PyValue} {rules : BreakRules}
    (h : breakCalculator rt value = .ok rules) :
    0 < rules.breakDuration ∧ 0 < rules.secondBreakDuration := by
  unfold breakCalculator at h
  split at h
  · split at h
    · exact normalizeRules_durations h
    · cases h
  · exact normalizeRules_durations h

theorem truncate_nonneg {value : ℚ} (h : 0 < value) : 0 ≤ truncate value := by
  rw [truncate, if_pos h.le]
  exact Int.floor_nonneg.mpr h.le

/-! ## One break and two breaks -/

section Breaks

variable {rules : BreakRules} {startTime endTime p p' d d' : Int} {staggerIndex : Nat}
  {type type' : BreakType}

/-- A break that lies in the shift unstaggered does so staggered. -/
theorem staggered_inside (hd : 0 ≤ d)
    (h : (rules.breakAt type (startTime + p) endTime d 0).Inside startTime endTime) :
    (rules.breakAt type (startTime + p) endTime d staggerIndex).Inside startTime endTime := by
  have hsteps : 0 ≤ d * staggerIndex * minute := by unfold minute; positivity
  simp only [BreakRules.breakAt, BreakRules.staggerBreakStart, Break.Inside, if_true] at h ⊢
  split
  · exact h
  · omega

/-- Two breaks stay apart exactly when one of them leaves time for the other. -/
theorem staggered_apart_iff (hd : 0 ≤ d) (hd' : 0 ≤ d')
    (h : (rules.breakAt type (startTime + p) endTime d 0).Inside startTime endTime)
    (h' : (rules.breakAt type' (startTime + p') endTime d' 0).Inside startTime endTime) :
    (rules.breakAt type (startTime + p) endTime d staggerIndex).Apart
        (rules.breakAt type' (startTime + p') endTime d' staggerIndex) ↔
      KeepApart (endTime - startTime) staggerIndex p (d * minute) p' (d' * minute) := by
  obtain ⟨a, ha⟩ : ∃ a, a = d * minute := ⟨_, rfl⟩
  obtain ⟨b, hb⟩ : ∃ b, b = d' * minute := ⟨_, rfl⟩
  obtain ⟨u, hu⟩ : ∃ u, u = staggerIndex * a := ⟨_, rfl⟩
  obtain ⟨v, hv⟩ : ∃ v, v = staggerIndex * b := ⟨_, rfl⟩
  have hsteps : d * staggerIndex * minute = u := by rw [hu, ha]; ring
  have hsteps' : d' * staggerIndex * minute = v := by rw [hv, hb]; ring
  have hnext : (staggerIndex + 1) * a = u + a := by rw [hu]; ring
  have hnext' : (staggerIndex + 1) * b = v + b := by rw [hv]; ring
  have ha_nonneg : 0 ≤ a := by rw [ha]; unfold minute; positivity
  have hb_nonneg : 0 ≤ b := by rw [hb]; unfold minute; positivity
  -- an empty break stays where it is
  have hu_zero : a = 0 → u = 0 := fun hzero => by rw [hu, hzero, mul_zero]
  have hv_zero : b = 0 → v = 0 := fun hzero => by rw [hv, hzero, mul_zero]
  have hu_nonneg : 0 ≤ u := by rw [hu]; positivity
  have hv_nonneg : 0 ≤ v := by rw [hv]; positivity
  simp only [BreakRules.breakAt, BreakRules.staggerBreakStart, Break.Inside, Break.Apart,
    KeepApart, LeavesTime, if_true, hsteps, hsteps', ← ha, ← hb, hnext, hnext', ← hu, ← hv]
    at h h' ⊢
  by_cases hzero : staggerIndex = 0
  · have hu0 : u = 0 := by rw [hu, hzero]; simp
    have hv0 : v = 0 := by rw [hv, hzero]; simp
    simp only [hzero, if_true]
    omega
  · simp only [hzero, if_false]
    omega

end Breaks

/-! ## All breaks of a shift -/

namespace Sample

def runtime : Runtime := .reference fun _ => none

/-- `DEFAULT_RULES`. -/
def defaultRules : BreakRules := ⟨5, 30, 8, 10, 20⟩

theorem defaultRules_accepted : breakCalculator runtime (.dict []) = .ok defaultRules := by
  decide +kernel

end Sample

end LunchLineup.Engine
