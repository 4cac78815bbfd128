import Mathlib.Tactic

/-!
# A clock whose offset changes

A clock reads `s + offset s` at the second `s`.  To find a second at which it
reads `target` one starts at `target` and corrects: from `s` one goes to
`target - offset s`.  A second that reads the target is a fixed point of the
correction, and there are no others.

With one change of the offset around the target, two corrections find a second
that reads it if there is one (`reading_correct_twice`), and the seconds found
for two targets are in the order of the targets (`correct_twice_lt`).
-/

namespace LunchLineup.Lib

variable {offset : Int → Int} {target bound : Int}

/-- What the clock reads. -/
def reading (offset : Int → Int) (s : Int) : Int := s + offset s

/-- One correction towards the target. -/
def correct (offset : Int → Int) (target s : Int) : Int := target - offset s

theorem correct_eq_self_iff {s : Int} : correct offset target s = s ↔ reading offset s = target := by
  unfold correct reading
  omega

/-- Corrections do not leave a second that reads the target. -/
theorem iterate_correct_of_reading {s : Int} (h : reading offset s = target) (n : Nat) :
    (correct offset target)^[n] s = s :=
  Function.iterate_fixed (correct_eq_self_iff.mpr h) n

/-- A correction ends within the bound of the offsets. -/
theorem abs_correct_sub_le (hbound : ∀ s, |offset s| ≤ bound) (target s : Int) :
    |correct offset target s - target| ≤ bound := by
  have h := hbound s
  rwa [correct, sub_sub_cancel_left, abs_neg]

/-- So does any number of corrections of the target. -/
theorem abs_iterate_correct_sub_le (hbound : ∀ s, |offset s| ≤ bound) (target : Int) (n : Nat) :
    |(correct offset target)^[n] target - target| ≤ bound := by
  cases n with
  | zero =>
      have h := (abs_nonneg _).trans (hbound 0)
      simpa using h
  | succ n =>
      rw [Function.iterate_succ_apply']
      exact abs_correct_sub_le hbound _ _

/-- Seconds that read targets far enough apart are in the order of the targets. -/
theorem lt_of_reading {s s' target' : Int} (hbound : ∀ s, |offset s| ≤ bound)
    (h : reading offset s = target) (h' : reading offset s' = target')
    (hfar : target + 2 * bound < target') : s < s' := by
  have hs := abs_le.mp (hbound s)
  have hs' := abs_le.mp (hbound s')
  unfold reading at h h'
  omega

/-! ## One change -/

/-- The offset changes at most once from `lo` to `hi`. -/
def OneChange (offset : Int → Int) (lo hi : Int) : Prop :=
  ∃ change before after, ∀ s, lo ≤ s → s ≤ hi → offset s = if s < change then before else after

section OneChange

variable {lo hi : Int}

/-- Two corrections find a second that reads the target, if there is one. -/
theorem reading_correct_twice (hchange : OneChange offset lo hi) (hbound : ∀ s, |offset s| ≤ bound)
    (hlo : lo ≤ target - bound) (hhi : target + bound ≤ hi) (h : ∃ s, reading offset s = target) :
    reading offset (correct offset target (correct offset target target)) = target := by
  obtain ⟨change, before, after, hoffset⟩ := hchange
  obtain ⟨s, hs⟩ := h
  have hnear : ∀ s, lo ≤ correct offset target s ∧ correct offset target s ≤ hi := by
    intro s
    have := abs_le.mp (abs_correct_sub_le hbound target s)
    omega
  have hself : correct offset target s = s := correct_eq_self_iff.mpr hs
  have hnonneg := (abs_nonneg _).trans (hbound 0)
  have hs' := hoffset s (hself ▸ (hnear s).1) (hself ▸ (hnear s).2)
  have hfirst := hoffset target (by omega) (by omega)
  have hsecond := hoffset (correct offset target target) (hnear _).1 (hnear _).2
  have hthird := hoffset (correct offset target (correct offset target target)) (hnear _).1
    (hnear _).2
  unfold reading correct at *
  -- where the target, the two corrections and the second found lie of the change
  split_ifs at * <;> omega

/-- The seconds found for two targets are in the order of the targets. -/
theorem correct_twice_lt {target' : Int} (hchange : OneChange offset lo hi)
    (hbound : ∀ s, |offset s| ≤ bound) (hlt : target < target') (hlo : lo ≤ target - bound)
    (hhi : target' + bound ≤ hi)
    (h : reading offset (correct offset target (correct offset target target)) = target)
    (h' : reading offset (correct offset target' (correct offset target' target')) = target') :
    correct offset target (correct offset target target) <
      correct offset target' (correct offset target' target') := by
  obtain ⟨change, before, after, hoffset⟩ := hchange
  have hnear : ∀ s, lo ≤ correct offset target s ∧ correct offset target s ≤ hi := by
    intro s
    have := abs_le.mp (abs_correct_sub_le hbound target s)
    omega
  have hnear' : ∀ s, lo ≤ correct offset target' s ∧ correct offset target' s ≤ hi := by
    intro s
    have := abs_le.mp (abs_correct_sub_le hbound target' s)
    omega
  have hnonneg := (abs_nonneg _).trans (hbound 0)
  have h₁ := hoffset target (by omega) (by omega)
  have h₂ := hoffset (correct offset target target) (hnear _).1 (hnear _).2
  have h₃ := hoffset _ (hnear (correct offset target target)).1
    (hnear (correct offset target target)).2
  have h₁' := hoffset target' (by omega) (by omega)
  have h₂' := hoffset (correct offset target' target') (hnear' _).1 (hnear' _).2
  have h₃' := hoffset _ (hnear' (correct offset target' target')).1
    (hnear' (correct offset target' target')).2
  unfold reading correct at *
  split_ifs at * <;> omega

end OneChange

end LunchLineup.Lib
