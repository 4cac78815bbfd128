import Mathlib.Tactic

/-!
# Spaced times

Times are `Spaced` where from each of them to the one `limit` places on there is at least
a `gap`: what a counter does that stops at `limit` and begins again after the gap.  Then
every interval as long as the gap holds at most `limit` of them (`countP_le`), and `n` gaps
hold at most `n` times as many (`countP_le_mul`).
-/

namespace LunchLineup.Lib

/-- From each time to the one `limit` places on there is a gap. -/
def Spaced (limit : Nat) (gap : Int) (times : List Int) : Prop :=
  ∀ i first later, times[i]? = some first → times[i + limit]? = some later →
    first + gap ≤ later

/-- The times of the interval that begins at `start`. -/
def withinInterval (start length : Int) (time : Int) : Bool :=
  start ≤ time ∧ time < start + length

variable {limit : Nat} {gap start : Int} {times : List Int}

theorem spaced_nil : Spaced limit gap [] := by
  intro i first later hfirst
  simp at hfirst

theorem Spaced.of_cons {time : Int} (h : Spaced limit gap (time :: times)) :
    Spaced limit gap times := by
  intro i first later hfirst hlater
  refine h (i + 1) first later hfirst ?_
  rw [Nat.add_right_comm]
  exact hlater

/-- A time may follow where the one `limit` places before it is a gap away. -/
theorem Spaced.concat {time : Int} (h : Spaced limit gap times) (hpos : 0 < limit)
    (hlast : ∀ first, limit ≤ times.length → times[times.length - limit]? = some first →
      first + gap ≤ time) : Spaced limit gap (times ++ [time]) := by
  intro i first later hfirst hlater
  obtain hinside | hend := Nat.lt_or_ge (i + limit) times.length
  · rw [List.getElem?_append_left hinside] at hlater
    rw [List.getElem?_append_left (by omega)] at hfirst
    exact h i first later hfirst hlater
  · have hplace : i + limit = times.length := by
      by_contra hne
      rw [List.getElem?_eq_none (by simp; omega)] at hlater
      cases hlater
    rw [List.getElem?_append_right hend] at hlater
    obtain rfl : time = later := by simpa [hplace] using hlater
    rw [List.getElem?_append_left (by omega)] at hfirst
    refine hlast first (by omega) ?_
    rw [show times.length - limit = i by omega]
    exact hfirst

/-! ## Intervals -/

theorem countP_withinInterval_eq_zero {length : Int} (h : ∀ time ∈ times, start + length ≤ time) :
    times.countP (withinInterval start length) = 0 := by
  rw [List.countP_eq_zero]
  intro time hmem hwithin
  have := h time hmem
  simp only [withinInterval, decide_eq_true_eq] at hwithin
  omega

/-- An interval as long as the gap holds at most `limit` times. -/
theorem Spaced.countP_le (h : Spaced limit gap times) (hsorted : times.Pairwise (· ≤ ·))
    (start : Int) : times.countP (withinInterval start gap) ≤ limit := by
  induction times with
  | nil => exact Nat.zero_le _
  | cons time rest ih =>
      by_cases hbegun : start ≤ time
      · have hpast : ∀ later ∈ (time :: rest).drop limit, start + gap ≤ later := by
          intro later hlater
          obtain ⟨j, hj⟩ := List.mem_iff_getElem?.mp hlater
          rw [List.getElem?_drop] at hj
          obtain ⟨hlt, rfl⟩ := List.getElem?_eq_some_iff.mp hj
          have hgap := h 0 time (time :: rest)[limit] rfl
            (by rw [Nat.zero_add]; exact List.getElem?_eq_getElem (by omega))
          have hle : (time :: rest)[limit] ≤ (time :: rest)[limit + j] := by
            obtain rfl | hpos := Nat.eq_zero_or_pos j
            · exact le_rfl
            · exact List.pairwise_iff_getElem.mp hsorted _ _ (by omega) hlt (by omega)
          omega
        rw [← List.take_append_drop limit (time :: rest), List.countP_append,
          countP_withinInterval_eq_zero hpast, Nat.add_zero]
        exact List.countP_le_length.trans (List.length_take_le _ _)
      · have hout : ¬ withinInterval start gap time = true := by
          simp only [withinInterval, decide_eq_true_eq]
          omega
        rw [List.countP_cons_of_neg hout]
        exact ih h.of_cons hsorted.of_cons

/-- Times from each of which to the next there is a gap stand in order. -/
theorem Spaced.sorted (h : Spaced 1 gap times) (hgap : 0 ≤ gap) : times.Pairwise (· ≤ ·) := by
  rw [← List.isChain_iff_pairwise, List.isChain_iff_getElem]
  intro i hi
  have hnext := h i _ _ (List.getElem?_eq_getElem (by omega)) (List.getElem?_eq_getElem hi)
  omega

theorem countP_withinInterval_add (length rest : Int) :
    times.countP (withinInterval start (length + rest)) ≤
      times.countP (withinInterval start length) +
        times.countP (withinInterval (start + length) rest) := by
  induction times with
  | nil => exact Nat.zero_le _
  | cons time times ih =>
      simp only [List.countP_cons, withinInterval, decide_eq_true_eq]
      split_ifs <;> omega

/-- As many gaps as there are hold at most `limit` times each. -/
theorem Spaced.countP_le_mul (h : Spaced limit gap times) (hsorted : times.Pairwise (· ≤ ·))
    (start : Int) (n : Nat) : times.countP (withinInterval start (n * gap)) ≤ n * limit := by
  induction n with
  | zero =>
      rw [Nat.zero_mul, Nat.le_zero, List.countP_eq_zero]
      simp [withinInterval]
  | succ n ih =>
      calc times.countP (withinInterval start ((n + 1 : Nat) * gap))
          = times.countP (withinInterval start (n * gap + gap)) := by
            push_cast
            rw [add_mul, one_mul]
        _ ≤ times.countP (withinInterval start (n * gap)) +
              times.countP (withinInterval (start + n * gap) gap) :=
            countP_withinInterval_add _ _
        _ ≤ n * limit + limit := Nat.add_le_add ih (h.countP_le hsorted _)
        _ = (n + 1) * limit := by ring

end LunchLineup.Lib
