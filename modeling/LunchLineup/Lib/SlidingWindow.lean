import Mathlib.Tactic

/-!
# Sliding windows with blocks

A limiter answers calls one after the other, each with admission or refusal.  It
refuses a call while a block lasts and where the calls that it admitted in the window
before the call are as many as the limit; a refusal outside of a block begins one.

An answer list `Follows` the limiter if each answer is the one that the limiter gives
after the answers before it.  Then no window holds more admitted calls than the limit
(`Follows.bounded`), a block that begins is kept (`Follows.blocks`), and whoever
stays below the limit is admitted (`Follows.admits`).
-/

namespace LunchLineup.Lib

/-- A call at a time and its answer. -/
structure Outcome where
  time : Int
  refused : Bool
  deriving DecidableEq

/-- The length of the window, how many calls it may hold, and how long a block lasts. -/
structure Limits where
  window : Int
  limit : Int
  block : Int

namespace Limits

variable (limits : Limits)

/-- When the last block of a history ends. -/
def blockEnd (history : List Outcome) : Int :=
  history.foldl (fun ends o => if o.refused ∧ ends ≤ o.time then o.time + limits.block else ends) 0

/-- The calls admitted after a time. -/
def admittedAfter (history : List Outcome) (time : Int) : Nat :=
  history.countP fun o => !o.refused && decide (time < o.time)

/-- The answer to a call after a history. -/
def refuses (history : List Outcome) (now : Int) : Bool :=
  now < limits.blockEnd history || limits.limit ≤ admittedAfter history (now - limits.window)

/-- Calls at times in order, each with the answer of the limiter. -/
structure Follows (outcomes : List Outcome) : Prop where
  ordered : outcomes.Pairwise fun o p => o.time ≤ p.time
  answers : ∀ earlier o later, outcomes = earlier ++ o :: later →
    o.refused = limits.refuses earlier o.time

/-! ## Blocks -/

@[simp] theorem blockEnd_nil : limits.blockEnd [] = 0 := rfl

theorem blockEnd_concat (history : List Outcome) (o : Outcome) :
    limits.blockEnd (history ++ [o]) =
      if o.refused ∧ limits.blockEnd history ≤ o.time then o.time + limits.block
      else limits.blockEnd history :=
  List.foldl_append

variable {limits}

theorem blockEnd_le_concat (hblock : 0 ≤ limits.block) (history : List Outcome) (o : Outcome) :
    limits.blockEnd history ≤ limits.blockEnd (history ++ [o]) := by
  rw [blockEnd_concat]
  split_ifs with hbegins
  · have := hbegins.2
    omega
  · exact le_rfl

/-- A block does not end earlier because of later calls. -/
theorem blockEnd_le_append (hblock : 0 ≤ limits.block) (history later : List Outcome) :
    limits.blockEnd history ≤ limits.blockEnd (history ++ later) := by
  induction later using List.reverseRecOn with
  | nil => rw [List.append_nil]
  | append_singleton later o ih =>
      rw [← List.append_assoc]
      exact ih.trans (blockEnd_le_concat hblock _ o)

theorem blockEnd_le {history : List Outcome} {time : Int} (hblock : 0 ≤ limits.block)
    (htime : 0 ≤ time) (h : ∀ o ∈ history, o.time ≤ time) :
    limits.blockEnd history ≤ time + limits.block := by
  induction history using List.reverseRecOn with
  | nil =>
      rw [blockEnd_nil]
      omega
  | append_singleton history o ih =>
      rw [blockEnd_concat]
      split_ifs with hbegins
      · have := h o (by simp)
        omega
      · exact ih fun p hp => h p (List.mem_append_left _ hp)

/-! ## Windows -/

theorem admittedAfter_concat (history : List Outcome) (o : Outcome) (time : Int) :
    admittedAfter (history ++ [o]) time =
      admittedAfter history time + if o.refused = false ∧ time < o.time then 1 else 0 := by
  rw [admittedAfter, List.countP_append, List.countP_singleton, admittedAfter]
  cases o.refused <;> simp

/-- The admitted calls of a window. -/
def admittedWithin (history : List Outcome) (start stop : Int) : Nat :=
  history.countP fun o => !o.refused && (decide (start ≤ o.time) && decide (o.time < stop))

theorem admittedWithin_concat (history : List Outcome) (o : Outcome) (start stop : Int) :
    admittedWithin (history ++ [o]) start stop = admittedWithin history start stop +
      if o.refused = false ∧ start ≤ o.time ∧ o.time < stop then 1 else 0 := by
  rw [admittedWithin, List.countP_append, List.countP_singleton, admittedWithin]
  cases o.refused <;> simp

theorem admittedWithin_le {history : List Outcome} {start stop time : Int} (h : time < start) :
    admittedWithin history start stop ≤ admittedAfter history time := by
  apply List.countP_mono_left
  intro o _ hwithin
  simp only [Bool.and_eq_true, Bool.not_eq_true', decide_eq_true_eq] at hwithin ⊢
  exact ⟨hwithin.1, by omega⟩

/-! ## Histories -/

variable {outcomes : List Outcome}

theorem Follows.of_concat {o : Outcome} (h : limits.Follows (outcomes ++ [o])) :
    limits.Follows outcomes := by
  refine ⟨(List.pairwise_append.mp h.ordered).1, fun earlier p later heq => ?_⟩
  apply h.answers earlier p (later ++ [o])
  rw [heq, List.append_assoc, List.cons_append]

theorem Follows.last {o : Outcome} (h : limits.Follows (outcomes ++ [o])) :
    o.refused = limits.refuses outcomes o.time := h.answers outcomes o [] rfl

theorem follows_nil : limits.Follows [] :=
  ⟨List.Pairwise.nil, fun earlier o later heq => absurd heq.symm (by simp)⟩

theorem Follows.concat {o : Outcome} (h : limits.Follows outcomes)
    (htime : ∀ p ∈ outcomes, p.time ≤ o.time) (ho : o.refused = limits.refuses outcomes o.time) :
    limits.Follows (outcomes ++ [o]) := by
  refine ⟨?_, fun earlier p later heq => ?_⟩
  · rw [List.pairwise_append]
    refine ⟨h.ordered, List.pairwise_singleton _ _, fun p hp q hq => ?_⟩
    rw [List.mem_singleton.mp hq]
    exact htime p hp
  · rcases List.eq_nil_or_concat later with rfl | ⟨later, last, rfl⟩
    · obtain ⟨rfl, hlast⟩ := List.append_inj' heq rfl
      obtain rfl := List.head_eq_of_cons_eq hlast
      exact ho
    · rw [List.concat_eq_append, ← List.cons_append, ← List.append_assoc] at heq
      obtain ⟨hearlier, -⟩ := List.append_inj' heq rfl
      exact h.answers earlier p later hearlier

/-- No window holds more admitted calls than the limit. -/
theorem Follows.bounded (hlimit : 0 ≤ limits.limit) (h : limits.Follows outcomes) (start : Int) :
    admittedWithin outcomes start (start + limits.window) ≤ limits.limit := by
  induction outcomes using List.reverseRecOn with
  | nil => exact hlimit
  | append_singleton outcomes o ih =>
      rw [admittedWithin_concat]
      split_ifs with hwithin
      · -- the calls before it in this window are in the window before it
        obtain ⟨hadmitted, hstart, hstop⟩ := hwithin
        have hanswer := h.last
        rw [hadmitted] at hanswer
        have hbelow := (Bool.or_eq_false_iff.mp hanswer.symm).2
        rw [decide_eq_false_iff_not] at hbelow
        have hle : admittedWithin outcomes start (start + limits.window) ≤
            admittedAfter outcomes (o.time - limits.window) := admittedWithin_le (by omega)
        push_cast
        omega
      · exact ih h.of_concat

/-- A refusal outside of a block begins one, and until its end all calls are refused. -/
theorem Follows.blocks (hblock : 0 ≤ limits.block) (h : limits.Follows outcomes)
    {earlier later : List Outcome} {o : Outcome} (heq : outcomes = earlier ++ o :: later)
    (hrefused : o.refused) (hfree : limits.blockEnd earlier ≤ o.time) {p : Outcome}
    (hp : p ∈ later) (htime : p.time < o.time + limits.block) : p.refused := by
  obtain ⟨between, rest, rfl⟩ := List.append_of_mem hp
  have hanswer := h.answers (earlier ++ [o] ++ between) p rest (by simp [heq])
  have hbegins : limits.blockEnd (earlier ++ [o]) = o.time + limits.block := by
    rw [blockEnd_concat, if_pos ⟨hrefused, hfree⟩]
  have hle := blockEnd_le_append hblock (earlier ++ [o]) between
  rw [hanswer, refuses, Bool.or_eq_true, decide_eq_true_eq]
  exact .inl (by omega)

/-- Outside of a block, a call after fewer admitted calls than the limit is admitted. -/
theorem Follows.admits (h : limits.Follows outcomes) {earlier later : List Outcome} {o : Outcome}
    (heq : outcomes = earlier ++ o :: later) (hfree : limits.blockEnd earlier ≤ o.time)
    (hbelow : admittedAfter earlier (o.time - limits.window) < limits.limit) : o.refused = false := by
  rw [h.answers earlier o later heq, refuses, Bool.or_eq_false_iff, decide_eq_false_iff_not,
    decide_eq_false_iff_not]
  exact ⟨not_lt.mpr hfree, not_le.mpr hbelow⟩

end Limits

end LunchLineup.Lib
