import Mathlib.Data.List.Range
import LunchLineup.Lib.Table

/-!
# Attempts under idempotency keys

A caller numbers its attempts to create a resource at a provider and sends the
number as the idempotency key.  The provider keeps the response to each key and
repeats it, so that a repeated attempt creates nothing.

`Sequential` is what makes the attempts safe: they are numbered without gaps in
the order of creation, and only the last of them is still active.  A caller keeps
it by starting an attempt only when `MayCreate` allows its number, which it does
when the attempt before is known to be over (`MayCreate.next`), and which stays
true whatever else happens, so that calls may be repeated and may arrive late.
-/

namespace LunchLineup.Lib

variable {Resource : Type*}

/-- What the provider keeps for a key: the response it repeats, and the resource
as it is now. -/
structure Attempt (Resource : Type*) where
  number : Int
  response : Resource
  current : Resource
  deriving DecidableEq

namespace Attempt

/-- The answer to a creation under a key; `new` is the resource the provider would
make. -/
def create (attempts : List (Attempt Resource)) (number : Int) (new : Resource) :
    Resource × List (Attempt Resource) :=
  match attempts.find? (·.number = number) with
  | some attempt => (attempt.response, attempts)
  | none => (new, attempts ++ [⟨number, new, new⟩])

/-- Some resources change at the provider. -/
def settle (attempts : List (Attempt Resource)) (p : Resource → Bool) (f : Resource → Resource) :
    List (Attempt Resource) :=
  attempts.map fun attempt =>
    if p attempt.current then { attempt with current := f attempt.current } else attempt

variable (Active : Resource → Prop)

/-- Attempts are numbered in the order of creation and only the last is active. -/
structure Sequential (attempts : List (Attempt Resource)) : Prop where
  numbers : attempts.map (·.number) = (List.range attempts.length).map fun n : Nat => (n : Int)
  last : ∀ attempt ∈ attempts, Active attempt.current → attempt.number + 1 = attempts.length

/-- A creation with this number keeps the attempts sequential: it repeats one, or
it is the next one and all others are over. -/
def MayCreate (attempts : List (Attempt Resource)) (number : Int) : Prop :=
  (∃ attempt ∈ attempts, attempt.number = number) ∨
    (number = attempts.length ∧ ∀ attempt ∈ attempts, ¬ Active attempt.current)

variable {Active} {attempts : List (Attempt Resource)}

theorem Sequential.nil : Sequential Active ([] : List (Attempt Resource)) := ⟨rfl, by simp⟩

theorem Sequential.nodup (h : Sequential Active attempts) : (attempts.map (·.number)).Nodup := by
  rw [h.numbers]
  exact List.nodup_range.map Nat.cast_injective

theorem Sequential.mem_numbers (h : Sequential Active attempts) {number : Int} :
    (∃ attempt ∈ attempts, attempt.number = number) ↔ 0 ≤ number ∧ number < attempts.length := by
  have hmem : (∃ attempt ∈ attempts, attempt.number = number) ↔
      number ∈ attempts.map (·.number) := by simp
  rw [hmem, h.numbers, List.mem_map]
  constructor
  · rintro ⟨n, hn, rfl⟩
    rw [List.mem_range] at hn
    omega
  · intro hrange
    refine ⟨number.toNat, ?_, ?_⟩
    · rw [List.mem_range]
      omega
    · omega

/-- At most one attempt is active. -/
theorem Sequential.length_active_le_one [DecidablePred Active] (h : Sequential Active attempts) :
    (attempts.filter fun attempt => Active attempt.current).length ≤ 1 := by
  apply length_le_one_of_eq ((List.Nodup.of_map _ h.nodup).filter _)
  intro first hfirst second hsecond
  simp only [List.mem_filter, decide_eq_true_eq] at hfirst hsecond
  have hfirst_last := h.last first hfirst.1 hfirst.2
  have hsecond_last := h.last second hsecond.1 hsecond.2
  exact eq_of_key h.nodup hfirst.1 hsecond.1 (by omega)

/-! ## Starting attempts -/

/-- The first attempt may always be made. -/
theorem MayCreate.first (h : Sequential Active attempts) : MayCreate Active attempts 0 := by
  cases attempts with
  | nil => exact .inr ⟨rfl, by simp⟩
  | cons attempt rest =>
      refine .inl (h.mem_numbers.mpr ⟨le_rfl, ?_⟩)
      rw [List.length_cons]
      omega

/-- The attempt after one that is over may be made. -/
theorem MayCreate.next (h : Sequential Active attempts) {attempt : Attempt Resource}
    (hmem : attempt ∈ attempts) (hover : ¬ Active attempt.current) :
    MayCreate Active attempts (attempt.number + 1) := by
  obtain ⟨hnonneg, hlt⟩ := h.mem_numbers.mp ⟨attempt, hmem, rfl⟩
  by_cases hlast : attempt.number + 1 = attempts.length
  · refine .inr ⟨hlast, ?_⟩
    intro other hother hactive
    have hother_last := h.last other hother hactive
    have hsame : other = attempt :=
      eq_of_key h.nodup hother hmem (by omega)
    rw [hsame] at hactive
    exact hover hactive
  · exact .inl (h.mem_numbers.mpr ⟨by omega, by omega⟩)

theorem create_of_mem {number : Int} {new : Resource}
    (h : ∃ attempt ∈ attempts, attempt.number = number) : (create attempts number new).2 = attempts := by
  unfold create
  split
  · rfl
  · rename_i hnone
    obtain ⟨attempt, hmem, hnumber⟩ := h
    have hne := List.find?_eq_none.mp hnone attempt hmem
    simp [hnumber] at hne

theorem create_of_not_mem {number : Int} {new : Resource}
    (h : ¬ ∃ attempt ∈ attempts, attempt.number = number) :
    create attempts number new = (new, attempts ++ [⟨number, new, new⟩]) := by
  unfold create
  split
  · rename_i attempt hfind
    have hnumber := List.find?_some hfind
    exact absurd ⟨attempt, List.mem_of_find?_eq_some hfind, of_decide_eq_true hnumber⟩ h
  · rfl

/-- The response is the first response to the key. -/
theorem exists_response_create (attempts : List (Attempt Resource)) (number : Int)
    (new : Resource) : ∃ attempt ∈ (create attempts number new).2, attempt.number = number ∧
      attempt.response = (create attempts number new).1 := by
  unfold create
  split
  · rename_i attempt hfind
    have hnumber := List.find?_some hfind
    exact ⟨attempt, List.mem_of_find?_eq_some hfind, of_decide_eq_true hnumber, rfl⟩
  · exact ⟨⟨number, new, new⟩, by simp, rfl, rfl⟩

theorem Sequential.create (h : Sequential Active attempts) {number : Int} (new : Resource)
    (hmay : MayCreate Active attempts number) :
    Sequential Active (create attempts number new).2 := by
  by_cases hmem : ∃ attempt ∈ attempts, attempt.number = number
  · rw [create_of_mem hmem]
    exact h
  · rcases hmay with hold | ⟨hnext, hover⟩
    · exact absurd hold hmem
    rw [create_of_not_mem hmem]
    constructor
    · simp only [List.map_append, List.map_cons, List.map_nil, List.length_append,
        List.length_cons, List.length_nil, List.range_succ, h.numbers, hnext]
    · intro attempt hattempt hactive
      rcases List.mem_append.mp hattempt with hold | hlast
      · exact absurd hactive (hover attempt hold)
      · rw [List.mem_singleton.mp hlast, List.length_append, List.length_singleton]
        push_cast
        omega

/-- A number that may be used may be used later as well. -/
theorem MayCreate.create {number other : Int} (new : Resource)
    (hmay : MayCreate Active attempts number) (hother : MayCreate Active attempts other) :
    MayCreate Active (create attempts other new).2 number := by
  by_cases hmem : ∃ attempt ∈ attempts, attempt.number = other
  · rw [create_of_mem hmem]
    exact hmay
  · rcases hother with hold | ⟨hnext, _⟩
    · exact absurd hold hmem
    rw [create_of_not_mem hmem]
    rcases hmay with ⟨attempt, hattempt, hnumber⟩ | ⟨hsame, _⟩
    · exact .inl ⟨attempt, List.mem_append_left _ hattempt, hnumber⟩
    · exact .inl ⟨⟨other, new, new⟩, by simp, by simp [hnext, hsame]⟩

/-! ## Changes at the provider -/

section Settle

variable {p : Resource → Bool} {f : Resource → Resource}

theorem mem_settle {attempt : Attempt Resource} (h : attempt ∈ settle attempts p f) :
    ∃ old ∈ attempts, old.number = attempt.number ∧ old.response = attempt.response ∧
      (attempt.current = old.current ∨
        (p old.current = true ∧ attempt.current = f old.current)) := by
  obtain ⟨old, hold, rfl⟩ := List.mem_map.mp h
  refine ⟨old, hold, ?_⟩
  split
  · rename_i hp
    exact ⟨rfl, rfl, .inr ⟨hp, rfl⟩⟩
  · exact ⟨rfl, rfl, .inl rfl⟩

theorem numbers_settle : (settle attempts p f).map (·.number) = attempts.map (·.number) := by
  rw [settle, List.map_map]
  apply List.map_congr_left
  intro attempt _
  rw [Function.comp_apply]
  split
  · rfl
  · rfl

/-- What is over stays over. -/
theorem Sequential.settle (h : Sequential Active attempts)
    (hover : ∀ attempt ∈ attempts, p attempt.current = true → Active (f attempt.current) →
      Active attempt.current) : Sequential Active (settle attempts p f) := by
  have hlength : (Attempt.settle attempts p f).length = attempts.length := List.length_map _
  constructor
  · rw [numbers_settle, hlength]
    exact h.numbers
  · intro attempt hattempt hactive
    obtain ⟨old, hold, hnumber, _, hcurrent⟩ := mem_settle hattempt
    rw [hlength, ← hnumber]
    apply h.last old hold
    rcases hcurrent with hsame | ⟨hp, hchanged⟩
    · rw [← hsame]
      exact hactive
    · rw [hchanged] at hactive
      exact hover old hold hp hactive

theorem MayCreate.settle {number : Int} (hmay : MayCreate Active attempts number)
    (hover : ∀ attempt ∈ attempts, p attempt.current = true → Active (f attempt.current) →
      Active attempt.current) : MayCreate Active (settle attempts p f) number := by
  rcases hmay with ⟨attempt, hattempt, hnumber⟩ | ⟨hnext, hall⟩
  · refine .inl ?_
    have hmem : number ∈ (Attempt.settle attempts p f).map (·.number) := by
      rw [numbers_settle]
      exact List.mem_map.mpr ⟨attempt, hattempt, hnumber⟩
    exact List.mem_map.mp hmem
  · refine .inr ⟨?_, ?_⟩
    · rw [hnext, Attempt.settle, List.length_map]
    · intro attempt hattempt hactive
      obtain ⟨old, hold, _, _, hcurrent⟩ := mem_settle hattempt
      rcases hcurrent with hsame | ⟨hp, hchanged⟩
      · rw [hsame] at hactive
        exact hall old hold hactive
      · rw [hchanged] at hactive
        exact hall old hold (hover old hold hp hactive)

end Settle

end Attempt

end LunchLineup.Lib
