import Mathlib.Tactic
import Mathlib.Data.List.Forall2

/-!
# Computations that may be rejected

`Except ε` is the monad of code that validates its input and stops at the
first problem.  A proof about such code peels a successful run apart, one check
at a time; the lemmas here say what each piece of a successful run gives.
-/

namespace LunchLineup.Lib

universe u

variable {ε : Type*} {α β : Type u}

/-- Stop with `error` unless `condition` holds. -/
def ensure (condition : Prop) [Decidable condition] (error : ε) : Except ε Unit :=
  if condition then .ok () else .error error

@[simp] theorem ensure_eq_ok {condition : Prop} [Decidable condition] {error : ε} {u : Unit} :
    ensure condition error = .ok u ↔ condition := by
  unfold ensure
  split <;> simp_all

theorem ensure_of_true {condition : Prop} [Decidable condition] (error : ε) (h : condition) :
    ensure condition error = .ok () := if_pos h

theorem ensure_of_false {condition : Prop} [Decidable condition] (error : ε) (h : ¬ condition) :
    ensure condition error = .error error := if_neg h

theorem ensure_eq_error {condition : Prop} [Decidable condition] {error e : ε} :
    ensure condition error = .error e ↔ ¬ condition ∧ error = e := by
  unfold ensure
  split <;> simp_all

/-- A sequence succeeds exactly when its first part does and the rest does on
its value. -/
theorem bind_eq_ok {x : Except ε α} {f : α → Except ε β} {b : β} :
    (x >>= f) = .ok b ↔ ∃ a, x = .ok a ∧ f a = .ok b := by
  cases x with
  | error e => simp [bind, Except.bind]
  | ok a => simp [bind, Except.bind]

/-- A sequence fails where its first part does, or the rest on its value. -/
theorem bind_eq_error {x : Except ε α} {f : α → Except ε β} {e : ε} :
    (x >>= f) = .error e ↔ x = .error e ∨ ∃ a, x = .ok a ∧ f a = .error e := by
  cases x with
  | error e' => simp [bind, Except.bind]
  | ok a => simp [bind, Except.bind]

@[simp] theorem ok_bind (a : α) (f : α → Except ε β) : (Except.ok a >>= f) = f a := rfl

@[simp] theorem error_bind (e : ε) (f : α → Except ε β) :
    (Except.error e >>= f) = .error e := rfl

@[simp] theorem pure_eq_ok (a : α) : (pure a : Except ε α) = .ok a := rfl

theorem map_eq_ok {γ δ : Type*} {x : Except ε γ} {f : γ → δ} {b : δ} :
    x.map f = .ok b ↔ ∃ a, x = .ok a ∧ f a = b := by
  cases x with
  | error e => simp [Except.map]
  | ok a => simp [Except.map]

theorem mapError_eq_ok {γ δ : Type*} {x : Except ε γ} {f : ε → δ} {a : γ} :
    x.mapError f = .ok a ↔ x = .ok a := by
  cases x with
  | error e => simp [Except.mapError]
  | ok b => simp [Except.mapError]

theorem mapM_eq_ok {f : α → Except ε β} {l : List α} {out : List β} :
    l.mapM f = .ok out ↔ List.Forall₂ (fun a b => f a = .ok b) l out := by
  induction l generalizing out with
  | nil => simp [eq_comm]
  | cons a rest ih =>
      rw [List.mapM_cons, bind_eq_ok]
      constructor
      · rintro ⟨b, hb, hrest⟩
        obtain ⟨bs, hbs, hout⟩ := bind_eq_ok.mp hrest
        rw [pure_eq_ok, Except.ok.injEq] at hout
        subst hout
        exact .cons hb (ih.mp hbs)
      · rintro (_ | ⟨hb, hbs⟩)
        exact ⟨_, hb, bind_eq_ok.mpr ⟨_, ih.mpr hbs, rfl⟩⟩

/-- An entry of the first list has a partner in the second. -/
theorem exists_right_of_forall₂ {γ δ : Type*} {R : γ → δ → Prop} {l : List γ} {out : List δ}
    (h : List.Forall₂ R l out) {a : γ} (ha : a ∈ l) : ∃ b ∈ out, R a b := by
  induction h with
  | nil => simp at ha
  | cons hb _ ih =>
      rcases List.mem_cons.mp ha with rfl | ha
      · exact ⟨_, by simp, hb⟩
      · obtain ⟨c, hc, heq⟩ := ih ha
        exact ⟨c, by simp [hc], heq⟩

/-- An entry of the second list has a partner in the first. -/
theorem exists_left_of_forall₂ {γ δ : Type*} {R : γ → δ → Prop} {l : List γ} {out : List δ}
    (h : List.Forall₂ R l out) {b : δ} (hb : b ∈ out) : ∃ a ∈ l, R a b :=
  exists_right_of_forall₂ h.flip hb

theorem map_eq_of_forall₂ {γ δ ζ : Type*} {R : γ → δ → Prop} {f : γ → ζ} {g : δ → ζ} {l : List γ}
    {out : List δ} (h : List.Forall₂ R l out) (heq : ∀ {a b}, R a b → f a = g b) :
    l.map f = out.map g := by
  induction h with
  | nil => rfl
  | cons hfirst _ ih => rw [List.map_cons, List.map_cons, heq hfirst, ih]

/-- What holds of every two entries of the first list carries over to their
partners. -/
theorem pairwise_of_forall₂ {γ δ : Type*} {R : γ → δ → Prop} {S : γ → γ → Prop} {T : δ → δ → Prop}
    {l : List γ} {out : List δ} (h : List.Forall₂ R l out) (hpairwise : l.Pairwise S)
    (hcarry : ∀ {a b c d}, R a c → R b d → S a b → T c d) : out.Pairwise T := by
  induction h with
  | nil => exact .nil
  | cons hfirst hrest ih =>
      rw [List.pairwise_cons] at hpairwise ⊢
      refine ⟨?_, ih hpairwise.2⟩
      intro d hd
      obtain ⟨b, hb, hpartner⟩ := exists_left_of_forall₂ hrest hd
      exact hcarry hfirst hpartner (hpairwise.1 b hb)

/-- Each input of a successful `mapM` has its value in the output. -/
theorem exists_of_mapM_ok {f : α → Except ε β} {l : List α} {out : List β}
    (h : l.mapM f = .ok out) {a : α} (ha : a ∈ l) : ∃ b ∈ out, f a = .ok b :=
  exists_right_of_forall₂ (mapM_eq_ok.mp h) ha

/-- Each output of a successful `mapM` is the value of one of its inputs. -/
theorem exists_input_of_mapM_ok {f : α → Except ε β} {l : List α} {out : List β}
    (h : l.mapM f = .ok out) {b : β} (hb : b ∈ out) : ∃ a ∈ l, f a = .ok b :=
  exists_left_of_forall₂ (mapM_eq_ok.mp h) hb

/-- Run a check over every entry of a list, in order. -/
def checkAll (l : List α) (check : α → Except ε Unit) : Except ε Unit :=
  match l with
  | [] => .ok ()
  | a :: rest => do
      check a
      checkAll rest check

/-- A check over a list passes exactly when it passes on every entry. -/
theorem checkAll_eq_ok {check : α → Except ε Unit} {l : List α} {u : Unit} :
    checkAll l check = .ok u ↔ ∀ a ∈ l, check a = .ok () := by
  induction l with
  | nil => simp [checkAll]
  | cons a rest ih =>
      cases hcheck : check a with
      | error e => simp [checkAll, hcheck, bind, Except.bind]
      | ok value => simpa [checkAll, hcheck, bind, Except.bind] using ih

/-- A check over a list depends on what it says of each entry. -/
theorem checkAll_congr {l : List α} {first second : α → Except ε Unit}
    (h : ∀ a ∈ l, first a = second a) : checkAll l first = checkAll l second := by
  induction l with
  | nil => rfl
  | cons a rest ih =>
      simp only [checkAll, h a List.mem_cons_self,
        ih fun other hother => h other (List.mem_cons_of_mem _ hother)]

end LunchLineup.Lib
