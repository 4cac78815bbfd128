import Mathlib.Tactic
import Mathlib.Algebra.BigOperators.Group.List.Basic
import Mathlib.Algebra.Order.BigOperators.Group.List

/-!
# Linear models over bounded integer variables

The part of a constraint programming library that a program sees: variables
with bounds, linear constraints, a linear objective, and a solver that is asked
for an assignment within a time limit.  A `CpSolver` carries the only fact a
caller may rely on, that an assignment it returns satisfies the model; it may
give up, and it need not be optimal.
-/

namespace LunchLineup.Lib

universe u

variable {ν : Type u}

/-- A linear expression: a weighted sum of variables and a constant. -/
structure LinearExpr (ν : Type u) where
  terms : List (Int × ν)
  constant : Int

namespace LinearExpr

/-- A constant. -/
def const (constant : Int) : LinearExpr ν := ⟨[], constant⟩

/-- One variable. -/
def var (x : ν) : LinearExpr ν := ⟨[(1, x)], 0⟩

/-- `sum(vars)`. -/
def sum (vars : List ν) : LinearExpr ν := ⟨vars.map fun x => (1, x), 0⟩

/-- The value under an assignment. -/
def eval (σ : ν → Int) (e : LinearExpr ν) : Int :=
  (e.terms.map fun term => term.1 * σ term.2).sum + e.constant

@[simp] theorem eval_const (σ : ν → Int) (constant : Int) :
    (const constant : LinearExpr ν).eval σ = constant := by
  simp [eval, const]

@[simp] theorem eval_var (σ : ν → Int) (x : ν) : (var x).eval σ = σ x := by
  simp [eval, var]

end LinearExpr

/-- A constraint between two linear expressions. -/
inductive LinearConstraint (ν : Type u)
  | le (left right : LinearExpr ν)
  | ge (left right : LinearExpr ν)
  | eq (left right : LinearExpr ν)

/-- The constraint holds under an assignment. -/
def LinearConstraint.Holds (σ : ν → Int) : LinearConstraint ν → Prop
  | .le left right => left.eval σ ≤ right.eval σ
  | .ge left right => right.eval σ ≤ left.eval σ
  | .eq left right => left.eval σ = right.eval σ

instance (σ : ν → Int) (c : LinearConstraint ν) : Decidable (c.Holds σ) :=
  match c with
  | .le left right => inferInstanceAs (Decidable (left.eval σ ≤ right.eval σ))
  | .ge left right => inferInstanceAs (Decidable (right.eval σ ≤ left.eval σ))
  | .eq left right => inferInstanceAs (Decidable (left.eval σ = right.eval σ))

/-- A variable with the bounds of its domain. -/
structure BoundedVar (ν : Type u) where
  name : ν
  lower : Int
  upper : Int

/-- `NewBoolVar`. -/
def boolVar (name : ν) : BoundedVar ν := ⟨name, 0, 1⟩

/-- A model: its variables, its constraints and the objective to minimise. -/
structure CpModel (ν : Type u) where
  vars : List (BoundedVar ν)
  constraints : List (LinearConstraint ν)
  objective : LinearExpr ν

namespace CpModel

/-- The assignment is in the domains and satisfies the constraints. -/
def Satisfies (model : CpModel ν) (σ : ν → Int) : Prop :=
  (∀ v ∈ model.vars, v.lower ≤ σ v.name ∧ σ v.name ≤ v.upper) ∧
    ∀ c ∈ model.constraints, c.Holds σ

instance (model : CpModel ν) (σ : ν → Int) : Decidable (model.Satisfies σ) :=
  inferInstanceAs (Decidable (_ ∧ _))

end CpModel

/-- What a solver reports. -/
inductive CpOutcome (ν : Type u)
  | solution (σ : ν → Int)
  | unknown
  | infeasible

/-- A solver whose assignments satisfy the model. -/
structure CpSolver (ν : Type u) where
  solve : CpModel ν → ℚ → CpOutcome ν
  sound : ∀ model limit σ, solve model limit = .solution σ → model.Satisfies σ

namespace CpSolver

/-- The solver that tries one assignment. -/
def candidate (σ : ν → Int) : CpSolver ν where
  solve model _ := if model.Satisfies σ then .solution σ else .unknown
  sound := by
    intro model limit other h
    by_cases hsat : model.Satisfies σ
    · rw [if_pos hsat] at h
      cases h
      exact hsat
    · rw [if_neg hsat] at h
      cases h

end CpSolver

/-! ## Sums over distinct entries -/

/-- A sum over distinct entries that is zero at all but one of them. -/
theorem sum_map_ite_of_nodup {κ M : Type*} [DecidableEq κ] [AddCommMonoid M] {l : List κ}
    (hnodup : l.Nodup) (k : κ) (value : M) :
    (l.map fun other => if other = k then value else 0).sum = if k ∈ l then value else 0 := by
  induction l with
  | nil => simp
  | cons other rest ih =>
      rw [List.nodup_cons] at hnodup
      rw [List.map_cons, List.sum_cons, ih hnodup.2]
      by_cases hsame : other = k
      · subst hsame
        simp [hnodup.1]
      · simp [hsame, Ne.symm hsame]

end LunchLineup.Lib
