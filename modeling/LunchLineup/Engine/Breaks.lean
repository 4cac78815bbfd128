import LunchLineup.Python.Clock

/-!
# Break placement

`BreakCalculator` of the engine: the labor rules of a tenant, and the breaks of
a shift.  A shift that reaches the second threshold gets a rest, a lunch and
another rest at its quarters; one that reaches only the first gets a lunch at
its midpoint.  People with the same span are staggered: each one's breaks start
one break length after those of the one before, but not so late that a break
would run past the end of the shift.
-/

namespace LunchLineup.Engine

open LunchLineup.Lib LunchLineup.Python

/-- The normalised `break_rules`. -/
structure BreakRules where
  minShiftForBreak : ℚ
  breakDuration : ℚ
  minShiftForSecondBreak : ℚ
  secondBreakDuration : ℚ
  paidBreakThreshold : ℚ
  deriving DecidableEq

/-- `float(rules.get(key, default))` of one rule, which must be positive. -/
def normalizeRule (rt : Runtime) (rules : Dict String PyValue) (key : String) (default : ℚ) :
    Except String ℚ :=
  match toFloat rt (Dict.getD rules key (.float default)) with
  | none => .error (key ++ " must be numeric")
  | some value => do
      ensure (0 < value) (key ++ " must be greater than 0")
      .ok value

/-- The keys of `DEFAULT_RULES`. -/
def breakRuleKeys : List String :=
  ["min_shift_for_break", "break_duration", "min_shift_for_second_break", "second_break_duration",
    "paid_break_threshold"]

/-- `_normalize_rules`, of an object. -/
def normalizeRules (rt : Runtime) (rules : Dict String PyValue) : Except String BreakRules := do
  rejectUnknown (Dict.keys rules) breakRuleKeys "Unsupported break rule: "
  let minShiftForBreak ← normalizeRule rt rules "min_shift_for_break" 5
  let breakDuration ← normalizeRule rt rules "break_duration" 30
  let minShiftForSecondBreak ← normalizeRule rt rules "min_shift_for_second_break" 8
  let secondBreakDuration ← normalizeRule rt rules "second_break_duration" 10
  let paidBreakThreshold ← normalizeRule rt rules "paid_break_threshold" 20
  .ok ⟨minShiftForBreak, breakDuration, minShiftForSecondBreak, secondBreakDuration,
    paidBreakThreshold⟩

/-- `BreakCalculator(rules)`: a value that is not truthy stands for no rules. -/
def breakCalculator (rt : Runtime) (rules : PyValue) : Except String BreakRules :=
  if rules.truthy then
    match rules with
    | .dict entries => normalizeRules rt entries
    | _ => .error "break_rules must be an object"
  else normalizeRules rt []

/-- The break types of the engine. -/
inductive BreakType
  | break1
  | lunch
  | break2
  deriving DecidableEq

/-- A calculated break. -/
structure Break where
  startTime : Int
  endTime : Int
  durationMinutes : Int
  paid : Bool
  type : BreakType
  deriving DecidableEq

namespace BreakRules

variable (rules : BreakRules)

/-- `_stagger_break_start`. -/
def staggerBreakStart (preferredStart shiftEnd durationMinutes : Int) (staggerIndex : Nat) : Int :=
  if staggerIndex = 0 then preferredStart
  else
    min (preferredStart + durationMinutes * staggerIndex * minute)
      (shiftEnd - durationMinutes * minute)

/-- One entry of the result of `calculate_breaks`. -/
def breakAt (type : BreakType) (preferredStart shiftEnd durationMinutes : Int)
    (staggerIndex : Nat) : Break :=
  let startTime := staggerBreakStart preferredStart shiftEnd durationMinutes staggerIndex
  { startTime := startTime
    endTime := startTime + durationMinutes * minute
    durationMinutes := durationMinutes
    paid := (durationMinutes : ℚ) ≤ rules.paidBreakThreshold
    type := type }

/-- `calculate_breaks`. -/
def calculateBreaks (startTime endTime : Int) (staggerIndex : Nat) : List Break :=
  let lunchDuration := truncate rules.breakDuration
  let restDuration := truncate rules.secondBreakDuration
  let midpoint := startTime + divideAndRound (endTime - startTime) 2
  if rules.minShiftForSecondBreak ≤ totalHours (endTime - startTime) then
    [rules.breakAt .break1 (startTime + divideAndRound (endTime - startTime) 4) endTime
        restDuration staggerIndex,
      rules.breakAt .lunch midpoint endTime lunchDuration staggerIndex,
      rules.breakAt .break2 (startTime + divideAndRound ((endTime - startTime) * 3) 4) endTime
        restDuration staggerIndex]
  else if rules.minShiftForBreak ≤ totalHours (endTime - startTime) then
    [rules.breakAt .lunch midpoint endTime lunchDuration staggerIndex]
  else []

/-- `requires_relief`. -/
def requiresRelief (startTime endTime : Int) : Bool :=
  rules.minShiftForBreak ≤ totalHours (endTime - startTime) ||
    rules.minShiftForSecondBreak ≤ totalHours (endTime - startTime)

/-- `1 if requires_relief(...) else 0`. -/
def relief (startTime endTime : Int) : Int :=
  if rules.requiresRelief startTime endTime then 1 else 0

end BreakRules

/-- `_breaks_as_utc`: read the edges of breaks on a clock. -/
def breaksAsUtc (toUtc : Int → Int) (breaks : List Break) : List Break :=
  breaks.map fun item =>
    { item with startTime := toUtc item.startTime, endTime := toUtc item.endTime }

end LunchLineup.Engine
