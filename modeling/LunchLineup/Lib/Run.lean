import Mathlib.Tactic
import Mathlib.Data.List.Basic

/-!
# Runs of a step function

A system that serves one request at a time is a function from a state and a
request to an answer and the next state.  `final` is the state after a list of
requests and `trace` the list of single steps on the way.  An invariant of
single steps is an invariant of runs (`invariant_final`, and
`invariant_final_of_trace` where only the steps that meet a condition keep it),
it holds before every step of the trace (`invariant_of_mem_trace`, and
`invariant_before_of_trace` with a condition), and a reflexive and transitive
relation between the two ends of a step relates the two ends of a run
(`related_final`).  A condition that no step leaves is entered at most once
(`length_filter_entering`, and `pairwise_trace_of_entering` for a kind of step that
enters it).  What a step leaves behind and later steps keep rules all later steps
(`pairwise_trace`).  A record that every step writes to may stand in an invariant beside the
state (`recorded_final`).
-/

namespace LunchLineup.Lib

variable {State Request Answer : Type*}

/-- One step of a run: the state before, the request, the answer and the state
after. -/
structure Transition (State Request Answer : Type*) where
  before : State
  request : Request
  answer : Answer
  after : State

variable (step : State → Request → Answer × State)

/-- The single step that serves `request` in `state`. -/
def transition (state : State) (request : Request) : Transition State Request Answer :=
  ⟨state, request, (step state request).1, (step state request).2⟩

/-- The state after serving a list of requests. -/
def final (state : State) : List Request → State
  | [] => state
  | request :: rest => final (step state request).2 rest

/-- The single steps of serving a list of requests. -/
def trace (state : State) : List Request → List (Transition State Request Answer)
  | [] => []
  | request :: rest => transition step state request :: trace (step state request).2 rest

@[simp] theorem final_nil (state : State) : final step state [] = state := rfl

@[simp] theorem final_cons (state : State) (request : Request) (rest : List Request) :
    final step state (request :: rest) = final step (step state request).2 rest := rfl

theorem final_append (state : State) (first second : List Request) :
    final step state (first ++ second) = final step (final step state first) second := by
  induction first generalizing state with
  | nil => rfl
  | cons request rest ih => exact ih _

theorem trace_append (state : State) (first second : List Request) :
    trace step state (first ++ second) =
      trace step state first ++ trace step (final step state first) second := by
  induction first generalizing state with
  | nil => rfl
  | cons request rest ih => exact congrArg _ (ih _)

variable {step}

theorem invariant_final (Inv : State → Prop)
    (hstep : ∀ state request, Inv state → Inv (step state request).2)
    {state : State} (hinit : Inv state) (requests : List Request) :
    Inv (final step state requests) := by
  induction requests generalizing state with
  | nil => exact hinit
  | cons request rest ih => exact ih (hstep state request hinit)

/-- Every step of a run is a step of the system from a state that satisfies
the invariant. -/
theorem invariant_of_mem_trace (Inv : State → Prop)
    (hstep : ∀ state request, Inv state → Inv (step state request).2)
    {state : State} (hinit : Inv state) {requests : List Request}
    {t : Transition State Request Answer} (ht : t ∈ trace step state requests) :
    Inv t.before ∧ t = transition step t.before t.request := by
  induction requests generalizing state with
  | nil => simp [trace] at ht
  | cons request rest ih =>
      rcases List.mem_cons.mp ht with rfl | ht
      · exact ⟨hinit, rfl⟩
      · exact ih (hstep state request hinit) ht

/-- A step of a run is the step that serves its request in the state before it. -/
theorem eq_transition_of_mem_trace {state : State} {requests : List Request}
    {t : Transition State Request Answer} (ht : t ∈ trace step state requests) :
    t = transition step t.before t.request :=
  (invariant_of_mem_trace (fun _ => True) (fun _ _ _ => trivial) trivial ht).2

/-- An invariant of the steps that meet a condition is an invariant of the runs
all of whose steps meet it. -/
theorem invariant_final_of_trace (Inv : State → Prop) {C : State → Request → Prop}
    (hstep : ∀ state request, Inv state → C state request → Inv (step state request).2)
    {state : State} (hinit : Inv state) {requests : List Request}
    (hmeets : ∀ t ∈ trace step state requests, C t.before t.request) :
    Inv (final step state requests) := by
  induction requests generalizing state with
  | nil => exact hinit
  | cons request rest ih =>
      have hnext := hstep state request hinit (hmeets _ List.mem_cons_self)
      exact ih hnext fun t ht => hmeets t (List.mem_cons_of_mem _ ht)

/-- Such an invariant holds before every step of these runs. -/
theorem invariant_before_of_trace (Inv : State → Prop) {C : State → Request → Prop}
    (hstep : ∀ state request, Inv state → C state request → Inv (step state request).2)
    {state : State} (hinit : Inv state) {requests : List Request}
    (hmeets : ∀ t ∈ trace step state requests, C t.before t.request)
    {t : Transition State Request Answer} (ht : t ∈ trace step state requests) :
    Inv t.before := by
  induction requests generalizing state with
  | nil => simp [trace] at ht
  | cons request rest ih =>
      rcases List.mem_cons.mp ht with rfl | ht
      · exact hinit
      · have hnext := hstep state request hinit (hmeets _ List.mem_cons_self)
        exact ih hnext (fun t ht => hmeets t (List.mem_cons_of_mem _ ht)) ht

theorem related_final (R : State → State → Prop) (hrefl : ∀ state, R state state)
    (htrans : ∀ {first second third}, R first second → R second third → R first third)
    (hstep : ∀ state request, R state (step state request).2)
    (state : State) (requests : List Request) : R state (final step state requests) := by
  induction requests generalizing state with
  | nil => exact hrefl state
  | cons request rest ih => exact htrans (hstep state request) (ih _)

/-- The state after a step of a run is related to the final state. -/
theorem related_of_mem_trace (R : State → State → Prop) (hrefl : ∀ state, R state state)
    (htrans : ∀ {first second third}, R first second → R second third → R first third)
    (hstep : ∀ state request, R state (step state request).2)
    {state : State} {requests : List Request}
    {t : Transition State Request Answer} (ht : t ∈ trace step state requests) :
    R t.after (final step state requests) := by
  induction requests generalizing state with
  | nil => simp [trace] at ht
  | cons request rest ih =>
      rcases List.mem_cons.mp ht with rfl | ht
      · exact related_final R hrefl htrans hstep _ rest
      · exact ih ht

/-- An invariant of the state and of what has been recorded on the way. -/
theorem recorded_final {Record : Type*} (Inv : State → Record → Prop)
    {write : Record → Transition State Request Answer → Record}
    (hstep : ∀ state record request, Inv state record →
      Inv (step state request).2 (write record (transition step state request)))
    {state : State} {record : Record} (hinit : Inv state record) (requests : List Request) :
    Inv (final step state requests) ((trace step state requests).foldl write record) := by
  induction requests generalizing state record with
  | nil => exact hinit
  | cons request rest ih => exact ih (hstep state record request hinit)

/-! ## Conditions that no step leaves -/

section Entering

variable (P : State → Prop) [DecidablePred P]

/-- The step makes a condition true. -/
def entering (t : Transition State Request Answer) : Bool :=
  ¬ P t.before ∧ P t.after

variable {P}

/-- A condition that is false at the start and that no step leaves is entered
once if it holds at the end, and never otherwise. -/
theorem length_filter_entering (Inv : State → Prop)
    (hinv : ∀ state request, Inv state → Inv (step state request).2)
    (hstays : ∀ state request, Inv state → P state → P (step state request).2)
    {state : State} (hinit : Inv state) (hstart : ¬ P state) (requests : List Request) :
    ((trace step state requests).filter (entering P)).length =
      if P (final step state requests) then 1 else 0 := by
  induction requests generalizing state with
  | nil => simp [trace, hstart]
  | cons request rest ih =>
      have hnext : Inv (step state request).2 := hinv state request hinit
      by_cases hentered : P (step state request).2
      · have hkept : ∀ s r, Inv s ∧ P s → Inv (step s r).2 ∧ P (step s r).2 :=
          fun s r h => ⟨hinv s r h.1, hstays s r h.1 h.2⟩
        have hend : P (final step (step state request).2 rest) :=
          (invariant_final (fun s => Inv s ∧ P s) hkept ⟨hnext, hentered⟩ rest).2
        have hquiet : (trace step (step state request).2 rest).filter (entering P) = [] := by
          rw [List.filter_eq_nil_iff]
          intro t ht
          have hbefore :=
            (invariant_of_mem_trace (fun s => Inv s ∧ P s) hkept ⟨hnext, hentered⟩ ht).1.2
          simp [entering, hbefore]
        have hfirst : entering P (transition step state request) = true := by
          simp [entering, transition, hstart, hentered]
        rw [trace, List.filter_cons_of_pos hfirst, hquiet, final_cons, if_pos hend]
        rfl
      · have hfirst : ¬ entering P (transition step state request) = true := by
          simp [entering, transition, hentered]
        rw [trace, List.filter_cons_of_neg hfirst, final_cons]
        exact ih hnext hentered

end Entering

/-- What a step leaves behind, and later steps keep, rules all later steps. -/
theorem pairwise_trace (Inv : State → Prop) {C : State → Request → Prop}
    (Mark : Transition State Request Answer → State → Prop)
    {R : Transition State Request Answer → Transition State Request Answer → Prop}
    (hinv : ∀ state request, Inv state → C state request → Inv (step state request).2)
    (hleaves : ∀ state request, Inv state → C state request →
      Mark (transition step state request) (step state request).2)
    (hkeeps : ∀ t state request, Inv state → C state request → Mark t state →
      Mark t (step state request).2)
    (hrules : ∀ t state request, Inv state → C state request → Mark t state →
      R t (transition step state request))
    {state : State} (hinit : Inv state) {requests : List Request}
    (hmeets : ∀ t ∈ trace step state requests, C t.before t.request) :
    (trace step state requests).Pairwise R := by
  induction requests generalizing state with
  | nil => exact .nil
  | cons request rest ih =>
      have hfirst : C state request := hmeets _ List.mem_cons_self
      have hnext : Inv (step state request).2 := hinv state request hinit hfirst
      have hrest := fun t ht => hmeets t (List.mem_cons_of_mem _ ht)
      rw [trace, List.pairwise_cons]
      refine ⟨fun later hlater => ?_, ih hnext hrest⟩
      obtain ⟨hbefore, hmark⟩ := invariant_before_of_trace
        (fun s => Inv s ∧ Mark (transition step state request) s)
        (fun s r h hr => ⟨hinv s r h.1 hr, hkeeps _ s r h.1 hr h.2⟩)
        ⟨hnext, hleaves state request hinit hfirst⟩ hrest hlater
      rw [eq_transition_of_mem_trace hlater]
      exact hrules _ _ _ hbefore (hrest _ hlater) hmark

/-- A step of kind `E` makes `P` true, which no step leaves and under which there is no
step of that kind; so a run has at most one. -/
theorem pairwise_trace_of_entering (Inv P : State → Prop)
    (E : Transition State Request Answer → Prop)
    (hinv : ∀ state request, Inv state → Inv (step state request).2)
    (hstays : ∀ state request, Inv state → P state → P (step state request).2)
    (henters : ∀ state request, Inv state → E (transition step state request) →
      ¬ P state ∧ P (step state request).2)
    {state : State} (hinit : Inv state) (requests : List Request) :
    (trace step state requests).Pairwise fun t t' => ¬ (E t ∧ E t') := by
  induction requests generalizing state with
  | nil => exact .nil
  | cons request rest ih =>
      have hnext : Inv (step state request).2 := hinv state request hinit
      rw [trace, List.pairwise_cons]
      refine ⟨?_, ih hnext⟩
      rintro t ht ⟨hfirst, hlater⟩
      have hentered : P (step state request).2 := (henters state request hinit hfirst).2
      obtain ⟨⟨hbefore_inv, hbefore⟩, hstep⟩ := invariant_of_mem_trace (fun s => Inv s ∧ P s)
        (fun s r h => ⟨hinv s r h.1, hstays s r h.1 h.2⟩) ⟨hnext, hentered⟩ ht
      rw [hstep] at hlater
      exact (henters t.before t.request hbefore_inv hlater).1 hbefore

end LunchLineup.Lib
