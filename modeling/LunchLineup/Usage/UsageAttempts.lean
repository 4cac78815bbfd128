import LunchLineup.Usage.UsageSenders

/-!
# The number of attempts

Every claim counts one attempt, so the attempts of a row are the claims since its last
replay (`Counted`), and a bound of the attempts bounds the requests to Stripe.

The worker checks that bound whenever it claims.  The API checks it for a row that failed
but not for one whose lease is over, and it looks at the attempts it read when it settles.
`Overruns` lists the two steps at which this matters; `delivery_bounded_iff` says that the
bound holds in exactly the runs without them.
-/

namespace LunchLineup.Usage

open LunchLineup.Lib

/-! ## Deliveries -/

/-- The requests to Stripe by the claims since the last replay. -/
def UsageState.submissions (st : UsageState) : Nat :=
  st.claims.countP fun claim => claim.replays = st.replays ∧ claim.submitted.isSome = true

/-- The requests to Stripe since the last replay. -/
def UsageState.requests (st : UsageState) : Nat :=
  st.claims.countP fun claim => claim.submitted.map (·.replays) = some st.replays

variable (settings : UsageSettings)

/-- What the bound asks of a state: no more attempts and no more requests, and after the last
attempt the row is being sent, sent or dead-lettered. -/
structure Within (st : UsageState) : Prop where
  attempts : st.row.attempts ≤ settings.maxAttempts
  submissions : st.submissions ≤ settings.maxAttempts
  exhausted : settings.maxAttempts ≤ st.row.attempts →
    st.row.status = .sending ∨ st.row.status = .sent ∨ st.row.status = .deadLettered

/-- What the bound asks of a step: after the last attempt it makes the row sent or
dead-lettered, or replays it, or leaves it alone. -/
structure Bounded (t : Transition UsageState UsageStep Unit) : Prop where
  within : Within settings t.after
  last : settings.maxAttempts ≤ t.before.row.attempts →
    t.after.row = t.before.row ∨ t.after.row.status = .sent ∨ t.after.row.status = .deadLettered ∨
      t.before.row.status = .deadLettered ∧ t.after.replays = t.before.replays + 1

/-- The API takes over a last attempt, or settles a failure of the last attempt by the
attempts of an earlier one. -/
def Overruns (st : UsageState) : UsageStep → Prop
  | .apiClaim submittedAt writtenAt =>
      submittedAt ≤ writtenAt ∧ st.row.ApiDue settings submittedAt ∧
        st.row.status = .sending ∧ settings.maxAttempts ≤ st.row.attempts
  | .settle index (.failed _ _) now =>
      match st.settling index now with
      | none => False
      | some (claim, event) =>
          claim.sender = .api ∧ st.row.AsRead claim.submittedAt event ∧
            event.attempts < settings.maxAttempts ∧ settings.maxAttempts ≤ st.row.attempts
  | _ => False

instance (st : UsageState) (request : UsageStep) : Decidable (Overruns settings st request) := by
  unfold Overruns
  split
  · exact inferInstance
  · split
    · exact inferInstance
    · exact inferInstance
  · exact inferInstance

/-- A claim from before the last replay sends its request. -/
def Late (st : UsageState) : UsageStep → Prop
  | .submit index =>
      match st.claims[index]? with
      | none => False
      | some claim =>
          claim.event.isSome = true ∧ claim.submitted = none ∧ claim.replays < st.replays
  | _ => False

instance (st : UsageState) (request : UsageStep) : Decidable (Late st request) := by
  unfold Late
  split
  · split
    · exact inferInstance
    · exact inferInstance
  · exact inferInstance

variable {settings} {st : UsageState}

/-! ## Attempts are claims -/

/-- The attempts of the row are the claims since its last replay. -/
structure Counted (st : UsageState) : Prop extends Orderly st where
  counted : (st.claims.countP fun claim => claim.replays = st.replays) = st.row.attempts

namespace Counted

theorem initial {row : UsageRow} (hnew : row.New) : Counted (.initial row) where
  toOrderly := Orderly.initial hnew
  counted := hnew.attempts.symm

theorem attempts_of_pending (hcounted : Counted st) (hpending : st.row.status = .pending) :
    st.row.attempts = 0 := by
  have hcount := hcounted.counted
  rw [hcounted.pending hpending] at hcount
  exact hcount.symm

theorem submissions_le (hcounted : Counted st) : st.submissions ≤ st.row.attempts := by
  rw [← hcounted.counted]
  apply List.countP_mono_left
  intro claim _ hboth
  simp only [decide_eq_true_eq] at hboth ⊢
  exact hboth.1

theorem countP_set {claims : List UsageClaim} {index : Nat} {claim edited : UsageClaim}
    (hget : claims[index]? = some claim) (hkey : edited.key = claim.key) (replays : Nat) :
    ((claims.set index edited).countP fun claim => claim.replays = replays) =
      claims.countP fun claim => claim.replays = replays := by
  have hmap : ∀ l : List UsageClaim, (l.countP fun claim => claim.replays = replays) =
      (l.map UsageClaim.key).countP fun key => key.2.2.2 = replays := by
    intro l
    rw [List.countP_map]
    rfl
  rw [hmap, hmap, map_key_set hget hkey]

theorem claimed (hcounted : Counted st) {claim : UsageClaim} {row : UsageRow}
    (hclaims : Claims settings st claim row) :
    ((st.claims ++ [claim]).countP fun claim => claim.replays = st.replays) = row.attempts := by
  have hcount := hcounted.counted
  have hattempts := hclaims.attempts
  have hrow := hclaims.rowAttempts
  have hone : ([claim].countP fun claim => claim.replays = st.replays) = 1 := by
    simp [hclaims.replays]
  rw [List.countP_append, hone]
  omega

theorem moves (hcounted : Counted st) {request : UsageStep} {after : UsageState}
    (hmoves : Moves settings st request after) : Counted after := by
  refine ⟨hcounted.toOrderly.moves hmoves, ?_⟩
  cases hmoves with
  | refreshed _ => exact hcounted.counted
  | workerClaimed _ hclaims => exact hcounted.claimed hclaims
  | apiClaimed _ _ hclaims => exact hcounted.claimed hclaims
  | read hget _ _ _ =>
      refine (countP_set hget ?_ _).trans hcounted.counted
      rfl
  | submitted hget _ _ =>
      refine (countP_set hget ?_ _).trans hcounted.counted
      rfl
  | settled hsettling hheld =>
      rename_i index outcome now claim event
      have hsettled : Settled st.row (settleRow settings st.row claim event outcome now) now :=
        settleRow_settled hheld outcome now
      exact hcounted.counted.trans hsettled.attempts.symm
  | terminalized _ _ _ =>
      unfold terminalizeExpiredFinalAttempts
      split
      · exact hcounted.counted
      · exact hcounted.counted
  | requeued hreplayable =>
      unfold requeueDeadLettered
      rw [if_pos hreplayable]
      show (st.claims.countP fun claim => claim.replays = st.replays + 1) = 0
      apply List.countP_eq_zero.mpr
      intro claim hclaim hnew
      have hbounded := hcounted.bounded claim hclaim
      simp only [decide_eq_true_eq] at hnew
      omega

theorem step (hcounted : Counted st) (request : UsageStep) :
    Counted (usageStep settings st request).2 := by
  have hcases : (usageStep settings st request).2 = st ∨ Moves settings st request _ :=
    usageStep_moves st request
  rcases hcases with hsame | hmoves
  · rw [hsame]
    exact hcounted
  · exact hcounted.moves hmoves

end Counted

/-! ## The bound -/

theorem overruns_settle_iff {index : Nat} {nonRetryable : Bool} {diagnostic : String} {now : Int}
    {claim : UsageClaim} {event : UsageEvent}
    (hsettling : st.settling index now = some (claim, event)) :
    Overruns settings st (.settle index (.failed nonRetryable diagnostic) now) ↔
      claim.sender = .api ∧ st.row.AsRead claim.submittedAt event ∧
        event.attempts < settings.maxAttempts ∧ settings.maxAttempts ≤ st.row.attempts := by
  simp only [Overruns, hsettling]

/-- A settlement of the last attempt makes the row sent or dead-lettered, unless it overruns. -/
theorem settleRow_last (hsame : settings.apiMaxAttempts = settings.maxAttempts) {index : Nat}
    {outcome : Outcome} {now : Int} {claim : UsageClaim} {event : UsageEvent}
    (hsettling : st.settling index now = some (claim, event)) (hheld : st.row.HeldBy claim event)
    (hnot : ¬ Overruns settings st (.settle index outcome now))
    (hlast : settings.maxAttempts ≤ st.row.attempts) :
    (settleRow settings st.row claim event outcome now).status = .sent ∨
      (settleRow settings st.row claim event outcome now).status = .deadLettered := by
  unfold UsageRow.HeldBy at hheld
  unfold settleRow
  cases hsender : claim.sender with
  | worker =>
      rw [hsender] at hheld
      replace hheld : st.row.AtAttempt event := hheld
      cases outcome with
      | sent result =>
          refine .inl ?_
          show (markSent st.row event result now).status = .sent
          rw [markSent, if_pos hheld]
      | failed nonRetryable diagnostic =>
          have hevent : settings.maxAttempts ≤ event.attempts := hheld.2 ▸ hlast
          simp only [dispatchFailed, markFailed, if_pos hheld]
          exact .inr (if_pos (by simp [hevent]))
  | api =>
      rw [hsender] at hheld
      replace hheld : st.row.AsRead claim.submittedAt event := hheld
      cases outcome with
      | sent result =>
          refine .inl ?_
          show (apiSent st.row claim.submittedAt event result now).status = .sent
          rw [apiSent, if_pos hheld]
      | failed nonRetryable diagnostic =>
          rw [overruns_settle_iff hsettling] at hnot
          have hevent : settings.apiMaxAttempts ≤ event.attempts := by
            by_contra hfewer
            exact hnot ⟨hsender, hheld, by omega, hlast⟩
          simp only [apiFailed, if_pos hheld]
          exact .inr (if_pos hevent)

/-- A claim is made below the bound, unless it overruns. -/
theorem attempts_lt_of_claims (hsame : settings.apiMaxAttempts = settings.maxAttempts)
    (hcounted : Counted st) {claim : UsageClaim} {row : UsageRow}
    (hclaims : Claims settings st claim row)
    (htakes : claim.sender = .api → st.row.status = .sending →
      st.row.attempts < settings.maxAttempts) :
    st.row.attempts < settings.maxAttempts := by
  have hpos := settings.maxAttempts_pos
  cases hsender : claim.sender with
  | worker => exact hclaims.workerBound hsender
  | api =>
      rcases hclaims.due with hpending | ⟨hfailed, _⟩ | ⟨hsending, _⟩
      · have hnone := hcounted.attempts_of_pending hpending
        omega
      · have hbound := hclaims.apiBound hsender hfailed
        omega
      · exact htakes hsender hsending

/-- A claim below the bound keeps it. -/
theorem Claims.bounded {claim : UsageClaim} {row : UsageRow}
    (hclaims : Claims settings st claim row) (hcounted : Counted st)
    (hlt : st.row.attempts < settings.maxAttempts) {request : UsageStep} :
    Bounded settings
      ⟨st, request, (), { st with row := row, claims := st.claims ++ [claim] }⟩ := by
  have hattempts := hclaims.attempts
  have hrow := hclaims.rowAttempts
  have hle : row.attempts ≤ settings.maxAttempts := by omega
  have hafter : Counted { st with row := row, claims := st.claims ++ [claim] } :=
    ⟨hcounted.toOrderly.claimed hclaims, hcounted.claimed hclaims⟩
  refine ⟨⟨hle, hafter.submissions_le.trans hle, fun _ => .inl hclaims.status⟩, ?_⟩
  intro hlast
  exact absurd hlast (Nat.not_le.mpr hlt)

theorem Moves.bounded {request : UsageStep} {after : UsageState}
    (hmoves : Moves settings st request after)
    (hsame : settings.apiMaxAttempts = settings.maxAttempts) (hcounted : Counted st)
    (hwithin : Within settings st) (hnot : ¬ Overruns settings st request) :
    Bounded settings ⟨st, request, (), after⟩ := by
  have hpos := settings.maxAttempts_pos
  have hafter := hcounted.moves hmoves
  cases hmoves with
  | refreshed hpending =>
      have hnone := hcounted.attempts_of_pending hpending
      have hbelow : ¬ settings.maxAttempts ≤ st.row.attempts := by omega
      exact ⟨⟨hwithin.attempts, hafter.submissions_le.trans hwithin.attempts,
        fun hlast => absurd hlast hbelow⟩, fun hlast => absurd hlast hbelow⟩
  | workerClaimed hsender hclaims =>
      exact hclaims.bounded hcounted (hclaims.workerBound hsender)
  | apiClaimed hdue hsender hclaims =>
      apply hclaims.bounded hcounted
      apply attempts_lt_of_claims hsame hcounted hclaims
      intro _ hsending
      by_contra hfewer
      exact hnot ⟨hdue.1, hdue.2, hsending, by omega⟩
  | read hget hsender hevent hread =>
      exact ⟨⟨hwithin.attempts, hafter.submissions_le.trans hwithin.attempts, hwithin.exhausted⟩,
        fun _ => .inl rfl⟩
  | submitted hget hevent hunsent =>
      exact ⟨⟨hwithin.attempts, hafter.submissions_le.trans hwithin.attempts, hwithin.exhausted⟩,
        fun _ => .inl rfl⟩
  | settled hsettling hheld =>
      rename_i index outcome now claim event
      have hsettled : Settled st.row (settleRow settings st.row claim event outcome now) now :=
        settleRow_settled hheld outcome now
      have hle : (settleRow settings st.row claim event outcome now).attempts ≤
          settings.maxAttempts := hsettled.attempts ▸ hwithin.attempts
      have hends := settleRow_last hsame hsettling hheld hnot
      refine ⟨⟨hle, hafter.submissions_le.trans hle, ?_⟩, fun hlast => ?_⟩
      · intro hlast
        exact .inr (hends (hsettled.attempts ▸ hlast))
      · rcases hends hlast with hsent | hdead
        · exact .inr (.inl hsent)
        · exact .inr (.inr (.inl hdead))
  | terminalized hsending hfinal hexpired =>
      rename_i now
      have hattempts : (terminalizeExpiredFinalAttempts settings st.row now).attempts =
          st.row.attempts := by
        unfold terminalizeExpiredFinalAttempts
        split
        · rfl
        · rfl
      have hends : (terminalizeExpiredFinalAttempts settings st.row now).status = .deadLettered ∨
          terminalizeExpiredFinalAttempts settings st.row now = st.row := by
        unfold terminalizeExpiredFinalAttempts
        split
        · exact .inl rfl
        · exact .inr rfl
      have hle := hattempts ▸ hwithin.attempts
      refine ⟨⟨hle, hafter.submissions_le.trans hle, ?_⟩, ?_⟩
      · intro _
        rcases hends with hdead | hkept
        · exact .inr (.inr hdead)
        · exact .inl ((congrArg UsageRow.status hkept).trans hsending)
      · intro _
        rcases hends with hdead | hkept
        · exact .inr (.inr (.inl hdead))
        · exact .inl hkept
  | requeued hreplayable =>
      rename_i now
      have hnone : (requeueDeadLettered settings st.row now).attempts = 0 := by
        unfold requeueDeadLettered
        rw [if_pos hreplayable]
      have hle : (requeueDeadLettered settings st.row now).attempts ≤ settings.maxAttempts := by
        omega
      refine ⟨⟨hle, hafter.submissions_le.trans hle, ?_⟩, ?_⟩
      · intro hlast
        replace hlast : settings.maxAttempts ≤
          (requeueDeadLettered settings st.row now).attempts := hlast
        omega
      · intro _
        exact .inr (.inr (.inr ⟨hreplayable.2.1, rfl⟩))

/-- A step that does not overrun is bounded. -/
theorem bounded_of_not_overruns (hsame : settings.apiMaxAttempts = settings.maxAttempts)
    (hcounted : Counted st) (hwithin : Within settings st) {request : UsageStep}
    (hnot : ¬ Overruns settings st request) :
    Bounded settings (transition (usageStep settings) st request) := by
  have hcases : (usageStep settings st request).2 = st ∨ Moves settings st request _ :=
    usageStep_moves st request
  rcases hcases with hkept | hmoves
  · refine ⟨?_, fun _ => .inl ?_⟩
    · show Within settings (usageStep settings st request).2
      rw [hkept]
      exact hwithin
    · exact congrArg UsageState.row hkept
  · exact hmoves.bounded hsame hcounted hwithin hnot

/-- A step that overruns is not: it makes one attempt too many, or leaves the last one failed. -/
theorem not_bounded_of_overruns (hsame : settings.apiMaxAttempts = settings.maxAttempts)
    {request : UsageStep} (hover : Overruns settings st request) :
    ¬ Bounded settings (transition (usageStep settings) st request) := by
  intro hbounded
  cases request with
  | apiClaim submittedAt writtenAt =>
      obtain ⟨hclock, hdue, _, hlast⟩ := hover
      have hattempts : (usageStep settings st (.apiClaim submittedAt writtenAt)).2.row.attempts =
          st.row.attempts + 1 := by
        simp only [usageStep, apiClaim, if_pos hdue, if_pos hclock]
      have hle : (usageStep settings st (.apiClaim submittedAt writtenAt)).2.row.attempts ≤
          settings.maxAttempts := hbounded.within.attempts
      omega
  | settle index outcome now =>
      cases outcome with
      | sent result => exact hover
      | failed nonRetryable diagnostic =>
          cases hsettling : st.settling index now with
          | none => simp only [Overruns, hsettling] at hover
          | some held =>
              obtain ⟨claim, event⟩ := held
              obtain ⟨hsender, hread, hfewer, hlast⟩ := (overruns_settle_iff hsettling).mp hover
              have hnext : (usageStep settings st
                  (.settle index (.failed nonRetryable diagnostic) now)).2.row =
                  apiFailed settings st.row claim.submittedAt event diagnostic now := by
                simp only [usageStep, hsettling, settleRow, hsender]
              have hfailed : (apiFailed settings st.row claim.submittedAt event diagnostic
                  now).status = .failed := by
                rw [apiFailed, if_pos hread]
                exact if_neg (by omega)
              have hattempts : (apiFailed settings st.row claim.submittedAt event diagnostic
                  now).attempts = st.row.attempts := by
                rw [apiFailed, if_pos hread]
              have hexhausted := hbounded.within.exhausted
              simp only [transition, hnext, hfailed, hattempts] at hexhausted
              simpa using hexhausted hlast
  | _ => exact hover

theorem Within.initial {row : UsageRow} (hnew : row.New) : Within settings (.initial row) where
  attempts := by
    show row.attempts ≤ settings.maxAttempts
    rw [hnew.attempts]
    exact Nat.zero_le _
  submissions := Nat.zero_le _
  exhausted := by
    intro hlast
    have hpos := settings.maxAttempts_pos
    replace hlast : settings.maxAttempts ≤ row.attempts := hlast
    rw [hnew.attempts] at hlast
    omega

/-! ## Requests of paused claims -/

/-- While no claim is late, requests are made in the interval of their claim. -/
def Prompt (st : UsageState) : Prop :=
  ∀ claim ∈ st.claims, ∀ submission ∈ claim.submitted, submission.replays = claim.replays

theorem Prompt.requests_le (hprompt : Prompt st) : st.requests ≤ st.submissions := by
  apply List.countP_mono_left
  intro claim hclaim hrequest
  simp only [decide_eq_true_eq, Option.map_eq_some_iff] at hrequest
  obtain ⟨submission, hsubmission, hreplays⟩ := hrequest
  simp only [decide_eq_true_eq]
  exact ⟨(hprompt claim hclaim submission hsubmission).symm.trans hreplays,
    by rw [hsubmission]; rfl⟩

theorem Prompt.moves (hprompt : Prompt st) (horderly : Orderly st) {request : UsageStep}
    {after : UsageState} (hmoves : Moves settings st request after) (hlate : ¬ Late st request) :
    Prompt after := by
  cases hmoves with
  | workerClaimed hsender hclaims =>
      intro other hother
      rcases List.mem_append.mp hother with hold | hnew
      · exact hprompt other hold
      · obtain rfl := List.mem_singleton.mp hnew
        simp [hclaims.unsent]
  | apiClaimed hdue hsender hclaims =>
      intro other hother
      rcases List.mem_append.mp hother with hold | hnew
      · exact hprompt other hold
      · obtain rfl := List.mem_singleton.mp hnew
        simp [hclaims.unsent]
  | read hget hsender hevent hread =>
      rename_i index claim event
      intro other hother
      rcases List.mem_or_eq_of_mem_set hother with hold | rfl
      · exact hprompt other hold
      · exact hprompt claim (List.mem_of_getElem? hget)
  | submitted hget hevent hunsent =>
      rename_i index claim event
      intro other hother
      rcases List.mem_or_eq_of_mem_set hother with hold | rfl
      · exact hprompt other hold
      · rintro submission ⟨⟩
        have hbounded := horderly.bounded claim (List.mem_of_getElem? hget)
        have hnot : ¬ claim.replays < st.replays := by
          intro hearlier
          apply hlate
          simp only [Late, hget]
          exact ⟨by rw [hevent]; rfl, hunsent, hearlier⟩
        show st.replays = claim.replays
        omega
  | refreshed hpending => exact hprompt
  | settled hsettling hheld => exact hprompt
  | terminalized hsending hfinal hexpired => exact hprompt
  | requeued hreplayable => exact hprompt

theorem Prompt.step (hprompt : Prompt st) (horderly : Orderly st) {request : UsageStep}
    (hlate : ¬ Late st request) : Prompt (usageStep settings st request).2 := by
  have hcases : (usageStep settings st request).2 = st ∨ Moves settings st request _ :=
    usageStep_moves st request
  rcases hcases with hkept | hmoves
  · rw [hkept]
    exact hprompt
  · exact hprompt.moves horderly hmoves hlate

/-! ## The runs within the bound -/

/-- With one maximum for both senders, the attempts are bounded in exactly the runs without
a step that overruns.  If also no claim from before a replay sends its request after it, then
there are no more requests than attempts between two replays, whoever makes them. -/
theorem delivery_bounded_iff (settings : UsageSettings)
    (hsame : settings.apiMaxAttempts = settings.maxAttempts) {row : UsageRow} (hnew : row.New)
    (steps : List UsageStep) :
    ((∀ t ∈ trace (usageStep settings) (.initial row) steps, Bounded settings t) ↔
      ∀ t ∈ trace (usageStep settings) (.initial row) steps,
        ¬ Overruns settings t.before t.request) ∧
    ((∀ t ∈ trace (usageStep settings) (.initial row) steps,
        ¬ Overruns settings t.before t.request ∧ ¬ Late t.before t.request) →
      ∀ t ∈ trace (usageStep settings) (.initial row) steps,
        t.after.requests ≤ settings.maxAttempts) := by
  have hcounted : ∀ st request, Counted st → Counted (usageStep settings st request).2 :=
    fun st request h => h.step request
  have hkeeps : ∀ st request, Counted st ∧ Within settings st → ¬ Overruns settings st request →
      Counted (usageStep settings st request).2 ∧ Within settings (usageStep settings st request).2 :=
    fun st request h hnot =>
      ⟨h.1.step request, (bounded_of_not_overruns hsame h.1 h.2 hnot).within⟩
  have hbounded : (∀ t ∈ trace (usageStep settings) (.initial row) steps,
      ¬ Overruns settings t.before t.request) →
      ∀ t ∈ trace (usageStep settings) (.initial row) steps, Bounded settings t := by
    intro hnone t ht
    have hstep := (invariant_of_mem_trace Counted hcounted (Counted.initial hnew) ht).2
    have hbefore := invariant_before_of_trace (fun st => Counted st ∧ Within settings st) hkeeps
      ⟨Counted.initial hnew, Within.initial hnew⟩ hnone ht
    rw [hstep]
    exact bounded_of_not_overruns hsame hbefore.1 hbefore.2 (hnone t ht)
  refine ⟨⟨?_, hbounded⟩, ?_⟩
  · intro hall t ht hover
    have hstep := (invariant_of_mem_trace Counted hcounted (Counted.initial hnew) ht).2
    have hthis := hall t ht
    rw [hstep] at hthis
    exact not_bounded_of_overruns hsame hover hthis
  · intro hnone t ht
    have hstep := (invariant_of_mem_trace Counted hcounted (Counted.initial hnew) ht).2
    have hbefore : Counted t.before ∧ Prompt t.before :=
      invariant_before_of_trace (fun st => Counted st ∧ Prompt st)
        (fun st request h hlate => ⟨h.1.step request, h.2.step h.1.toOrderly hlate⟩)
        ⟨Counted.initial hnew, by simp [Prompt, UsageState.initial]⟩
        (fun t ht => (hnone t ht).2) ht
    have hprompt : Prompt t.after := by
      rw [hstep]
      exact hbefore.2.step hbefore.1.toOrderly (hnone t ht).2
    exact hprompt.requests_le.trans
      (hbounded (fun t ht => (hnone t ht).1) t ht).within.submissions

/-! ## A last attempt that is taken over -/

namespace TakenOver

open StaffSnapshot

/-- Five workers claim one after another, each when the lease of the one before is over.  Two
minutes after the last of them the API claims too. -/
def steps : List UsageStep :=
  [.workerClaim 1783296000000, .submit 0, .workerClaim 1783296300000, .submit 1,
    .workerClaim 1783296600000, .submit 2, .workerClaim 1783296900000, .submit 3,
    .workerClaim 1783297200000, .submit 4,
    .apiClaim 1783297320000 1783297320000, .apiRead 5, .submit 5]

/-- The event is submitted a sixth time. -/
theorem taken_over_submits_again :
    ¬ (∀ t ∈ trace (usageStep defaults) (.initial row) steps, Bounded defaults t) ∧
    (final (usageStep defaults) (.initial row) steps).row.attempts = 6 ∧
    (final (usageStep defaults) (.initial row) steps).requests = 6 := by
  refine ⟨?_, by decide +kernel, by decide +kernel⟩
  intro hall
  have hover : ∃ t ∈ trace (usageStep defaults) (.initial row) steps,
      defaults.maxAttempts < t.after.row.attempts := by
    decide +kernel
  obtain ⟨t, ht, hmore⟩ := hover
  exact absurd (hall t ht).within.attempts (Nat.not_le.mpr hmore)

/-- Before the API claims, there are five attempts and five requests. -/
theorem bounded_before_claim :
    (∀ t ∈ trace (usageStep defaults) (.initial row) (steps.take 10), Bounded defaults t) ∧
    ∀ t ∈ trace (usageStep defaults) (.initial row) (steps.take 10), t.after.requests ≤ 5 :=
  ⟨(delivery_bounded_iff defaults rfl row_new (steps.take 10)).1.mpr (by decide +kernel),
    (delivery_bounded_iff defaults rfl row_new (steps.take 10)).2 (by decide +kernel)⟩

end TakenOver

end LunchLineup.Usage
