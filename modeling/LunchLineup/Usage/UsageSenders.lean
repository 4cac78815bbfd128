import LunchLineup.Usage.UsageEvent

/-!
# The senders of a usage event

Any number of worker and API processes at one row.  A process that claims it holds what
it read until it has settled, however long it pauses in between; others may claim the
row meanwhile, and it may be replayed.  `UsageState` keeps all claims in the order in
which they were made, with the replays before each.

`Moves` lists what a step can do.  `Orderly` is what all states have: within one replay
interval the attempts of the claims count up, and a row that is being sent is at its last
claim.
-/

namespace LunchLineup.Usage

open LunchLineup.Lib

/-! ## States and steps -/

/-- The two senders. -/
inductive Sender
  | worker
  | api
  deriving DecidableEq

/-- A request to Stripe: the identifier sent, and the replays before it. -/
structure Submission where
  identifier : String
  replays : Nat
  deriving DecidableEq

/-- A claim and the process that made it: the time it wrote, the attempt it started, the
replays before it, what it read of the row and what it sent. -/
structure UsageClaim where
  sender : Sender
  submittedAt : Int
  attempts : Nat
  replays : Nat
  event : Option UsageEvent
  submitted : Option Submission
  deriving DecidableEq

/-- The row, its claims and the number of its replays. -/
structure UsageState where
  row : UsageRow
  claims : List UsageClaim
  replays : Nat
  deriving DecidableEq

/-- How a request to Stripe ended. -/
inductive Outcome
  | sent (result : StripeMeterResult)
  | failed (nonRetryable : Bool) (diagnostic : String)
  deriving DecidableEq

/-- One step of some process.  Claims are named by their position. -/
inductive UsageStep
  | prepareUsageSnapshot (quantity now : Int)
  | workerClaim (now : Int)
  | apiClaim (submittedAt writtenAt : Int)
  | apiRead (index : Nat)
  | submit (index : Nat)
  | settle (index : Nat) (outcome : Outcome) (now : Int)
  | terminalizeExpiredFinalAttempts (now : Int)
  | requeueDeadLettered (now : Int)
  deriving DecidableEq

variable (settings : UsageSettings)

/-- The settlement of a claim. -/
def settleRow (row : UsageRow) (claim : UsageClaim) (event : UsageEvent) (outcome : Outcome)
    (now : Int) : UsageRow :=
  match claim.sender, outcome with
  | .worker, .sent result => markSent row event result now
  | .worker, .failed nonRetryable _ => dispatchFailed settings row event nonRetryable now
  | .api, .sent result => apiSent row claim.submittedAt event result now
  | .api, .failed _ diagnostic => apiFailed settings row claim.submittedAt event diagnostic now

/-- The claim at a position whose request has ended; the clock of its process does not go back. -/
def UsageState.settling (st : UsageState) (index : Nat) (now : Int) :
    Option (UsageClaim × UsageEvent) :=
  match st.claims[index]? with
  | none => none
  | some claim =>
      match claim.event, claim.submitted with
      | some event, some _ => if claim.submittedAt ≤ now then some (claim, event) else none
      | _, _ => none

/-- One step; a process that cannot do it does nothing. -/
def usageStep (st : UsageState) (request : UsageStep) : Unit × UsageState :=
  ((), match request with
  | .prepareUsageSnapshot quantity now =>
      { st with row := prepareUsageSnapshot st.row quantity now }
  | .workerClaim now =>
      match claim settings st.row now with
      | none => st
      | some (event, row) =>
          { st with
            row := row
            claims := st.claims ++ [⟨.worker, now, event.attempts, st.replays, some event, none⟩] }
  | .apiClaim submittedAt writtenAt =>
      match apiClaim settings st.row submittedAt writtenAt with
      | none => st
      | some row =>
          if submittedAt ≤ writtenAt then
            { st with
              row := row
              claims := st.claims ++ [⟨.api, submittedAt, row.attempts, st.replays, none, none⟩] }
          else st
  | .apiRead index =>
      match st.claims[index]? with
      | none => st
      | some claim =>
          if claim.sender = .api ∧ claim.event = none then
            match apiRead st.row claim.submittedAt with
            | none => st
            | some event =>
                { st with claims := st.claims.set index { claim with event := some event } }
          else st
  | .submit index =>
      match st.claims[index]? with
      | none => st
      | some claim =>
          match claim.event, claim.submitted with
          | some event, none =>
              { st with
                claims := st.claims.set index
                  { claim with submitted := some ⟨event.identifier, st.replays⟩ } }
          | _, _ => st
  | .settle index outcome now =>
      match st.settling index now with
      | none => st
      | some (claim, event) => { st with row := settleRow settings st.row claim event outcome now }
  | .terminalizeExpiredFinalAttempts now =>
      { st with row := terminalizeExpiredFinalAttempts settings st.row now }
  | .requeueDeadLettered now =>
      if st.row.Replayable settings now then
        { st with row := requeueDeadLettered settings st.row now, replays := st.replays + 1 }
      else st)

/-- The state with a row that was just inserted. -/
def UsageState.initial (row : UsageRow) : UsageState := ⟨row, [], 0⟩

/-! ## What a step can do -/

/-- `row` is the row after `claim` was made at it. -/
structure Claims (st : UsageState) (claim : UsageClaim) (row : UsageRow) : Prop where
  replays : claim.replays = st.replays
  attempts : claim.attempts = st.row.attempts + 1
  unsent : claim.submitted = none
  event : ∀ event ∈ claim.event, event.attempts = claim.attempts ∧
    event.identifier = st.row.identifier ∧ event.idempotencyKey = st.row.idempotencyKey
  worker : claim.sender = .worker → claim.event.isSome = true
  status : row.status = .sending
  rowAttempts : row.attempts = claim.attempts
  submittedAt : row.submittedAt = some claim.submittedAt
  identifier : row.identifier = st.row.identifier
  idempotencyKey : row.idempotencyKey = st.row.idempotencyKey
  written : claim.submittedAt ≤ row.updatedAt
  due : st.row.status = .pending ∨
    (st.row.status = .failed ∧ st.row.nextAttemptAt ≤ claim.submittedAt) ∨
    (st.row.status = .sending ∧ (st.row.updatedAt < claim.submittedAt ∨
      ∃ previous ∈ st.row.submittedAt, previous < claim.submittedAt))
  workerBound : claim.sender = .worker → st.row.attempts < settings.maxAttempts
  apiBound : claim.sender = .api → st.row.status = .failed →
    st.row.attempts < settings.apiMaxAttempts

/-- The condition under which the settlement of a claim changes the row. -/
def UsageRow.HeldBy (row : UsageRow) (claim : UsageClaim) (event : UsageEvent) : Prop :=
  match claim.sender with
  | .worker => row.AtAttempt event
  | .api => row.AsRead claim.submittedAt event

instance (row : UsageRow) (claim : UsageClaim) (event : UsageEvent) :
    Decidable (row.HeldBy claim event) := by
  unfold UsageRow.HeldBy
  cases claim.sender
  · exact inferInstance
  · exact inferInstance

/-- The steps that change something. -/
inductive Moves (st : UsageState) : UsageStep → UsageState → Prop
  | refreshed {quantity now : Int} (hpending : st.row.status = .pending) :
      Moves st (.prepareUsageSnapshot quantity now)
        { st with row := { st.row with quantity := quantity, updatedAt := now } }
  | workerClaimed {now : Int} {claim : UsageClaim} {row : UsageRow}
      (hsender : claim.sender = .worker) (hclaims : Claims settings st claim row) :
      Moves st (.workerClaim now) { st with row := row, claims := st.claims ++ [claim] }
  | apiClaimed {submittedAt writtenAt : Int} {claim : UsageClaim} {row : UsageRow}
      (hdue : submittedAt ≤ writtenAt ∧ st.row.ApiDue settings submittedAt)
      (hsender : claim.sender = .api) (hclaims : Claims settings st claim row) :
      Moves st (.apiClaim submittedAt writtenAt)
        { st with row := row, claims := st.claims ++ [claim] }
  | read {index : Nat} {claim : UsageClaim} {event : UsageEvent}
      (hget : st.claims[index]? = some claim) (hsender : claim.sender = .api)
      (hevent : claim.event = none) (hread : apiRead st.row claim.submittedAt = some event) :
      Moves st (.apiRead index)
        { st with claims := st.claims.set index { claim with event := some event } }
  | submitted {index : Nat} {claim : UsageClaim} {event : UsageEvent}
      (hget : st.claims[index]? = some claim) (hevent : claim.event = some event)
      (hunsent : claim.submitted = none) :
      Moves st (.submit index)
        { st with
          claims := st.claims.set index
            { claim with submitted := some ⟨event.identifier, st.replays⟩ } }
  | settled {index : Nat} {outcome : Outcome} {now : Int} {claim : UsageClaim} {event : UsageEvent}
      (hsettling : st.settling index now = some (claim, event))
      (hheld : st.row.HeldBy claim event) :
      Moves st (.settle index outcome now)
        { st with row := settleRow settings st.row claim event outcome now }
  | terminalized {now : Int} (hsending : st.row.status = .sending)
      (hfinal : settings.maxAttempts ≤ st.row.attempts) (hexpired : st.row.updatedAt < now) :
      Moves st (.terminalizeExpiredFinalAttempts now)
        { st with row := terminalizeExpiredFinalAttempts settings st.row now }
  | requeued {now : Int} (hreplayable : st.row.Replayable settings now) :
      Moves st (.requeueDeadLettered now)
        { st with row := requeueDeadLettered settings st.row now, replays := st.replays + 1 }

variable {settings} {st : UsageState}

theorem claim_claims {now : Int} {event : UsageEvent} {row : UsageRow}
    (h : claim settings st.row now = some (event, row)) :
    Claims settings st ⟨.worker, now, event.attempts, st.replays, some event, none⟩ row := by
  unfold claim at h
  split at h
  · rename_i hdue
    have hlease := settings.leaseSeconds_least
    obtain ⟨hbound, hwhen⟩ := hdue
    obtain ⟨rfl, rfl⟩ := Prod.mk.inj (Option.some.inj h)
    have hnot : ¬ Sender.worker = Sender.api := by decide
    refine ⟨rfl, rfl, rfl, ?_, fun _ => rfl, rfl, rfl, rfl, rfl, rfl, le_rfl, ?_, fun _ => hbound,
      fun hapi => absurd hapi hnot⟩
    · rintro event ⟨⟩
      exact ⟨rfl, rfl, rfl⟩
    · rcases hwhen with ⟨hpending | hfailed, hnext⟩ | ⟨hsending, hstale⟩
      · exact .inl hpending
      · exact .inr (.inl ⟨hfailed, hnext⟩)
      · refine .inr (.inr ⟨hsending, .inl ?_⟩)
        show st.row.updatedAt < now
        omega
  · cases h

theorem apiClaim_claims {submittedAt writtenAt : Int} {row : UsageRow}
    (h : apiClaim settings st.row submittedAt writtenAt = some row)
    (hclock : submittedAt ≤ writtenAt) :
    Claims settings st ⟨.api, submittedAt, row.attempts, st.replays, none, none⟩ row := by
  unfold apiClaim at h
  split at h
  · rename_i hdue
    obtain rfl := Option.some.inj h
    have hnot : ¬ Sender.api = Sender.worker := by decide
    refine ⟨rfl, rfl, rfl, by simp, fun hworker => absurd hworker hnot, rfl, rfl, rfl, rfl, rfl,
      hclock, ?_, fun hworker => absurd hworker hnot, ?_⟩
    · rcases hdue with ⟨hpending, _⟩ | ⟨hfailed, _, hnext⟩ | ⟨hsending, previous, hprevious, hstale⟩
      · exact .inl hpending
      · exact .inr (.inl ⟨hfailed, hnext⟩)
      · refine .inr (.inr ⟨hsending, .inr ⟨previous, hprevious, ?_⟩⟩)
        show previous < submittedAt
        unfold stripeUsageSendLeaseMs at hstale
        omega
    · intro _ hfailed
      rcases hdue with ⟨hpending, _⟩ | ⟨_, hbound, _⟩ | ⟨hsending, _⟩
      · cases hfailed.symm.trans hpending
      · exact hbound
      · cases hfailed.symm.trans hsending
  · cases h

/-- A settlement of a claim that does not hold the row changes nothing. -/
theorem settleRow_of_not_held {claim : UsageClaim} {event : UsageEvent}
    (h : ¬ st.row.HeldBy claim event) (outcome : Outcome) (now : Int) :
    settleRow settings st.row claim event outcome now = st.row := by
  unfold UsageRow.HeldBy at h
  unfold settleRow
  cases hsender : claim.sender with
  | worker =>
      rw [hsender] at h
      cases outcome with
      | sent result => exact if_neg h
      | failed nonRetryable diagnostic => exact if_neg h
  | api =>
      rw [hsender] at h
      cases outcome with
      | sent result => exact if_neg h
      | failed nonRetryable diagnostic => exact if_neg h

/-- A step does nothing or is one of the moves. -/
theorem usageStep_moves (st : UsageState) (request : UsageStep) :
    (usageStep settings st request).2 = st ∨
      Moves settings st request (usageStep settings st request).2 := by
  cases request with
  | prepareUsageSnapshot quantity now =>
      simp only [usageStep, prepareUsageSnapshot]
      split
      · rename_i hnew
        exact .inr (.refreshed hnew.1)
      · exact .inl rfl
  | workerClaim now =>
      simp only [usageStep]
      split
      · exact .inl rfl
      · rename_i event row hclaim
        exact .inr (.workerClaimed rfl (claim_claims hclaim))
  | apiClaim submittedAt writtenAt =>
      simp only [usageStep]
      split
      · exact .inl rfl
      · rename_i row hclaim
        split
        · rename_i hclock
          have hdue : st.row.ApiDue settings submittedAt := by
            unfold apiClaim at hclaim
            split at hclaim
            · assumption
            · cases hclaim
          exact .inr (.apiClaimed ⟨hclock, hdue⟩ rfl (apiClaim_claims hclaim hclock))
        · exact .inl rfl
  | apiRead index =>
      simp only [usageStep]
      split
      · exact .inl rfl
      · rename_i claim hget
        split
        · rename_i hunread
          split
          · exact .inl rfl
          · rename_i event hread
            exact .inr (.read hget hunread.1 hunread.2 hread)
        · exact .inl rfl
  | submit index =>
      simp only [usageStep]
      split
      · exact .inl rfl
      · rename_i claim hget
        split
        · rename_i event hevent hunsent
          exact .inr (.submitted hget hevent hunsent)
        · exact .inl rfl
  | settle index outcome now =>
      simp only [usageStep]
      split
      · exact .inl rfl
      · rename_i claim event hsettling
        by_cases hheld : st.row.HeldBy claim event
        · exact .inr (.settled hsettling hheld)
        · rw [settleRow_of_not_held hheld]
          exact .inl rfl
  | terminalizeExpiredFinalAttempts now =>
      by_cases hexpired : st.row.status = .sending ∧ settings.maxAttempts ≤ st.row.attempts ∧
          st.row.updatedAt ≤ now - settings.leaseSeconds * 1000
      · have hlease := settings.leaseSeconds_least
        obtain ⟨hsending, hfinal, hstale⟩ := hexpired
        exact .inr (.terminalized hsending hfinal (by omega))
      · refine .inl ?_
        simp only [usageStep, terminalizeExpiredFinalAttempts, if_neg hexpired]
  | requeueDeadLettered now =>
      simp only [usageStep]
      split
      · rename_i hreplayable
        exact .inr (.requeued hreplayable)
      · exact .inl rfl

/-! ## What all states have -/

/-- The claims count up through the attempts of each replay interval, and a row that is being
sent is at the last of them. -/
structure Orderly (st : UsageState) : Prop where
  keys : st.claims.Pairwise fun first second =>
    first.replays < second.replays ∨
      first.replays = second.replays ∧ first.attempts < second.attempts
  bounded : ∀ claim ∈ st.claims, claim.replays < st.replays ∨
    claim.replays = st.replays ∧ claim.attempts ≤ st.row.attempts
  worker : ∀ claim ∈ st.claims, claim.sender = .worker →
    ∀ event ∈ claim.event, event.attempts = claim.attempts
  submitted : ∀ claim ∈ st.claims, ∀ submission ∈ claim.submitted,
    ∃ event ∈ claim.event, submission.identifier = event.identifier
  pending : st.row.status = .pending → st.claims = []
  sending : st.row.status = .sending → ∃ claim ∈ st.claims.getLast?,
    claim.replays = st.replays ∧ claim.attempts = st.row.attempts ∧
      st.row.submittedAt = some claim.submittedAt ∧
      ∀ event ∈ claim.event, event.identifier = st.row.identifier

/-- The fields of a claim that its process does not change. -/
def UsageClaim.key (claim : UsageClaim) : Sender × Int × Nat × Nat :=
  (claim.sender, claim.submittedAt, claim.attempts, claim.replays)

theorem map_key_set {claims : List UsageClaim} {index : Nat} {claim edited : UsageClaim}
    (hget : claims[index]? = some claim) (hkey : edited.key = claim.key) :
    (claims.set index edited).map UsageClaim.key = claims.map UsageClaim.key := by
  obtain ⟨hindex, rfl⟩ := List.getElem?_eq_some_iff.mp hget
  have hmapped : index < (claims.map UsageClaim.key).length := by simpa using hindex
  have hself : (claims.map UsageClaim.key)[index] = claims[index].key := List.getElem_map _
  rw [List.map_set, hkey, ← hself]
  exact List.set_getElem_self hmapped

/-- What a settlement that changes the row does to it. -/
structure Settled (row after : UsageRow) (now : Int) : Prop where
  attempts : after.attempts = row.attempts
  identifier : after.identifier = row.identifier
  updatedAt : after.updatedAt = now
  status : after.status = .sent ∨ after.status = .failed ∨ after.status = .deadLettered
  nextAttemptAt : after.status ≠ .sent → now < after.nextAttemptAt

theorem settleRow_settled {claim : UsageClaim} {event : UsageEvent}
    (h : st.row.HeldBy claim event) (outcome : Outcome) (now : Int) :
    Settled st.row (settleRow settings st.row claim event outcome now) now := by
  have hdelay := delayMinutes_pos event.attempts
  have hlater : now < now + delayMinutes event.attempts * 60000 := by omega
  unfold UsageRow.HeldBy at h
  unfold settleRow
  cases hsender : claim.sender with
  | worker =>
      rw [hsender] at h
      replace h : st.row.AtAttempt event := h
      cases outcome with
      | sent result =>
          simp only [markSent, if_pos h]
          exact ⟨rfl, rfl, rfl, .inl rfl, fun hnot => absurd rfl hnot⟩
      | failed nonRetryable diagnostic =>
          simp only [dispatchFailed, markFailed, if_pos h]
          refine ⟨rfl, rfl, rfl, .inr ?_, fun _ => hlater⟩
          show (if _ then UsageStatus.deadLettered else .failed) = _ ∨ _
          split
          · exact .inr rfl
          · exact .inl rfl
  | api =>
      rw [hsender] at h
      replace h : st.row.AsRead claim.submittedAt event := h
      cases outcome with
      | sent result =>
          simp only [apiSent, if_pos h]
          exact ⟨rfl, rfl, rfl, .inl rfl, fun hnot => absurd rfl hnot⟩
      | failed nonRetryable diagnostic =>
          simp only [apiFailed, if_pos h]
          refine ⟨rfl, rfl, rfl, .inr ?_, fun _ => hlater⟩
          show (if _ then UsageStatus.deadLettered else .failed) = _ ∨ _
          split
          · exact .inr rfl
          · exact .inl rfl

theorem UsageState.settling_eq_some {index : Nat} {now : Int} {claim : UsageClaim}
    {event : UsageEvent} (h : st.settling index now = some (claim, event)) :
    st.claims[index]? = some claim ∧ claim.event = some event ∧ claim.submitted.isSome = true ∧
      claim.submittedAt ≤ now := by
  unfold UsageState.settling at h
  split at h
  · cases h
  · rename_i found hget
    split at h
    · rename_i held submission hevent hsubmitted
      split at h
      · rename_i hclock
        obtain ⟨rfl, rfl⟩ := Prod.mk.inj (Option.some.inj h)
        exact ⟨hget, hevent, by rw [hsubmitted]; rfl, hclock⟩
      · cases h
    · cases h

namespace Orderly

theorem initial {row : UsageRow} (hnew : row.New) : Orderly (.initial row) where
  keys := .nil
  bounded := by simp [UsageState.initial]
  worker := by simp [UsageState.initial]
  submitted := by simp [UsageState.initial]
  pending := fun _ => rfl
  sending := fun hsending => by cases hnew.status.symm.trans hsending

/-- The claims of the current interval come first by their attempts alone. -/
theorem eq_last (horderly : Orderly st) {index : Nat} {claim last : UsageClaim}
    (hget : st.claims[index]? = some claim) (hlast : last ∈ st.claims.getLast?)
    (hreplays : claim.replays = last.replays) (hattempts : claim.attempts = last.attempts) :
    index + 1 = st.claims.length := by
  obtain ⟨hindex, rfl⟩ := List.getElem?_eq_some_iff.mp hget
  by_contra hne
  have hbefore : index < st.claims.length - 1 := by omega
  rw [List.getLast?_eq_getElem?] at hlast
  obtain ⟨hpos, rfl⟩ := List.getElem?_eq_some_iff.mp hlast
  have hkeys := List.pairwise_iff_getElem.mp horderly.keys index (st.claims.length - 1) hindex hpos
    hbefore
  omega

/-- A process edits what it holds of its own claim. -/
theorem edit (horderly : Orderly st) {index : Nat} {claim edited : UsageClaim}
    (hget : st.claims[index]? = some claim) (hkey : edited.key = claim.key)
    (hworker : edited.sender = .worker → ∀ event ∈ edited.event, event.attempts = edited.attempts)
    (hsubmitted : ∀ submission ∈ edited.submitted,
      ∃ event ∈ edited.event, submission.identifier = event.identifier)
    (hidentifier : ∀ event ∈ edited.event,
      event ∈ claim.event ∨ event.identifier = st.row.identifier) :
    Orderly { st with claims := st.claims.set index edited } where
  keys := by
    have hmap := map_key_set hget hkey
    have hkeys : (st.claims.map UsageClaim.key).Pairwise fun first second =>
        first.2.2.2 < second.2.2.2 ∨ first.2.2.2 = second.2.2.2 ∧ first.2.2.1 < second.2.2.1 :=
      List.pairwise_map.mpr horderly.keys
    rw [← hmap] at hkeys
    exact List.pairwise_map.mp hkeys
  bounded := by
    intro other hother
    rcases List.mem_or_eq_of_mem_set hother with hold | rfl
    · exact horderly.bounded other hold
    · have hbounded := horderly.bounded claim (List.mem_of_getElem? hget)
      simp only [UsageClaim.key, Prod.mk.injEq] at hkey
      simpa only [hkey.2.2.1, hkey.2.2.2] using hbounded
  worker := by
    intro other hother
    rcases List.mem_or_eq_of_mem_set hother with hold | rfl
    · exact horderly.worker other hold
    · exact hworker
  submitted := by
    intro other hother
    rcases List.mem_or_eq_of_mem_set hother with hold | rfl
    · exact horderly.submitted other hold
    · exact hsubmitted
  pending := by
    intro hpending
    have hnone := horderly.pending hpending
    rw [hnone] at hget
    cases hget
  sending := by
    intro hsending
    obtain ⟨last, hlast, hreplays, hattempts, hsubmittedAt, hevent⟩ := horderly.sending hsending
    simp only [List.getLast?_eq_getElem?, List.length_set, List.getElem?_set] at hlast ⊢
    split
    · rename_i hindex
      subst hindex
      -- the edited claim is the last one
      obtain rfl : claim = last := Option.some.inj (hget.symm.trans hlast)
      have hlength := (List.getElem?_eq_some_iff.mp hget).1
      simp only [UsageClaim.key, Prod.mk.injEq] at hkey
      refine ⟨edited, by rw [if_pos hlength]; rfl, hkey.2.2.2.trans hreplays,
        hkey.2.2.1.trans hattempts, by rw [hkey.2.1]; exact hsubmittedAt, ?_⟩
      intro event hmem
      rcases hidentifier event hmem with hold | hnew
      · exact hevent event hold
      · exact hnew
    · exact ⟨last, hlast, hreplays, hattempts, hsubmittedAt, hevent⟩

/-- The row leaves its claims behind. -/
theorem leave (horderly : Orderly st) {row : UsageRow} (hattempts : row.attempts = st.row.attempts)
    (hstatus : row.status = .sent ∨ row.status = .failed ∨ row.status = .deadLettered) :
    Orderly { st with row := row } where
  keys := horderly.keys
  bounded := by
    show ∀ claim ∈ st.claims, _ ∨ _ ∧ claim.attempts ≤ row.attempts
    rw [hattempts]
    exact horderly.bounded
  worker := horderly.worker
  submitted := horderly.submitted
  pending := by
    intro hpending
    have hpending : row.status = .pending := hpending
    simp [hpending] at hstatus
  sending := by
    intro hsending
    have hsending : row.status = .sending := hsending
    simp [hsending] at hstatus

theorem claimed (horderly : Orderly st) {claim : UsageClaim} {row : UsageRow}
    (hclaims : Claims settings st claim row) :
    Orderly { st with row := row, claims := st.claims ++ [claim] } where
  keys := by
    refine List.pairwise_append.mpr ⟨horderly.keys, List.pairwise_singleton _ _, ?_⟩
    intro first hfirst second hsecond
    obtain rfl := List.mem_singleton.mp hsecond
    have hbounded := horderly.bounded first hfirst
    have hreplays := hclaims.replays
    have hattempts := hclaims.attempts
    omega
  bounded := by
    intro other hother
    have hreplays := hclaims.replays
    have hattempts := hclaims.attempts
    have hrow := hclaims.rowAttempts
    show other.replays < st.replays ∨ other.replays = st.replays ∧ other.attempts ≤ row.attempts
    rcases List.mem_append.mp hother with hold | hnew
    · have hbounded := horderly.bounded other hold
      omega
    · obtain rfl := List.mem_singleton.mp hnew
      omega
  worker := by
    intro other hother hsender
    rcases List.mem_append.mp hother with hold | hnew
    · exact horderly.worker other hold hsender
    · obtain rfl := List.mem_singleton.mp hnew
      intro event hevent
      exact (hclaims.event event hevent).1
  submitted := by
    intro other hother
    rcases List.mem_append.mp hother with hold | hnew
    · exact horderly.submitted other hold
    · obtain rfl := List.mem_singleton.mp hnew
      simp [hclaims.unsent]
  pending := by
    intro hpending
    cases hclaims.status.symm.trans hpending
  sending := by
    intro _
    refine ⟨claim, by simp, hclaims.replays, hclaims.rowAttempts.symm, hclaims.submittedAt, ?_⟩
    intro event hevent
    exact (hclaims.event event hevent).2.1.trans hclaims.identifier.symm

theorem moves (horderly : Orderly st) {request : UsageStep} {after : UsageState}
    (hmoves : Moves settings st request after) : Orderly after := by
  cases hmoves with
  | refreshed hpending =>
      have hclaims := horderly.pending hpending
      exact ⟨horderly.keys, horderly.bounded, horderly.worker, horderly.submitted,
        fun _ => hclaims, horderly.sending⟩
  | workerClaimed _ hclaims => exact horderly.claimed hclaims
  | apiClaimed _ _ hclaims => exact horderly.claimed hclaims
  | read hget hsender hevent hread =>
      rename_i index claim event
      unfold apiRead at hread
      split at hread
      · obtain rfl := Option.some.inj hread
        have hmem := List.mem_of_getElem? hget
        refine horderly.edit hget rfl ?_ ?_ ?_
        · intro hworker
          cases hsender.symm.trans hworker
        · intro submission hsubmission
          obtain ⟨event, hheld, _⟩ := horderly.submitted claim hmem submission hsubmission
          rw [hevent] at hheld
          cases hheld
        · rintro event ⟨⟩
          exact .inr rfl
      · cases hread
  | submitted hget hevent hunsent =>
      rename_i index claim event
      have hmem := List.mem_of_getElem? hget
      refine horderly.edit hget rfl (horderly.worker claim hmem) ?_ fun event hheld => .inl hheld
      rintro submission ⟨⟩
      exact ⟨event, hevent, rfl⟩
  | settled hsettling hheld =>
      rename_i index outcome now claim event
      have hsettled : Settled st.row (settleRow settings st.row claim event outcome now) now :=
        settleRow_settled hheld outcome now
      exact horderly.leave hsettled.attempts hsettled.status
  | terminalized hsending hfinal hexpired =>
      unfold terminalizeExpiredFinalAttempts
      split
      · exact horderly.leave rfl (.inr (.inr rfl))
      · exact horderly
  | requeued hreplayable =>
      unfold requeueDeadLettered
      rw [if_pos hreplayable]
      refine ⟨horderly.keys, ?_, horderly.worker, horderly.submitted, ?_, ?_⟩
      · intro claim hclaim
        have hbounded := horderly.bounded claim hclaim
        refine .inl ?_
        show claim.replays < st.replays + 1
        omega
      · rintro ⟨⟩
      · rintro ⟨⟩

theorem step (horderly : Orderly st) (request : UsageStep) :
    Orderly (usageStep settings st request).2 := by
  have hcases : (usageStep settings st request).2 = st ∨ Moves settings st request _ :=
    usageStep_moves st request
  rcases hcases with hsame | hmoves
  · rw [hsame]
    exact horderly
  · exact horderly.moves hmoves

end Orderly

/-! ## A snapshot of active staff -/

namespace StaffSnapshot

/-- The defaults of both services, with dead-letter replay switched on. -/
def defaults : UsageSettings where
  maxAttempts := 5
  maxAttempts_pos := by decide
  leaseSeconds := 300
  leaseSeconds_least := by decide
  deadLetterReplayEnabled := true
  replayMinimumAgeSeconds := 900
  replayMinimumAgeSeconds_least := by decide
  maxReplays := 1
  apiMaxAttempts := maxStripeUsageAttempts
  md5 := fun text =>
    if text = "8f14e45f-ceea-467f-ab3b-2a1c5f0e9d10:ll_active_staff_20260706T000000Z_126e1ac622b0fdf94686f0d4:0"
    then "bd7582fa3429aeab029c4a9c13496981"
    else "27fcb96120a1b5d57c336bbf4fc61aa0"

/-- The snapshot of twelve active members of staff at 2026-07-06T00:00Z. -/
def row : UsageRow where
  id := "8f14e45f-ceea-467f-ab3b-2a1c5f0e9d10"
  quantity := 12
  identifier := "ll_active_staff_20260706T000000Z_126e1ac622b0fdf94686f0d4"
  idempotencyKey := "stripe_usage_ll_active_staff_20260706T000000Z_126e1ac622b0fdf94686f0d4"
  status := .pending
  attempts := 0
  nextAttemptAt := 1783296000000
  submittedAt := none
  sentAt := none
  stripeObjectId := none
  stripeRequestId := none
  lastError := none
  metadata := ⟨none, none, none, none, none, none, none, none, none⟩
  updatedAt := 1783296000000

theorem row_new : row.New := ⟨rfl, rfl, rfl⟩

end StaffSnapshot

end LunchLineup.Usage
