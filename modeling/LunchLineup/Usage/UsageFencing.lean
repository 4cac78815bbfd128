import LunchLineup.Usage.UsageSenders

/-!
# Fencing of settlements

A settlement should count only if it comes from the last claim of the row.  The API fences
with the time of its claim, the worker with the number of its attempt; a replay sets that
number back to zero.  So a worker that pauses over a replay can hold a row that others
claimed since: `Crosses` is this step.

`Timely` holds as long as there is no such step: the times of the claims then increase, and
both fences single out the last claim (`Timely.last`).  With the attempts in `Orderly` this
gives `settlements_fenced_iff`.
-/

namespace LunchLineup.Usage

open LunchLineup.Lib

variable {settings : UsageSettings} {st : UsageState}

/-! ## Fencing -/

/-- What fencing asks of a step: a row that is sent stays as it is, a settlement that
changes the row belongs to its last claim, and a row becomes sent by the settlement of a
claim that submitted the identifier of the row. -/
structure Fenced (t : Transition UsageState UsageStep Unit) : Prop where
  sent : t.before.row.status = .sent → t.after.row = t.before.row
  last : ∀ index outcome now, t.request = .settle index outcome now →
    t.after.row ≠ t.before.row → index + 1 = t.before.claims.length
  identifier : t.before.row.status ≠ .sent → t.after.row.status = .sent →
    ∃ index outcome now, t.request = .settle index outcome now ∧
      ∃ claim ∈ t.before.claims[index]?, ∃ submission ∈ claim.submitted,
        submission.identifier = t.after.row.identifier

/-- A claim of the worker from before the last replay settles at a row that is at the same
attempt again. -/
def Crosses (st : UsageState) : UsageStep → Prop
  | .settle index _ now =>
      match st.settling index now with
      | none => False
      | some (claim, event) =>
          claim.sender = .worker ∧ st.row.AtAttempt event ∧ claim.replays < st.replays
  | _ => False

instance (st : UsageState) : (request : UsageStep) → Decidable (Crosses st request)
  | .settle index _ now =>
      match h : st.settling index now with
      | none => .isFalse (by simp [Crosses, h])
      | some (claim, event) =>
          decidable_of_iff (claim.sender = .worker ∧ st.row.AtAttempt event ∧
            claim.replays < st.replays) (by simp [Crosses, h])
  | .prepareUsageSnapshot _ _ => .isFalse id
  | .workerClaim _ => .isFalse id
  | .apiClaim _ _ => .isFalse id
  | .apiRead _ => .isFalse id
  | .submit _ => .isFalse id
  | .terminalizeExpiredFinalAttempts _ => .isFalse id
  | .requeueDeadLettered _ => .isFalse id

theorem crosses_iff {index : Nat} {outcome : Outcome} {now : Int} {claim : UsageClaim}
    {event : UsageEvent} (hsettling : st.settling index now = some (claim, event)) :
    Crosses st (.settle index outcome now) ↔
      claim.sender = .worker ∧ st.row.AtAttempt event ∧ claim.replays < st.replays := by
  simp only [Crosses, hsettling]

theorem UsageRow.HeldBy.sending {row : UsageRow} {claim : UsageClaim} {event : UsageEvent}
    (h : row.HeldBy claim event) : row.status = .sending := by
  unfold UsageRow.HeldBy at h
  split at h
  · exact h.1
  · exact h.1

/-! ## While no settlement crosses a replay -/

/-- The times of the claims increase, and no later claim can be due before them. -/
structure Timely (st : UsageState) : Prop where
  increasing : st.claims.Pairwise fun first second => first.submittedAt < second.submittedAt
  sending : st.row.status = .sending → ∀ claim ∈ st.claims, claim.submittedAt ≤ st.row.updatedAt
  failed : st.row.status = .failed → ∀ claim ∈ st.claims, claim.submittedAt < st.row.nextAttemptAt
  deadLettered : st.row.status = .deadLettered →
    ∀ claim ∈ st.claims, claim.submittedAt ≤ st.row.updatedAt

namespace Timely

theorem initial (row : UsageRow) : Timely (.initial row) where
  increasing := .nil
  sending := by simp [UsageState.initial]
  failed := by simp [UsageState.initial]
  deadLettered := by simp [UsageState.initial]

theorem le_last (htimely : Timely st) {last : UsageClaim} (hlast : last ∈ st.claims.getLast?)
    {claim : UsageClaim} (hclaim : claim ∈ st.claims) : claim.submittedAt ≤ last.submittedAt := by
  obtain ⟨earlier, hsplit⟩ := List.getLast?_eq_some_iff.mp hlast
  have hincreasing := htimely.increasing
  rw [hsplit] at hincreasing hclaim
  rcases List.mem_append.mp hclaim with hearlier | hself
  · have hlt := (List.pairwise_append.mp hincreasing).2.2 claim hearlier last
      (List.mem_singleton_self last)
    exact hlt.le
  · rw [List.mem_singleton.mp hself]

/-- Two claims of one time are one claim. -/
theorem eq_last (htimely : Timely st) {index : Nat} {claim last : UsageClaim}
    (hget : st.claims[index]? = some claim) (hlast : last ∈ st.claims.getLast?)
    (hsame : claim.submittedAt = last.submittedAt) : index + 1 = st.claims.length := by
  obtain ⟨hindex, rfl⟩ := List.getElem?_eq_some_iff.mp hget
  by_contra hne
  have hbefore : index < st.claims.length - 1 := by omega
  rw [List.getLast?_eq_getElem?] at hlast
  obtain ⟨hpos, rfl⟩ := List.getElem?_eq_some_iff.mp hlast
  have hlt := List.pairwise_iff_getElem.mp htimely.increasing index (st.claims.length - 1) hindex
    hpos hbefore
  omega

/-- A claim that holds the row is its last one.  The attempts tell claims of one replay
interval apart, and the times all of them. -/
theorem last (htimely : Timely st) (horderly : Orderly st) {index : Nat} {outcome : Outcome}
    {now : Int} {claim : UsageClaim} {event : UsageEvent}
    (hsettling : st.settling index now = some (claim, event)) (hheld : st.row.HeldBy claim event)
    (hcross : ¬ Crosses st (.settle index outcome now)) :
    index + 1 = st.claims.length ∧ claim ∈ st.claims.getLast? ∧
      event.identifier = st.row.identifier := by
  obtain ⟨hget, hevent, _, _⟩ := UsageState.settling_eq_some hsettling
  have hmem := List.mem_of_getElem? hget
  have hsending := hheld.sending
  obtain ⟨last, hlast, hreplays, hattempts, hsubmittedAt, hidentifier⟩ :=
    horderly.sending hsending
  have hindex : index + 1 = st.claims.length := by
    rw [crosses_iff hsettling] at hcross
    unfold UsageRow.HeldBy at hheld
    split at hheld
    · rename_i hsender
      -- the worker holds the attempt, and the replays have not changed
      have hclaimed := horderly.worker claim hmem hsender event hevent
      have hbounded := horderly.bounded claim hmem
      have hsame : ¬ claim.replays < st.replays := fun hlt => hcross ⟨hsender, hheld, hlt⟩
      have hrow := hheld.2
      apply horderly.eq_last hget hlast
      · omega
      · omega
    · -- the API holds the time of its claim
      exact htimely.eq_last hget hlast (Option.some.inj (hheld.2.1.symm.trans hsubmittedAt))
  have hself : claim = last := by
    have hwhere : st.claims.length - 1 = index := by omega
    rw [List.getLast?_eq_getElem?, hwhere] at hlast
    exact Option.some.inj (hget.symm.trans hlast)
  subst hself
  exact ⟨hindex, hlast, hidentifier event hevent⟩

/-- The times do not depend on what a process holds of its claim. -/
theorem edit (htimely : Timely st) {index : Nat} {claim edited : UsageClaim}
    (hget : st.claims[index]? = some claim) (hkey : edited.key = claim.key) :
    Timely { st with claims := st.claims.set index edited } := by
  have hsame : edited.submittedAt = claim.submittedAt := by
    simp only [UsageClaim.key, Prod.mk.injEq] at hkey
    exact hkey.2.1
  have hmem : ∀ P : Int → Prop, (∀ other ∈ st.claims, P other.submittedAt) →
      ∀ other ∈ st.claims.set index edited, P other.submittedAt := by
    intro P hall other hother
    rcases List.mem_or_eq_of_mem_set hother with hold | rfl
    · exact hall other hold
    · rw [hsame]
      exact hall claim (List.mem_of_getElem? hget)
  refine ⟨?_, fun h => hmem (· ≤ st.row.updatedAt) (htimely.sending h),
    fun h => hmem (· < st.row.nextAttemptAt) (htimely.failed h),
    fun h => hmem (· ≤ st.row.updatedAt) (htimely.deadLettered h)⟩
  have hincreasing : (st.claims.map UsageClaim.key).Pairwise fun first second =>
      first.2.1 < second.2.1 := List.pairwise_map.mpr htimely.increasing
  rw [← map_key_set hget hkey] at hincreasing
  show (st.claims.set index edited).Pairwise fun first second =>
    first.submittedAt < second.submittedAt
  exact (List.pairwise_map (f := UsageClaim.key)).mp hincreasing

theorem claimed (htimely : Timely st) (horderly : Orderly st) {claim : UsageClaim}
    {row : UsageRow} (hclaims : Claims settings st claim row) :
    Timely { st with row := row, claims := st.claims ++ [claim] } := by
  have hbefore : ∀ other ∈ st.claims, other.submittedAt < claim.submittedAt := by
    intro other hother
    rcases hclaims.due with hpending | ⟨hfailed, hdue⟩ | ⟨hsending, hstale | ⟨previous, hwas, hstale⟩⟩
    · rw [horderly.pending hpending] at hother
      cases hother
    · calc other.submittedAt < st.row.nextAttemptAt := htimely.failed hfailed other hother
        _ ≤ claim.submittedAt := hdue
    · calc other.submittedAt ≤ st.row.updatedAt := htimely.sending hsending other hother
        _ < claim.submittedAt := hstale
    · obtain ⟨last, hlast, _, _, hsubmittedAt, _⟩ := horderly.sending hsending
      obtain rfl : previous = last.submittedAt := Option.some.inj (hwas.symm.trans hsubmittedAt)
      calc other.submittedAt ≤ last.submittedAt := htimely.le_last hlast hother
        _ < claim.submittedAt := hstale
  refine ⟨?_, ?_, ?_, ?_⟩
  · refine List.pairwise_append.mpr ⟨htimely.increasing, List.pairwise_singleton _ _, ?_⟩
    intro first hfirst second hsecond
    obtain rfl := List.mem_singleton.mp hsecond
    exact hbefore first hfirst
  · intro _ other hother
    rcases List.mem_append.mp hother with hold | hnew
    · exact ((hbefore other hold).trans_le hclaims.written).le
    · obtain rfl := List.mem_singleton.mp hnew
      exact hclaims.written
  · intro hfailed
    cases hclaims.status.symm.trans hfailed
  · intro hdead
    cases hclaims.status.symm.trans hdead

theorem moves (htimely : Timely st) (horderly : Orderly st) {request : UsageStep}
    {after : UsageState} (hmoves : Moves settings st request after)
    (hcross : ¬ Crosses st request) : Timely after := by
  cases hmoves with
  | refreshed hpending =>
      have hnone := horderly.pending hpending
      refine ⟨htimely.increasing, ?_, htimely.failed, ?_⟩
      · simp [hnone]
      · simp [hnone]
  | workerClaimed _ hclaims => exact htimely.claimed horderly hclaims
  | apiClaimed _ _ hclaims => exact htimely.claimed horderly hclaims
  | read hget _ _ _ => exact htimely.edit hget rfl
  | submitted hget _ _ => exact htimely.edit hget rfl
  | settled hsettling hheld =>
      rename_i index outcome now claim event
      obtain ⟨_, hlast, _⟩ := htimely.last horderly hsettling hheld hcross
      obtain ⟨_, _, _, hclock⟩ := UsageState.settling_eq_some hsettling
      have hall : ∀ other ∈ st.claims, other.submittedAt ≤ now := fun other hother =>
        (htimely.le_last hlast hother).trans hclock
      have hsettled : Settled st.row (settleRow settings st.row claim event outcome now) now :=
        settleRow_settled hheld outcome now
      refine ⟨htimely.increasing, ?_, ?_, ?_⟩
      · intro _ other hother
        rw [hsettled.updatedAt]
        exact hall other hother
      · intro hfailed other hother
        have hnot : (settleRow settings st.row claim event outcome now).status ≠ .sent := by
          rw [hfailed]
          decide
        exact (hall other hother).trans_lt (hsettled.nextAttemptAt hnot)
      · intro _ other hother
        rw [hsettled.updatedAt]
        exact hall other hother
  | terminalized hsending hfinal hexpired =>
      rename_i now
      have hall : ∀ other ∈ st.claims, other.submittedAt ≤ now := fun other hother =>
        (htimely.sending hsending other hother).trans hexpired.le
      unfold terminalizeExpiredFinalAttempts
      split
      · refine ⟨htimely.increasing, ?_, ?_, fun _ => hall⟩
        · rintro ⟨⟩
        · rintro ⟨⟩
      · exact htimely
  | requeued hreplayable =>
      rename_i now
      have hage := settings.replayMinimumAgeSeconds_least
      obtain ⟨_, hdead, hold, _⟩ := id hreplayable
      unfold requeueDeadLettered
      rw [if_pos hreplayable]
      refine ⟨htimely.increasing, ?_, ?_, ?_⟩
      · rintro ⟨⟩
      · intro _ other hother
        have hle := htimely.deadLettered hdead other hother
        show other.submittedAt < now
        omega
      · rintro ⟨⟩

end Timely

/-! ## The runs whose settlements are fenced -/

/-- A settlement of a claim that holds the row changes its status. -/
theorem settleRow_ne {claim : UsageClaim} {event : UsageEvent} (h : st.row.HeldBy claim event)
    (hsending : st.row.status = .sending) (outcome : Outcome) (now : Int) :
    settleRow settings st.row claim event outcome now ≠ st.row := by
  intro hsame
  have hsettled : Settled st.row (settleRow settings st.row claim event outcome now) now :=
    settleRow_settled h outcome now
  have hstatus := hsettled.status
  rw [hsame, hsending] at hstatus
  simp at hstatus

/-- No step changes a row that is sent. -/
theorem Moves.sent {request : UsageStep} {after : UsageState}
    (hmoves : Moves settings st request after) (hsent : st.row.status = .sent) :
    after.row = st.row := by
  cases hmoves with
  | refreshed hpending => cases hsent.symm.trans hpending
  | workerClaimed _ hclaims =>
      rcases hclaims.due with hpending | ⟨hfailed, _⟩ | ⟨hsending, _⟩
      · cases hsent.symm.trans hpending
      · cases hsent.symm.trans hfailed
      · cases hsent.symm.trans hsending
  | apiClaimed _ _ hclaims =>
      rcases hclaims.due with hpending | ⟨hfailed, _⟩ | ⟨hsending, _⟩
      · cases hsent.symm.trans hpending
      · cases hsent.symm.trans hfailed
      · cases hsent.symm.trans hsending
  | read _ _ _ _ => rfl
  | submitted _ _ _ => rfl
  | settled _ hheld => cases hsent.symm.trans hheld.sending
  | terminalized hsending _ _ => cases hsent.symm.trans hsending
  | requeued hreplayable => cases hsent.symm.trans hreplayable.2.1

/-- A row becomes sent by the settlement of a claim that holds it. -/
theorem Moves.becomes_sent {request : UsageStep} {after : UsageState}
    (hmoves : Moves settings st request after) (hnot : st.row.status ≠ .sent)
    (hsent : after.row.status = .sent) :
    ∃ index outcome now claim event, request = .settle index outcome now ∧
      st.settling index now = some (claim, event) ∧ st.row.HeldBy claim event ∧
      after.row.identifier = st.row.identifier := by
  cases hmoves with
  | refreshed hpending => cases hpending.symm.trans hsent
  | workerClaimed _ hclaims => cases hclaims.status.symm.trans hsent
  | apiClaimed _ _ hclaims => cases hclaims.status.symm.trans hsent
  | read _ _ _ _ => exact absurd hsent hnot
  | submitted _ _ _ => exact absurd hsent hnot
  | settled hsettling hheld =>
      rename_i index outcome now claim event
      have hsettled : Settled st.row (settleRow settings st.row claim event outcome now) now :=
        settleRow_settled hheld outcome now
      exact ⟨index, outcome, now, claim, event, rfl, hsettling, hheld, hsettled.identifier⟩
  | terminalized hsending _ _ =>
      unfold terminalizeExpiredFinalAttempts at hsent
      split at hsent
      · cases hsent
      · exact absurd hsent hnot
  | requeued hreplayable =>
      unfold requeueDeadLettered at hsent
      rw [if_pos hreplayable] at hsent
      cases hsent

/-- A step that crosses no replay is fenced. -/
theorem Moves.fenced {request : UsageStep} {after : UsageState}
    (hmoves : Moves settings st request after) (horderly : Orderly st) (htimely : Timely st)
    (hcross : ¬ Crosses st request) : Fenced ⟨st, request, (), after⟩ := by
  refine ⟨hmoves.sent, ?_, ?_⟩
  · rintro index outcome now rfl _
    cases hmoves with
    | settled hsettling hheld => exact (htimely.last horderly hsettling hheld hcross).1
  · intro hnot hsent
    obtain ⟨index, outcome, now, claim, event, rfl, hsettling, hheld, hidentifier⟩ :=
      hmoves.becomes_sent hnot hsent
    obtain ⟨hget, hevent, hsubmitted, _⟩ := UsageState.settling_eq_some hsettling
    obtain ⟨submission, hsubmission⟩ := Option.isSome_iff_exists.mp hsubmitted
    obtain ⟨held, hheldEvent, hsame⟩ :=
      horderly.submitted claim (List.mem_of_getElem? hget) submission hsubmission
    obtain rfl : event = held := Option.some.inj (hevent.symm.trans hheldEvent)
    have hrow := (htimely.last horderly hsettling hheld hcross).2.2
    exact ⟨index, outcome, now, rfl, claim, hget, submission, hsubmission,
      hsame.trans (hrow.trans hidentifier.symm)⟩

/-- A step that crosses a replay is not: it changes the row for a claim that is not the last. -/
theorem not_fenced_of_crosses (horderly : Orderly st) {request : UsageStep}
    (hcross : Crosses st request) : ¬ Fenced (transition (usageStep settings) st request) := by
  intro hfenced
  cases request with
  | settle index outcome now =>
      cases hsettling : st.settling index now with
      | none => simp only [Crosses, hsettling] at hcross
      | some held =>
          obtain ⟨claim, event⟩ := held
          obtain ⟨hsender, hat, hearlier⟩ := (crosses_iff hsettling).mp hcross
          have hheld : st.row.HeldBy claim event := by
            unfold UsageRow.HeldBy
            rw [hsender]
            exact hat
          have hnext : (usageStep settings st (.settle index outcome now)).2.row =
              settleRow settings st.row claim event outcome now := by
            simp only [usageStep, hsettling]
          have hne : (usageStep settings st (.settle index outcome now)).2.row ≠ st.row := by
            rw [hnext]
            exact settleRow_ne hheld hheld.sending outcome now
          have hindex := hfenced.last index outcome now rfl hne
          obtain ⟨last, hlast, hreplays, _⟩ := horderly.sending hheld.sending
          obtain ⟨hget, _⟩ := UsageState.settling_eq_some hsettling
          -- the last claim was made after the replay
          have hwhere : st.claims.length - 1 = index := by
            show st.claims.length - 1 = index
            replace hindex : index + 1 = st.claims.length := hindex
            omega
          rw [List.getLast?_eq_getElem?, hwhere] at hlast
          obtain rfl : claim = last := Option.some.inj (hget.symm.trans hlast)
          omega
  | _ => exact hcross

theorem fenced_of_not_crosses (horderly : Orderly st) (htimely : Timely st) {request : UsageStep}
    (hcross : ¬ Crosses st request) : Fenced (transition (usageStep settings) st request) := by
  have hcases : (usageStep settings st request).2 = st ∨ Moves settings st request _ :=
    usageStep_moves st request
  rcases hcases with hsame | hmoves
  · have hrow : (usageStep settings st request).2.row = st.row := by rw [hsame]
    refine ⟨fun _ => hrow, fun _ _ _ _ hne => absurd hrow hne, fun hnot hsent => ?_⟩
    exact absurd ((congrArg UsageRow.status hrow).symm.trans hsent) hnot
  · exact hmoves.fenced horderly htimely hcross

/-- Until a settlement crosses a replay, the claims stay in order and in time. -/
theorem ordered_step (request : UsageStep) (h : Orderly st ∧ Timely st)
    (hcross : ¬ Crosses st request) :
    Orderly (usageStep settings st request).2 ∧ Timely (usageStep settings st request).2 := by
  refine ⟨h.1.step request, ?_⟩
  have hcases : (usageStep settings st request).2 = st ∨ Moves settings st request _ :=
    usageStep_moves st request
  rcases hcases with hsame | hmoves
  · rw [hsame]
    exact h.2
  · exact h.2.moves h.1 hmoves hcross

/-- Settlements are fenced in exactly the runs in which none crosses a replay: in every
interleaving of any number of workers and API processes, pausing for any time, at a row
that was new. -/
theorem settlements_fenced_iff (settings : UsageSettings) {row : UsageRow} (hnew : row.New)
    (steps : List UsageStep) :
    (∀ t ∈ trace (usageStep settings) (.initial row) steps, Fenced t) ↔
      ∀ t ∈ trace (usageStep settings) (.initial row) steps, ¬ Crosses t.before t.request := by
  have hinit := Orderly.initial hnew
  have horderly : ∀ st request, Orderly st → Orderly (usageStep settings st request).2 :=
    fun st request h => h.step request
  refine ⟨?_, ?_⟩
  · intro hfenced t ht hcross
    obtain ⟨hbefore, hstep⟩ := invariant_of_mem_trace Orderly horderly hinit ht
    have hthis := hfenced t ht
    rw [hstep] at hthis
    exact not_fenced_of_crosses hbefore hcross hthis
  · intro hnone t ht
    obtain ⟨_, hstep⟩ := invariant_of_mem_trace Orderly horderly hinit ht
    have hbefore : Orderly t.before ∧ Timely t.before :=
      invariant_before_of_trace (fun st => Orderly st ∧ Timely st)
        (fun st request h hcross => ordered_step request h hcross)
        ⟨hinit, Timely.initial row⟩ hnone ht
    rw [hstep]
    exact fenced_of_not_crosses hbefore.1 hbefore.2 (hnone t ht)

/-! ## A pause over a replay -/

namespace PausedWorker

open StaffSnapshot

/-- A first worker submits and pauses.  Five minutes later a second one takes over, and its
request is refused for good.  After a quarter of an hour the event is replayed, and a third
worker claims it.  Now the first worker goes on. -/
def steps : List UsageStep :=
  [.workerClaim 1783296000000, .submit 0, .workerClaim 1783296300000, .submit 1,
    .settle 1 (.failed true "") 1783296301000, .requeueDeadLettered 1783297201000,
    .workerClaim 1783297202000,
    .settle 0 (.sent ⟨some "ll_active_staff_20260706T000000Z_126e1ac622b0fdf94686f0d4", none⟩)
      1783297203000]

/-- The row is sent with the identifier of the replay, which nobody submitted. -/
theorem paused_worker_settles_replay :
    ¬ (∀ t ∈ trace (usageStep defaults) (.initial row) steps, Fenced t) ∧
    (final (usageStep defaults) (.initial row) steps).row.status = .sent ∧
    (final (usageStep defaults) (.initial row) steps).row.identifier =
      "ll_replay_bd7582fa3429aeab029c4a9c13496981" ∧
    (final (usageStep defaults) (.initial row) steps).claims.map (·.submitted.map (·.identifier)) =
      [some row.identifier, some row.identifier, none] := by
  refine ⟨?_, by decide +kernel, by decide +kernel, by decide +kernel⟩
  intro hfenced
  have hcross : ∃ t ∈ trace (usageStep defaults) (.initial row) steps,
      Crosses t.before t.request := by
    decide +kernel
  obtain ⟨t, ht, hcross⟩ := hcross
  obtain ⟨hbefore, hstep⟩ := invariant_of_mem_trace Orderly (fun st request h => h.step request)
    (Orderly.initial row_new) ht
  have hthis := hfenced t ht
  rw [hstep] at hthis
  exact not_fenced_of_crosses hbefore hcross hthis

/-- Before the first worker goes on, the third one is sending and the run is fenced. -/
theorem fenced_before_settlement :
    (final (usageStep defaults) (.initial row) steps.dropLast).row.status = .sending ∧
    ∀ t ∈ trace (usageStep defaults) (.initial row) steps.dropLast, Fenced t :=
  ⟨by decide +kernel,
    (settlements_fenced_iff defaults row_new steps.dropLast).mpr (by decide +kernel)⟩

end PausedWorker

end LunchLineup.Usage
