import LunchLineup.Jobs.Transactions

/-!
# What a transaction does to its job

An accepted transaction on a job leaves the tables as they are, moves the job
from one live status to another, or refunds its debit and closes it (`Effect`).
Persisting is the one transaction that delivers shifts and completes the job
(`Delivered`).  There is one lemma for each transaction; nothing after this
file unfolds one.
-/

namespace LunchLineup.Jobs

open LunchLineup.Lib LunchLineup.Python LunchLineup.Billing LunchLineup.Worker

/-- The effects an accepted transaction can have on the job with id `jobId`. -/
inductive Effect (db : Database) (jobId : String) : Database → Prop
  | unchanged : Effect db jobId db
  | progressed (job next : ScheduleSolveJob) (hfound : Dict.get? db.jobs jobId = some job)
      (hlive : job.status.terminal = false) (hnext : next.status.terminal = false) :
      Effect db jobId { db with jobs := Dict.set db.jobs jobId next }
  | refunded (job next : ScheduleSolveJob) (debit row : CreditTransaction) (billing : Store)
      (settlement : Settlement) (wallet : Wallet)
      (hfound : Dict.get? db.jobs jobId = some job) (hlive : job.status.terminal = false)
      (hnext : next.status.refunded = true) (hdebit : debit ∈ db.billing.ledger)
      (hdebitId : debit.id = debitId jobId) (hrowId : row.id = refundId jobId)
      (hvalue : row.amount - row.debtAmount = -debit.amount)
      (happlies : Applies db.billing settlement billing row wallet) :
      Effect db jobId
        { db with jobs := Dict.set db.jobs jobId next, billing := billing }

/-- The solved shifts are written, the revision of the schedule is raised by
one, and the live job has succeeded. -/
structure Delivered (deployment : Deployment) (now : Int) (db : Database)
    (payload : SolvePayload) (solvedShifts : List NormalizedShift) (jobId : String)
    (next : Database) (schedule : Schedule) (job row : ScheduleSolveJob) : Prop where
  found : Dict.get? db.jobs jobId = some job
  live : job.status.terminal = false
  scheduleFound : Dict.get? db.schedules payload.scheduleId = some schedule
  succeeded : row.status = .succeeded
  tables : next =
    { bumpRevision now payload.scheduleId schedule
        (writeSolvedShifts now payload (draftShifts deployment db payload) solvedShifts db) with
      jobs := Dict.set db.jobs jobId row }

section

variable {deployment : Deployment} {now : Int} {db next : Database} {jobId : String}

theorem lockedJob_found {tenantId scheduleId locationId : String} {job : ScheduleSolveJob}
    (h : db.lockedJob jobId tenantId scheduleId locationId = some job) :
    Dict.get? db.jobs jobId = some job := by
  unfold Database.lockedJob at h
  exact (Option.filter_eq_some_iff.mp h).1

theorem mem_creditRows {platformAdmin : Bool} {tenantId id : String} {row : CreditTransaction}
    (h : row ∈ db.creditRows platformAdmin tenantId id) :
    row ∈ db.billing.ledger ∧ row.id = id := by
  unfold Database.creditRows at h
  rw [List.mem_filter] at h
  refine ⟨h.1, ?_⟩
  have hkey := h.2
  simp only [Bool.and_eq_true, decide_eq_true_eq] at hkey
  exact hkey.1

/-! ## Claim and persist -/

theorem claim_effect {payload : SolvePayload} {retryCount : Int} {executionToken : String}
    {result : ClaimResult}
    (h : claimScheduleSolveJob deployment now db payload jobId retryCount executionToken =
      .ok (result, next)) : Effect db jobId next := by
  unfold claimScheduleSolveJob at h
  split at h
  · cases h
  rename_i job hlocked
  have hfound := lockedJob_found hlocked
  obtain ⟨_, _, h⟩ := bind_eq_ok.mp h
  split at h
  · cases h
    exact .unchanged
  rename_i hlive
  obtain ⟨_, _, h⟩ := bind_eq_ok.mp h
  split at h
  · cases h
    exact .unchanged
  · obtain ⟨after, hupdate, h⟩ := bind_eq_ok.mp h
    cases h
    rw [updateJob_ok hupdate]
    refine .progressed job _ hfound (by simpa using hlive) ?_
    rw [scrub_status]
    rfl

/-- Persisting leaves the tables alone or delivers its own payload. -/
theorem persist_cases {rt : Runtime} {payload : SolvePayload}
    {solvedShifts : List NormalizedShift} {retryCount : Int} {executionToken : Option String}
    {result : PersistResult}
    (h : persistSolvedSchedule rt deployment now db payload solvedShifts jobId retryCount
      executionToken = .ok (result, next)) :
    next = db ∨ ∃ schedule job row,
      Delivered deployment now db payload solvedShifts jobId next schedule job row := by
  unfold persistSolvedSchedule at h
  simp only [bind_eq_ok] at h
  obtain ⟨_, _, _, _, h⟩ := h
  split at h
  · cases h
  simp only [bind_eq_ok] at h
  obtain ⟨_, _, _, _, h⟩ := h
  split at h
  · cases h
  rename_i schedule hschedule
  simp only [bind_eq_ok] at h
  obtain ⟨_, _, _, _, _, _, h⟩ := h
  split at h
  · cases h
  rename_i job hlocked
  obtain ⟨_, _, h⟩ := bind_eq_ok.mp h
  split at h
  · cases h
    exact Or.inl rfl
  rename_i hnot
  simp only [bind_eq_ok, ensure_eq_ok] at h
  obtain ⟨_, hnotRefunded, _, _, _, _, h⟩ := h
  split at h
  · cases h
  simp only [bind_eq_ok, ensure_eq_ok] at h
  obtain ⟨_, _, _, _, after, hupdate, h⟩ := h
  cases h
  have hlive : job.status.terminal = false := by
    cases hstatus : job.status
    all_goals simp_all [JobStatus.terminal, JobStatus.refunded]
  exact Or.inr ⟨schedule, job, _, lockedJob_found hlocked, hlive, hschedule, scrub_status _,
    updateJob_ok hupdate⟩

/-! ## Refunds -/

theorem validProvenance_eq_some {job : ScheduleSolveJob}
    {debitRows refundRows : List CreditTransaction} {amount : Int}
    (h : validProvenance job jobId debitRows refundRows = some amount) :
    ∃ debit ∈ debitRows, debit.amount = amount := by
  unfold validProvenance at h
  split at h
  · rename_i debit _ _ _
    split at h
    · cases h
      exact ⟨debit, by simp, rfl⟩
    · cases h
  · cases h

/-- The statement of a terminalisation refunds the debit, or writes nothing and
reports no settlement. -/
theorem terminalizeStatement_cases {platformAdmin guard : Bool} {tenantId : String}
    {job terminalized : ScheduleSolveJob} {debitAmount : Option Int} {refusal : JobError}
    {settlement : Option PositiveCreditSettlement}
    (hfound : Dict.get? db.jobs jobId = some job)
    (hterminalized : terminalized.status.refunded = true)
    (hdebit : ∀ amount, debitAmount = some amount →
      ∃ debit ∈ db.creditRows platformAdmin tenantId (debitId jobId), debit.amount = amount)
    (h : terminalizeStatement deployment db platformAdmin jobId job terminalized guard debitAmount
      refusal = .ok (settlement, next)) :
    (settlement = none ∧ next = db) ∨
      ∃ settled, settlement = some settled ∧ job.status.terminal = false ∧ guard = true ∧
        (settled.replayed = false → Effect db jobId next) := by
  unfold terminalizeStatement at h
  split at h
  · cases h
    exact Or.inl ⟨rfl, rfl⟩
  rename_i amount
  split at h
  · rename_i hguard
    simp only [bind_eq_ok] at h
    obtain ⟨updated, hupdate, ⟨settled, billing⟩, hsettle, h⟩ := h
    cases h
    refine Or.inr ⟨settled, rfl, hguard.1, hguard.2, ?_⟩
    intro hreplayed
    have hsettle := withRefusal_ok hsettle
    have hupdated := updateJob_ok hupdate
    subst hupdated
    have hcredited := settlePositive_creditedValue hsettle
    obtain ⟨row, hid, _, _, hreplay | ⟨⟨wallet, happlies⟩, _⟩⟩ := settlePositive_cases hsettle
    · exact absurd hreplay.2 (by simp [hreplayed])
    obtain ⟨debit, hmem, hamount⟩ := hdebit amount rfl
    obtain ⟨hrecorded, hdebitId⟩ := mem_creditRows hmem
    have hvalue : row.amount - row.debtAmount = -debit.amount := by
      have hreports := happlies.reports.2.1
      simp only [Option.some.injEq] at hcredited
      rw [← hreports, ← hcredited, hamount]
    refine .refunded job _ debit row billing _ wallet hfound hguard.1 ?_ hrecorded hdebitId ?_
      hvalue happlies
    · rw [scrub_status]
      exact hterminalized
    · exact Option.some.inj hid
  · cases h
    exact Or.inl ⟨rfl, rfl⟩

theorem terminalizeWithRefund_effect {platformAdmin : Bool}
    {tenantId scheduleId locationId : String} {status : JobStatus} {safeReason : Option String}
    {retryCount : Int} {resultShiftCount : Option Int} {executionToken : Option String}
    {refusal : JobError} (hstatus : status.refunded = true)
    (h : terminalizeScheduleSolveJobWithRefund deployment now db platformAdmin tenantId scheduleId
      locationId jobId status safeReason retryCount resultShiftCount executionToken refusal =
      .ok next) : Effect db jobId next := by
  unfold terminalizeScheduleSolveJobWithRefund at h
  split at h
  · cases h
  rename_i job hlocked
  simp only [bind_eq_ok] at h
  obtain ⟨⟨settlement, after⟩, hstatement, _, houtcome, h⟩ := h
  cases h
  rcases terminalizeStatement_cases (lockedJob_found hlocked) hstatus
    (fun _ => validProvenance_eq_some) hstatement with
    ⟨_, rfl⟩ | ⟨settled, rfl, hlive, _, heffect⟩
  · exact .unchanged
  · -- the outcome check passed, so the refund was not a replay
    simp only [assertScheduleRefundOutcome, bind_eq_ok, hlive, Bool.false_eq_true, if_false,
      ensure_eq_ok] at houtcome
    obtain ⟨_, _, _, hreplayed, _⟩ := houtcome
    exact heffect hreplayed

theorem terminalizeById_effect {status : JobStatus} {reason : String} {retryCount : Int}
    (h : terminalizeScheduleSolveJobById deployment now db jobId status reason retryCount =
      .ok next) : Effect db jobId next := by
  unfold terminalizeScheduleSolveJobById at h
  simp only [bind_eq_ok, ensure_eq_ok] at h
  obtain ⟨_, hstatus, h⟩ := h
  split at h
  · cases h
  · exact terminalizeWithRefund_effect hstatus h

/-- A report of anything but a success moves a live job or refunds it. -/
theorem updateStatus_effect {payload : SolvePayload} {status : JobStatus}
    {reason : Option String} {retryCount : Int} {resultShiftCount : Option Int}
    {executionToken : Option String} (hstatus : status ≠ .succeeded)
    (h : updateScheduleSolveJobStatus deployment now db payload jobId status reason retryCount
      resultShiftCount executionToken = .ok next) : Effect db jobId next := by
  unfold updateScheduleSolveJobStatus at h
  simp only [bind_eq_ok] at h
  obtain ⟨_, _, h⟩ := h
  split at h
  · rename_i hrefunded
    exact terminalizeWithRefund_effect hrefunded h
  rename_i hnotRefunded
  split at h
  · cases h
    exact .unchanged
  rename_i job hfound
  split at h
  · rename_i hguard
    rw [updateJob_ok h]
    refine .progressed job _ hfound hguard.2.2.1 ?_
    rw [scrub_status]
    cases status
    all_goals simp_all [JobStatus.terminal, JobStatus.refunded]
  · cases h
    exact .unchanged

theorem terminalizeFailedPublication_effect {publication : ClaimedScheduleSolvePublication}
    {message : String}
    (h : terminalizeFailedPublication deployment now db publication message = .ok next) :
    Effect db publication.id next := by
  unfold terminalizeFailedPublication at h
  split at h
  · cases h
  rename_i job hfilter
  have hfound : Dict.get? db.jobs publication.id = some job :=
    (Option.filter_eq_some_iff.mp hfilter).1
  simp only [bind_eq_ok] at h
  obtain ⟨⟨settlement, after⟩, hstatement, _, houtcome, h⟩ := h
  cases h
  have hdebit : ∀ amount,
      (if job.executionToken.isNone || job.executionLeaseUntil.any (· ≤ now) then
        validProvenance job publication.id
          (db.creditRows false publication.tenantId (debitId publication.id))
          (db.creditRows false publication.tenantId (refundId publication.id))
        else none) = some amount →
      ∃ debit ∈ db.creditRows false publication.tenantId (debitId publication.id),
        debit.amount = amount := by
    intro amount hamount
    split at hamount
    · exact validProvenance_eq_some hamount
    · cases hamount
  rcases terminalizeStatement_cases hfound rfl hdebit hstatement with
    ⟨_, rfl⟩ | ⟨settled, rfl, hlive, hguard, heffect⟩
  · exact .unchanged
  · -- an update took place, so no lease was live and the outcome was checked
    have hunleased : ¬ (job.executionToken.isSome = true ∧
        job.executionLeaseUntil.any (now < ·) = true) := by
      rintro ⟨htoken, hlease⟩
      cases hto : job.executionToken with
      | none => simp [hto] at htoken
      | some token =>
          cases hle : job.executionLeaseUntil with
          | none => simp [hle] at hlease
          | some lease =>
              simp [hto, hle] at hguard hlease
              omega
    simp only [assertPublicationRefundOutcome, bind_eq_ok, hlive, Bool.false_eq_true, if_false,
      if_neg hunleased, ensure_eq_ok] at houtcome
    obtain ⟨_, _, _, _, _, _, hreplayed, _⟩ := houtcome
    exact heffect hreplayed

end

end LunchLineup.Jobs
