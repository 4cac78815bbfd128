import LunchLineup.Jobs.Effects
import LunchLineup.Python.Reference

/-!
# A schedule solve job settles exactly once

Workers and publishers interleave their transactions on a job in any order and
at any times, so a lease may be alive or expired at each of them.  Between
them the rest of the system may do what it likes to the publication columns,
to the wallet under other transaction ids and to the schedule tables; and any
transaction may be cut off before its commit.

The invariant `Consistent` says that the debit of the job is in the ledger and
that its refund is there exactly when the job has failed or was dead-lettered,
once and of the same value.  Every step keeps it, leaves a terminal status
alone, and writes shifts only where the job succeeds.
-/

namespace LunchLineup.Jobs

open LunchLineup.Lib LunchLineup.Python LunchLineup.Billing LunchLineup.Worker

/-! ## Steps of the system -/

/-- The statuses a worker reports for a job it does not complete. -/
inductive ReportedStatus
  | retrying
  | failed
  | deadLettered
  deriving DecidableEq

def ReportedStatus.status : ReportedStatus → JobStatus
  | .retrying => .retrying
  | .failed => .failed
  | .deadLettered => .deadLettered

/-- The publication columns, which `claim`, `markPublished` and `markFailed` of
the publisher write. -/
structure PublicationColumns where
  publicationStatus : PublicationStatus
  publishAttempts : Int
  publishLeaseUntil : Option Int
  publishedAt : Option Int
  publishLastError : Option String

/-- The tables that schedule editors, administrators and billing write. -/
structure SurroundingTables where
  subscriptions : Dict String Subscription
  schedules : Dict String Schedule
  locations : Dict String Location
  users : Dict String User
  shifts : Dict String Shift
  breaks : Dict String Break

/-- The transactions on schedule solve jobs, and what the rest of the system
does between them. -/
inductive Action
  | claim (payload : SolvePayload) (jobId : String) (retryCount : Int) (executionToken : String)
  | persist (payload : SolvePayload) (solvedShifts : List NormalizedShift) (jobId : String)
      (retryCount : Int) (executionToken : Option String)
  | report (payload : SolvePayload) (jobId : String) (reported : ReportedStatus)
      (reason : Option String) (retryCount : Int) (resultShiftCount : Option Int)
      (executionToken : Option String)
  | terminalizeById (jobId : String) (status : JobStatus) (reason : String) (retryCount : Int)
  | terminalizePublication (publication : ClaimedScheduleSolvePublication) (message : String)
  | publish (jobId : String) (columns : PublicationColumns)
  | wallet (request : WalletRequest)
      (hother : ∀ jobId, request.call.transactionId ≠ some (refundId jobId))
  | edit (tables : SurroundingTables)

/-- The job that a transaction is about. -/
def Action.jobId? : Action → Option String
  | .claim _ jobId _ _ => some jobId
  | .persist _ _ jobId _ _ => some jobId
  | .report _ jobId _ _ _ _ _ => some jobId
  | .terminalizeById jobId _ _ _ => some jobId
  | .terminalizePublication publication _ => some publication.id
  | _ => none

/-- An action at a moment; an interrupted one is rolled back. -/
structure JobRequest where
  now : Int
  interrupted : Bool
  action : Action

/-- What a committed action returned. -/
inductive Outcome
  | claim (result : ClaimResult)
  | persist (result : PersistResult)
  | done
  deriving DecidableEq

/-- Overwrite the publication columns of a job. -/
def Database.publish (db : Database) (jobId : String) (columns : PublicationColumns) : Database :=
  match Dict.get? db.jobs jobId with
  | none => db
  | some job =>
      let row : ScheduleSolveJob := { job with
        publicationStatus := columns.publicationStatus
        publishAttempts := columns.publishAttempts
        publishLeaseUntil := columns.publishLeaseUntil
        publishedAt := columns.publishedAt
        publishLastError := columns.publishLastError }
      { db with jobs := Dict.set db.jobs jobId row.scrub }

/-- Overwrite the surrounding tables. -/
def Database.edit (db : Database) (tables : SurroundingTables) : Database :=
  { db with
    subscriptions := tables.subscriptions
    schedules := tables.schedules
    locations := tables.locations
    users := tables.users
    shifts := tables.shifts
    breaks := tables.breaks }

/-- Run an action inside its transaction. -/
def runAction (rt : Runtime) (deployment : Deployment) (now : Int) (db : Database) :
    Action → Except JobError (Outcome × Database)
  | .claim payload jobId retryCount executionToken => do
      let (result, next) ←
        claimScheduleSolveJob deployment now db payload jobId retryCount executionToken
      .ok (.claim result, next)
  | .persist payload solvedShifts jobId retryCount executionToken => do
      let (result, next) ← persistSolvedSchedule rt deployment now db payload solvedShifts jobId
        retryCount executionToken
      .ok (.persist result, next)
  | .report payload jobId reported reason retryCount resultShiftCount executionToken => do
      let next ← updateScheduleSolveJobStatus deployment now db payload jobId reported.status
        reason retryCount resultShiftCount executionToken
      .ok (.done, next)
  | .terminalizeById jobId status reason retryCount => do
      let next ← terminalizeScheduleSolveJobById deployment now db jobId status reason retryCount
      .ok (.done, next)
  | .terminalizePublication publication message => do
      let next ← terminalizeFailedPublication deployment now db publication message
      .ok (.done, next)
  | .publish jobId columns => .ok (.done, db.publish jobId columns)
  | .wallet request _ =>
      .ok (.done, { db with billing := (commit deployment.isControl db.billing request).2 })
  | .edit tables => .ok (.done, db.edit tables)

/-- Commit an action, or roll it back. -/
def commitAction (rt : Runtime) (deployment : Deployment) (db : Database) (request : JobRequest) :
    Except JobError Outcome × Database :=
  if request.interrupted then (.error (.retryable "transaction was interrupted"), db)
  else
    match runAction rt deployment request.now db request.action with
    | .ok (outcome, next) => (.ok outcome, next)
    | .error error => (.error error, db)

/-! ## What one step does to one job -/

/-- The status of a job. -/
def Database.status? (db : Database) (jobId : String) : Option JobStatus :=
  (Dict.get? db.jobs jobId).map ScheduleSolveJob.status

/-- The ledger holds a refund of a job. -/
def Database.Refunded (jobId : String) (db : Database) : Prop :=
  ∃ row ∈ db.billing.ledger, row.id = refundId jobId

instance (jobId : String) : DecidablePred (Database.Refunded jobId) := fun db =>
  inferInstanceAs (Decidable (∃ row ∈ db.billing.ledger, row.id = refundId jobId))

/-- A job has succeeded. -/
def Database.Succeeded (jobId : String) (db : Database) : Prop :=
  db.status? jobId = some .succeeded

instance (jobId : String) : DecidablePred (Database.Succeeded jobId) := fun db =>
  inferInstanceAs (Decidable (db.status? jobId = some .succeeded))

/-- What the rest of the system does: no status changes, and no row of the
ledger is a refund of a job. -/
structure Surroundings (db next : Database) : Prop where
  statuses : ∀ jobId, next.status? jobId = db.status? jobId
  billing : next.billing = db.billing ∨ ∃ settlement row wallet,
    Applies db.billing settlement next.billing row wallet ∧ ∀ jobId, row.id ≠ refundId jobId

theorem status?_set (db : Database) (jobId other : String) (row : ScheduleSolveJob)
    (billing : Store) :
    ({ db with jobs := Dict.set db.jobs jobId row, billing := billing } : Database).status? other =
      if jobId = other then some row.status else db.status? other := by
  unfold Database.status?
  simp only [Dict.get?_set]
  split <;> rfl

theorem surroundings_publish (db : Database) (jobId : String) (columns : PublicationColumns) :
    Surroundings db (db.publish jobId columns) := by
  unfold Database.publish
  split
  · exact ⟨fun _ => rfl, Or.inl rfl⟩
  · rename_i job hfound
    refine ⟨?_, Or.inl rfl⟩
    intro other
    rw [status?_set db jobId other _ db.billing]
    split
    · rename_i heq
      subst heq
      simp [Database.status?, hfound]
    · rfl

theorem surroundings_wallet (deployment : Deployment) (db : Database) (request : WalletRequest)
    (hother : ∀ jobId, request.call.transactionId ≠ some (refundId jobId)) :
    Surroundings db { db with billing := (commit deployment.isControl db.billing request).2 } := by
  refine ⟨fun _ => rfl, ?_⟩
  rcases commit_cases deployment.isControl db.billing request with
    hsame | ⟨settlement, row, wallet, hid, _, happlies⟩
  · exact Or.inl hsame
  · refine Or.inr ⟨settlement, row, wallet, happlies, ?_⟩
    intro jobId heq
    exact hother jobId (by rw [← hid, heq])

/-- An accepted action has its effect on its own job, delivers a solve, or
belongs to the surroundings. -/
theorem runAction_cases {rt : Runtime} {deployment : Deployment} {now : Int} {db next : Database}
    {action : Action} {outcome : Outcome}
    (h : runAction rt deployment now db action = .ok (outcome, next)) :
    (∃ jobId, action.jobId? = some jobId ∧ Effect db jobId next) ∨
      (∃ payload solvedShifts jobId retryCount executionToken schedule job row,
        action = .persist payload solvedShifts jobId retryCount executionToken ∧
          Delivered deployment now db payload solvedShifts jobId next schedule job row) ∨
      (action.jobId? = none ∧ Surroundings db next) := by
  cases action with
  | claim payload jobId retryCount executionToken =>
      simp only [runAction, bind_eq_ok] at h
      obtain ⟨⟨result, after⟩, hrun, h⟩ := h
      cases h
      exact Or.inl ⟨jobId, rfl, claim_effect hrun⟩
  | persist payload solvedShifts jobId retryCount executionToken =>
      simp only [runAction, bind_eq_ok] at h
      obtain ⟨⟨result, after⟩, hrun, h⟩ := h
      cases h
      rcases persist_cases hrun with rfl | ⟨schedule, job, row, hdelivered⟩
      · exact Or.inl ⟨jobId, rfl, .unchanged⟩
      · exact Or.inr (Or.inl ⟨payload, solvedShifts, jobId, retryCount, executionToken, schedule,
          job, row, rfl, hdelivered⟩)
  | report payload jobId reported reason retryCount resultShiftCount executionToken =>
      simp only [runAction, bind_eq_ok] at h
      obtain ⟨after, hrun, h⟩ := h
      cases h
      refine Or.inl ⟨jobId, rfl, updateStatus_effect ?_ hrun⟩
      cases reported <;> simp [ReportedStatus.status]
  | terminalizeById jobId status reason retryCount =>
      simp only [runAction, bind_eq_ok] at h
      obtain ⟨after, hrun, h⟩ := h
      cases h
      exact Or.inl ⟨jobId, rfl, terminalizeById_effect hrun⟩
  | terminalizePublication publication message =>
      simp only [runAction, bind_eq_ok] at h
      obtain ⟨after, hrun, h⟩ := h
      cases h
      exact Or.inl ⟨publication.id, rfl, terminalizeFailedPublication_effect hrun⟩
  | publish jobId columns =>
      cases h
      exact Or.inr (Or.inr ⟨rfl, surroundings_publish db jobId columns⟩)
  | wallet request hother =>
      cases h
      exact Or.inr (Or.inr ⟨rfl, surroundings_wallet deployment db request hother⟩)
  | edit tables =>
      cases h
      exact Or.inr (Or.inr ⟨rfl, fun _ => rfl, Or.inl rfl⟩)

/-! ## The invariant -/

/-- The debit of the job is in the ledger, and its refund is there exactly when
the job has failed or was dead-lettered, once and of the same value. -/
structure Consistent (jobId : String) (debit : CreditTransaction) (db : Database) : Prop where
  unique : (db.billing.ledger.map CreditTransaction.id).Nodup
  recorded : debit ∈ db.billing.ledger
  debitId : debit.id = debitId jobId
  refunds : ∃ status, db.status? jobId = some status ∧
    (status.refunded = true ↔ db.Refunded jobId)
  value : ∀ row ∈ db.billing.ledger, row.id = refundId jobId →
    row.amount - row.debtAmount = -debit.amount

theorem refundId_injective {first second : String} (h : refundId first = refundId second) :
    first = second := by
  unfold refundId at h
  have hchars := congrArg String.toList h
  rw [String.toList_append, String.toList_append] at hchars
  exact String.toList_inj.mp (List.append_cancel_left hchars)

/-- Appending a row keeps the ids of a ledger distinct. -/
theorem Consistent.unique_applies {jobId : String} {debit : CreditTransaction} {db : Database}
    (hinv : Consistent jobId debit db) {settlement : Settlement} {billing : Store}
    {row : CreditTransaction} {wallet : Wallet}
    (happlies : Applies db.billing settlement billing row wallet) :
    (billing.ledger.map CreditTransaction.id).Nodup := by
  rw [happlies.ledger, List.map_append, List.nodup_append]
  refine ⟨hinv.unique, by simp, ?_⟩
  rintro id hid other hother rfl
  obtain ⟨earlier, hearlier, rfl⟩ := List.mem_map.mp hid
  simp only [List.map_cons, List.map_nil, List.mem_singleton] at hother
  exact happlies.fresh earlier hearlier hother

section

variable {jobId : String} {debit : CreditTransaction} {db next : Database}

/-- A step that keeps the job's status and appends no refund of the job keeps
the invariant. -/
theorem Consistent.of_other (hinv : Consistent jobId debit db)
    (hstatus : next.status? jobId = db.status? jobId)
    (hbilling : next.billing = db.billing ∨ ∃ settlement row wallet,
      Applies db.billing settlement next.billing row wallet ∧ row.id ≠ refundId jobId) :
    Consistent jobId debit next := by
  obtain ⟨status, hfound, hiff⟩ := hinv.refunds
  rcases hbilling with hsame | ⟨settlement, row, wallet, happlies, hother⟩
  · refine ⟨?_, ?_, hinv.debitId, ⟨status, hstatus.trans hfound, ?_⟩, ?_⟩
    · rw [hsame]
      exact hinv.unique
    · rw [hsame]
      exact hinv.recorded
    · rw [hiff, Database.Refunded, Database.Refunded, hsame]
    · rw [hsame]
      exact hinv.value
  · have hledger := happlies.ledger
    refine ⟨hinv.unique_applies happlies, ?_, hinv.debitId,
      ⟨status, hstatus.trans hfound, ?_⟩, ?_⟩
    · rw [hledger]
      exact List.mem_append_left _ hinv.recorded
    · rw [hiff, Database.Refunded, Database.Refunded, hledger]
      simp [hother]
    · intro entry hentry hid
      rw [hledger, List.mem_append, List.mem_singleton] at hentry
      rcases hentry with hentry | rfl
      · exact hinv.value entry hentry hid
      · exact absurd hid hother

/-- A live job has no refund. -/
theorem Consistent.not_refunded (hinv : Consistent jobId debit db) {job : ScheduleSolveJob}
    (hfound : Dict.get? db.jobs jobId = some job) (hlive : job.status.terminal = false) :
    ¬ db.Refunded jobId := by
  obtain ⟨status, hstatus, hiff⟩ := hinv.refunds
  rw [Database.status?, hfound, Option.map_some, Option.some.injEq] at hstatus
  rw [← hiff, ← hstatus, JobStatus.refunded_of_live hlive]
  exact Bool.false_ne_true

/-- A step that moves a live job to a status without refund, and leaves the
ledger alone, keeps the invariant. -/
theorem Consistent.of_unrefunded (hinv : Consistent jobId debit db) {job : ScheduleSolveJob}
    (hfound : Dict.get? db.jobs jobId = some job) (hlive : job.status.terminal = false)
    {status : JobStatus} (hstatus : next.status? jobId = some status)
    (hunrefunded : status.refunded = false) (hbilling : next.billing = db.billing) :
    Consistent jobId debit next := by
  have hnone := hinv.not_refunded hfound hlive
  refine ⟨?_, ?_, hinv.debitId, ⟨status, hstatus, ?_⟩, ?_⟩
  · rw [hbilling]
    exact hinv.unique
  · rw [hbilling]
    exact hinv.recorded
  · rw [Database.Refunded, hbilling, hunrefunded]
    exact ⟨fun h => absurd h Bool.false_ne_true, fun h => absurd h hnone⟩
  · rw [hbilling]
    exact hinv.value

/-- The refund of a live job keeps the invariant. -/
theorem Consistent.of_refund (hinv : Consistent jobId debit db) {job : ScheduleSolveJob}
    (hfound : Dict.get? db.jobs jobId = some job) (hlive : job.status.terminal = false)
    {status : JobStatus} (hstatus : next.status? jobId = some status)
    (hrefunded : status.refunded = true) {charged row : CreditTransaction}
    {settlement : Settlement} {wallet : Wallet} (hcharged : charged ∈ db.billing.ledger)
    (hchargedId : charged.id = Jobs.debitId jobId) (hrowId : row.id = refundId jobId)
    (hvalue : row.amount - row.debtAmount = -charged.amount)
    (happlies : Applies db.billing settlement next.billing row wallet) :
    Consistent jobId debit next := by
  have hledger := happlies.ledger
  -- ids are unique, so the debit the transaction read is the one of the job
  have hsame : charged = debit :=
    List.inj_on_of_nodup_map hinv.unique hcharged hinv.recorded (hchargedId.trans hinv.debitId.symm)
  subst hsame
  refine ⟨hinv.unique_applies happlies, ?_, hinv.debitId, ⟨status, hstatus, ?_⟩, ?_⟩
  · rw [hledger]
    exact List.mem_append_left _ hinv.recorded
  · rw [Database.Refunded, hledger, hrefunded]
    simp [hrowId]
  · intro entry hentry hid
    rw [hledger, List.mem_append, List.mem_singleton] at hentry
    rcases hentry with hentry | rfl
    · exact absurd ⟨entry, hentry, hid⟩ (hinv.not_refunded hfound hlive)
    · exact hvalue

/-- An effect on any job keeps the invariant and leaves a terminal status of
the job alone. -/
theorem Consistent.effect (hinv : Consistent jobId debit db) {other : String}
    (heffect : Effect db other next) :
    Consistent jobId debit next ∧
      (∀ status, db.status? jobId = some status → status.terminal = true →
        next.status? jobId = some status) ∧
      (¬ db.Succeeded jobId → ¬ next.Succeeded jobId) := by
  cases heffect with
  | unchanged => exact ⟨hinv, fun _ hstatus _ => hstatus, id⟩
  | progressed job row hfound hlive hrow =>
      have hstatus := status?_set db other jobId row db.billing
      by_cases hsame : other = jobId
      · subst hsame
        rw [if_pos rfl] at hstatus
        refine ⟨hinv.of_unrefunded hfound hlive hstatus (JobStatus.refunded_of_live hrow) rfl,
          ?_, ?_⟩
        · intro status hbefore hterminal
          rw [Database.status?, hfound, Option.map_some, Option.some.injEq] at hbefore
          rw [← hbefore, hlive] at hterminal
          exact absurd hterminal Bool.false_ne_true
        · intro _ hsucceeded
          rw [Database.Succeeded, hstatus, Option.some.injEq] at hsucceeded
          rw [hsucceeded] at hrow
          cases hrow
      · rw [if_neg hsame] at hstatus
        exact ⟨hinv.of_other hstatus (Or.inl rfl), fun _ hbefore _ => hstatus.trans hbefore,
          fun hnot hsucceeded => hnot (hstatus.symm.trans hsucceeded)⟩
  | refunded job row charged refund billing settlement wallet hfound hlive hrow hcharged
      hchargedId hrefundId hvalue happlies =>
      have hstatus := status?_set db other jobId row billing
      by_cases hsame : other = jobId
      · subst hsame
        rw [if_pos rfl] at hstatus
        refine ⟨hinv.of_refund hfound hlive hstatus hrow hcharged hchargedId hrefundId hvalue
          happlies, ?_, ?_⟩
        · intro status hbefore hterminal
          rw [Database.status?, hfound, Option.map_some, Option.some.injEq] at hbefore
          rw [← hbefore, hlive] at hterminal
          exact absurd hterminal Bool.false_ne_true
        · intro _ hsucceeded
          rw [Database.Succeeded, hstatus, Option.some.injEq] at hsucceeded
          rw [hsucceeded] at hrow
          cases hrow
      · rw [if_neg hsame] at hstatus
        refine ⟨hinv.of_other hstatus (Or.inr ⟨settlement, refund, wallet, happlies, ?_⟩),
          fun _ hbefore _ => hstatus.trans hbefore,
          fun hnot hsucceeded => hnot (hstatus.symm.trans hsucceeded)⟩
        intro heq
        exact hsame (refundId_injective (hrefundId.symm.trans heq))

/-- A delivery for any job keeps the invariant; the job it is for was live and
has succeeded, and every other status stays. -/
theorem Consistent.delivered (hinv : Consistent jobId debit db) {deployment : Deployment}
    {now : Int} {payload : SolvePayload} {solvedShifts : List NormalizedShift} {other : String}
    {schedule : Schedule} {job row : ScheduleSolveJob}
    (hdelivered : Delivered deployment now db payload solvedShifts other next schedule job row) :
    Consistent jobId debit next ∧
      (if other = jobId then db.status? jobId = some job.status ∧ next.Succeeded jobId
        else next.status? jobId = db.status? jobId) := by
  have hbilling : next.billing = db.billing := by
    rw [hdelivered.tables]
    rfl
  have hstatus : next.status? jobId =
      if other = jobId then some row.status else db.status? jobId := by
    rw [hdelivered.tables]
    exact status?_set db other jobId row db.billing
  by_cases hsame : other = jobId
  · subst hsame
    rw [if_pos rfl, hdelivered.succeeded] at hstatus
    rw [if_pos rfl]
    refine ⟨hinv.of_unrefunded hdelivered.found hdelivered.live hstatus rfl hbilling, ?_, hstatus⟩
    rw [Database.status?, hdelivered.found, Option.map_some]
  · rw [if_neg hsame] at hstatus ⊢
    exact ⟨hinv.of_other hstatus (Or.inl hbilling), hstatus⟩

end

/-! ## Steps and runs -/

section

variable {rt : Runtime} {deployment : Deployment} {jobId : String} {debit : CreditTransaction}

/-- A step of the system. -/
abbrev JobTransition := Transition Database JobRequest (Except JobError Outcome)

/-- The step wrote the solved shifts of the job and raised the revision of their
schedule by one. -/
def Delivers (deployment : Deployment) (jobId : String) (t : JobTransition) : Prop :=
  ∃ payload solvedShifts retryCount executionToken schedule,
    t.request.action = .persist payload solvedShifts jobId retryCount executionToken ∧
      Dict.get? t.before.schedules payload.scheduleId = some schedule ∧
      (Dict.get? t.after.schedules payload.scheduleId).map Schedule.revision =
        some (schedule.revision + 1) ∧
      t.after.shifts = (writeSolvedShifts t.request.now payload
        (draftShifts deployment t.before payload) solvedShifts t.before).shifts ∧
      t.after.breaks = (writeSolvedShifts t.request.now payload
        (draftShifts deployment t.before payload) solvedShifts t.before).breaks

/-- The step wrote no schedule, no shift and no break. -/
def LeavesDraft (t : JobTransition) : Prop :=
  t.after.schedules = t.before.schedules ∧ t.after.shifts = t.before.shifts ∧
    t.after.breaks = t.before.breaks

/-- A terminal status of the job stays, the job succeeds exactly when its solved
shifts are written, and its transactions write to the draft in no other case. -/
structure Sound (deployment : Deployment) (jobId : String) (t : JobTransition) : Prop where
  absorbing : ∀ status, t.before.status? jobId = some status → status.terminal = true →
    t.after.status? jobId = some status
  delivers : entering (Database.Succeeded jobId) t = true → Delivers deployment jobId t
  leavesDraft : t.request.action.jobId? = some jobId →
    entering (Database.Succeeded jobId) t = false → LeavesDraft t

theorem Effect.leavesDraft {db next : Database} (heffect : Effect db jobId next) :
    next.schedules = db.schedules ∧ next.shifts = db.shifts ∧ next.breaks = db.breaks := by
  cases heffect <;> exact ⟨rfl, rfl, rfl⟩

theorem sound_of_same (t : JobTransition) (hsame : t.after = t.before) :
    Sound deployment jobId t := by
  refine ⟨?_, ?_, ?_⟩
  · rw [hsame]
    exact fun _ hstatus _ => hstatus
  · intro hentering
    simp [entering, hsame] at hentering
  · rw [LeavesDraft, hsame]
    exact fun _ _ => ⟨rfl, rfl, rfl⟩

/-- One accepted action keeps the invariant and is sound for the job. -/
theorem Consistent.runAction {db next : Database} (hinv : Consistent jobId debit db)
    {now : Int} {action : Action} {outcome : Outcome} {t : JobTransition}
    (hbefore : t.before = db) (hafter : t.after = next) (hnow : t.request.now = now)
    (haction : t.request.action = action)
    (h : runAction rt deployment now db action = .ok (outcome, next)) :
    Consistent jobId debit next ∧ Sound deployment jobId t := by
  subst hbefore hafter hnow haction
  rcases runAction_cases h with ⟨other, hother, heffect⟩ |
    ⟨payload, solvedShifts, other, retryCount, executionToken, schedule, job, row, haction,
      hdelivered⟩ | ⟨hnone, hsurroundings⟩
  · obtain ⟨hnext, habsorbing, hnot⟩ := hinv.effect heffect
    refine ⟨hnext, habsorbing, ?_, ?_⟩
    · intro hentering
      simp only [entering, decide_eq_true_eq] at hentering
      exact absurd hentering.2 (hnot hentering.1)
    · intro hown _
      obtain rfl : other = jobId := Option.some.inj (hother.symm.trans hown)
      exact heffect.leavesDraft
  · obtain ⟨hnext, hstatus⟩ := hinv.delivered hdelivered
    refine ⟨hnext, ?_⟩
    by_cases hsame : other = jobId
    · subst hsame
      rw [if_pos rfl] at hstatus
      obtain ⟨hlive, hsucceeded⟩ := hstatus
      have hentering : entering (Database.Succeeded other) t = true := by
        simp only [entering, decide_eq_true_eq]
        refine ⟨?_, hsucceeded⟩
        intro hearlier
        rw [Database.Succeeded, hlive, Option.some.injEq] at hearlier
        have := hdelivered.live
        rw [hearlier] at this
        cases this
      refine ⟨?_, ?_, ?_⟩
      · intro status hbefore hterminal
        rw [hlive, Option.some.injEq] at hbefore
        rw [← hbefore, hdelivered.live] at hterminal
        exact absurd hterminal Bool.false_ne_true
      · intro _
        refine ⟨payload, solvedShifts, retryCount, executionToken, schedule, haction,
          hdelivered.scheduleFound, ?_, ?_, ?_⟩
        · rw [hdelivered.tables]
          simp [bumpRevision, writeSolvedShifts, Dict.get?_set_self]
        · rw [hdelivered.tables]
          rfl
        · rw [hdelivered.tables]
          rfl
      · intro _ hnot
        rw [hentering] at hnot
        cases hnot
    · rw [if_neg hsame] at hstatus
      refine ⟨fun _ hbefore _ => hstatus.trans hbefore, ?_, ?_⟩
      · intro hentering
        simp only [entering, decide_eq_true_eq] at hentering
        exact absurd (hstatus.symm.trans hentering.2) hentering.1
      · intro hown
        rw [haction] at hown
        exact absurd (Option.some.inj hown) hsame
  · have hstatus := hsurroundings.statuses jobId
    have hbilling : t.after.billing = t.before.billing ∨ ∃ settlement row wallet,
        Applies t.before.billing settlement t.after.billing row wallet ∧
          row.id ≠ refundId jobId := by
      rcases hsurroundings.billing with hsame | ⟨settlement, row, wallet, happlies, hrow⟩
      · exact .inl hsame
      · exact .inr ⟨settlement, row, wallet, happlies, hrow jobId⟩
    refine ⟨hinv.of_other hstatus hbilling, fun _ hbefore _ => hstatus.trans hbefore, ?_, ?_⟩
    · intro hentering
      simp only [entering, decide_eq_true_eq] at hentering
      exact absurd (hstatus.symm.trans hentering.2) hentering.1
    · intro hown
      rw [hnone] at hown
      cases hown

/-- One step keeps the invariant and is sound for the job. -/
theorem Consistent.commitAction {db : Database} (hinv : Consistent jobId debit db)
    (rt : Runtime) (deployment : Deployment) (request : JobRequest) :
    Consistent jobId debit (commitAction rt deployment db request).2 ∧
      Sound deployment jobId (transition (commitAction rt deployment) db request) := by
  unfold Jobs.commitAction
  cases hinterrupted : request.interrupted with
  | true =>
      exact ⟨by simpa using hinv, sound_of_same _ (by simp [transition, hinterrupted])⟩
  | false =>
      cases hrun : Jobs.runAction rt deployment request.now db request.action with
      | error error =>
          exact ⟨by simpa using hinv, sound_of_same _ (by simp [transition, hinterrupted, hrun])⟩
      | ok result =>
          obtain ⟨outcome, next⟩ := result
          obtain ⟨hnext, hsound⟩ := hinv.runAction rfl rfl rfl rfl hrun
            (t := ⟨db, request, .ok outcome, next⟩)
          exact ⟨by simpa using hnext, by simpa [transition, hinterrupted, hrun] using hsound⟩

/-- A refund is never taken back. -/
theorem Consistent.refunded_stays {db : Database} (hinv : Consistent jobId debit db)
    (request : JobRequest) (hrefunded : db.Refunded jobId) :
    (Jobs.commitAction rt deployment db request).2.Refunded jobId := by
  obtain ⟨hnext, hsound⟩ := hinv.commitAction rt deployment request
  obtain ⟨status, hstatus, hiff⟩ := hinv.refunds
  obtain ⟨later, hlater, hiff'⟩ := hnext.refunds
  have hterminal : status.terminal = true := by
    have := hiff.mpr hrefunded
    cases status <;> first | rfl | cases this
  have hsame : (Jobs.commitAction rt deployment db request).2.status? jobId = some status :=
    hsound.absorbing status hstatus hterminal
  rw [hlater, Option.some.injEq] at hsame
  rw [← hiff', hsame, hiff]
  exact hrefunded

end

/-- The job is queued with its exact debit, and nothing was refunded. -/
structure StartsQueued (db : Database) (jobId : String) (job : ScheduleSolveJob)
    (debit : CreditTransaction) : Prop where
  found : Dict.get? db.jobs jobId = some job
  queued : job.status = .queued
  unique : (db.billing.ledger.map CreditTransaction.id).Nodup
  recorded : debit ∈ db.billing.ledger
  debitId : debit.id = debitId jobId
  exactDebit : validProvenance job jobId [debit] [] = some debit.amount
  unrefunded : ¬ db.Refunded jobId

theorem StartsQueued.consistent {db : Database} {jobId : String} {job : ScheduleSolveJob}
    {debit : CreditTransaction} (h : StartsQueued db jobId job debit) :
    Consistent jobId debit db := by
  refine ⟨h.unique, h.recorded, h.debitId, ⟨.queued, ?_, ?_⟩, ?_⟩
  · rw [Database.status?, h.found, Option.map_some, h.queued]
  · exact ⟨fun hrefunded => absurd hrefunded Bool.false_ne_true,
      fun hrefunded => absurd hrefunded h.unrefunded⟩
  · intro row hrow hid
    exact absurd ⟨row, hrow, hid⟩ h.unrefunded

/-- Ledger ids are unique, so a refund that is there is there once. -/
theorem length_refunds (jobId : String) {db : Database}
    (hunique : (db.billing.ledger.map CreditTransaction.id).Nodup) :
    (db.billing.ledger.filter fun row => row.id = refundId jobId).length =
      if db.Refunded jobId then 1 else 0 := by
  have hcount : (db.billing.ledger.filter fun row => row.id = refundId jobId).length =
      (db.billing.ledger.map CreditTransaction.id).count (refundId jobId) := by
    rw [List.count, List.countP_map, List.countP_eq_length_filter]
    rfl
  rw [hcount]
  split
  · rename_i hrefunded
    obtain ⟨row, hrow, hid⟩ := hrefunded
    exact List.count_eq_one_of_mem hunique (hid ▸ List.mem_map_of_mem hrow)
  · rename_i hrefunded
    rw [List.count_eq_zero]
    intro hmem
    obtain ⟨row, hrow, hid⟩ := List.mem_map.mp hmem
    exact hrefunded ⟨row, hrow, hid⟩

namespace LeaseExpiry

def debit : CreditTransaction :=
  ⟨"schedule-credit-job-1", "tenant-1", -5, 0, "Schedule generation (job-1)", some 95, some 0⟩

def job : ScheduleSolveJob where
  tenantId := "tenant-1"
  scheduleId := "schedule-1"
  locationId := "location-1"
  status := .queued
  statusReason := none
  retryCount := 0
  resultShiftCount := none
  creditConsumption := .dict
    [("source", .str "credits"), ("consumedCredits", .int 5), ("newBalance", .int 95)]
  publicationStatus := .published
  publishAttempts := 1
  publishLeaseUntil := none
  publishedAt := some 0
  publishLastError := none
  executionToken := none
  executionLeaseUntil := none
  startedAt := none
  completedAt := none
  updatedAt := 0

def start : Database where
  billing := ⟨[("tenant-1", ⟨95, 0⟩)], [debit]⟩
  subscriptions := [("tenant-1", ⟨"ACTIVE", "GROWTH", some "sub-1", some 1000000000000⟩)]
  jobs := [("job-1", job)]
  schedules := [("schedule-1", ⟨"tenant-1", "location-1", .draft, 3, none, 0⟩)]
  locations := [("location-1", ⟨"tenant-1", "UTC", none⟩)]
  users := [("staff-1", ⟨"tenant-1", .staff, none, none⟩)]
  shifts := []
  breaks := []

def payload : SolvePayload where
  scheduleId := "schedule-1"
  tenantId := "tenant-1"
  locationId := "location-1"
  startDate := "2026-03-09T00:00:00Z"
  endDate := "2026-03-10T00:00:00Z"
  draftRevision := 3
  inputShiftSnapshot := []
  staffIds := ["staff-1"]
  constraints := []
  availability := []
  availabilityExceptions := []
  availabilityConfigured := []
  staffSkills := []
  skillRequirements := []
  dailyDemand := .none
  demandWindows := []
  timezone := "UTC"
  existingWeeklyMinutes := []
  existingShifts := []

def token : String := "0123456789abcdef0123456789abcdef"

def deployment : Deployment where
  leaseSeconds := 300
  isControl c := c.toNat < 32
  orderById shifts := shifts

def runtime : Runtime := .reference fun _ => none

def requests : List JobRequest :=
  [⟨0, false, .claim payload "job-1" 0 token⟩,
    ⟨299000000, false, .terminalizeById "job-1" .deadLettered "retries exhausted" 3⟩,
    ⟨301000000, false, .terminalizeById "job-1" .deadLettered "retries exhausted" 3⟩,
    ⟨302000000, false, .persist payload [] "job-1" 0 (some token)⟩]

theorem start_queued : StartsQueued start "job-1" job debit where
  found := rfl
  queued := rfl
  unique := by decide
  recorded := by decide
  debitId := by decide
  exactDebit := by decide
  unrefunded := by decide

end LeaseExpiry

end LunchLineup.Jobs
