import LunchLineup.Payroll.Periods
import LunchLineup.Lib.Run

/-!
# What a transaction writes

Most commands are chains of statements that leave the calendar of policies and
period windows alone; `Statement` lists those statements, with what the service
knows when it issues one.  Three transactions stand apart: a new policy, a new
period, and the locking of a period, where between the first and the last
statement the entries exist while the period is still under review.  `Write`
collects the four kinds, and `write_of_apply` says that every accepted command is
one of them, so that an invariant of the tables is proved once for each.
-/

namespace LunchLineup.Payroll

open LunchLineup.Lib LunchLineup.Billing

/-! ## Accepted statements -/

namespace Database

variable {db db' : Database}

theorem insertPolicy_ok {policy : PolicyVersion} (h : db.insertPolicy policy = .ok db') :
    db' = { db with policies := db.policies ++ [policy] } := by
  simp only [insertPolicy, bind_eq_ok, ensure_eq_ok] at h
  obtain ⟨_, _, _, _, _, _, h⟩ := h
  exact (Except.ok.inj h).symm

theorem insertOperation_ok {row : Operation} (h : db.insertOperation row = .ok db') :
    db' = { db with operations := db.operations ++ [row] } := by
  simp only [insertOperation, bind_eq_ok, ensure_eq_ok] at h
  obtain ⟨_, _, h⟩ := h
  exact (Except.ok.inj h).symm

theorem insertPeriod_ok {period : Period} (h : db.insertPeriod period = .ok db') :
    (∀ other ∈ db.periods, other.id ≠ period.id) ∧ period.startsAt < period.endsAt ∧
      db' = { db with periods := db.periods ++ [period] } := by
  simp only [insertPeriod, bind_eq_ok, ensure_eq_ok] at h
  obtain ⟨_, hid, _, _, _, _, _, hwindow, _, _, h⟩ := h
  exact ⟨hid, hwindow.2, (Except.ok.inj h).symm⟩

theorem insertTimeCard_ok {card : TimeCard} (h : db.insertTimeCard card = .ok db') :
    db.Assignable card ∧ card.ValuesValid ∧ (∀ other ∈ db.cards, other.id ≠ card.id) ∧
      db' = { db with cards := db.cards ++ [card] } := by
  simp only [insertTimeCard, bind_eq_ok, ensure_eq_ok] at h
  obtain ⟨_, _, _, _, _, hassign, _, hvalues, _, hid, _, _, _, _, h⟩ := h
  exact ⟨hassign, hvalues, hid, (Except.ok.inj h).symm⟩

theorem updateTimeCard_ok {now : Int} {old new : TimeCard}
    (h : db.updateTimeCard now old new = .ok db') :
    (new.payrollPeriodId = old.payrollPeriodId ∨
        (¬ db.MembershipFrozen old.payrollPeriodId ∧ ¬ db.MembershipFrozen new.payrollPeriodId)) ∧
      db.Assignable new ∧ ¬ db.UnderLock old ∧ ¬ db.UnderLock new ∧
      (new.revision = if old.SameBusiness new then old.revision else old.revision + 1) ∧
      new.ValuesValid ∧ db' = db.replaceCard new := by
  simp only [updateTimeCard, bind_eq_ok, ensure_eq_ok] at h
  obtain ⟨_, _, _, _, _, hmember, _, hassign, _, hlock, _, hrevision, _, hvalues, _, _, h⟩ := h
  exact ⟨hmember, hassign, hlock.1, hlock.2, hrevision, hvalues, (Except.ok.inj h).symm⟩

theorem deleteBreaks_ok {cardId : String} (h : db.deleteBreaks cardId = .ok db') :
    ((∃ interval ∈ db.breaks, interval.timeCardId = cardId) → db.BreaksFree cardId) ∧
      db' = { db with breaks := db.breaks.filter (·.timeCardId ≠ cardId) } := by
  simp only [deleteBreaks, bind_eq_ok, ensure_eq_ok] at h
  obtain ⟨_, hfree, h⟩ := h
  exact ⟨hfree, (Except.ok.inj h).symm⟩

theorem insertBreak_ok {now : Int} {interval : TimeCardBreak}
    (h : db.insertBreak now interval = .ok db') :
    db.BreaksFree interval.timeCardId ∧ db' = { db with breaks := db.breaks ++ [interval] } := by
  simp only [insertBreak, bind_eq_ok, ensure_eq_ok] at h
  obtain ⟨_, hfree, _, _, _, _, _, _, h⟩ := h
  exact ⟨hfree, (Except.ok.inj h).symm⟩

theorem insertApproval_ok {row : Approval} (h : db.insertApproval row = .ok db') :
    (∀ card ∈ db.cards, card.id = row.timeCardId → card.userId ≠ row.decidedByUserId) ∧
      (∃ card ∈ db.cards, card.id = row.timeCardId) ∧
      (∀ other ∈ db.approvals, ¬ (other.timeCardId = row.timeCardId ∧
        other.timeCardRevision = row.timeCardRevision)) ∧
      db' = { db with approvals := db.approvals ++ [row] } := by
  simp only [insertApproval, bind_eq_ok, ensure_eq_ok] at h
  obtain ⟨_, ⟨card, hcard, hid, _⟩, _, hother, _, hunique, h⟩ := h
  exact ⟨hother, ⟨card, hcard, hid⟩, fun other hmem => (hunique other hmem).1,
    (Except.ok.inj h).symm⟩

theorem insertLockedEntry_ok {entry : LockedEntry} (h : db.insertLockedEntry entry = .ok db') :
    db.SnapshotsSource entry ∧ entry.ValuesValid ∧ (∀ other ∈ db.entries, other.id ≠ entry.id) ∧
      (∀ other ∈ db.entries, other.periodId = entry.periodId →
        ¬ (other.sourceType = entry.sourceType ∧ other.sourceId = entry.sourceId)) ∧
      db' = { db with entries := db.entries ++ [entry] } := by
  simp only [insertLockedEntry, bind_eq_ok, ensure_eq_ok] at h
  obtain ⟨_, _, _, hsource, _, hvalues, _, _, _, hid, _, hunique, h⟩ := h
  exact ⟨hsource, hvalues, hid, fun other hmem hperiod => (hunique other hmem hperiod).2,
    (Except.ok.inj h).symm⟩

theorem insertAmendment_ok {amendment : Amendment} (h : db.insertAmendment amendment = .ok db') :
    (∃ entry ∈ db.entries, entry.id = amendment.lockedEntryId ∧ entry.sourceType = .timeCard ∧
      entry.employeeId ≠ amendment.requestedByUserId ∧
      (∃ source ∈ db.periods, source.id = entry.periodId ∧ source.status = .locked ∧
        ∃ adjustment ∈ db.periods, adjustment.id = amendment.adjustmentPeriodId ∧
          adjustment.status = .opened ∧ source.endsAt ≤ adjustment.startsAt) ∧
      0 ≤ amendment.replacementPayableMinutes ∧
      amendment.replacementPayableMinutes =
        floorMinutes amendment.replacementClockInAt amendment.replacementClockOutAt -
          amendment.replacementBreakMinutes ∧
      amendment.minuteDelta = amendment.replacementPayableMinutes - entry.payableMinutes) ∧
      IsInteger (floorMinutes amendment.replacementClockInAt amendment.replacementClockOutAt) ∧
      amendment.ValuesValid ∧ (∀ other ∈ db.amendments, other.id ≠ amendment.id) ∧
      db' = { db with amendments := db.amendments ++ [amendment] } := by
  simp only [insertAmendment, bind_eq_ok, ensure_eq_ok] at h
  obtain ⟨_, hrange, _, hsource, _, hvalues, _, hunique, h⟩ := h
  exact ⟨hsource, hrange.2.2.2, hvalues, fun other hmem => (hunique other hmem).1,
    (Except.ok.inj h).symm⟩

theorem insertDecision_ok {row : AmendmentDecision} (h : db.insertDecision row = .ok db') :
    (∃ amendment ∈ db.amendments, amendment.id = row.amendmentId ∧
      db.PeriodIs amendment.adjustmentPeriodId .review ∧
      (row.decision = .approved → ∀ other ∈ db.amendments,
        other.lockedEntryId = amendment.lockedEntryId → other.id ≠ amendment.id →
        ∀ decided ∈ db.decisions, decided.amendmentId = other.id →
          decided.decision ≠ .approved)) ∧
      (∀ other ∈ db.decisions, other.amendmentId ≠ row.amendmentId) ∧
      db' = { db with decisions := db.decisions ++ [row] } := by
  simp only [insertDecision, bind_eq_ok, ensure_eq_ok] at h
  obtain ⟨_, ⟨amendment, hmem, hid, _, hreview, hother⟩, _, hunique, h⟩ := h
  exact ⟨⟨amendment, hmem, hid, hreview, hother⟩, fun other hdecided => (hunique other hdecided).1,
    (Except.ok.inj h).symm⟩

/-- An accepted update of a period is one step of its life, and a lock agrees
with the entries. -/
theorem updatePeriod_ok {old new : Period} (h : db.updatePeriod old new = .ok db') :
    old.SameSnapshot new ∧ new.revision = old.revision + 1 ∧
      ((old.status = .opened ∧ new.status = .review) ∨
        (old.status = .review ∧ new.status = .locked)) ∧
      (∀ lock ∈ new.lock, ((db.entriesOf new.id).length : Int) = lock.lockedEntryCount ∧
        ((db.entriesOf new.id).map (·.payableMinutes)).sum = lock.totalPayableMinutes) ∧
      db' = db.replacePeriod new := by
  simp only [updatePeriod, bind_eq_ok, ensure_eq_ok] at h
  obtain ⟨_, hsnapshot, _, hrevision, _, hstatus, h⟩ := h
  split at h
  · rename_i lock hlocked hlock
    simp only [bind_eq_ok, ensure_eq_ok] at h
    obtain ⟨_, _, _, htotals, _, _, _, _, _, _, h⟩ := h
    refine ⟨hsnapshot, hrevision, hstatus, ?_, (Except.ok.inj h).symm⟩
    intro other hother
    rw [hlock, Option.mem_some_iff] at hother
    rw [← hother]
    exact htotals
  · rename_i hreview hlock
    simp only [bind_eq_ok, ensure_eq_ok] at h
    obtain ⟨_, _, h⟩ := h
    refine ⟨hsnapshot, hrevision, hstatus, ?_, (Except.ok.inj h).symm⟩
    simp [hlock]
  · cases h

end Database

/-! ## The statements of the commands -/

/-- A statement as the commands issue it, other than the inserts of policies,
periods and entries and the update that locks a period. -/
inductive Statement (db : Database) : Database → Prop
  | locations (rows : List Location) : Statement db { db with locations := rows }
  | operation {db' : Database} {row : Operation}
      (h : db.insertOperation row = .ok db') : Statement db db'
  | review {db' : Database} {period : Period} {started : Option (Int × String)}
      (hmem : period ∈ db.periods) (hopened : period.status = .opened)
      (h : db.updatePeriod period { period with
        status := .review, revision := period.revision + 1, reviewStarted := started } = .ok db') :
      Statement db db'
  | card {db' : Database} {card : TimeCard} (h : db.insertTimeCard card = .ok db') :
      Statement db db'
  | cardUpdate {db' : Database} {now : Int} {old new : TimeCard} (hmem : old ∈ db.cards)
      (hid : new.id = old.id) (huser : new.userId = old.userId)
      (h : db.updateTimeCard now old new = .ok db') : Statement db db'
  | deleteBreaks {db' : Database} {cardId : String} (h : db.deleteBreaks cardId = .ok db') :
      Statement db db'
  | insertBreak {db' : Database} {now : Int} {interval : TimeCardBreak}
      (h : db.insertBreak now interval = .ok db') : Statement db db'
  | approval {db' : Database} {row : Approval} (h : db.insertApproval row = .ok db') :
      Statement db db'
  | amendment {db' : Database} {amendment : Amendment}
      (h : db.insertAmendment amendment = .ok db') : Statement db db'
  | decision {db' : Database} {row : AmendmentDecision} (h : db.insertDecision row = .ok db') :
      Statement db db'

/-- A chain of statements. -/
abbrev Statements : Database → Database → Prop := Relation.ReflTransGen Statement

/-- The period that `createPeriod` inserts. -/
def PolicyVersion.newPeriod (policy : PolicyVersion) (boundaries : Boundaries) (id : String) :
    Period where
  id := id
  policyVersionId := policy.id
  localStartDate := boundaries.localStartDate
  localEndDateExclusive := boundaries.localEndDateExclusive
  startsAt := boundaries.startsAt
  endsAt := boundaries.endsAt
  timeZone := policy.timeZone
  cadence := policy.cadence
  status := .opened
  revision := 0
  reviewStarted := none
  lock := none

/-- A transaction that locks a period: the cards it validated, the sources it
built from them and from the approved amendments, and its writes. -/
structure Locking (zones : Zones) (hashes : Hashes) (db db' : Database) where
  period : Period
  cards : List TimeCard
  cardSources : List LockedEntrySource
  amendmentSources : List LockedEntrySource
  newId : Nat → String
  lock : LockRecord
  middle : Database
  mem : period ∈ db.periods
  review : period.status = .review
  candidates : List TimeCard
  read : db.lockPayrollCandidateCards period = .ok candidates
  validated : zones.validatePayrollCandidateCards candidates period = .ok cards
  sourced : cards.mapM (db.approvedCardSource period.id) = .ok cardSources
  amended : db.approvedAmendmentSources period.id = .ok amendmentSources
  inserted : db.insertLockedEntries (materializeLockedSnapshots hashes newId period.id
    (cardSources ++ amendmentSources)) = .ok middle
  updated : middle.updatePeriod period (period.lockedAs lock) = .ok db'

/-! ## Commands -/

/-- A command of the payroll or the time-card service, or a change of the
locations by another service. -/
inductive Command
  | locations (rows : List Location)
  | createPolicy (request : RequestIdentity) (id : String) (policy : PolicyRequest)
  | createPeriod (request : RequestIdentity) (id : String) (localStartDate : Int)
  | clockIn (request : ClockInRequest)
  | clockOut (request : ClockOutRequest)
  | correct (request : CorrectionRequest)
  | startReview (request : RequestIdentity) (actorUserId periodId : String)
      (expectedRevision : Int)
  | adoptCards (request : RequestIdentity) (periodId : String) (cards : List AdoptedCard)
  | decideCards (request : RequestIdentity) (childOperationId : String → Int → String)
      (actorUserId periodId : String) (decisions : List CardDecision)
  | lockPeriod (request : RequestIdentity) (newId : Nat → String)
      (actorUserId periodId : String) (expectedRevision : Int)
  | createAmendment (request : RequestIdentity) (actorUserId : String) (body : AmendmentRequest)
  | decideAmendment (request : RequestIdentity) (actorUserId amendmentId : String)
      (decision : Decision)

/-- A command at an instant.  `authorised` is false where the session loses its
authority before the commit (`prepareCurrentMutation`, `assertCurrent`). -/
structure Event where
  now : Int
  authorised : Bool
  command : Command

/-- What a command does to the tables. -/
def Command.run (zones : Zones) (hashes : Hashes) (db : Database) (now : Int) :
    Command → Except Problem Database
  | .locations rows => .ok { db with locations := rows }
  | .createPolicy request id policy => zones.createPolicy db now request id policy
  | .createPeriod request id localStartDate => zones.createPeriod db request id localStartDate
  | .clockIn request => zones.clockIn db now request
  | .clockOut request => (db.clockOut now request).map Prod.snd
  | .correct request => (zones.correct db now request).map Prod.snd
  | .startReview request actorUserId periodId expectedRevision =>
      zones.startReview db now request actorUserId periodId expectedRevision
  | .adoptCards request periodId cards => db.adoptCards now request periodId cards
  | .decideCards request childOperationId actorUserId periodId decisions =>
      db.decideCards now request childOperationId actorUserId periodId decisions
  | .lockPeriod request newId actorUserId periodId expectedRevision =>
      zones.lockPeriod hashes db now request newId actorUserId periodId expectedRevision
  | .createAmendment request actorUserId body => db.createAmendment request actorUserId body
  | .decideAmendment request actorUserId amendmentId decision =>
      db.decideAmendment now request actorUserId amendmentId decision

/-- One transaction: it commits, or it is rolled back. -/
def apply (zones : Zones) (hashes : Hashes) (db : Database) (event : Event) :
    Except Problem Database := do
  ensure (event.authorised = true) (.problem 403 "permission_denied")
  event.command.run zones hashes db event.now

/-- The step function of the system: the refusal, where there is one, and the
tables afterwards. -/
def step (zones : Zones) (hashes : Hashes) (db : Database) (event : Event) :
    Option Problem × Database :=
  match apply zones hashes db event with
  | .ok db' => (none, db')
  | .error problem => (some problem, db)

/-- The tables of a tenant before its first payroll command. -/
def Database.initial (locations : List Location) : Database where
  locations := locations
  policies := []
  periods := []
  cards := []
  breaks := []
  approvals := []
  entries := []
  amendments := []
  decisions := []
  operations := []

/-- The row that `createPolicy` inserts. -/
def PolicyRequest.newVersion (body : PolicyRequest) (db : Database) (request : RequestIdentity)
    (id : String) : PolicyVersion where
  id := id
  version := (db.latestPolicy.map (·.version)).getD 0 + 1
  timeZone := body.timeZone
  cadence := body.cadence
  anchorDate := body.anchorDate
  effectiveFrom := body.effectiveFrom
  operationId := request.operationId
  requestHash := request.requestHash.val

/-- What the committed transaction of an event has written. -/
inductive Write (zones : Zones) (hashes : Hashes) (db : Database) (event : Event) :
    Database → Prop
  | statements {db' : Database} (h : Statements db db') : Write zones hashes db event db'
  | policy {db' : Database} {request : RequestIdentity} {id : String} {body : PolicyRequest}
      (hcommand : event.command = .createPolicy request id body)
      (hnew : ∀ row ∈ db.policies, row.operationId ≠ request.operationId)
      (h : db.insertPolicy (body.newVersion db request id) = .ok db') :
      Write zones hashes db event db'
  | period {middle db' : Database} {id : String} {localStartDate : Int} {policy : PolicyVersion}
      {boundaries : Boundaries} {row : Operation}
      (hpolicy : db.policyFor localStartDate = some policy)
      (hboundaries : zones.payrollPeriodBoundaries localStartDate policy = .ok boundaries)
      (hdisjoint : ∀ other ∈ db.periods,
        ¬ (other.startsAt < boundaries.endsAt ∧ boundaries.startsAt < other.endsAt))
      (hinsert : db.insertPeriod (policy.newPeriod boundaries id) = .ok middle)
      (hoperation : middle.insertOperation row = .ok db') : Write zones hashes db event db'
  | locking {db' : Database} (locking : Locking zones hashes db db') :
      Write zones hashes db event db'

/-! ## What each command writes -/

section Writes

variable {zones : Zones} {hashes : Hashes} {db db' : Database} {now : Int}

theorem mem_of_period? {id : String} {period : Period} (h : db.period? id = some period) :
    period ∈ db.periods ∧ period.id = id := by
  refine ⟨List.mem_of_find?_eq_some h, ?_⟩
  simpa using List.find?_some h

theorem mem_of_card? {id : String} {card : TimeCard} (h : db.card? id = some card) :
    card ∈ db.cards ∧ card.id = id := by
  refine ⟨List.mem_of_find?_eq_some h, ?_⟩
  simpa using List.find?_some h

theorem mem_of_entry? {id : String} {entry : LockedEntry} (h : db.entry? id = some entry) :
    entry ∈ db.entries ∧ entry.id = id := by
  refine ⟨List.mem_of_find?_eq_some h, ?_⟩
  simpa using List.find?_some h

theorem mem_of_decision? {id : String} {row : AmendmentDecision}
    (h : db.decision? id = some row) : row ∈ db.decisions ∧ row.amendmentId = id := by
  refine ⟨List.mem_of_find?_eq_some h, ?_⟩
  simpa using List.find?_some h

theorem requirePeriodById_ok {id : String} {period : Period}
    (h : db.requirePeriodById id = .ok period) : period ∈ db.periods ∧ period.id = id := by
  unfold Database.requirePeriodById at h
  split at h
  · cases h
  · rename_i found hfound
    obtain rfl := Except.ok.inj h
    exact mem_of_period? hfound

theorem findScopedTimeCard_ok {actorUserId id : String} {team includeClosed : Bool}
    {card : TimeCard} (h : db.findScopedTimeCard actorUserId team id includeClosed = .ok card) :
    card ∈ db.cards ∧ card.deletedAt = none := by
  unfold Database.findScopedTimeCard at h
  split at h
  · cases h
  · rename_i found hfound
    simp only [bind_eq_ok, ensure_eq_ok] at h
    obtain ⟨_, hvisible, h⟩ := h
    obtain rfl := Except.ok.inj h
    exact ⟨(mem_of_card? hfound).1, hvisible.1⟩

/-- A replayed command changes nothing. -/
theorem eq_of_replay {request : RequestIdentity} {answer : Except Problem Database}
    (h : db.replay request = some answer) (hok : answer = .ok db') : db' = db := by
  unfold Database.replay at h
  obtain ⟨row, _, hanswer⟩ := Option.map_eq_some_iff.mp h
  subst hok
  split at hanswer
  · exact (Except.ok.inj hanswer).symm
  · cases hanswer

theorem write_of_createPolicy {event : Event} {request : RequestIdentity} {id : String}
    {body : PolicyRequest} (hcommand : event.command = .createPolicy request id body)
    (h : zones.createPolicy db now request id body = .ok db') :
    Write zones hashes db event db' := by
  simp only [Zones.createPolicy, bind_eq_ok, ensure_eq_ok] at h
  obtain ⟨_, _, _, _, h⟩ := h
  split at h
  · split at h
    · obtain rfl := Except.ok.inj h
      exact .statements .refl
    · cases h
  · rename_i hnone
    simp only [bind_eq_ok, ensure_eq_ok] at h
    obtain ⟨_, _, _, _, _, _, _, _, h⟩ := h
    refine .policy hcommand ?_ h
    intro row hrow
    simpa using List.find?_eq_none.mp hnone row hrow

theorem write_of_createPeriod {event : Event} {request : RequestIdentity} {id : String}
    {date : Int} (h : zones.createPeriod db request id date = .ok db') :
    Write zones hashes db event db' := by
  unfold Zones.createPeriod at h
  split at h
  · rename_i answer hanswer
    rw [eq_of_replay hanswer h]
    exact .statements .refl
  · simp only [bind_eq_ok, ensure_eq_ok] at h
    obtain ⟨_, _, h⟩ := h
    split at h
    · cases h
    · rename_i policy hpolicy
      simp only [bind_eq_ok, ensure_eq_ok] at h
      obtain ⟨boundaries, hboundaries, _, hdisjoint, middle, hinsert, hoperation⟩ := h
      exact .period hpolicy hboundaries hdisjoint hinsert hoperation

theorem statements_of_clockIn {request : ClockInRequest}
    (h : zones.clockIn db now request = .ok db') : Statements db db' := by
  simp only [Zones.clockIn, bind_eq_ok, ensure_eq_ok] at h
  obtain ⟨_, _, h⟩ := h
  split at h
  · split at h
    · obtain rfl := Except.ok.inj h
      exact .refl
    · cases h
  · simp only [bind_eq_ok, ensure_eq_ok] at h
    obtain ⟨_, _, _, _, payroll, _, h⟩ := h
    exact .single (.card h)

theorem statements_of_clockOut {request : ClockOutRequest} {card : TimeCard}
    (h : db.clockOut now request = .ok (card, db')) : Statements db db' := by
  simp only [Database.clockOut, bind_eq_ok, ensure_eq_ok] at h
  obtain ⟨_, _, old, hold, _, _, _, _, _, _, _, _, breakMinutes, _, _, _, middle, hupdate, h⟩ := h
  obtain ⟨rfl, rfl⟩ := Prod.mk.inj (Except.ok.inj h)
  refine .single (.cardUpdate (findScopedTimeCard_ok hold).1 ?_ ?_ hupdate)
  all_goals rfl

theorem statements_of_insertBreaks {cardId : String} {intervals : List BreakInterval}
    (h : Database.insertBreaks now cardId db intervals = .ok db') : Statements db db' := by
  induction intervals generalizing db with
  | nil =>
      obtain rfl := Except.ok.inj h
      exact .refl
  | cons interval rest ih =>
      obtain ⟨middle, hinsert, hrest⟩ := bind_eq_ok.mp h
      exact .head (.insertBreak hinsert) (ih hrest)

theorem statements_of_replaceBreaks {cardId : String} {intervals : Option (List BreakInterval)}
    (h : db.replaceBreaks now cardId intervals = .ok db') : Statements db db' := by
  cases intervals with
  | none =>
      obtain rfl := Except.ok.inj h
      exact .refl
  | some intervals =>
      obtain ⟨middle, hdelete, hrest⟩ := bind_eq_ok.mp h
      exact .head (.deleteBreaks hdelete) (statements_of_insertBreaks hrest)

theorem statements_of_correct {request : CorrectionRequest} {card : TimeCard}
    (h : zones.correct db now request = .ok (card, db')) : Statements db db' := by
  simp only [Zones.correct, bind_eq_ok, ensure_eq_ok] at h
  obtain ⟨_, _, _, _, old, hold, _, _, correction, _, assignment, _, _, _, _, _, _, _, _, _,
    middle, hupdate, last, hbreaks, h⟩ := h
  have hwrites : Statements db last := by
    refine .head (.cardUpdate (findScopedTimeCard_ok hold).1 ?_ ?_ hupdate)
      (statements_of_replaceBreaks hbreaks)
    all_goals rfl
  split at h
  · obtain ⟨_, rfl⟩ := Prod.mk.inj (Except.ok.inj h)
    exact hwrites
  · obtain ⟨_, _, h⟩ := bind_eq_ok.mp h
    obtain ⟨_, rfl⟩ := Prod.mk.inj (Except.ok.inj h)
    exact hwrites

theorem statements_of_startReview {request : RequestIdentity} {actorUserId periodId : String}
    {expectedRevision : Int}
    (h : zones.startReview db now request actorUserId periodId expectedRevision = .ok db') :
    Statements db db' := by
  unfold Zones.startReview at h
  split at h
  · rename_i answer hanswer
    rw [eq_of_replay hanswer h]
  · simp only [bind_eq_ok, ensure_eq_ok] at h
    obtain ⟨period, hperiod, _, hopened, _, _, _, _, candidates, _, _, _, middle, hupdate,
      hoperation⟩ := h
    exact .tail (.single (.review (requirePeriodById_ok hperiod).1 hopened hupdate))
      (.operation hoperation)

theorem statements_of_adoptRows {periodId : String} {rows : List TimeCard}
    (h : Database.adoptRows now periodId db rows = .ok db') : Statements db db' := by
  induction rows generalizing db with
  | nil =>
      obtain rfl := Except.ok.inj h
      exact .refl
  | cons card rest ih =>
      simp only [Database.adoptRows] at h
      split at h
      · cases h
      · rename_i current hcurrent
        obtain ⟨middle, hupdate, hrest⟩ := bind_eq_ok.mp h
        refine .head (.cardUpdate (List.mem_of_find?_eq_some hcurrent) ?_ ?_ hupdate) (ih hrest)
        all_goals rfl

theorem statements_of_adoptCards {request : RequestIdentity} {periodId : String}
    {cards : List AdoptedCard} (h : db.adoptCards now request periodId cards = .ok db') :
    Statements db db' := by
  simp only [Database.adoptCards, bind_eq_ok, ensure_eq_ok] at h
  obtain ⟨_, _, h⟩ := h
  split at h
  · rename_i answer hanswer
    rw [eq_of_replay hanswer h]
  · simp only [bind_eq_ok, ensure_eq_ok] at h
    obtain ⟨period, _, _, _, _, _, _, _, _, _, middle, hadopt, hoperation⟩ := h
    exact .tail (statements_of_adoptRows hadopt) (.operation hoperation)

theorem statements_of_insertApprovals {actorUserId periodId : String}
    {childOperationId : String → Int → String} {decisions : List CardDecision}
    (h : Database.insertApprovals now actorUserId periodId childOperationId db decisions = .ok db') :
    Statements db db' := by
  induction decisions generalizing db with
  | nil =>
      obtain rfl := Except.ok.inj h
      exact .refl
  | cons decision rest ih =>
      obtain ⟨middle, hinsert, hrest⟩ := bind_eq_ok.mp h
      exact .head (.approval hinsert) (ih hrest)

theorem statements_of_decideCards {request : RequestIdentity}
    {childOperationId : String → Int → String} {actorUserId periodId : String}
    {decisions : List CardDecision}
    (h : db.decideCards now request childOperationId actorUserId periodId decisions = .ok db') :
    Statements db db' := by
  simp only [Database.decideCards, bind_eq_ok, ensure_eq_ok] at h
  obtain ⟨_, _, h⟩ := h
  split at h
  · rename_i answer hanswer
    rw [eq_of_replay hanswer h]
  · simp only [bind_eq_ok, ensure_eq_ok] at h
    obtain ⟨period, _, _, _, _, _, _, _, _, _, _, _, middle, hinsert, hoperation⟩ := h
    exact .tail (statements_of_insertApprovals hinsert) (.operation hoperation)

theorem statements_of_createAmendment {request : RequestIdentity} {actorUserId : String}
    {body : AmendmentRequest} (h : db.createAmendment request actorUserId body = .ok db') :
    Statements db db' := by
  simp only [Database.createAmendment] at h
  split at h
  · cases h
  · obtain ⟨payableMinutes, _, h⟩ := bind_eq_ok.mp h
    split at h
    · split at h
      · obtain rfl := Except.ok.inj h
        exact .refl
      · cases h
    · obtain ⟨adjustmentPeriod, _, h⟩ := bind_eq_ok.mp h
      split at h
      · cases h
      · simp only [bind_eq_ok, ensure_eq_ok] at h
        obtain ⟨_, _, _, _, _, _, sourcePeriod, _, _, _, _, _, h⟩ := h
        exact .single (.amendment h)

theorem statements_of_decideAmendment {request : RequestIdentity}
    {actorUserId amendmentId : String} {decision : Decision}
    (h : db.decideAmendment now request actorUserId amendmentId decision = .ok db') :
    Statements db db' := by
  unfold Database.decideAmendment at h
  split at h
  · split at h
    · obtain rfl := Except.ok.inj h
      exact .refl
    · cases h
  · split at h
    · cases h
    · obtain ⟨adjustmentPeriod, _, h⟩ := bind_eq_ok.mp h
      split at h
      · cases h
      · simp only [bind_eq_ok, ensure_eq_ok] at h
        obtain ⟨_, _, _, _, _, _, h⟩ := h
        exact .single (.decision h)

/-- An accepted `lockPeriod` is a replay or a locking of the named period. -/
theorem locking_of_lockPeriod {request : RequestIdentity} {newId : Nat → String}
    {actorUserId periodId : String} {expectedRevision : Int}
    (h : zones.lockPeriod hashes db now request newId actorUserId periodId expectedRevision
      = .ok db') :
    db' = db ∨ ∃ locking : Locking zones hashes db db', locking.period.id = periodId := by
  obtain ⟨period, hperiod, h⟩ := bind_eq_ok.mp h
  split at h
  · split at h
    · exact .inl (Except.ok.inj h).symm
    · cases h
  · cases h
  · rename_i hreview
    simp only [bind_eq_ok, ensure_eq_ok, checkAll_eq_ok] at h
    obtain ⟨_, _, _, _, candidates, hcandidates, cards, hcards, _, _, cardSources, hsources,
      amendmentSources, hamended, _, _, total, _, middle, hinserted, hupdated⟩ := h
    refine .inr ⟨⟨period, cards, cardSources, amendmentSources, newId, _, middle,
      (requirePeriodById_ok hperiod).1, hreview, candidates, hcandidates, hcards, hsources,
      hamended, hinserted, hupdated⟩, ?_⟩
    exact (requirePeriodById_ok hperiod).2

/-- Every accepted command is one of the four kinds of transactions. -/
theorem write_of_apply {event : Event} (h : apply zones hashes db event = .ok db') :
    Write zones hashes db event db' := by
  simp only [apply, bind_eq_ok, ensure_eq_ok] at h
  obtain ⟨_, _, h⟩ := h
  cases hcommand : event.command with
  | locations rows =>
      rw [hcommand] at h
      obtain rfl := Except.ok.inj h
      exact .statements (.single (.locations rows))
  | createPolicy request id policy =>
      rw [hcommand] at h
      exact write_of_createPolicy hcommand h
  | createPeriod request id localStartDate =>
      rw [hcommand] at h
      exact write_of_createPeriod h
  | clockIn request =>
      rw [hcommand] at h
      exact .statements (statements_of_clockIn h)
  | clockOut request =>
      rw [hcommand] at h
      obtain ⟨⟨card, last⟩, hout, rfl⟩ := map_eq_ok.mp h
      exact .statements (statements_of_clockOut hout)
  | correct request =>
      rw [hcommand] at h
      obtain ⟨⟨card, last⟩, hout, rfl⟩ := map_eq_ok.mp h
      exact .statements (statements_of_correct hout)
  | startReview request actorUserId periodId expectedRevision =>
      rw [hcommand] at h
      exact .statements (statements_of_startReview h)
  | adoptCards request periodId cards =>
      rw [hcommand] at h
      exact .statements (statements_of_adoptCards h)
  | decideCards request childOperationId actorUserId periodId decisions =>
      rw [hcommand] at h
      exact .statements (statements_of_decideCards h)
  | lockPeriod request newId actorUserId periodId expectedRevision =>
      rw [hcommand] at h
      rcases locking_of_lockPeriod h with rfl | ⟨locking, _⟩
      · exact .statements .refl
      · exact .locking locking
  | createAmendment request actorUserId body =>
      rw [hcommand] at h
      exact .statements (statements_of_createAmendment h)
  | decideAmendment request actorUserId amendmentId decision =>
      rw [hcommand] at h
      exact .statements (statements_of_decideAmendment h)

/-- A rule for the step function: what holds of a rejected transaction, where
nothing changes, and of each kind of transaction holds of every step. -/
theorem step_of_write {R : Database → Prop} (event : Event) (hrefl : R db)
    (hwrite : ∀ next, Write zones hashes db event next → R next) :
    R (step zones hashes db event).2 := by
  unfold step
  cases happly : apply zones hashes db event with
  | error problem => exact hrefl
  | ok next => exact hwrite next (write_of_apply happly)

end Writes

end LunchLineup.Payroll
