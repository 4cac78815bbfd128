import LunchLineup.Lib.Revisions
import LunchLineup.Scheduling.MutationSteps
import LunchLineup.Scheduling.PlanApplied

/-!
# Runs of writes on saved schedules

The clients of a tenant look and write in any order; acknowledgements are lost, transactions
roll back, calls are retried with the same key.  Over such a run:

* nothing is written without a receipt, and under a key there is one write,
  `every_write_once`; whoever is answered under a key is answered the same, and another
  request under it is refused, `answers_agree`;
* the changes of a schedule are against consecutive revisions, from the first on, and its
  revision counts them, `no_lost_update`;
* a revision stands for one board, `same_revision_same_board`, so a publication publishes
  what its author accepted, `accepted_board_published`;
* a schedule that is not a draft stays as it is until it is reopened,
  `frozen_until_reopened`.
-/

namespace LunchLineup.Scheduling

open LunchLineup.Lib
open LunchLineup.Breaks (ScheduleStatus)
open LunchLineup.Payroll (Fate)

section Receipts

variable {service : SchedulingService} {tables next : ScheduleTables} {event : ScheduleEvent}

/-! ## What a step records -/

theorem ScheduleMove.recording (h : ScheduleMove service tables event next) :
    Recording tables.receipts next.receipts := by
  cases h with
  | kept => exact .kept
  | changed hfate h =>
      rw [h.receipts_eq]
      exact .added _ h.fresh
  | created hfate h =>
      rw [show next.receipts = tables.receipts by rw [ScheduleTables.receipts, h.changeSets]; rfl]
      exact .kept
  | published hfate h =>
      rw [show next.receipts = tables.receipts by rw [ScheduleTables.receipts, h.changeSets]; rfl]
      exact .kept

theorem ScheduleMove.recording_creations (h : ScheduleMove service tables event next) :
    Recording tables.creations next.creations := by
  cases h with
  | kept => exact .kept
  | changed hfate h =>
      rw [h.creations]
      exact .kept
  | created hfate h =>
      rw [h.creations]
      exact .added _ h.fresh
  | published hfate h =>
      rw [h.creations]
      exact .kept

theorem ScheduleMove.recording_publications (h : ScheduleMove service tables event next) :
    Recording tables.publications next.publications := by
  cases h with
  | kept => exact .kept
  | changed hfate h =>
      rw [h.publications]
      exact .kept
  | created hfate h =>
      rw [h.publications]
      exact .kept
  | published hfate h =>
      rw [h.publications]
      exact .added _ h.fresh

/-- The step writes under the key of its call, and adds the receipt. -/
inductive WritesOnce (service : SchedulingService)
    (t : Transition ScheduleTables ScheduleEvent ScheduleAnswer) : Prop
  | change {call around fate prepared} (hrequest : t.request = .mutate call around fate)
      (hprepared : service.prepare call = .ok prepared)
      (hadds : AddsReceipt ScheduleTables.receipts prepared.keyHash t)
  | creation {call around fate prepared} (hrequest : t.request = .create call around fate)
      (hprepared : service.prepareCreation call = .ok prepared)
      (hadds : AddsReceipt ScheduleTables.creations prepared.operationId t)
  | publication {call around fate key} (hrequest : t.request = .publish call around fate)
      (hkey : publicationKey call.idempotencyKey = .ok key)
      (hadds : AddsReceipt ScheduleTables.publications (service.publicationId call.scheduleId key) t)

theorem ScheduleMove.writesOnce {t : Transition ScheduleTables ScheduleEvent ScheduleAnswer}
    (h : ScheduleMove service t.before t.request t.after) :
    t.after = t.before ∨ WritesOnce service t := by
  obtain ⟨before, request, answer, after⟩ := t
  simp only at h ⊢
  cases h with
  | kept => exact .inl rfl
  | @changed call around fate prepared row response _ hfate h =>
      exact .inr (.change rfl h.request
        (addsReceipt_of_append (ScheduleEvent.mutate call around fate) answer
          ⟨prepared.keyHash, prepared.requestHash, response⟩ h.fresh h.receipts_eq))
  | @created call around fate prepared row response _ hfate h =>
      exact .inr (.creation rfl h.request
        (addsReceipt_of_append (ScheduleEvent.create call around fate) answer
          ⟨prepared.operationId, prepared.requestHash, response⟩ h.fresh h.creations))
  | @published call around fate key row response _ hfate h =>
      exact .inr (.publication rfl h.request
        (addsReceipt_of_append (ScheduleEvent.publish call around fate) answer
          ⟨service.publicationId call.scheduleId key,
            service.publicationHash call.scheduleId call.acceptedContract, response⟩
          h.fresh h.publications))

/-! ## Keys -/

/-- Nothing is written without a receipt, and one step of a run writes under a key. -/
theorem every_write_once (service : SchedulingService) {tables : ScheduleTables}
    (hkeys : UniqueKeys tables) (events : List ScheduleEvent) :
    (∀ t ∈ trace service.step tables events, t.after = t.before ∨ WritesOnce service t) ∧
      ∀ key, (trace service.step tables events).Pairwise fun t t' =>
        ¬ (AddsReceipt ScheduleTables.receipts key t ∧
            AddsReceipt ScheduleTables.receipts key t') ∧
          ¬ (AddsReceipt ScheduleTables.creations key t ∧
            AddsReceipt ScheduleTables.creations key t') ∧
          ¬ (AddsReceipt ScheduleTables.publications key t ∧
            AddsReceipt ScheduleTables.publications key t') := by
  have hinv : ∀ state event, UniqueKeys state → UniqueKeys (service.step state event).2 :=
    fun state event h => step_uniqueKeys h event
  constructor
  · intro t ht
    obtain ⟨hbefore, hstep⟩ := invariant_of_mem_trace UniqueKeys hinv hkeys ht
    have hmove : ScheduleMove service t.before t.request (service.step t.before t.request).2 :=
      step_move hbefore t.request
    rw [hstep] at hmove ⊢
    exact ScheduleMove.writesOnce hmove
  · intro key
    have hchanges := pairwise_addsReceipt hinv
      (fun state event h => (step_move h event).recording) key hkeys events
    have hcreations := pairwise_addsReceipt hinv
      (fun state event h => (step_move h event).recording_creations) key hkeys events
    have hpublications := pairwise_addsReceipt hinv
      (fun state event h => (step_move h event).recording_publications) key hkeys events
    exact hchanges.and (hcreations.and hpublications)

/-! ## Answers -/

/-- A step at which a call is answered, from a first look or under the lock. -/
def AnswersCall (t : Transition ScheduleTables ScheduleEvent ScheduleAnswer) (call : ScheduleCall)
    (response : MutationResponse) : Prop :=
  ((∃ around, t.request = .look call around) ∨
      ∃ around fate, t.request = .mutate call around fate) ∧
    t.answer = .mutation response

theorem looked_eq_mutation {outcome : Except Problem (Option MutationResponse)}
    {response : MutationResponse} (h : looked .mutation outcome = .mutation response) :
    outcome = .ok (some response) := by
  cases outcome with
  | error problem => cases h
  | ok found =>
      cases found with
      | none => cases h
      | some recorded =>
          obtain rfl := ScheduleAnswer.mutation.inj h
          rfl

theorem settled_eq_mutation {fate : Fate}
    {outcome : Except Problem (MutationResponse × ScheduleTables)} {response : MutationResponse}
    (h : (settled tables .mutation fate outcome).1 = .mutation response) :
    ∃ next, outcome = .ok (response, next) ∧ (settled tables .mutation fate outcome).2 = next := by
  cases outcome with
  | error problem => cases h
  | ok made =>
      obtain ⟨other, next⟩ := made
      cases fate with
      | acknowledged =>
          obtain rfl := ScheduleAnswer.mutation.inj h
          exact ⟨next, rfl, rfl⟩
      | unacknowledged => cases h
      | rolledBack => cases h

/-- A response that is given again is that of a receipt. -/
theorem receipt_of_replay {call : ScheduleCall} {prepared : PreparedCall}
    {response : MutationResponse}
    (h : service.replay tables call prepared = .ok (some response)) :
    ⟨prepared.keyHash, prepared.requestHash, response⟩ ∈ tables.receipts := by
  obtain ⟨receipt, hmem, hkey, hhash, hresponse⟩ := mem_of_lookUp (replayed_eq_some.mp h)
  cases receipt
  simp only at hkey hhash hresponse
  rw [← hkey, ← hhash, ← hresponse]
  exact hmem

/-- Whoever is answered has a receipt with the answer in the tables. -/
theorem receipt_of_answer {t : Transition ScheduleTables ScheduleEvent ScheduleAnswer}
    (hkeys : UniqueKeys t.before) (ht : t = transition service.step t.before t.request)
    {call : ScheduleCall} {response : MutationResponse} (h : AnswersCall t call response) :
    ∃ prepared, service.prepare call = .ok prepared ∧
      ⟨prepared.keyHash, prepared.requestHash, response⟩ ∈ t.after.receipts := by
  obtain ⟨before, request, answer, after⟩ := t
  obtain ⟨hanswer, hafter⟩ : answer = (service.step before request).1 ∧
      after = (service.step before request).2 := by
    simpa [transition] using ht
  obtain ⟨⟨around, hrequest⟩ | ⟨around, fate, hrequest⟩, hanswered⟩ := h
  · simp only at hrequest hanswered hkeys
    subst hrequest
    rw [hanswer] at hanswered
    have hlook := looked_eq_mutation hanswered
    simp only [SchedulingService.look, bind_eq_ok] at hlook
    obtain ⟨prepared, hprepared, _, _, hfound⟩ := hlook
    exact ⟨prepared, hprepared, hafter ▸ receipt_of_replay hfound⟩
  · simp only at hrequest hanswered hkeys
    subst hrequest
    rw [hanswer] at hanswered
    obtain ⟨next, hmade, hnext⟩ := settled_eq_mutation hanswered
    rw [show after = next from hafter.trans hnext]
    obtain ⟨prepared, hprepared, ⟨rfl, hfound⟩ | ⟨row, hchanged⟩⟩ := mutate_eq_ok hkeys hmade
    · exact ⟨prepared, hprepared, receipt_of_replay hfound⟩
    · refine ⟨prepared, hprepared, ?_⟩
      show _ ∈ next.receipts
      rw [hchanged.receipts_eq]
      exact List.mem_append_right _ (List.mem_singleton_self _)

/-- An answer settles its key: from then on the same request is given it again, and every
other request is refused. -/
theorem answers_agree (service : SchedulingService) {tables : ScheduleTables}
    (hkeys : UniqueKeys tables) (events : List ScheduleEvent)
    {t : Transition ScheduleTables ScheduleEvent ScheduleAnswer}
    (ht : t ∈ trace service.step tables events) {call : ScheduleCall}
    {response : MutationResponse} (hanswer : AnswersCall t call response) :
    ∃ prepared, service.prepare call = .ok prepared ∧
      (∀ retry again, service.prepare retry = .ok again → again.keyHash = prepared.keyHash →
        service.replay (final service.step tables events) retry again =
          if again.requestHash ≠ prepared.requestHash then .error keyReused
          else if service.matchesContract retry.command response = true then .ok (some response)
          else .error resultUnavailable) ∧
      ∀ t' ∈ trace service.step tables events, ∀ call' response' prepared',
        AnswersCall t' call' response' → service.prepare call' = .ok prepared' →
          prepared'.keyHash = prepared.keyHash →
            response' = response ∧ prepared'.requestHash = prepared.requestHash := by
  have hinv : ∀ state event, UniqueKeys state → UniqueKeys (service.step state event).2 :=
    fun state event h => step_uniqueKeys h event
  have hend : UniqueKeys (final service.step tables events) :=
    invariant_final UniqueKeys hinv hkeys events
  -- receipts last, so the final tables have the receipt of every answer of the run
  have hlasts : ∀ t ∈ trace service.step tables events, ∀ call response,
      AnswersCall t call response → ∃ prepared, service.prepare call = .ok prepared ∧
        ⟨prepared.keyHash, prepared.requestHash, response⟩ ∈
          (final service.step tables events).receipts := by
    intro t ht call response hanswer
    obtain ⟨hbefore, hstep⟩ := invariant_of_mem_trace UniqueKeys hinv hkeys ht
    obtain ⟨prepared, hprepared, hmem⟩ := receipt_of_answer hbefore hstep hanswer
    refine ⟨prepared, hprepared, ?_⟩
    have hkept : UniqueKeys t.after → ∀ receipt ∈ t.after.receipts,
        receipt ∈ (final service.step tables events).receipts := by
      refine fun hafter => (related_of_mem_trace
        (fun state state' => UniqueKeys state → UniqueKeys state' ∧
          ∀ receipt ∈ state.receipts, receipt ∈ state'.receipts) ?_ ?_ ?_ ht hafter).2
      · exact fun state h => ⟨h, fun _ hmem => hmem⟩
      · intro first second third hfirst hsecond h
        obtain ⟨hmiddle, hmems⟩ := hfirst h
        obtain ⟨hlast, hmems'⟩ := hsecond hmiddle
        exact ⟨hlast, fun receipt hmem => hmems' receipt (hmems receipt hmem)⟩
      · exact fun state event h => ⟨hinv state event h,
          fun receipt hmem => (step_move h event).recording.mem hmem⟩
    refine hkept ?_ _ hmem
    rw [hstep]
    exact hinv t.before t.request hbefore
  obtain ⟨prepared, hprepared, hmem⟩ := hlasts t ht call response hanswer
  refine ⟨prepared, hprepared, ?_, ?_⟩
  · intro retry again _ hkey
    unfold SchedulingService.replay
    rw [hkey, lookUp_of_mem hend.changes hmem]
    simp only [ne_comm]
    split_ifs
    · rfl
    · rfl
    · rfl
  · intro t' ht' call' response' prepared' hanswer' hprepared' hkey
    obtain ⟨found, hfound, hmem'⟩ := hlasts t' ht' call' response' hanswer'
    obtain rfl := Except.ok.inj (hprepared'.symm.trans hfound)
    have hsame := eq_of_key hend.changes hmem' hmem hkey
    simp only [Receipt.mk.injEq] at hsame
    exact ⟨hsame.2.2, hsame.2.1⟩

end Receipts

/-! ## Revisions -/

/-- The columns of a schedule that no write changes. -/
structure ScheduleFrame where
  publicId : String
  locationId : String
  startDate : Int
  endDate : Int
  deleted : Bool

def ScheduleRow.frame (row : ScheduleRow) : ScheduleFrame :=
  ⟨row.publicId, row.locationId, row.startDate, row.endDate, row.deleted⟩

/-- The row with an id. -/
def ScheduleTables.schedule? (tables : ScheduleTables) (id : String) : Option ScheduleRow :=
  tables.schedules.find? fun row => row.id = id

/-- The schedules as items with a revision; the receipts are the log. -/
def scheduleRevisions :
    Revisions ScheduleTables String (BoardRows × Option ScheduleFrame) ChangeSetRow where
  revision tables id := (tables.schedule? id).map (·.revision)
  content tables id := (tables.board id, (tables.schedule? id).map (·.frame))
  log := (·.changeSets)
  item := (·.scheduleId)
  base := (·.baseRevision)

section Revisions

variable {service : SchedulingService} {tables next : ScheduleTables} {event : ScheduleEvent}
  {row : ScheduleRow}

theorem schedule?_of_mem (hkeys : UniqueKeys tables) (hrow : row ∈ tables.schedules) :
    tables.schedule? row.id = some row := find?_key hkeys.schedules hrow

theorem schedule?_mem {id : String} (h : tables.schedule? id = some row) :
    row ∈ tables.schedules ∧ row.id = id :=
  ⟨List.mem_of_find?_eq_some h, by simpa using List.find?_some h⟩

/-- After the update of a row, its id has the new row, and every other id the row it had. -/
theorem schedule?_replaced (hkeys : UniqueKeys tables) {new : ScheduleRow}
    (hrow : row ∈ tables.schedules) (hid : new.id = row.id)
    (hschedules : next.schedules = replaceRow (·.id) tables.schedules new) :
    next.schedule? row.id = some new ∧
      ∀ id, id ≠ row.id → next.schedule? id = tables.schedule? id := by
  unfold ScheduleTables.schedule?
  rw [hschedules]
  constructor
  · have hmem : new ∈ replaceRow (·.id) tables.schedules new := new_mem_replaceRow hrow hid.symm
    rw [← hid]
    refine find?_key ?_ hmem
    rw [keys_replaceRow]
    exact hkeys.schedules
  · intro id hne
    exact find?_replaceRow_of_ne (hid ▸ Ne.symm hne)

theorem Changed.advances (hkeys : UniqueKeys tables) {call : ScheduleCall}
    {around : Surroundings} {prepared : PreparedCall} {response : MutationResponse}
    (h : Changed service call around prepared row response tables next) :
    scheduleRevisions.Advances tables next := by
  obtain ⟨changeSetId, hlog⟩ := h.changeSets
  obtain ⟨hnew, hothers⟩ :=
    schedule?_replaced hkeys h.mem (call.command.revise_id row) h.schedules
  refine .of_write hlog ?_ ?_ ?_
  · show (tables.schedule? row.id).map (·.revision) = some prepared.baseRevision
    rw [schedule?_of_mem hkeys h.mem, Option.map_some, h.revision]
  · show (next.schedule? row.id).map (·.revision) = some (prepared.baseRevision + 1)
    rw [hnew, Option.map_some, call.command.revise_revision, h.revision]
  · intro id r hne hr
    have hsame := hothers id hne
    have hboard := h.others id hne
    exact ⟨by simpa [scheduleRevisions, hsame] using hr,
      by simp [scheduleRevisions, hsame, hboard]⟩

theorem ScheduleMove.advances (hkeys : UniqueKeys tables)
    (h : ScheduleMove service tables event next) : scheduleRevisions.Advances tables next := by
  cases h with
  | kept => exact .refl tables
  | changed hfate h => exact h.advances hkeys
  | created hfate h =>
      refine .of_quiet h.changeSets fun id r hr => ?_
      obtain ⟨found, hfound, rfl⟩ := Option.map_eq_some_iff.mp hr
      have hsame : next.schedule? id = some found := by
        rcases h.schedules with ⟨_, hkept⟩ | ⟨_, _, hadded⟩
        · rw [ScheduleTables.schedule?, hkept]
          exact hfound
        · have hfound : tables.schedules.find? (fun row => row.id = id) = some found := hfound
          rw [ScheduleTables.schedule?, hadded, List.find?_append, hfound]
          rfl
      have hboard : next.board id = tables.board id := by
        simp only [ScheduleTables.board, h.shifts, h.windows]
      exact ⟨by simp [scheduleRevisions, hsame], by simp [scheduleRevisions, hsame, hfound, hboard]⟩
  | @published call around fate key row response _ hfate h =>
      obtain ⟨hnew, hothers⟩ := schedule?_replaced hkeys h.mem
        (show (row.published around.now).id = row.id from rfl) h.schedules
      refine .of_quiet h.changeSets fun id r hr => ?_
      have hboard : next.board id = tables.board id := by
        simp only [ScheduleTables.board, h.shifts, h.windows]
      by_cases heq : id = row.id
      · subst heq
        have hold := schedule?_of_mem hkeys h.mem
        have hrevision : (tables.schedule? row.id).map (·.revision) = some r := hr
        rw [hold] at hrevision
        refine ⟨?_, ?_⟩
        · show (next.schedule? row.id).map (·.revision) = some r
          rw [hnew]
          exact hrevision
        · show (next.board row.id, (next.schedule? row.id).map (·.frame)) =
            (tables.board row.id, (tables.schedule? row.id).map (·.frame))
          rw [hnew, hold, hboard]
          rfl
      · have hsame := hothers id heq
        exact ⟨by simpa [scheduleRevisions, hsame] using hr,
          by simp [scheduleRevisions, hsame, hboard]⟩

theorem uniqueKeys_final (hkeys : UniqueKeys tables) (events : List ScheduleEvent) :
    UniqueKeys (final service.step tables events) :=
  invariant_final UniqueKeys (fun _ event h => step_uniqueKeys h event) hkeys events

theorem final_advances (hkeys : UniqueKeys tables) (events : List ScheduleEvent) :
    scheduleRevisions.Advances tables (final service.step tables events) := by
  refine (related_final (fun state state' => UniqueKeys state →
    UniqueKeys state' ∧ scheduleRevisions.Advances state state') ?_ ?_ ?_ tables events hkeys).2
  · exact fun state h => ⟨h, .refl state⟩
  · intro first second third hfirst hsecond h
    obtain ⟨hmiddle, hadvances⟩ := hfirst h
    obtain ⟨hlast, hadvances'⟩ := hsecond hmiddle
    exact ⟨hlast, hadvances.trans hadvances'⟩
  · exact fun state event h => ⟨step_uniqueKeys h event, (step_move h event).advances h⟩

/-- A revision stands for one board: a schedule that has a revision again, or still, has the
shifts, the windows and the dates that it had under it. -/
theorem same_revision_same_board (service : SchedulingService) {tables : ScheduleTables}
    (hkeys : UniqueKeys tables) (events : List ScheduleEvent) {row row' : ScheduleRow}
    (hrow : row ∈ tables.schedules) (hrow' : row' ∈ (final service.step tables events).schedules)
    (hid : row'.id = row.id) (hrevision : row'.revision = row.revision) :
    (final service.step tables events).board row.id = tables.board row.id ∧
      row'.frame = row.frame := by
  have hbefore := schedule?_of_mem hkeys hrow
  have hafter := schedule?_of_mem (uniqueKeys_final hkeys events) hrow'
  rw [hid] at hafter
  have hbegun : scheduleRevisions.revision tables row.id = some row.revision := by
    simp [scheduleRevisions, hbefore]
  have hended : scheduleRevisions.revision (final service.step tables events) row.id =
      some row.revision := by
    simp [scheduleRevisions, hafter, hrevision]
  have hcontent := (final_advances hkeys events).content_eq_of_revision hbegun hended
  simp only [scheduleRevisions, hbefore, hafter, Option.map_some, Prod.mk.injEq,
    Option.some.injEq] at hcontent
  exact hcontent

/-- A publication publishes the board that its author accepted, whatever was written since. -/
theorem accepted_board_published (service : SchedulingService) {tables : ScheduleTables}
    (hkeys : UniqueKeys tables) (events : List ScheduleEvent) {row : ScheduleRow}
    (hrow : row ∈ tables.schedules) {call : PublishCall} {around : PublishSurroundings}
    {response : PublicationResponse} {next : ScheduleTables}
    (hpublished : service.publish (final service.step tables events) call around =
      .ok (response, next)) (hnew : next ≠ final service.step tables events)
    (hid : call.scheduleId = row.id) (haccepted : call.acceptedContract.version = row.revision) :
    next.board row.id = tables.board row.id ∧ ∃ row' ∈ next.schedules, row'.id = row.id ∧
      row'.status = .published ∧ row'.revision = row.revision ∧ row'.frame = row.frame := by
  have hend : UniqueKeys (final service.step tables events) := uniqueKeys_final hkeys events
  obtain ⟨key, _, ⟨hsame, _⟩ | ⟨locked, h⟩⟩ := publish_eq_ok hend hpublished
  · exact absurd hsame hnew
  · have hlocked : locked.id = row.id := h.draft.1.trans hid
    have hrevision : locked.revision = row.revision := h.revision.trans haccepted
    obtain ⟨hboard, hframe⟩ :=
      same_revision_same_board service hkeys events hrow h.mem hlocked hrevision
    have hunchanged : next.board row.id = (final service.step tables events).board row.id := by
      simp only [ScheduleTables.board, h.shifts, h.windows]
    refine ⟨hunchanged.trans hboard, locked.published around.now, ?_, hlocked, rfl, hrevision,
      hframe⟩
    rw [h.schedules]
    exact new_mem_replaceRow h.mem rfl

/-! ## Published and archived schedules -/

/-- A reopening of the schedule commits, by a caller who named its revision. -/
structure Reopens (t : Transition ScheduleTables ScheduleEvent ScheduleAnswer) (row : ScheduleRow)
    (call : ScheduleCall) (around : Surroundings) (fate : Fate) : Prop where
  request : t.request = .mutate call around fate
  committed : fate ≠ .rolledBack
  command : call.command = .reopen
  published : row.status = .published
  revision : requireScheduleRevision call.ifMatch row.publicId = .ok row.revision
  before : row ∈ t.before.schedules
  after : row.reopened ∈ t.after.schedules

/-- A step leaves a schedule that is not a draft, or reopens it. -/
theorem ScheduleMove.frozen {t : Transition ScheduleTables ScheduleEvent ScheduleAnswer}
    (h : ScheduleMove service t.before t.request t.after) (hkeys : UniqueKeys t.before)
    (hrow : row ∈ t.before.schedules) (hstatus : row.status ≠ .draft) :
    (row ∈ t.after.schedules ∧ t.after.board row.id = t.before.board row.id) ∨
      ∃ call around fate, Reopens t row call around fate := by
  obtain ⟨before, request, answer, after⟩ := t
  simp only at h hkeys hrow ⊢
  cases h with
  | kept => exact .inl ⟨hrow, rfl⟩
  | @changed call around fate prepared found response _ hfate h =>
      by_cases hid : row.id = found.id
      · obtain rfl := eq_of_key hkeys.schedules hrow h.mem hid
        have hsource := h.status
        cases hcommand : call.command with
        | changeSet body =>
            rw [hcommand] at hsource
            exact absurd hsource hstatus
        | replaceDemand body =>
            rw [hcommand] at hsource
            exact absurd hsource hstatus
        | reopen =>
            rw [hcommand] at hsource
            refine .inr ⟨call, around, fate, rfl, hfate, hcommand, hsource, ?_, hrow, ?_⟩
            · rw [h.live.1, h.revision]
              exact (prepare_eq_ok h.request).1
            · show row.reopened ∈ after.schedules
              rw [h.schedules, hcommand]
              exact new_mem_replaceRow hrow rfl
      · refine .inl ⟨?_, h.others row.id hid⟩
        rw [h.schedules]
        refine mem_replaceRow_of_ne hrow ?_
        rw [call.command.revise_id]
        exact hid
  | created hfate h =>
      refine .inl ⟨?_, by simp only [ScheduleTables.board, h.shifts, h.windows]⟩
      rcases h.schedules with ⟨_, hsame⟩ | ⟨_, _, hadded⟩
      · rw [hsame]
        exact hrow
      · rw [hadded]
        exact List.mem_append_left _ hrow
  | @published call around fate key found response _ hfate h =>
      refine .inl ⟨?_, by simp only [ScheduleTables.board, h.shifts, h.windows]⟩
      rw [h.schedules]
      refine mem_replaceRow_of_ne hrow fun hid => ?_
      have hid : row.id = found.id := hid
      obtain rfl := eq_of_key hkeys.schedules hrow h.mem hid
      exact hstatus h.draft.2.1

/-- A schedule that is not a draft stays as it is, with its shifts and windows, until it is
reopened; an archived one stays. -/
theorem frozen_until_reopened (service : SchedulingService) {tables : ScheduleTables}
    (hkeys : UniqueKeys tables) (events : List ScheduleEvent) {row : ScheduleRow}
    (hrow : row ∈ tables.schedules) (hstatus : row.status ≠ .draft) :
    (row ∈ (final service.step tables events).schedules ∧
        (final service.step tables events).board row.id = tables.board row.id) ∨
      row.status = .published ∧ ∃ t ∈ trace service.step tables events,
        t.before.board row.id = tables.board row.id ∧
          ∃ call around fate, Reopens t row call around fate := by
  induction events generalizing tables with
  | nil => exact .inl ⟨hrow, rfl⟩
  | cons event rest ih =>
      have hmove : ScheduleMove service tables event (service.step tables event).2 :=
        step_move hkeys event
      rcases hmove.frozen (t := transition service.step tables event) hkeys hrow hstatus with
        ⟨hkept, hboard⟩ | ⟨call, around, fate, hreopens⟩
      · rcases ih (step_uniqueKeys hkeys event) hkept with ⟨hlast, hsame⟩ | ⟨hpublished, t, ht,
          hsame, hreopens⟩
        · exact .inl ⟨hlast, hsame.trans hboard⟩
        · exact .inr ⟨hpublished, t, List.mem_cons_of_mem _ ht, hsame.trans hboard, hreopens⟩
      · exact .inr ⟨hreopens.published, transition service.step tables event,
          List.mem_cons_self, rfl, call, around, fate, hreopens⟩

end Revisions

/-! ## A run

The week of 2026-07-06 is at revision 3.  While it is published it can be reopened, as a
draft it can be published, and archived it stays. -/

namespace Sample

def weekId : String := "00000000-0000-4000-8000-000000000001"

/-- The hashes of two texts; other texts take the places of these. -/
def digest : Equiv.Perm String :=
  Equiv.swap "reopen-1"
      "63d83a016149249c32cc75afd1a32feca99a9028068c6b4244406c62dd3e2dce" *
    Equiv.swap
      ("\x7b\"operation\":\"schedule.reopen\"," ++
        "\"schedulePublicId\":\"00000000-0000-4000-8000-000000000001\"\x7d")
      "506070ec1927d5304553979f706f6adb8299f5c4e0f6f8b3ab0497048f0cd6af"

def scheduling : SchedulingService where
  tenantId := "bistro"
  sha256 := digest
  localeCompare := Idempotency.Sample.localeCompare
  collation := locale
  toLowerCase := id
  operations := fun _ => request
  windows := fun _ => []
  matchesContract := fun command response =>
    match command, response with
    | .reopen, .reopened _ => true
    | _, _ => false
  matchesCreation := fun _ => true
  publicationIntact := fun response => response.status = .published
  publicationId := fun scheduleId key => scheduleId ++ ":" ++ key
  publicationHash := fun scheduleId contract => scheduleId ++ ":" ++ toString contract.version

def publishedWeek : ScheduleRow where
  id := "week"
  publicId := weekId
  locationId := "kitchen"
  startDate := hour 0
  endDate := hour 24
  status := .published
  publishedAt := some (hour (-24))
  revision := 3
  deleted := false

def publishedTables : ScheduleTables where
  schedules := [publishedWeek]
  shifts := saved
  windows := []
  changeSets := []
  creations := []
  publications := []

def around : Surroundings where
  authority := .ok ()
  entitlement := .ok ()
  users := users
  locations := [⟨"kitchen", "kitchen-public", false⟩]
  now := hour (-20)
  changeSetId := "change-1"
  rowIds := draw
  publicIds := draw

def reopening : ScheduleCall where
  schedulePublicId := weekId
  command := .reopen
  ifMatch := some (scheduleEtag weekId 3)
  idempotencyKey := some "reopen-1"
  actorUserId := "boss"

/-- A change set of the same week. -/
def changing : ScheduleCall where
  schedulePublicId := weekId
  command := .changeSet ⟨Idempotency.Sample.body, Idempotency.Sample.proper_body⟩
  ifMatch := some (scheduleEtag weekId 3)
  idempotencyKey := some "change-1"
  actorUserId := "boss"

/-- The reopening and a second look under its key. -/
def reopened : List ScheduleEvent :=
  [.mutate reopening around .acknowledged, .look reopening around]

def reopenedView : ScheduleView :=
  { publishedWeek.reopened with revision := 4 }.view "kitchen-public"

def again : PublishCall where
  scheduleId := "week"
  acceptedContract := ⟨3, ⟨5, 5, 0, 0, 0⟩⟩
  idempotencyKey := "publish-1"

def ready : PublishSurroundings where
  entitlement := .ok ()
  locations := [⟨"kitchen", "kitchen-public", false⟩]
  readiness := .ok ()
  costs := .ok ⟨5, 5, 0, 0, 0⟩
  payment := .ok 20
  now := hour (-18)

/-- The same week with another status. -/
def tablesAt (status : ScheduleStatus) : ScheduleTables :=
  { publishedTables with schedules := [{ publishedWeek with status := status }] }

theorem keysAt (status : ScheduleStatus) : UniqueKeys (tablesAt status) := by
  have hshifts : (saved.map (·.id)).Nodup := by decide +kernel
  constructor
  · exact List.nodup_singleton _
  · exact List.nodup_singleton _
  · exact hshifts
  · exact List.nodup_nil
  · exact List.nodup_nil
  · exact List.nodup_nil

theorem reopening_answered :
    (scheduling.step (tablesAt .published) (.mutate reopening around .acknowledged)).1 =
      .mutation (.reopened reopenedView) := by decide +kernel

theorem reopening_answers : AnswersCall
    (transition scheduling.step (tablesAt .published) (.mutate reopening around .acknowledged)) reopening
      (.reopened reopenedView) :=
  ⟨.inr ⟨around, .acknowledged, rfl⟩, reopening_answered⟩

end Sample

theorem reopened_week_written_once :
    (trace Sample.scheduling.step (Sample.tablesAt .published) Sample.reopened).Pairwise fun t t' =>
      ¬ (AddsReceipt ScheduleTables.receipts (Sample.digest "reopen-1") t ∧
        AddsReceipt ScheduleTables.receipts (Sample.digest "reopen-1") t') :=
  ((every_write_once Sample.scheduling (Sample.keysAt .published) Sample.reopened).2
    (Sample.digest "reopen-1")).imp fun h => h.1

theorem reopened_week_agrees : ∃ prepared,
    Sample.scheduling.prepare Sample.reopening = .ok prepared ∧
      Sample.scheduling.replay
          (final Sample.scheduling.step (Sample.tablesAt .published) Sample.reopened)
          Sample.reopening prepared = .ok (some (.reopened Sample.reopenedView)) := by
  obtain ⟨prepared, hprepared, hretry, _⟩ := answers_agree Sample.scheduling (Sample.keysAt .published)
    Sample.reopened List.mem_cons_self Sample.reopening_answers
  refine ⟨prepared, hprepared, ?_⟩
  rw [hretry Sample.reopening prepared hprepared rfl, if_neg fun h => h rfl]
  rfl

theorem week_published_as_accepted : ∃ response next,
    Sample.scheduling.publish (Sample.tablesAt .draft) Sample.again Sample.ready =
        .ok (response, next) ∧
      (next.board "week").shifts = ((Sample.tablesAt .draft).board "week").shifts := by
  obtain ⟨outcome, houtcome⟩ : ∃ outcome,
      outcome = Sample.scheduling.publish (Sample.tablesAt .draft) Sample.again Sample.ready :=
    ⟨_, rfl⟩
  have hadded : outcome.toOption.map (fun made => made.2.publications.length) = some 1 := by
    rw [houtcome]
    decide +kernel
  cases outcome with
  | error problem => cases hadded
  | ok made =>
      obtain ⟨response, next⟩ := made
      have hlength : next.publications.length = 1 := Option.some.inj hadded
      have hnew : next ≠ Sample.tablesAt .draft := by
        rintro rfl
        cases hlength
      have hboard := (accepted_board_published Sample.scheduling (Sample.keysAt .draft) []
        List.mem_cons_self houtcome.symm hnew rfl rfl).1
      exact ⟨response, next, houtcome.symm, congrArg BoardRows.shifts hboard⟩

theorem archived_week_stays : { Sample.publishedWeek with status := .archived } ∈
    (final Sample.scheduling.step (Sample.tablesAt .archived) Sample.reopened).schedules := by
  rcases frozen_until_reopened Sample.scheduling (Sample.keysAt .archived) Sample.reopened
    List.mem_cons_self (by decide) with ⟨hkept, _⟩ | ⟨hpublished, _⟩
  · exact hkept
  · cases hpublished

end LunchLineup.Scheduling
