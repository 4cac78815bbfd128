import LunchLineup.Payroll.ClockIn
import LunchLineup.Payroll.BreakEvidence

/-!
# Clock-ins happen once

Two things carry the argument.  On the side of the cards, every command but the
clock-in replaces cards one by one, keeps what a clock-in wrote about itself, and
passes the unique indexes (`CardSteps`); so no operation and no worker gets a
second card (`SingleCards`).  On the side of the wallet, the reason of a debit
names its card, and a card id that is new has no debit yet; so the debit of a new
card appends a row (`Created.charge`), and every such row belongs to a card
(`Clocked`).

`clock_in_exactly_once` puts them together for every run.
-/

namespace LunchLineup.Payroll

open LunchLineup.Lib LunchLineup.Billing

/-! ## What the other commands do to the cards -/

/-- What a clock-in wrote on a card is still there. -/
structure TimeCard.Keeps (old new : TimeCard) : Prop where
  id : new.id = old.id
  userId : new.userId = old.userId
  locationId : new.locationId = old.locationId
  shiftId : new.shiftId = old.shiftId
  clockInOperationId : new.clockInOperationId = old.clockInOperationId
  clockInRequestHash : new.clockInRequestHash = old.clockInRequestHash

theorem TimeCard.Keeps.refl (card : TimeCard) : card.Keeps card :=
  ⟨rfl, rfl, rfl, rfl, rfl, rfl⟩

theorem TimeCard.Keeps.trans {first second third : TimeCard} (h : first.Keeps second)
    (h' : second.Keeps third) : first.Keeps third :=
  ⟨h'.id.trans h.id, h'.userId.trans h.userId, h'.locationId.trans h.locationId,
    h'.shiftId.trans h.shiftId, h'.clockInOperationId.trans h.clockInOperationId,
    h'.clockInRequestHash.trans h.clockInRequestHash⟩

/-- One accepted update of a card. -/
inductive CardStep (cards : List TimeCard) : List TimeCard → Prop
  | update {old new : TimeCard} (hmem : old ∈ cards) (hkeeps : old.Keeps new)
      (halone : ∀ other ∈ cards, other.id ≠ new.id →
        ¬ (new.Running ∧ other.Running ∧ other.userId = new.userId)) :
      CardStep cards (replaceRow (·.id) cards new)

/-- A chain of accepted updates. -/
abbrev CardSteps : List TimeCard → List TimeCard → Prop := Relation.ReflTransGen CardStep

/-- No operation and no worker has two cards. -/
structure SingleCards (cards : List TimeCard) : Prop where
  ids : (cards.map (·.id)).Nodup
  operations : ∀ first ∈ cards, ∀ second ∈ cards, first.clockInOperationId.isSome = true →
    first.clockInOperationId = second.clockInOperationId → first.id = second.id
  running : ∀ first ∈ cards, ∀ second ∈ cards, first.Running → second.Running →
    first.userId = second.userId → first.id = second.id

section Cards

variable {cards cards' : List TimeCard}

theorem CardStep.ids_eq (h : CardStep cards cards') :
    cards'.map (·.id) = cards.map (·.id) := by
  obtain ⟨_, _, _⟩ := h
  exact keys_replaceRow

/-- Every card after the update was there before. -/
theorem CardStep.back (h : CardStep cards cards') {card : TimeCard} (hcard : card ∈ cards') :
    ∃ old ∈ cards, old.Keeps card := by
  cases h with
  | @update old new hmem hkeeps _ =>
      rcases mem_replaceRow hcard with rfl | ⟨hold, _⟩
      · exact ⟨old, hmem, hkeeps⟩
      · exact ⟨card, hold, .refl card⟩

/-- Every card before the update is there afterwards. -/
theorem CardStep.forward (h : CardStep cards cards') (hids : (cards.map (·.id)).Nodup)
    {card : TimeCard} (hcard : card ∈ cards) : ∃ new ∈ cards', card.Keeps new := by
  cases h with
  | @update old new hmem hkeeps _ =>
      by_cases hid : card.id = new.id
      · obtain rfl := eq_of_key hids hcard hmem (hid.trans hkeeps.id)
        exact ⟨new, new_mem_replaceRow hmem hkeeps.id.symm, hkeeps⟩
      · exact ⟨card, mem_replaceRow_of_ne hcard hid, .refl card⟩

theorem SingleCards.step (hsingle : SingleCards cards) (h : CardStep cards cards') :
    SingleCards cards' := by
  refine ⟨h.ids_eq ▸ hsingle.ids, ?_, ?_⟩
  · intro first hfirst second hsecond hsome heq
    obtain ⟨one, hone, hkeeps⟩ := h.back hfirst
    obtain ⟨two, htwo, hkeeps'⟩ := h.back hsecond
    rw [hkeeps.clockInOperationId] at hsome heq
    rw [hkeeps'.clockInOperationId] at heq
    rw [hkeeps.id, hkeeps'.id]
    exact hsingle.operations one hone two htwo hsome heq
  · cases h with
    | @update old new _ _ halone =>
        intro first hfirst second hsecond hrunning hrunning' huser
        rcases mem_replaceRow hfirst with heq | ⟨hfirst_old, hne⟩
        · rcases mem_replaceRow hsecond with heq' | ⟨hsecond_old, hne⟩
          · rw [heq, heq']
          · rw [heq] at hrunning huser
            exact absurd ⟨hrunning, hrunning', huser.symm⟩ (halone second hsecond_old hne)
        · rcases mem_replaceRow hsecond with heq | ⟨hsecond_old, _⟩
          · rw [heq] at hrunning' huser
            exact absurd ⟨hrunning', hrunning, huser⟩ (halone first hfirst_old hne)
          · exact hsingle.running first hfirst_old second hsecond_old hrunning hrunning' huser

theorem SingleCards.steps (hsingle : SingleCards cards) (h : CardSteps cards cards') :
    SingleCards cards' := by
  induction h with
  | refl => exact hsingle
  | tail _ hlast ih => exact ih.step hlast

theorem CardSteps.back (h : CardSteps cards cards') {card : TimeCard} (hcard : card ∈ cards') :
    ∃ old ∈ cards, old.Keeps card := by
  induction h generalizing card with
  | refl => exact ⟨card, hcard, .refl card⟩
  | tail _ hlast ih =>
      obtain ⟨middle, hmiddle, hkeeps⟩ := hlast.back hcard
      obtain ⟨old, hold, hkeeps'⟩ := ih hmiddle
      exact ⟨old, hold, hkeeps'.trans hkeeps⟩

theorem CardSteps.forward (hsingle : SingleCards cards) (h : CardSteps cards cards')
    {card : TimeCard} (hcard : card ∈ cards) : ∃ new ∈ cards', card.Keeps new := by
  induction h with
  | refl => exact ⟨card, hcard, .refl card⟩
  | tail hfirst hlast ih =>
      obtain ⟨middle, hmiddle, hkeeps⟩ := ih
      obtain ⟨new, hnew, hkeeps'⟩ := hlast.forward (hsingle.steps hfirst).ids hmiddle
      exact ⟨new, hnew, hkeeps.trans hkeeps'⟩

/-- A card of a new operation and of a worker without a running card. -/
theorem SingleCards.inserted (hsingle : SingleCards cards) {card : TimeCard}
    (hfresh : ∀ other ∈ cards, other.id ≠ card.id)
    (hunused : ∀ other ∈ cards, other.clockInOperationId ≠ card.clockInOperationId)
    (halone : ∀ other ∈ cards, ¬ (other.userId = card.userId ∧ other.Running)) :
    SingleCards (cards ++ [card]) := by
  refine ⟨nodup_keys_append hsingle.ids hfresh, ?_, ?_⟩
  · intro first hfirst second hsecond hsome heq
    rcases List.mem_append.mp hfirst with hfirst | hfirst
    · rcases List.mem_append.mp hsecond with hsecond | hsecond
      · exact hsingle.operations first hfirst second hsecond hsome heq
      · rw [List.mem_singleton.mp hsecond] at heq
        exact absurd heq (hunused first hfirst)
    · rw [List.mem_singleton.mp hfirst] at heq ⊢
      rcases List.mem_append.mp hsecond with hsecond | hsecond
      · exact absurd heq.symm (hunused second hsecond)
      · rw [List.mem_singleton.mp hsecond]
  · intro first hfirst second hsecond hrunning hrunning' huser
    rcases List.mem_append.mp hfirst with hfirst | hfirst
    · rcases List.mem_append.mp hsecond with hsecond | hsecond
      · exact hsingle.running first hfirst second hsecond hrunning hrunning' huser
      · rw [List.mem_singleton.mp hsecond] at huser
        exact absurd ⟨huser, hrunning⟩ (halone first hfirst)
    · rw [List.mem_singleton.mp hfirst] at huser ⊢
      rcases List.mem_append.mp hsecond with hsecond | hsecond
      · exact absurd ⟨huser.symm, hrunning'⟩ (halone second hsecond)
      · rw [List.mem_singleton.mp hsecond]

end Cards

/-! ## Commands -/

section Commands

variable {zones : Zones} {hashes : Hashes} {db db' : Database} {now : Int}

/-- The cards moved on by updates, and the locations are as they were. -/
structure Database.MovesCards (db db' : Database) : Prop where
  steps : CardSteps db.cards db'.cards
  locations : db'.locations = db.locations

theorem Database.MovesCards.trans {last : Database} (hfirst : db.MovesCards db')
    (hsecond : db'.MovesCards last) : db.MovesCards last :=
  ⟨Relation.ReflTransGen.trans hfirst.steps hsecond.steps,
    hsecond.locations.trans hfirst.locations⟩

theorem Database.SameCards.moves (h : db.SameCards db') : db.MovesCards db' := by
  refine ⟨?_, h.locations⟩
  rw [h.cards]

theorem moves_of_updateTimeCard {old new : TimeCard} (hmem : old ∈ db.cards)
    (hkeeps : old.Keeps new) (h : db.updateTimeCard now old new = .ok db') : db.MovesCards db' := by
  simp only [Database.updateTimeCard, bind_eq_ok, ensure_eq_ok] at h
  obtain ⟨_, _, _, _, _, _, _, _, _, _, _, _, _, _, _, hindexes, h⟩ := h
  obtain rfl := Except.ok.inj h
  refine ⟨.single (.update hmem hkeeps ?_), rfl⟩
  exact fun other hother hne => (hindexes other hother hne).1

theorem moves_of_clockOut {request : ClockOutRequest} {card : TimeCard}
    (h : db.clockOut now request = .ok (card, db')) : db.MovesCards db' := by
  simp only [Database.clockOut, bind_eq_ok, ensure_eq_ok] at h
  obtain ⟨_, _, old, hold, _, _, _, _, _, _, _, _, minutes, _, _, _, middle, hupdate, h⟩ := h
  obtain ⟨rfl, rfl⟩ := Prod.mk.inj (Except.ok.inj h)
  refine moves_of_updateTimeCard (findScopedTimeCard_ok hold).1 ?_ hupdate
  exact ⟨rfl, rfl, rfl, rfl, rfl, rfl⟩

theorem moves_of_replaceBreaks {cardId : String} {intervals : Option (List BreakInterval)}
    (h : db.replaceBreaks now cardId intervals = .ok db') : db.MovesCards db' := by
  cases intervals with
  | none =>
      obtain rfl := Except.ok.inj h
      exact ⟨.refl, rfl⟩
  | some intervals =>
      obtain ⟨middle, hdelete, hinsert⟩ := bind_eq_ok.mp h
      obtain ⟨_, rfl⟩ := Database.deleteBreaks_ok hdelete
      rw [insertBreaks_ok hinsert]
      exact ⟨.refl, rfl⟩

theorem moves_of_correct {request : CorrectionRequest} {card : TimeCard}
    (h : zones.correct db now request = .ok (card, db')) : db.MovesCards db' := by
  simp only [Zones.correct, bind_eq_ok, ensure_eq_ok] at h
  obtain ⟨_, _, _, _, old, hold, _, _, correction, _, assignment, _, _, _, _, _, _, _, _, _,
    middle, hupdate, last, hbreaks, h⟩ := h
  have hlast : db' = last := by
    split at h
    · exact (Prod.mk.inj (Except.ok.inj h)).2.symm
    · obtain ⟨_, _, h⟩ := bind_eq_ok.mp h
      exact (Prod.mk.inj (Except.ok.inj h)).2.symm
  rw [hlast]
  refine (moves_of_updateTimeCard (findScopedTimeCard_ok hold).1 ?_ hupdate).trans
    (moves_of_replaceBreaks hbreaks)
  exact ⟨rfl, rfl, rfl, rfl, rfl, rfl⟩

theorem moves_of_adoptRows {periodId : String} {rows : List TimeCard}
    (h : Database.adoptRows now periodId db rows = .ok db') : db.MovesCards db' := by
  induction rows generalizing db with
  | nil =>
      obtain rfl := Except.ok.inj h
      exact ⟨.refl, rfl⟩
  | cons card rest ih =>
      simp only [Database.adoptRows] at h
      split at h
      · cases h
      · rename_i current hcurrent
        obtain ⟨middle, hupdate, hrest⟩ := bind_eq_ok.mp h
        refine (moves_of_updateTimeCard (List.mem_of_find?_eq_some hcurrent) ?_ hupdate).trans
          (ih hrest)
        exact ⟨rfl, rfl, rfl, rfl, rfl, rfl⟩

theorem moves_of_adoptCards {request : RequestIdentity} {periodId : String}
    {cards : List AdoptedCard} (h : db.adoptCards now request periodId cards = .ok db') :
    db.MovesCards db' := by
  simp only [Database.adoptCards, bind_eq_ok, ensure_eq_ok] at h
  obtain ⟨_, _, h⟩ := h
  split at h
  · rename_i answer hanswer
    rw [eq_of_replay hanswer h]
    exact ⟨.refl, rfl⟩
  · simp only [bind_eq_ok, ensure_eq_ok] at h
    obtain ⟨period, _, _, _, _, _, _, _, _, _, middle, hadopt, hoperation⟩ := h
    exact (moves_of_adoptRows hadopt).trans (sameCards_of_insertOperation hoperation).moves

theorem moves_of_lockPeriod {request : RequestIdentity} {newId : Nat → String}
    {actorUserId periodId : String} {expectedRevision : Int}
    (h : zones.lockPeriod hashes db now request newId actorUserId periodId expectedRevision
      = .ok db') : db.MovesCards db' := by
  rcases locking_of_lockPeriod h with rfl | ⟨locking, _⟩
  · exact ⟨.refl, rfl⟩
  · rw [locking.db_eq]
    exact ⟨.refl, rfl⟩

/-- Every accepted command but the clock-in only moves cards on. -/
theorem moves_of_apply {event : Event} (helsewhere : event.command.elsewhere = true)
    (h : apply zones hashes db event = .ok db') : db.MovesCards db' := by
  simp only [apply, bind_eq_ok, ensure_eq_ok] at h
  obtain ⟨_, _, h⟩ := h
  cases hcommand : event.command with
  | locations rows =>
      rw [hcommand] at helsewhere
      cases helsewhere
  | clockIn request =>
      rw [hcommand] at helsewhere
      cases helsewhere
  | createPolicy request id policy =>
      rw [hcommand] at h
      exact (sameCards_of_createPolicy h).moves
  | createPeriod request id localStartDate =>
      rw [hcommand] at h
      exact (sameCards_of_createPeriod h).moves
  | clockOut request =>
      rw [hcommand] at h
      obtain ⟨⟨card, last⟩, hout, rfl⟩ := map_eq_ok.mp h
      exact moves_of_clockOut hout
  | correct request =>
      rw [hcommand] at h
      obtain ⟨⟨card, last⟩, hout, rfl⟩ := map_eq_ok.mp h
      exact moves_of_correct hout
  | startReview request actorUserId periodId expectedRevision =>
      rw [hcommand] at h
      exact (sameCards_of_startReview h).moves
  | adoptCards request periodId cards =>
      rw [hcommand] at h
      exact moves_of_adoptCards h
  | decideCards request childOperationId actorUserId periodId decisions =>
      rw [hcommand] at h
      exact (sameCards_of_decideCards h).moves
  | lockPeriod request newId actorUserId periodId expectedRevision =>
      rw [hcommand] at h
      exact moves_of_lockPeriod h
  | createAmendment request actorUserId body =>
      rw [hcommand] at h
      exact (sameCards_of_createAmendment h).moves
  | decideAmendment request actorUserId amendmentId decision =>
      rw [hcommand] at h
      exact (sameCards_of_decideAmendment h).moves

theorem moves_of_step {event : Event} (helsewhere : event.command.elsewhere = true) :
    db.MovesCards (step zones hashes db event).2 := by
  unfold step
  cases happly : apply zones hashes db event with
  | error problem => exact ⟨.refl, rfl⟩
  | ok next => exact moves_of_apply helsewhere happly

end Commands

/-! ## The debit -/

theorem clockInReason_injective {first second : String}
    (h : clockInReason first = clockInReason second) : first = second :=
  (String.append_right_inj _).mp ((String.append_left_inj _).mp h)

/-- The ledger id of a clock-in. -/
def clockInTransactionId (operation : String) : String := "feature-usage-" ++ operation

/-- The row charges the card of an operation with one credit. -/
structure ChargesClockIn (row : CreditTransaction) (tenantId operation cardId : String) : Prop where
  id : row.id = clockInTransactionId operation
  tenantId : row.tenantId = tenantId
  amount : row.amount = -1
  debtAmount : row.debtAmount = 0
  reason : row.reason = clockInReason cardId

theorem charges_of_debit {service : ClockService} {call : ClockInCall} {operation : String}
    {store after : Store} {settlement : CreditDebitSettlement}
    (h : debitFeatureCredit store false (service.debitArgs call operation) =
      .ok (settlement, after)) :
    ∃ row, ChargesClockIn row service.tenantId operation call.cardId ∧
      (row ∈ store.ledger ∨ ∃ wallet, Applies store (.debit settlement) after row wallet) := by
  obtain ⟨row, hid, htenant, hreason, hcost, hdebt, hcases⟩ := debitFeatureCredit_cases h
  have hamount : row.amount = -1 := by
    have hone : (1 : Int) = -row.amount := JsNumber.integer.inj hcost
    omega
  exact ⟨row, ⟨hid, htenant, hamount, hdebt, hreason⟩, hcases.imp_left fun h => h.recorded⟩

/-! ## The creating transaction -/

/-- What a call asks for, once its notes are normalised. -/
def ClockInCall.content (call : ClockInCall) (notes : Option String) : ClockInContent where
  actorUserId := call.actorUserId
  targetUserId := call.userId.getD call.actorUserId
  locationId := given call.locationId
  shiftId := given call.shiftId
  clockInAt := call.clockInAt
  notes := notes

theorem resolveForReplay_ok {ws : Workspace} {call : ClockInCall} {notes : Option String}
    {content : ClockInContent} :
    ws.resolveForReplay call notes = .ok content ↔
      (ws.user? (call.userId.getD call.actorUserId)).isSome = true ∧
      call.userId.getD call.actorUserId = (given call.userId).getD call.actorUserId ∧
      (∀ id ∈ given call.locationId, (ws.location? id).isSome = true) ∧
      (∀ id ∈ given call.shiftId, (ws.shift? id).isSome = true) ∧
      call.content notes = content := by
  simp only [Workspace.resolveForReplay, bind_eq_ok, ensure_eq_ok, Except.ok.injEq,
    ClockInCall.content]
  constructor
  · rintro ⟨_, huser, _, htarget, _, hlocation, _, hshift, heq⟩
    exact ⟨huser, htarget, hlocation, hshift, heq⟩
  · rintro ⟨huser, htarget, hlocation, hshift, heq⟩
    exact ⟨(), huser, (), htarget, (), hlocation, (), hshift, heq⟩

/-- The card carries out the call: it names the rows the call named, and carries its
key and the digest of its content. -/
structure CarriesOut (service : ClockService) (call : ClockInCall) (card : TimeCard) : Prop where
  key : ∃ key, normalizeClockInIdempotencyKey call.idempotencyKey = .ok key ∧
    card.clockInOperationId = some (service.hashes.operationId key)
  hash : ∃ notes, normalizeTimeCardNotes call.notes = .ok notes ∧
    card.clockInRequestHash = some (service.hashes.requestHash (call.content notes))
  target : call.userId.getD call.actorUserId = (given call.userId).getD call.actorUserId
  userId : card.userId = call.userId.getD call.actorUserId
  locationId : ∀ id ∈ given call.locationId, card.locationId = some id
  shiftId : card.shiftId = given call.shiftId

theorem CarriesOut.keeps {service : ClockService} {call : ClockInCall} {old new : TimeCard}
    (h : CarriesOut service call old) (hkeeps : old.Keeps new) : CarriesOut service call new := by
  refine ⟨?_, ?_, h.target, hkeeps.userId.trans h.userId, ?_, hkeeps.shiftId.trans h.shiftId⟩
  · rw [hkeeps.clockInOperationId]
    exact h.key
  · rw [hkeeps.clockInRequestHash]
    exact h.hash
  · rw [hkeeps.locationId]
    exact h.locationId

/-- What the first transaction of a call writes where it creates `card`. -/
structure Creates (service : ClockService) (ws : Workspace) (call : ClockInCall)
    (next : Workspace) (card : TimeCard) : Prop where
  next_eq : next = { ws with
    payroll := { ws.payroll with cards := ws.payroll.cards ++ [card] }, billing := next.billing }
  id : card.id = call.cardId
  carriesOut : CarriesOut service call card
  running : card.Running
  fresh : ∀ other ∈ ws.payroll.cards, other.id ≠ card.id
  unused : ∀ other ∈ ws.payroll.cards, other.clockInOperationId ≠ card.clockInOperationId
  alone : ∀ other ∈ ws.payroll.cards, ¬ (other.userId = card.userId ∧ other.Running)
  referenced : Referenced ws.users ws.shifts ws.payroll.locations card
  debit : ∀ operation, card.clockInOperationId = some operation → ∃ settlement,
    debitFeatureCredit ws.billing false (service.debitArgs call operation) =
      .ok (settlement, next.billing)

section Creating

variable {service : ClockService} {ws next : Workspace} {call : ClockInCall}

theorem exists_of_find?_isSome {α : Type*} {p : α → Bool} {l : List α}
    (h : (l.find? p).isSome = true) : ∃ a ∈ l, p a = true := by
  simpa [List.find?_isSome] using h

theorem resolveClockInLocation_ok {content : ClockInContent} {location : Option Location}
    (h : ws.resolveClockInLocation content = .ok location) :
    (∀ found ∈ location, found ∈ ws.payroll.locations) ∧
      ∀ id ∈ content.locationId, location.map (·.id) = some id := by
  have hresolve : ∀ {id found}, ws.resolveLocation id = .ok found →
      found ∈ ws.payroll.locations ∧ found.id = id := by
    intro id found hfound
    unfold Workspace.resolveLocation at hfound
    split at hfound
    · cases hfound
    · rename_i row hrow
      simp only [bind_eq_ok, ensure_eq_ok] at hfound
      obtain ⟨_, _, hfound⟩ := hfound
      obtain rfl := Except.ok.inj hfound
      exact ⟨List.mem_of_find?_eq_some hrow, by simpa using List.find?_some hrow⟩
  unfold Workspace.resolveClockInLocation at h
  split at h
  · rename_i id hlocation _
    obtain ⟨found, hfound, rfl⟩ := map_eq_ok.mp h
    obtain ⟨hmem, hid⟩ := hresolve hfound
    simp [hlocation, hmem, hid]
  · rename_i hlocation _
    obtain rfl := Except.ok.inj h
    simp [hlocation]
  · rename_i shiftId hlocation _
    obtain ⟨shift, _, h⟩ := bind_eq_ok.mp h
    obtain ⟨found, hfound, rfl⟩ := map_eq_ok.mp h
    simp [hlocation, (hresolve hfound).1]
  · rename_i id shiftId hlocation _
    simp only [bind_eq_ok, ensure_eq_ok] at h
    obtain ⟨shift, _, found, hfound, _, _, h⟩ := h
    obtain rfl := Except.ok.inj h
    obtain ⟨hmem, hid⟩ := hresolve hfound
    simp [hlocation, hmem, hid]

/-- An accepted first transaction replays a card of the key or creates one. -/
theorem clockIn_cases {answer : ClockInAnswer} (h : service.clockIn ws call = .ok (answer, next)) :
    (next = ws ∧ answer.reused = true ∧ ∃ card ∈ ws.payroll.cards, answer.cardId = card.id) ∨
      (answer = ⟨call.cardId, false⟩ ∧ ∃ card, Creates service ws call next card) := by
  simp only [ClockService.clockIn, bind_eq_ok, ensure_eq_ok] at h
  obtain ⟨key, hkey, notes, hnotes, _, _, _, _, content, hcontent, h⟩ := h
  obtain ⟨huser, htarget, _, hshift, rfl⟩ := resolveForReplay_ok.mp hcontent
  split at h
  · rename_i card hcard
    simp only [bind_eq_ok, ensure_eq_ok, Except.ok.injEq, Prod.mk.injEq] at h
    obtain ⟨_, _, rfl, rfl⟩ := h
    exact .inl ⟨rfl, rfl, card, List.mem_of_find?_eq_some hcard, rfl⟩
  · rename_i hnone
    simp only [bind_eq_ok] at h
    obtain ⟨_, _, location, hlocation, _, _, payroll, hpayroll, ⟨settlement, billing⟩, hdebit, h⟩ := h
    obtain ⟨rfl, rfl⟩ := Prod.mk.inj (Except.ok.inj h)
    obtain ⟨hfound, hbody⟩ := resolveClockInLocation_ok hlocation
    -- The payroll part does not replay: no card has the operation.
    simp only [Zones.clockIn, bind_eq_ok, ensure_eq_ok] at hpayroll
    obtain ⟨_, _, hpayroll⟩ := hpayroll
    split at hpayroll
    · rename_i card hcard
      cases hcard.symm.trans hnone
    simp only [bind_eq_ok, ensure_eq_ok] at hpayroll
    obtain ⟨_, _, _, halone, assignment, _, hinsert⟩ := hpayroll
    obtain ⟨_, _, hfresh, rfl⟩ := Database.insertTimeCard_ok hinsert
    refine .inr ⟨rfl, _, ⟨rfl, rfl, ⟨⟨key, hkey, rfl⟩, ⟨notes, hnotes, rfl⟩, htarget, rfl, ?_, rfl⟩,
      ⟨rfl, rfl⟩, hfresh, ?_, halone, ?_, ?_⟩⟩
    · exact hbody
    · intro other hother heq
      exact List.find?_eq_none.mp hnone other hother (decide_eq_true heq)
    · refine ⟨?_, ?_, ?_⟩
      · obtain ⟨user, hmem, hid⟩ := exists_of_find?_isSome huser
        exact ⟨user, hmem, of_decide_eq_true hid⟩
      · intro id hid
        obtain ⟨shift, hmem, hshift_id⟩ := exists_of_find?_isSome (hshift id hid)
        exact ⟨shift, hmem, of_decide_eq_true hshift_id⟩
      · intro id hid
        obtain ⟨found, hlocation, hid⟩ := Option.map_eq_some_iff.mp hid
        exact ⟨found, hfound found hlocation, hid⟩
    · intro operation hoperation
      obtain rfl := Option.some.inj hoperation
      exact ⟨settlement, mapError_eq_ok.mp hdebit⟩

end Creating

/-! ## The invariant -/

/-- What holds between the transactions. -/
structure Clocked (tenantId : String) (ws : Workspace) : Prop where
  cards : SingleCards ws.payroll.cards
  rows : (ws.billing.ledger.map (·.id)).Nodup
  referenced : ∀ card ∈ ws.payroll.cards,
    Referenced ws.users ws.shifts ws.payroll.locations card
  charged : ∀ card ∈ ws.payroll.cards, ∀ operation ∈ card.clockInOperationId,
    ∃ row ∈ ws.billing.ledger, ChargesClockIn row tenantId operation card.id
  accounted : ∀ row ∈ ws.billing.ledger, row.amount < 0 → ∀ cardId,
    row.reason = clockInReason cardId → ∃ card ∈ ws.payroll.cards, card.id = cardId ∧
      ∃ operation ∈ card.clockInOperationId, ChargesClockIn row tenantId operation cardId

/-- A workspace before its first clock-in. -/
structure OpeningWorkspace extends Workspace where
  noCards : payroll.cards = []
  rows : (billing.ledger.map (·.id)).Nodup
  noDebits : ∀ row ∈ billing.ledger, row.amount < 0 → ∀ cardId, row.reason ≠ clockInReason cardId

theorem OpeningWorkspace.clocked (start : OpeningWorkspace) (tenantId : String) :
    Clocked tenantId start.toWorkspace where
  cards := by
    rw [start.noCards]
    constructor <;> simp
  rows := start.rows
  referenced := by simp [start.noCards]
  charged := by simp [start.noCards]
  accounted row hrow hdebit cardId hreason := absurd hreason (start.noDebits row hrow hdebit cardId)

/-- A creating transaction of a call charges its card with one credit of the wallet. -/
structure Charged (service : ClockService) (ws : Workspace) (next : Workspace) (card : TimeCard)
    (row : CreditTransaction) (wallet : Wallet) : Prop where
  operation : ∃ operation ∈ card.clockInOperationId, ChargesClockIn row service.tenantId operation card.id
  ledger : next.billing.ledger = ws.billing.ledger ++ [row]
  before : ws.billing.wallet? service.tenantId = some wallet
  after : next.billing.wallet? service.tenantId = some ⟨wallet.usageCredits - 1, wallet.creditDebt⟩

section Invariant

variable {service : ClockService} {ws next : Workspace} {call : ClockInCall} {card : TimeCard}

/-- No row names a card that is not there, so the debit of a new card is a new row. -/
theorem Clocked.charge (hclocked : Clocked service.tenantId ws)
    (h : Creates service ws call next card) :
    ∃ row wallet, Charged service ws next card row wallet ∧
      ∀ other ∈ ws.billing.ledger, other.id ≠ row.id := by
  obtain ⟨key, _, hoperation⟩ := h.carriesOut.key
  obtain ⟨settlement, hdebit⟩ := h.debit _ hoperation
  obtain ⟨row, hcharges, hold | ⟨wallet, happlies⟩⟩ := charges_of_debit hdebit
  · obtain ⟨other, hother, hid, _⟩ := hclocked.accounted row hold
      (by rw [hcharges.amount]; decide) call.cardId hcharges.reason
    exact absurd (hid.trans h.id.symm) (h.fresh other hother)
  · refine ⟨row, wallet, ⟨⟨_, hoperation, h.id ▸ hcharges⟩, happlies.ledger, ?_, ?_⟩,
      happlies.fresh⟩
    · rw [← hcharges.tenantId]
      exact happlies.found
    · rw [Store.wallet?, happlies.tenants, ← hcharges.tenantId, Dict.get?_set_self, Wallet.add,
        hcharges.amount, hcharges.debtAmount, add_zero, sub_eq_add_neg]

theorem Clocked.created (hclocked : Clocked service.tenantId ws)
    (h : Creates service ws call next card) : Clocked service.tenantId next := by
  obtain ⟨row, wallet, hcharged, hfresh⟩ := hclocked.charge h
  have hcards : next.payroll.cards = ws.payroll.cards ++ [card] := by rw [h.next_eq]
  have hdirectory : next.users = ws.users ∧ next.shifts = ws.shifts ∧
      next.payroll.locations = ws.payroll.locations := by
    rw [h.next_eq]
    exact ⟨rfl, rfl, rfl⟩
  obtain ⟨operation, hoperation, hcharges⟩ := hcharged.operation
  refine ⟨?_, ?_, ?_, ?_, ?_⟩
  · rw [hcards]
    exact hclocked.cards.inserted h.fresh h.unused h.alone
  · rw [hcharged.ledger]
    exact nodup_keys_append hclocked.rows hfresh
  · rw [hcards, hdirectory.1, hdirectory.2.1, hdirectory.2.2]
    intro other hother
    rcases List.mem_append.mp hother with hother | hother
    · exact hclocked.referenced other hother
    · rw [List.mem_singleton.mp hother]
      exact h.referenced
  · rw [hcards, hcharged.ledger]
    intro other hother other_operation hother_operation
    rcases List.mem_append.mp hother with hother | hother
    · obtain ⟨old, hold, hcharges⟩ := hclocked.charged other hother _ hother_operation
      exact ⟨old, List.mem_append_left _ hold, hcharges⟩
    · rw [List.mem_singleton.mp hother] at hother_operation ⊢
      obtain rfl := Option.mem_unique hother_operation hoperation
      exact ⟨row, List.mem_append_right _ (List.mem_singleton_self row), hcharges⟩
  · rw [hcards, hcharged.ledger]
    intro other hother hdebit cardId hreason
    rcases List.mem_append.mp hother with hother | hother
    · obtain ⟨old, hold, hid, haccount⟩ := hclocked.accounted other hother hdebit cardId hreason
      exact ⟨old, List.mem_append_left _ hold, hid, haccount⟩
    · rw [List.mem_singleton.mp hother] at hreason ⊢
      obtain rfl := clockInReason_injective (hcharges.reason.symm.trans hreason)
      exact ⟨card, List.mem_append_right _ (List.mem_singleton_self card), rfl, operation,
        hoperation, hcharges⟩

/-- Updates of cards keep the invariant. -/
theorem Clocked.updated (hclocked : Clocked service.tenantId ws) {payroll : Database}
    (hmoves : ws.payroll.MovesCards payroll) :
    Clocked service.tenantId { ws with payroll := payroll } where
  cards := hclocked.cards.steps hmoves.steps
  rows := hclocked.rows
  referenced := by
    intro card hcard
    obtain ⟨old, hold, hkeeps⟩ := hmoves.steps.back hcard
    obtain ⟨huser, hshift, hlocation⟩ := hclocked.referenced old hold
    refine ⟨?_, ?_, ?_⟩
    · rw [hkeeps.userId]
      exact huser
    · rw [hkeeps.shiftId]
      exact hshift
    · rw [hkeeps.locationId, hmoves.locations]
      exact hlocation
  charged := by
    intro card hcard operation hoperation
    obtain ⟨old, hold, hkeeps⟩ := hmoves.steps.back hcard
    rw [hkeeps.id]
    exact hclocked.charged old hold operation (hkeeps.clockInOperationId ▸ hoperation)
  accounted := by
    intro row hrow hdebit cardId hreason
    obtain ⟨old, hold, hid, operation, hoperation, hcharges⟩ :=
      hclocked.accounted row hrow hdebit cardId hreason
    obtain ⟨new, hnew, hkeeps⟩ := hmoves.steps.forward hclocked.cards hold
    refine ⟨new, hnew, hkeeps.id.trans hid, operation, ?_, hcharges⟩
    rw [hkeeps.clockInOperationId]
    exact hoperation

/-- A foreign call adds no row that names a card. -/
theorem Clocked.walletMoved (hclocked : Clocked service.tenantId ws) (isControl : Char → Bool)
    {request : WalletRequest} (hforeign : Foreign request.call) :
    Clocked service.tenantId
      { ws with billing := (commit isControl ws.billing request).2 } := by
  rcases commit_cases isControl ws.billing request with
    hsame | ⟨_, row, _, _, hrecorded, happlies⟩
  · rw [hsame]
    exact hclocked
  · refine ⟨hclocked.cards, ?_, hclocked.referenced, ?_, ?_⟩
    · rw [happlies.ledger]
      exact nodup_keys_append hclocked.rows happlies.fresh
    · rw [happlies.ledger]
      intro card hcard operation hoperation
      obtain ⟨old, hold, hcharges⟩ := hclocked.charged card hcard operation hoperation
      exact ⟨old, List.mem_append_left _ hold, hcharges⟩
    · rw [happlies.ledger]
      intro other hother hdebit cardId hreason
      rcases List.mem_append.mp hother with hother | hother
      · exact hclocked.accounted other hother hdebit cardId hreason
      · rw [List.mem_singleton.mp hother] at hdebit hreason
        -- A settlement adds to the balance, and a debit gives its own reason.
        cases hcall : request.call with
        | positiveSettlement args =>
            rw [hcall] at hrecorded
            exact absurd hdebit (not_lt.mpr hrecorded)
        | creditDebit args =>
            rw [hcall] at hrecorded hforeign
            exact absurd (hrecorded.symm.trans hreason) (hforeign cardId)
        | featureDebit args =>
            rw [hcall] at hrecorded hforeign
            exact absurd (hrecorded.symm.trans hreason) (hforeign cardId)
        | settlePositive args =>
            rw [hcall] at hrecorded
            exact absurd hdebit (not_lt.mpr hrecorded)

variable {hashes : Hashes} {isControl : Char → Bool}

/-- Every event keeps the invariant. -/
theorem Clocked.step (hclocked : Clocked service.tenantId ws) (event : ClockEvent) :
    Clocked service.tenantId (service.step hashes isControl ws event).2 := by
  cases event with
  | clockIn call fate =>
      simp only [ClockService.step]
      cases hrun : service.clockIn ws call with
      | error problem => exact hclocked
      | ok result =>
          obtain ⟨answer, next⟩ := result
          have hnext : Clocked service.tenantId next := by
            rcases clockIn_cases hrun with ⟨rfl, _, _⟩ | ⟨_, card, hcreates⟩
            · exact hclocked
            · exact hclocked.created hcreates
          cases fate with
          | acknowledged => exact hnext
          | unacknowledged => exact hnext
          | rolledBack => exact hclocked
  | recover call expectedRequestHash failure =>
      simp only [ClockService.step]
      split
      · exact hclocked
      · exact hclocked
  | payroll event helsewhere => exact hclocked.updated (moves_of_step helsewhere)
  | wallet request hforeign => exact hclocked.walletMoved isControl hforeign
  | directory users shifts locations deletedLocations =>
      simp only [ClockService.step]
      split
      · rename_i hreferenced
        exact ⟨hclocked.cards, hclocked.rows, hreferenced, hclocked.charged, hclocked.accounted⟩
      · exact hclocked

end Invariant

/-! ## Counting -/

section Counting

variable {tenantId : String} {ws : Workspace}

theorem nodup_of_nodup_ids {Row : Type*} {key : Row → String} {rows : List Row}
    (h : (rows.map key).Nodup) : rows.Nodup :=
  List.Nodup.of_map _ h

theorem Clocked.operation_once (hclocked : Clocked tenantId ws) (operation : String) :
    (ws.payroll.cards.filter (·.clockInOperationId = some operation)).length ≤ 1 := by
  refine length_le_one_of_eq ((nodup_of_nodup_ids hclocked.cards.ids).filter _) ?_
  intro first hfirst second hsecond
  obtain ⟨hfirst, hoperation⟩ := List.mem_filter.mp hfirst
  obtain ⟨hsecond, hoperation'⟩ := List.mem_filter.mp hsecond
  have hone := of_decide_eq_true hoperation
  have htwo := of_decide_eq_true hoperation'
  refine eq_of_key hclocked.cards.ids hfirst hsecond ?_
  exact hclocked.cards.operations first hfirst second hsecond (by rw [hone]; rfl)
    (hone.trans htwo.symm)

theorem Clocked.running_once (hclocked : Clocked tenantId ws) (userId : String) :
    (ws.payroll.cards.filter fun card => card.userId = userId ∧ card.Running).length ≤ 1 := by
  refine length_le_one_of_eq ((nodup_of_nodup_ids hclocked.cards.ids).filter _) ?_
  intro first hfirst second hsecond
  obtain ⟨hfirst, huser⟩ := List.mem_filter.mp hfirst
  obtain ⟨hsecond, huser'⟩ := List.mem_filter.mp hsecond
  obtain ⟨huser, hrunning⟩ := of_decide_eq_true huser
  obtain ⟨huser', hrunning'⟩ := of_decide_eq_true huser'
  refine eq_of_key hclocked.cards.ids hfirst hsecond ?_
  exact hclocked.cards.running first hfirst second hsecond hrunning hrunning'
    (huser.trans huser'.symm)

theorem Clocked.row_once (hclocked : Clocked tenantId ws) (transactionId : String) :
    (ws.billing.ledger.filter (·.id = transactionId)).length ≤ 1 := by
  refine length_le_one_of_eq ((nodup_of_nodup_ids hclocked.rows).filter _) ?_
  intro first hfirst second hsecond
  obtain ⟨hfirst, hid⟩ := List.mem_filter.mp hfirst
  obtain ⟨hsecond, hid'⟩ := List.mem_filter.mp hsecond
  exact eq_of_key hclocked.rows hfirst hsecond
    ((of_decide_eq_true hid).trans (of_decide_eq_true hid').symm)

end Counting

/-! ## Retries -/

/-- The call sends what an earlier one sent. -/
structure ClockInCall.Resends (call first : ClockInCall) : Prop where
  actorUserId : call.actorUserId = first.actorUserId
  idempotencyKey : call.idempotencyKey = first.idempotencyKey
  userId : call.userId = first.userId
  locationId : call.locationId = first.locationId
  shiftId : call.shiftId = first.shiftId
  clockInAt : call.clockInAt = first.clockInAt
  notes : call.notes = first.notes

/-- The call passes the checks of the session: it may write, for this worker and
with this clock time. -/
def ClockInCall.Allowed (call : ClockInCall) : Prop :=
  call.authorised = true ∧ call.assertRequestScope = .ok ()

section Retries

variable {service : ClockService} {ws : Workspace} {first call : ClockInCall}

theorem CarriesOut.resent {card : TimeCard} (h : CarriesOut service first card)
    (hresends : call.Resends first) : CarriesOut service call card := by
  have hcontent : ∀ notes, call.content notes = first.content notes := by
    intro notes
    simp only [ClockInCall.content, hresends.actorUserId, hresends.userId, hresends.locationId,
      hresends.shiftId, hresends.clockInAt]
  refine ⟨?_, ?_, ?_, ?_, ?_, ?_⟩
  · rw [hresends.idempotencyKey]
    exact h.key
  · simp only [hresends.notes, hcontent]
    exact h.hash
  · rw [hresends.userId, hresends.actorUserId]
    exact h.target
  · rw [hresends.userId, hresends.actorUserId]
    exact h.userId
  · rw [hresends.locationId]
    exact h.locationId
  · rw [hresends.shiftId]
    exact h.shiftId

/-- The card of an operation is the one that is found. -/
theorem Clocked.find_operation {tenantId : String} (hclocked : Clocked tenantId ws)
    {card : TimeCard} (hcard : card ∈ ws.payroll.cards) {operation : String}
    (hoperation : card.clockInOperationId = some operation) :
    ws.payroll.cards.find? (·.clockInOperationId = some operation) = some card := by
  cases hfind : ws.payroll.cards.find? (·.clockInOperationId = some operation) with
  | none => exact absurd hoperation (by simpa using List.find?_eq_none.mp hfind card hcard)
  | some found =>
      have hmem := List.mem_of_find?_eq_some hfind
      have hfound : found.clockInOperationId = some operation := by
        simpa using List.find?_some hfind
      rw [eq_of_key hclocked.cards.ids hmem hcard (hclocked.cards.operations found hmem card hcard
        (by rw [hfound]; rfl) (hfound.trans hoperation.symm))]

/-- A retry of a call that a card carries out returns that card. -/
theorem Clocked.retry {tenantId : String} (hclocked : Clocked tenantId ws) {card : TimeCard}
    (hcard : card ∈ ws.payroll.cards) (h : CarriesOut service call card) (hallowed : call.Allowed) :
    service.clockIn ws call = .ok (⟨card.id, true⟩, ws) := by
  obtain ⟨key, hkey, hoperation⟩ := h.key
  obtain ⟨notes, hnotes, hhash⟩ := h.hash
  obtain ⟨huser, hshift, hlocation⟩ := hclocked.referenced card hcard
  have hcontent : ws.resolveForReplay call notes = .ok (call.content notes) := by
    refine resolveForReplay_ok.mpr ⟨?_, h.target, ?_, ?_, rfl⟩
    · obtain ⟨user, hmem, hid⟩ := huser
      rw [Workspace.user?, List.find?_isSome]
      exact ⟨user, hmem, decide_eq_true (hid.trans h.userId)⟩
    · intro id hid
      obtain ⟨location, hmem, heq⟩ := hlocation id (h.locationId id hid)
      rw [Workspace.location?, List.find?_isSome]
      exact ⟨location, hmem, decide_eq_true heq⟩
    · intro id hid
      obtain ⟨shift, hmem, heq⟩ := hshift id (h.shiftId.trans hid)
      rw [Workspace.shift?, List.find?_isSome]
      exact ⟨shift, hmem, decide_eq_true heq⟩
  have hfind := hclocked.find_operation hcard hoperation
  simp only [ClockService.clockIn, hkey, hnotes, hallowed.1, hallowed.2, hcontent, hfind, hhash,
    ensure_of_true, ok_bind]

/-- The second transaction of a call that a card carries out returns that card. -/
theorem Clocked.recovered {tenantId : String} (hclocked : Clocked tenantId ws) {card : TimeCard}
    (hcard : card ∈ ws.payroll.cards) (h : CarriesOut service call card) (hallowed : call.Allowed)
    {requestHash : String} (hhash : card.clockInRequestHash = some requestHash) {failure : Problem}
    (hfailure : isAuthorityRefusal failure = false) :
    service.recover ws call (some requestHash) failure = .ok ⟨card.id, true⟩ := by
  obtain ⟨key, hkey, hoperation⟩ := h.key
  have hfind := hclocked.find_operation hcard hoperation
  simp only [ClockService.recover, hfailure, hkey, hallowed.1, hallowed.2, hfind, hhash,
    ensure_of_true, ok_bind]

variable {hashes : Hashes} {isControl : Char → Bool}

/-- No event takes a card away or changes what its clock-in wrote. -/
theorem Clocked.keeps_step (hclocked : Clocked service.tenantId ws) (event : ClockEvent)
    {card : TimeCard} (hcard : card ∈ ws.payroll.cards) :
    ∃ new ∈ (service.step hashes isControl ws event).2.payroll.cards, card.Keeps new := by
  have hsame : ∃ new ∈ ws.payroll.cards, card.Keeps new := ⟨card, hcard, .refl card⟩
  cases event with
  | clockIn call fate =>
      simp only [ClockService.step]
      cases hrun : service.clockIn ws call with
      | error problem => exact hsame
      | ok result =>
          obtain ⟨answer, next⟩ := result
          have hnext : ∃ new ∈ next.payroll.cards, card.Keeps new := by
            rcases clockIn_cases hrun with ⟨rfl, _, _⟩ | ⟨_, created, hcreates⟩
            · exact hsame
            · rw [hcreates.next_eq]
              exact ⟨card, List.mem_append_left _ hcard, .refl card⟩
          cases fate with
          | acknowledged => exact hnext
          | unacknowledged => exact hnext
          | rolledBack => exact hsame
  | recover call expectedRequestHash failure =>
      simp only [ClockService.step]
      split
      · exact hsame
      · exact hsame
  | payroll event helsewhere =>
      exact (moves_of_step helsewhere).steps.forward hclocked.cards hcard
  | wallet request hforeign => exact hsame
  | directory users shifts locations deletedLocations =>
      simp only [ClockService.step]
      split
      · exact hsame
      · exact hsame

/-- A card that carries out a call goes on doing so. -/
theorem Clocked.carriesOut_final (hclocked : Clocked service.tenantId ws) {card : TimeCard}
    (hcard : card ∈ ws.payroll.cards) (h : CarriesOut service call card)
    (events : List ClockEvent) :
    ∃ new ∈ (final (service.step hashes isControl) ws events).payroll.cards,
      new.id = card.id ∧ CarriesOut service call new := by
  let Inv : Workspace → Prop := fun now => Clocked service.tenantId now ∧
    ∃ new ∈ now.payroll.cards, new.id = card.id ∧ CarriesOut service call new
  have hstep : ∀ now event, Inv now → Inv (service.step hashes isControl now event).2 := by
    rintro now event ⟨hclocked, new, hnew, hid, hcarries⟩
    obtain ⟨newer, hnewer, hkeeps⟩ := hclocked.keeps_step event hnew
    exact ⟨hclocked.step event, newer, hnewer, hkeeps.id.trans hid, hcarries.keeps hkeeps⟩
  exact (invariant_final Inv hstep ⟨hclocked, card, hcard, rfl, h⟩ events).2

end Retries

/-! ## The statement -/

/-- The call created a card, and one credit was charged for it. -/
def ClockedIn (service : ClockService) (call : ClockInCall) (before after : Workspace) : Prop :=
  ∃ card row wallet, Creates service before call after card ∧
    Charged service before after card row wallet

/-- What the answer of a clock-in says about the tables: a new card was charged, an
old card and a refusal change nothing, and an answer that was lost is either. -/
def TellsTruth (service : ClockService) (call : ClockInCall)
    (t : Transition Workspace ClockEvent ClockOutcome) : Prop :=
  match t.answer with
  | .card ⟨cardId, false⟩ => cardId = call.cardId ∧ ClockedIn service call t.before t.after
  | .card ⟨cardId, true⟩ => t.after = t.before ∧ ∃ card ∈ t.before.payroll.cards, card.id = cardId
  | .refused _ => t.after = t.before
  | .lost => t.after = t.before ∨ ClockedIn service call t.before t.after
  | .other => False

section Statement

variable {service : ClockService} {hashes : Hashes} {isControl : Char → Bool} {ws : Workspace}

theorem Clocked.tellsTruth (hclocked : Clocked service.tenantId ws) (call : ClockInCall)
    (fate : Fate) : TellsTruth service call
      (transition (service.step hashes isControl) ws (.clockIn call fate)) := by
  simp only [TellsTruth, transition, ClockService.step]
  cases hrun : service.clockIn ws call with
  | error problem => rfl
  | ok result =>
      obtain ⟨⟨cardId, reused⟩, next⟩ := result
      rcases clockIn_cases hrun with ⟨rfl, hreused, card, hcard, hid⟩ | ⟨hanswer, card, hcreates⟩
      · obtain rfl : reused = true := hreused
        cases fate with
        | acknowledged => exact ⟨rfl, card, hcard, hid.symm⟩
        | unacknowledged => exact .inl rfl
        | rolledBack => exact .inl rfl
      · obtain ⟨rfl, rfl⟩ := ClockInAnswer.mk.inj hanswer
        obtain ⟨row, wallet, hcharged, _⟩ := hclocked.charge hcreates
        cases fate with
        | acknowledged => exact ⟨rfl, card, row, wallet, hcreates, hcharged⟩
        | unacknowledged => exact .inr ⟨card, row, wallet, hcreates, hcharged⟩
        | rolledBack => exact .inl rfl

theorem step_recover (call : ClockInCall) (expectedRequestHash : Option String)
    (failure : Problem) :
    (service.step hashes isControl ws (.recover call expectedRequestHash failure)).2 = ws := by
  simp only [ClockService.step]
  split <;> rfl

end Statement

/-- Clock-ins happen once.  In every run of clock-ins with any keys, retries and
failing commits, of clock-outs, corrections and the other payroll commands, of other
wallet calls and of changes of the directory:

* no operation has two cards or two ledger rows, and no worker two running cards;
* every card of an operation is charged with one credit, and every such charge has
  its card;
* a new card comes with one ledger row and takes one credit from the wallet, while a
  refusal and a replay change nothing, and neither does the second transaction;
* after a clock-in created a card and committed, both transactions of every allowed
  call that sends the same return that card. -/
theorem clock_in_exactly_once (service : ClockService) (hashes : Hashes) (isControl : Char → Bool)
    (start : OpeningWorkspace) (events : List ClockEvent) :
    (∀ ws, final (service.step hashes isControl) start.toWorkspace events = ws →
      (∀ operation,
        (ws.payroll.cards.filter (·.clockInOperationId = some operation)).length ≤ 1 ∧
        (ws.billing.ledger.filter (·.id = clockInTransactionId operation)).length ≤ 1) ∧
      (∀ userId,
        (ws.payroll.cards.filter fun card => card.userId = userId ∧ card.Running).length ≤ 1) ∧
      (∀ card ∈ ws.payroll.cards, ∀ operation ∈ card.clockInOperationId,
        ∃ row ∈ ws.billing.ledger, ChargesClockIn row service.tenantId operation card.id) ∧
      ∀ row ∈ ws.billing.ledger, row.amount < 0 → ∀ cardId, row.reason = clockInReason cardId →
        ∃ card ∈ ws.payroll.cards, card.id = cardId ∧
          ∃ operation ∈ card.clockInOperationId,
            ChargesClockIn row service.tenantId operation cardId) ∧
    (∀ t ∈ trace (service.step hashes isControl) start.toWorkspace events,
      (∀ call fate, t.request = .clockIn call fate → TellsTruth service call t) ∧
      ∀ call expected failure, t.request = .recover call expected failure → t.after = t.before) ∧
    ∀ earlier call fate later, events = earlier ++ .clockIn call fate :: later →
      fate ≠ .rolledBack → ∀ cardId created,
      service.clockIn (final (service.step hashes isControl) start.toWorkspace earlier) call =
        .ok (⟨cardId, false⟩, created) →
      ∀ ws, final (service.step hashes isControl) start.toWorkspace events = ws →
      ∀ retry : ClockInCall, retry.Resends call → retry.Allowed →
        service.clockIn ws retry = .ok (⟨cardId, true⟩, ws) ∧
        ∀ notes failure, normalizeTimeCardNotes retry.notes = .ok notes →
          isAuthorityRefusal failure = false →
          service.recover ws retry (some (service.hashes.requestHash (retry.content notes))) failure
            = .ok ⟨cardId, true⟩ := by
  have hstep : ∀ ws event, Clocked service.tenantId ws →
      Clocked service.tenantId (service.step hashes isControl ws event).2 :=
    fun ws event h => h.step event
  refine ⟨?_, ?_, ?_⟩
  · rintro ws rfl
    have hclocked := invariant_final (Clocked service.tenantId) hstep
      (start.clocked service.tenantId) events
    exact ⟨fun operation => ⟨hclocked.operation_once operation, hclocked.row_once _⟩,
      hclocked.running_once, hclocked.charged, hclocked.accounted⟩
  · intro t ht
    obtain ⟨hclocked, heq⟩ := invariant_of_mem_trace (Clocked service.tenantId) hstep
      (start.clocked service.tenantId) ht
    refine ⟨?_, ?_⟩
    · intro call fate hrequest
      rw [heq, hrequest]
      exact hclocked.tellsTruth call fate
    · intro call expected failure hrequest
      rw [heq, hrequest]
      exact step_recover call expected failure
  · rintro earlier call fate later rfl hfate cardId created hrun ws rfl retry hresends hallowed
    have hbefore := invariant_final (Clocked service.tenantId) hstep
      (start.clocked service.tenantId) earlier
    obtain ⟨_, hreused, _⟩ | ⟨hanswer, card, hcreates⟩ := clockIn_cases hrun
    · cases hreused
    obtain rfl : cardId = call.cardId := congrArg ClockInAnswer.cardId hanswer
    have hcreated := hbefore.created hcreates
    have hcard : card ∈ created.payroll.cards := by
      rw [hcreates.next_eq]
      exact List.mem_append_right _ (List.mem_singleton_self card)
    have hnext : (service.step hashes isControl
        (final (service.step hashes isControl) start.toWorkspace earlier)
        (.clockIn call fate)).2 = created := by
      simp only [ClockService.step, hrun]
      cases fate with
      | acknowledged => rfl
      | unacknowledged => rfl
      | rolledBack => exact absurd rfl hfate
    rw [final_append, final_cons, hnext]
    obtain ⟨new, hnew, hid, hcarries⟩ := hcreated.carriesOut_final hcard hcreates.carriesOut later
    have hfinal := invariant_final (Clocked service.tenantId) hstep hcreated later
    have hresent := hcarries.resent hresends
    rw [← hcreates.id, ← hid]
    refine ⟨hfinal.retry hnew hresent hallowed, ?_⟩
    intro notes failure hnotes hfailure
    obtain ⟨kept, hkept, hhash⟩ := hresent.hash
    obtain rfl := Except.ok.inj (hkept.symm.trans hnotes)
    exact hfinal.recovered hnew hresent hallowed hhash hfailure

/-! ## A request that is sent twice -/

namespace Sample

/-- The service, with digests that keep the key and the worker. -/
def clockService : ClockService := ⟨zones, ⟨id, fun content => content.targetUserId⟩, "tenant"⟩

/-- One worker, and two credits. -/
def opening : OpeningWorkspace where
  payroll := .initial []
  billing := ⟨[("tenant", ⟨2, 0⟩)], []⟩
  users := [⟨"worker", .staff, false, false⟩]
  shifts := []
  deletedLocations := []
  noCards := rfl
  rows := List.nodup_nil
  noDebits := by simp

/-- The worker clocks in under a key; a new card would get the given id. -/
def tap (cardId : String) : ClockInCall where
  actorUserId := "worker"
  team := false
  idempotencyKey := some " key "
  userId := none
  locationId := none
  shiftId := none
  clockInAt := none
  notes := none
  cardId := cardId
  now := 0
  authorised := true
  entitled := true
  current := fun _ => true

/-- The acknowledgement of the first clock-in is lost, and the second finds its card. -/
example : ((clockService.step hashes (fun _ => false) opening.toWorkspace
      (.clockIn (tap "first") .unacknowledged)).2.payroll.cards.map (·.id)) = ["first"] ∧
    (clockService.clockIn (clockService.step hashes (fun _ => false) opening.toWorkspace
      (.clockIn (tap "first") .unacknowledged)).2 (tap "second")).toOption.map Prod.fst =
      some ⟨"first", true⟩ := by
  decide +kernel

end Sample

end LunchLineup.Payroll
