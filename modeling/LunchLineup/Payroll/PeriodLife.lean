import LunchLineup.Payroll.LockInvariant

/-!
# Runs of the payroll commands

A period moves through its statuses one step at a time, and what a locked period
owns never changes.  Both are facts about single transactions, derived from the
statements a transaction is made of; `Lib.Run` lifts them to runs.
-/

namespace LunchLineup.Payroll

open LunchLineup.Lib LunchLineup.Billing

/-! ## A locked period keeps what it owns -/

section Keeps

variable {db db' : Database} {period : Period}

theorem Database.Keeps.refl (hmem : period ∈ db.periods) : db.Keeps db period :=
  ⟨hmem, rfl, rfl, rfl⟩

theorem Database.Keeps.trans {db'' : Database} (hfirst : db.Keeps db' period)
    (hsecond : db'.Keeps db'' period) : db.Keeps db'' period :=
  ⟨hsecond.1, hsecond.2.1.trans hfirst.2.1, hsecond.2.2.1.trans hfirst.2.2.1,
    hsecond.2.2.2.trans hfirst.2.2.2⟩

/-- The breaks of a period's cards follow from its cards, so a statement that
leaves breaks alone keeps them when it keeps the cards. -/
theorem keeps_of_cards (hmem : period ∈ db'.periods)
    (hcards : db'.cardsOf period.id = db.cardsOf period.id) (hbreaks : db'.breaks = db.breaks)
    (hentries : db'.entries = db.entries) : db.Keeps db' period := by
  refine ⟨hmem, hcards, ?_, ?_⟩
  · rw [Database.cardBreaksOf, Database.cardBreaksOf, hcards, hbreaks]
  · rw [Database.entriesOf, Database.entriesOf, hentries]

theorem keeps_cardInserted (hsound : Sound db) (hmem : period ∈ db.periods)
    (hlocked : period.status = .locked) {card : TimeCard} (hassign : db.Assignable card) :
    db.Keeps { db with cards := db.cards ++ [card] } period := by
  refine keeps_of_cards hmem ?_ rfl rfl
  have hne := hsound.payrollPeriodId_ne hassign hmem hlocked
  simp [Database.cardsOf, List.filter_append, hne]

theorem keeps_cardUpdated (hsound : Sound db) (hmem : period ∈ db.periods)
    (hlocked : period.status = .locked) {old new : TimeCard} (hcard : old ∈ db.cards)
    (hid : new.id = old.id) (hold : ¬ db.UnderLock old) (hnew : ¬ db.UnderLock new) :
    db.Keeps (db.replaceCard new) period := by
  refine keeps_of_cards hmem ?_ rfl rfl
  apply filter_replaceRow
  · rw [decide_eq_false_iff_not]
    exact fun howner => hnew (underLock_of_owner hmem hlocked howner)
  · intro row hrow heq
    rw [decide_eq_false_iff_not, eq_of_key hsound.cardIds hrow hcard (heq.trans hid)]
    exact fun howner => hold (underLock_of_owner hmem hlocked howner)

/-- A break that the trigger lets go is not of a card of a locked period. -/
theorem not_mem_of_breaksFree (hmem : period ∈ db.periods) (hlocked : period.status = .locked)
    {cardId : String} (hfree : db.BreaksFree cardId) :
    cardId ∉ (db.cardsOf period.id).map (·.id) := by
  intro hcardId
  obtain ⟨card, hcard, hid⟩ := List.mem_map.mp hcardId
  obtain ⟨hcard, howner⟩ := mem_cardsOf.mp hcard
  exact (hfree card hcard hid).1 period hmem howner.symm hlocked

theorem keeps_breaksDeleted (hmem : period ∈ db.periods) (hlocked : period.status = .locked)
    {cardId : String}
    (hfree : (∃ interval ∈ db.breaks, interval.timeCardId = cardId) → db.BreaksFree cardId) :
    db.Keeps { db with breaks := db.breaks.filter (·.timeCardId ≠ cardId) } period := by
  refine ⟨hmem, rfl, ?_, rfl⟩
  show List.filter _ (List.filter _ db.breaks) = List.filter _ db.breaks
  rw [List.filter_filter]
  apply List.filter_congr
  intro interval hinterval
  by_cases heq : interval.timeCardId = cardId
  · have hnot := not_mem_of_breaksFree hmem hlocked (hfree ⟨interval, hinterval, heq⟩)
    rw [← heq] at hnot
    have hdeleted : decide (interval.timeCardId ≠ cardId) = false := by simp [heq]
    rw [hdeleted, Bool.and_false]
    exact (decide_eq_false hnot).symm
  · rw [decide_eq_true heq, Bool.and_true]
    rfl

theorem keeps_breakInserted (hmem : period ∈ db.periods) (hlocked : period.status = .locked)
    {interval : TimeCardBreak} (hfree : db.BreaksFree interval.timeCardId) :
    db.Keeps { db with breaks := db.breaks ++ [interval] } period := by
  refine ⟨hmem, rfl, ?_, rfl⟩
  have hnot := not_mem_of_breaksFree hmem hlocked hfree
  show List.filter _ (db.breaks ++ [interval]) = List.filter _ db.breaks
  rw [List.filter_append, List.filter_cons_of_neg, List.filter_nil, List.append_nil]
  · rfl
  · rw [decide_eq_true_iff]
    exact hnot

theorem keeps_of_statement (hsound : Sound db) (hmem : period ∈ db.periods)
    (hlocked : period.status = .locked) (h : Statement db db') : db.Keeps db' period := by
  cases h with
  | locations rows => exact ⟨hmem, rfl, rfl, rfl⟩
  | operation h =>
      rw [Database.insertOperation_ok h]
      exact ⟨hmem, rfl, rfl, rfl⟩
  | review hother hopened h =>
      obtain ⟨_, _, _, _, rfl⟩ := Database.updatePeriod_ok h
      refine ⟨mem_replaceRow_of_ne hmem ?_, rfl, rfl, rfl⟩
      intro heq
      have hstatus := hsound.status_unique hmem hother heq
      rw [hlocked, hopened] at hstatus
      cases hstatus
  | card h =>
      obtain ⟨hassign, _, _, rfl⟩ := Database.insertTimeCard_ok h
      exact keeps_cardInserted hsound hmem hlocked hassign
  | cardUpdate hcard hid _ h =>
      obtain ⟨_, _, hold, hnew, _, _, rfl⟩ := Database.updateTimeCard_ok h
      exact keeps_cardUpdated hsound hmem hlocked hcard hid hold hnew
  | deleteBreaks h =>
      obtain ⟨hfree, rfl⟩ := Database.deleteBreaks_ok h
      exact keeps_breaksDeleted hmem hlocked hfree
  | insertBreak h =>
      obtain ⟨hfree, rfl⟩ := Database.insertBreak_ok h
      exact keeps_breakInserted hmem hlocked hfree
  | approval h =>
      obtain ⟨_, _, _, rfl⟩ := Database.insertApproval_ok h
      exact ⟨hmem, rfl, rfl, rfl⟩
  | amendment h =>
      obtain ⟨_, _, _, _, rfl⟩ := Database.insertAmendment_ok h
      exact ⟨hmem, rfl, rfl, rfl⟩
  | decision h =>
      obtain ⟨_, _, rfl⟩ := Database.insertDecision_ok h
      exact ⟨hmem, rfl, rfl, rfl⟩

theorem keeps_of_statements (hsound : Sound db) (hmem : period ∈ db.periods)
    (hlocked : period.status = .locked) (h : Statements db db') : db.Keeps db' period := by
  induction h with
  | refl => exact .refl hmem
  | tail hfirst hlast ih =>
      exact ih.trans (keeps_of_statement (hsound.statements hfirst) ih.1 hlocked hlast)

variable {zones : Zones} {hashes : Hashes}

theorem Locking.keeps (locking : Locking zones hashes db db') (hsound : Sound db)
    (hmem : period ∈ db.periods) (hlocked : period.status = .locked) : db.Keeps db' period := by
  have hne := locking.ne_of_locked hsound hmem hlocked
  have hbreaks : db'.breaks = db.breaks := by
    rw [congrArg Database.breaks locking.db_eq]
  refine ⟨?_, ?_, ?_, locking.entriesOf_other hne⟩
  · rw [locking.periods_eq]
    exact mem_replaceRow_of_ne hmem hne
  · rw [Database.cardsOf, Database.cardsOf, locking.cards_eq]
  · rw [Database.cardBreaksOf, Database.cardBreaksOf, Database.cardsOf, Database.cardsOf,
      locking.cards_eq, hbreaks]

theorem keeps_of_write (hsound : Sound db) (hmem : period ∈ db.periods)
    (hlocked : period.status = .locked) {event : Event} (h : Write zones hashes db event db') :
    db.Keeps db' period := by
  cases h with
  | statements h => exact keeps_of_statements hsound hmem hlocked h
  | policy _ _ h =>
      rw [Database.insertPolicy_ok h]
      exact ⟨hmem, rfl, rfl, rfl⟩
  | period _ _ _ hinsert hoperation =>
      obtain ⟨_, _, rfl⟩ := Database.insertPeriod_ok hinsert
      rw [Database.insertOperation_ok hoperation]
      exact ⟨List.mem_append_left _ hmem, rfl, rfl, rfl⟩
  | locking locking => exact locking.keeps hsound hmem hlocked

end Keeps

/-! ## A period moves one step at a time -/

section Moves

variable {db db' : Database}

/-- What a chain of statements can do to a period: nothing, or start its
review. -/
def Period.Reviewed (old new : Period) : Prop :=
  new = old ∨ (old.SameSnapshot new ∧ new.revision = old.revision + 1 ∧ old.status = .opened ∧
    new.status = .review)

theorem Period.Reviewed.trans {first second third : Period} (hfirst : first.Reviewed second)
    (hsecond : second.Reviewed third) : first.Reviewed third := by
  rcases hfirst with rfl | hfirst
  · exact hsecond
  · rcases hsecond with rfl | ⟨_, _, hopened, _⟩
    · exact .inr hfirst
    · rw [hfirst.2.2.2] at hopened
      cases hopened

theorem Period.Reviewed.moves {old new : Period} (h : old.Reviewed new) : old.Moves new := by
  rcases h with rfl | ⟨hsnapshot, hrevision, hopened, hreview⟩
  · exact .inl rfl
  · exact .inr ⟨hsnapshot, hrevision, .inl ⟨hopened, hreview⟩⟩

theorem exists_reviewed_of_eq (hperiods : db'.periods = db.periods) :
    ∀ period ∈ db.periods, ∃ next ∈ db'.periods, period.Reviewed next := by
  intro period hmem
  rw [hperiods]
  exact ⟨period, hmem, .inl rfl⟩

/-- When one row is replaced by a related one, every row has a related one. -/
theorem exists_related_of_replaced {R : Period → Period → Prop} (hrefl : ∀ period, R period period)
    (hsound : Sound db) {old new : Period} (hmem : old ∈ db.periods) (hid : new.id = old.id)
    (hrelated : R old new) :
    ∀ period ∈ db.periods, ∃ next ∈ replaceRow (·.id) db.periods new, R period next := by
  intro period hperiod
  by_cases heq : period.id = new.id
  · rw [eq_of_key hsound.periodIds hperiod hmem (heq.trans hid)]
    exact ⟨new, new_mem_replaceRow hmem hid.symm, hrelated⟩
  · exact ⟨period, mem_replaceRow_of_ne hperiod heq, hrefl period⟩

theorem exists_reviewed_of_statement (hsound : Sound db) (h : Statement db db') :
    ∀ period ∈ db.periods, ∃ next ∈ db'.periods, period.Reviewed next := by
  cases h with
  | locations rows => exact exists_reviewed_of_eq rfl
  | operation h =>
      rw [Database.insertOperation_ok h]
      exact exists_reviewed_of_eq rfl
  | review hmem hopened h =>
      obtain ⟨hsnapshot, hrevision, _, _, rfl⟩ := Database.updatePeriod_ok h
      exact exists_related_of_replaced (fun _ => .inl rfl) hsound hmem rfl
        (.inr ⟨hsnapshot, hrevision, hopened, rfl⟩)
  | card h =>
      obtain ⟨_, _, _, rfl⟩ := Database.insertTimeCard_ok h
      exact exists_reviewed_of_eq rfl
  | cardUpdate _ _ _ h =>
      obtain ⟨_, _, _, _, _, _, rfl⟩ := Database.updateTimeCard_ok h
      exact exists_reviewed_of_eq rfl
  | deleteBreaks h =>
      obtain ⟨_, rfl⟩ := Database.deleteBreaks_ok h
      exact exists_reviewed_of_eq rfl
  | insertBreak h =>
      obtain ⟨_, rfl⟩ := Database.insertBreak_ok h
      exact exists_reviewed_of_eq rfl
  | approval h =>
      obtain ⟨_, _, _, rfl⟩ := Database.insertApproval_ok h
      exact exists_reviewed_of_eq rfl
  | amendment h =>
      obtain ⟨_, _, _, _, rfl⟩ := Database.insertAmendment_ok h
      exact exists_reviewed_of_eq rfl
  | decision h =>
      obtain ⟨_, _, rfl⟩ := Database.insertDecision_ok h
      exact exists_reviewed_of_eq rfl

theorem exists_reviewed_of_statements (hsound : Sound db) (h : Statements db db') :
    ∀ period ∈ db.periods, ∃ next ∈ db'.periods, period.Reviewed next := by
  induction h with
  | refl => exact exists_reviewed_of_eq rfl
  | tail hfirst hlast ih =>
      intro period hperiod
      obtain ⟨middle, hmiddle, hreviewed⟩ := ih period hperiod
      obtain ⟨next, hnext, hnext_reviewed⟩ :=
        exists_reviewed_of_statement (hsound.statements hfirst) hlast middle hmiddle
      exact ⟨next, hnext, hreviewed.trans hnext_reviewed⟩

variable {zones : Zones} {hashes : Hashes}

theorem Locking.moves (locking : Locking zones hashes db db') (hsound : Sound db) :
    ∀ period ∈ db.periods, ∃ next ∈ db'.periods, period.Moves next := by
  obtain ⟨hsnapshot, hrevision, _, _, _⟩ := Database.updatePeriod_ok locking.updated
  rw [locking.periods_eq]
  exact exists_related_of_replaced (fun _ => .inl rfl) hsound locking.mem rfl
    (.inr ⟨hsnapshot, hrevision, .inr ⟨locking.review, rfl⟩⟩)

theorem moves_of_write {event : Event} (hsound : Sound db) (h : Write zones hashes db event db') :
    ∀ period ∈ db.periods, ∃ next ∈ db'.periods, period.Moves next := by
  cases h with
  | statements h =>
      intro period hmem
      obtain ⟨next, hnext, hreviewed⟩ := exists_reviewed_of_statements hsound h period hmem
      exact ⟨next, hnext, hreviewed.moves⟩
  | policy _ _ h =>
      rw [Database.insertPolicy_ok h]
      exact fun period hmem => ⟨period, hmem, .inl rfl⟩
  | period _ _ _ hinsert hoperation =>
      obtain ⟨_, _, rfl⟩ := Database.insertPeriod_ok hinsert
      rw [Database.insertOperation_ok hoperation]
      exact fun period hmem => ⟨period, List.mem_append_left _ hmem, .inl rfl⟩
  | locking locking => exact locking.moves hsound

end Moves

/-! ## Runs -/

section Runs

variable (zones : Zones) (hashes : Hashes)

/-- What one transaction does, seen from a sound state: it keeps the invariant
and everything a locked period owns, and moves each period by at most one step. -/
theorem step_spec {db : Database} (hsound : Sound db) (event : Event) :
    Sound (step zones hashes db event).2 ∧
      (∀ period ∈ db.periods, ∃ next ∈ (step zones hashes db event).2.periods,
        period.Moves next) ∧
      ∀ period ∈ db.periods, period.status = .locked →
        db.Keeps (step zones hashes db event).2 period := by
  refine step_of_write
    (R := fun next => Sound next ∧
      (∀ period ∈ db.periods, ∃ moved ∈ next.periods, period.Moves moved) ∧
      ∀ period ∈ db.periods, period.status = .locked → db.Keeps next period) event ?_ ?_
  · exact ⟨hsound, fun period hmem => ⟨period, hmem, .inl rfl⟩, fun period hmem _ => .refl hmem⟩
  · intro next hwrite
    exact ⟨hsound.write hwrite, moves_of_write hsound hwrite,
      fun period hmem hlocked => keeps_of_write hsound hmem hlocked hwrite⟩

/-- From a sound state on, the invariant holds and locked periods keep what they
own. -/
def Follows (db db' : Database) : Prop :=
  Sound db → Sound db' ∧ ∀ period ∈ db.periods, period.status = .locked → db.Keeps db' period

theorem Follows.refl (db : Database) : Follows db db :=
  fun hsound => ⟨hsound, fun _ hmem _ => .refl hmem⟩

theorem Follows.trans {first second third : Database} (hfirst : Follows first second)
    (hsecond : Follows second third) : Follows first third := by
  intro hsound
  obtain ⟨hmiddle, hkept⟩ := hfirst hsound
  obtain ⟨hlast, hkept'⟩ := hsecond hmiddle
  refine ⟨hlast, fun period hmem hlocked => ?_⟩
  have hkeeps := hkept period hmem hlocked
  exact hkeeps.trans (hkept' period hkeeps.1 hlocked)

theorem follows_step (db : Database) (event : Event) :
    Follows db (step zones hashes db event).2 := by
  intro hsound
  obtain ⟨hnext, _, hkept⟩ := step_spec zones hashes hsound event
  exact ⟨hnext, hkept⟩

theorem sound_final (locations : List Location) (events : List Event) :
    Sound (final (step zones hashes) (.initial locations) events) :=
  invariant_final Sound (fun _ event hsound => (step_spec zones hashes hsound event).1)
    (sound_initial locations) events

/-- The entries of a locked period are a faithful record of its cards: one entry
for each card, each the snapshot of the card's current revision that someone
other than the employee approved, with the period's totals over all entries. -/
def Database.Records (db : Database) (period : Period) : Prop :=
  (∀ card ∈ db.cardsOf period.id, ((db.entriesOf period.id).filter fun entry =>
      entry.sourceType = .timeCard ∧ entry.sourceId = card.id).length = 1) ∧
    (∀ entry ∈ db.entriesOf period.id, entry.sourceType = .timeCard →
      ∃ card ∈ db.cardsOf period.id, ∃ row ∈ db.approvals,
        Database.SnapshotsCard entry card row ∧ row.decidedByUserId ≠ card.userId) ∧
    ∃ lock, period.lock = some lock ∧
      lock.lockedEntryCount = (db.entriesOf period.id).length ∧
      lock.totalPayableMinutes = ((db.entriesOf period.id).map (·.payableMinutes)).sum

theorem Sound.nodup_entriesOf {db : Database} (hsound : Sound db) (periodId : String) :
    (db.entriesOf periodId).Nodup :=
  (List.Nodup.of_map _ hsound.entryIds).filter _

theorem Sound.records {db : Database} (hsound : Sound db) {period : Period}
    (hmem : period ∈ db.periods) (hlocked : period.status = .locked) : db.Records period := by
  refine ⟨?_, ?_, ?_⟩
  · intro card hcard
    obtain ⟨entry, hentry, htype, hid⟩ := hsound.complete period hmem hlocked card hcard
    rw [eq_singleton_of_nodup ((hsound.nodup_entriesOf period.id).filter _)
      (List.mem_filter.mpr ⟨hentry, by simp [htype, hid]⟩) ?_]
    · rfl
    · intro other hother
      simp only [List.mem_filter, decide_eq_true_iff] at hother
      obtain ⟨hother, hother_type, hother_id⟩ := hother
      exact hsound.sources other (mem_entriesOf.mp hother).1 entry (mem_entriesOf.mp hentry).1
        (hother_type.trans htype.symm) (hother_id.trans hid.symm)
  · intro entry hentry htype
    obtain ⟨hentry, hperiod⟩ := mem_entriesOf.mp hentry
    have hsource := hsound.snapshots entry hentry
    rw [Database.SnapshotsSource, htype] at hsource
    obtain ⟨card, hcard, row, hrow, hsnapshot⟩ := hsource
    refine ⟨card, mem_cardsOf.mpr ⟨hcard, ?_⟩, row, hrow, hsnapshot, ?_⟩
    · rw [hsnapshot.2.1, hperiod]
    · exact (hsound.approvers row hrow card hcard hsnapshot.2.2.2.2.2.1.symm).symm
  · obtain ⟨lock, hlock, hcount, hsum⟩ := hsound.totals period hmem hlocked
    exact ⟨lock, hlock, hcount.symm, hsum.symm⟩

/-- The payroll lock state machine.  In every run each period moves by at most
one step of its life at a time, one revision a step; what a period owns when it
is locked stays as it is in every later state; the entries of a locked period
record its cards faithfully; and no card or amendment has two entries, of one
period or of two. -/
theorem payroll_lock_state_machine (locations : List Location) (events : List Event) :
    (∀ t ∈ trace (step zones hashes) (.initial locations) events,
      (∀ period ∈ t.before.periods, ∃ next ∈ t.after.periods, period.Moves next) ∧
      (∀ period ∈ t.before.periods, period.status = .locked →
        t.before.Keeps (final (step zones hashes) (.initial locations) events) period)) ∧
    (∀ period ∈ (final (step zones hashes) (.initial locations) events).periods,
      period.revision = period.status.stage ∧ (period.status = .locked →
        (final (step zones hashes) (.initial locations) events).Records period)) ∧
    (∀ first ∈ (final (step zones hashes) (.initial locations) events).entries,
      ∀ second ∈ (final (step zones hashes) (.initial locations) events).entries,
        first.sourceType = second.sourceType → first.sourceId = second.sourceId →
        first = second) := by
  have hfinal := sound_final zones hashes locations events
  refine ⟨?_, ?_, hfinal.sources⟩
  · intro t ht
    obtain ⟨hsound, heq⟩ := invariant_of_mem_trace Sound
      (fun _ event hsound => (step_spec zones hashes hsound event).1) (sound_initial locations) ht
    obtain ⟨hnext, hmoves, hkept⟩ := step_spec zones hashes hsound t.request
    have hafter : t.after = (step zones hashes t.before t.request).2 := by
      rw [heq]
      rfl
    rw [← hafter] at hnext hmoves hkept
    refine ⟨hmoves, fun period hmem hlocked => ?_⟩
    have hkeeps := hkept period hmem hlocked
    have hrest : Follows t.after (final (step zones hashes) (.initial locations) events) :=
      related_of_mem_trace Follows Follows.refl Follows.trans (follows_step zones hashes) ht
    exact hkeeps.trans ((hrest hnext).2 period hkeeps.1 hlocked)
  · exact fun period hmem => ⟨hfinal.stages period hmem,
      fun hlocked => hfinal.records hmem hlocked⟩

end Runs

/-! ## A tenant in UTC

The data of the concrete runs below and in the modules that follow: every time
zone is UTC, every digest is zero, and an event happens on a day of 1970. -/

namespace Sample

def zones : Zones := ⟨fun _ => true, fun _ _ => 0⟩

def digest : Sha256 :=
  ⟨"0000000000000000000000000000000000000000000000000000000000000000", by decide⟩

def hashes : Hashes := ⟨fun _ _ => digest, fun _ _ _ => digest⟩

def identity (operationId : String) : RequestIdentity := ⟨operationId, digest⟩

def site : Location := ⟨"site", "UTC"⟩

/-- An instant: a day, an hour and a second of it. -/
def instant (day hour second : Int) : Int := day * dayMs + hour * 3600000 + second * 1000

def onDay (day : Int) (command : Command) : Event := ⟨day * dayMs, true, command⟩

/-- The state after some events. -/
def after (events : List Event) : Database := final (step zones hashes) (.initial [site]) events

/-- A weekly policy from day 0, and its first two periods. -/
def calendar : List Event := [
  onDay 0 (.createPolicy (identity "policy") "policy" ⟨"UTC", .weekly, 0, 0⟩),
  onDay 0 (.createPeriod (identity "first") "first" 0),
  onDay 0 (.createPeriod (identity "second") "second" 7)]

/-- A manager clocks the worker in on day 1 at eight and out after the given
seconds, with the default break. -/
def worked (seconds : Int) : List Event := [
  onDay 2 (.clockIn ⟨"card", "manager", "worker", true, true, some site, none,
    some (instant 1 8 0), none, "clock-in", "clock-in"⟩),
  onDay 2 (.clockOut ⟨"card", "manager", true, some (instant 1 8 seconds), none, none⟩)]

/-- The manager reviews the first period and decides on the card. -/
def decided (decision : Decision) : List Event := [
  onDay 8 (.startReview (identity "review") "manager" "first" 0),
  onDay 8 (.decideCards (identity "decide") (fun cardId _ => cardId) "manager" "first"
    [⟨"card", 2, decision⟩])]

/-- The manager locks the first period. -/
def lockFirst : Event :=
  onDay 8 (.lockPeriod (identity "lock") (fun _ => "entry") "manager" "first" 1)

/-- A day of work is approved and locked. -/
example : (after (calendar ++ worked 28800 ++ decided .approved ++ [lockFirst])).PeriodIs
    "first" .locked := by
  decide +kernel

end Sample

end LunchLineup.Payroll
