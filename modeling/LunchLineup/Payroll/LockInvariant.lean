import LunchLineup.Payroll.Transactions

/-!
# The life of a payroll period

`Sound` collects what holds of the tables between transactions: keys are
distinct, the revision of a period counts the steps of its life, an entry belongs
to a locked period and snapshots an approved source, no source has two entries,
and a locked period has an entry for each of its cards and the totals of its
entries.  Every statement keeps it (`Sound.statement`), and so does a locking
(`Locking.sound`), where the entries and the status arrive together.

What a locked period owns is its cards, their breaks and its entries.
`Keeps` says that a later state has all of it unchanged; the triggers refuse any
statement that would touch it (`keeps_of_statement`).
-/

namespace LunchLineup.Payroll

open LunchLineup.Lib LunchLineup.Billing

/-! ## What a period owns -/

namespace Database

variable (db : Database)

/-- The cards of a period. -/
def cardsOf (periodId : String) : List TimeCard :=
  db.cards.filter (·.payrollPeriodId = some periodId)

/-- The breaks of the cards of a period. -/
def cardBreaksOf (periodId : String) : List TimeCardBreak :=
  db.breaks.filter fun interval => interval.timeCardId ∈ (db.cardsOf periodId).map (·.id)

/-- The later state has the period, its cards, their breaks and its entries as
they are. -/
def Keeps (db' : Database) (period : Period) : Prop :=
  period ∈ db'.periods ∧ db'.cardsOf period.id = db.cardsOf period.id ∧
    db'.cardBreaksOf period.id = db.cardBreaksOf period.id ∧
    db'.entriesOf period.id = db.entriesOf period.id

end Database

/-- The revision a period has in each status. -/
def PeriodStatus.stage : PeriodStatus → Int
  | .opened => 0
  | .review => 1
  | .locked => 2

/-- One step in the life of a period: nothing, or the next status with the next
revision. -/
def Period.Moves (old new : Period) : Prop :=
  new = old ∨ (old.SameSnapshot new ∧ new.revision = old.revision + 1 ∧
    ((old.status = .opened ∧ new.status = .review) ∨
      (old.status = .review ∧ new.status = .locked)))

/-! ## The invariant -/

/-- What holds of the tables between transactions. -/
structure Sound (db : Database) : Prop where
  periodIds : (db.periods.map (·.id)).Nodup
  cardIds : (db.cards.map (·.id)).Nodup
  entryIds : (db.entries.map (·.id)).Nodup
  amendmentIds : (db.amendments.map (·.id)).Nodup
  stages : ∀ period ∈ db.periods, period.revision = period.status.stage
  cardValues : ∀ card ∈ db.cards, card.ValuesValid
  entryValues : ∀ entry ∈ db.entries, entry.ValuesValid
  approvalCards : ∀ row ∈ db.approvals, ∃ card ∈ db.cards, card.id = row.timeCardId
  approvers : ∀ row ∈ db.approvals, ∀ card ∈ db.cards, card.id = row.timeCardId →
    card.userId ≠ row.decidedByUserId
  entryLocked : ∀ entry ∈ db.entries, db.PeriodIs entry.periodId .locked
  snapshots : ∀ entry ∈ db.entries, db.SnapshotsSource entry
  sources : ∀ first ∈ db.entries, ∀ second ∈ db.entries, first.sourceType = second.sourceType →
    first.sourceId = second.sourceId → first = second
  complete : ∀ period ∈ db.periods, period.status = .locked →
    ∀ card ∈ db.cardsOf period.id, ∃ entry ∈ db.entriesOf period.id,
      entry.sourceType = .timeCard ∧ entry.sourceId = card.id
  totals : ∀ period ∈ db.periods, period.status = .locked → ∃ lock, period.lock = some lock ∧
    ((db.entriesOf period.id).length : Int) = lock.lockedEntryCount ∧
    ((db.entriesOf period.id).map (·.payableMinutes)).sum = lock.totalPayableMinutes

theorem sound_initial (locations : List Location) : Sound (Database.initial locations) := by
  constructor <;> simp [Database.initial]

section Reading

variable {db : Database}

/-- Periods with the same id are the same row, so they have one status. -/
theorem Sound.status_unique (hsound : Sound db) {first second : Period}
    (hfirst : first ∈ db.periods) (hsecond : second ∈ db.periods) (heq : first.id = second.id) :
    first.status = second.status := by
  rw [eq_of_key hsound.periodIds hfirst hsecond heq]

/-- A card that may be written is not one of a locked period. -/
theorem Sound.payrollPeriodId_ne (hsound : Sound db) {card : TimeCard} {period : Period}
    (hassign : db.Assignable card) (hmem : period ∈ db.periods) (hlocked : period.status = .locked) :
    card.payrollPeriodId ≠ some period.id := by
  intro heq
  obtain ⟨other, hother, hid, hstatus, _⟩ := hassign period.id heq
  exact hstatus ((hsound.status_unique hother hmem hid).trans hlocked)

/-- A locked period that owns the card puts it under lock. -/
theorem underLock_of_owner {card : TimeCard} {period : Period} (hmem : period ∈ db.periods)
    (hlocked : period.status = .locked) (howner : card.payrollPeriodId = some period.id) :
    db.UnderLock card :=
  ⟨period, hmem, hlocked, .inl howner.symm⟩

theorem mem_cardsOf {periodId : String} {card : TimeCard} :
    card ∈ db.cardsOf periodId ↔ card ∈ db.cards ∧ card.payrollPeriodId = some periodId := by
  simp [Database.cardsOf]

theorem mem_entriesOf {periodId : String} {entry : LockedEntry} :
    entry ∈ db.entriesOf periodId ↔ entry ∈ db.entries ∧ entry.periodId = periodId := by
  simp [Database.entriesOf]

/-- The snapshot of an approved source stays one when the tables it reads only
grow. -/
theorem snapshotsSource_mono {db' : Database} {entry : LockedEntry}
    (hcards : ∀ card ∈ db.cards, card.payrollPeriodId = some entry.periodId → card ∈ db'.cards)
    (happrovals : ∀ row ∈ db.approvals, row ∈ db'.approvals)
    (hamendments : ∀ amendment ∈ db.amendments, amendment ∈ db'.amendments)
    (hdecisions : ∀ row ∈ db.decisions, row ∈ db'.decisions)
    (hentries : ∀ other ∈ db.entries, other ∈ db'.entries)
    (h : db.SnapshotsSource entry) : db'.SnapshotsSource entry := by
  unfold Database.SnapshotsSource at h ⊢
  split at h
  · obtain ⟨card, hcard, row, hrow, hsnapshot⟩ := h
    exact ⟨card, hcards card hcard hsnapshot.2.1, row, happrovals row hrow, hsnapshot⟩
  · obtain ⟨amendment, hamendment, row, hrow, original, horiginal, hsnapshot⟩ := h
    exact ⟨amendment, hamendments _ hamendment, row, hdecisions row hrow, original,
      hentries original horiginal, hsnapshot⟩

end Reading

/-! ## Statements keep the invariant -/

section Statement

variable {db db' : Database}

theorem Sound.periodInserted (hsound : Sound db) {period : Period}
    (hopened : period.status = .opened) (hrevision : period.revision = 0)
    (hfresh : ∀ other ∈ db.periods, other.id ≠ period.id) :
    Sound { db with periods := db.periods ++ [period] } where
  periodIds := nodup_keys_append hsound.periodIds hfresh
  cardIds := hsound.cardIds
  entryIds := hsound.entryIds
  amendmentIds := hsound.amendmentIds
  stages := by
    intro other hother
    rcases List.mem_append.mp hother with hother | hother
    · exact hsound.stages other hother
    · rw [List.mem_singleton.mp hother, hopened]
      exact hrevision
  cardValues := hsound.cardValues
  entryValues := hsound.entryValues
  approvalCards := hsound.approvalCards
  approvers := hsound.approvers
  entryLocked := by
    intro entry hentry
    obtain ⟨other, hother, hid⟩ := hsound.entryLocked entry hentry
    exact ⟨other, List.mem_append_left _ hother, hid⟩
  snapshots := hsound.snapshots
  sources := hsound.sources
  complete := by
    intro other hother hlocked
    rcases List.mem_append.mp hother with hother | hother
    · exact hsound.complete other hother hlocked
    · rw [List.mem_singleton.mp hother, hopened] at hlocked
      cases hlocked
  totals := by
    intro other hother hlocked
    rcases List.mem_append.mp hother with hother | hother
    · exact hsound.totals other hother hlocked
    · rw [List.mem_singleton.mp hother, hopened] at hlocked
      cases hlocked

/-- A period that leaves `OPEN` for `REVIEW` was not locked, and neither is its
new row. -/
theorem Sound.periodReviewed (hsound : Sound db) {old new : Period} (hmem : old ∈ db.periods)
    (hopened : old.status = .opened) (hid : new.id = old.id) (hreview : new.status = .review)
    (hrevision : new.revision = old.revision + 1) : Sound (db.replacePeriod new) where
  periodIds := by
    rw [Database.replacePeriod, keys_replaceRow]
    exact hsound.periodIds
  cardIds := hsound.cardIds
  entryIds := hsound.entryIds
  amendmentIds := hsound.amendmentIds
  stages := by
    intro other hother
    rcases mem_replaceRow hother with rfl | ⟨hother, _⟩
    · rw [hrevision, hsound.stages old hmem, hopened, hreview]
      rfl
    · exact hsound.stages other hother
  cardValues := hsound.cardValues
  entryValues := hsound.entryValues
  approvalCards := hsound.approvalCards
  approvers := hsound.approvers
  entryLocked := by
    intro entry hentry
    obtain ⟨other, hother, hother_id, hlocked⟩ := hsound.entryLocked entry hentry
    refine ⟨other, mem_replaceRow_of_ne hother ?_, hother_id, hlocked⟩
    intro heq
    have hstatus := hsound.status_unique hother hmem (heq.trans hid)
    rw [hlocked, hopened] at hstatus
    cases hstatus
  snapshots := hsound.snapshots
  sources := hsound.sources
  complete := by
    intro other hother hlocked
    rcases mem_replaceRow hother with rfl | ⟨hother, _⟩
    · rw [hreview] at hlocked
      cases hlocked
    · exact hsound.complete other hother hlocked
  totals := by
    intro other hother hlocked
    rcases mem_replaceRow hother with rfl | ⟨hother, _⟩
    · rw [hreview] at hlocked
      cases hlocked
    · exact hsound.totals other hother hlocked

theorem Sound.cardInserted (hsound : Sound db) {card : TimeCard} (hassign : db.Assignable card)
    (hvalues : card.ValuesValid) (hfresh : ∀ other ∈ db.cards, other.id ≠ card.id) :
    Sound { db with cards := db.cards ++ [card] } where
  periodIds := hsound.periodIds
  cardIds := nodup_keys_append hsound.cardIds hfresh
  entryIds := hsound.entryIds
  amendmentIds := hsound.amendmentIds
  stages := hsound.stages
  cardValues := by
    intro other hother
    rcases List.mem_append.mp hother with hother | hother
    · exact hsound.cardValues other hother
    · rw [List.mem_singleton.mp hother]
      exact hvalues
  entryValues := hsound.entryValues
  approvalCards := by
    intro row hrow
    obtain ⟨other, hother, hid⟩ := hsound.approvalCards row hrow
    exact ⟨other, List.mem_append_left _ hother, hid⟩
  approvers := by
    intro row hrow other hother hid
    rcases List.mem_append.mp hother with hother | hother
    · exact hsound.approvers row hrow other hother hid
    · -- The decision was about a card with this id, so the id is not fresh.
      obtain ⟨known, hknown, hknown_id⟩ := hsound.approvalCards row hrow
      rw [List.mem_singleton.mp hother] at hid
      exact absurd (hknown_id.trans hid.symm) (hfresh known hknown)
  entryLocked := hsound.entryLocked
  snapshots := by
    intro entry hentry
    refine snapshotsSource_mono ?_ ?_ ?_ ?_ ?_ (hsound.snapshots entry hentry)
    · intro other hother _
      exact List.mem_append_left _ hother
    all_goals exact fun _ h => h
  sources := hsound.sources
  complete := by
    intro period hperiod hlocked other hother
    obtain ⟨hother, howner⟩ := mem_cardsOf.mp hother
    rcases List.mem_append.mp hother with hother | hother
    · exact hsound.complete period hperiod hlocked other (mem_cardsOf.mpr ⟨hother, howner⟩)
    · rw [List.mem_singleton.mp hother] at howner
      exact absurd howner (hsound.payrollPeriodId_ne hassign hperiod hlocked)
  totals := hsound.totals

theorem Sound.cardUpdated (hsound : Sound db) {old new : TimeCard} (hmem : old ∈ db.cards)
    (hid : new.id = old.id) (huser : new.userId = old.userId) (hold : ¬ db.UnderLock old)
    (hnew : ¬ db.UnderLock new) (hvalues : new.ValuesValid) : Sound (db.replaceCard new) where
  periodIds := hsound.periodIds
  cardIds := by
    rw [Database.replaceCard, keys_replaceRow]
    exact hsound.cardIds
  entryIds := hsound.entryIds
  amendmentIds := hsound.amendmentIds
  stages := hsound.stages
  cardValues := by
    intro card hcard
    rcases mem_replaceRow hcard with rfl | ⟨hcard, _⟩
    · exact hvalues
    · exact hsound.cardValues card hcard
  entryValues := hsound.entryValues
  approvalCards := by
    intro row hrow
    obtain ⟨card, hcard, hcard_id⟩ := hsound.approvalCards row hrow
    by_cases heq : card.id = new.id
    · exact ⟨new, new_mem_replaceRow hmem hid.symm, heq.symm.trans hcard_id⟩
    · exact ⟨card, mem_replaceRow_of_ne hcard heq, hcard_id⟩
  approvers := by
    intro row hrow card hcard hcard_id
    rcases mem_replaceRow hcard with rfl | ⟨hcard, _⟩
    · rw [huser]
      exact hsound.approvers row hrow old hmem (hid.symm.trans hcard_id)
    · exact hsound.approvers row hrow card hcard hcard_id
  entryLocked := hsound.entryLocked
  snapshots := by
    intro entry hentry
    refine snapshotsSource_mono ?_ ?_ ?_ ?_ ?_ (hsound.snapshots entry hentry)
    · intro card hcard howner
      refine mem_replaceRow_of_ne hcard ?_
      intro heq
      -- The card of an entry is under lock, and the written one was not.
      rw [eq_of_key hsound.cardIds hcard hmem (heq.trans hid)] at howner
      obtain ⟨period, hperiod, hperiod_id, hlocked⟩ := hsound.entryLocked entry hentry
      rw [← hperiod_id] at howner
      exact hold (underLock_of_owner hperiod hlocked howner)
    all_goals exact fun _ h => h
  sources := hsound.sources
  complete := by
    intro period hperiod hlocked card hcard
    obtain ⟨hcard, howner⟩ := mem_cardsOf.mp hcard
    rcases mem_replaceRow hcard with rfl | ⟨hcard, _⟩
    · exact absurd (underLock_of_owner hperiod hlocked howner) hnew
    · exact hsound.complete period hperiod hlocked card (mem_cardsOf.mpr ⟨hcard, howner⟩)
  totals := hsound.totals

theorem Sound.approved (hsound : Sound db) {row : Approval}
    (hcard : ∃ card ∈ db.cards, card.id = row.timeCardId)
    (hother : ∀ card ∈ db.cards, card.id = row.timeCardId → card.userId ≠ row.decidedByUserId) :
    Sound { db with approvals := db.approvals ++ [row] } where
  periodIds := hsound.periodIds
  cardIds := hsound.cardIds
  entryIds := hsound.entryIds
  amendmentIds := hsound.amendmentIds
  stages := hsound.stages
  cardValues := hsound.cardValues
  entryValues := hsound.entryValues
  approvalCards := by
    intro known hknown
    rcases List.mem_append.mp hknown with hknown | hknown
    · exact hsound.approvalCards known hknown
    · rw [List.mem_singleton.mp hknown]
      exact hcard
  approvers := by
    intro known hknown
    rcases List.mem_append.mp hknown with hknown | hknown
    · exact hsound.approvers known hknown
    · rw [List.mem_singleton.mp hknown]
      exact hother
  entryLocked := hsound.entryLocked
  snapshots := by
    intro entry hentry
    refine snapshotsSource_mono ?_ ?_ ?_ ?_ ?_ (hsound.snapshots entry hentry)
    · exact fun _ h _ => h
    · exact fun _ h => List.mem_append_left _ h
    all_goals exact fun _ h => h
  sources := hsound.sources
  complete := hsound.complete
  totals := hsound.totals

/-- A statement that leaves periods, cards, approvals and entries alone, and
only adds amendments and decisions. -/
theorem Sound.amended (hsound : Sound db) (hperiods : db'.periods = db.periods)
    (hcards : db'.cards = db.cards) (happrovals : db'.approvals = db.approvals)
    (hentries : db'.entries = db.entries)
    (hamendments : ∀ amendment ∈ db.amendments, amendment ∈ db'.amendments)
    (hids : (db'.amendments.map (·.id)).Nodup)
    (hdecisions : ∀ row ∈ db.decisions, row ∈ db'.decisions) : Sound db' where
  periodIds := hperiods ▸ hsound.periodIds
  cardIds := hcards ▸ hsound.cardIds
  entryIds := hentries ▸ hsound.entryIds
  amendmentIds := hids
  stages := hperiods ▸ hsound.stages
  cardValues := hcards ▸ hsound.cardValues
  entryValues := hentries ▸ hsound.entryValues
  approvalCards := by
    rw [happrovals, hcards]
    exact hsound.approvalCards
  approvers := by
    rw [happrovals, hcards]
    exact hsound.approvers
  entryLocked := by
    simp only [Database.PeriodIs, hperiods, hentries]
    exact hsound.entryLocked
  snapshots := by
    rw [hentries]
    intro entry hentry
    refine snapshotsSource_mono ?_ ?_ hamendments hdecisions ?_ (hsound.snapshots entry hentry)
    · exact fun _ h _ => hcards ▸ h
    · exact fun _ h => happrovals ▸ h
    · exact fun _ h => hentries ▸ h
  sources := hentries ▸ hsound.sources
  complete := by
    simp only [Database.cardsOf, Database.entriesOf, hperiods, hcards, hentries]
    exact hsound.complete
  totals := by
    simp only [Database.entriesOf, hperiods, hentries]
    exact hsound.totals

/-- A statement on a table that the invariant does not read. -/
theorem Sound.elsewhere (hsound : Sound db) (hperiods : db'.periods = db.periods)
    (hcards : db'.cards = db.cards) (happrovals : db'.approvals = db.approvals)
    (hentries : db'.entries = db.entries) (hamendments : db'.amendments = db.amendments)
    (hdecisions : db'.decisions = db.decisions) : Sound db' := by
  refine hsound.amended hperiods hcards happrovals hentries ?_ ?_ ?_
  · rw [hamendments]
    exact fun _ h => h
  · rw [hamendments]
    exact hsound.amendmentIds
  · rw [hdecisions]
    exact fun _ h => h

theorem Sound.statement (hsound : Sound db) (h : Statement db db') : Sound db' := by
  cases h with
  | locations rows => exact hsound.elsewhere rfl rfl rfl rfl rfl rfl
  | operation h =>
      rw [Database.insertOperation_ok h]
      exact hsound.elsewhere rfl rfl rfl rfl rfl rfl
  | review hmem hopened h =>
      obtain ⟨_, hrevision, _, _, rfl⟩ := Database.updatePeriod_ok h
      exact hsound.periodReviewed hmem hopened rfl rfl hrevision
  | card h =>
      obtain ⟨hassign, hvalues, hfresh, rfl⟩ := Database.insertTimeCard_ok h
      exact hsound.cardInserted hassign hvalues hfresh
  | cardUpdate hmem hid huser h =>
      obtain ⟨_, _, hold, hnew, _, hvalues, rfl⟩ := Database.updateTimeCard_ok h
      exact hsound.cardUpdated hmem hid huser hold hnew hvalues
  | deleteBreaks h =>
      obtain ⟨_, rfl⟩ := Database.deleteBreaks_ok h
      exact hsound.elsewhere rfl rfl rfl rfl rfl rfl
  | insertBreak h =>
      obtain ⟨_, rfl⟩ := Database.insertBreak_ok h
      exact hsound.elsewhere rfl rfl rfl rfl rfl rfl
  | approval h =>
      obtain ⟨hother, hcard, _, rfl⟩ := Database.insertApproval_ok h
      exact hsound.approved hcard hother
  | amendment h =>
      obtain ⟨_, _, _, hfresh, rfl⟩ := Database.insertAmendment_ok h
      exact hsound.amended rfl rfl rfl rfl (fun _ h => List.mem_append_left _ h)
        (nodup_keys_append hsound.amendmentIds hfresh) (fun _ h => h)
  | decision h =>
      obtain ⟨_, _, rfl⟩ := Database.insertDecision_ok h
      exact hsound.amended rfl rfl rfl rfl (fun _ h => h) hsound.amendmentIds
        (fun _ h => List.mem_append_left _ h)

theorem Sound.statements (hsound : Sound db) (h : Statements db db') : Sound db' := by
  induction h with
  | refl => exact hsound
  | tail _ hlast ih => exact ih.statement hlast

end Statement

/-! ## A locking keeps the invariant -/

section Locking

variable {zones : Zones} {hashes : Hashes} {db db' : Database}

/-- The accepted inserts append the entries; each snapshots its source, and none
repeats an id, or a source within its period. -/
theorem insertLockedEntries_ok {entries : List LockedEntry}
    (h : db.insertLockedEntries entries = .ok db') :
    db' = { db with entries := db.entries ++ entries } ∧
      (∀ entry ∈ entries, db'.SnapshotsSource entry ∧ entry.ValuesValid) ∧
      ((db.entries.map (·.id)).Nodup → (db'.entries.map (·.id)).Nodup) ∧
      (∀ first ∈ db'.entries, ∀ second ∈ entries, first.periodId = second.periodId →
        first.sourceType = second.sourceType → first.sourceId = second.sourceId →
        first = second) := by
  induction entries generalizing db with
  | nil =>
      obtain rfl := Except.ok.inj h
      simp
  | cons entry rest ih =>
      obtain ⟨middle, hinsert, hrest⟩ := bind_eq_ok.mp h
      obtain ⟨hsource, hvalues, hfresh, hunique, rfl⟩ := Database.insertLockedEntry_ok hinsert
      obtain ⟨hdb, hsnapshots, hids, hsame⟩ := ih hrest
      have hentries : db'.entries = db.entries ++ entry :: rest := by
        rw [hdb]
        simp
      refine ⟨by rw [hdb]; simp, ?_, ?_, ?_⟩
      · intro other hother
        rcases List.mem_cons.mp hother with rfl | hother
        · refine ⟨?_, hvalues⟩
          refine snapshotsSource_mono ?_ ?_ ?_ ?_ ?_ hsource
          all_goals rw [hdb]
          · exact fun _ h _ => h
          iterate 3 exact fun _ h => h
          exact fun _ h => List.mem_append_left _ (List.mem_append_left _ h)
        · exact hsnapshots other hother
      · exact fun hnodup => hids (nodup_keys_append hnodup hfresh)
      · intro first hfirst second hsecond hperiod htype hid
        rcases List.mem_cons.mp hsecond with rfl | hsecond
        · -- The first entry of the list: earlier rows differ by the unique index, later
          -- ones by their own insert.
          rw [hentries] at hfirst
          rcases List.mem_append.mp hfirst with hfirst | hfirst
          · exact absurd ⟨htype, hid⟩ (hunique first hfirst hperiod)
          · rcases List.mem_cons.mp hfirst with rfl | hfirst
            · rfl
            · refine (hsame second ?_ first hfirst hperiod.symm htype.symm hid.symm).symm
              rw [hentries]
              simp
        · exact hsame first hfirst second hsecond hperiod htype hid

/-- A source becomes an entry of the period, at some position. -/
theorem exists_entry_of_source {newId : Nat → String} {periodId : String}
    {sources : List LockedEntrySource} {source : LockedEntrySource} (hsource : source ∈ sources) :
    ∃ sequence, source.entry hashes (newId sequence) periodId sequence ∈
      materializeLockedSnapshots hashes newId periodId sources := by
  have hsorted : source ∈ sources.mergeSort LockedEntrySource.before :=
    List.mem_mergeSort.mpr hsource
  obtain ⟨sequence, hget⟩ := List.mem_iff_getElem?.mp hsorted
  refine ⟨sequence, List.mem_map.mpr ⟨(source, sequence), ?_, rfl⟩⟩
  exact List.mk_mem_zipIdx_iff_getElem?.mpr hget

/-- Every entry comes from a source. -/
theorem exists_source_of_entry {newId : Nat → String} {periodId : String}
    {sources : List LockedEntrySource} {entry : LockedEntry}
    (hentry : entry ∈ materializeLockedSnapshots hashes newId periodId sources) :
    ∃ source ∈ sources, ∃ sequence,
      entry = source.entry hashes (newId sequence) periodId sequence := by
  obtain ⟨⟨source, sequence⟩, hmem, rfl⟩ := List.mem_map.mp hentry
  refine ⟨source, ?_, sequence, rfl⟩
  have hget := List.mk_mem_zipIdx_iff_getElem?.mp hmem
  exact List.mem_mergeSort.mp (List.mem_of_getElem? hget)

/-- The source of a card carries its id, its current revision and the decision
that approved it. -/
theorem approvedCardSource_ok {periodId : String} {card : TimeCard} {source : LockedEntrySource}
    (h : db.approvedCardSource periodId card = .ok source) :
    source.sourceType = .timeCard ∧ source.sourceId = card.id := by
  unfold Database.approvedCardSource at h
  split at h
  · simp only [bind_eq_ok, ensure_eq_ok] at h
    obtain ⟨_, _, payableMinutes, _, h⟩ := h
    obtain rfl := Except.ok.inj h
    exact ⟨rfl, rfl⟩
  · cases h

/-- Validation returns the assigned cards of the candidates. -/
theorem validatePayrollCandidateCards_ok {candidates cards : List TimeCard} {period : Period}
    (h : zones.validatePayrollCandidateCards candidates period = .ok cards) :
    cards = candidates.filter (fun card => card.payrollPeriodId = some period.id) ∧
      (∀ card ∈ candidates, card.payrollPeriodId = some period.id ∧ card.status ≠ .opened ∧
        card.deletedAt = none) ∧
      ∀ card ∈ cards, period.Holds card := by
  simp only [Zones.validatePayrollCandidateCards, bind_eq_ok, ensure_eq_ok] at h
  obtain ⟨_, hopen, _, hvalid, _, hassigned, _, hholds, _, _, _, _, h⟩ := h
  obtain rfl := Except.ok.inj h
  exact ⟨rfl, fun card hcard => ⟨hassigned card hcard, hopen card hcard, (hvalid card hcard).2⟩,
    hholds⟩

theorem lockPayrollCandidateCards_ok {period : Period} {candidates : List TimeCard}
    (h : db.lockPayrollCandidateCards period = .ok candidates) :
    candidates = db.cards.filter fun card => period.Candidate card := by
  simp only [Database.lockPayrollCandidateCards, bind_eq_ok, ensure_eq_ok] at h
  obtain ⟨_, _, h⟩ := h
  exact (Except.ok.inj h).symm

namespace Locking

variable (locking : Locking zones hashes db db')

/-- The entries that the locking inserts. -/
def entries : List LockedEntry :=
  materializeLockedSnapshots hashes locking.newId locking.period.id
    (locking.cardSources ++ locking.amendmentSources)

/-- The row of the locked period. -/
def lockedPeriod : Period := locking.period.lockedAs locking.lock

include locking

theorem db_eq : db' = { db with
    periods := replaceRow (·.id) db.periods locking.lockedPeriod
    entries := db.entries ++ locking.entries } := by
  obtain ⟨_, _, _, _, hupdated⟩ := Database.updatePeriod_ok locking.updated
  refine hupdated.trans ?_
  rw [(insertLockedEntries_ok locking.inserted).1]
  rfl

theorem periods_eq : db'.periods = replaceRow (·.id) db.periods locking.lockedPeriod :=
  congrArg Database.periods locking.db_eq

theorem entries_eq : db'.entries = db.entries ++ locking.entries :=
  congrArg Database.entries locking.db_eq

theorem cards_eq : db'.cards = db.cards := by
  rw [congrArg Database.cards locking.db_eq]

theorem approvals_eq : db'.approvals = db.approvals := by
  rw [congrArg Database.approvals locking.db_eq]

theorem amendments_eq : db'.amendments = db.amendments := by
  rw [congrArg Database.amendments locking.db_eq]

theorem decisions_eq : db'.decisions = db.decisions := by
  rw [congrArg Database.decisions locking.db_eq]

theorem periodId_of_mem {entry : LockedEntry} (hentry : entry ∈ locking.entries) :
    entry.periodId = locking.period.id := by
  obtain ⟨source, _, sequence, rfl⟩ := exists_source_of_entry hentry
  rfl

/-- Each card of the period is among the cards that were locked. -/
theorem mem_cards {card : TimeCard} (hcard : card ∈ db.cardsOf locking.period.id) :
    card ∈ locking.cards := by
  obtain ⟨hcard, howner⟩ := mem_cardsOf.mp hcard
  rw [(validatePayrollCandidateCards_ok locking.validated).1,
    lockPayrollCandidateCards_ok locking.read]
  simp [hcard, howner, Period.Candidate]

/-- Each card of the period gets an entry. -/
theorem exists_card_entry {card : TimeCard} (hcard : card ∈ db.cardsOf locking.period.id) :
    ∃ entry ∈ locking.entries, entry.sourceType = .timeCard ∧ entry.sourceId = card.id := by
  obtain ⟨source, hsource, hok⟩ := exists_of_mapM_ok locking.sourced (locking.mem_cards hcard)
  obtain ⟨htype, hid⟩ := approvedCardSource_ok hok
  obtain ⟨sequence, hentry⟩ :=
    exists_entry_of_source (List.mem_append_left locking.amendmentSources hsource)
  exact ⟨_, hentry, htype, hid⟩

/-- The period is not the one a locked row names. -/
theorem ne_of_locked (hsound : Sound db) {other : Period} (hother : other ∈ db.periods)
    (hlocked : other.status = .locked) : other.id ≠ locking.period.id := by
  intro heq
  have hstatus := hsound.status_unique hother locking.mem heq
  rw [hlocked, locking.review] at hstatus
  cases hstatus

/-- An earlier entry is of another period. -/
theorem old_entry_ne (hsound : Sound db) {entry : LockedEntry} (hentry : entry ∈ db.entries) :
    entry.periodId ≠ locking.period.id := by
  obtain ⟨other, hother, hid, hlocked⟩ := hsound.entryLocked entry hentry
  rw [← hid]
  exact locking.ne_of_locked hsound hother hlocked

/-- The entries of an already locked period stay the same. -/
theorem entriesOf_other {periodId : String} (hne : periodId ≠ locking.period.id) :
    db'.entriesOf periodId = db.entriesOf periodId := by
  have hnone : locking.entries.filter (·.periodId = periodId) = [] := by
    rw [List.filter_eq_nil_iff]
    intro entry hentry
    rw [decide_eq_true_iff, locking.periodId_of_mem hentry]
    exact fun heq => hne heq.symm
  rw [Database.entriesOf, Database.entriesOf, locking.entries_eq, List.filter_append, hnone,
    List.append_nil]

/-- The rows of `db'` that were inserted, and the rows that were there. -/
theorem mem_entries {entry : LockedEntry} (hentry : entry ∈ db'.entries) :
    entry ∈ db.entries ∨ entry ∈ locking.entries := by
  rw [locking.entries_eq] at hentry
  exact List.mem_append.mp hentry

/-- Every entry of the state after, old or new, snapshots its source there. -/
theorem snapshots (hsound : Sound db) {entry : LockedEntry} (hentry : entry ∈ db'.entries) :
    db'.SnapshotsSource entry := by
  obtain ⟨hmiddle, hnew, _, _⟩ := insertLockedEntries_ok locking.inserted
  rcases locking.mem_entries hentry with hentry | hentry
  · refine snapshotsSource_mono ?_ ?_ ?_ ?_ ?_ (hsound.snapshots entry hentry)
    · exact fun _ h _ => locking.cards_eq ▸ h
    · exact fun _ h => locking.approvals_eq ▸ h
    · exact fun _ h => locking.amendments_eq ▸ h
    · exact fun _ h => locking.decisions_eq ▸ h
    · exact fun _ h => locking.entries_eq ▸ List.mem_append_left _ h
  · have hsnapshot := (hnew entry hentry).1
    rw [hmiddle] at hsnapshot
    refine snapshotsSource_mono ?_ ?_ ?_ ?_ ?_ hsnapshot
    · exact fun _ h _ => locking.cards_eq ▸ h
    · exact fun _ h => locking.approvals_eq ▸ h
    · exact fun _ h => locking.amendments_eq ▸ h
    · exact fun _ h => locking.decisions_eq ▸ h
    · exact fun _ h => locking.entries_eq ▸ h

/-- The two snapshots of one source are of the same period: a card has one
period and an amendment is filed into one. -/
theorem periodId_eq_of_source (hsound : Sound db) {first second : LockedEntry}
    (hfirst : db'.SnapshotsSource first) (hsecond : db'.SnapshotsSource second)
    (htype : first.sourceType = second.sourceType) (hid : first.sourceId = second.sourceId) :
    first.periodId = second.periodId := by
  unfold Database.SnapshotsSource at hfirst hsecond
  rw [← htype] at hsecond
  split at hfirst
  · rename_i hcard
    rw [hcard] at hsecond
    obtain ⟨card, hmem, _, _, hsnapshot⟩ := hfirst
    obtain ⟨card', hmem', _, _, hsnapshot'⟩ := hsecond
    rw [locking.cards_eq] at hmem hmem'
    have heq : card = card' :=
      eq_of_key hsound.cardIds hmem hmem' (by rw [hsnapshot.1, hsnapshot'.1, hid])
    have hperiod := hsnapshot.2.1
    rw [heq, hsnapshot'.2.1, Option.some.injEq] at hperiod
    exact hperiod.symm
  · rename_i hamendment
    rw [hamendment] at hsecond
    obtain ⟨amendment, hmem, _, _, _, _, hsnapshot⟩ := hfirst
    obtain ⟨amendment', hmem', _, _, _, _, hsnapshot'⟩ := hsecond
    rw [locking.amendments_eq] at hmem hmem'
    have heq : amendment = amendment' :=
      eq_of_key hsound.amendmentIds hmem hmem' (by rw [hsnapshot.1, hsnapshot'.1, hid])
    rw [← hsnapshot.2.1, heq, hsnapshot'.2.1]

theorem sources (hsound : Sound db) {first second : LockedEntry} (hfirst : first ∈ db'.entries)
    (hsecond : second ∈ db'.entries) (htype : first.sourceType = second.sourceType)
    (hid : first.sourceId = second.sourceId) : first = second := by
  obtain ⟨hmiddle, _, _, hunique⟩ := insertLockedEntries_ok locking.inserted
  have hentries : locking.middle.entries = db'.entries := by
    rw [hmiddle, locking.entries_eq]
    rfl
  rw [hentries] at hunique
  have hperiod := locking.periodId_eq_of_source hsound (locking.snapshots hsound hfirst)
    (locking.snapshots hsound hsecond) htype hid
  rcases locking.mem_entries hfirst with hold | hnew
  · rcases locking.mem_entries hsecond with hold' | hnew'
    · exact hsound.sources first hold second hold' htype hid
    · exact hunique first hfirst second hnew' hperiod htype hid
  · exact (hunique second hsecond first hnew hperiod.symm htype.symm hid.symm).symm

theorem sound (hsound : Sound db) : Sound db' where
  periodIds := by
    rw [locking.periods_eq, keys_replaceRow]
    exact hsound.periodIds
  cardIds := locking.cards_eq ▸ hsound.cardIds
  entryIds := by
    obtain ⟨hmiddle, _, hids, _⟩ := insertLockedEntries_ok locking.inserted
    have hnodup := hids hsound.entryIds
    rw [hmiddle] at hnodup
    exact locking.entries_eq ▸ hnodup
  amendmentIds := locking.amendments_eq ▸ hsound.amendmentIds
  stages := by
    intro period hperiod
    rw [locking.periods_eq] at hperiod
    rcases mem_replaceRow hperiod with rfl | ⟨hperiod, _⟩
    · have hstage := hsound.stages locking.period locking.mem
      rw [locking.review] at hstage
      show locking.period.revision + 1 = 2
      rw [hstage]
      rfl
    · exact hsound.stages period hperiod
  cardValues := locking.cards_eq ▸ hsound.cardValues
  entryValues := by
    intro entry hentry
    rcases locking.mem_entries hentry with hentry | hentry
    · exact hsound.entryValues entry hentry
    · exact ((insertLockedEntries_ok locking.inserted).2.1 entry hentry).2
  approvalCards := by
    rw [locking.approvals_eq, locking.cards_eq]
    exact hsound.approvalCards
  approvers := by
    rw [locking.approvals_eq, locking.cards_eq]
    exact hsound.approvers
  entryLocked := by
    intro entry hentry
    rcases locking.mem_entries hentry with hentry | hentry
    · obtain ⟨period, hperiod, hid, hlocked⟩ := hsound.entryLocked entry hentry
      refine ⟨period, ?_, hid, hlocked⟩
      rw [locking.periods_eq]
      exact mem_replaceRow_of_ne hperiod (locking.ne_of_locked hsound hperiod hlocked)
    · refine ⟨locking.lockedPeriod, ?_, (locking.periodId_of_mem hentry).symm, rfl⟩
      rw [locking.periods_eq]
      exact new_mem_replaceRow locking.mem rfl
  snapshots := fun _ hentry => locking.snapshots hsound hentry
  sources := fun _ hfirst _ hsecond => locking.sources hsound hfirst hsecond
  complete := by
    intro period hperiod hlocked card hcard
    rw [locking.periods_eq] at hperiod
    rw [Database.cardsOf, locking.cards_eq, ← Database.cardsOf] at hcard
    rcases mem_replaceRow hperiod with rfl | ⟨hperiod, hne⟩
    · obtain ⟨entry, hentry, hsource⟩ := locking.exists_card_entry hcard
      refine ⟨entry, mem_entriesOf.mpr ⟨?_, locking.periodId_of_mem hentry⟩, hsource⟩
      rw [locking.entries_eq]
      exact List.mem_append_right _ hentry
    · rw [locking.entriesOf_other hne]
      exact hsound.complete period hperiod hlocked card hcard
  totals := by
    intro period hperiod hlocked
    rw [locking.periods_eq] at hperiod
    rcases mem_replaceRow hperiod with rfl | ⟨hperiod, hne⟩
    · obtain ⟨_, _, _, htotals, hdb⟩ := Database.updatePeriod_ok locking.updated
      refine ⟨locking.lock, rfl, ?_⟩
      have hentries : db'.entries = locking.middle.entries := by
        rw [congrArg Database.entries hdb]
        rfl
      rw [Database.entriesOf, hentries]
      exact htotals locking.lock rfl
    · rw [locking.entriesOf_other hne]
      exact hsound.totals period hperiod hlocked

end Locking

/-- Every committed transaction keeps the invariant. -/
theorem Sound.write {event : Event} (hsound : Sound db) (h : Write zones hashes db event db') :
    Sound db' := by
  cases h with
  | statements h => exact hsound.statements h
  | policy _ _ h =>
      rw [Database.insertPolicy_ok h]
      exact hsound.elsewhere rfl rfl rfl rfl rfl rfl
  | period _ _ _ hinsert hoperation =>
      obtain ⟨hfresh, _, rfl⟩ := Database.insertPeriod_ok hinsert
      rw [Database.insertOperation_ok hoperation]
      exact (hsound.periodInserted rfl rfl hfresh).elsewhere rfl rfl rfl rfl rfl rfl
  | locking locking => exact locking.sound hsound

end Locking

end LunchLineup.Payroll
