import LunchLineup.Payroll.PeriodLife

/-!
# Amendments conserve the minutes of an entry

An amendment of a locked entry carries the payable minutes it replaces them
with and their difference to the entry's.  When the period it is filed into is
locked, the difference becomes an entry of that period.  `Conserved` says what
holds between transactions: each amendment has its original, an original has at
most one approved amendment, and an approved amendment of a locked period has
its entry.  The minutes of an original and of the entries of its amendments then
add up to the replacement as soon as that period is locked, and to the
original's until then.
-/

namespace LunchLineup.Payroll

open LunchLineup.Lib LunchLineup.Billing

namespace Database

variable (db : Database)

/-- There is a decision that approves the amendment. -/
def IsApproved (amendment : Amendment) : Prop :=
  ∃ row ∈ db.decisions, row.amendmentId = amendment.id ∧ row.decision = .approved

instance (amendment : Amendment) : Decidable (db.IsApproved amendment) :=
  inferInstanceAs (Decidable (∃ row ∈ db.decisions, _))

/-- The period of the original ends before the period the amendment is filed
into starts. -/
def FiledLater (original : LockedEntry) (amendment : Amendment) : Prop :=
  ∃ source ∈ db.periods, source.id = original.periodId ∧ source.status = .locked ∧
    ∃ adjustment ∈ db.periods, adjustment.id = amendment.adjustmentPeriodId ∧
      source.endsAt ≤ adjustment.startsAt

/-- The entries of one amendment. -/
def entriesOfAmendment (amendmentId : String) : List LockedEntry :=
  db.entries.filter fun entry => entry.sourceType = .amendment ∧ entry.sourceId = amendmentId

/-- The entries of the amendments of one original. -/
def amendmentEntriesOf (originalId : String) : List LockedEntry :=
  db.entries.filter fun entry => entry.sourceType = .amendment ∧
    ∃ amendment ∈ db.amendments, amendment.id = entry.sourceId ∧
      amendment.lockedEntryId = originalId

end Database

/-! ## The invariant -/

/-- What holds of amendments between transactions. -/
structure Conserved (db : Database) : Prop where
  decisionIds : (db.decisions.map (·.amendmentId)).Nodup
  decisionAmendments : ∀ row ∈ db.decisions, ∃ amendment ∈ db.amendments,
    amendment.id = row.amendmentId
  origin : ∀ amendment ∈ db.amendments, ∃ original ∈ db.entries,
    original.id = amendment.lockedEntryId ∧ original.sourceType = .timeCard ∧
      amendment.minuteDelta = amendment.replacementPayableMinutes - original.payableMinutes ∧
      db.FiledLater original amendment
  oneApproved : ∀ first ∈ db.amendments, ∀ second ∈ db.amendments,
    first.lockedEntryId = second.lockedEntryId → db.IsApproved first → db.IsApproved second →
    first = second
  materialized : ∀ period ∈ db.periods, period.status = .locked →
    ∀ amendment ∈ db.amendments, amendment.adjustmentPeriodId = period.id →
      db.IsApproved amendment → ∃ entry ∈ db.entriesOf period.id,
        entry.sourceType = .amendment ∧ entry.sourceId = amendment.id

theorem conserved_initial (locations : List Location) :
    Conserved (Database.initial locations) := by
  constructor <;> simp [Database.initial]

section Steps

variable {db db' : Database}

/-- An amendment stays filed later when periods only move. -/
theorem filedLater_of_moves
    (hmoves : ∀ period ∈ db.periods, ∃ next ∈ db'.periods, period.Moves next)
    (hkept : ∀ period ∈ db.periods, period.status = .locked → period ∈ db'.periods)
    {original : LockedEntry} {amendment : Amendment} (h : db.FiledLater original amendment) :
    db'.FiledLater original amendment := by
  obtain ⟨source, hsource, hsource_id, hlocked, adjustment, hadjustment, hid, horder⟩ := h
  refine ⟨source, hkept source hsource hlocked, hsource_id, hlocked, ?_⟩
  obtain ⟨next, hnext, rfl | ⟨hsnapshot, _⟩⟩ := hmoves adjustment hadjustment
  · exact ⟨next, hnext, hid, horder⟩
  · obtain ⟨hnext_id, _, _, _, hstarts, _⟩ := hsnapshot
    exact ⟨next, hnext, hnext_id.trans hid, hstarts ▸ horder⟩

/-- A transaction that adds no amendment and no decision.  Periods move, entries
are added, and a period that becomes locked has the entries of its approved
amendments. -/
theorem Conserved.moved (hconserved : Conserved db) (hamendments : db'.amendments = db.amendments)
    (hdecisions : db'.decisions = db.decisions) (hentries : ∀ entry ∈ db.entries, entry ∈ db'.entries)
    (hmoves : ∀ period ∈ db.periods, ∃ next ∈ db'.periods, period.Moves next)
    (hkept : ∀ period ∈ db.periods, period.status = .locked → period ∈ db'.periods)
    (hmaterialized : ∀ period ∈ db'.periods, period.status = .locked → period ∈ db.periods ∨
      ∀ amendment ∈ db.amendments, amendment.adjustmentPeriodId = period.id →
        db.IsApproved amendment → ∃ entry ∈ db'.entriesOf period.id,
          entry.sourceType = .amendment ∧ entry.sourceId = amendment.id) : Conserved db' where
  decisionIds := hdecisions ▸ hconserved.decisionIds
  decisionAmendments := by
    rw [hdecisions, hamendments]
    exact hconserved.decisionAmendments
  origin := by
    intro amendment hamendment
    rw [hamendments] at hamendment
    obtain ⟨original, horiginal, hid, htype, hdelta, hlater⟩ :=
      hconserved.origin amendment hamendment
    exact ⟨original, hentries original horiginal, hid, htype, hdelta,
      filedLater_of_moves hmoves hkept hlater⟩
  oneApproved := by
    simp only [Database.IsApproved, hdecisions, hamendments]
    exact hconserved.oneApproved
  materialized := by
    simp only [Database.IsApproved, hdecisions, hamendments]
    intro period hperiod hlocked amendment hamendment hfiled happroved
    rcases hmaterialized period hperiod hlocked with hold | hnew
    · obtain ⟨entry, hentry, hsource⟩ :=
        hconserved.materialized period hold hlocked amendment hamendment hfiled happroved
      obtain ⟨hentry, hentry_period⟩ := mem_entriesOf.mp hentry
      exact ⟨entry, mem_entriesOf.mpr ⟨hentries entry hentry, hentry_period⟩, hsource⟩
    · exact hnew amendment hamendment hfiled happroved

theorem Conserved.amended (hconserved : Conserved db) {amendment : Amendment}
    (hfresh : ∀ other ∈ db.amendments, other.id ≠ amendment.id)
    (horigin : ∃ original ∈ db.entries, original.id = amendment.lockedEntryId ∧
      original.sourceType = .timeCard ∧
      amendment.minuteDelta = amendment.replacementPayableMinutes - original.payableMinutes ∧
      db.FiledLater original amendment) :
    Conserved { db with amendments := db.amendments ++ [amendment] } := by
  -- No decision names the new amendment, whose id is fresh.
  have hundecided : ¬ db.IsApproved amendment := by
    rintro ⟨row, hrow, hid, _⟩
    obtain ⟨known, hknown, hknown_id⟩ := hconserved.decisionAmendments row hrow
    exact hfresh known hknown (hknown_id.trans hid)
  constructor
  · exact hconserved.decisionIds
  · intro row hrow
    obtain ⟨known, hknown, hid⟩ := hconserved.decisionAmendments row hrow
    exact ⟨known, List.mem_append_left _ hknown, hid⟩
  · intro other hother
    rcases List.mem_append.mp hother with hother | hother
    · exact hconserved.origin other hother
    · rw [List.mem_singleton.mp hother]
      exact horigin
  · intro first hfirst second hsecond hsame happroved happroved'
    rcases List.mem_append.mp hfirst with hfirst | hfirst
    · rcases List.mem_append.mp hsecond with hsecond | hsecond
      · exact hconserved.oneApproved first hfirst second hsecond hsame happroved happroved'
      · rw [List.mem_singleton.mp hsecond] at happroved'
        exact absurd happroved' hundecided
    · rw [List.mem_singleton.mp hfirst] at happroved
      exact absurd happroved hundecided
  · intro period hperiod hlocked other hother hfiled happroved
    rcases List.mem_append.mp hother with hother | hother
    · exact hconserved.materialized period hperiod hlocked other hother hfiled happroved
    · rw [List.mem_singleton.mp hother] at happroved
      exact absurd happroved hundecided

theorem Conserved.decided (hconserved : Conserved db) (hsound : Sound db)
    {row : AmendmentDecision} {amendment : Amendment} (hmem : amendment ∈ db.amendments)
    (hid : amendment.id = row.amendmentId)
    (hreview : db.PeriodIs amendment.adjustmentPeriodId .review)
    (hothers : row.decision = .approved → ∀ other ∈ db.amendments,
      other.lockedEntryId = amendment.lockedEntryId → other.id ≠ amendment.id →
      ∀ decided ∈ db.decisions, decided.amendmentId = other.id → decided.decision ≠ .approved)
    (hfresh : ∀ other ∈ db.decisions, other.amendmentId ≠ row.amendmentId) :
    Conserved { db with decisions := db.decisions ++ [row] } := by
  -- What the new decision adds: an approval of `amendment`, where it approves.
  have hcases : ∀ other ∈ db.amendments,
      Database.IsApproved { db with decisions := db.decisions ++ [row] } other →
      db.IsApproved other ∨ (other = amendment ∧ row.decision = .approved) := by
    rintro other hother ⟨decided, hdecided, hother_id, happroved⟩
    rcases List.mem_append.mp hdecided with hdecided | hdecided
    · exact .inl ⟨decided, hdecided, hother_id, happroved⟩
    · rw [List.mem_singleton.mp hdecided] at hother_id happroved
      exact .inr ⟨eq_of_key hsound.amendmentIds hother hmem (hother_id.symm.trans hid.symm),
        happroved⟩
  constructor
  · exact nodup_keys_append hconserved.decisionIds hfresh
  · intro known hknown
    rcases List.mem_append.mp hknown with hknown | hknown
    · exact hconserved.decisionAmendments known hknown
    · rw [List.mem_singleton.mp hknown]
      exact ⟨amendment, hmem, hid⟩
  · exact hconserved.origin
  · intro first hfirst second hsecond hsame happroved happroved'
    rcases hcases first hfirst happroved with hfirst_old | ⟨rfl, hnew⟩
    · rcases hcases second hsecond happroved' with hsecond_old | ⟨rfl, hnew⟩
      · exact hconserved.oneApproved first hfirst second hsecond hsame hfirst_old hsecond_old
      · by_contra hne
        obtain ⟨decided, hdecided, hdecided_id, hdecided_approved⟩ := hfirst_old
        refine hothers hnew first hfirst hsame ?_ decided hdecided hdecided_id hdecided_approved
        exact fun heq => hne (eq_of_key hsound.amendmentIds hfirst hsecond heq)
    · rcases hcases second hsecond happroved' with hsecond_old | ⟨rfl, _⟩
      · by_contra hne
        obtain ⟨decided, hdecided, hdecided_id, hdecided_approved⟩ := hsecond_old
        refine hothers hnew second hsecond hsame.symm ?_ decided hdecided hdecided_id
          hdecided_approved
        exact fun heq => hne (eq_of_key hsound.amendmentIds hfirst hsecond heq.symm)
      · rfl
  · intro period hperiod hlocked other hother hfiled happroved
    rcases hcases other hother happroved with hold | ⟨rfl, _⟩
    · exact hconserved.materialized period hperiod hlocked other hother hfiled hold
    · obtain ⟨known, hknown, hknown_id, hstatus⟩ := hreview
      have hsame := hsound.status_unique hknown hperiod (hknown_id.trans hfiled)
      rw [hstatus, hlocked] at hsame
      cases hsame

/-- No statement locks a period. -/
theorem mem_of_locked {period : Period} (h : Statement db db') (hmem : period ∈ db'.periods)
    (hlocked : period.status = .locked) : period ∈ db.periods := by
  cases h with
  | locations rows => exact hmem
  | operation h =>
      rw [Database.insertOperation_ok h] at hmem
      exact hmem
  | review _ _ h =>
      obtain ⟨_, _, _, _, rfl⟩ := Database.updatePeriod_ok h
      rcases mem_replaceRow hmem with rfl | ⟨hmem, _⟩
      · cases hlocked
      · exact hmem
  | card h =>
      obtain ⟨_, _, _, rfl⟩ := Database.insertTimeCard_ok h
      exact hmem
  | cardUpdate _ _ _ h =>
      obtain ⟨_, _, _, _, _, _, rfl⟩ := Database.updateTimeCard_ok h
      exact hmem
  | deleteBreaks h =>
      obtain ⟨_, rfl⟩ := Database.deleteBreaks_ok h
      exact hmem
  | insertBreak h =>
      obtain ⟨_, rfl⟩ := Database.insertBreak_ok h
      exact hmem
  | approval h =>
      obtain ⟨_, _, _, rfl⟩ := Database.insertApproval_ok h
      exact hmem
  | amendment h =>
      obtain ⟨_, _, _, _, rfl⟩ := Database.insertAmendment_ok h
      exact hmem
  | decision h =>
      obtain ⟨_, _, rfl⟩ := Database.insertDecision_ok h
      exact hmem

theorem Conserved.statement (hconserved : Conserved db) (hsound : Sound db)
    (h : Statement db db') : Conserved db' := by
  have hmoves : ∀ period ∈ db.periods, ∃ next ∈ db'.periods, period.Moves next := by
    intro period hmem
    obtain ⟨next, hnext, hreviewed⟩ := exists_reviewed_of_statement hsound h period hmem
    exact ⟨next, hnext, hreviewed.moves⟩
  have hkept : ∀ period ∈ db.periods, period.status = .locked → period ∈ db'.periods :=
    fun period hmem hlocked => (keeps_of_statement hsound hmem hlocked h).1
  have hlocked : ∀ period ∈ db'.periods, period.status = .locked → period ∈ db.periods :=
    fun period hmem hstatus => mem_of_locked h hmem hstatus
  -- Every table but those of amendments and decisions leaves the invariant to the periods.
  have hquiet : db'.amendments = db.amendments → db'.decisions = db.decisions →
      db'.entries = db.entries → Conserved db' := by
    intro hamendments hdecisions hentries
    refine hconserved.moved hamendments hdecisions ?_ hmoves hkept ?_
    · exact fun entry hentry => hentries ▸ hentry
    · exact fun period hmem hstatus => .inl (hlocked period hmem hstatus)
  cases h with
  | locations rows => exact hquiet rfl rfl rfl
  | operation h =>
      obtain rfl := Database.insertOperation_ok h
      exact hquiet rfl rfl rfl
  | review _ _ h =>
      obtain ⟨_, _, _, _, rfl⟩ := Database.updatePeriod_ok h
      exact hquiet rfl rfl rfl
  | card h =>
      obtain ⟨_, _, _, rfl⟩ := Database.insertTimeCard_ok h
      exact hquiet rfl rfl rfl
  | cardUpdate _ _ _ h =>
      obtain ⟨_, _, _, _, _, _, rfl⟩ := Database.updateTimeCard_ok h
      exact hquiet rfl rfl rfl
  | deleteBreaks h =>
      obtain ⟨_, rfl⟩ := Database.deleteBreaks_ok h
      exact hquiet rfl rfl rfl
  | insertBreak h =>
      obtain ⟨_, rfl⟩ := Database.insertBreak_ok h
      exact hquiet rfl rfl rfl
  | approval h =>
      obtain ⟨_, _, _, rfl⟩ := Database.insertApproval_ok h
      exact hquiet rfl rfl rfl
  | amendment h =>
      obtain ⟨hsource, _, _, hfresh, rfl⟩ := Database.insertAmendment_ok h
      obtain ⟨original, horiginal, hid, htype, _, hperiods, _, _, hdelta⟩ := hsource
      obtain ⟨source, hsource, hsource_id, hsource_locked, adjustment, hadjustment, hfiled, _,
        horder⟩ := hperiods
      exact hconserved.amended hfresh ⟨original, horiginal, hid, htype, hdelta, source, hsource,
        hsource_id, hsource_locked, adjustment, hadjustment, hfiled, horder⟩
  | decision h =>
      obtain ⟨⟨amendment, hmem, hid, hreview, hothers⟩, hfresh, rfl⟩ := Database.insertDecision_ok h
      exact hconserved.decided hsound hmem hid hreview hothers hfresh

theorem Conserved.statements (hconserved : Conserved db) (hsound : Sound db)
    (h : Statements db db') : Conserved db' := by
  induction h with
  | refl => exact hconserved
  | tail hfirst hlast ih => exact ih.statement (hsound.statements hfirst) hlast

variable {zones : Zones} {hashes : Hashes}

/-- Each approved amendment of the period becomes a source. -/
theorem exists_amendment_source (hconserved : Conserved db) {periodId : String}
    {sources : List LockedEntrySource} (h : db.approvedAmendmentSources periodId = .ok sources)
    {amendment : Amendment} (hmem : amendment ∈ db.amendments)
    (hfiled : amendment.adjustmentPeriodId = periodId) (happroved : db.IsApproved amendment) :
    ∃ source ∈ sources, source.sourceType = .amendment ∧ source.sourceId = amendment.id := by
  simp only [Database.approvedAmendmentSources, bind_eq_ok, ensure_eq_ok] at h
  obtain ⟨_, _, _, hdecided, h⟩ := h
  have hlisted : amendment ∈ db.amendments.filter (·.adjustmentPeriodId = periodId) := by
    simp [hmem, hfiled]
  obtain ⟨row, hrow⟩ := Option.isSome_iff_exists.mp (hdecided amendment hlisted)
  obtain ⟨known, hknown, hknown_id, hknown_approved⟩ := happroved
  obtain ⟨hrow_mem, hrow_id⟩ := mem_of_decision? hrow
  have hdecision : row.decision = .approved := by
    rw [eq_of_key hconserved.decisionIds hrow_mem hknown (hrow_id.trans hknown_id.symm)]
    exact hknown_approved
  have hselected : amendment ∈ (db.amendments.filter (·.adjustmentPeriodId = periodId)).filter
      fun amendment => db.Approved amendment := by
    rw [List.mem_filter]
    exact ⟨hlisted, by simp [Database.Approved, hrow, hdecision]⟩
  obtain ⟨source, hsource, hok⟩ := exists_of_mapM_ok h hselected
  refine ⟨source, hsource, ?_⟩
  split at hok
  · obtain rfl := Except.ok.inj hok
    exact ⟨rfl, rfl⟩
  · cases hok

theorem Locking.conserved (locking : Locking zones hashes db db') (hsound : Sound db)
    (hconserved : Conserved db) : Conserved db' := by
  refine hconserved.moved locking.amendments_eq locking.decisions_eq ?_ (locking.moves hsound) ?_ ?_
  · exact fun entry hentry => locking.entries_eq ▸ List.mem_append_left _ hentry
  · exact fun period hmem hlocked => (locking.keeps hsound hmem hlocked).1
  · intro period hperiod _
    rw [locking.periods_eq] at hperiod
    rcases mem_replaceRow hperiod with rfl | ⟨hperiod, _⟩
    · right
      intro amendment hmem hfiled happroved
      obtain ⟨source, hsource, htype, hid⟩ :=
        exists_amendment_source hconserved locking.amended hmem hfiled happroved
      obtain ⟨sequence, hentry⟩ :=
        exists_entry_of_source (List.mem_append_right locking.cardSources hsource)
      refine ⟨_, mem_entriesOf.mpr ⟨?_, locking.periodId_of_mem hentry⟩, htype, hid⟩
      rw [locking.entries_eq]
      exact List.mem_append_right _ hentry
    · exact .inl hperiod

theorem Conserved.write {event : Event} (hconserved : Conserved db) (hsound : Sound db)
    (h : Write zones hashes db event db') : Conserved db' := by
  cases h with
  | statements h => exact hconserved.statements hsound h
  | policy _ _ h =>
      obtain rfl := Database.insertPolicy_ok h
      refine hconserved.moved rfl rfl (fun _ hentry => hentry) ?_ (fun _ hmem _ => hmem)
        (fun _ hmem _ => .inl hmem)
      exact fun period hmem => ⟨period, hmem, .inl rfl⟩
  | period _ _ _ hinsert hoperation =>
      obtain ⟨_, _, rfl⟩ := Database.insertPeriod_ok hinsert
      obtain rfl := Database.insertOperation_ok hoperation
      refine hconserved.moved rfl rfl (fun _ hentry => hentry) ?_ ?_ ?_
      · exact fun period hmem => ⟨period, List.mem_append_left _ hmem, .inl rfl⟩
      · exact fun period hmem _ => List.mem_append_left _ hmem
      · intro period hmem hlocked
        rcases List.mem_append.mp hmem with hmem | hmem
        · exact .inl hmem
        · rw [List.mem_singleton.mp hmem] at hlocked
          cases hlocked
  | locking locking => exact locking.conserved hsound hconserved

theorem conserved_step (hsound : Sound db) (hconserved : Conserved db) (event : Event) :
    Conserved (step zones hashes db event).2 :=
  step_of_write event hconserved fun _ hwrite => hconserved.write hsound hwrite

theorem conserved_final (zones : Zones) (hashes : Hashes) (locations : List Location)
    (events : List Event) :
    Conserved (final (step zones hashes) (.initial locations) events) := by
  refine (invariant_final (fun db => Sound db ∧ Conserved db) ?_
    ⟨sound_initial locations, conserved_initial locations⟩ events).2
  exact fun db event h => ⟨(step_spec zones hashes h.1 event).1, conserved_step h.1 h.2 event⟩

end Steps

/-! ## Conservation -/

section Conservation

variable {db : Database}

/-- The entry of an amendment is of an approved amendment, in the locked period
it was filed into, and pays the difference. -/
theorem Sound.amendment_entry (hsound : Sound db) {entry : LockedEntry}
    (hentry : entry ∈ db.entries) (htype : entry.sourceType = .amendment)
    {amendment : Amendment} (hmem : amendment ∈ db.amendments)
    (hid : amendment.id = entry.sourceId) :
    db.IsApproved amendment ∧ amendment.adjustmentPeriodId = entry.periodId ∧
      entry.payableMinutes = amendment.minuteDelta := by
  have hsource := hsound.snapshots entry hentry
  rw [Database.SnapshotsSource, htype] at hsource
  obtain ⟨known, hknown, row, hrow, _, _, hsnapshot⟩ := hsource
  obtain ⟨hknown_id, hperiod, hrow_id, happroved, _, _, _, _, _, _, _, hpayable, _⟩ := hsnapshot
  rw [eq_of_key hsound.amendmentIds hmem hknown (hid.trans hknown_id.symm)]
  exact ⟨⟨row, hrow, hrow_id, happroved⟩, hperiod, hpayable⟩

theorem mem_amendmentEntriesOf {originalId : String} {entry : LockedEntry} :
    entry ∈ db.amendmentEntriesOf originalId ↔ entry ∈ db.entries ∧
      entry.sourceType = .amendment ∧ ∃ amendment ∈ db.amendments,
        amendment.id = entry.sourceId ∧ amendment.lockedEntryId = originalId := by
  simp [Database.amendmentEntriesOf]

/-- The entry of an approved amendment is the only one of its original. -/
theorem amendmentEntriesOf_eq_singleton (hsound : Sound db) (hconserved : Conserved db)
    {amendment : Amendment} (hmem : amendment ∈ db.amendments) (happroved : db.IsApproved amendment)
    {entry : LockedEntry} (hentry : entry ∈ db.entries) (htype : entry.sourceType = .amendment)
    (hid : entry.sourceId = amendment.id) :
    db.amendmentEntriesOf amendment.lockedEntryId = [entry] := by
  apply eq_singleton_of_nodup ((List.Nodup.of_map _ hsound.entryIds).filter _)
  · exact mem_amendmentEntriesOf.mpr ⟨hentry, htype, amendment, hmem, hid.symm, rfl⟩
  · intro other hother
    obtain ⟨hother, hother_type, filed, hfiled, hfiled_id, hsame⟩ :=
      mem_amendmentEntriesOf.mp hother
    obtain ⟨hfiled_approved, _⟩ := hsound.amendment_entry hother hother_type hfiled hfiled_id
    have heq := hconserved.oneApproved filed hfiled amendment hmem hsame hfiled_approved happroved
    refine hsound.sources other hother entry hentry (hother_type.trans htype.symm) ?_
    rw [hid, ← hfiled_id, heq]

/-- How many entries an approved amendment has: one when its period is locked,
none before. -/
theorem length_entriesOfAmendment (hsound : Sound db) (hconserved : Conserved db)
    {amendment : Amendment} (hmem : amendment ∈ db.amendments) (happroved : db.IsApproved amendment) :
    (db.entriesOfAmendment amendment.id).length =
      if db.PeriodIs amendment.adjustmentPeriodId .locked then 1 else 0 := by
  split
  · rename_i hlocked
    obtain ⟨period, hperiod, hid, hstatus⟩ := hlocked
    obtain ⟨entry, hentry, htype, hentry_id⟩ :=
      hconserved.materialized period hperiod hstatus amendment hmem hid.symm happroved
    have hentry := (mem_entriesOf.mp hentry).1
    rw [Database.entriesOfAmendment, eq_singleton_of_nodup
      ((List.Nodup.of_map _ hsound.entryIds).filter _)
      (List.mem_filter.mpr ⟨hentry, by simp [htype, hentry_id]⟩) ?_]
    · rfl
    · intro other hother
      simp only [List.mem_filter, decide_eq_true_iff] at hother
      obtain ⟨hother, hother_type, hother_id⟩ := hother
      exact hsound.sources other hother entry hentry (hother_type.trans htype.symm)
        (hother_id.trans hentry_id.symm)
  · rename_i hunlocked
    rw [List.length_eq_zero_iff, Database.entriesOfAmendment, List.filter_eq_nil_iff]
    intro entry hentry hsource
    rw [decide_eq_true_iff] at hsource
    obtain ⟨_, hperiod, _⟩ := hsound.amendment_entry hentry hsource.1 hmem hsource.2.symm
    rw [hperiod] at hunlocked
    exact hunlocked (hsound.entryLocked entry hentry)

/-- The minutes of an original entry are conserved: at most one of its amendments
is approved; the approved one is filed into a later period, has exactly one entry
there once that period is locked and none before, and none elsewhere; and the
minutes of the original and of its amendments' entries add up to the approved
replacement once that period is locked, and to the original's otherwise. -/
def Database.Conserves (db : Database) (original : LockedEntry) : Prop :=
  (∀ first ∈ db.amendments, ∀ second ∈ db.amendments, first.lockedEntryId = original.id →
      second.lockedEntryId = original.id → db.IsApproved first → db.IsApproved second →
      first = second) ∧
    (∀ amendment ∈ db.amendments, amendment.lockedEntryId = original.id →
      db.IsApproved amendment →
        db.FiledLater original amendment ∧
        (db.entriesOfAmendment amendment.id).length =
          (if db.PeriodIs amendment.adjustmentPeriodId .locked then 1 else 0) ∧
        (∀ entry ∈ db.entriesOfAmendment amendment.id,
          entry.periodId = amendment.adjustmentPeriodId) ∧
        original.payableMinutes +
            ((db.amendmentEntriesOf original.id).map (·.payableMinutes)).sum =
          if db.PeriodIs amendment.adjustmentPeriodId .locked then
            amendment.replacementPayableMinutes
          else original.payableMinutes) ∧
    ((∀ amendment ∈ db.amendments, amendment.lockedEntryId = original.id →
        ¬ db.IsApproved amendment) →
      original.payableMinutes +
          ((db.amendmentEntriesOf original.id).map (·.payableMinutes)).sum =
        original.payableMinutes)

/-- Without an approved amendment in a locked period, the original has no
amendment entries. -/
theorem amendmentEntriesOf_eq_nil (hsound : Sound db) {originalId : String}
    (hnone : ∀ amendment ∈ db.amendments, amendment.lockedEntryId = originalId →
      db.IsApproved amendment → ¬ db.PeriodIs amendment.adjustmentPeriodId .locked) :
    db.amendmentEntriesOf originalId = [] := by
  rw [List.eq_nil_iff_forall_not_mem]
  intro entry hentry
  obtain ⟨hentry, htype, amendment, hmem, hid, hsame⟩ := mem_amendmentEntriesOf.mp hentry
  obtain ⟨happroved, hperiod, _⟩ := hsound.amendment_entry hentry htype hmem hid
  refine hnone amendment hmem hsame happroved ?_
  rw [hperiod]
  exact hsound.entryLocked entry hentry

theorem Sound.conserves (hsound : Sound db) (hconserved : Conserved db) {original : LockedEntry}
    (horiginal : original ∈ db.entries) : db.Conserves original := by
  refine ⟨?_, ?_, ?_⟩
  · intro first hfirst second hsecond hfirst_original hsecond_original
    exact hconserved.oneApproved first hfirst second hsecond
      (hfirst_original.trans hsecond_original.symm)
  · intro amendment hmem hsame happroved
    obtain ⟨known, hknown, hknown_id, _, hdelta, hlater⟩ := hconserved.origin amendment hmem
    have heq : known = original :=
      eq_of_key hsound.entryIds hknown horiginal (hknown_id.trans hsame)
    rw [heq] at hdelta hlater
    refine ⟨hlater, length_entriesOfAmendment hsound hconserved hmem happroved, ?_, ?_⟩
    · intro entry hentry
      simp only [Database.entriesOfAmendment, List.mem_filter, decide_eq_true_iff] at hentry
      exact (hsound.amendment_entry hentry.1 hentry.2.1 hmem hentry.2.2.symm).2.1.symm
    · split
      · rename_i hlocked
        obtain ⟨period, hperiod, hid, hstatus⟩ := hlocked
        obtain ⟨entry, hentry, htype, hentry_id⟩ :=
          hconserved.materialized period hperiod hstatus amendment hmem hid.symm happroved
        have hentry := (mem_entriesOf.mp hentry).1
        have hpayable := (hsound.amendment_entry hentry htype hmem hentry_id.symm).2.2
        rw [← hsame, amendmentEntriesOf_eq_singleton hsound hconserved hmem happroved hentry htype
          hentry_id, List.map_singleton, List.sum_singleton, hpayable, hdelta]
        ring
      · rename_i hunlocked
        rw [amendmentEntriesOf_eq_nil hsound, List.map_nil, List.sum_nil, add_zero]
        intro other hother hother_original hother_approved
        rw [hconserved.oneApproved other hother amendment hmem
          (hother_original.trans hsame.symm) hother_approved happroved]
        exact hunlocked
  · intro hnone
    rw [amendmentEntriesOf_eq_nil hsound, List.map_nil, List.sum_nil, add_zero]
    exact fun amendment hmem hsame happroved => absurd happroved (hnone amendment hmem hsame)

/-- In every state of every run, every locked entry's minutes are conserved. -/
theorem payroll_amendment_conservation (zones : Zones) (hashes : Hashes)
    (locations : List Location) (events : List Event) :
    ∀ original ∈ (final (step zones hashes) (.initial locations) events).entries,
      (final (step zones hashes) (.initial locations) events).Conserves original :=
  fun _ horiginal => (sound_final zones hashes locations events).conserves
    (conserved_final zones hashes locations events) horiginal

end Conservation

/-! ## An amendment between its approval and its lock -/

namespace Sample

/-- The first period is locked with eight hours of the worker. -/
def lockedDay : List Event := calendar ++ worked 28800 ++ decided .approved ++ [lockFirst]

/-- The manager asks for nine hours, to be paid in the second period. -/
def requested : Event :=
  onDay 9 (.createAmendment (identity "amend") "manager"
    ⟨"amendment", "entry", "second", instant 1 8 0, instant 1 17 0, .integer 0⟩)

/-- The owner approves the amendment while the second period is under review. -/
def approvedAmendment : List Event := lockedDay ++ [requested,
  onDay 15 (.startReview (identity "review-second") "manager" "second" 0),
  onDay 15 (.decideAmendment (identity "decide-amendment") "owner" "amendment" .approved)]

/-- The second period is locked too. -/
def settledAmendment : List Event := approvedAmendment ++
  [onDay 15 (.lockPeriod (identity "lock-second") (fun _ => "difference") "manager" "second" 1)]

/-- Until the period it was filed into is locked, an approved amendment has no
entry, and the minutes locked for its original are still the original's. -/
theorem approved_amendment_awaits_lock :
    ∃ original ∈ (after approvedAmendment).entries,
      ∃ amendment ∈ (after approvedAmendment).amendments,
        amendment.lockedEntryId = original.id ∧ (after approvedAmendment).IsApproved amendment ∧
        (after approvedAmendment).entriesOfAmendment amendment.id = [] ∧
        original.payableMinutes + (((after approvedAmendment).amendmentEntriesOf
          original.id).map (·.payableMinutes)).sum ≠ amendment.replacementPayableMinutes := by
  decide +kernel

/-- Once it is locked, the eight hours of the original and the hour of the
difference are the nine hours approved. -/
theorem settled_amendment_conserved :
    ∃ original ∈ (after settledAmendment).entries, original.payableMinutes = 480 ∧
      original.payableMinutes + (((after settledAmendment).amendmentEntriesOf
        original.id).map (·.payableMinutes)).sum = 540 ∧
      (after settledAmendment).Conserves original := by
  obtain ⟨original, hmem, hminutes, hsum⟩ : ∃ original ∈ (after settledAmendment).entries,
      original.payableMinutes = 480 ∧
        original.payableMinutes + (((after settledAmendment).amendmentEntriesOf
          original.id).map (·.payableMinutes)).sum = 540 := by
    decide +kernel
  exact ⟨original, hmem, hminutes, hsum,
    payroll_amendment_conservation zones hashes [site] settledAmendment original hmem⟩

end Sample

end LunchLineup.Payroll
