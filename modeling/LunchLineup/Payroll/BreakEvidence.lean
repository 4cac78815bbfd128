import LunchLineup.Payroll.PeriodLife

/-!
# Break intervals and break minutes

A card carries its break minutes twice: as a number, and, once it was corrected, as
stored intervals.  The triggers keep the intervals apart and inside their card
(`Placed`, one lemma for each statement).  The number is written by `clockIn`,
`clockOut` and `correct`; `correct` takes it from the intervals, but `clockOut`
takes it from its request and does not look at the intervals of a card that was
corrected while it was open.  `break_intervals_agree` says that nothing else goes
wrong, and that locking refuses such a card.
-/

namespace LunchLineup.Payroll

open LunchLineup.Lib LunchLineup.Billing

/-! ## The statement -/

/-- The intervals do not overlap. -/
def BreakInterval.Apart (first second : BreakInterval) : Prop :=
  first.endAt ≤ second.startAt ∨ second.endAt ≤ first.startAt

instance (first second : BreakInterval) : Decidable (first.Apart second) :=
  inferInstanceAs (Decidable (_ ∨ _))

/-- The card agrees with its stored intervals. -/
structure Database.Agrees (db : Database) (card : TimeCard) : Prop where
  apart : (db.breaksOf card.id).Pairwise BreakInterval.Apart
  inside : card.status = .closed → ∀ interval ∈ db.breaksOf card.id,
    card.clockInAt ≤ interval.startAt ∧ ∀ clockOutAt ∈ card.clockOutAt, interval.endAt ≤ clockOutAt
  minutes : card.breakMinutes = intervalMinutes (db.breaksOf card.id)

/-- Every card that has stored intervals agrees with them. -/
def Database.BreaksAgree (db : Database) : Prop :=
  ∀ card ∈ db.cards, db.breaksOf card.id ≠ [] → db.Agrees card

/-- The break minutes that a clock-out writes. -/
def ClockOutRequest.minutes (request : ClockOutRequest) : Option Int :=
  match request.breakMinutes with
  | none => some 0
  | some (.integer value) => some value
  | some .nonInteger => none

/-- A clock-out of a card that has stored intervals gives their minutes. -/
def Database.ClocksOutBreaks (db : Database) (event : Event) : Prop :=
  ∀ request, event.command = .clockOut request →
    ∀ card ∈ db.cards, card.id = request.cardId → db.breaksOf card.id ≠ [] →
      ∀ minutes ∈ request.minutes, minutes = intervalMinutes (db.breaksOf card.id)

/-- The intervals that are hashed into an entry give its break minutes. -/
def LockedEntry.Evidenced (entry : LockedEntry) (hashes : Hashes) : Prop :=
  ∃ source : LockedEntrySource,
    entry.canonicalSha256 = (hashes.lockEntry entry.periodId source).val ∧
    source.breakMinutes = entry.breakMinutes ∧ source.payableMinutes = entry.payableMinutes ∧
    (source.breakIntervals ≠ [] → intervalMinutes source.breakIntervals = entry.breakMinutes)

/-! ## The intervals of a card -/

section Intervals

variable {db db' : Database}

/-- The interval of a row. -/
def TimeCardBreak.interval (row : TimeCardBreak) : BreakInterval := ⟨row.startAt, row.endAt⟩

/-- The row of an interval. -/
def BreakInterval.row (cardId : String) (interval : BreakInterval) : TimeCardBreak :=
  ⟨cardId, interval.startAt, interval.endAt⟩

theorem breaksOf_perm (cardId : String) : (db.breaksOf cardId).Perm
    ((db.breaks.filter (·.timeCardId = cardId)).map TimeCardBreak.interval) :=
  List.mergeSort_perm _ _

theorem breaksOf_eq_nil {cardId : String} :
    db.breaksOf cardId = [] ↔ ∀ row ∈ db.breaks, row.timeCardId ≠ cardId := by
  rw [← List.length_eq_zero_iff, (breaksOf_perm cardId).length_eq, List.length_map,
    List.length_eq_zero_iff, List.filter_eq_nil_iff]
  simp

theorem intervalMinutes_perm {first second : List BreakInterval} (h : first.Perm second) :
    intervalMinutes first = intervalMinutes second :=
  (h.map _).sum_eq

theorem breaksOf_congr (hbreaks : db'.breaks = db.breaks) (cardId : String) :
    db'.breaksOf cardId = db.breaksOf cardId := by
  rw [Database.breaksOf, Database.breaksOf, hbreaks]

end Intervals

/-! ## Placed intervals -/

/-- What the triggers keep of the stored intervals. -/
structure Database.Placed (db : Database) : Prop where
  owned : ∀ row ∈ db.breaks, ∃ card ∈ db.cards, card.id = row.timeCardId
  apart : db.breaks.Pairwise fun first second =>
    first.timeCardId = second.timeCardId → first.interval.Apart second.interval
  inside : ∀ card ∈ db.cards, ∀ row ∈ db.breaks, row.timeCardId = card.id →
    card.clockInAt ≤ row.startAt ∧ ∀ clockOutAt ∈ card.clockOutAt, row.endAt ≤ clockOutAt

theorem placed_initial (locations : List Location) : (Database.initial locations).Placed := by
  constructor <;> simp [Database.initial]

section Placed

variable {db db' : Database}

theorem Database.Placed.of_same (hplaced : db.Placed) (hcards : db'.cards = db.cards)
    (hbreaks : db'.breaks = db.breaks) : db'.Placed := by
  refine ⟨?_, ?_, ?_⟩
  · rw [hcards, hbreaks]
    exact hplaced.owned
  · rw [hbreaks]
    exact hplaced.apart
  · rw [hcards, hbreaks]
    exact hplaced.inside

/-- A new card has no intervals. -/
theorem Database.Placed.cardInserted (hplaced : db.Placed) {card : TimeCard}
    (hfresh : ∀ other ∈ db.cards, other.id ≠ card.id) :
    ({ db with cards := db.cards ++ [card] } : Database).Placed := by
  refine ⟨?_, hplaced.apart, ?_⟩
  · intro row hrow
    obtain ⟨owner, howner, hid⟩ := hplaced.owned row hrow
    exact ⟨owner, List.mem_append_left _ howner, hid⟩
  · intro other hother row hrow hid
    rcases List.mem_append.mp hother with hold | hnew
    · exact hplaced.inside other hold row hrow hid
    · obtain ⟨owner, howner, howner_id⟩ := hplaced.owned row hrow
      rw [List.mem_singleton.mp hnew] at hid
      exact absurd (howner_id.trans hid) (hfresh owner howner)

theorem updateTimeCard_inside {now : Int} {old new : TimeCard}
    (h : db.updateTimeCard now old new = .ok db') :
    ∀ row ∈ db.breaks, row.timeCardId = new.id →
      new.clockInAt ≤ row.startAt ∧ row.endAt ≤ new.clockOutAt.getD now := by
  simp only [Database.updateTimeCard, bind_eq_ok, ensure_eq_ok] at h
  exact h.choose_spec.1

theorem Database.Placed.cardUpdated (hplaced : db.Placed) {now : Int} {old new : TimeCard}
    (hmem : old ∈ db.cards) (hid : new.id = old.id) (h : db.updateTimeCard now old new = .ok db') :
    db'.Placed := by
  have hinside := updateTimeCard_inside h
  obtain ⟨_, _, _, _, _, _, rfl⟩ := Database.updateTimeCard_ok h
  refine ⟨?_, hplaced.apart, ?_⟩
  · intro row hrow
    obtain ⟨owner, howner, howner_id⟩ := hplaced.owned row hrow
    by_cases hsame : owner.id = new.id
    · exact ⟨new, new_mem_replaceRow hmem hid.symm, hsame.symm.trans howner_id⟩
    · exact ⟨owner, mem_replaceRow_of_ne howner hsame, howner_id⟩
  · intro other hother row hrow howner
    rcases mem_replaceRow hother with rfl | ⟨hold, _⟩
    · obtain ⟨hstart, hend⟩ := hinside row hrow howner
      refine ⟨hstart, ?_⟩
      intro clockOutAt hout
      rw [Option.mem_def.mp hout, Option.getD_some] at hend
      exact hend
    · exact hplaced.inside other hold row hrow howner

theorem Database.Placed.breaksDeleted (hplaced : db.Placed) (cardId : String) :
    ({ db with breaks := db.breaks.filter (·.timeCardId ≠ cardId) } : Database).Placed where
  owned row hrow := hplaced.owned row (List.mem_filter.mp hrow).1
  apart := hplaced.apart.filter _
  inside card hcard row hrow := hplaced.inside card hcard row (List.mem_filter.mp hrow).1

theorem Database.Placed.breakInserted (hplaced : db.Placed) (hsound : Sound db) {now : Int}
    {interval : TimeCardBreak} (h : db.insertBreak now interval = .ok db') : db'.Placed := by
  simp only [Database.insertBreak, bind_eq_ok, ensure_eq_ok] at h
  obtain ⟨_, _, _, ⟨card, hcard, hid, _, hstart, hend⟩, _, _, _, hapart, h⟩ := h
  obtain rfl := Except.ok.inj h
  refine ⟨?_, ?_, ?_⟩
  · intro row hrow
    rcases List.mem_append.mp hrow with hold | hnew
    · exact hplaced.owned row hold
    · rw [List.mem_singleton.mp hnew]
      exact ⟨card, hcard, hid⟩
  · refine List.pairwise_append.mpr ⟨hplaced.apart, List.pairwise_singleton _ _, ?_⟩
    intro first hfirst second hsecond howner
    rw [List.mem_singleton.mp hsecond] at howner ⊢
    have hnot := hapart first hfirst howner
    simp only [BreakInterval.Apart, TimeCardBreak.interval]
    omega
  · intro other hother row hrow howner
    rcases List.mem_append.mp hrow with hold | hnew
    · exact hplaced.inside other hother row hold howner
    · rw [List.mem_singleton.mp hnew] at howner ⊢
      obtain rfl := eq_of_key hsound.cardIds hother hcard (howner.symm.trans hid.symm)
      refine ⟨hstart, ?_⟩
      intro clockOutAt hout
      rw [Option.mem_def.mp hout, Option.getD_some] at hend
      exact hend

/-- Every statement keeps the intervals placed. -/
theorem Database.Placed.statement (hplaced : db.Placed) (hsound : Sound db)
    (h : Statement db db') : db'.Placed := by
  cases h with
  | locations rows => exact hplaced.of_same rfl rfl
  | operation h =>
      rw [Database.insertOperation_ok h]
      exact hplaced.of_same rfl rfl
  | review _ _ h =>
      obtain ⟨_, _, _, _, rfl⟩ := Database.updatePeriod_ok h
      exact hplaced.of_same rfl rfl
  | card h =>
      obtain ⟨_, _, hfresh, rfl⟩ := Database.insertTimeCard_ok h
      exact hplaced.cardInserted hfresh
  | cardUpdate hmem hid _ h => exact hplaced.cardUpdated hmem hid h
  | deleteBreaks h =>
      obtain ⟨_, rfl⟩ := Database.deleteBreaks_ok h
      exact hplaced.breaksDeleted _
  | insertBreak h => exact hplaced.breakInserted hsound h
  | approval h =>
      obtain ⟨_, _, _, rfl⟩ := Database.insertApproval_ok h
      exact hplaced.of_same rfl rfl
  | amendment h =>
      obtain ⟨_, _, _, _, rfl⟩ := Database.insertAmendment_ok h
      exact hplaced.of_same rfl rfl
  | decision h =>
      obtain ⟨_, _, rfl⟩ := Database.insertDecision_ok h
      exact hplaced.of_same rfl rfl

theorem Database.Placed.statements (hplaced : db.Placed) (hsound : Sound db)
    (h : Statements db db') : db'.Placed := by
  induction h with
  | refl => exact hplaced
  | tail hfirst hlast ih => exact ih.statement (hsound.statements hfirst) hlast

variable {zones : Zones} {hashes : Hashes}

theorem Database.Placed.write (hplaced : db.Placed) (hsound : Sound db) {event : Event}
    (h : Write zones hashes db event db') : db'.Placed := by
  cases h with
  | statements h => exact hplaced.statements hsound h
  | policy _ _ h =>
      rw [Database.insertPolicy_ok h]
      exact hplaced.of_same rfl rfl
  | period _ _ _ hinsert hoperation =>
      obtain ⟨_, _, rfl⟩ := Database.insertPeriod_ok hinsert
      rw [Database.insertOperation_ok hoperation]
      exact hplaced.of_same rfl rfl
  | locking locking =>
      refine hplaced.of_same locking.cards_eq ?_
      rw [locking.db_eq]

/-- Placed intervals are apart, and inside their card once it is closed. -/
theorem Database.Placed.ofCard (hplaced : db.Placed) {card : TimeCard} (hcard : card ∈ db.cards) :
    (db.breaksOf card.id).Pairwise BreakInterval.Apart ∧
      ∀ interval ∈ db.breaksOf card.id, card.clockInAt ≤ interval.startAt ∧
        ∀ clockOutAt ∈ card.clockOutAt, interval.endAt ≤ clockOutAt := by
  have hperm : (db.breaksOf card.id).Perm _ := breaksOf_perm card.id
  refine ⟨?_, ?_⟩
  · refine (hperm.pairwise_iff fun h => Or.symm h).mpr (List.pairwise_map.mpr ?_)
    refine (hplaced.apart.filter _).imp_of_mem ?_
    intro first second hfirst hsecond happart
    have howner := of_decide_eq_true (List.mem_filter.mp hfirst).2
    have howner' := of_decide_eq_true (List.mem_filter.mp hsecond).2
    exact happart (howner.trans howner'.symm)
  · intro interval hinterval
    obtain ⟨row, hrow, rfl⟩ := List.mem_map.mp (hperm.mem_iff.mp hinterval)
    obtain ⟨hrow, howner⟩ := List.mem_filter.mp hrow
    exact hplaced.inside card hcard row hrow (of_decide_eq_true howner)

end Placed

/-! ## Break minutes -/

/-- The number on a card with stored intervals is theirs. -/
def Database.MinutesAgree (db : Database) : Prop :=
  ∀ card ∈ db.cards, db.breaksOf card.id ≠ [] →
    card.breakMinutes = intervalMinutes (db.breaksOf card.id)

section Minutes

variable {zones : Zones} {hashes : Hashes} {db db' : Database} {now : Int}

theorem breaksAgree_iff (hplaced : db.Placed) : db.BreaksAgree ↔ db.MinutesAgree := by
  constructor
  · exact fun h card hcard hbreaks => (h card hcard hbreaks).minutes
  · intro h card hcard hbreaks
    obtain ⟨hapart, hinside⟩ := hplaced.ofCard hcard
    exact ⟨hapart, fun _ => hinside, h card hcard hbreaks⟩

theorem Database.MinutesAgree.of_same (hagree : db.MinutesAgree) (hcards : db'.cards = db.cards)
    (hbreaks : db'.breaks = db.breaks) : db'.MinutesAgree := by
  intro card hcard
  rw [breaksOf_congr hbreaks]
  exact hagree card (hcards ▸ hcard)

/-- A new card has no intervals to agree with. -/
theorem Database.MinutesAgree.cardInserted (hagree : db.MinutesAgree) (hplaced : db.Placed)
    {card : TimeCard} (hfresh : ∀ other ∈ db.cards, other.id ≠ card.id) :
    ({ db with cards := db.cards ++ [card] } : Database).MinutesAgree := by
  intro other hother hbreaks
  rcases List.mem_append.mp hother with hold | hnew
  · exact hagree other hold hbreaks
  · rw [List.mem_singleton.mp hnew] at hbreaks
    refine absurd (breaksOf_eq_nil.mpr ?_) hbreaks
    intro row hrow howner
    obtain ⟨owner, hmem, hid⟩ := hplaced.owned row hrow
    exact hfresh owner hmem (hid.trans howner)

/-- After an update the numbers agree exactly if the new one does. -/
theorem Database.MinutesAgree.cardReplaced (hagree : db.MinutesAgree) {old new : TimeCard}
    (hmem : old ∈ db.cards) (hid : new.id = old.id) :
    (db.replaceCard new).MinutesAgree ↔ (db.breaksOf new.id ≠ [] →
      new.breakMinutes = intervalMinutes (db.breaksOf new.id)) := by
  constructor
  · exact fun h => h new (new_mem_replaceRow hmem hid.symm)
  · intro hnew card hcard
    rcases mem_replaceRow hcard with rfl | ⟨hold, _⟩
    · exact hnew
    · exact hagree card hold

theorem findScopedTimeCard_id {actorUserId id : String} {team includeClosed : Bool}
    {card : TimeCard} (h : db.findScopedTimeCard actorUserId team id includeClosed = .ok card) :
    card.id = id := by
  unfold Database.findScopedTimeCard at h
  split at h
  · cases h
  · rename_i found hfound
    simp only [bind_eq_ok, ensure_eq_ok] at h
    obtain ⟨_, _, h⟩ := h
    obtain rfl := Except.ok.inj h
    exact (mem_of_card? hfound).2

theorem normalizeClockOutBreakMinutes_given {request : ClockOutRequest} {totalMinutes minutes : Int}
    (h : normalizeClockOutBreakMinutes request.breakMinutes totalMinutes = .ok minutes) :
    request.minutes = some minutes := by
  unfold normalizeClockOutBreakMinutes at h
  unfold ClockOutRequest.minutes
  split at h
  · simp_all
  · cases h
  · simp only [bind_eq_ok, ensure_eq_ok] at h
    obtain ⟨_, _, _, _, h⟩ := h
    simp_all

/-- An accepted clock-out keeps the numbers exactly if it gives the minutes of the
intervals. -/
theorem minutesAgree_clockOut_iff (hagree : db.MinutesAgree) (hsound : Sound db)
    {request : ClockOutRequest} {card : TimeCard}
    (h : db.clockOut now request = .ok (card, db')) {event : Event}
    (hcommand : event.command = .clockOut request) :
    db'.MinutesAgree ↔ db.ClocksOutBreaks event := by
  simp only [Database.clockOut, bind_eq_ok, ensure_eq_ok] at h
  obtain ⟨_, _, old, hold, _, _, _, _, _, _, _, _, minutes, hminutes, _, _, middle, hupdate, h⟩ := h
  obtain ⟨rfl, rfl⟩ := Prod.mk.inj (Except.ok.inj h)
  obtain ⟨_, _, _, _, _, _, rfl⟩ := Database.updateTimeCard_ok hupdate
  have hmem := (findScopedTimeCard_ok hold).1
  have hid := findScopedTimeCard_id hold
  have hgiven := normalizeClockOutBreakMinutes_given hminutes
  refine (hagree.cardReplaced hmem (by rfl)).trans ?_
  constructor
  · intro hnew other hother card hcard hcard_id hbreaks given hgiven'
    obtain rfl := Command.clockOut.inj (hcommand.symm.trans hother)
    obtain rfl := eq_of_key hsound.cardIds hcard hmem (hcard_id.trans hid.symm)
    obtain rfl := Option.some.inj (hgiven.symm.trans hgiven')
    exact hnew hbreaks
  · intro hcondition hbreaks
    exact hcondition request hcommand old hmem hid hbreaks minutes hgiven

/-- The rows that a correction inserts. -/
theorem insertBreaks_ok {cardId : String} {intervals : List BreakInterval}
    (h : Database.insertBreaks now cardId db intervals = .ok db') :
    db' = { db with breaks := db.breaks ++ intervals.map (BreakInterval.row cardId) } := by
  induction intervals generalizing db with
  | nil =>
      obtain rfl := Except.ok.inj h
      simp
  | cons interval rest ih =>
      obtain ⟨middle, hinsert, hrest⟩ := bind_eq_ok.mp h
      rw [ih hrest, (Database.insertBreak_ok hinsert).2]
      simp [BreakInterval.row]

/-- After new intervals were given, they are the card's, and every other card has
those it had. -/
theorem replaceBreaks_some {cardId : String} {intervals : List BreakInterval}
    (h : db.replaceBreaks now cardId (some intervals) = .ok db') :
    db'.cards = db.cards ∧ (db'.breaksOf cardId).Perm intervals ∧
      ∀ other, other ≠ cardId → db'.breaksOf other = db.breaksOf other := by
  obtain ⟨middle, hdelete, hinsert⟩ := bind_eq_ok.mp h
  obtain ⟨_, rfl⟩ := Database.deleteBreaks_ok hdelete
  have hdb := insertBreaks_ok hinsert
  have hbreaks : db'.breaks = (db.breaks.filter (·.timeCardId ≠ cardId)) ++
      intervals.map (BreakInterval.row cardId) := by
    rw [hdb]
  refine ⟨by rw [hdb], (breaksOf_perm cardId).trans ?_, ?_⟩
  · have hold : (db.breaks.filter (·.timeCardId ≠ cardId)).filter (·.timeCardId = cardId) = [] := by
      rw [List.filter_eq_nil_iff]
      intro row hrow
      simpa using (List.mem_filter.mp hrow).2
    have hnew : (intervals.map (BreakInterval.row cardId)).filter (·.timeCardId = cardId) =
        intervals.map (BreakInterval.row cardId) := by
      rw [List.filter_eq_self]
      intro row hrow
      obtain ⟨interval, _, rfl⟩ := List.mem_map.mp hrow
      simp [BreakInterval.row]
    rw [hbreaks, List.filter_append, hold, hnew, List.nil_append, List.map_map]
    have hid : TimeCardBreak.interval ∘ BreakInterval.row cardId = id := rfl
    rw [hid, List.map_id]
  · intro other hother
    have hold : (db.breaks.filter (·.timeCardId ≠ cardId)).filter (·.timeCardId = other) =
        db.breaks.filter (·.timeCardId = other) := by
      rw [List.filter_filter]
      apply List.filter_congr
      intro row _
      by_cases hrow : row.timeCardId = other
      · simp [hrow, hother]
      · simp [hrow]
    have hnew : (intervals.map (BreakInterval.row cardId)).filter (·.timeCardId = other) = [] := by
      rw [List.filter_eq_nil_iff]
      intro row hrow
      obtain ⟨interval, _, rfl⟩ := List.mem_map.mp hrow
      simp [BreakInterval.row, hother.symm]
    rw [Database.breaksOf, Database.breaksOf, hbreaks, List.filter_append, hold, hnew,
      List.append_nil]

/-- The break minutes of a validated correction: those of the intervals given, or the
stored number. -/
theorem validateTimeCardCorrection_minutes {body : CorrectionRequest} {current : TimeCard}
    {stored : List BreakInterval} {correction : Correction}
    (h : validateTimeCardCorrection body current stored now = .ok correction) :
    correction.breakMinutes =
      (correction.breakIntervals.map intervalMinutes).getD current.breakMinutes := by
  simp only [validateTimeCardCorrection, bind_eq_ok, ensure_eq_ok] at h
  obtain ⟨_, _, _, _, _, _, _, _, _, _, h⟩ := h
  obtain rfl := Except.ok.inj h
  cases hgiven : body.breakIntervals with
  | none => simp
  | some intervals => simp

/-- A correction keeps the numbers. -/
theorem Database.MinutesAgree.corrected (hagree : db.MinutesAgree) {request : CorrectionRequest}
    {card : TimeCard} (h : zones.correct db now request = .ok (card, db')) : db'.MinutesAgree := by
  simp only [Zones.correct, bind_eq_ok, ensure_eq_ok] at h
  obtain ⟨_, _, _, _, old, hold, _, _, correction, hvalid, assignment, _, _, _, _, _, _, _, _, _,
    middle, hupdate, last, hbreaks, h⟩ := h
  have hlast : db' = last := by
    split at h
    · exact (Prod.mk.inj (Except.ok.inj h)).2.symm
    · obtain ⟨_, _, h⟩ := bind_eq_ok.mp h
      exact (Prod.mk.inj (Except.ok.inj h)).2.symm
  subst hlast
  have hmem := (findScopedTimeCard_ok hold).1
  have hminutes := validateTimeCardCorrection_minutes hvalid
  obtain ⟨_, _, _, _, _, _, rfl⟩ := Database.updateTimeCard_ok hupdate
  cases hgiven : correction.breakIntervals with
  | none =>
      rw [hgiven] at hbreaks hminutes
      obtain rfl := Except.ok.inj hbreaks
      refine (hagree.cardReplaced hmem (by rfl)).mpr ?_
      exact fun hstored => hminutes.trans (hagree old hmem hstored)
  | some intervals =>
      rw [hgiven] at hbreaks hminutes
      obtain ⟨hcards, hperm, hothers⟩ := replaceBreaks_some hbreaks
      intro other hother hstored
      rw [hcards] at hother
      rcases mem_replaceRow hother with rfl | ⟨hother_old, hne⟩
      · exact hminutes.trans (intervalMinutes_perm hperm).symm
      · rw [hothers other.id hne] at hstored ⊢
        exact hagree other hother_old hstored

/-- An adoption keeps the numbers. -/
theorem Database.MinutesAgree.adopted (hagree : db.MinutesAgree) {periodId : String}
    {rows : List TimeCard} (h : Database.adoptRows now periodId db rows = .ok db') :
    db'.MinutesAgree := by
  induction rows generalizing db with
  | nil =>
      obtain rfl := Except.ok.inj h
      exact hagree
  | cons card rest ih =>
      simp only [Database.adoptRows] at h
      split at h
      · cases h
      · rename_i current hcurrent
        obtain ⟨middle, hupdate, hrest⟩ := bind_eq_ok.mp h
        obtain ⟨_, _, _, _, _, _, rfl⟩ := Database.updateTimeCard_ok hupdate
        have hmem := List.mem_of_find?_eq_some hcurrent
        refine ih ((hagree.cardReplaced hmem (by rfl)).mpr ?_) hrest
        exact fun hstored => hagree current hmem hstored

/-! ## Commands that leave cards and breaks alone -/

/-- The cards, their breaks, the entries and the locations are as they were. -/
structure Database.SameCards (db db' : Database) : Prop where
  cards : db'.cards = db.cards
  breaks : db'.breaks = db.breaks
  entries : db'.entries = db.entries
  locations : db'.locations = db.locations

theorem sameCards_of_eq (h : db' = db) : db.SameCards db' := by
  subst h
  exact ⟨rfl, rfl, rfl, rfl⟩

theorem Database.SameCards.trans {last : Database} (hfirst : db.SameCards db')
    (hsecond : db'.SameCards last) : db.SameCards last :=
  ⟨hsecond.cards.trans hfirst.cards, hsecond.breaks.trans hfirst.breaks,
    hsecond.entries.trans hfirst.entries, hsecond.locations.trans hfirst.locations⟩

theorem sameCards_of_insertOperation {row : Operation} (h : db.insertOperation row = .ok db') :
    db.SameCards db' := by
  rw [Database.insertOperation_ok h]
  exact ⟨rfl, rfl, rfl, rfl⟩

theorem sameCards_of_createPolicy {request : RequestIdentity} {id : String}
    {policy : PolicyRequest} (h : zones.createPolicy db now request id policy = .ok db') :
    db.SameCards db' := by
  simp only [Zones.createPolicy, bind_eq_ok, ensure_eq_ok] at h
  obtain ⟨_, _, _, _, h⟩ := h
  split at h
  · split at h
    · exact sameCards_of_eq (Except.ok.inj h).symm
    · cases h
  · simp only [bind_eq_ok, ensure_eq_ok] at h
    obtain ⟨_, _, _, _, _, _, _, _, h⟩ := h
    rw [Database.insertPolicy_ok h]
    exact ⟨rfl, rfl, rfl, rfl⟩

theorem sameCards_of_createPeriod {request : RequestIdentity} {id : String} {date : Int}
    (h : zones.createPeriod db request id date = .ok db') : db.SameCards db' := by
  unfold Zones.createPeriod at h
  split at h
  · rename_i answer hanswer
    exact sameCards_of_eq (eq_of_replay hanswer h)
  · simp only [bind_eq_ok, ensure_eq_ok] at h
    obtain ⟨_, _, h⟩ := h
    split at h
    · cases h
    · simp only [bind_eq_ok, ensure_eq_ok] at h
      obtain ⟨boundaries, _, _, _, middle, hinsert, hoperation⟩ := h
      obtain ⟨_, _, rfl⟩ := Database.insertPeriod_ok hinsert
      have hlast := sameCards_of_insertOperation hoperation
      exact ⟨hlast.cards, hlast.breaks, hlast.entries, hlast.locations⟩

theorem sameCards_of_startReview {request : RequestIdentity} {actorUserId periodId : String}
    {expectedRevision : Int}
    (h : zones.startReview db now request actorUserId periodId expectedRevision = .ok db') :
    db.SameCards db' := by
  unfold Zones.startReview at h
  split at h
  · rename_i answer hanswer
    exact sameCards_of_eq (eq_of_replay hanswer h)
  · simp only [bind_eq_ok, ensure_eq_ok] at h
    obtain ⟨_, _, _, _, _, _, _, _, _, _, _, _, middle, hupdate, hoperation⟩ := h
    obtain ⟨_, _, _, _, rfl⟩ := Database.updatePeriod_ok hupdate
    have hlast := sameCards_of_insertOperation hoperation
    exact ⟨hlast.cards, hlast.breaks, hlast.entries, hlast.locations⟩

theorem sameCards_of_insertApprovals {actorUserId periodId : String}
    {childOperationId : String → Int → String} {decisions : List CardDecision}
    (h : Database.insertApprovals now actorUserId periodId childOperationId db decisions = .ok db') :
    db.SameCards db' := by
  induction decisions generalizing db with
  | nil => exact sameCards_of_eq (Except.ok.inj h).symm
  | cons decision rest ih =>
      obtain ⟨middle, hinsert, hrest⟩ := bind_eq_ok.mp h
      obtain ⟨_, _, _, rfl⟩ := Database.insertApproval_ok hinsert
      have hlast := ih hrest
      exact ⟨hlast.cards, hlast.breaks, hlast.entries, hlast.locations⟩

theorem sameCards_of_decideCards {request : RequestIdentity}
    {childOperationId : String → Int → String} {actorUserId periodId : String}
    {decisions : List CardDecision}
    (h : db.decideCards now request childOperationId actorUserId periodId decisions = .ok db') :
    db.SameCards db' := by
  simp only [Database.decideCards, bind_eq_ok, ensure_eq_ok] at h
  obtain ⟨_, _, h⟩ := h
  split at h
  · rename_i answer hanswer
    exact sameCards_of_eq (eq_of_replay hanswer h)
  · simp only [bind_eq_ok, ensure_eq_ok] at h
    obtain ⟨_, _, _, _, _, _, _, _, _, _, _, _, middle, hinsert, hoperation⟩ := h
    exact (sameCards_of_insertApprovals hinsert).trans (sameCards_of_insertOperation hoperation)

theorem sameCards_of_createAmendment {request : RequestIdentity} {actorUserId : String}
    {body : AmendmentRequest} (h : db.createAmendment request actorUserId body = .ok db') :
    db.SameCards db' := by
  simp only [Database.createAmendment] at h
  split at h
  · cases h
  · obtain ⟨payableMinutes, _, h⟩ := bind_eq_ok.mp h
    split at h
    · split at h
      · exact sameCards_of_eq (Except.ok.inj h).symm
      · cases h
    · obtain ⟨adjustmentPeriod, _, h⟩ := bind_eq_ok.mp h
      split at h
      · cases h
      · simp only [bind_eq_ok, ensure_eq_ok] at h
        obtain ⟨_, _, _, _, _, _, sourcePeriod, _, _, _, _, _, h⟩ := h
        obtain ⟨_, _, _, _, rfl⟩ := Database.insertAmendment_ok h
        exact ⟨rfl, rfl, rfl, rfl⟩

theorem sameCards_of_decideAmendment {request : RequestIdentity} {actorUserId amendmentId : String}
    {decision : Decision}
    (h : db.decideAmendment now request actorUserId amendmentId decision = .ok db') :
    db.SameCards db' := by
  unfold Database.decideAmendment at h
  split at h
  · split at h
    · exact sameCards_of_eq (Except.ok.inj h).symm
    · cases h
  · split at h
    · cases h
    · obtain ⟨adjustmentPeriod, _, h⟩ := bind_eq_ok.mp h
      split at h
      · cases h
      · simp only [bind_eq_ok, ensure_eq_ok] at h
        obtain ⟨_, _, _, _, _, _, h⟩ := h
        obtain ⟨_, _, rfl⟩ := Database.insertDecision_ok h
        exact ⟨rfl, rfl, rfl, rfl⟩

/-! ## Entries and their evidence -/

theorem entries_of_statement (h : Statement db db') : db'.entries = db.entries := by
  cases h with
  | locations rows => rfl
  | operation h => rw [Database.insertOperation_ok h]
  | review _ _ h =>
      obtain ⟨_, _, _, _, rfl⟩ := Database.updatePeriod_ok h
      rfl
  | card h =>
      obtain ⟨_, _, _, rfl⟩ := Database.insertTimeCard_ok h
      rfl
  | cardUpdate _ _ _ h =>
      obtain ⟨_, _, _, _, _, _, rfl⟩ := Database.updateTimeCard_ok h
      rfl
  | deleteBreaks h => rw [(Database.deleteBreaks_ok h).2]
  | insertBreak h => rw [(Database.insertBreak_ok h).2]
  | approval h =>
      obtain ⟨_, _, _, rfl⟩ := Database.insertApproval_ok h
      rfl
  | amendment h =>
      obtain ⟨_, _, _, _, rfl⟩ := Database.insertAmendment_ok h
      rfl
  | decision h =>
      obtain ⟨_, _, rfl⟩ := Database.insertDecision_ok h
      rfl

theorem entries_of_statements (h : Statements db db') : db'.entries = db.entries := by
  induction h with
  | refl => rfl
  | tail _ hlast ih => exact (entries_of_statement hlast).trans ih

/-- A card whose breaks were validated gives a source whose intervals give its break
minutes. -/
theorem approvedCardSource_evidence {periodId : String} {card : TimeCard}
    {source : LockedEntrySource} (hvalid : db.lockAndValidateBreaks card = .ok ())
    (h : db.approvedCardSource periodId card = .ok source) (hstored : source.breakIntervals ≠ []) :
    intervalMinutes source.breakIntervals = source.breakMinutes := by
  have hsource : source.breakIntervals = db.breaksOf card.id ∧
      source.breakMinutes = card.breakMinutes := by
    unfold Database.approvedCardSource at h
    split at h
    · simp only [bind_eq_ok, ensure_eq_ok] at h
      obtain ⟨_, _, payableMinutes, _, h⟩ := h
      obtain rfl := Except.ok.inj h
      exact ⟨rfl, rfl⟩
    · cases h
  rw [hsource.1] at hstored ⊢
  rw [hsource.2]
  unfold Database.lockAndValidateBreaks at hvalid
  split at hvalid
  · rename_i hnil
    exact absurd hnil hstored
  · cases hvalid
  · simp only [bind_eq_ok, ensure_eq_ok] at hvalid
    obtain ⟨_, _, hminutes⟩ := hvalid
    exact hminutes

theorem approvedAmendmentSources_evidence {periodId : String} {sources : List LockedEntrySource}
    (h : db.approvedAmendmentSources periodId = .ok sources) {source : LockedEntrySource}
    (hsource : source ∈ sources) : source.breakIntervals = [] := by
  simp only [Database.approvedAmendmentSources, bind_eq_ok, ensure_eq_ok] at h
  obtain ⟨_, _, _, _, h⟩ := h
  obtain ⟨amendment, _, hok⟩ := exists_input_of_mapM_ok h hsource
  split at hok
  · obtain rfl := Except.ok.inj hok
    rfl
  · cases hok

/-- An accepted `lockPeriod` leaves cards and breaks, and its entries are evidenced. -/
theorem lockPeriod_evidence {request : RequestIdentity} {newId : Nat → String}
    {actorUserId periodId : String} {expectedRevision : Int}
    (h : zones.lockPeriod hashes db now request newId actorUserId periodId expectedRevision
      = .ok db') : db'.cards = db.cards ∧ db'.breaks = db.breaks ∧
      ∀ entry ∈ db'.entries, entry ∈ db.entries ∨ entry.Evidenced hashes := by
  obtain ⟨period, hperiod, h⟩ := bind_eq_ok.mp h
  split at h
  · split at h
    · obtain rfl := Except.ok.inj h
      exact ⟨rfl, rfl, fun entry hentry => .inl hentry⟩
    · cases h
  · cases h
  · simp only [bind_eq_ok, ensure_eq_ok, checkAll_eq_ok] at h
    obtain ⟨_, _, _, _, candidates, hcandidates, cards, hcards, _, hvalid, cardSources, hsources,
      amendmentSources, hamended, _, _, total, _, middle, hinserted, hupdated⟩ := h
    obtain ⟨_, _, _, _, rfl⟩ := Database.updatePeriod_ok hupdated
    obtain ⟨rfl, _⟩ := insertLockedEntries_ok hinserted
    refine ⟨rfl, rfl, ?_⟩
    intro entry hentry
    rcases List.mem_append.mp hentry with hold | hnew
    · exact .inl hold
    · obtain ⟨source, hsource, sequence, rfl⟩ := exists_source_of_entry hnew
      refine .inr ⟨source, rfl, rfl, rfl, ?_⟩
      intro hstored
      rcases List.mem_append.mp hsource with hcard | hamendment
      · obtain ⟨card, hcard_mem, hok⟩ := exists_input_of_mapM_ok hsources hcard
        exact approvedCardSource_evidence (hvalid card hcard_mem) hok hstored
      · exact absurd (approvedAmendmentSources_evidence hamended hamendment) hstored

/-! ## Runs -/

/-- What holds after every run. -/
structure Database.Evidenced (hashes : Hashes) (db : Database) : Prop where
  sound : Sound db
  placed : db.Placed
  entries : ∀ entry ∈ db.entries, entry.Evidenced hashes

theorem evidenced_initial (locations : List Location) :
    (Database.initial locations).Evidenced hashes :=
  ⟨sound_initial locations, placed_initial locations, by simp [Database.initial]⟩

/-- One accepted command: its entries are evidenced, and the numbers go on to agree
unless it is a clock-out that gives other minutes. -/
theorem Database.Evidenced.apply (hevidenced : db.Evidenced hashes) {event : Event}
    (h : apply zones hashes db event = .ok db') :
    db'.Evidenced hashes ∧
      (db.MinutesAgree → (db'.MinutesAgree ↔ db.ClocksOutBreaks event)) := by
  have hwrite := write_of_apply h
  simp only [LunchLineup.Payroll.apply, bind_eq_ok, ensure_eq_ok] at h
  obtain ⟨_, _, h⟩ := h
  -- The entries and the numbers, command by command.
  have hcommand : (∀ entry ∈ db'.entries, entry ∈ db.entries ∨ entry.Evidenced hashes) ∧
      (db.MinutesAgree → (db'.MinutesAgree ↔ db.ClocksOutBreaks event)) := by
    have hsame (hother : ∀ request, event.command ≠ .clockOut request)
        (hsame : db.SameCards db') :
        (∀ entry ∈ db'.entries, entry ∈ db.entries ∨ entry.Evidenced hashes) ∧
          (db.MinutesAgree → (db'.MinutesAgree ↔ db.ClocksOutBreaks event)) := by
      refine ⟨fun entry hentry => .inl (hsame.entries ▸ hentry), fun hagree => ?_⟩
      refine iff_of_true (hagree.of_same hsame.cards hsame.breaks) ?_
      exact fun request hcommand => absurd hcommand (hother request)
    cases hcommand : event.command with
    | locations rows =>
        rw [hcommand] at h
        obtain rfl := Except.ok.inj h
        exact ⟨fun entry hentry => .inl hentry, fun hagree =>
          iff_of_true (hagree.of_same rfl rfl) (by simp [Database.ClocksOutBreaks, hcommand])⟩
    | createPolicy request id policy =>
        rw [hcommand] at h
        exact hsame (by simp [hcommand]) (sameCards_of_createPolicy h)
    | createPeriod request id localStartDate =>
        rw [hcommand] at h
        exact hsame (by simp [hcommand]) (sameCards_of_createPeriod h)
    | clockIn request =>
        rw [hcommand] at h
        refine ⟨fun entry hentry => .inl (entries_of_statements (statements_of_clockIn h) ▸ hentry),
          fun hagree => iff_of_true ?_ (by simp [Database.ClocksOutBreaks, hcommand])⟩
        simp only [Command.run, Zones.clockIn, bind_eq_ok, ensure_eq_ok] at h
        obtain ⟨_, _, h⟩ := h
        split at h
        · split at h
          · obtain rfl := Except.ok.inj h
            exact hagree
          · cases h
        · simp only [bind_eq_ok, ensure_eq_ok] at h
          obtain ⟨_, _, _, _, payroll, _, h⟩ := h
          obtain ⟨_, _, hfresh, rfl⟩ := Database.insertTimeCard_ok h
          exact hagree.cardInserted hevidenced.placed hfresh
    | clockOut request =>
        rw [hcommand] at h
        obtain ⟨⟨card, last⟩, hout, rfl⟩ := map_eq_ok.mp h
        exact ⟨fun entry hentry => .inl (entries_of_statements (statements_of_clockOut hout) ▸ hentry),
          fun hagree => minutesAgree_clockOut_iff hagree hevidenced.sound hout hcommand⟩
    | correct request =>
        rw [hcommand] at h
        obtain ⟨⟨card, last⟩, hout, rfl⟩ := map_eq_ok.mp h
        exact ⟨fun entry hentry => .inl (entries_of_statements (statements_of_correct hout) ▸ hentry),
          fun hagree => iff_of_true (hagree.corrected hout)
            (by simp [Database.ClocksOutBreaks, hcommand])⟩
    | startReview request actorUserId periodId expectedRevision =>
        rw [hcommand] at h
        exact hsame (by simp [hcommand]) (sameCards_of_startReview h)
    | adoptCards request periodId cards =>
        rw [hcommand] at h
        refine ⟨fun entry hentry =>
            .inl (entries_of_statements (statements_of_adoptCards h) ▸ hentry),
          fun hagree => iff_of_true ?_ (by simp [Database.ClocksOutBreaks, hcommand])⟩
        simp only [Command.run, Database.adoptCards, bind_eq_ok, ensure_eq_ok] at h
        obtain ⟨_, _, h⟩ := h
        split at h
        · rename_i answer hanswer
          rw [eq_of_replay hanswer h]
          exact hagree
        · simp only [bind_eq_ok, ensure_eq_ok] at h
          obtain ⟨period, _, _, _, _, _, _, _, _, _, middle, hadopt, hoperation⟩ := h
          have hlast := sameCards_of_insertOperation hoperation
          exact (hagree.adopted hadopt).of_same hlast.cards hlast.breaks
    | decideCards request childOperationId actorUserId periodId decisions =>
        rw [hcommand] at h
        exact hsame (by simp [hcommand]) (sameCards_of_decideCards h)
    | lockPeriod request newId actorUserId periodId expectedRevision =>
        rw [hcommand] at h
        obtain ⟨hcards, hbreaks, hentries⟩ := lockPeriod_evidence h
        exact ⟨hentries, fun hagree => iff_of_true (hagree.of_same hcards hbreaks)
          (by simp [Database.ClocksOutBreaks, hcommand])⟩
    | createAmendment request actorUserId body =>
        rw [hcommand] at h
        exact hsame (by simp [hcommand]) (sameCards_of_createAmendment h)
    | decideAmendment request actorUserId amendmentId decision =>
        rw [hcommand] at h
        exact hsame (by simp [hcommand]) (sameCards_of_decideAmendment h)
  refine ⟨⟨hevidenced.sound.write hwrite, hevidenced.placed.write hevidenced.sound hwrite, ?_⟩,
    hcommand.2⟩
  intro entry hentry
  rcases hcommand.1 entry hentry with hold | hnew
  · exact hevidenced.entries entry hold
  · exact hnew

theorem Database.Evidenced.step (hevidenced : db.Evidenced hashes) (event : Event) :
    (step zones hashes db event).2.Evidenced hashes := by
  unfold LunchLineup.Payroll.step
  cases happly : LunchLineup.Payroll.apply zones hashes db event with
  | error problem => exact hevidenced
  | ok next => exact (hevidenced.apply happly).1

/-- The numbers agree after every step of a run exactly if every accepted clock-out
gives the minutes of the stored intervals. -/
theorem Database.Evidenced.run_iff (hevidenced : db.Evidenced hashes) (hagree : db.MinutesAgree)
    (events : List Event) :
    (∀ t ∈ trace (LunchLineup.Payroll.step zones hashes) db events, t.after.MinutesAgree) ↔
      ∀ t ∈ trace (LunchLineup.Payroll.step zones hashes) db events,
        t.answer = none → t.before.ClocksOutBreaks t.request := by
  induction events generalizing db with
  | nil => simp [trace]
  | cons event rest ih =>
      rw [trace, List.forall_mem_cons, List.forall_mem_cons]
      cases happly : LunchLineup.Payroll.apply zones hashes db event with
      | error problem =>
          have hstep : LunchLineup.Payroll.step zones hashes db event = (some problem, db) := by
            rw [LunchLineup.Payroll.step, happly]
          simp only [transition, hstep]
          rw [ih hevidenced hagree]
          simp [hagree]
      | ok next =>
          have hstep : LunchLineup.Payroll.step zones hashes db event = (none, next) := by
            rw [LunchLineup.Payroll.step, happly]
          obtain ⟨hnext, hminutes⟩ := hevidenced.apply happly
          simp only [transition, hstep, forall_const]
          rw [← hminutes hagree]
          by_cases hkept : next.MinutesAgree
          · rw [ih hnext hkept]
          · simp [hkept]

end Minutes

/-- Break intervals and break minutes.  In every run: the stored intervals of a card
are apart, and inside it once it is closed; the intervals that are hashed into a
locked entry give its break minutes; and the number on every card with stored
intervals is theirs after every step exactly if every accepted clock-out of such a
card gives their minutes. -/
theorem break_intervals_agree (zones : Zones) (hashes : Hashes) (locations : List Location)
    (events : List Event) :
    (∀ db, final (step zones hashes) (.initial locations) events = db →
      (∀ card ∈ db.cards, (db.breaksOf card.id).Pairwise BreakInterval.Apart ∧
        ∀ interval ∈ db.breaksOf card.id, card.clockInAt ≤ interval.startAt ∧
          ∀ clockOutAt ∈ card.clockOutAt, interval.endAt ≤ clockOutAt) ∧
      ∀ entry ∈ db.entries, entry.Evidenced hashes) ∧
    ((∀ t ∈ trace (step zones hashes) (.initial locations) events, t.after.BreaksAgree) ↔
      ∀ t ∈ trace (step zones hashes) (.initial locations) events,
        t.answer = none → t.before.ClocksOutBreaks t.request) := by
  have hstep : ∀ db event, Database.Evidenced hashes db →
      Database.Evidenced hashes (step zones hashes db event).2 := fun db event h => h.step event
  refine ⟨?_, ?_⟩
  · rintro db rfl
    have hfinal := invariant_final (Database.Evidenced hashes) hstep
      (evidenced_initial locations) events
    exact ⟨fun card hcard => hfinal.placed.ofCard hcard, hfinal.entries⟩
  · have hnumbers : (∀ t ∈ trace (step zones hashes) (.initial locations) events,
        t.after.BreaksAgree) ↔ ∀ t ∈ trace (step zones hashes) (.initial locations) events,
        t.after.MinutesAgree := by
      refine forall₂_congr fun t ht => breaksAgree_iff ?_
      obtain ⟨hbefore, heq⟩ := invariant_of_mem_trace (Database.Evidenced hashes) hstep
        (evidenced_initial locations) ht
      rw [heq]
      exact (hstep t.before t.request hbefore).placed
    rw [hnumbers]
    refine (evidenced_initial locations).run_iff ?_ events
    simp [Database.MinutesAgree, Database.initial]

/-! ## A card that was corrected while it was open -/

namespace Sample

/-- A manager clocks the worker in at eight. -/
def clockedIn : Event := onDay 2 (.clockIn ⟨"card", "manager", "worker", true, true, some site,
  none, some (instant 1 8 0), none, "clock-in", "clock-in"⟩)

/-- The open card gets a break of half an hour. -/
def brokenAt : Event := onDay 2 (.correct ⟨"card", "manager", true, true, 2 * dayMs, none, none,
  some [⟨instant 1 12 0, instant 1 12 1800⟩]⟩)

/-- The worker is clocked out after eight hours, with the given break minutes. -/
def clockedOut (breakMinutes : Option JsNumber) : Event := onDay 2 (.clockOut
  ⟨"card", "manager", true, some (instant 1 16 0), breakMinutes, none⟩)

/-- A clock-out without break minutes writes zero over the half hour. -/
theorem clocked_out_without_break :
    ¬ (after (calendar ++ [clockedIn, brokenAt, clockedOut none])).BreaksAgree := by
  intro hagree
  have hcards : ∃ card ∈ (after (calendar ++ [clockedIn, brokenAt, clockedOut none])).cards,
      card.breakMinutes = 0 ∧ (after (calendar ++ [clockedIn, brokenAt,
        clockedOut none])).breaksOf card.id = [⟨instant 1 12 0, instant 1 12 1800⟩] := by
    decide +kernel
  obtain ⟨card, hcard, hzero, hstored⟩ := hcards
  have hminutes := (hagree card hcard (by simp [hstored])).minutes
  rw [hzero, hstored] at hminutes
  exact absurd hminutes (by decide +kernel)

end Sample

end LunchLineup.Payroll
