import LunchLineup.Payroll.Conservation

/-!
# Accepted times and the checks on locked entries

Clock-out, correction, amendment and `payrollWorkedMinutes` compare break minutes
with the duration in their own ways; `"PayrollLockedEntry_values_valid"` asks for
a break strictly shorter than the whole minutes worked.  The services accept a
zero break for a card of any positive length, and an amendment whose break is all
of its whole minutes.  So an accepted card passes the check exactly when it lasts
a whole minute, and an accepted replacement exactly when its break is not all of
its minutes.
-/

namespace LunchLineup.Payroll

open LunchLineup.Lib LunchLineup.Billing

/-- Whatever decision approves the card's current revision, locking computes a
source from the card and the database accepts the entry of that source. -/
def TimeCard.LocksCleanly (card : TimeCard) (hashes : Hashes) : Prop :=
  ∀ (db : Database) (row : Approval) (id : String) (sequence : Nat),
    db.approval? card.id card.revision = some row → row.decision = .approved →
    ∃ source, db.approvedCardSource row.periodId card = .ok source ∧
      (source.entry hashes id row.periodId sequence).ValuesValid

/-- Whatever decision approves the amendment, the database accepts the entry of
its source. -/
def Amendment.LocksCleanly (amendment : Amendment) (hashes : Hashes) (original : LockedEntry) :
    Prop :=
  ∀ (row : AmendmentDecision) (id periodId : String) (sequence : Nat),
    ((amendment.source original row).entry hashes id periodId sequence).ValuesValid

/-- The card lasts a whole minute, and fewer minutes than an `integer` holds. -/
def TimeCard.LastsAMinute (card : TimeCard) : Prop :=
  ∀ clockOutAt ∈ card.clockOutAt, 60000 ≤ clockOutAt - card.clockInAt ∧
    clockOutAt - card.clockInAt < 60000 * 2147483648

instance (card : TimeCard) : Decidable card.LastsAMinute :=
  inferInstanceAs (Decidable (∀ clockOutAt ∈ card.clockOutAt, _))

section Cards

variable {hashes : Hashes} {db db' : Database} {card : TimeCard} {now : Int}

/-- The source that locking computes from an approved card. -/
theorem exists_approvedCardSource {row : Approval} {clockOutAt : Int}
    (happroval : db.approval? card.id card.revision = some row) (happroved : row.decision = .approved)
    (hout : card.clockOutAt = some clockOutAt)
    (hbreak : 0 ≤ card.breakMinutes) (hsafe : IsSafeInteger card.breakMinutes)
    (hwindow : card.clockInAt < clockOutAt)
    (hgross : IsSafeInteger (floorMinutes card.clockInAt clockOutAt))
    (hworked : card.breakMinutes ≤ floorMinutes card.clockInAt clockOutAt) :
    ∃ source, db.approvedCardSource row.periodId card = .ok source ∧
      source.clockInAt = card.clockInAt ∧ source.clockOutAt = clockOutAt ∧
      source.breakMinutes = card.breakMinutes ∧ source.workTimeZone = card.workTimeZone ∧
      source.sourceRevision = card.revision := by
  have hworked' : 0 ≤ floorMinutes card.clockInAt clockOutAt - card.breakMinutes := by omega
  have hminutes : payrollWorkedMinutes card.clockInAt clockOutAt card.breakMinutes
      (.problem 422 "payroll_card_duration_invalid") =
        .ok (floorMinutes card.clockInAt clockOutAt - card.breakMinutes) := by
    simp only [payrollWorkedMinutes, bind_eq_ok, ensure_eq_ok]
    exact ⟨(), ⟨hsafe, hbreak⟩, (), ⟨hwindow, hgross, hworked'⟩, trivial⟩
  have hfound : (db.approval? card.id card.revision).filter (·.periodId = row.periodId) =
      some row := by
    rw [happroval, Option.filter_some_pos]
    simp
  unfold Database.approvedCardSource
  rw [hfound, hout]
  simp only [ensure_of_true _ happroved, hminutes, ok_bind]
  exact ⟨_, rfl, rfl, rfl, rfl, rfl, rfl⟩

/-- A source computed from a card has the card's times and break. -/
theorem approvedCardSource_times {periodId : String} {source : LockedEntrySource}
    (h : db.approvedCardSource periodId card = .ok source) :
    card.clockOutAt = some source.clockOutAt ∧ source.clockInAt = card.clockInAt ∧
      source.breakMinutes = card.breakMinutes := by
  unfold Database.approvedCardSource at h
  split at h
  · rename_i row clockOutAt _ hout
    simp only [bind_eq_ok, ensure_eq_ok] at h
    obtain ⟨_, _, payableMinutes, _, h⟩ := h
    obtain rfl := Except.ok.inj h
    exact ⟨hout, rfl, rfl⟩
  · cases h

/-- The whole minutes between two instants, as a condition on the milliseconds. -/
theorem lt_floorMinutes {minutes a b : Int} :
    minutes < floorMinutes a b ↔ 60000 * (minutes + 1) ≤ b - a := by
  unfold floorMinutes
  omega

/-- An accepted card, whose break is zero or shorter than its whole minutes, is
locked cleanly exactly when it lasts a minute. -/
theorem TimeCard.locksCleanly_iff (hvalues : card.ValuesValid) {clockOutAt : Int}
    (hout : card.clockOutAt = some clockOutAt)
    (hbreak : ¬ (0 < card.breakMinutes ∧ floorMinutes card.clockInAt clockOutAt ≤ card.breakMinutes)) :
    card.LocksCleanly hashes ↔ card.LastsAMinute := by
  obtain ⟨hrevision, hzone, hnonneg, hinteger, hwindow, _⟩ := hvalues
  have hwindow := hwindow clockOutAt (by rw [hout]; rfl)
  constructor
  · intro hlocks
    let row : Approval := ⟨"", card.id, card.revision, .approved, "", 0, ""⟩
    let db : Database := { Database.initial [] with approvals := [row] }
    have hfound : db.approval? card.id card.revision = some row := by
      simp [db, Database.approval?, row]
    obtain ⟨source, hsource, hentry⟩ := hlocks db row "" 0 hfound rfl
    obtain ⟨htimes, hin, hminutes⟩ := approvedCardSource_times hsource
    rw [hout, Option.some.injEq] at htimes
    obtain ⟨_, _, _, _, _, hrange, hstrict, _⟩ := hentry
    replace hrange : IsInteger (floorMinutes source.clockInAt source.clockOutAt) := hrange
    replace hstrict : source.breakMinutes < floorMinutes source.clockInAt source.clockOutAt :=
      hstrict
    rw [hin, ← htimes] at hrange hstrict
    rw [hminutes] at hstrict
    intro other hother
    rw [hout, Option.mem_some_iff] at hother
    rw [← hother]
    have hupper : floorMinutes card.clockInAt clockOutAt ≤ 2147483647 := hrange.2
    have hlower : 60000 * (card.breakMinutes + 1) ≤ clockOutAt - card.clockInAt :=
      lt_floorMinutes.mp hstrict
    unfold floorMinutes at hupper
    omega
  · intro hlasts db row id sequence happroval happroved
    obtain ⟨hlower, hupper⟩ := hlasts clockOutAt (by rw [hout]; rfl)
    have hgross : 1 ≤ floorMinutes card.clockInAt clockOutAt ∧
        floorMinutes card.clockInAt clockOutAt ≤ 2147483647 := by
      unfold floorMinutes
      omega
    have hstrict : card.breakMinutes < floorMinutes card.clockInAt clockOutAt := by omega
    have hinteger' : card.breakMinutes ≤ 2147483647 := hinteger.2
    have hsafe : IsSafeInteger card.breakMinutes := by
      simp only [IsSafeInteger, maxSafeInteger]
      omega
    have hgross_safe : IsSafeInteger (floorMinutes card.clockInAt clockOutAt) := by
      simp only [IsSafeInteger, maxSafeInteger]
      omega
    have hgross_integer : IsInteger (floorMinutes card.clockInAt clockOutAt) := by
      simp only [IsInteger, maxStoredCreditBalance]
      omega
    obtain ⟨source, hsource, hin, hclockOut, hminutes, hsource_zone, hsource_revision⟩ :=
      exists_approvedCardSource happroval happroved hout hnonneg hsafe hwindow hgross_safe
        hstrict.le
    refine ⟨source, hsource, ?_⟩
    refine ⟨Int.natCast_nonneg sequence, ?_, ?_, ?_, ?_, ?_, ?_, (hashes.lockEntry _ source).2⟩
    · show 0 < source.sourceRevision
      rw [hsource_revision]
      exact hrevision
    · show TimeZoneText source.workTimeZone
      rw [hsource_zone]
      exact hzone
    · show source.clockInAt < source.clockOutAt
      rw [hin, hclockOut]
      exact hwindow
    · show 0 ≤ source.breakMinutes
      rw [hminutes]
      exact hnonneg
    · show IsInteger (floorMinutes source.clockInAt source.clockOutAt)
      rw [hin, hclockOut]
      exact hgross_integer
    · show source.breakMinutes < floorMinutes source.clockInAt source.clockOutAt
      rw [hin, hclockOut, hminutes]
      exact hstrict

/-- `normalizeClockOutBreakMinutes` lets a zero break pass whatever the
duration. -/
theorem normalizeClockOutBreakMinutes_ok {value : Option JsNumber} {totalMinutes minutes : Int}
    (h : normalizeClockOutBreakMinutes value totalMinutes = .ok minutes) :
    ¬ (0 < minutes ∧ totalMinutes ≤ minutes) := by
  unfold normalizeClockOutBreakMinutes at h
  split at h
  · obtain rfl := Except.ok.inj h
    simp
  · cases h
  · simp only [bind_eq_ok, ensure_eq_ok] at h
    obtain ⟨_, _, _, hbreak, h⟩ := h
    obtain rfl := Except.ok.inj h
    exact hbreak

theorem locksCleanly_of_clockOut {request : ClockOutRequest}
    (h : db.clockOut now request = .ok (card, db')) :
    card.LocksCleanly hashes ↔ card.LastsAMinute := by
  simp only [Database.clockOut, bind_eq_ok, ensure_eq_ok] at h
  obtain ⟨_, _, old, _, _, _, _, _, _, _, _, _, minutes, hminutes, _, _, middle, hupdate, h⟩ := h
  obtain ⟨rfl, rfl⟩ := Prod.mk.inj (Except.ok.inj h)
  obtain ⟨_, _, _, _, _, hvalues, _⟩ := Database.updateTimeCard_ok hupdate
  exact TimeCard.locksCleanly_iff hvalues rfl (normalizeClockOutBreakMinutes_ok hminutes)

/-- `validateTimeCardCorrection` makes the same comparison. -/
theorem validateTimeCardCorrection_ok {body : CorrectionRequest} {stored : List BreakInterval}
    {correction : Correction} (h : validateTimeCardCorrection body card stored now = .ok correction) :
    ¬ (0 < correction.breakMinutes ∧
        floorMinutes correction.clockInAt (correction.clockOutAt.getD now) ≤
          correction.breakMinutes) ∧
      (correction.status = .closed → ∃ clockOutAt, correction.clockOutAt = some clockOutAt) := by
  simp only [validateTimeCardCorrection, bind_eq_ok, ensure_eq_ok] at h
  obtain ⟨_, _, _, _, _, _, _, _, _, hbreak, h⟩ := h
  obtain rfl := Except.ok.inj h
  refine ⟨hbreak, ?_⟩
  intro hclosed
  by_cases hout : (body.clockOutAt.getD card.clockOutAt).isSome = true
  · exact Option.isSome_iff_exists.mp hout
  · rw [if_neg hout] at hclosed
    cases hclosed

theorem locksCleanly_of_correct {zones : Zones} {request : CorrectionRequest}
    (h : zones.correct db now request = .ok (card, db')) (hclosed : card.status = .closed) :
    card.LocksCleanly hashes ↔ card.LastsAMinute := by
  simp only [Zones.correct, bind_eq_ok, ensure_eq_ok] at h
  obtain ⟨_, _, _, _, old, _, _, _, correction, hcorrection, assignment, _, _, _, _, _, _, _, _, _,
    middle, hupdate, last, _, h⟩ := h
  have hcard : card = old.corrected now correction assignment := by
    split at h
    · exact (Prod.mk.inj (Except.ok.inj h)).1.symm
    · obtain ⟨_, _, h⟩ := bind_eq_ok.mp h
      exact (Prod.mk.inj (Except.ok.inj h)).1.symm
  subst hcard
  obtain ⟨_, _, _, _, _, hvalues, _⟩ := Database.updateTimeCard_ok hupdate
  obtain ⟨hbreak, hout⟩ := validateTimeCardCorrection_ok hcorrection
  obtain ⟨clockOutAt, hout⟩ := hout hclosed
  rw [hout] at hbreak
  exact TimeCard.locksCleanly_iff hvalues hout hbreak

end Cards

section Amendments

variable {hashes : Hashes} {db db' : Database}

/-- An amendment that was just accepted passed the trigger. -/
theorem insertAmendment_of_createAmendment {request : RequestIdentity} {actorUserId : String}
    {body : AmendmentRequest} (h : db.createAmendment request actorUserId body = .ok db') :
    db' = db ∨ ∃ amendment, db.insertAmendment amendment = .ok db' := by
  simp only [Database.createAmendment] at h
  split at h
  · cases h
  · obtain ⟨payableMinutes, _, h⟩ := bind_eq_ok.mp h
    split at h
    · split at h
      · exact .inl (Except.ok.inj h).symm
      · cases h
    · obtain ⟨adjustmentPeriod, _, h⟩ := bind_eq_ok.mp h
      split at h
      · cases h
      · simp only [bind_eq_ok, ensure_eq_ok] at h
        obtain ⟨_, _, _, _, _, _, sourcePeriod, _, _, _, _, _, h⟩ := h
        exact .inr ⟨_, h⟩

theorem Amendment.locksCleanly_iff (hsound : Sound db) {amendment : Amendment}
    (h : db.insertAmendment amendment = .ok db') {original : LockedEntry}
    (horiginal : original ∈ db.entries) :
    amendment.LocksCleanly hashes original ↔ amendment.replacementBreakMinutes ≠
      floorMinutes amendment.replacementClockInAt amendment.replacementClockOutAt := by
  obtain ⟨⟨entry, _, _, _, _, _, hnonneg, hpayable, _⟩, hinteger, hvalues, _, _⟩ :=
    Database.insertAmendment_ok h
  obtain ⟨_, hwindow, hbreak, _⟩ := hvalues
  constructor
  · intro hlocks
    have hstrict := (hlocks ⟨"", .approved, "", "", "", 0⟩ "" "" 0).2.2.2.2.2.2.1
    replace hstrict : amendment.replacementBreakMinutes <
      floorMinutes amendment.replacementClockInAt amendment.replacementClockOutAt := hstrict
    exact hstrict.ne
  · intro hne row id periodId sequence
    have hstrict : amendment.replacementBreakMinutes <
        floorMinutes amendment.replacementClockInAt amendment.replacementClockOutAt := by omega
    exact ⟨Int.natCast_nonneg sequence, Int.one_pos, (hsound.entryValues original horiginal).2.2.1,
      hwindow, hbreak, hinteger, hstrict, (hashes.lockEntry _ _).2⟩

end Amendments

/-- In every reachable state: a card that `clockOut` closes, or that `correct`
leaves closed, locks cleanly exactly when it lasts a whole minute (and fewer than
`2 ^ 31`); an amendment that `createAmendment` accepts locks cleanly exactly when
its break is not all of its whole minutes. -/
theorem accepted_times_lock_cleanly (zones : Zones) (hashes : Hashes) (locations : List Location)
    (events : List Event) :
    (∀ now request card db', (final (step zones hashes) (.initial locations) events).clockOut now
        request = .ok (card, db') → (card.LocksCleanly hashes ↔ card.LastsAMinute)) ∧
    (∀ now request card db', zones.correct (final (step zones hashes) (.initial locations) events)
        now request = .ok (card, db') → card.status = .closed →
          (card.LocksCleanly hashes ↔ card.LastsAMinute)) ∧
    (∀ request actorUserId body db',
      (final (step zones hashes) (.initial locations) events).createAmendment request actorUserId
        body = .ok db' → ∀ amendment ∈ db'.amendments,
          amendment ∉ (final (step zones hashes) (.initial locations) events).amendments →
          ∀ original ∈ db'.entries, original.id = amendment.lockedEntryId →
            (amendment.LocksCleanly hashes original ↔ amendment.replacementBreakMinutes ≠
              floorMinutes amendment.replacementClockInAt amendment.replacementClockOutAt)) := by
  refine ⟨?_, ?_, ?_⟩
  · exact fun now request card db' h => locksCleanly_of_clockOut h
  · exact fun now request card db' h hclosed => locksCleanly_of_correct h hclosed
  · intro request actorUserId body db' h amendment hmem hnew original horiginal _
    rcases insertAmendment_of_createAmendment h with rfl | ⟨created, hinsert⟩
    · exact absurd hmem hnew
    · obtain ⟨_, _, _, _, hdb⟩ := Database.insertAmendment_ok hinsert
      rw [hdb] at hmem horiginal
      rcases List.mem_append.mp hmem with hold | hcreated
      · exact absurd hold hnew
      · rw [List.mem_singleton.mp hcreated]
        exact Amendment.locksCleanly_iff (sound_final zones hashes locations events) hinsert
          horiginal

/-! ## A card of half a minute -/

namespace Sample

/-- The worker is clocked in and out within thirty seconds, with the default
break; the card is reviewed and approved. -/
def halfMinute : List Event := calendar ++ worked 30 ++ decided .approved

/-- Every command on the way is accepted, and then the database refuses to lock
the period. -/
theorem half_minute_card_blocks_lock :
    (∀ t ∈ trace (step zones hashes) (.initial [site]) halfMinute, t.answer = none) ∧
      (step zones hashes (after halfMinute) lockFirst).1 =
        some (.constraint "PayrollLockedEntry_values_valid") := by
  decide +kernel

/-- A card of one minute locks cleanly. -/
theorem one_minute_card_locks_cleanly :
    ∃ card db', (after (calendar ++ (worked 60).take 1)).clockOut (instant 2 0 0)
        ⟨"card", "manager", true, some (instant 1 8 60), none, none⟩ = .ok (card, db') ∧
      card.LocksCleanly hashes := by
  have hlasts : ((after (calendar ++ (worked 60).take 1)).clockOut (instant 2 0 0)
      ⟨"card", "manager", true, some (instant 1 8 60), none, none⟩).toOption.any
        (fun result => decide result.1.LastsAMinute) = true := by
    decide +kernel
  cases hresult : (after (calendar ++ (worked 60).take 1)).clockOut (instant 2 0 0)
      ⟨"card", "manager", true, some (instant 1 8 60), none, none⟩ with
  | error problem =>
      rw [hresult] at hlasts
      cases hlasts
  | ok result =>
      rw [hresult] at hlasts
      refine ⟨result.1, result.2, rfl, ?_⟩
      apply ((accepted_times_lock_cleanly zones hashes [site]
        (calendar ++ (worked 60).take 1)).1 _ _ result.1 result.2 hresult).mpr
      exact of_decide_eq_true hlasts

end Sample

end LunchLineup.Payroll
