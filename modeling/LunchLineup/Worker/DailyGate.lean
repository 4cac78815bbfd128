import LunchLineup.Worker.GateSound
import LunchLineup.Python.Reference

/-!
# The daily coverage gate

Without demand windows the worker checks the shifts of a response date by date:
it groups them by the local date on which they start, and demands that enough
of a group work between its first start and its last end.  A date without
shifts has no group and is never looked at.

`daily_gate_covers_dates` says what this is worth: every date of the horizon is
covered exactly if the response opens it, that is, has a shift that starts on
it and does not continue a touching shift of the same person and role.  Shifts
that continue another are merged into it before the dates are compared, so
their own date is lost.
-/

namespace LunchLineup.Worker

open LunchLineup.Lib LunchLineup.Python

/-! ## What the gate promises -/

/-- The shifts that start on a local date. -/
def shiftsOn (zone : ZoneInfo) (shifts : List NormalizedShift) (date : Int) :
    List NormalizedShift :=
  shifts.filter fun shift => dateOf (zone.toLocal shift.startTime) = date

/-- A shift starts on the date, and between the first start and the last end of
that date's shifts enough of them work. -/
def CoversDate (rt : Runtime) (payload : SolvePayload) (zone : ZoneInfo)
    (shifts : List NormalizedShift) (date : Int) : Prop :=
  shiftsOn zone shifts date ≠ [] ∧ ∃ required,
    dailyRequiredStaff rt payload date = .ok required ∧
    ∀ t, (∃ first ∈ shiftsOn zone shifts date, first.startTime ≤ t) →
      (∃ last ∈ shiftsOn zone shifts date, t < last.endTime) →
      required ≤ (shiftsOn zone shifts date).countP fun shift => shift.duty.onDuty t

/-- The response opens the date: a shift starts on it that continues none of the
same person and role. -/
def Opens (rt : Runtime) (zone : ZoneInfo) (rawShifts : List RawShift) (date : Int) : Prop :=
  ∃ rawShift ∈ rawShifts, ∃ startTime endTime role,
    readShiftFields rt 0 rawShift = .ok (startTime, endTime, role) ∧
    dateOf (zone.toLocal startTime) = date ∧
    ∀ other ∈ rawShifts, ∀ otherStart otherEnd,
      readShiftFields rt 0 other = .ok (otherStart, otherEnd, role) →
      other.staff = rawShift.staff → otherEnd ≠ startTime

/-! ## Covered groups -/

theorem mem_dutyEdges {duties : List (Duty Int)} {duty : Duty Int} (hmem : duty ∈ duties) :
    duty.lower ∈ dutyEdges duties ∧ duty.upper ∈ dutyEdges duties ∧
      ∀ hole ∈ duty.holes, hole.1 ∈ dutyEdges duties ∧ hole.2 ∈ dutyEdges duties := by
  simp only [dutyEdges, List.mem_flatMap, List.mem_cons]
  refine ⟨⟨duty, hmem, .inl rfl⟩, ⟨duty, hmem, .inr (.inl rfl)⟩, ?_⟩
  intro hole hhole
  exact ⟨⟨duty, hmem, .inr (.inr ⟨hole, hhole, by simp⟩)⟩,
    ⟨duty, hmem, .inr (.inr ⟨hole, hhole, by simp⟩)⟩⟩

/-- On a piece between neighbouring edges a duty works throughout or not at all. -/
theorem workingOn_iff_onDuty_of_edges {duties : List (Duty Int)} {duty : Duty Int}
    (hmem : duty ∈ duties) {piece : Int × Int}
    (hpiece : piece ∈ cuts (sortedSet (dutyEdges duties))) {t : Int} (hle : piece.1 ≤ t)
    (hlt : t < piece.2) : duty.workingOn piece.1 piece.2 = true ↔ duty.onDuty t = true := by
  obtain ⟨hlower, hupper, hholes⟩ := mem_dutyEdges hmem
  have hfree := (not_lt_lt_of_mem_cuts (sortedSet_pairwise_lt _) hpiece).2
  have huncut : ∀ {lower upper : Int}, lower ∈ dutyEdges duties → upper ∈ dutyEdges duties →
      Duty.Uncut piece.1 piece.2 lower upper := by
    intro lower upper hlowerMem hupperMem hbefore hafter
    have hlowerFree := hfree lower (mem_sortedSet.mpr hlowerMem)
    have hupperFree := hfree upper (mem_sortedSet.mpr hupperMem)
    constructor <;> omega
  exact Duty.workingOn_iff_onDuty hle hlt (huncut hlower hupper)
    fun _ _ hole hhole => huncut (hholes hole hhole).1 (hholes hole hhole).2

/-- What the check of one date gives. -/
theorem checkDate_ok {rt : Runtime} {payload : SolvePayload} {group : List NormalizedShift}
    {date : Int} {u : Unit} (h : checkDate rt payload group date = .ok u) :
    ∃ required, dailyRequiredStaff rt payload date = .ok required ∧
      ∀ t, (∃ first ∈ group, first.startTime ≤ t) → (∃ last ∈ group, t < last.endTime) →
        required ≤ group.countP fun shift => shift.duty.onDuty t := by
  simp only [checkDate, bind_eq_ok, checkAll_eq_ok, ensure_eq_ok] at h
  obtain ⟨required, hrequired, hpieces⟩ := h
  refine ⟨required, hrequired, ?_⟩
  rintro t ⟨first, hfirst, hle⟩ ⟨last, hlast, hlt⟩
  have hedges : ∀ shift ∈ group,
      shift.startTime ∈ sortedSet (dutyEdges (group.map NormalizedShift.duty)) ∧
      shift.endTime ∈ sortedSet (dutyEdges (group.map NormalizedShift.duty)) := by
    intro shift hshift
    have hduty := mem_dutyEdges (List.mem_map_of_mem (f := NormalizedShift.duty) hshift)
    exact ⟨mem_sortedSet.mpr hduty.1, mem_sortedSet.mpr hduty.2.1⟩
  obtain ⟨piece, hpiece, hpieceLe, hpieceLt⟩ :=
    exists_mem_cuts (sortedSet_pairwise_lt _) (hedges first hfirst).1 (hedges last hlast).2 hle hlt
  have hcount : (group.countP fun shift => shift.duty.workingOn piece.1 piece.2) =
      group.countP fun shift => shift.duty.onDuty t := by
    refine List.countP_congr fun shift hshift => ?_
    exact workingOn_iff_onDuty_of_edges (List.mem_map_of_mem hshift) hpiece hpieceLe hpieceLt
  rw [← hcount]
  exact hpieces piece hpiece

/-! ## Where merged shifts begin -/

/-- A merge begins as its first shift begins. -/
theorem joins_mergeShifts (rt : Runtime) (payload : SolvePayload)
    (other previous shift : NormalizedShift) (hjoins : previous.joins shift = true) :
    other.joins (mergeShifts rt payload previous shift) = other.joins previous := by
  obtain ⟨hstaff, _, hrole⟩ := NormalizedShift.joins_iff.mp hjoins
  simp only [NormalizedShift.joins, mergeShifts, hstaff, hrole]

/-- A shift that continues none begins an accepted shift. -/
theorem exists_accepted_of_fresh {rt : Runtime} {payload : SolvePayload}
    {solved shifts : List NormalizedShift} (hwell : ∀ shift ∈ solved, shift.WellFormed)
    (hsome : solved ≠ []) (h : coalesceAdjacentSolvedShifts rt payload solved = .ok shifts)
    {source : NormalizedShift} (hsource : source ∈ solved)
    (hfresh : ∀ other ∈ solved, other.joins source = false) :
    ∃ shift ∈ shifts, shift.startTime = source.startTime := by
  obtain ⟨first, rest, hperm, _, hchain, _, rfl⟩ := coalesceAdjacent_cases hwell hsome h
  -- an entry of the loop ends as the last shift merged into it ends
  have hmerging : Merging NormalizedShift.joins (mergeShifts rt payload)
      (fun shift => ∃ other ∈ solved, ∀ next, other.joins next = shift.joins next)
      NormalizedShift.Follows := by
    refine ⟨?_, ?_⟩
    · rintro previous shift _ ⟨other, hother, hsame⟩ _ _
      exact ⟨other, hother, hsame⟩
    · intro previous shift third _ _ hnext
      exact hnext
  have hup : ∃ shift ∈ coalesce NormalizedShift.joins (mergeShifts rt payload) first rest,
      shift.startTime = source.startTime ∧ ∀ other ∈ solved, other.joins shift = false := by
    refine hmerging.exists_up ?_ ?_ hchain ⟨source, hperm.mem_iff.mpr hsource, rfl, hfresh⟩
    · rintro previous shift ⟨other, hother, hsame⟩ _ _ hjoins (⟨hstart, hnone⟩ | ⟨_, hnone⟩)
      · refine ⟨hstart, fun third hthird => ?_⟩
        rw [joins_mergeShifts rt payload third previous shift hjoins]
        exact hnone third hthird
      · rw [← hsame, hnone other hother] at hjoins
        cases hjoins
    · intro shift hshift
      exact ⟨shift, hperm.mem_iff.mp hshift, fun _ => rfl⟩
  obtain ⟨shift, hshift, hstart, _⟩ := hup
  exact ⟨shift, hshift, hstart⟩

/-- No two accepted shifts of one person and role touch. -/
theorem coalesceAdjacent_not_joins {rt : Runtime} {payload : SolvePayload}
    {solved shifts : List NormalizedShift} (hwell : ∀ shift ∈ solved, shift.WellFormed)
    (hsome : solved ≠ []) (h : coalesceAdjacentSolvedShifts rt payload solved = .ok shifts)
    {first second : NormalizedShift} (hfirst : first ∈ shifts) (hsecond : second ∈ shifts) :
    ¬ first.joins second = true := by
  have hcoalesced := coalesceAdjacent_ok hwell hsome h
  have hneighbours : (shifts.Pairwise fun a b => a.staffId ≤ b.staffId) ∧
      shifts.IsChain fun a b => ¬ a.joins b = true := by
    obtain ⟨head, rest, hperm, hsorted, hchain, _, rfl⟩ := coalesceAdjacent_cases hwell hsome h
    constructor
    · refine (merge_merging rt payload).pairwise ?_ ?_
        (fun shift hshift => hwell shift (hperm.mem_iff.mp hshift)) hchain hsorted
      · intro a b c _ _ _ _ _ hb
        exact hb
      · intro a b c _ _ _ _ _ hb
        exact hb
    · refine (isChain_coalesce (joins_mergeShifts rt payload) head rest).imp ?_
      intro a b hab
      simp [hab]
  have hforward := pairwise_not_of_neighbours
    (R := fun a b : NormalizedShift => a.joins b = true)
    (fun hab => ⟨(NormalizedShift.joins_iff.mp hab).1, (NormalizedShift.joins_iff.mp hab).2.1.symm⟩)
    hneighbours.1 (fun shift hshift => (hcoalesced.wellFormed shift hshift).nonempty)
    hcoalesced.follows hneighbours.2
  -- a shift does not touch itself, and none that follows it from behind
  have hself : ∀ shift ∈ shifts, ¬ shift.joins shift = true := by
    intro shift hshift hjoins
    have hnonempty := (hcoalesced.wellFormed shift hshift).nonempty
    have hedge := (NormalizedShift.joins_iff.mp hjoins).2.1
    omega
  have hbackward : shifts.Pairwise fun a b => ¬ b.joins a = true := by
    refine hcoalesced.follows.imp_of_mem ?_
    intro a b ha hb hafter hjoins
    obtain ⟨hstaff, hedge, _⟩ := NormalizedShift.joins_iff.mp hjoins
    have hfirstLt := (hcoalesced.wellFormed a ha).nonempty
    have hsecondLt := (hcoalesced.wellFormed b hb).nonempty
    have hle := hafter hstaff.symm
    omega
  exact hforward.forall_of_forall_of_flip hself hbackward hfirst hsecond

/-- An accepted shift begins with a shift that continues none. -/
theorem exists_fresh_of_accepted {rt : Runtime} {payload : SolvePayload}
    {solved shifts : List NormalizedShift} (hwell : ∀ shift ∈ solved, shift.WellFormed)
    (hsome : solved ≠ []) (h : coalesceAdjacentSolvedShifts rt payload solved = .ok shifts)
    {shift : NormalizedShift} (hshift : shift ∈ shifts) :
    ∃ source ∈ solved, source.startTime = shift.startTime ∧
      ∀ other ∈ solved, ¬ other.joins source = true := by
  have hcoalesced := coalesceAdjacent_ok hwell hsome h
  have hapart := fun {other : NormalizedShift} (hother : other ∈ shifts) =>
    coalesceAdjacent_not_joins hwell hsome h hother hshift
  obtain ⟨head, rest, hperm, _, hchain, _, rfl⟩ := coalesceAdjacent_cases hwell hsome h
  have hvalid : ∀ shift ∈ head :: rest, shift.WellFormed :=
    fun shift hshift => hwell shift (hperm.mem_iff.mp hshift)
  have hmerging := merge_merging rt payload
  -- the first shift of the merge starts with it and has its person and role
  have hdown : ∃ source ∈ head :: rest, source.startTime = shift.startTime ∧
      source.staffId = shift.staffId ∧ source.role = shift.role := by
    refine hmerging.exists_down ?_ hvalid hchain ⟨shift, hshift, rfl, rfl, rfl⟩
    rintro previous next _ _ _ hjoins ⟨hstart, hstaff, hrole⟩
    obtain ⟨hsame, _, hsameRole⟩ := NormalizedShift.joins_iff.mp hjoins
    exact .inl ⟨hstart, hsame.trans hstaff, hsameRole.symm.trans hrole⟩
  obtain ⟨source, hsource, hstart, hstaff, hrole⟩ := hdown
  refine ⟨source, hperm.mem_iff.mp hsource, hstart, ?_⟩
  intro other hother hjoins
  obtain ⟨hotherStaff, hedge, hotherRole⟩ := NormalizedShift.joins_iff.mp hjoins
  -- otherwise the accepted shift with `other` in it would touch `shift`
  have hup : ∃ before ∈ coalesce NormalizedShift.joins (mergeShifts rt payload) head rest,
      before.staffId = shift.staffId ∧ before.role = shift.role ∧
        before.startTime < shift.startTime ∧ shift.startTime ≤ before.endTime := by
    refine hmerging.exists_up ?_ hvalid hchain ⟨other, hperm.mem_iff.mpr hother, ?_, ?_, ?_, ?_⟩
    · intro previous next hprevious hnext _ hboth hcases
      obtain ⟨hsame, htouch, hsameRole⟩ := NormalizedShift.joins_iff.mp hboth
      have hfirst := hprevious.nonempty
      have hsecond := hnext.nonempty
      show next.staffId = _ ∧ next.role = _ ∧ previous.startTime < _ ∧ _ ≤ next.endTime
      rcases hcases with ⟨hs, hr, hlt, hle⟩ | ⟨hs, hr, hlt, hle⟩
      · exact ⟨hsame.symm.trans hs, hsameRole.trans hr, hlt, by omega⟩
      · exact ⟨hs, hr, by omega, hle⟩
    · exact hotherStaff.trans hstaff
    · exact hotherRole.symm.trans hrole
    · have hnonempty := (hwell other hother).nonempty
      omega
    · omega
  obtain ⟨before, hbefore, hbeforeStaff, hbeforeRole, hlt, hle⟩ := hup
  have hend : before.endTime = shift.startTime := by
    have hseparate : before = shift ∨ before.Apart shift := by
      refine List.Pairwise.forall_of_forall_of_flip (R := fun a b => a = b ∨ NormalizedShift.Apart a b)
        (fun _ _ => .inl rfl) ?_ ?_ hbefore hshift
      · exact hcoalesced.follows.imp fun hab => .inr fun hsame => .inl (hab hsame)
      · exact hcoalesced.follows.imp fun hab => .inr fun hsame => .inr (hab hsame.symm)
    rcases hseparate with rfl | hseparate
    · omega
    · rcases hseparate hbeforeStaff with hafter | hafter
      · exact le_antisymm hafter hle
      · have hnonempty := (hcoalesced.wellFormed shift hshift).nonempty
        omega
  exact hapart hbefore (NormalizedShift.joins_iff.mpr ⟨hbeforeStaff, hend.symm, hbeforeRole.symm⟩)

/-! ## The gate -/

theorem readShiftFields_index {rt : Runtime} {rawShift : RawShift} {index other : Nat}
    {fields : Int × Int × String} (h : readShiftFields rt index rawShift = .ok fields) :
    readShiftFields rt other rawShift = .ok fields := by
  have hinstant : ∀ {value : Option RawValue} {field : String} (field' : String) {instant : Int},
      readInstant rt value field = .ok instant → readInstant rt value field' = .ok instant := by
    intro value field field' instant hread
    unfold readInstant at hread ⊢
    split at hread
    · simp only [parseIsoDatetime, bind_eq_ok, ensure_eq_ok, exists_const] at hread ⊢
      refine ⟨hread.1, hread.2.1, ?_⟩
      have hlast := hread.2.2
      split at hlast
      · exact hlast
      · cases hlast
    · cases hread
  simp only [readShiftFields, bind_eq_ok] at h ⊢
  obtain ⟨startTime, hstart, endTime, hend, role, hrole, heq⟩ := h
  exact ⟨startTime, hinstant _ hstart, endTime, hinstant _ hend, role, hrole, heq⟩

theorem ReadsShift.fields_zero {rt : Runtime} {rawShift : RawShift} {shift : NormalizedShift}
    (h : ReadsShift rt rawShift shift) :
    readShiftFields rt 0 rawShift = .ok (shift.startTime, shift.endTime, shift.role) := by
  obtain ⟨index, hfields⟩ := h.fields
  exact readShiftFields_index hfields

/-- A date is opened exactly if a shift that was read starts on it and continues
none. -/
theorem opens_iff {rt : Runtime} {zone : ZoneInfo} {rawShifts : List RawShift}
    {solved : List NormalizedShift} (hreads : List.Forall₂ (ReadsShift rt) rawShifts solved)
    {date : Int} :
    Opens rt zone rawShifts date ↔ ∃ source ∈ solved,
      dateOf (zone.toLocal source.startTime) = date ∧
      ∀ other ∈ solved, ¬ other.joins source = true := by
  constructor
  · rintro ⟨rawShift, hraw, startTime, endTime, role, hfields, hdate, hfresh⟩
    obtain ⟨source, hsource, hread⟩ := exists_right_of_forall₂ hreads hraw
    have heq := hread.fields_zero.symm.trans hfields
    rw [Except.ok.injEq, Prod.mk.injEq, Prod.mk.injEq] at heq
    obtain ⟨rfl, rfl, rfl⟩ := heq
    refine ⟨source, hsource, hdate, ?_⟩
    intro other hother hjoins
    obtain ⟨hstaff, hedge, hrole⟩ := NormalizedShift.joins_iff.mp hjoins
    obtain ⟨rawOther, hrawOther, hreadOther⟩ := exists_left_of_forall₂ hreads hother
    refine hfresh rawOther hrawOther other.startTime other.endTime ?_ ?_ hedge.symm
    · rw [hrole]
      exact hreadOther.fields_zero
    · rw [← hreadOther.staffId, ← hread.staffId, hstaff]
  · rintro ⟨source, hsource, hdate, hfresh⟩
    obtain ⟨rawShift, hraw, hread⟩ := exists_left_of_forall₂ hreads hsource
    refine ⟨rawShift, hraw, source.startTime, source.endTime, source.role, hread.fields_zero, hdate,
      ?_⟩
    intro rawOther hrawOther otherStart otherEnd hfields hstaff hedge
    obtain ⟨other, hother, hreadOther⟩ := exists_right_of_forall₂ hreads hrawOther
    have heq := hreadOther.fields_zero.symm.trans hfields
    rw [Except.ok.injEq, Prod.mk.injEq, Prod.mk.injEq] at heq
    refine hfresh other hother (NormalizedShift.joins_iff.mpr ⟨?_, ?_, heq.2.2.symm⟩)
    · rw [hreadOther.staffId, hread.staffId, hstaff]
    · rw [heq.2.1, hedge]

/-- A response that passes the gate of a payload without demand windows covers
every date of the horizon exactly if it opens every one. -/
theorem daily_gate_covers_dates {rt : Runtime} {payload : SolvePayload} {response : RawResponse}
    {shifts : List NormalizedShift} {zone : ZoneInfo} {scheduleStart scheduleEnd : Int}
    {rawShifts : List RawShift} (hwindows : payload.demandWindows = [])
    (hnormalize : normalizeSolvedShifts rt payload response = .ok shifts)
    (hvalidate : validateSolvedDemandCoverage rt payload shifts = .ok ())
    (hzone : rt.zoneInfo payload.timezone = some zone)
    (hstart : parseIsoDatetime rt payload.startDate "start_date" false = .ok scheduleStart)
    (hend : parseIsoDatetime rt payload.endDate "end_date" false = .ok scheduleEnd)
    (hraw : response.shifts.read = .ok rawShifts) :
    (∀ date, dateOf (zone.toLocal scheduleStart) ≤ date →
        date < dateOf (zone.toLocal scheduleEnd) → CoversDate rt payload zone shifts date) ↔
      ∀ date, dateOf (zone.toLocal scheduleStart) ≤ date →
        date < dateOf (zone.toLocal scheduleEnd) → Opens rt zone rawShifts date := by
  obtain ⟨_, _, rawShifts', solved, _, _, hraw', hsolved, hsome, hfinal, _⟩ :=
    normalizeSolvedShifts_ok hnormalize
  obtain rfl : rawShifts' = rawShifts := Except.ok.inj (hraw'.symm.trans hraw)
  obtain ⟨hreads, hgood⟩ := collectShifts_ok hsolved
  have hwell : ∀ shift ∈ solved, shift.WellFormed := fun shift hshift => (hgood shift hshift).1
  rw [validateSolvedDemandCoverage, if_pos hwindows, validateSolvedDailyCoverage, hzone] at hvalidate
  refine forall_congr' fun date => forall_congr' fun _ => forall_congr' fun _ => ?_
  rw [opens_iff hreads]
  constructor
  · rintro ⟨hshifts, _⟩
    obtain ⟨shift, hshift⟩ := List.exists_mem_of_ne_nil _ hshifts
    obtain ⟨hmem, hdate⟩ := List.mem_filter.mp hshift
    obtain ⟨source, hsource, hsame, hfresh⟩ := exists_fresh_of_accepted hwell hsome hfinal hmem
    refine ⟨source, hsource, ?_, hfresh⟩
    rw [hsame]
    exact of_decide_eq_true hdate
  · rintro ⟨source, hsource, hdate, hfresh⟩
    obtain ⟨shift, hshift, hsame⟩ := exists_accepted_of_fresh hwell hsome hfinal hsource
      fun other hother => Bool.eq_false_iff.mpr (hfresh other hother)
    have hdateOf : dateOf (zone.toLocal shift.startTime) = date := by rw [hsame, hdate]
    have hgroup : shift ∈ shiftsOn zone shifts date :=
      List.mem_filter.mpr ⟨hshift, decide_eq_true hdateOf⟩
    refine ⟨List.ne_nil_of_mem hgroup, ?_⟩
    refine checkDate_ok (checkAll_eq_ok.mp hvalidate date ?_)
    rw [mem_firstOccurrences]
    exact List.mem_map.mpr ⟨shift, hshift, hdateOf⟩

/-! ## A horizon of two days -/

namespace TwoDays

/-- One person and a horizon of two days in UTC, without demand windows. -/
def payload : SolvePayload where
  scheduleId := "s"
  tenantId := "t"
  locationId := "l"
  startDate := "2026-03-09"
  endDate := "2026-03-11"
  draftRevision := 0
  inputShiftSnapshot := []
  staffIds := ["a"]
  constraints := []
  availability := []
  availabilityExceptions := []
  availabilityConfigured := []
  staffSkills := []
  skillRequirements := []
  dailyDemand := .none
  demandWindows := []
  timezone := "UTC"
  existingWeeklyMinutes := []
  existingShifts := []

def shift (startTime endTime : String) : RawShift where
  staffId := some (.text "a")
  startTime := some (.text startTime)
  endTime := some (.text endTime)
  role := none
  breaks := .missing

def monday : RawShift := shift "2026-03-09T09:00:00Z" "2026-03-09T13:00:00Z"

def tuesday : RawShift := shift "2026-03-10T09:00:00Z" "2026-03-10T13:00:00Z"

def rt : Runtime := .reference fun _ => none

/-- The shifts that the gate accepts from a response. -/
def accepted (rawShifts : List RawShift) : Option (List NormalizedShift) :=
  match normalizeSolvedShifts rt payload ⟨.items rawShifts⟩ with
  | .ok shifts =>
      match validateSolvedDemandCoverage rt payload shifts with
      | .ok _ => some shifts
      | .error _ => none
  | .error _ => none

theorem accepted_eq_some {rawShifts : List RawShift} {shifts : List NormalizedShift}
    (h : accepted rawShifts = some shifts) :
    normalizeSolvedShifts rt payload ⟨.items rawShifts⟩ = .ok shifts ∧
      validateSolvedDemandCoverage rt payload shifts = .ok () := by
  unfold accepted at h
  split at h
  · rename_i found hnormalize
    split at h
    · rename_i hvalidate
      cases h
      exact ⟨hnormalize, hvalidate⟩
    · cases h
  · cases h

/-- 2026-03-10, as a number of days. -/
def tuesdayDate : Int := 20522

/-- A response without a shift on the second day passes. -/
theorem missing_day_accepted : ∃ shifts,
    normalizeSolvedShifts rt payload ⟨.items [monday]⟩ = .ok shifts ∧
    validateSolvedDemandCoverage rt payload shifts = .ok () ∧
    rt.dateIsoformat tuesdayDate = "2026-03-10" ∧
    (∃ scheduleStart scheduleEnd,
      parseIsoDatetime rt payload.startDate "start_date" false = .ok scheduleStart ∧
      parseIsoDatetime rt payload.endDate "end_date" false = .ok scheduleEnd ∧
      dateOf (ZoneInfo.utc.toLocal scheduleStart) ≤ tuesdayDate ∧
      tuesdayDate < dateOf (ZoneInfo.utc.toLocal scheduleEnd)) ∧
    ¬ CoversDate rt payload .utc shifts tuesdayDate := by
  have hpasses : (accepted [monday]).map (fun shifts => shiftsOn .utc shifts tuesdayDate) =
      some [] := by decide +kernel
  obtain ⟨shifts, hshifts, hnone⟩ := Option.map_eq_some_iff.mp hpasses
  obtain ⟨hnormalize, hvalidate⟩ := accepted_eq_some hshifts
  refine ⟨shifts, hnormalize, hvalidate, by decide +kernel, ?_, fun hcovers => hcovers.1 hnone⟩
  exact ⟨midnight 20521, midnight 20523, by decide +kernel, by decide +kernel, by decide, by decide⟩

/-- A response with a shift on each day passes and covers both. -/
theorem both_days_covered : ∃ shifts,
    normalizeSolvedShifts rt payload ⟨.items [monday, tuesday]⟩ = .ok shifts ∧
    ∀ date, 20521 ≤ date → date < 20523 → CoversDate rt payload .utc shifts date := by
  have hpasses : (accepted [monday, tuesday]).isSome = true := by decide +kernel
  obtain ⟨shifts, hshifts⟩ := Option.isSome_iff_exists.mp hpasses
  obtain ⟨hnormalize, hvalidate⟩ := accepted_eq_some hshifts
  have hstart : parseIsoDatetime rt payload.startDate "start_date" false =
      .ok (midnight 20521) := by decide +kernel
  have hend : parseIsoDatetime rt payload.endDate "end_date" false =
      .ok (midnight 20523) := by decide +kernel
  have hiff := daily_gate_covers_dates rfl hnormalize hvalidate rfl hstart hend rfl
  have hmonday : readShiftFields rt 0 monday =
      .ok (midnight 20521 + 9 * hour, midnight 20521 + 13 * hour, "STAFF") := by decide +kernel
  have htuesday : readShiftFields rt 0 tuesday =
      .ok (midnight 20522 + 9 * hour, midnight 20522 + 13 * hour, "STAFF") := by decide +kernel
  have hends : ∀ other ∈ [monday, tuesday], ∀ startTime endTime,
      readShiftFields rt 0 other = .ok (startTime, endTime, "STAFF") →
      endTime = midnight 20521 + 13 * hour ∨ endTime = midnight 20522 + 13 * hour := by
    intro other hother startTime endTime hfields
    rw [List.mem_cons, List.mem_singleton] at hother
    rcases hother with rfl | rfl
    · rw [hmonday] at hfields
      cases hfields
      exact .inl rfl
    · rw [htuesday] at hfields
      cases hfields
      exact .inr rfl
  refine ⟨shifts, hnormalize, hiff.mpr ?_⟩
  intro date hle hlt
  have hcases : date = 20521 ∨ date = 20522 := by
    have hlower : 20521 ≤ date := hle
    have hupper : date < 20523 := hlt
    omega
  rcases hcases with rfl | rfl
  · refine ⟨monday, by simp, _, _, _, hmonday, by decide, ?_⟩
    intro other hother otherStart otherEnd hfields _
    rcases hends other hother _ _ hfields with rfl | rfl <;> decide
  · refine ⟨tuesday, by simp, _, _, _, htuesday, by decide, ?_⟩
    intro other hother otherStart otherEnd hfields _
    rcases hends other hother _ _ hfields with rfl | rfl <;> decide

end TwoDays

end LunchLineup.Worker
