import LunchLineup.Payroll.PeriodLife

/-!
# The tiling of time by payroll periods

The policies of a tenant cut the calendar at their `effectiveFrom` dates, and
between two cuts the periods repeat with the cadence of the policy in force.
`Tiles` is the law this is meant to give: no two periods overlap, a period is an
interval of the policy in force on its first day and ends before the next policy
takes over, and every instant since the first policy is in a period of the policy
in force there or in one that `createPeriod` can still add.

`createPolicy` does not look at the periods that already exist, so a period that
starts on or after the new `effectiveFrom` keeps the days of the new policy under
the old one.  The law holds in every run where no policy takes over days that
already have a period, and where the boundaries of its periods are the first
instants of their dates (`Event.Timely`).
-/

namespace LunchLineup.Payroll

open LunchLineup.Lib LunchLineup.Billing

/-! ## Aligned dates -/

theorem aligned_iff_dvd {date anchorDate : Int} {cadence : Cadence} :
    Aligned date anchorDate cadence ↔ cadence.cadenceDays ∣ date - anchorDate :=
  Int.dvd_iff_emod_eq_zero.symm

theorem Aligned.succ {date anchorDate : Int} {cadence : Cadence}
    (h : Aligned date anchorDate cadence) :
    Aligned (date + cadence.cadenceDays) anchorDate cadence := by
  rw [aligned_iff_dvd] at h ⊢
  have hsum : date + cadence.cadenceDays - anchorDate =
      (date - anchorDate) + cadence.cadenceDays := by omega
  rw [hsum]
  exact dvd_add h dvd_rfl

/-- Between two aligned dates there is a whole interval. -/
theorem Aligned.succ_le {first second anchorDate : Int} {cadence : Cadence}
    (hfirst : Aligned first anchorDate cadence) (hsecond : Aligned second anchorDate cadence)
    (hlt : first < second) : first + cadence.cadenceDays ≤ second := by
  rw [aligned_iff_dvd] at hfirst hsecond
  have hdvd : cadence.cadenceDays ∣ second - first := by
    have hdiff : second - first = (second - anchorDate) - (first - anchorDate) := by omega
    rw [hdiff]
    exact dvd_sub hsecond hfirst
  have hle := Int.le_of_dvd (by omega) hdvd
  omega

/-- The first day of the policy's interval around a date. -/
def PolicyVersion.intervalStart (policy : PolicyVersion) (date : Int) : Int :=
  date - (date - policy.anchorDate) % policy.cadence.cadenceDays

theorem PolicyVersion.intervalStart_spec (policy : PolicyVersion) (date : Int) :
    Aligned (policy.intervalStart date) policy.anchorDate policy.cadence ∧
      policy.intervalStart date ≤ date ∧
      date < policy.intervalStart date + policy.cadence.cadenceDays := by
  have hpos := policy.cadence.cadenceDays_pos
  have hnonneg := Int.emod_nonneg (date - policy.anchorDate) hpos.ne'
  have hlt := Int.emod_lt_of_pos (date - policy.anchorDate) hpos
  refine ⟨?_, ?_, ?_⟩
  · rw [aligned_iff_dvd]
    unfold PolicyVersion.intervalStart
    have hdiff : date - (date - policy.anchorDate) % policy.cadence.cadenceDays - policy.anchorDate
        = (date - policy.anchorDate) - (date - policy.anchorDate) % policy.cadence.cadenceDays := by
      omega
    rw [hdiff]
    exact Int.dvd_self_sub_emod
  · unfold PolicyVersion.intervalStart
    omega
  · unfold PolicyVersion.intervalStart
    omega

/-! ## The policy in force -/

/-- Of the policies effective by the date, this one is effective last. -/
def Database.Governs (db : Database) (policy : PolicyVersion) (date : Int) : Prop :=
  policy ∈ db.policies ∧ policy.effectiveFrom ≤ date ∧
    ∀ other ∈ db.policies, other.effectiveFrom ≤ date → other.effectiveFrom ≤ policy.effectiveFrom

section InForce

variable {db : Database} {policy : PolicyVersion} {date : Int}

theorem find?_newestFirst {policies : List PolicyVersion} {p : PolicyVersion → Bool}
    (h : (newestFirst policies).find? p = some policy) :
    policy ∈ policies ∧ p policy = true ∧
      ∀ other ∈ policies, p other = true → other.effectiveFrom ≤ policy.effectiveFrom := by
  have hsorted : (newestFirst policies).Pairwise fun a b => b.effectiveFrom < a.effectiveFrom ∨
      (b.effectiveFrom = a.effectiveFrom ∧ b.version ≤ a.version) :=
    pairwise_mergeSort_of (fun hab hbc => by omega) (fun a b => by omega) policies
  obtain ⟨hmem, hmatch, hfirst⟩ := find?_of_pairwise hsorted h
  refine ⟨List.mem_mergeSort.mp hmem, hmatch, ?_⟩
  intro other hother hother_match
  rcases hfirst other (List.mem_mergeSort.mpr hother) hother_match with rfl | hlt | ⟨heq, _⟩
  · exact le_rfl
  · exact hlt.le
  · exact heq.le

theorem governs_of_policyFor (h : db.policyFor date = some policy) : db.Governs policy date := by
  obtain ⟨hmem, heffective, hlast⟩ := find?_newestFirst h
  refine ⟨hmem, by simpa using heffective, ?_⟩
  intro other hother hle
  exact hlast other hother (by simpa using hle)

theorem policyFor_of_governs (hstarts : (db.policies.map (·.effectiveFrom)).Nodup)
    (h : db.Governs policy date) : db.policyFor date = some policy := by
  cases hfound : db.policyFor date with
  | none =>
      have hnone := List.find?_eq_none.mp hfound policy (List.mem_mergeSort.mpr h.1)
      exact absurd h.2.1 (by simpa using hnone)
  | some found =>
      obtain ⟨hmem, heffective, hlast⟩ := governs_of_policyFor hfound
      have heq : found.effectiveFrom = policy.effectiveFrom :=
        le_antisymm (h.2.2 found hmem heffective) (hlast policy h.1 h.2.1)
      rw [eq_of_key hstarts hmem h.1 heq]

/-- Where all policies have one time zone, a clock-in is under the policy that
governs its local date. -/
theorem governs_of_policyAt {zones : Zones} {instant : Int}
    (hzone : ∀ first ∈ db.policies, ∀ second ∈ db.policies, first.timeZone = second.timeZone)
    (h : zones.policyAt db instant = some policy) :
    db.Governs policy (zones.localDate policy.timeZone instant) := by
  obtain ⟨hmem, heffective, hlast⟩ := find?_newestFirst h
  refine ⟨hmem, by simpa using heffective, ?_⟩
  intro other hother hle
  rw [hzone policy hmem other hother] at hle
  exact hlast other hother (by simpa using hle)

theorem latestPolicy_spec {latest : PolicyVersion} (h : db.latestPolicy = some latest) :
    latest ∈ db.policies ∧ ∀ other ∈ db.policies, other.version ≤ latest.version := by
  have hsorted : (db.policies.mergeSort fun a b : PolicyVersion =>
      decide (b.version ≤ a.version)).Pairwise fun a b => b.version ≤ a.version :=
    pairwise_mergeSort_of (fun hab hbc => hbc.trans hab) (fun a b => le_total _ _) db.policies
  obtain ⟨rest, hrest⟩ := List.head?_eq_some_iff.mp h
  rw [hrest, List.pairwise_cons] at hsorted
  have hmem (row : PolicyVersion) : row ∈ db.policies ↔ row ∈ latest :: rest := by
    rw [← hrest, List.mem_mergeSort]
  refine ⟨(hmem latest).mpr List.mem_cons_self, ?_⟩
  intro other hother
  rcases List.mem_cons.mp ((hmem other).mp hother) with rfl | hother
  · exact le_rfl
  · exact hsorted.1 other hother

theorem latestPolicy_eq_none (h : db.latestPolicy = none) : db.policies = [] := by
  have hnil := List.head?_eq_none_iff.mp h
  exact List.length_eq_zero_iff.mp (by rw [← List.length_mergeSort, hnil]; rfl)

end InForce

/-! ## Boundaries -/

/-- The boundary of each date on which an interval of the policy can start or end
is the first instant of the date, and no earlier date comes back after it. -/
def Zones.Regular (zones : Zones) (timeZone : String) (cadence : Cadence)
    (anchorDate effectiveFrom : Int) : Prop :=
  ∀ date boundary, effectiveFrom ≤ date → Aligned date anchorDate cadence →
    zones.localDateBoundaryUtc date timeZone = .ok boundary →
    ∀ instant, boundary ≤ instant ↔ date ≤ zones.localDate timeZone instant

/-- The columns of a period that `payrollPeriodBoundaries` computes. -/
def Period.boundaries (period : Period) : Boundaries :=
  ⟨period.localStartDate, period.localEndDateExclusive, period.startsAt, period.endsAt⟩

section Boundaries

variable {zones : Zones} {policy : PolicyVersion} {date : Int} {boundaries : Boundaries}

theorem payrollPeriodBoundaries_ok
    (h : zones.payrollPeriodBoundaries date policy = .ok boundaries) :
    ValidDate date ∧ Aligned date policy.anchorDate policy.cadence ∧
      boundaries.localStartDate = date ∧
      boundaries.localEndDateExclusive = date + policy.cadence.cadenceDays ∧
      zones.localDateBoundaryUtc date policy.timeZone = .ok boundaries.startsAt ∧
      zones.localDateBoundaryUtc (date + policy.cadence.cadenceDays) policy.timeZone
        = .ok boundaries.endsAt := by
  simp only [Zones.payrollPeriodBoundaries, assertPayrollAnchorAlignment, bind_eq_ok,
    ensure_eq_ok] at h
  obtain ⟨_, ⟨_, hvalid, _, _, haligned⟩, _, _, startsAt, hstart, endsAt, hend, h⟩ := h
  obtain rfl := Except.ok.inj h
  exact ⟨hvalid, haligned, rfl, rfl, hstart, hend⟩

variable {effectiveFrom : Int} {timeZone : String}

/-- A regular interval contains exactly the instants of its dates. -/
theorem contains_iff_of_regular
    (hregular : zones.Regular policy.timeZone policy.cadence policy.anchorDate policy.effectiveFrom)
    (hfrom : policy.effectiveFrom ≤ date)
    (h : zones.payrollPeriodBoundaries date policy = .ok boundaries) (instant : Int) :
    (boundaries.startsAt ≤ instant ∧ instant < boundaries.endsAt) ↔
      (date ≤ zones.localDate policy.timeZone instant ∧
        zones.localDate policy.timeZone instant < date + policy.cadence.cadenceDays) := by
  obtain ⟨_, haligned, _, _, hstart, hend⟩ := payrollPeriodBoundaries_ok h
  have hpos := policy.cadence.cadenceDays_pos
  have hfirst := hregular date _ hfrom haligned hstart instant
  have hlast := hregular (date + policy.cadence.cadenceDays) _ (by omega) haligned.succ hend instant
  omega

end Boundaries

/-! ## What a run keeps of the calendar -/

/-- What holds of the policies and periods where every new policy is timely. -/
structure Calendar (zones : Zones) (db : Database) : Prop where
  ids : (db.policies.map (·.id)).Nodup
  starts : (db.policies.map (·.effectiveFrom)).Nodup
  ordered : ∀ first ∈ db.policies, ∀ second ∈ db.policies, first.version ≤ second.version →
    first.effectiveFrom ≤ second.effectiveFrom
  oneZone : ∀ first ∈ db.policies, ∀ second ∈ db.policies, first.timeZone = second.timeZone
  zoneText : ∀ policy ∈ db.policies, TimeZoneText policy.timeZone
  anchored : ∀ policy ∈ db.policies,
    Aligned policy.effectiveFrom policy.anchorDate policy.cadence
  -- A policy ends on one of its own boundaries: where a later one exists, so does
  -- a next one, and it was checked against this one's anchor.
  takenOver : ∀ policy ∈ db.policies, ∀ later ∈ db.policies,
    policy.effectiveFrom < later.effectiveFrom → ∃ next ∈ db.policies,
      policy.effectiveFrom < next.effectiveFrom ∧ next.effectiveFrom ≤ later.effectiveFrom ∧
      Aligned next.effectiveFrom policy.anchorDate policy.cadence
  regular : ∀ policy ∈ db.policies,
    zones.Regular policy.timeZone policy.cadence policy.anchorDate policy.effectiveFrom
  governed : ∀ period ∈ db.periods, ∃ policy, db.Governs policy period.localStartDate ∧
    period.policyVersionId = policy.id ∧
    zones.payrollPeriodBoundaries period.localStartDate policy = .ok period.boundaries
  apart : ∀ first ∈ db.periods, ∀ second ∈ db.periods, first.id ≠ second.id →
    ¬ (first.startsAt < second.endsAt ∧ second.startsAt < first.endsAt)

theorem calendar_initial (zones : Zones) (locations : List Location) :
    Calendar zones (.initial locations) := by
  constructor <;> simp [Database.initial]

/-- The policies are the same, and every period comes from one with the same
snapshot. -/
structure SameCalendar (db db' : Database) : Prop where
  policies : db'.policies = db.policies
  origin : ∀ next ∈ db'.periods, ∃ period ∈ db.periods, period.SameSnapshot next

theorem Period.SameSnapshot.refl (period : Period) : period.SameSnapshot period :=
  ⟨rfl, rfl, rfl, rfl, rfl, rfl, rfl, rfl⟩

theorem Period.SameSnapshot.trans {first second third : Period}
    (hfirst : first.SameSnapshot second) (hsecond : second.SameSnapshot third) :
    first.SameSnapshot third := by
  unfold Period.SameSnapshot at *
  simp_all

theorem Period.SameSnapshot.boundaries {old new : Period} (h : old.SameSnapshot new) :
    new.boundaries = old.boundaries := by
  obtain ⟨_, _, hstart, hend, hstarts, hends, _, _⟩ := h
  simp only [Period.boundaries, hstart, hend, hstarts, hends]

section SameCalendar

variable {db db' : Database}

theorem SameCalendar.of_eq (hpolicies : db'.policies = db.policies)
    (hperiods : db'.periods = db.periods) : SameCalendar db db' := by
  refine ⟨hpolicies, ?_⟩
  intro next hnext
  rw [hperiods] at hnext
  exact ⟨next, hnext, .refl next⟩

theorem SameCalendar.of_replaced (hpolicies : db'.policies = db.policies) {old new : Period}
    (hmem : old ∈ db.periods) (hsnapshot : old.SameSnapshot new)
    (hperiods : db'.periods = replaceRow (·.id) db.periods new) : SameCalendar db db' := by
  refine ⟨hpolicies, ?_⟩
  intro next hnext
  rw [hperiods] at hnext
  rcases mem_replaceRow hnext with rfl | ⟨hnext, _⟩
  · exact ⟨old, hmem, hsnapshot⟩
  · exact ⟨next, hnext, .refl next⟩

theorem SameCalendar.of_statement (h : Statement db db') : SameCalendar db db' := by
  cases h with
  | locations rows => exact .of_eq rfl rfl
  | operation h =>
      rw [Database.insertOperation_ok h]
      exact .of_eq rfl rfl
  | review hmem hopened h =>
      obtain ⟨hsnapshot, _, _, _, rfl⟩ := Database.updatePeriod_ok h
      exact .of_replaced rfl hmem hsnapshot rfl
  | card h =>
      obtain ⟨_, _, _, rfl⟩ := Database.insertTimeCard_ok h
      exact .of_eq rfl rfl
  | cardUpdate _ _ _ h =>
      obtain ⟨_, _, _, _, _, _, rfl⟩ := Database.updateTimeCard_ok h
      exact .of_eq rfl rfl
  | deleteBreaks h =>
      obtain ⟨_, rfl⟩ := Database.deleteBreaks_ok h
      exact .of_eq rfl rfl
  | insertBreak h =>
      obtain ⟨_, rfl⟩ := Database.insertBreak_ok h
      exact .of_eq rfl rfl
  | approval h =>
      obtain ⟨_, _, _, rfl⟩ := Database.insertApproval_ok h
      exact .of_eq rfl rfl
  | amendment h =>
      obtain ⟨_, _, _, _, rfl⟩ := Database.insertAmendment_ok h
      exact .of_eq rfl rfl
  | decision h =>
      obtain ⟨_, _, rfl⟩ := Database.insertDecision_ok h
      exact .of_eq rfl rfl

theorem SameCalendar.of_statements (h : Statements db db') : SameCalendar db db' := by
  induction h with
  | refl => exact .of_eq rfl rfl
  | tail _ hlast ih =>
      have hstep := SameCalendar.of_statement hlast
      refine ⟨hstep.policies.trans ih.policies, ?_⟩
      intro next hnext
      obtain ⟨middle, hmiddle, hsnapshot⟩ := hstep.origin next hnext
      obtain ⟨period, hperiod, hfirst⟩ := ih.origin middle hmiddle
      exact ⟨period, hperiod, hfirst.trans hsnapshot⟩

theorem SameCalendar.of_locking {zones : Zones} {hashes : Hashes}
    (locking : Locking zones hashes db db') : SameCalendar db db' := by
  obtain ⟨hsnapshot, _⟩ := Database.updatePeriod_ok locking.updated
  refine .of_replaced ?_ locking.mem hsnapshot locking.periods_eq
  rw [congrArg Database.policies locking.db_eq]

variable {zones : Zones}

theorem Calendar.same (hcalendar : Calendar zones db) (h : SameCalendar db db') :
    Calendar zones db' where
  ids := by rw [h.policies]; exact hcalendar.ids
  starts := by rw [h.policies]; exact hcalendar.starts
  ordered := by rw [h.policies]; exact hcalendar.ordered
  oneZone := by rw [h.policies]; exact hcalendar.oneZone
  zoneText := by rw [h.policies]; exact hcalendar.zoneText
  anchored := by rw [h.policies]; exact hcalendar.anchored
  takenOver := by rw [h.policies]; exact hcalendar.takenOver
  regular := by rw [h.policies]; exact hcalendar.regular
  governed := by
    intro next hnext
    obtain ⟨period, hperiod, hsnapshot⟩ := h.origin next hnext
    obtain ⟨policy, hgoverns, hid, hboundaries⟩ := hcalendar.governed period hperiod
    refine ⟨policy, ?_, hsnapshot.2.1.trans hid, ?_⟩
    · rw [Database.Governs, h.policies, hsnapshot.2.2.1]
      exact hgoverns
    · rw [hsnapshot.boundaries, hsnapshot.2.2.1]
      exact hboundaries
  apart := by
    intro first hfirst second hsecond hne
    obtain ⟨old, hold, hsnapshot⟩ := h.origin first hfirst
    obtain ⟨other, hother, hother_snapshot⟩ := h.origin second hsecond
    obtain ⟨hid, _, _, _, hstarts, hends, _⟩ := hsnapshot
    obtain ⟨hother_id, _, _, _, hother_starts, hother_ends, _⟩ := hother_snapshot
    rw [hid, hother_id] at hne
    rw [hstarts, hends, hother_starts, hother_ends]
    exact hcalendar.apart old hold other hother hne

end SameCalendar

/-! ## A new policy -/

/-- The condition on a step: where it is a new `createPolicy`, every existing
period starts before the policy takes effect, and the boundaries of the policy's
intervals are the first instants of their dates. -/
def Event.Timely (zones : Zones) (db : Database) (event : Event) : Prop :=
  ∀ request id body, event.command = .createPolicy request id body →
    (∀ row ∈ db.policies, row.operationId ≠ request.operationId) →
    (∀ period ∈ db.periods, period.localStartDate < body.effectiveFrom) ∧
      zones.Regular body.timeZone body.cadence body.anchorDate body.effectiveFrom

section NewPolicy

variable {zones : Zones} {db db' : Database} {policy : PolicyVersion}

/-- What the trigger and the constraints check of a new policy, seen from a
calendar: it takes effect after every other policy, at a boundary of the one
before. -/
theorem Calendar.insertPolicy_checks (hcalendar : Calendar zones db)
    (h : db.insertPolicy policy = .ok db') :
    (∀ other ∈ db.policies, other.id ≠ policy.id ∧ other.version < policy.version ∧
      other.effectiveFrom < policy.effectiveFrom ∧ other.timeZone = policy.timeZone) ∧
    (∀ other ∈ db.policies, ∃ next ∈ db.policies ++ [policy],
      other.effectiveFrom < next.effectiveFrom ∧ next.effectiveFrom ≤ policy.effectiveFrom ∧
      Aligned next.effectiveFrom other.anchorDate other.cadence) ∧
    TimeZoneText policy.timeZone ∧
    Aligned policy.effectiveFrom policy.anchorDate policy.cadence := by
  simp only [Database.insertPolicy, bind_eq_ok, ensure_eq_ok] at h
  obtain ⟨_, hvalid, _, ⟨_, htext, _, haligned⟩, _, hunique, _⟩ := h
  unfold Database.validatePayrollPolicyVersion at hvalid
  split at hvalid
  · rename_i hnone
    rw [latestPolicy_eq_none hnone]
    exact ⟨by simp, by simp, htext, haligned⟩
  · rename_i latest hlatest
    obtain ⟨hversion, hlater, hzone, hboundary⟩ := ensure_eq_ok.mp hvalid
    obtain ⟨hmem, hmax⟩ := latestPolicy_spec hlatest
    refine ⟨?_, ?_, htext, haligned⟩
    · intro other hother
      have hle := hmax other hother
      have hstart := hcalendar.ordered other hother latest hmem hle
      refine ⟨(hunique other hother).1, by omega, by omega, ?_⟩
      rw [hzone]
      exact hcalendar.oneZone other hother latest hmem
    · intro other hother
      have hstart := hcalendar.ordered other hother latest hmem (hmax other hother)
      rcases hstart.lt_or_eq with hlt | heq
      · obtain ⟨next, hnext, hafter, hbefore, hnext_aligned⟩ :=
          hcalendar.takenOver other hother latest hmem hlt
        exact ⟨next, List.mem_append_left _ hnext, hafter, by omega, hnext_aligned⟩
      · rw [eq_of_key hcalendar.starts hother hmem heq]
        exact ⟨policy, by simp, hlater, le_rfl, hboundary⟩

theorem Calendar.policyInserted (hcalendar : Calendar zones db)
    (h : db.insertPolicy policy = .ok db')
    (hperiods : ∀ period ∈ db.periods, period.localStartDate < policy.effectiveFrom)
    (hregular : zones.Regular policy.timeZone policy.cadence policy.anchorDate
      policy.effectiveFrom) : Calendar zones db' := by
  obtain ⟨hafter, htaken, htext, haligned⟩ := hcalendar.insertPolicy_checks h
  rw [Database.insertPolicy_ok h]
  refine ⟨?_, ?_, ?_, ?_, ?_, ?_, ?_, ?_, ?_, hcalendar.apart⟩
  · exact nodup_keys_append hcalendar.ids fun other hother => (hafter other hother).1
  · exact nodup_keys_append hcalendar.starts fun other hother => (hafter other hother).2.2.1.ne
  · intro first hfirst second hsecond hle
    rcases List.mem_append.mp hfirst with hfirst | hfirst
    · rcases List.mem_append.mp hsecond with hsecond | hsecond
      · exact hcalendar.ordered first hfirst second hsecond hle
      · rw [List.mem_singleton.mp hsecond]
        exact (hafter first hfirst).2.2.1.le
    · rw [List.mem_singleton.mp hfirst] at hle ⊢
      rcases List.mem_append.mp hsecond with hsecond | hsecond
      · have hlt := (hafter second hsecond).2.1
        omega
      · rw [List.mem_singleton.mp hsecond]
  · intro first hfirst second hsecond
    rcases List.mem_append.mp hfirst with hfirst | hfirst
    · rcases List.mem_append.mp hsecond with hsecond | hsecond
      · exact hcalendar.oneZone first hfirst second hsecond
      · rw [List.mem_singleton.mp hsecond]
        exact (hafter first hfirst).2.2.2
    · rw [List.mem_singleton.mp hfirst]
      rcases List.mem_append.mp hsecond with hsecond | hsecond
      · exact (hafter second hsecond).2.2.2.symm
      · rw [List.mem_singleton.mp hsecond]
  · intro other hother
    rcases List.mem_append.mp hother with hother | hother
    · exact hcalendar.zoneText other hother
    · rw [List.mem_singleton.mp hother]
      exact htext
  · intro other hother
    rcases List.mem_append.mp hother with hother | hother
    · exact hcalendar.anchored other hother
    · rw [List.mem_singleton.mp hother]
      exact haligned
  · intro other hother later hlater hlt
    rcases List.mem_append.mp hother with hother | hother
    · rcases List.mem_append.mp hlater with hlater | hlater
      · obtain ⟨next, hnext, hrest⟩ := hcalendar.takenOver other hother later hlater hlt
        exact ⟨next, List.mem_append_left _ hnext, hrest⟩
      · rw [List.mem_singleton.mp hlater]
        exact htaken other hother
    · rw [List.mem_singleton.mp hother] at hlt
      rcases List.mem_append.mp hlater with hlater | hlater
      · have hbefore := (hafter later hlater).2.2.1
        omega
      · rw [List.mem_singleton.mp hlater] at hlt
        omega
  · intro other hother
    rcases List.mem_append.mp hother with hother | hother
    · exact hcalendar.regular other hother
    · rw [List.mem_singleton.mp hother]
      exact hregular
  · intro period hperiod
    obtain ⟨governor, ⟨hmem, heffective, hlast⟩, hid, hboundaries⟩ :=
      hcalendar.governed period hperiod
    refine ⟨governor, ⟨List.mem_append_left _ hmem, heffective, ?_⟩, hid, hboundaries⟩
    intro other hother hle
    rcases List.mem_append.mp hother with hother | hother
    · exact hlast other hother hle
    · -- The new policy is not in force on the first day of an existing period.
      have hbefore := hperiods period hperiod
      rw [List.mem_singleton.mp hother] at hle
      omega

end NewPolicy

/-! ## A new period -/

section NewPeriod

variable {zones : Zones} {db : Database}

theorem Calendar.periodInserted (hcalendar : Calendar zones db) {middle db' : Database}
    {id : String} {date : Int} {policy : PolicyVersion} {boundaries : Boundaries}
    {row : Operation} (hpolicy : db.policyFor date = some policy)
    (hboundaries : zones.payrollPeriodBoundaries date policy = .ok boundaries)
    (hdisjoint : ∀ other ∈ db.periods,
      ¬ (other.startsAt < boundaries.endsAt ∧ boundaries.startsAt < other.endsAt))
    (hinsert : db.insertPeriod (policy.newPeriod boundaries id) = .ok middle)
    (hoperation : middle.insertOperation row = .ok db') : Calendar zones db' := by
  obtain ⟨_, _, rfl⟩ := Database.insertPeriod_ok hinsert
  rw [Database.insertOperation_ok hoperation]
  refine ⟨hcalendar.ids, hcalendar.starts, hcalendar.ordered, hcalendar.oneZone,
    hcalendar.zoneText, hcalendar.anchored, hcalendar.takenOver, hcalendar.regular, ?_, ?_⟩
  · intro period hperiod
    rcases List.mem_append.mp hperiod with hperiod | hperiod
    · exact hcalendar.governed period hperiod
    · rw [List.mem_singleton.mp hperiod]
      have hstart := (payrollPeriodBoundaries_ok hboundaries).2.2.1
      refine ⟨policy, ?_, rfl, ?_⟩
      · show db.Governs policy boundaries.localStartDate
        rw [hstart]
        exact governs_of_policyFor hpolicy
      · show zones.payrollPeriodBoundaries boundaries.localStartDate policy = .ok boundaries
        rw [hstart]
        exact hboundaries
  · intro first hfirst second hsecond hne
    rcases List.mem_append.mp hfirst with hfirst | hfirst
    · rcases List.mem_append.mp hsecond with hsecond | hsecond
      · exact hcalendar.apart first hfirst second hsecond hne
      · rw [List.mem_singleton.mp hsecond]
        exact hdisjoint first hfirst
    · rw [List.mem_singleton.mp hfirst] at hne ⊢
      rcases List.mem_append.mp hsecond with hsecond | hsecond
      · rw [and_comm]
        exact hdisjoint second hsecond
      · rw [List.mem_singleton.mp hsecond] at hne
        exact absurd rfl hne

/-- An interval of the policy in force ends before a later policy takes over. -/
theorem Calendar.interval_end_le (hcalendar : Calendar zones db) {policy later : PolicyVersion}
    {date : Int} (hgoverns : db.Governs policy date)
    (haligned : Aligned date policy.anchorDate policy.cadence) (hlater : later ∈ db.policies)
    (hlt : policy.effectiveFrom < later.effectiveFrom) :
    date + policy.cadence.cadenceDays ≤ later.effectiveFrom := by
  obtain ⟨hmem, _, hlast⟩ := hgoverns
  obtain ⟨next, hnext, hafter, hbefore, hboundary⟩ :=
    hcalendar.takenOver policy hmem later hlater hlt
  have hstart : date < next.effectiveFrom := by
    by_contra hle
    have := hlast next hnext (by omega)
    omega
  exact (haligned.succ_le hboundary hstart).trans hbefore

/-- Every existing period is the interval itself or has other dates. -/
theorem Calendar.dates_apart (hcalendar : Calendar zones db) {policy : PolicyVersion} {date : Int}
    (hgoverns : db.Governs policy date)
    (haligned : Aligned date policy.anchorDate policy.cadence) {period : Period}
    (hperiod : period ∈ db.periods) :
    (period.policyVersionId = policy.id ∧ period.localStartDate = date) ∨
      period.localEndDateExclusive ≤ date ∨
      date + policy.cadence.cadenceDays ≤ period.localStartDate := by
  obtain ⟨governor, hgoverned, hid, hboundaries⟩ := hcalendar.governed period hperiod
  obtain ⟨_, hperiod_aligned, _, hend, _, _⟩ := payrollPeriodBoundaries_ok hboundaries
  replace hend : period.localEndDateExclusive =
    period.localStartDate + governor.cadence.cadenceDays := hend
  rcases lt_trichotomy governor.effectiveFrom policy.effectiveFrom with hlt | heq | hlt
  · have hle := hcalendar.interval_end_le hgoverned hperiod_aligned hgoverns.1 hlt
    have hfrom := hgoverns.2.1
    omega
  · obtain rfl := eq_of_key hcalendar.starts hgoverned.1 hgoverns.1 heq
    rcases lt_trichotomy period.localStartDate date with hlt | heq | hlt
    · have hle := hperiod_aligned.succ_le haligned hlt
      omega
    · exact .inl ⟨hid, heq⟩
    · exact .inr (.inr (haligned.succ_le hperiod_aligned hlt))
  · have hle := hcalendar.interval_end_le hgoverns haligned hgoverned.1 hlt
    have hfrom := hgoverned.2.1
    omega

/-- The boundaries of governed intervals are in the order of their dates. -/
theorem Calendar.boundary_le (hcalendar : Calendar zones db) {first second : PolicyVersion}
    (hfirst : first ∈ db.policies) (hsecond : second ∈ db.policies) {date later : Int}
    {boundary laterBoundary : Int} (hfrom : first.effectiveFrom ≤ date)
    (haligned : Aligned date first.anchorDate first.cadence)
    (hboundary : zones.localDateBoundaryUtc date first.timeZone = .ok boundary)
    (hlater_from : second.effectiveFrom ≤ later)
    (hlater_aligned : Aligned later second.anchorDate second.cadence)
    (hlater : zones.localDateBoundaryUtc later second.timeZone = .ok laterBoundary)
    (hle : date ≤ later) : boundary ≤ laterBoundary := by
  apply (hcalendar.regular first hfirst date boundary hfrom haligned hboundary _).mpr
  rw [hcalendar.oneZone first hfirst second hsecond]
  exact hle.trans ((hcalendar.regular second hsecond later laterBoundary hlater_from
    hlater_aligned hlater _).mp le_rfl)

/-- An existing period that is not the interval itself has another window. -/
theorem Calendar.windows_apart (hcalendar : Calendar zones db) {policy : PolicyVersion}
    {date : Int} {boundaries : Boundaries} (hgoverns : db.Governs policy date)
    (hboundaries : zones.payrollPeriodBoundaries date policy = .ok boundaries) {period : Period}
    (hperiod : period ∈ db.periods)
    (hdates : period.localEndDateExclusive ≤ date ∨
      date + policy.cadence.cadenceDays ≤ period.localStartDate) :
    ¬ (period.startsAt < boundaries.endsAt ∧ boundaries.startsAt < period.endsAt) := by
  obtain ⟨governor, hgoverned, _, hperiod_boundaries⟩ := hcalendar.governed period hperiod
  obtain ⟨_, haligned, _, _, hstart, hend⟩ := payrollPeriodBoundaries_ok hboundaries
  obtain ⟨_, hperiod_aligned, _, hperiod_last, hperiod_start, hperiod_end⟩ :=
    payrollPeriodBoundaries_ok hperiod_boundaries
  replace hperiod_last : period.localEndDateExclusive =
    period.localStartDate + governor.cadence.cadenceDays := hperiod_last
  have hpos := policy.cadence.cadenceDays_pos
  have hgovernor_pos := governor.cadence.cadenceDays_pos
  have hfrom := hgoverns.2.1
  have hperiod_from := hgoverned.2.1
  rcases hdates with hbefore | hafter
  · have hle := hcalendar.boundary_le hgoverned.1 hgoverns.1 (by omega) hperiod_aligned.succ
      hperiod_end hfrom haligned hstart (by omega)
    exact fun hoverlap => absurd hoverlap.2 (not_lt.mpr hle)
  · have hle := hcalendar.boundary_le hgoverns.1 hgoverned.1 (by omega) haligned.succ hend
      hperiod_from hperiod_aligned hperiod_start hafter
    exact fun hoverlap => absurd hoverlap.1 (not_lt.mpr hle)

/-- `createPeriod` accepts an interval of the policy in force with free dates. -/
theorem Calendar.createPeriod_ok (hcalendar : Calendar zones db) {policy : PolicyVersion}
    {date : Int} {boundaries : Boundaries} (hgoverns : db.Governs policy date)
    (hboundaries : zones.payrollPeriodBoundaries date policy = .ok boundaries)
    (hwindow : boundaries.startsAt < boundaries.endsAt)
    (hfree : ∀ period ∈ db.periods, period.localEndDateExclusive ≤ date ∨
      date + policy.cadence.cadenceDays ≤ period.localStartDate)
    {request : RequestIdentity} {id : String}
    (hrequest : ∀ row ∈ db.operations, row.operationId ≠ request.operationId)
    (hid : ∀ period ∈ db.periods, period.id ≠ id) :
    ∃ db', zones.createPeriod db request id date = .ok db' ∧
      policy.newPeriod boundaries id ∈ db'.periods := by
  obtain ⟨hvalid, _, hstart, hend, _, _⟩ := payrollPeriodBoundaries_ok hboundaries
  have hpos := policy.cadence.cadenceDays_pos
  have hreplay : db.replay request = none := by
    unfold Database.replay
    rw [Option.map_eq_none_iff, List.find?_eq_none]
    intro row hrow
    simpa using hrequest row hrow
  have hinsert : db.insertPeriod (policy.newPeriod boundaries id) =
      .ok { db with periods := db.periods ++ [policy.newPeriod boundaries id] } := by
    have hlength (period : Period) (hperiod : period ∈ db.periods) :
        period.localStartDate < period.localEndDateExclusive := by
      obtain ⟨governor, _, _, hperiod_boundaries⟩ := hcalendar.governed period hperiod
      have hlast := (payrollPeriodBoundaries_ok hperiod_boundaries).2.2.2.1
      replace hlast : period.localEndDateExclusive =
        period.localStartDate + governor.cadence.cadenceDays := hlast
      have := governor.cadence.cadenceDays_pos
      omega
    simp only [Database.insertPeriod, bind_eq_ok, ensure_eq_ok]
    refine ⟨(), hid, (), ?_, (), ?_, (), ⟨?_, hwindow⟩, (), hcalendar.zoneText policy hgoverns.1,
      trivial⟩
    · intro period hperiod
      have hlt := hlength period hperiod
      have hdates := hfree period hperiod
      show period.localStartDate ≠ boundaries.localStartDate
      omega
    · intro period hperiod hoverlap
      have hdates := hfree period hperiod
      obtain ⟨hfirst, hsecond⟩ := hoverlap
      replace hfirst : period.localStartDate < boundaries.localEndDateExclusive := hfirst
      replace hsecond : boundaries.localStartDate < period.localEndDateExclusive := hsecond
      omega
    · show boundaries.localStartDate < boundaries.localEndDateExclusive
      omega
  refine ⟨{ db with
    periods := db.periods ++ [policy.newPeriod boundaries id]
    operations := db.operations ++ [⟨request.operationId, request.requestHash.val⟩] }, ?_, by simp⟩
  simp only [Zones.createPeriod, hreplay, ensure_of_true _ hvalid, ok_bind,
    policyFor_of_governs hcalendar.starts hgoverns, hboundaries, bind_eq_ok, ensure_eq_ok]
  refine ⟨(), ?_, _, hinsert, ?_⟩
  · intro period hperiod
    exact hcalendar.windows_apart hgoverns hboundaries hperiod (hfree period hperiod)
  · simp only [Database.insertOperation, bind_eq_ok, ensure_eq_ok]
    exact ⟨(), hrequest, trivial⟩

end NewPeriod

/-! ## The tiling law -/

/-- No two periods overlap; each is an interval of the policy in force on its
first day and ends before the next policy takes over; and every instant since
the first policy is under a policy, one of whose periods contains it or can
still be created to contain it. -/
structure Tiles (zones : Zones) (db : Database) : Prop where
  apart : ∀ first ∈ db.periods, ∀ second ∈ db.periods, first ≠ second →
    ¬ (first.startsAt < second.endsAt ∧ second.startsAt < first.endsAt)
  aligned : ∀ period ∈ db.periods, ∃ policy,
    db.policyFor period.localStartDate = some policy ∧ period.policyVersionId = policy.id ∧
    zones.payrollPeriodBoundaries period.localStartDate policy = .ok period.boundaries ∧
    ∀ later ∈ db.policies, policy.effectiveFrom < later.effectiveFrom →
      period.localEndDateExclusive ≤ later.effectiveFrom
  covered : ∀ instant, (∃ first ∈ db.policies,
      first.effectiveFrom ≤ zones.localDate first.timeZone instant) →
    ∃ policy, zones.policyAt db instant = some policy ∧ ∀ boundaries,
      zones.payrollPeriodBoundaries
        (policy.intervalStart (zones.localDate policy.timeZone instant)) policy = .ok boundaries →
      (∃ period ∈ db.periods, period.policyVersionId = policy.id ∧ period.Contains instant) ∨
      ∀ (request : RequestIdentity) (id : String),
        (∀ row ∈ db.operations, row.operationId ≠ request.operationId) →
        (∀ period ∈ db.periods, period.id ≠ id) →
        ∃ db', zones.createPeriod db request id
            (policy.intervalStart (zones.localDate policy.timeZone instant)) = .ok db' ∧
          ∃ period ∈ db'.periods, period.policyVersionId = policy.id ∧ period.Contains instant

section Law

variable {zones : Zones} {db : Database}

theorem Calendar.covered (hcalendar : Calendar zones db) {policy : PolicyVersion} {instant : Int}
    (hpolicy : zones.policyAt db instant = some policy) {boundaries : Boundaries}
    (hboundaries : zones.payrollPeriodBoundaries
      (policy.intervalStart (zones.localDate policy.timeZone instant)) policy = .ok boundaries) :
    (∃ period ∈ db.periods, period.policyVersionId = policy.id ∧ period.Contains instant) ∨
      ∀ (request : RequestIdentity) (id : String),
        (∀ row ∈ db.operations, row.operationId ≠ request.operationId) →
        (∀ period ∈ db.periods, period.id ≠ id) →
        ∃ db', zones.createPeriod db request id
            (policy.intervalStart (zones.localDate policy.timeZone instant)) = .ok db' ∧
          ∃ period ∈ db'.periods, period.policyVersionId = policy.id ∧ period.Contains instant := by
  have hnow := governs_of_policyAt hcalendar.oneZone hpolicy
  obtain ⟨haligned, hle, hlt⟩ :=
    policy.intervalStart_spec (zones.localDate policy.timeZone instant)
  -- The policy takes effect on a boundary of its own, so not inside the interval.
  have hfrom : policy.effectiveFrom ≤
      policy.intervalStart (zones.localDate policy.timeZone instant) := by
    by_contra hinside
    have hend := haligned.succ_le (hcalendar.anchored policy hnow.1) (by omega)
    have heffective := hnow.2.1
    omega
  have hgoverns : db.Governs policy
      (policy.intervalStart (zones.localDate policy.timeZone instant)) :=
    ⟨hnow.1, hfrom, fun other hother hother_le => hnow.2.2 other hother (hother_le.trans hle)⟩
  have hcontains := (contains_iff_of_regular (hcalendar.regular policy hnow.1) hfrom hboundaries
    instant).mpr ⟨hle, hlt⟩
  by_cases hexists : ∃ period ∈ db.periods, period.policyVersionId = policy.id ∧
      period.localStartDate = policy.intervalStart (zones.localDate policy.timeZone instant)
  · left
    obtain ⟨period, hperiod, hid, hdate⟩ := hexists
    refine ⟨period, hperiod, hid, ?_⟩
    obtain ⟨governor, hgoverned, hgovernor_id, hperiod_boundaries⟩ :=
      hcalendar.governed period hperiod
    obtain rfl := eq_of_key hcalendar.ids hgoverned.1 hnow.1 (hgovernor_id.symm.trans hid)
    rw [hdate, hboundaries] at hperiod_boundaries
    rw [Except.ok.inj hperiod_boundaries] at hcontains
    exact hcontains
  · right
    intro request id hrequest hid
    have hfree : ∀ period ∈ db.periods, period.localEndDateExclusive ≤
          policy.intervalStart (zones.localDate policy.timeZone instant) ∨
        policy.intervalStart (zones.localDate policy.timeZone instant) +
          policy.cadence.cadenceDays ≤ period.localStartDate := by
      intro period hperiod
      rcases hcalendar.dates_apart hgoverns haligned hperiod with hsame | hapart
      · exact absurd ⟨period, hperiod, hsame⟩ hexists
      · exact hapart
    obtain ⟨db', hcreated, hmem⟩ := hcalendar.createPeriod_ok hgoverns hboundaries
      (hcontains.1.trans_lt hcontains.2) hfree hrequest hid
    exact ⟨db', hcreated, _, hmem, rfl, hcontains⟩

theorem Calendar.tiles (hcalendar : Calendar zones db) (hsound : Sound db) : Tiles zones db := by
  refine ⟨?_, ?_, ?_⟩
  · intro first hfirst second hsecond hne
    refine hcalendar.apart first hfirst second hsecond ?_
    exact fun heq => hne (eq_of_key hsound.periodIds hfirst hsecond heq)
  · intro period hperiod
    obtain ⟨policy, hgoverns, hid, hboundaries⟩ := hcalendar.governed period hperiod
    obtain ⟨_, haligned, _, hend, _, _⟩ := payrollPeriodBoundaries_ok hboundaries
    refine ⟨policy, policyFor_of_governs hcalendar.starts hgoverns, hid, hboundaries, ?_⟩
    intro later hlater hlt
    exact hend.trans_le (hcalendar.interval_end_le hgoverns haligned hlater hlt)
  · intro instant hstarted
    obtain ⟨first, hfirst, heffective⟩ := hstarted
    cases hpolicy : zones.policyAt db instant with
    | none =>
        have hnone := List.find?_eq_none.mp hpolicy first (List.mem_mergeSort.mpr hfirst)
        exact absurd heffective (by simpa using hnone)
    | some policy =>
        exact ⟨policy, rfl, fun boundaries hboundaries =>
          hcalendar.covered hpolicy hboundaries⟩

theorem Calendar.step {hashes : Hashes} (hcalendar : Calendar zones db) {event : Event}
    (htimely : event.Timely zones db) : Calendar zones (step zones hashes db event).2 := by
  refine step_of_write event hcalendar ?_
  intro next hwrite
  cases hwrite with
  | statements h => exact hcalendar.same (.of_statements h)
  | policy hcommand hnew h =>
      obtain ⟨hperiods, hregular⟩ := htimely _ _ _ hcommand hnew
      exact hcalendar.policyInserted h hperiods hregular
  | period hpolicy hboundaries hdisjoint hinsert hoperation =>
      exact hcalendar.periodInserted hpolicy hboundaries hdisjoint hinsert hoperation
  | locking locking => exact hcalendar.same (.of_locking locking)

end Law

/-- The tiling law holds after every run whose new policies are timely. -/
theorem payroll_periods_tile (zones : Zones) (hashes : Hashes) (locations : List Location)
    (events : List Event)
    (htimely : ∀ t ∈ trace (step zones hashes) (.initial locations) events,
      t.request.Timely zones t.before) :
    Tiles zones (final (step zones hashes) (.initial locations) events) := by
  have hcalendar : Calendar zones (final (step zones hashes) (.initial locations) events) := by
    refine invariant_final_of_trace (Calendar zones) ?_ (calendar_initial zones locations) htimely
    exact fun db event hcalendar htimely => hcalendar.step htimely
  exact hcalendar.tiles (sound_final zones hashes locations events)

/-! ## A policy that comes too late -/

namespace Sample

/-- On day 1, with periods from days 0 and 7, a biweekly policy is created. -/
def changed (effectiveFrom : Int) : List Event := calendar ++ [
  onDay 1 (.createPolicy (identity "next") "next" ⟨"UTC", .biweekly, effectiveFrom, effectiveFrom⟩)]

/-- The policy of `calendar` and the one of `changed 7`. -/
def oldPolicy : PolicyVersion := ⟨"policy", 1, "UTC", .weekly, 0, 0, "policy", digest.val⟩

def newPolicy : PolicyVersion := ⟨"next", 2, "UTC", .biweekly, 7, 7, "next", digest.val⟩

theorem governs_changed {policy : PolicyVersion} {date : Int} (hdate : 7 ≤ date)
    (h : (after (changed 7)).Governs policy date) : policy = newPolicy := by
  have hpolicies : (after (changed 7)).policies = [oldPolicy, newPolicy] := by decide +kernel
  obtain ⟨hmem, _, hlast⟩ := h
  rw [hpolicies] at hmem hlast
  rcases List.mem_pair.mp hmem with rfl | rfl
  · have hle := hlast newPolicy (by simp) hdate
    exact absurd hle (by decide)
  · rfl

/-- The new policy takes effect with the second period: every command is
accepted, but a clock-in on day 8 finds no period of the policy in force, and
none can be created. -/
theorem late_policy_blocks_clock_in :
    (∀ t ∈ trace (step zones hashes) (.initial [site]) (changed 7), t.answer = none) ∧
      ¬ Tiles zones (after (changed 7)) := by
  refine ⟨by decide +kernel, ?_⟩
  intro htiles
  obtain ⟨policy, hpolicy, hcovered⟩ := htiles.covered (instant 8 9 0) (by decide +kernel)
  have hday (timeZone : String) : 7 ≤ zones.localDate timeZone (instant 8 9 0) := by
    show (7 : Int) ≤ (instant 8 9 0 + 0) / dayMs
    decide
  obtain rfl := governs_changed (hday _) (governs_of_policyAt (by decide +kernel) hpolicy)
  rcases hcovered ⟨7, 21, 7 * dayMs, 21 * dayMs⟩ (by decide +kernel) with hperiod | hcreate
  · revert hperiod
    decide +kernel
  · obtain ⟨db', hcreated, _⟩ := hcreate (identity "third") "third" (by decide +kernel)
      (by decide +kernel)
    have hreplay : (after (changed 7)).replay (identity "third") = none := by
      rw [Database.replay, Option.map_eq_none_iff]
      decide +kernel
    simp only [Zones.createPeriod, hreplay, bind_eq_ok, ensure_eq_ok] at hcreated
    obtain ⟨_, _, hcreated⟩ := hcreated
    split at hcreated
    · cases hcreated
    · rename_i policy hfor
      obtain rfl := governs_changed (by decide +kernel) (governs_of_policyFor hfor)
      simp only [bind_eq_ok, ensure_eq_ok] at hcreated
      obtain ⟨boundaries, hboundaries, _, hdisjoint, _⟩ := hcreated
      -- The interval of the new policy meets the second period of the old one.
      have hwindow : zones.payrollPeriodBoundaries (newPolicy.intervalStart
          (zones.localDate newPolicy.timeZone (instant 8 9 0))) newPolicy =
            .ok ⟨7, 21, 7 * dayMs, 21 * dayMs⟩ := by decide +kernel
      obtain rfl := Except.ok.inj (hboundaries.symm.trans hwindow)
      revert hdisjoint
      decide +kernel

/-- In UTC a date starts at its boundary. -/
theorem regular (timeZone : String) (cadence : Cadence) (anchorDate effectiveFrom : Int) :
    zones.Regular timeZone cadence anchorDate effectiveFrom := by
  intro date boundary _ _ hboundary instant
  have hwall (guess : Int) : zones.wallClock timeZone guess = guess / 1000 * 1000 := by
    simp [Zones.wallClock, zones]
  have hguess : zones.boundaryGuess timeZone (date * dayMs) 4 (date * dayMs) = date * dayMs := by
    simp only [Zones.boundaryGuess, hwall, dayMs]
    rw [if_pos (by omega)]
  simp only [Zones.localDateBoundaryUtc, bind_eq_ok, ensure_eq_ok, hguess] at hboundary
  obtain ⟨_, _, _, _, hboundary⟩ := hboundary
  obtain rfl := Except.ok.inj hboundary
  simp only [Zones.localDate, zones, dayMs]
  omega

/-- The commands of the run leave no period for a new policy to take over. -/
def takesOverNothing (db : Database) : Command → Bool
  | .createPolicy _ _ body => decide (∀ period ∈ db.periods, period.localStartDate < body.effectiveFrom)
  | _ => true

/-- When the new policy takes effect after the second period, the law holds. -/
theorem timely_policy_tiles : Tiles zones (after (changed 14)) := by
  apply payroll_periods_tile zones hashes [site] (changed 14)
  have hchecked : ∀ t ∈ trace (step zones hashes) (.initial [site]) (changed 14),
      takesOverNothing t.before t.request.command = true := by decide +kernel
  intro t ht request id body hcommand _
  have hperiods := hchecked t ht
  rw [hcommand] at hperiods
  exact ⟨of_decide_eq_true hperiods, regular _ _ _ _⟩

end Sample

end LunchLineup.Payroll
