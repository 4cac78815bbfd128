import LunchLineup.Worker.Dispatch
import LunchLineup.Engine.Service
import LunchLineup.Python.Reference

/-!
# The request codec

What the worker sends and what the engine reads back.  The worker scatters a
payload over typed fields and constraints; the engine decodes the constraints
and adds the typed fields to them again.  `mergedConstraints` is the dictionary
that has to come out, and `protoToSolveRequest_message` says that it does: no
key is sent twice, so nothing is lost or rejected on the way.

What is left are the limits of the engine, which it applies to the merged
dictionary.  `Fits` collects them, and the round trip holds exactly for the
payloads that fit.
-/

namespace LunchLineup.Worker

open LunchLineup.Lib LunchLineup.Python

/-! ## What the engine has to read -/

/-- A value that is left out when it has no entries. -/
def orNone {α : Type} (items : List α) (value : PyValue) : PyValue :=
  if items.isEmpty then .none else value

namespace SolvePayload

variable (payload : SolvePayload)

/-- The rules of every person, as the solver reads them. -/
def availabilityEntries : Dict String PyValue :=
  payload.staffIds.map fun staffId =>
    (staffId, .list ((payload.rulesOf staffId).map fun rule =>
      Engine.availabilityRuleValue rule.dayOfWeek rule.startTime rule.endTime))

/-- The people with skills. -/
def skilledStaff : List String :=
  payload.staffIds.filter fun staffId => !(payload.skillsOf staffId).isEmpty

/-- The skills of the people who have some, as the solver reads them. -/
def skillEntries : Dict String PyValue :=
  payload.skilledStaff.map fun staffId => (staffId, .list ((payload.skillsOf staffId).map .str))

/-- The weekly minutes of the people who have some. -/
def workedWeeks : Dict String (Dict String Int) :=
  payload.existingWeeklyMinutes.filter fun entry => !entry.2.isEmpty

/-- The existing shifts, as the solver reads them. -/
def intervalValues : List PyValue :=
  payload.existingShifts.map fun shift =>
    Engine.existingShiftValue shift.id shift.staffId shift.locationId shift.startTime shift.endTime

/-- The constraints that are sent, decoded again. -/
def sentConstraints (rt : Runtime) : Dict String PyValue :=
  payload.requestConstraints.map fun entry =>
    (entry.1, Engine.decodeConstraintValue rt (encodeConstraintValue rt entry.2))

/-- Constraints and typed fields in one dictionary. -/
def mergedConstraints (rt : Runtime) : Dict String PyValue :=
  payload.sentConstraints rt ++ [("availability", .dict payload.availabilityEntries)] ++
    Dict.optional (!payload.skillEntries.isEmpty) "staff_skills" (.dict payload.skillEntries) ++
    Dict.optional (!payload.workedWeeks.isEmpty) "existing_weekly_minutes"
      (Engine.weeklyMinutesValue payload.workedWeeks) ++
    Dict.optional (!payload.intervalValues.isEmpty) "existing_shift_intervals"
      (.list payload.intervalValues)

/-- The keys of the dictionaries of a Python object are distinct. -/
structure Distinct : Prop where
  constraints : (Dict.keys payload.constraints).Nodup
  staff : (Dict.keys payload.existingWeeklyMinutes).Nodup
  weeks : ∀ entry ∈ payload.existingWeeklyMinutes, (Dict.keys entry.2).Nodup

/-- The JSON module reads back the constraints it writes. -/
def Lossless (rt : Runtime) : Prop :=
  ∀ entry ∈ payload.requestConstraints, (∀ text, entry.2 ≠ .str text) →
    rt.loads (rt.dumps entry.2) = some entry.2

/-- The decoded request carries what the payload says.  Absent and empty values
are the same, and a demand or skill table that the payload gives among its
constraints counts as the payload's. -/
structure Carries (request : Engine.SolveRequest) : Prop where
  scheduleId : request.scheduleId = payload.scheduleId
  tenantId : request.tenantId = payload.tenantId
  locationId : request.locationId = payload.locationId
  startDate : request.startDate = payload.startDate
  endDate : request.endDate = payload.endDate
  staffIds : request.staffIds = payload.staffIds
  timezone : getValue request.constraints "timezone" = .str payload.timezone
  availability : getValue request.constraints "availability" =
    .dict payload.availabilityEntries
  availabilityExceptions : getValue request.constraints "availability_exceptions" =
    orNone payload.availabilityExceptions payload.exceptionsValue
  staffSkills : getValue request.constraints "staff_skills" =
    if payload.staffSkills = [] then getValue payload.constraints "staff_skills"
    else orNone payload.skillEntries (.dict payload.skillEntries)
  skillRequirements : getValue request.constraints "skill_requirements" =
    if payload.skillRequirements.isEmpty then getValue payload.constraints "skill_requirements"
    else .dict payload.skillRequirements
  dailyDemand : getValue request.constraints "daily_demand" =
    if payload.dailyDemand.isNone then getValue payload.constraints "daily_demand"
    else payload.dailyDemand
  demandWindows : getValue request.constraints "demand_windows" =
    orNone payload.demandWindows payload.windowsValue
  existingWeeklyMinutes : getValue request.constraints "existing_weekly_minutes" =
    orNone payload.workedWeeks (Engine.weeklyMinutesValue payload.workedWeeks)
  existingShifts : getValue request.constraints "existing_shift_intervals" =
    orNone payload.intervalValues (.list payload.intervalValues)

/-- The constraints whose values may be texts. -/
def textConstraints : List String :=
  ["timezone", "staff_skills", "skill_requirements", "daily_demand"]

/-- The payload stays inside the limits of the engine: its number of people, its
rule that availability is configured, texts that are not JSON for something
else, and the length of all constraints together. -/
structure Fits (rt : Runtime) : Prop where
  staff : payload.staffIds.length ≤ Engine.maxStaffIds
  configured : ∀ staffId ∈ payload.staffIds,
    payload.rulesOf staffId = [] ∨ payload.configured staffId = true
  texts : ∀ key ∈ textConstraints, ∀ text, getValue payload.requestConstraints key = .str text →
    Engine.decodeConstraintValue rt text = .str text
  size : (rt.dumps (.dict (payload.mergedConstraints rt))).length ≤ Engine.maxConstraintsLength

end SolvePayload

/-! ## The constraints of the worker -/

section

variable {rt : Runtime} {payload : SolvePayload}

theorem get?_requestConstraints (payload : SolvePayload) (key : String) :
    Dict.get? payload.requestConstraints key =
      if payload.demandWindows.isEmpty = false ∧ "demand_windows" = key then
        some payload.windowsValue
      else if payload.dailyDemand.isNone = false ∧ "daily_demand" = key then
        some payload.dailyDemand
      else if payload.skillRequirements.isEmpty = false ∧ "skill_requirements" = key then
        some (.dict payload.skillRequirements)
      else if payload.availabilityExceptions.isEmpty = false ∧ "availability_exceptions" = key then
        some payload.exceptionsValue
      else if "timezone" = key then some (.str payload.timezone)
      else Dict.get? payload.constraints key := by
  simp only [SolvePayload.requestConstraints, Dict.get?_unless_set, Dict.get?_set]

theorem nodup_keys_requestConstraints (h : payload.Distinct) :
    (Dict.keys payload.requestConstraints).Nodup := by
  unfold SolvePayload.requestConstraints
  iterate 4 apply Dict.nodup_keys_unless_set
  exact Dict.nodup_keys_set h.constraints _ _

theorem mem_keys_requestConstraints {key : String}
    (h : key ∈ Dict.keys payload.requestConstraints) :
    key ∈ ["demand_windows", "daily_demand", "skill_requirements", "availability_exceptions",
      "timezone"] ∨ key ∈ Dict.keys payload.constraints := by
  simp only [SolvePayload.requestConstraints, Dict.mem_keys_unless_set, Dict.mem_keys_set] at h
  simp only [List.mem_cons, List.not_mem_nil]
  tauto

/-- The constraints the worker sends are known to the engine, and none of them
is a typed field. -/
theorem allowed_of_mem_requestConstraints (hvalid : Validated rt payload)
    (havailability : "availability" ∉ Dict.keys payload.constraints) {key : String}
    (h : key ∈ Dict.keys payload.requestConstraints) :
    key ∈ Engine.allowedConstraints ∧ key ≠ "availability" ∧ key ≠ "existing_weekly_minutes" ∧
      key ≠ "existing_shift_intervals" := by
  rcases mem_keys_requestConstraints h with hkey | hkey
  · have hall : ∀ key ∈ ["demand_windows", "daily_demand", "skill_requirements",
        "availability_exceptions", "timezone"], key ∈ Engine.allowedConstraints ∧
        key ≠ "availability" ∧ key ≠ "existing_weekly_minutes" ∧
        key ≠ "existing_shift_intervals" := by decide
    exact hall key hkey
  · have hall : ∀ key ∈ solverConstraints, key ∈ Engine.allowedConstraints ∧
        key ≠ "existing_weekly_minutes" ∧ key ≠ "existing_shift_intervals" := by decide
    obtain ⟨hallowed, hweeks, hshifts⟩ := hall key (hvalid.constraints key hkey)
    refine ⟨hallowed, ?_, hweeks, hshifts⟩
    rintro rfl
    exact havailability hkey

/-- A skill table is sent among the constraints only if no person has skills in
the typed field. -/
theorem skillEntries_eq_nil (hvalid : Validated rt payload)
    (h : "staff_skills" ∈ Dict.keys payload.requestConstraints) : payload.skillEntries = [] := by
  rcases mem_keys_requestConstraints h with hkey | hkey
  · simp at hkey
  · rcases hvalid.staffSkills with hempty | hfresh
    · rw [SolvePayload.skillEntries, List.map_eq_nil_iff, SolvePayload.skilledStaff,
        List.filter_eq_nil_iff]
      intro staffId _
      simp [SolvePayload.skillsOf, Dict.getD, hempty]
    · exact absurd hkey hfresh

/-! ## Texts and JSON -/

theorem decode_encode (hlossless : payload.Lossless rt) {entry : String × PyValue}
    (hmem : entry ∈ payload.requestConstraints) (htext : ∀ text, entry.2 ≠ .str text) :
    Engine.decodeConstraintValue rt (encodeConstraintValue rt entry.2) = entry.2 := by
  have hjson := hlossless entry hmem htext
  unfold encodeConstraintValue
  split
  · rename_i text heq
    exact absurd heq (htext text)
  · rw [Engine.decodeConstraintValue, hjson, Option.getD_some]

/-- The value of a constraint after the round trip: a text may change, every
other value stays. -/
theorem getValue_sentConstraints (hlossless : payload.Lossless rt) (key : String) :
    (Dict.get? (payload.sentConstraints rt) key).getD .none =
      match getValue payload.requestConstraints key with
      | .str text => Engine.decodeConstraintValue rt text
      | value => value := by
  rw [SolvePayload.sentConstraints,
    Dict.get?_map fun _ value => Engine.decodeConstraintValue rt (encodeConstraintValue rt value)]
  unfold getValue Dict.getD
  cases hget : Dict.get? payload.requestConstraints key with
  | none => rfl
  | some value =>
      rw [Option.map_some, Option.getD_some, Option.getD_some]
      split
      · rfl
      · rename_i htext
        exact decode_encode hlossless (Dict.mem_of_get? hget) htext

/-! ## Weekly minutes -/

/-- The weeks of one person are collected behind those of the others. -/
theorem collectWeeklyMinutes_person (weeks : Dict String (Dict String Int)) {staffId : String}
    (hfresh : staffId ∉ Dict.keys weeks) (entries : Dict String Int) (done : Dict String Int)
    (hnodup : (Dict.keys (done ++ entries)).Nodup)
    (rest : List Proto.ExistingWeeklyMinutes) :
    Engine.collectWeeklyMinutes (weeks ++ [(staffId, done)])
        (entries.map (fun week => ⟨staffId, week.1, week.2⟩) ++ rest) =
      Engine.collectWeeklyMinutes (weeks ++ [(staffId, done ++ entries)]) rest := by
  induction entries generalizing done with
  | nil => simp
  | cons week more ih =>
      have hdoneWeeks : Dict.getD (weeks ++ [(staffId, done)]) staffId [] = done := by
        rw [Dict.getD, Dict.get?_append, Dict.get?_eq_none.mpr hfresh]
        simp [Dict.get?_cons]
      have hweek : week.1 ∉ Dict.keys done := by
        intro hmem
        rw [Dict.keys, List.map_append, List.nodup_append] at hnodup
        exact hnodup.2.2 _ hmem _ (by simp) rfl
      rw [List.map_cons, List.cons_append, Engine.collectWeeklyMinutes, hdoneWeeks,
        ensure_of_true _ (Dict.contains_eq_false.mpr hweek), ok_bind,
        Dict.set_of_notMem _ hweek, Dict.set_append_self _ _ hfresh, ih]
      · simp
      · simpa using hnodup

/-- Weekly minutes that are sent entry by entry are collected as they were, up
to people without any. -/
theorem collectWeeklyMinutes_flatMap (people weeks : Dict String (Dict String Int))
    (hnodup : (Dict.keys (weeks ++ people)).Nodup)
    (hweeks : ∀ entry ∈ people, (Dict.keys entry.2).Nodup) :
    Engine.collectWeeklyMinutes weeks
        (people.flatMap fun entry => entry.2.map fun week => ⟨entry.1, week.1, week.2⟩) =
      .ok (weeks ++ people.filter fun entry => !entry.2.isEmpty) := by
  induction people generalizing weeks with
  | nil => simp [Engine.collectWeeklyMinutes]
  | cons entry rest ih =>
      obtain ⟨staffId, entries⟩ := entry
      have hfresh : staffId ∉ Dict.keys weeks := by
        intro hmem
        rw [Dict.keys, List.map_append, List.nodup_append] at hnodup
        exact hnodup.2.2 _ hmem _ (by simp) rfl
      have hrest := fun other hother => hweeks other (List.mem_cons_of_mem _ hother)
      rw [List.flatMap_cons]
      cases entries with
      | nil =>
          rw [List.map_nil, List.nil_append, ih weeks ?_ hrest]
          · simp
          · refine hnodup.sublist ?_
            exact ((List.Sublist.refl weeks).append (List.sublist_cons_self _ _)).map _
      | cons week more =>
          -- the first week introduces the person, the others extend the entry
          have hkeys := hweeks _ List.mem_cons_self
          have hnone : Dict.getD weeks staffId [] = [] := by
            rw [Dict.getD, Dict.get?_eq_none.mpr hfresh, Option.getD_none]
          rw [List.map_cons, List.cons_append, Engine.collectWeeklyMinutes, hnone,
            ensure_of_true _ (by rfl), ok_bind, Dict.set_of_notMem _ hfresh]
          show Engine.collectWeeklyMinutes (weeks ++ [(staffId, [week])]) _ = _
          rw [collectWeeklyMinutes_person weeks hfresh more [week] hkeys, ih _ ?_ hrest]
          · simp
          · simpa [Dict.keys] using hnodup

/-! ## The message and its decoding -/

/-- The request of the worker, when no constraint is reserved. -/
def SolvePayload.message (rt : Runtime) (payload : SolvePayload) : Proto.ScheduleRequest where
  scheduleId := payload.scheduleId
  tenantId := payload.tenantId
  locationId := payload.locationId
  startDate := payload.startDate
  endDate := payload.endDate
  staff := payload.staffIds.map payload.staffMember
  constraints := payload.requestConstraints.map fun entry =>
    ⟨entry.1, encodeConstraintValue rt entry.2⟩
  existingWeeklyMinutes := payload.weeklyMinutes
  existingShifts := payload.existingShifts.map fun shift =>
    ⟨shift.id, shift.staffId, shift.locationId, shift.startTime, shift.endTime⟩

theorem scheduleRequest_eq (hvalid : Validated rt payload)
    (havailability : "availability" ∉ Dict.keys payload.constraints) :
    scheduleRequest rt payload = .ok (payload.message rt) := by
  have hencode : payload.requestConstraints.mapM (encodeConstraint rt) =
      .ok (payload.message rt).constraints := by
    rw [mapM_eq_ok]
    show List.Forall₂ _ _ (payload.requestConstraints.map _)
    rw [List.forall₂_map_right_iff, List.forall₂_same]
    intro entry hentry
    have hkey := (allowed_of_mem_requestConstraints hvalid havailability
      (List.mem_map.mpr ⟨entry, hentry, rfl⟩)).2.1
    rw [encodeConstraint, ensure_of_true _ hkey, ok_bind]
  rw [scheduleRequest, hencode, ok_bind]
  rfl

theorem supply_eq {constraints : Dict String PyValue} {present : Bool} {key : String}
    {value : PyValue} {message : String} (hfresh : present = true → key ∉ Dict.keys constraints) :
    Engine.supply constraints present key value message =
      .ok (constraints ++ Dict.optional present key value) := by
  unfold Engine.supply Dict.optional
  split
  · rename_i hpresent
    rw [ensure_of_true _ (Dict.contains_eq_false.mpr (hfresh hpresent)), ok_bind,
      Dict.set_of_notMem _ (hfresh hpresent)]
  · rw [List.append_nil]

/-- The request before the engine checks it. -/
def SolvePayload.decoded (rt : Runtime) (payload : SolvePayload) : Engine.SolveRequest where
  scheduleId := payload.scheduleId
  tenantId := payload.tenantId
  locationId := payload.locationId
  startDate := payload.startDate
  endDate := payload.endDate
  staffIds := payload.staffIds
  constraints := payload.mergedConstraints rt

theorem keys_sentConstraints (rt : Runtime) (payload : SolvePayload) :
    Dict.keys (payload.sentConstraints rt) = Dict.keys payload.requestConstraints := by
  rw [SolvePayload.sentConstraints, Dict.keys, Dict.keys, List.map_map]
  rfl

theorem ofPairs_message_constraints (hdistinct : payload.Distinct) :
    Dict.ofPairs ((payload.message rt).constraints.map fun constraint =>
      (constraint.type, Engine.decodeConstraintValue rt constraint.value)) =
      payload.sentConstraints rt := by
  have hpairs : (payload.message rt).constraints.map (fun constraint =>
      (constraint.type, Engine.decodeConstraintValue rt constraint.value)) =
      payload.sentConstraints rt := by
    show (payload.requestConstraints.map _).map _ = _
    rw [List.map_map]
    rfl
  rw [hpairs]
  apply Dict.ofPairs_of_nodup
  have hkeys := nodup_keys_requestConstraints hdistinct
  rwa [← keys_sentConstraints rt] at hkeys

theorem ofPairs_message_availability (hvalid : Validated rt payload) :
    Dict.ofPairs ((payload.message rt).staff.map Engine.staffAvailability) =
      payload.availabilityEntries := by
  have hpairs : (payload.message rt).staff.map Engine.staffAvailability =
      payload.availabilityEntries := by
    show (payload.staffIds.map payload.staffMember).map Engine.staffAvailability = _
    rw [List.map_map]
    refine List.map_congr_left fun staffId _ => ?_
    simp [Engine.staffAvailability, SolvePayload.staffMember]
  rw [hpairs]
  apply Dict.ofPairs_of_nodup
  simpa [SolvePayload.availabilityEntries, Function.comp_def] using hvalid.staffIds_nodup

theorem ofPairs_message_skills (hvalid : Validated rt payload) :
    Dict.ofPairs (((payload.message rt).staff.filter fun staff => !staff.skills.isEmpty).map
      Engine.staffSkillList) = payload.skillEntries := by
  have hpairs : ((payload.message rt).staff.filter fun staff => !staff.skills.isEmpty).map
      Engine.staffSkillList = payload.skillEntries := by
    show ((payload.staffIds.map payload.staffMember).filter _).map Engine.staffSkillList = _
    rw [List.filter_map, List.map_map]
    rfl
  rw [hpairs]
  apply Dict.ofPairs_of_nodup
  have hnodup := hvalid.staffIds_nodup.filter fun staffId => !(payload.skillsOf staffId).isEmpty
  simpa [SolvePayload.skillEntries, SolvePayload.skilledStaff, Function.comp_def] using hnodup

/-- Each typed field is new among the constraints collected before it. -/
theorem typed_fresh (hvalid : Validated rt payload)
    (havailability : "availability" ∉ Dict.keys payload.constraints) :
    let availability := payload.sentConstraints rt ++
      Dict.optional true "availability" (.dict payload.availabilityEntries)
    let skills := availability ++
      Dict.optional (!payload.skillEntries.isEmpty) "staff_skills" (.dict payload.skillEntries)
    let weeks := skills ++ Dict.optional (!payload.workedWeeks.isEmpty) "existing_weekly_minutes"
      (Engine.weeklyMinutesValue payload.workedWeeks)
    "availability" ∉ Dict.keys (payload.sentConstraints rt) ∧
      ((!payload.skillEntries.isEmpty) = true → "staff_skills" ∉ Dict.keys availability) ∧
      "existing_weekly_minutes" ∉ Dict.keys skills ∧
      "existing_shift_intervals" ∉ Dict.keys weeks := by
  have hkeys : ∀ key ∈ Dict.keys (payload.sentConstraints rt), key ≠ "availability" ∧
      key ≠ "existing_weekly_minutes" ∧ key ≠ "existing_shift_intervals" := by
    intro key hkey
    rw [keys_sentConstraints] at hkey
    exact (allowed_of_mem_requestConstraints hvalid havailability hkey).2
  refine ⟨fun hmem => (hkeys _ hmem).1 rfl, ?_, ?_, ?_⟩
  · intro hskilled hmem
    rcases Dict.mem_keys_append.mp hmem with hmem | hmem
    · rw [keys_sentConstraints] at hmem
      rw [skillEntries_eq_nil hvalid hmem] at hskilled
      simp at hskilled
    · simp [Dict.mem_keys_optional] at hmem
  · simp only [Dict.mem_keys_append, Dict.mem_keys_optional, not_or]
    refine ⟨⟨fun hmem => (hkeys _ hmem).2.1 rfl, ?_⟩, ?_⟩ <;> simp
  · simp only [Dict.mem_keys_append, Dict.mem_keys_optional, not_or]
    refine ⟨⟨⟨fun hmem => (hkeys _ hmem).2.2 rfl, ?_⟩, ?_⟩, ?_⟩ <;> simp

/-- The engine reads the merged constraints, unless a person has rules that are
not configured. -/
theorem protoToSolveRequest_message (hvalid : Validated rt payload) (hdistinct : payload.Distinct)
    (havailability : "availability" ∉ Dict.keys payload.constraints) :
    Engine.protoToSolveRequest rt (payload.message rt) =
      (checkAll (payload.staffIds.map payload.staffMember) fun staff =>
        ensure (staff.availability = [] ∨ staff.availabilityConfigured = true)
          "staff availability rules require availability_configured") >>= fun _ =>
        Engine.validateSolveRequest rt (payload.decoded rt) := by
  have hweeks : Engine.collectWeeklyMinutes [] (payload.message rt).existingWeeklyMinutes =
      .ok payload.workedWeeks :=
    collectWeeklyMinutes_flatMap payload.existingWeeklyMinutes [] hdistinct.staff hdistinct.weeks
  obtain ⟨havailable, hskills, hweekly, hintervals⟩ := typed_fresh hvalid havailability
  have hnonempty : payload.availabilityEntries.isEmpty = false := by
    simpa [SolvePayload.availabilityEntries] using hvalid.staffIds_ne_nil
  have hshifts : (payload.message rt).existingShifts.map (fun entry => Engine.existingShiftValue
      entry.id entry.staffId entry.locationId entry.startTime entry.endTime) =
      payload.intervalValues := by
    show (payload.existingShifts.map _).map _ = _
    rw [List.map_map]
    rfl
  have hids : (payload.message rt).staff.map Proto.StaffMember.id = payload.staffIds := by
    show (payload.staffIds.map payload.staffMember).map Proto.StaffMember.id = _
    rw [List.map_map]
    exact List.map_id'' (fun _ => rfl) payload.staffIds
  rw [Engine.protoToSolveRequest]
  simp only [ofPairs_message_constraints hdistinct, ofPairs_message_availability hvalid,
    ofPairs_message_skills hvalid, hnonempty, hshifts, hids]
  refine congrArg (bind _) (funext fun _ => ?_)
  rw [supply_eq, ok_bind, supply_eq, ok_bind, hweeks, ok_bind, supply_eq, ok_bind, supply_eq,
    ok_bind]
  · rfl
  · exact fun _ => hintervals
  · exact fun _ => hweekly
  · exact hskills
  · exact fun _ => havailable

/-! ## The limits of the engine -/

theorem mem_keys_mergedConstraints {key : String}
    (h : key ∈ Dict.keys (payload.mergedConstraints rt)) :
    key ∈ Dict.keys payload.requestConstraints ∨
      key ∈ ["availability", "staff_skills", "existing_weekly_minutes",
        "existing_shift_intervals"] := by
  simp only [SolvePayload.mergedConstraints, Dict.mem_keys_append, Dict.mem_keys_optional,
    keys_sentConstraints] at h
  simp only [Dict.keys, List.map_cons, List.map_nil, List.mem_cons, List.not_mem_nil] at h ⊢
  tauto

theorem nodup_keys_mergedConstraints (hvalid : Validated rt payload)
    (hdistinct : payload.Distinct)
    (havailability : "availability" ∉ Dict.keys payload.constraints) :
    (Dict.keys (payload.mergedConstraints rt)).Nodup := by
  obtain ⟨havailable, hskills, hweekly, hintervals⟩ := typed_fresh hvalid havailability
  have hsent : (Dict.keys (payload.sentConstraints rt)).Nodup := by
    rw [keys_sentConstraints]
    exact nodup_keys_requestConstraints hdistinct
  have hwithAvailability := Dict.nodup_keys_append_optional hsent
    (fun _ : true = true => havailable) (.dict payload.availabilityEntries)
  have hwithSkills := Dict.nodup_keys_append_optional hwithAvailability hskills
    (.dict payload.skillEntries)
  have hwithWeeks := Dict.nodup_keys_append_optional hwithSkills
    (fun _ : (!payload.workedWeeks.isEmpty) = true => hweekly)
    (Engine.weeklyMinutesValue payload.workedWeeks)
  exact Dict.nodup_keys_append_optional hwithWeeks (fun _ => hintervals)
    (.list payload.intervalValues)

/-- The engine knows every merged constraint, and they are few. -/
theorem mergedConstraints_allowed (hvalid : Validated rt payload) (hdistinct : payload.Distinct)
    (havailability : "availability" ∉ Dict.keys payload.constraints) :
    (payload.mergedConstraints rt).length ≤ Engine.maxConstraints ∧
      ∀ key ∈ Dict.keys (payload.mergedConstraints rt), key ∈ Engine.allowedConstraints := by
  have hallowed : ∀ key ∈ Dict.keys (payload.mergedConstraints rt),
      key ∈ Engine.allowedConstraints := by
    intro key hkey
    rcases mem_keys_mergedConstraints hkey with hkey | hkey
    · exact (allowed_of_mem_requestConstraints hvalid havailability hkey).1
    · have hall : ∀ key ∈ ["availability", "staff_skills", "existing_weekly_minutes",
          "existing_shift_intervals"], key ∈ Engine.allowedConstraints := by decide
      exact hall key hkey
  refine ⟨?_, hallowed⟩
  have hcount := ((nodup_keys_mergedConstraints hvalid hdistinct havailability).subperm
    hallowed).length_le
  calc (payload.mergedConstraints rt).length
      = (Dict.keys (payload.mergedConstraints rt)).length := by rw [Dict.keys, List.length_map]
    _ ≤ Engine.allowedConstraints.length := hcount
    _ ≤ Engine.maxConstraints := by decide

/-- The engine accepts the request exactly if it has few people and its
constraints are short. -/
theorem validateSolveRequest_decoded (hvalid : Validated rt payload) (hdistinct : payload.Distinct)
    (havailability : "availability" ∉ Dict.keys payload.constraints)
    {request : Engine.SolveRequest} :
    Engine.validateSolveRequest rt (payload.decoded rt) = .ok request ↔
      request = payload.decoded rt ∧ payload.staffIds.length ≤ Engine.maxStaffIds ∧
        (rt.dumps (.dict (payload.mergedConstraints rt))).length ≤
          Engine.maxConstraintsLength := by
  have hlimits : Engine.SolveRequest.limits (payload.decoded rt) = true ↔
      payload.staffIds.length ≤ Engine.maxStaffIds := by
    have hpos := List.length_pos_iff.mpr hvalid.staffIds_ne_nil
    have hstart := hvalid.startDate
    have hend := hvalid.endDate
    simp only [lengthBetween, Bool.and_eq_true, decide_eq_true_eq] at hstart hend
    simp [Engine.SolveRequest.limits, SolvePayload.decoded, hvalid.scheduleId, hvalid.tenantId,
      hvalid.locationId, hstart, hend, Nat.one_le_iff_ne_zero, hpos.ne']
    exact decide_eq_true_iff
  obtain ⟨hcount, hkeys⟩ : (payload.mergedConstraints rt).length ≤ Engine.maxConstraints ∧
      ∀ key ∈ Dict.keys (payload.mergedConstraints rt), key ∈ Engine.allowedConstraints :=
    mergedConstraints_allowed hvalid hdistinct havailability
  have hids : collectIds (fun trimmed => trimmed ≠ "" && trimmed.length ≤ 128)
      "staff_ids contain an invalid identifier" [] payload.staffIds = .ok payload.staffIds :=
    collectIds_of_clean hvalid.staffIds_nodup hvalid.staffIds_valid
  simp only [Engine.validateSolveRequest, Engine.validateConstraints, bind_eq_ok, ensure_eq_ok,
    exists_const, rejectUnknown_eq_ok, hlimits]
  constructor
  · rintro ⟨hstaff, staffIds, hcollect, ⟨_, _, hsize⟩, heq⟩
    have hsame : staffIds = payload.staffIds := Except.ok.inj (hcollect.symm.trans hids)
    subst hsame
    exact ⟨(Except.ok.inj heq).symm, hstaff, hsize⟩
  · rintro ⟨rfl, hstaff, hsize⟩
    exact ⟨hstaff, payload.staffIds, hids, ⟨hcount, hkeys, hsize⟩, rfl⟩

/-! ## What the decoded request carries -/

theorem getValue_mergedConstraints (rt : Runtime) (payload : SolvePayload) (key : String) :
    getValue (payload.mergedConstraints rt) key =
      (((((Dict.get? (payload.sentConstraints rt) key).or
        (Dict.get? [("availability", .dict payload.availabilityEntries)] key)).or
        (Dict.get? (Dict.optional (!payload.skillEntries.isEmpty) "staff_skills"
          (.dict payload.skillEntries)) key)).or
        (Dict.get? (Dict.optional (!payload.workedWeeks.isEmpty) "existing_weekly_minutes"
          (Engine.weeklyMinutesValue payload.workedWeeks)) key)).or
        (Dict.get? (Dict.optional (!payload.intervalValues.isEmpty) "existing_shift_intervals"
          (.list payload.intervalValues)) key)).getD .none := by
  simp only [getValue, Dict.getD, SolvePayload.mergedConstraints, Dict.get?_append]

/-- A constraint that is not a typed field is the one that was sent. -/
theorem getValue_merged_of_sent {key : String}
    (hkey : key ∉ ["availability", "existing_weekly_minutes", "existing_shift_intervals"])
    (hskills : key = "staff_skills" → payload.skillEntries = []) :
    getValue (payload.mergedConstraints rt) key =
      (Dict.get? (payload.sentConstraints rt) key).getD .none := by
  simp only [List.mem_cons, List.not_mem_nil, or_false, not_or] at hkey
  obtain ⟨havailability, hweeks, hintervals⟩ := hkey
  have hskill : ¬ ((!payload.skillEntries.isEmpty) = true ∧ "staff_skills" = key) := by
    rintro ⟨hsome, rfl⟩
    rw [hskills rfl] at hsome
    simp at hsome
  rw [getValue_mergedConstraints, Dict.get?_optional, Dict.get?_optional, Dict.get?_optional,
    Dict.get?_cons, if_neg (Ne.symm havailability), if_neg hskill,
    if_neg (fun h => hweeks h.2.symm), if_neg (fun h => hintervals h.2.symm)]
  simp

/-- A constraint survives the round trip unless it is a text that is JSON for
something else. -/
theorem getValue_merged_eq_iff (hlossless : payload.Lossless rt) {key : String}
    (hkey : key ∉ ["availability", "existing_weekly_minutes", "existing_shift_intervals"])
    (hskills : key = "staff_skills" → payload.skillEntries = []) :
    getValue (payload.mergedConstraints rt) key = getValue payload.requestConstraints key ↔
      ∀ text, getValue payload.requestConstraints key = .str text →
        Engine.decodeConstraintValue rt text = .str text := by
  rw [getValue_merged_of_sent hkey hskills, getValue_sentConstraints hlossless]
  split
  · rename_i text htext
    rw [htext]
    constructor
    · intro hsame other hother
      rw [← PyValue.str.inj hother]
      exact hsame
    · intro hall
      exact hall text rfl
  · rename_i hnot
    simp only [true_iff]
    intro text htext
    exact absurd htext (hnot text)

/-- What the worker sends for each field of the payload. -/
theorem getValue_requestConstraints (hvalid : Validated rt payload) :
    getValue payload.requestConstraints "timezone" = .str payload.timezone ∧
      getValue payload.requestConstraints "availability_exceptions" =
        orNone payload.availabilityExceptions payload.exceptionsValue ∧
      getValue payload.requestConstraints "staff_skills" =
        getValue payload.constraints "staff_skills" ∧
      getValue payload.requestConstraints "skill_requirements" =
        (if payload.skillRequirements.isEmpty then getValue payload.constraints "skill_requirements"
          else .dict payload.skillRequirements) ∧
      getValue payload.requestConstraints "daily_demand" =
        (if payload.dailyDemand.isNone then getValue payload.constraints "daily_demand"
          else payload.dailyDemand) ∧
      getValue payload.requestConstraints "demand_windows" =
        orNone payload.demandWindows payload.windowsValue := by
  have hfresh : ∀ key ∉ solverConstraints, Dict.get? payload.constraints key = none := by
    intro key hkey
    exact Dict.get?_eq_none.mpr fun hmem => hkey (hvalid.constraints key hmem)
  have hexceptions := hfresh "availability_exceptions" (by decide)
  have hwindows := hfresh "demand_windows" (by decide)
  simp only [getValue, Dict.getD, get?_requestConstraints, orNone]
  refine ⟨by simp, ?_, by simp, ?_, ?_, ?_⟩
  · cases hempty : payload.availabilityExceptions.isEmpty <;> simp [hexceptions]
  · cases hempty : payload.skillRequirements.isEmpty <;> simp
  · cases hnone : payload.dailyDemand.isNone <;> simp
  · cases hempty : payload.demandWindows.isEmpty <;> simp [hwindows]

/-- The typed fields come out as they are. -/
theorem getValue_merged_typed (hvalid : Validated rt payload)
    (havailability : "availability" ∉ Dict.keys payload.constraints) :
    getValue (payload.mergedConstraints rt) "availability" = .dict payload.availabilityEntries ∧
      (payload.staffSkills ≠ [] → getValue (payload.mergedConstraints rt) "staff_skills" =
        orNone payload.skillEntries (.dict payload.skillEntries)) ∧
      getValue (payload.mergedConstraints rt) "existing_weekly_minutes" =
        orNone payload.workedWeeks (Engine.weeklyMinutesValue payload.workedWeeks) ∧
      getValue (payload.mergedConstraints rt) "existing_shift_intervals" =
        orNone payload.intervalValues (.list payload.intervalValues) := by
  have habsent : ∀ key, key ∉ Dict.keys payload.requestConstraints →
      Dict.get? (payload.sentConstraints rt) key = none := by
    intro key hkey
    rw [Dict.get?_eq_none, keys_sentConstraints]
    exact hkey
  have htyped : ∀ key ∈ ["availability", "existing_weekly_minutes", "existing_shift_intervals"],
      Dict.get? (payload.sentConstraints rt) key = none := by
    intro key hkey
    refine habsent key fun hmem => ?_
    have hne := (allowed_of_mem_requestConstraints hvalid havailability hmem).2
    simp only [List.mem_cons, List.not_mem_nil, or_false] at hkey
    tauto
  simp only [getValue_mergedConstraints, Dict.get?_optional, Dict.get?_cons, Dict.get?_nil, orNone]
  refine ⟨?_, ?_, ?_, ?_⟩
  · rw [htyped _ (by simp)]
    simp
  · intro hskills
    have hsent : "staff_skills" ∉ Dict.keys payload.requestConstraints := by
      intro hmem
      rcases mem_keys_requestConstraints hmem with hkey | hkey
      · simp at hkey
      · exact (hvalid.staffSkills.resolve_left hskills) hkey
    rw [habsent _ hsent]
    cases payload.skillEntries.isEmpty <;> simp
  · rw [htyped _ (by simp)]
    cases payload.workedWeeks.isEmpty <;> simp
  · rw [htyped _ (by simp)]
    cases payload.intervalValues.isEmpty <;> simp

/-- The decoded request carries the payload exactly if its texts survive. -/
theorem carries_decoded_iff (hvalid : Validated rt payload) (hlossless : payload.Lossless rt)
    (havailability : "availability" ∉ Dict.keys payload.constraints) :
    payload.Carries (payload.decoded rt) ↔
      ∀ key ∈ SolvePayload.textConstraints, ∀ text,
        getValue payload.requestConstraints key = .str text →
        Engine.decodeConstraintValue rt text = .str text := by
  obtain ⟨htimezone, hexceptions, hskills, hrequirements, hdaily, hwindows⟩ :=
    getValue_requestConstraints hvalid
  obtain ⟨htyped, htypedSkills, hweekly, hintervals⟩ :=
    getValue_merged_typed hvalid havailability
  have hnoSkills : payload.staffSkills = [] → payload.skillEntries = [] := by
    intro hempty
    simp [SolvePayload.skillEntries, SolvePayload.skilledStaff, SolvePayload.skillsOf, Dict.getD,
      hempty]
  have hsurvives : ∀ key,
      key ∉ ["availability", "existing_weekly_minutes", "existing_shift_intervals", "staff_skills"] →
      (getValue (payload.mergedConstraints rt) key = getValue payload.requestConstraints key ↔
        ∀ text, getValue payload.requestConstraints key = .str text →
          Engine.decodeConstraintValue rt text = .str text) := by
    intro key hkey
    simp only [List.mem_cons, List.not_mem_nil, or_false, not_or] at hkey
    refine getValue_merged_eq_iff hlossless ?_ fun heq => absurd heq hkey.2.2.2
    simp [hkey]
  have hskillsSurvive : payload.staffSkills = [] →
      (getValue (payload.mergedConstraints rt) "staff_skills" =
        getValue payload.requestConstraints "staff_skills" ↔
        ∀ text, getValue payload.requestConstraints "staff_skills" = .str text →
          Engine.decodeConstraintValue rt text = .str text) := by
    intro hempty
    exact getValue_merged_eq_iff hlossless (by decide) fun _ => hnoSkills hempty
  constructor
  · intro hcarries key hkey text htext
    have hcases : key = "timezone" ∨ key = "staff_skills" ∨ key = "skill_requirements" ∨
        key = "daily_demand" := by simpa [SolvePayload.textConstraints] using hkey
    rcases hcases with rfl | rfl | rfl | rfl
    · exact (hsurvives _ (by decide)).mp (hcarries.timezone.trans htimezone.symm) text htext
    · -- a text among the constraints leaves the typed field empty
      have hempty : payload.staffSkills = [] := by
        refine hvalid.staffSkills.resolve_right fun hfresh => ?_
        rw [hskills, getValue, Dict.getD, Dict.get?_eq_none.mpr hfresh] at htext
        cases htext
      have hsame := hcarries.staffSkills
      rw [if_pos hempty, ← hskills] at hsame
      exact (hskillsSurvive hempty).mp hsame text htext
    · exact (hsurvives _ (by decide)).mp
        (hcarries.skillRequirements.trans hrequirements.symm) text htext
    · exact (hsurvives _ (by decide)).mp (hcarries.dailyDemand.trans hdaily.symm) text htext
  · intro htexts
    have hsame : ∀ key ∈ SolvePayload.textConstraints, key ≠ "staff_skills" →
        getValue (payload.mergedConstraints rt) key = getValue payload.requestConstraints key := by
      intro key hkey hne
      refine (hsurvives key ?_).mpr (htexts key hkey)
      simp only [SolvePayload.textConstraints, List.mem_cons, List.not_mem_nil, or_false] at hkey
      rcases hkey with rfl | rfl | rfl | rfl <;> first | decide | exact absurd rfl hne
    have hobjects : ∀ {α : Type} (items : List α) (value : PyValue), (∀ text, value ≠ .str text) →
        ∀ text, orNone items value ≠ .str text := by
      intro α items value hvalue text
      unfold orNone
      split
      · simp
      · exact hvalue text
    refine ⟨rfl, rfl, rfl, rfl, rfl, rfl, ?_, htyped, ?_, ?_, ?_, ?_, ?_, hweekly, hintervals⟩
    · exact (hsame _ (by decide) (by decide)).trans htimezone
    · refine ((hsurvives _ (by decide)).mpr fun text htext => ?_).trans hexceptions
      rw [hexceptions] at htext
      exact absurd htext (hobjects _ _ (by simp [SolvePayload.exceptionsValue]) text)
    · by_cases hempty : payload.staffSkills = []
      · rw [if_pos hempty, ← hskills]
        exact (hskillsSurvive hempty).mpr (htexts _ (by decide))
      · rw [if_neg hempty]
        exact htypedSkills hempty
    · exact (hsame _ (by decide) (by decide)).trans hrequirements
    · exact (hsame _ (by decide) (by decide)).trans hdaily
    · refine ((hsurvives _ (by decide)).mpr fun text htext => ?_).trans hwindows
      rw [hwindows] at htext
      exact absurd htext (hobjects _ _ (by simp [SolvePayload.windowsValue]) text)

/-- Every payload that the worker accepts, and that reserves no constraint, comes
out of the engine's reader as it went in, exactly if it fits the engine. -/
theorem schedule_request_round_trip {maxStaffIds : Nat} {raw : SolvePayload}
    (haccepted : validateSolvePayload rt maxStaffIds raw = .ok payload)
    (hdistinct : payload.Distinct)
    (havailability : "availability" ∉ Dict.keys payload.constraints)
    (hlossless : payload.Lossless rt) :
    (∃ message request, scheduleRequest rt payload = .ok message ∧
      Engine.protoToSolveRequest rt message = .ok request ∧ payload.Carries request) ↔
      payload.Fits rt := by
  have hvalid := validateSolvePayload_ok haccepted
  have hsent := scheduleRequest_eq hvalid havailability
  have hread : ∀ request, Engine.protoToSolveRequest rt (payload.message rt) = .ok request ↔
      (∀ staffId ∈ payload.staffIds,
        payload.rulesOf staffId = [] ∨ payload.configured staffId = true) ∧
      request = payload.decoded rt ∧ payload.staffIds.length ≤ Engine.maxStaffIds ∧
      (rt.dumps (.dict (payload.mergedConstraints rt))).length ≤ Engine.maxConstraintsLength := by
    intro request
    rw [protoToSolveRequest_message hvalid hdistinct havailability, bind_eq_ok]
    simp only [checkAll_eq_ok, validateSolveRequest_decoded hvalid hdistinct havailability,
      List.forall_mem_map, ensure_eq_ok, SolvePayload.staffMember, List.map_eq_nil_iff,
      exists_const]
  constructor
  · rintro ⟨message, request, hmessage, hrequest, hcarries⟩
    obtain rfl : payload.message rt = message := Except.ok.inj (hsent.symm.trans hmessage)
    obtain ⟨hconfigured, rfl, hstaff, hsize⟩ := (hread request).mp hrequest
    exact ⟨hstaff, hconfigured,
      (carries_decoded_iff hvalid hlossless havailability).mp hcarries, hsize⟩
  · intro hfits
    exact ⟨payload.message rt, payload.decoded rt, hsent,
      (hread _).mpr ⟨hfits.configured, rfl, hfits.staff, hfits.size⟩,
      (carries_decoded_iff hvalid hlossless havailability).mpr hfits.texts⟩

end

/-! ## A small payload and a large one -/

/-- A payload that is its own validated form, from a check that runs. -/
theorem accepted_of_staffIds {rt : Runtime} {maxStaffIds : Nat} {payload : SolvePayload}
    (h : (validateSolvePayload rt maxStaffIds payload).toOption.map SolvePayload.staffIds =
      some payload.staffIds) : validateSolvePayload rt maxStaffIds payload = .ok payload := by
  cases hvalidate : validateSolvePayload rt maxStaffIds payload with
  | error message =>
      rw [hvalidate] at h
      cases h
  | ok validated =>
      rw [hvalidate] at h
      have hstaff : validated.staffIds = payload.staffIds := Option.some.inj h
      rw [validateSolvePayload_eq hvalidate, hstaff]

namespace SmallTeam

/-- Two people, one with rules, skills and other shifts, and a daily demand. -/
def payload : SolvePayload where
  scheduleId := "schedule-1"
  tenantId := "tenant-1"
  locationId := "location-1"
  startDate := "2026-03-09"
  endDate := "2026-03-16"
  draftRevision := 3
  inputShiftSnapshot := []
  staffIds := ["ana", "ben"]
  constraints := []
  availability := [("ana", [⟨"monday", "09:00", "17:00"⟩])]
  availabilityExceptions := []
  availabilityConfigured := [("ana", true)]
  staffSkills := [("ana", ["cashier"])]
  skillRequirements := []
  dailyDemand := .int 2
  demandWindows := []
  timezone := "America/Los_Angeles"
  existingWeeklyMinutes := [("ana", [("2026-03-09", 480)]), ("ben", [])]
  existingShifts := [⟨"shift-1", "ana", "location-2", "2026-03-10T09:00:00Z",
    "2026-03-10T17:00:00Z"⟩]

/-- The reference runtime, with the one JSON text of the payload. -/
def rt : Runtime := .reference fun text => if text = "2" then some (.int 2) else none

theorem requestConstraints_eq : payload.requestConstraints =
    [("timezone", .str "America/Los_Angeles"), ("daily_demand", .int 2)] := rfl

theorem fits : payload.Fits rt where
  staff := by decide
  configured := by decide
  texts := by
    intro key hkey text htext
    have hcases : key = "timezone" ∨ key = "staff_skills" ∨ key = "skill_requirements" ∨
        key = "daily_demand" := by simpa [SolvePayload.textConstraints] using hkey
    rcases hcases with rfl | rfl | rfl | rfl
    · cases htext
      rfl
    · cases htext
    · cases htext
    · cases htext
  size := by
    show (Reference.dumps (.dict (payload.mergedConstraints rt))).length ≤ _
    rw [Reference.length_dumps]
    decide +kernel

theorem small_team_round_trip : validateSolvePayload rt 200 payload = .ok payload ∧
    ∃ message request, scheduleRequest rt payload = .ok message ∧
      Engine.protoToSolveRequest rt message = .ok request ∧ payload.Carries request := by
  have haccepted : validateSolvePayload rt 200 payload = .ok payload :=
    accepted_of_staffIds (by decide +kernel)
  refine ⟨haccepted, (schedule_request_round_trip haccepted ?_ ?_ ?_).mpr fits⟩
  · exact ⟨by decide, by decide, by decide⟩
  · decide
  · intro entry hentry htext
    rw [requestConstraints_eq, List.mem_cons, List.mem_singleton] at hentry
    rcases hentry with rfl | rfl
    · exact absurd rfl (htext _)
    · rfl

end SmallTeam

namespace FullTeam

/-- Forty people who are free from 08:00 to 20:00 on every day. -/
def staffIds : List String :=
  (List.range 40).map fun index => "staff-" ++ toString index

def rules : List AvailabilityRule :=
  ["monday", "tuesday", "wednesday", "thursday", "friday", "saturday", "sunday"].map
    fun dayOfWeek => ⟨dayOfWeek, "08:00", "20:00"⟩

def payload : SolvePayload where
  scheduleId := "schedule-1"
  tenantId := "tenant-1"
  locationId := "location-1"
  startDate := "2026-03-09"
  endDate := "2026-03-16"
  draftRevision := 0
  inputShiftSnapshot := []
  staffIds := staffIds
  constraints := []
  availability := staffIds.map fun staffId => (staffId, rules)
  availabilityExceptions := []
  availabilityConfigured := staffIds.map fun staffId => (staffId, true)
  staffSkills := []
  skillRequirements := []
  dailyDemand := .none
  demandWindows := []
  timezone := "UTC"
  existingWeeklyMinutes := []
  existingShifts := []

def rt : Runtime := .reference fun _ => none

/-- Seven rules take more than 400 characters, and there are forty people. -/
theorem oversized : Engine.maxConstraintsLength <
    (rt.dumps (.dict (payload.mergedConstraints rt))).length := by
  show _ < (Reference.dumps (.dict (payload.mergedConstraints rt))).length
  rw [Reference.length_dumps]
  decide +kernel

theorem full_team_rejected : validateSolvePayload rt 200 payload = .ok payload ∧
    payload.Distinct ∧ "availability" ∉ Dict.keys payload.constraints ∧ payload.Lossless rt ∧
    ¬ ∃ message request, scheduleRequest rt payload = .ok message ∧
      Engine.protoToSolveRequest rt message = .ok request := by
  have haccepted : validateSolvePayload rt 200 payload = .ok payload :=
    accepted_of_staffIds (by decide +kernel)
  have hdistinct : payload.Distinct := ⟨by decide, by decide, by simp [payload]⟩
  have havailability : "availability" ∉ Dict.keys payload.constraints := by decide
  have hvalid := validateSolvePayload_ok haccepted
  refine ⟨haccepted, hdistinct, havailability, ?_, ?_⟩
  · intro entry hentry htext
    have hsent : payload.requestConstraints = [("timezone", .str "UTC")] := rfl
    rw [hsent, List.mem_singleton] at hentry
    exact absurd (congrArg Prod.snd hentry) (htext "UTC")
  · rintro ⟨message, request, hmessage, hrequest⟩
    rw [scheduleRequest_eq hvalid havailability] at hmessage
    rw [← Except.ok.inj hmessage, protoToSolveRequest_message hvalid hdistinct havailability,
      bind_eq_ok] at hrequest
    obtain ⟨_, _, hvalidated⟩ := hrequest
    obtain ⟨_, _, hsize⟩ :=
      (validateSolveRequest_decoded hvalid hdistinct havailability).mp hvalidated
    exact absurd hsize (not_le.mpr oversized)

end FullTeam

end LunchLineup.Worker
