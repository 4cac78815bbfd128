import LunchLineup.Engine.Breaks

/-!
# Reading a solve request

`ConstraintSolver.solve` first normalises its arguments: every constraint has a
reader that rejects what it does not understand with the message the engine
returns.

Dated exceptions and existing intervals are kept as one list for each person or
request, in order; the source groups them by date and by person and only looks
them up by that key.
-/

namespace LunchLineup.Engine

open LunchLineup.Lib LunchLineup.Python

/-- The arguments of `ConstraintSolver.solve`, and the configuration of the
solver object. -/
structure SolveArgs where
  config : Dict String PyValue
  staffIds : List String
  startDate : String
  endDate : String
  constraints : Dict String PyValue

/-- `MAX_STAFF_IDS`. -/
def maxStaffIds : Nat := 200

/-- `ALLOWED_CONSTRAINTS`. -/
def allowedConstraints : List String :=
  ["availability", "availability_exceptions", "break_rules", "daily_demand", "demand_windows",
    "existing_weekly_minutes", "existing_shift_intervals", "max_hours_per_week",
    "min_floor_coverage", "shift_duration_hours", "skill_requirements",
    "solver_time_limit_seconds", "staff_skills", "timezone"]

/-- `DAY_INDEX`. -/
def dayIndex : Dict String Nat :=
  [("monday", 0), ("mon", 0), ("tuesday", 1), ("tue", 1), ("wednesday", 2), ("wed", 2),
    ("thursday", 3), ("thu", 3), ("friday", 4), ("fri", 4), ("saturday", 5), ("sat", 5),
    ("sunday", 6), ("sun", 6)]

/-- The bucket of a demand: every day, a weekday, or the ISO text of a date. -/
inductive Bucket
  | all
  | weekday (index : Nat)
  | date (text : String)
  deriving DecidableEq

/-- A recurring availability rule; one that ends before it starts runs past
midnight. -/
structure AvailabilityRule where
  dayOfWeek : Nat
  startMinute : Int
  endMinute : Int
  deriving DecidableEq

/-- `AVAILABLE` or `UNAVAILABLE`. -/
inductive ExceptionKind
  | available
  | unavailable
  deriving DecidableEq

/-- A dated availability exception. -/
structure AvailabilityException where
  localDate : String
  kind : ExceptionKind
  startMinute : Int
  endMinute : Int
  deriving DecidableEq

/-- A demand window of the request, with its skill normalised. -/
structure DemandWindow where
  startTime : Int
  endTime : Int
  requiredStaff : Int
  skill : Option String
  deriving DecidableEq

/-- An entry of `existing_shift_intervals`. -/
structure ExistingInterval where
  staffId : String
  startTime : Int
  endTime : Int
  deriving DecidableEq

section

variable (rt : Runtime)

/-! ## Identifiers, zones and numbers -/

/-- `_normalize_staff_ids`. -/
def normalizeStaffIds (staffIds : List String) : Except String (List String) := do
  ensure (staffIds.length ≤ maxStaffIds) ("staff_ids cannot exceed " ++ toString maxStaffIds)
  collectIds (fun trimmed => trimmed ≠ "" && trimmed.length ≤ 128 && isIdentifier trimmed)
    "staff_ids contain an invalid identifier" [] staffIds

/-- `_normalize_constraints`. -/
def normalizeConstraints (constraints : Dict String PyValue) : Except String Unit := do
  ensure (constraints.length ≤ 20) "constraints cannot exceed 20 entries"
  rejectUnknown (Dict.keys constraints) allowedConstraints "Unsupported constraint: "

/-- `_normalize_time_zone`. -/
def normalizeTimeZone (value : PyValue) : Except String ZoneInfo :=
  match value with
  | .none => .ok .utc
  | .str text =>
      if strip text = "" ∨ 128 < (strip text).length then
        .error "timezone must be a valid IANA timezone"
      else
        match rt.zoneInfo (strip text) with
        | some zone => .ok zone
        | none => .error "timezone must be a valid IANA timezone"
  | _ => .error "timezone must be a valid IANA timezone"

/-- `parse_schedule_datetime`. -/
def parseScheduleDatetime (value : PyValue) (field : String) : Except String Int :=
  match value with
  | .str text => do
      ensure (strip text ≠ "") (field ++ " must be an ISO date or datetime string")
      match rt.fromisoformat (Runtime.replaceZulu (strip text)) with
      | some instant => .ok instant
      | none => .error (field ++ " must be a valid ISO date or datetime string")
  | _ => .error (field ++ " must be an ISO date or datetime string")

/-- `_parse_positive_int`. -/
def parsePositiveInt (value : PyValue) (field : String) : Except String Int :=
  match value with
  | .bool _ => .error (field ++ " counts must be positive integers")
  | value =>
      match toInt rt value with
      | none => .error (field ++ " counts must be positive integers")
      | some parsed => do
          ensure (1 ≤ parsed) (field ++ " counts must be positive integers")
          ensure (parsed ≤ maxStaffIds)
            (field ++ " counts cannot exceed " ++ toString maxStaffIds)
          .ok parsed

/-- `_normalize_skill_id`. -/
def normalizeSkillId (value : PyValue) (field : String) : Except String String :=
  match value with
  | .str text => do
      let skill := rt.lower (collapseSpaces (strip text))
      ensure (skill ≠ "" ∧ skill.length ≤ 64) (field ++ " contains an invalid skill")
      .ok skill
  | _ => .error (field ++ " skills must be strings")

/-- `_normalize_requirement_bucket`. -/
def normalizeRequirementBucket (bucket : String) : Except String Bucket :=
  let key := rt.lower (strip bucket)
  if key ∈ ["*", "all", "default"] then .ok .all
  else
    match Dict.get? dayIndex key with
    | some index => .ok (.weekday index)
    | none =>
        match parseScheduleDatetime rt (.str key) "demand date" with
        | .ok instant => .ok (.date (rt.dateIsoformat (dateOf instant)))
        | .error _ => .error "demand buckets must be '*', weekday names, or ISO dates"

/-! ## Demand -/

/-- `_normalize_daily_demand`. -/
def normalizeDailyDemand (demand : PyValue) : Except String (Dict Bucket Int) :=
  match demand with
  | .none => .ok []
  | .bool _ => .error "daily_demand must be a positive integer or object"
  | .dict entries => do
      let counts ← entries.mapM fun entry => do
        let count ← parsePositiveInt rt entry.2 "daily_demand"
        let bucket ← normalizeRequirementBucket rt entry.1
        .ok (bucket, count)
      .ok (Dict.ofPairs counts)
  | .list _ => .error "daily_demand must be a positive integer or object"
  | scalar => do
      let count ← parsePositiveInt rt scalar "daily_demand"
      .ok [(.all, count)]

/-- `_normalize_skill_counts`. -/
def normalizeSkillCounts (rawCounts : Dict String PyValue) (field : String) :
    Except String (Dict String Int) := do
  ensure (rawCounts.length ≤ 25) (field ++ " cannot exceed 25 skills per demand bucket")
  let counts ← rawCounts.mapM fun entry => do
    let skill ← normalizeSkillId rt (.str entry.1) field
    let count ← parsePositiveInt rt entry.2 field
    .ok (skill, count)
  .ok (Dict.ofPairs counts)

/-- `_normalize_skill_requirements`. -/
def normalizeSkillRequirements (requirements : PyValue) :
    Except String (Dict Bucket (Dict String Int)) :=
  match requirements with
  | .none => .ok []
  | .dict entries =>
      if entries.isEmpty then .ok []
      else if entries.all fun entry => !entry.2.isDict then do
        let counts ← normalizeSkillCounts rt entries "skill_requirements"
        .ok [(.all, counts)]
      else do
        let buckets ← entries.mapM fun entry =>
          match entry.2 with
          | .dict rawCounts => do
              let counts ← normalizeSkillCounts rt rawCounts "skill_requirements"
              let bucket ← normalizeRequirementBucket rt entry.1
              .ok (bucket, counts)
          | _ => .error "skill_requirements bucket values must be objects"
        .ok (Dict.ofPairs buckets)
  | _ => .error "skill_requirements must be an object"

/-- The skill of a demand window. -/
def normalizeWindowSkill (value : PyValue) : Except String (Option String) :=
  match value with
  | .none => .ok none
  | .str text => do
      ensure (strip text ≠ "" ∧ (strip text).length ≤ 128)
        "demand window skill must be a non-empty string"
      .ok (some (rt.lower (strip text)))
  | _ => .error "demand window skill must be a non-empty string"

/-- One entry of `demand_windows`. -/
def normalizeDemandWindow (scheduleStart scheduleEnd : Int) (index : Nat) (rawWindow : PyValue) :
    Except String DemandWindow :=
  match rawWindow with
  | .dict fields => do
      rejectUnknown (Dict.keys fields) ["id", "start_time", "end_time", "required_staff", "skill"]
        "Unsupported demand window field: "
      let field := "demand_windows[" ++ toString index ++ "]"
      let startTime ← parseScheduleDatetime rt (getValue fields "start_time")
        (field ++ ".start_time")
      let endTime ← parseScheduleDatetime rt (getValue fields "end_time") (field ++ ".end_time")
      ensure (scheduleStart ≤ startTime ∧ startTime < scheduleEnd ∧ startTime < endTime ∧
          endTime ≤ startTime + day)
        "demand window must be inside the schedule window"
      let requiredStaff ← parsePositiveInt rt (getValue fields "required_staff")
        "demand window required_staff"
      let skill ← normalizeWindowSkill rt (getValue fields "skill")
      .ok ⟨startTime, endTime, requiredStaff, skill⟩
  | _ => .error "demand window must be an object"

/-- The entries of `demand_windows`, before `_normalize_demand_windows` merges
them into segments. -/
def normalizeRawDemandWindows (value : PyValue) (scheduleStart scheduleEnd : Int) :
    Except String (List DemandWindow) :=
  match value with
  | .none => .ok []
  | .list items => do
      ensure (items.length ≤ 500) "demand_windows cannot exceed 500 entries"
      items.zipIdx.mapM fun entry =>
        normalizeDemandWindow rt scheduleStart scheduleEnd entry.2 entry.1
  | _ => .error "demand_windows must be a list"

/-! ## Staff -/

/-- `_normalize_staff_skills`: the set of skills of each person, as a list. -/
def normalizeStaffSkills (staffSkills : PyValue) (staffIds : List String) :
    Except String (Dict String (List String)) :=
  match staffSkills with
  | .none => .ok []
  | .dict entries => entries.mapM fun entry => do
      ensure (entry.1 ∈ staffIds) "staff_skills includes a staff id outside staff_ids"
      match entry.2 with
      | .list rawSkills => do
          ensure (rawSkills.length ≤ 50) "staff_skills cannot exceed 50 skills per staff member"
          let skills ← rawSkills.mapM fun skill => normalizeSkillId rt skill "staff_skills"
          .ok (entry.1, skills)
      | _ => .error "staff_skills values must be lists"
  | _ => .error "staff_skills must be an object keyed by staff id"

/-- `_normalize_existing_weekly_minutes`. -/
def normalizeExistingWeeklyMinutes (value : PyValue) (staffIds : List String) :
    Except String (Dict String (Dict String Int)) :=
  match value with
  | .none => .ok []
  | .dict entries => entries.mapM fun entry => do
      ensure (entry.1 ∈ staffIds) "existing_weekly_minutes includes a staff id outside staff_ids"
      match entry.2 with
      | .dict rawWeeks => do
          ensure (rawWeeks.length ≤ 6)
            "existing_weekly_minutes values must contain at most 6 calendar weeks"
          let weeks ← rawWeeks.mapM fun week =>
            match rt.dateFromisoformat week.1 with
            | none => .error "existing_weekly_minutes keys must be ISO Monday dates"
            | some parsedWeek => do
                ensure (weekday parsedWeek = 0)
                  "existing_weekly_minutes keys must be ISO Monday dates"
                match week.2 with
                | .int rawMinutes => do
                    ensure (0 ≤ rawMinutes ∧ rawMinutes ≤ 10080)
                      "existing_weekly_minutes values must be between 0 and 10080"
                    .ok (week.1, rawMinutes)
                | _ => .error "existing_weekly_minutes values must be whole minutes"
          .ok (entry.1, weeks)
      | _ => .error "existing_weekly_minutes values must contain at most 6 calendar weeks"
  | _ => .error "existing_weekly_minutes must be an object keyed by staff id"

/-- One entry of `existing_shift_intervals`.  The limits are zoned values, so a
day after `scheduleEnd` is a day later on the wall clock. -/
def normalizeExistingShiftInterval (zone : ZoneInfo) (scheduleStart scheduleEnd : Int)
    (staffIds : List String) (index : Nat) (item : PyValue) : Except String ExistingInterval :=
  match item with
  | .dict fields => do
      rejectUnknown (Dict.keys fields) ["id", "staff_id", "location_id", "start_time", "end_time"]
        "Unsupported existing shift interval field: "
      let field := "existing_shift_intervals[" ++ toString index ++ "]"
      match getValue fields "staff_id" with
      | .str staffId => do
          ensure (staffId ∈ staffIds)
            "existing_shift_intervals includes a staff id outside staff_ids"
          checkAll ["id", "location_id"] fun key =>
            match getValue fields key with
            | .str text => ensure (isIdentifier text = true) (field ++ "." ++ key ++ " is invalid")
            | _ => .error (field ++ "." ++ key ++ " is invalid")
          let startTime ← parseScheduleDatetime rt (getValue fields "start_time")
            (field ++ ".start_time")
          let endTime ← parseScheduleDatetime rt (getValue fields "end_time")
            (field ++ ".end_time")
          ensure (startTime < endTime) "existing shift interval end_time must be after start_time"
          ensure (¬ (zone.toUtc (zone.toLocal scheduleEnd + day) ≤ startTime ∨
              endTime ≤ scheduleStart))
            "existing shift interval must overlap the schedule window"
          .ok ⟨staffId, startTime, endTime⟩
      | _ => .error "existing_shift_intervals includes a staff id outside staff_ids"
  | _ => .error "existing shift interval must be an object"

/-- `_normalize_existing_shift_intervals`. -/
def normalizeExistingShiftIntervals (zone : ZoneInfo) (value : PyValue) (staffIds : List String)
    (scheduleStart scheduleEnd : Int) : Except String (List ExistingInterval) :=
  match value with
  | .none => .ok []
  | .list items => do
      ensure (items.length ≤ 10000) "existing_shift_intervals cannot exceed 10000 entries"
      items.zipIdx.mapM fun entry =>
        normalizeExistingShiftInterval rt zone scheduleStart scheduleEnd staffIds entry.2 entry.1
  | _ => .error "existing_shift_intervals must be a list"

/-! ## Availability -/

/-- `_parse_day`.  A Python boolean is an integer. -/
def parseDay (value : PyValue) : Except String Nat :=
  let message := "availability day_of_week must be 0-6 or a weekday name"
  match value with
  | .bool flag => .ok (if flag then 1 else 0)
  | .int index => do
      ensure (0 ≤ index ∧ index ≤ 6) message
      .ok index.toNat
  | .str text =>
      let key := rt.lower (strip text)
      match (if rt.isdigit key then rt.intOfText key else none) with
      | some index =>
          if 0 ≤ index ∧ index ≤ 6 then .ok index.toNat
          else
            match Dict.get? dayIndex key with
            | some named => .ok named
            | none => .error message
      | none =>
          match Dict.get? dayIndex key with
          | some named => .ok named
          | none => .error message
  | _ => .error message

/-- `text.split(":")`. -/
def splitColon (chars : List Char) : List (List Char) :=
  match chars with
  | [] => [[]]
  | c :: rest =>
      match splitColon rest with
      | [] => [[c]]
      | part :: parts => if c = ':' then [] :: part :: parts else (c :: part) :: parts

/-- `_parse_time`.  A third part is not read. -/
def parseTime (value : PyValue) : Except String Int :=
  match value with
  | .str text =>
      let parts := (splitColon (strip text).toList).map String.ofList
      match parts with
      | hourText :: minuteText :: rest =>
          if 1 < rest.length then .error "availability times must be HH:MM"
          else
            match rt.intOfText hourText, rt.intOfText minuteText with
            | some hour, some minute => do
                ensure (0 ≤ hour ∧ hour ≤ 23 ∧ 0 ≤ minute ∧ minute ≤ 59)
                  "availability times must be valid 24-hour times"
                .ok (hour * 60 + minute)
            | _, _ => .error "availability times must be numeric"
      | _ => .error "availability times must be HH:MM"
  | _ => .error "availability times must be strings"

/-- One recurring rule. -/
def normalizeAvailabilityRule (rule : PyValue) : Except String AvailabilityRule :=
  match rule with
  | .dict fields => do
      let dayOfWeek ← parseDay rt (getValue fields "day_of_week")
      let startMinute ← parseTime rt (Dict.getD fields "start_time" (.str "00:00"))
      let endMinute ← parseTime rt (Dict.getD fields "end_time" (.str "23:59"))
      ensure (startMinute ≠ endMinute) "availability start_time and end_time cannot be equal"
      .ok ⟨dayOfWeek, startMinute, endMinute⟩
  | _ => .error "availability rule must be an object"

/-- `_normalize_availability`. -/
def normalizeAvailability (availability : PyValue) (staffIds : List String) :
    Except String (Option (Dict String (List AvailabilityRule))) :=
  match availability with
  | .none => .ok none
  | .dict entries => do
      let rules ← entries.mapM fun entry => do
        ensure (entry.1 ∈ staffIds) "availability includes a staff id outside staff_ids"
        match entry.2 with
        | .list rules => do
            ensure (rules.length ≤ 21) "availability cannot exceed 21 rules per staff member"
            let normalized ← rules.mapM (normalizeAvailabilityRule rt)
            .ok (entry.1, normalized)
        | _ => .error "availability rules must be lists"
      .ok (some rules)
  | _ => .error "availability must be an object keyed by staff id"

/-- The kind of a dated exception. -/
def parseExceptionKind (value : PyValue) : Except String ExceptionKind :=
  match value with
  | .str "AVAILABLE" => .ok .available
  | .str "UNAVAILABLE" => .ok .unavailable
  | _ => .error "availability exception kind must be AVAILABLE or UNAVAILABLE"

/-- One dated exception. -/
def normalizeAvailabilityException (rule : PyValue) : Except String AvailabilityException :=
  match rule with
  | .dict fields =>
      match getValue fields "local_date" with
      | .str localDate =>
          match rt.dateFromisoformat localDate with
          | none => .error "availability exception local_date must use YYYY-MM-DD"
          | some parsedDate => do
              ensure (1970 ≤ rt.dateYear parsedDate ∧ rt.dateYear parsedDate ≤ 2100)
                "availability exception local_date is outside the supported range"
              let kind ← parseExceptionKind (getValue fields "kind")
              match getValue fields "start_time_minutes", getValue fields "end_time_minutes" with
              | .int startMinute, .int endMinute => do
                  ensure (0 ≤ startMinute ∧ startMinute < 1440 ∧ 1 ≤ endMinute ∧
                      endMinute ≤ 1440 ∧ startMinute < endMinute)
                    "availability exception time window is invalid"
                  .ok ⟨localDate, kind, startMinute, endMinute⟩
              | _, _ => .error "availability exception time window is invalid"
      | _ => .error "availability exception local_date is outside the supported range"
  | _ => .error "availability exception rule must be an object"

/-- The dated exceptions of one person, without duplicates. -/
def collectExceptions (seen : List AvailabilityException) :
    List PyValue → Except String (List AvailabilityException)
  | [] => .ok seen
  | rule :: rest => do
      let entry ← normalizeAvailabilityException rt rule
      ensure (entry ∉ seen) "availability_exceptions contains duplicate rules"
      collectExceptions (seen ++ [entry]) rest

/-- `_normalize_availability_exceptions`. -/
def normalizeAvailabilityExceptions (availabilityExceptions : PyValue) (staffIds : List String) :
    Except String (Option (Dict String (List AvailabilityException))) :=
  match availabilityExceptions with
  | .none => .ok none
  | .dict entries => do
      let exceptions ← entries.mapM fun entry => do
        ensure (entry.1 ∈ staffIds) "availability_exceptions includes a staff id outside staff_ids"
        match entry.2 with
        | .list rules => do
            ensure (rules.length ≤ 366)
              "availability_exceptions cannot exceed 366 rules per staff member"
            let normalized ← collectExceptions rt [] rules
            .ok (entry.1, normalized)
        | _ => .error "availability_exceptions rules must be lists"
      .ok (some exceptions)
  | _ => .error "availability_exceptions must be an object keyed by staff id"

end

end LunchLineup.Engine
