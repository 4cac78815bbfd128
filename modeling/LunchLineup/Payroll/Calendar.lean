import LunchLineup.Payroll.Triggers

/-!
# Policies, periods and the calendar

A payroll policy fixes a cadence, an anchor date and the date from which it is
in force; a period is one cadence interval of the policy in force at its first
day, from local midnight to local midnight.  `createPolicy` and `createPeriod`
write the two tables, and `resolveTimeCardPayrollAssignment` finds the period of
a clock-in: the open period, of the policy in force on the local date, whose
window contains the instant.

`Intl.DateTimeFormat` is the parameter `zones`: which time zone names it knows,
and the UTC offset of each at an instant.
-/

namespace LunchLineup.Payroll

open LunchLineup.Lib LunchLineup.Billing

/-! ## Local dates -/

/-- Milliseconds of a day. -/
def dayMs : Int := 86400000

/-- The time zone data of the JavaScript runtime: the names it accepts, and the
offset from UTC in milliseconds. -/
structure Zones where
  known : String → Bool
  offset : String → Int → Int

/-- The dates `normalizeDateOnly` accepts: `Date.UTC` reads the years `0` to `99`
as `1900` to `1999`, so years start at `100`, and four digits end at `9999`. -/
def ValidDate (date : Int) : Prop := -683003 ≤ date ∧ date ≤ 2932896

instance (date : Int) : Decidable (ValidDate date) := inferInstanceAs (Decidable (_ ∧ _))

variable (zones : Zones)

/-- `zonedParts`, read as the UTC instant with the same year, month, day, hour,
minute and second. -/
def Zones.wallClock (timeZone : String) (instant : Int) : Int :=
  (instant + zones.offset timeZone instant) / 1000 * 1000

/-- `dateValueInTimeZone`. -/
def Zones.localDate (timeZone : String) (instant : Int) : Int :=
  (instant + zones.offset timeZone instant) / dayMs

/-- The loop of `localDateBoundaryUtc`: the guess moves by what the wall clock
misses, until it misses nothing or the attempts are used up. -/
def Zones.boundaryGuess (timeZone : String) (targetUtc : Int) : Nat → Int → Int
  | 0, guess => guess
  | attempts + 1, guess =>
      let delta := targetUtc - zones.wallClock timeZone guess
      if delta = 0 then guess
      else Zones.boundaryGuess timeZone targetUtc attempts (guess + delta)

/-- `localDateBoundaryUtc`. -/
def Zones.localDateBoundaryUtc (date : Int) (timeZone : String) : Except Problem Int := do
  ensure (ValidDate date) (.problem 422 "invalid_payroll_date")
  let targetUtc := date * dayMs
  let result := zones.boundaryGuess timeZone targetUtc 4 targetUtc
  ensure (zones.wallClock timeZone result = targetUtc) (.problem 422 "invalid_payroll_boundary")
  .ok result

/-! ## Cadences -/

/-- `cadenceDays`. -/
def Cadence.cadenceDays : Cadence → Int
  | .weekly => 7
  | .biweekly => 14

theorem Cadence.cadenceDays_pos (cadence : Cadence) : 0 < cadence.cadenceDays := by
  cases cadence <;> decide

/-- The date is a whole number of cadence intervals from the anchor. -/
def Aligned (date anchorDate : Int) (cadence : Cadence) : Prop :=
  (date - anchorDate) % cadence.cadenceDays = 0

instance (date anchorDate : Int) (cadence : Cadence) : Decidable (Aligned date anchorDate cadence) :=
  inferInstanceAs (Decidable (_ = _))

/-- `assertPayrollAnchorAlignment`. -/
def assertPayrollAnchorAlignment (localStartDate anchorDate : Int) (cadence : Cadence) :
    Except Problem Unit := do
  ensure (ValidDate localStartDate) (.problem 422 "invalid_payroll_localStartDate")
  ensure (ValidDate anchorDate) (.problem 422 "invalid_payroll_anchorDate")
  ensure (Aligned localStartDate anchorDate cadence) (.problem 422 "payroll_anchor_misaligned")

/-- What `payrollPeriodBoundaries` returns. -/
structure Boundaries where
  localStartDate : Int
  localEndDateExclusive : Int
  startsAt : Int
  endsAt : Int
  deriving DecidableEq

/-- `payrollPeriodBoundaries`. -/
def Zones.payrollPeriodBoundaries (localStartDate : Int) (policy : PolicyVersion) :
    Except Problem Boundaries := do
  assertPayrollAnchorAlignment localStartDate policy.anchorDate policy.cadence
  let localEndDateExclusive := localStartDate + policy.cadence.cadenceDays
  ensure (zones.known policy.timeZone = true) (.problem 422 "invalid_payroll_timezone")
  let startsAt ← zones.localDateBoundaryUtc localStartDate policy.timeZone
  let endsAt ← zones.localDateBoundaryUtc localEndDateExclusive policy.timeZone
  .ok ⟨localStartDate, localEndDateExclusive, startsAt, endsAt⟩

/-! ## The policy in force -/

/-- `orderBy: [{ effectiveFrom: 'desc' }, { version: 'desc' }]`. -/
def newestFirst (policies : List PolicyVersion) : List PolicyVersion :=
  policies.mergeSort fun a b =>
    decide (b.effectiveFrom < a.effectiveFrom ∨
      (b.effectiveFrom = a.effectiveFrom ∧ b.version ≤ a.version))

/-- The policy in force for a local start date. -/
def Database.policyFor (db : Database) (date : Int) : Option PolicyVersion :=
  (newestFirst db.policies).find? fun policy => policy.effectiveFrom ≤ date

/-- The policy in force at an instant, each candidate read on its own local
date. -/
def Zones.policyAt (db : Database) (instant : Int) : Option PolicyVersion :=
  (newestFirst db.policies).find? fun policy =>
    policy.effectiveFrom ≤ zones.localDate policy.timeZone instant

/-- `orderBy: [{ version: 'desc' }]`, first row. -/
def Database.latestPolicy (db : Database) : Option PolicyVersion :=
  (db.policies.mergeSort fun a b => decide (b.version ≤ a.version)).head?

/-! ## Commands -/

/-- What `payrollRequestIdentity` derives from the actor, the idempotency key and
the body of a command. -/
structure RequestIdentity where
  operationId : String
  requestHash : Sha256

/-- `replayOperation` of the command with this identity, where one is stored. -/
def Database.replay (db : Database) (request : RequestIdentity) : Option (Except Problem Database) :=
  (db.operations.find? (·.operationId = request.operationId)).map fun row =>
    if row.requestHash = request.requestHash.val then .ok db
    else .error (.problem 409 "idempotency_conflict")

/-- The trigger `validate_payroll_policy_version`. -/
def Database.validatePayrollPolicyVersion (db : Database) (policy : PolicyVersion) :
    Except Problem Unit :=
  match db.latestPolicy with
  | none => ensure (policy.version = 1) (.constraint "PayrollPolicyVersion_sequence")
  | some previous =>
      ensure (policy.version = previous.version + 1 ∧
          previous.effectiveFrom < policy.effectiveFrom ∧ policy.timeZone = previous.timeZone ∧
          Aligned policy.effectiveFrom previous.anchorDate previous.cadence)
        (.constraint "PayrollPolicyVersion_boundary")

/-- `INSERT INTO "PayrollPolicyVersion"`. -/
def Database.insertPolicy (db : Database) (policy : PolicyVersion) : Except Problem Database := do
  db.validatePayrollPolicyVersion policy
  ensure (0 < policy.version ∧ TimeZoneText policy.timeZone ∧ isSha256 policy.requestHash = true ∧
      Aligned policy.effectiveFrom policy.anchorDate policy.cadence)
    (.constraint "PayrollPolicyVersion_values_valid")
  ensure (∀ other ∈ db.policies, other.id ≠ policy.id ∧ other.version ≠ policy.version ∧
      other.effectiveFrom ≠ policy.effectiveFrom ∧ other.operationId ≠ policy.operationId)
    (.constraint "PayrollPolicyVersion_tenantId_effectiveFrom_key")
  .ok { db with policies := db.policies ++ [policy] }

/-- The body of `createPolicy`, after `normalizePayrollPolicy`. -/
structure PolicyRequest where
  timeZone : String
  cadence : Cadence
  anchorDate : Int
  effectiveFrom : Int

/-- `createPolicy`; `id` is the identifier the database generates. -/
def Zones.createPolicy (db : Database) (now : Int) (request : RequestIdentity) (id : String)
    (policy : PolicyRequest) : Except Problem Database := do
  ensure (zones.known policy.timeZone = true) (.problem 422 "invalid_payroll_timezone")
  assertPayrollAnchorAlignment policy.effectiveFrom policy.anchorDate policy.cadence
  match db.policies.find? (·.operationId = request.operationId) with
  | some replay =>
      if replay.requestHash = request.requestHash.val then .ok db
      else .error (.problem 409 "idempotency_conflict")
  | none =>
      let latest := db.latestPolicy
      ensure (∀ row ∈ latest, row.effectiveFrom < policy.effectiveFrom)
        (.problem 409 "payroll_policy_boundary_conflict")
      -- The first version may start in the past; a later one may not.
      ensure (latest.isSome = true → zones.localDate policy.timeZone now < policy.effectiveFrom)
        (.problem 422 "payroll_policy_not_future")
      ensure (∀ row ∈ latest, row.timeZone = policy.timeZone)
        (.problem 422 "payroll_policy_timezone_immutable")
      ensure (∀ row ∈ latest, Aligned policy.effectiveFrom row.anchorDate row.cadence)
        (.problem 422 "payroll_anchor_misaligned")
      db.insertPolicy {
        id := id
        version := (latest.map (·.version)).getD 0 + 1
        timeZone := policy.timeZone
        cadence := policy.cadence
        anchorDate := policy.anchorDate
        effectiveFrom := policy.effectiveFrom
        operationId := request.operationId
        requestHash := request.requestHash.val }

/-- `createPeriod`; `id` is the identifier the database generates. -/
def Zones.createPeriod (db : Database) (request : RequestIdentity) (id : String)
    (localStartDate : Int) : Except Problem Database := do
  match db.replay request with
  | some answer => answer
  | none =>
      ensure (ValidDate localStartDate) (.problem 422 "invalid_payroll_date")
      match db.policyFor localStartDate with
      | none => .error (.problem 422 "payroll_policy_missing")
      | some policy => do
          let boundaries ← zones.payrollPeriodBoundaries localStartDate policy
          ensure (∀ other ∈ db.periods,
              ¬ (other.startsAt < boundaries.endsAt ∧ boundaries.startsAt < other.endsAt))
            (.problem 409 "payroll_period_overlap")
          let db ← db.insertPeriod {
            id := id
            policyVersionId := policy.id
            localStartDate := boundaries.localStartDate
            localEndDateExclusive := boundaries.localEndDateExclusive
            startsAt := boundaries.startsAt
            endsAt := boundaries.endsAt
            timeZone := policy.timeZone
            cadence := policy.cadence
            status := .opened
            revision := 0
            reviewStarted := none
            lock := none }
          db.insertOperation ⟨request.operationId, request.requestHash.val⟩

/-! ## The period of a clock-in -/

/-- `TimeCardPayrollAssignment`. -/
structure Assignment where
  payrollPeriodId : Option String
  workTimeZone : String
  deriving DecidableEq

/-- `resolveTimeCardPayrollAssignment`. -/
def Zones.resolveTimeCardPayrollAssignment (db : Database) (clockInAt : Int)
    (location : Option Location) : Except Problem Assignment :=
  match zones.policyAt db clockInAt with
  | none => .ok ⟨none, (location.map (·.timezone)).getD "UTC"⟩
  | some policy =>
      match location with
      | none => .error (.problem 422 "time_card_location_required")
      | some location =>
          let period? := db.periods.find? fun period =>
            period.policyVersionId = policy.id ∧ period.status = .opened ∧
              period.Contains clockInAt
          match period? with
          | none => .error (.problem 409 "no_open_payroll_period")
          | some period => .ok ⟨some period.id, location.timezone⟩

end LunchLineup.Payroll
