import Mathlib.Tactic

/-!
# The messages between the worker and the engine

The records of `solver.proto` as the two services fill and read them.  A field
that neither side sets is left out.
-/

namespace LunchLineup.Proto

/-- `availability`: a recurring rule of a person. -/
structure Availability where
  dayOfWeek : String
  startTime : String
  endTime : String
  deriving DecidableEq

/-- `StaffMember`. -/
structure StaffMember where
  id : String
  skills : List String
  availability : List Availability
  availabilityConfigured : Bool
  deriving DecidableEq

/-- `Constraint`: a name and a text, which is JSON unless the value was a text. -/
structure Constraint where
  type : String
  value : String
  deriving DecidableEq

/-- `ExistingWeeklyMinutes`. -/
structure ExistingWeeklyMinutes where
  staffId : String
  weekStartDate : String
  minutes : Int
  deriving DecidableEq

/-- `ExistingShift`. -/
structure ExistingShift where
  id : String
  staffId : String
  locationId : String
  startTime : String
  endTime : String
  deriving DecidableEq

/-- `ScheduleRequest`. -/
structure ScheduleRequest where
  scheduleId : String
  tenantId : String
  locationId : String
  startDate : String
  endDate : String
  staff : List StaffMember
  constraints : List Constraint
  existingWeeklyMinutes : List ExistingWeeklyMinutes
  existingShifts : List ExistingShift
  deriving DecidableEq

/-- `Break`. -/
structure Break where
  startTime : String
  endTime : String
  paid : Bool
  type : String
  deriving DecidableEq

/-- `Shift`. -/
structure Shift where
  staffId : String
  startTime : String
  endTime : String
  role : String
  breaks : List Break
  deriving DecidableEq

/-- `InfeasibleDetail`. -/
structure InfeasibleDetail where
  code : String
  message : String
  date : String
  skill : String
  required : Int
  available : Int
  deriving DecidableEq

/-- `ScheduleResponse`. -/
structure ScheduleResponse where
  scheduleId : String
  shifts : List Shift
  status : String
  reason : String
  infeasibleDetails : List InfeasibleDetail
  deriving DecidableEq

end LunchLineup.Proto
