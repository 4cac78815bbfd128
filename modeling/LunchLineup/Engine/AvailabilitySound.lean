import LunchLineup.Engine.Outcome
import LunchLineup.Python.Reference

/-!
# Availability of the people scheduled

A person assigned to a slot passed `_is_available` for it, which reads the two
ends of the slot on the wall clock and checks the minutes between the readings.
So the person is permitted at each instant whose own reading lies between them
(`Problem.ClockCovers`), and the dates of exceptions must be spelled as the code
looks them up (`Problem.CanonicalDates`).

The readings of a slot do not always lie between those of its ends.  When the
clocks go back inside a slot, its end can read earlier than its start; then
nothing is checked at all (`RepeatedHour.unavailable_person_scheduled`).
-/

namespace LunchLineup.Engine

open LunchLineup.Lib LunchLineup.Python

/-- Permission looks only at whether the exceptions of the person are on the
date. -/
theorem Availability.Permits.congr {availability : Availability} {staffId : String}
    {onDate onDate' : AvailabilityException → Prop} {weekday : Nat} {minute : Int}
    (h : availability.Permits staffId onDate weekday minute)
    (hiff : ∀ entry ∈ availability.exceptionsOf staffId, onDate entry ↔ onDate' entry) :
    availability.Permits staffId onDate' weekday minute where
  notUnavailable := by
    intro entry hentry hdate hkind
    exact h.notUnavailable entry hentry ((hiff entry hentry).mpr hdate) hkind
  available := by
    rintro ⟨entry, hentry, hdate, hkind⟩
    obtain ⟨found, hfound, hfoundDate, hrest⟩ :=
      h.available ⟨entry, hentry, (hiff entry hentry).mpr hdate, hkind⟩
    exact ⟨found, hfound, (hiff found hfound).mp hfoundDate, hrest⟩
  recurring := by
    intro hnone hconfigured
    refine h.recurring ?_ hconfigured
    rintro ⟨entry, hentry, hdate, hkind⟩
    exact hnone ⟨entry, hentry, (hiff entry hentry).mp hdate, hkind⟩

/-- At every instant of every assignment, the person is permitted at the
instant's local date, weekday and minute. -/
def Problem.RespectsAvailability (rt : Runtime) (problem : Problem)
    (assignments : List Assignment) : Prop :=
  ∀ assignment ∈ assignments, ∀ t, assignment.startTime ≤ t → t < assignment.endTime →
    problem.availability.Permits assignment.staffId
      (fun entry => rt.dateFromisoformat entry.localDate =
        some (dateOf (problem.zone.toLocal t)))
      (weekday (dateOf (problem.zone.toLocal t))) (minuteOfDay (problem.zone.toLocal t))

/-- The instants of the slots, or on the day path of the days' windows. -/
def Problem.Slotted (problem : Problem) (t : Int) : Prop :=
  (∃ slot ∈ problem.segments, slot.startTime ≤ t ∧ t < slot.endTime) ∨
    (problem.segments = [] ∧ ∃ index < problem.numDays,
      problem.zone.toUtc (problem.shiftStart index) ≤ t ∧
        t < problem.zone.toUtc (problem.shiftEnd index))

/-- An exception is on the local date of a slotted instant exactly if it spells
the date as `isoformat` does. -/
def Problem.CanonicalDates (rt : Runtime) (problem : Problem) : Prop :=
  ∀ staffId, ∀ entry ∈ problem.availability.exceptionsOf staffId, ∀ t, problem.Slotted t →
    (rt.dateFromisoformat entry.localDate = some (dateOf (problem.zone.toLocal t)) ↔
      entry.localDate = rt.dateIsoformat (dateOf (problem.zone.toLocal t)))

/-- The reading of an instant lies between two readings, in whole minutes. -/
def ReadsBetween (first last reading : Int) : Prop :=
  first / minute ≤ reading / minute ∧ reading / minute < last / minute

/-- Each instant of a slot, or on the day path of a day's window, reads between
the ends that were checked. -/
structure Problem.ClockCovers (problem : Problem) : Prop where
  slots : ∀ slot ∈ problem.segments, ∀ t, slot.startTime ≤ t → t < slot.endTime →
    ReadsBetween (problem.zone.toLocal slot.startTime) (problem.zone.toLocal slot.endTime)
      (problem.zone.toLocal t)
  days : problem.segments = [] → ∀ index < problem.numDays, ∀ t,
    problem.zone.toUtc (problem.shiftStart index) ≤ t →
    t < problem.zone.toUtc (problem.shiftEnd index) →
    ReadsBetween (problem.shiftStart index) (problem.shiftEnd index) (problem.zone.toLocal t)

/-- Whoever was available for an interval is permitted at an instant that reads
between its ends. -/
theorem permits_of_isAvailable {rt : Runtime} {problem : Problem} {staffId : String}
    {first last : Int} {t : Int} (hdates : problem.CanonicalDates rt) (hslotted : problem.Slotted t)
    (havailable : problem.availability.isAvailable rt staffId first last = true)
    (hbetween : ReadsBetween first last (problem.zone.toLocal t)) :
    problem.availability.Permits staffId
      (fun entry => rt.dateFromisoformat entry.localDate =
        some (dateOf (problem.zone.toLocal t)))
      (weekday (dateOf (problem.zone.toLocal t))) (minuteOfDay (problem.zone.toLocal t)) := by
  apply (Availability.isAvailable_permits havailable hbetween.1 hbetween.2).congr
  intro entry hentry
  exact (hdates staffId entry hentry t hslotted).symm

namespace RepeatedHour

/-- A person who is unavailable all day is asked for from 01:30 to 02:15 before
the clocks go back, when it is 01:15. -/
def args : SolveArgs where
  config := []
  staffIds := ["a"]
  startDate := "2026-11-01T07:00:00Z"
  endDate := "2026-11-02T08:00:00Z"
  constraints :=
    [("timezone", .str "America/Los_Angeles"),
      ("demand_windows", .list
        [.dict [("start_time", .str "2026-11-01T08:30:00Z"),
          ("end_time", .str "2026-11-01T09:15:00Z"), ("required_staff", .int 1)]]),
      ("availability_exceptions", .dict [("a", .list
        [.dict [("local_date", .str "2026-11-01"), ("kind", .str "UNAVAILABLE"),
          ("start_time_minutes", .int 0), ("end_time_minutes", .int 1440)]])])]

/-- The person is assigned. -/
def assigned : ShiftVar → Int
  | .assigned _ _ => 1
  | .maxLoad => 45

/-- 01:30 local time, the start of the slot. -/
def instant : Int := 1793521800000000

theorem scheduled :
    (match prepare (.reference fun _ => none) args,
        solve (.reference fun _ => none) (.candidate assigned) args with
      | .ok problem, .feasible assignments _ _ =>
          decide ((∃ assignment ∈ assignments, assignment.staffId = "a" ∧
              assignment.startTime ≤ instant ∧ instant < assignment.endTime) ∧
            ∃ entry ∈ problem.availability.exceptionsOf "a",
              (Runtime.reference fun _ => none).dateFromisoformat entry.localDate =
                some (dateOf (problem.zone.toLocal instant)) ∧
              entry.kind = .unavailable ∧
              entry.startMinute ≤ minuteOfDay (problem.zone.toLocal instant) ∧
              minuteOfDay (problem.zone.toLocal instant) < entry.endMinute)
      | _, _ => false) = true := by
  decide +kernel

end RepeatedHour

/-! ## A free morning -/

namespace FreeMorning

/-- A person who is unavailable from 10:00 is asked for from 09:00 to 10:00. -/
def args : SolveArgs where
  config := []
  staffIds := ["a"]
  startDate := "2026-03-09"
  endDate := "2026-03-10"
  constraints :=
    [("demand_windows", .list
        [.dict [("start_time", .str "2026-03-09T09:00:00Z"),
          ("end_time", .str "2026-03-09T10:00:00Z"), ("required_staff", .int 1)]]),
      ("availability_exceptions", .dict [("a", .list
        [.dict [("local_date", .str "2026-03-09"), ("kind", .str "UNAVAILABLE"),
          ("start_time_minutes", .int 600), ("end_time_minutes", .int 660)]])])]

/-- The person is assigned. -/
def assigned : ShiftVar → Int
  | .assigned _ _ => 1
  | .maxLoad => 60

theorem found :
    (match prepare (.reference fun _ => none) args,
        solve (.reference fun _ => none) (.candidate assigned) args with
      | .ok problem, .feasible _ _ _ =>
          decide (problem.segments = [⟨1773046800000000, 1773050400000000, 1, [], false⟩] ∧
            problem.availability.exceptions =
              some [("a", [⟨"2026-03-09", .unavailable, 600, 660⟩])])
      | _, _ => false) = true := by
  decide +kernel

end FreeMorning

end LunchLineup.Engine
