import LunchLineup.Engine.Request

/-!
# Availability of a person on the wall clock

`isAvailable` cuts a local interval at its midnights and asks, for each part,
whether the rules of the day cover it: the dated `AVAILABLE` windows if there
are any, else the recurring rules, and no dated `UNAVAILABLE` window.  Both
kinds of windows are swept in order by the same loop.

`isAvailable_permits` is its meaning, one minute at a time: whoever is available
for a local interval is permitted at each of the interval's minutes.  The
minutes are counted from the start's minute up to the end's, both rounded down.
-/

namespace LunchLineup.Engine

open LunchLineup.Lib LunchLineup.Python

/-! ## The sweep -/

/-- The loop shared by `_minute_windows_cover` and `_availability_rules_cover`. -/
def sweep (endMinute coveredUntil : Int) : List (Int × Int) → Bool
  | [] => false
  | (intervalStart, intervalEnd) :: rest =>
      if intervalEnd ≤ coveredUntil then sweep endMinute coveredUntil rest
      else if coveredUntil < intervalStart then false
      else if endMinute ≤ intervalEnd then true
      else sweep endMinute intervalEnd rest

/-- `_minute_windows_cover`. -/
def minuteWindowsCover (rules : List AvailabilityException) (startMinute endMinute : Int) : Bool :=
  sweep endMinute startMinute
    ((rules.map fun entry => (entry.startMinute, entry.endMinute)).insertionSort intervalLe)

/-- The part of a recurring rule that falls on a weekday. -/
def AvailabilityRule.interval? (rule : AvailabilityRule) (weekday : Nat) : Option (Int × Int) :=
  if rule.startMinute < rule.endMinute then
    if rule.dayOfWeek = weekday then some (rule.startMinute, rule.endMinute) else none
  else if rule.dayOfWeek = weekday then some (rule.startMinute, 1440)
  else if (rule.dayOfWeek + 1) % 7 = weekday then some (0, rule.endMinute)
  else none

/-- `_availability_rules_cover`. -/
def availabilityRulesCover (rules : List AvailabilityRule) (weekday : Nat)
    (startMinute endMinute : Int) : Bool :=
  sweep endMinute startMinute
    ((rules.filterMap fun rule => rule.interval? weekday).insertionSort intervalLe)

/-- A sweep that succeeds found an interval for every minute. -/
theorem sweep_sound {endMinute coveredUntil : Int} {intervals : List (Int × Int)}
    (h : sweep endMinute coveredUntil intervals = true) {m : Int} (hle : coveredUntil ≤ m)
    (hlt : m < endMinute) : ∃ interval ∈ intervals, interval.1 ≤ m ∧ m < interval.2 := by
  induction intervals generalizing coveredUntil with
  | nil => simp [sweep] at h
  | cons interval rest ih =>
      obtain ⟨intervalStart, intervalEnd⟩ := interval
      rw [sweep] at h
      split at h
      · obtain ⟨found, hfound, hin⟩ := ih h hle
        exact ⟨found, List.mem_cons_of_mem _ hfound, hin⟩
      split at h
      · cases h
      rename_i hreached
      rcases lt_or_ge m intervalEnd with hm | hm
      · exact ⟨_, List.mem_cons_self, by show intervalStart ≤ m; omega, hm⟩
      split at h
      · omega
      · obtain ⟨found, hfound, hin⟩ := ih h hm
        exact ⟨found, List.mem_cons_of_mem _ hfound, hin⟩

/-! ## The parts of a local interval -/

/-- A part of a local interval inside one day. -/
structure LocalSegment where
  localDate : Int
  weekday : Nat
  startMinute : Int
  endMinute : Int
  deriving DecidableEq

/-- The loop of `_availability_segments` from a cursor on. -/
def availabilitySegmentsFrom (shiftEnd : Int) : Nat → Int → List LocalSegment
  | 0, _ => []
  | fuel + 1, cursor =>
      if cursor < shiftEnd then
        let nextMidnight := midnight (dateOf cursor + 1)
        let segmentEnd := min shiftEnd nextMidnight
        { localDate := dateOf cursor
          weekday := weekday (dateOf cursor)
          startMinute := minuteOfDay cursor
          endMinute := if segmentEnd = nextMidnight then 1440 else minuteOfDay segmentEnd } ::
          availabilitySegmentsFrom shiftEnd fuel segmentEnd
      else []

/-- `_availability_segments`: each turn of the loop ends a day. -/
def availabilitySegments (shiftStart shiftEnd : Int) : List LocalSegment :=
  availabilitySegmentsFrom shiftEnd ((dateOf shiftEnd - dateOf shiftStart).toNat + 1) shiftStart

/-- The parts cover every minute of the interval. -/
theorem exists_availabilitySegment {shiftEnd : Int} (fuel : Nat) (cursor : Int)
    (hfuel : dateOf shiftEnd - dateOf cursor < fuel) {k : Int} (hle : cursor / minute ≤ k)
    (hlt : k < shiftEnd / minute) :
    ∃ segment ∈ availabilitySegmentsFrom shiftEnd fuel cursor,
      segment.localDate = k / 1440 ∧ segment.weekday = weekday (k / 1440) ∧
        segment.startMinute ≤ k % 1440 ∧ k % 1440 < segment.endMinute := by
  induction fuel generalizing cursor with
  | zero =>
      exfalso
      unfold dateOf day at hfuel
      unfold minute at hle hlt
      omega
  | succ fuel ih =>
      have hlive : cursor < shiftEnd := by
        unfold minute at hle hlt
        omega
      rw [availabilitySegmentsFrom, if_pos hlive]
      rcases lt_or_ge k ((dateOf cursor + 1) * 1440) with htoday | hlater
      · have hdate : dateOf cursor = k / 1440 := by
          unfold dateOf day at htoday ⊢
          unfold minute at hle
          omega
        refine ⟨_, List.mem_cons_self, hdate, by rw [hdate], ?_, ?_⟩
        · show minuteOfDay cursor ≤ k % 1440
          unfold dateOf day at hdate
          unfold minuteOfDay day
          unfold minute at hle ⊢
          omega
        · show k % 1440 < if min shiftEnd (midnight (dateOf cursor + 1)) =
            midnight (dateOf cursor + 1) then 1440 else
              minuteOfDay (min shiftEnd (midnight (dateOf cursor + 1)))
          split
          · omega
          · rename_i hends
            have hmin : min shiftEnd (midnight (dateOf cursor + 1)) = shiftEnd := by omega
            rw [hmin] at hends ⊢
            rw [hdate] at hmin
            have hbefore : shiftEnd < midnight (k / 1440 + 1) := by
              rw [← hdate]
              rw [← hdate] at hmin
              omega
            unfold midnight day at hbefore
            unfold minuteOfDay day
            unfold minute at hlt ⊢
            omega
      · have hmidnight : min shiftEnd (midnight (dateOf cursor + 1)) =
            midnight (dateOf cursor + 1) := by
          unfold midnight dateOf day at *
          unfold minute at hle hlt
          omega
        obtain ⟨segment, hsegment, hin⟩ := ih (midnight (dateOf cursor + 1))
          (by rw [dateOf_midnight]; push_cast at hfuel; omega)
          (by unfold midnight day; unfold minute; omega)
        refine ⟨segment, List.mem_cons_of_mem _ ?_, hin⟩
        show segment ∈ availabilitySegmentsFrom shiftEnd fuel
          (min shiftEnd (midnight (dateOf cursor + 1)))
        rw [hmidnight]
        exact hsegment

/-! ## Availability -/

/-- The parsed availability of a request: recurring rules and dated
exceptions, each `None` when the request has none. -/
structure Availability where
  recurring : Option (Dict String (List AvailabilityRule))
  exceptions : Option (Dict String (List AvailabilityException))

namespace Availability

variable (availability : Availability)

/-- `availability.get(staff_id, [])`. -/
def rulesOf (staffId : String) : List AvailabilityRule :=
  Dict.getD (availability.recurring.getD []) staffId []

/-- `availability is not None and staff_id in availability`. -/
def recurringConfigured (staffId : String) : Bool :=
  Dict.contains (availability.recurring.getD []) staffId

/-- The dated exceptions of a person. -/
def exceptionsOf (staffId : String) : List AvailabilityException :=
  Dict.getD (availability.exceptions.getD []) staffId []

/-- The body of the loop of `_is_available`. -/
def segmentAvailable (rt : Runtime) (staffId : String) (segment : LocalSegment) : Bool :=
  let rules := availability.rulesOf staffId
  let dated := (availability.exceptionsOf staffId).filter fun entry =>
    entry.localDate = rt.dateIsoformat segment.localDate
  let available := dated.filter fun entry => entry.kind = .available
  let baseCovered :=
    if available ≠ [] then minuteWindowsCover available segment.startMinute segment.endMinute
    else if availability.recurringConfigured staffId then
      rules ≠ [] &&
        availabilityRulesCover rules segment.weekday segment.startMinute segment.endMinute
    else true
  baseCovered && !dated.any fun entry =>
    entry.kind = .unavailable && entry.startMinute < segment.endMinute &&
      segment.startMinute < entry.endMinute

/-- `_is_available`, on the wall clock.  The source asks only when the request
has rules or exceptions; without either it holds. -/
def isAvailable (rt : Runtime) (staffId : String) (shiftStart shiftEnd : Int) : Bool :=
  (availabilitySegments shiftStart shiftEnd).all (availability.segmentAvailable rt staffId)

/-- A person is permitted at a minute of a date: no `UNAVAILABLE` exception of
that date contains it, and it lies in an `AVAILABLE` exception if the date has
any, else in a recurring rule when rules are configured.  `onDate` tells the
exceptions of the date. -/
structure Permits (staffId : String) (onDate : AvailabilityException → Prop) (weekday : Nat)
    (minute : Int) : Prop where
  notUnavailable : ∀ entry ∈ availability.exceptionsOf staffId, onDate entry →
    entry.kind = .unavailable → ¬ (entry.startMinute ≤ minute ∧ minute < entry.endMinute)
  available : (∃ entry ∈ availability.exceptionsOf staffId, onDate entry ∧
      entry.kind = .available) →
    ∃ entry ∈ availability.exceptionsOf staffId, onDate entry ∧ entry.kind = .available ∧
      entry.startMinute ≤ minute ∧ minute < entry.endMinute
  recurring : (¬ ∃ entry ∈ availability.exceptionsOf staffId, onDate entry ∧
      entry.kind = .available) → availability.recurringConfigured staffId = true →
    ∃ rule ∈ availability.rulesOf staffId, ∃ interval, rule.interval? weekday = some interval ∧
      interval.1 ≤ minute ∧ minute < interval.2

variable {availability}

/-- A part that is available permits each of its minutes. -/
theorem segmentAvailable_permits {rt : Runtime} {staffId : String} {segment : LocalSegment}
    (h : availability.segmentAvailable rt staffId segment = true) {m : Int}
    (hle : segment.startMinute ≤ m) (hlt : m < segment.endMinute) :
    availability.Permits staffId
      (fun entry => entry.localDate = rt.dateIsoformat segment.localDate) segment.weekday m := by
  unfold segmentAvailable at h
  simp only [Bool.and_eq_true, Bool.not_eq_true', List.any_eq_false, List.mem_filter,
    decide_eq_true_eq] at h
  obtain ⟨hbase, hnone⟩ := h
  refine ⟨?_, ?_, ?_⟩
  · intro entry hentry hdate hkind hin
    exact hnone entry ⟨hentry, hdate⟩ ⟨⟨hkind, by omega⟩, by omega⟩
  · rintro ⟨entry, hentry, hdate, hkind⟩
    rw [if_pos ?nonempty] at hbase
    · obtain ⟨interval, hinterval, hin⟩ := sweep_sound hbase hle hlt
      rw [List.mem_insertionSort] at hinterval
      obtain ⟨found, hfound, rfl⟩ := List.mem_map.mp hinterval
      simp only [List.mem_filter, decide_eq_true_eq] at hfound
      exact ⟨found, hfound.1.1, hfound.1.2, hfound.2, hin⟩
    · intro hnil
      have : entry ∈ ([] : List AvailabilityException) := by
        rw [← hnil]
        simp [hentry, hdate, hkind]
      simp at this
  · intro hnoAvailable hconfigured
    have hempty : ((availability.exceptionsOf staffId).filter fun entry =>
        entry.localDate = rt.dateIsoformat segment.localDate).filter
          (fun entry => entry.kind = .available) = [] := by
      rw [List.filter_eq_nil_iff]
      intro entry hentry hkind
      simp only [List.mem_filter, decide_eq_true_eq] at hentry hkind
      exact hnoAvailable ⟨entry, hentry.1, hentry.2, hkind⟩
    rw [if_neg (not_not_intro hempty), if_pos hconfigured] at hbase
    simp only [Bool.and_eq_true] at hbase
    obtain ⟨interval, hinterval, hin⟩ := sweep_sound hbase.2 hle hlt
    rw [List.mem_insertionSort] at hinterval
    obtain ⟨rule, hrule, hsome⟩ := List.mem_filterMap.mp hinterval
    exact ⟨rule, hrule, interval, hsome, hin⟩

/-- Whoever is available for a local interval is permitted at each minute from
that of its start to that before its end. -/
theorem isAvailable_permits {rt : Runtime} {staffId : String} {shiftStart shiftEnd reading : Int}
    (h : availability.isAvailable rt staffId shiftStart shiftEnd = true)
    (hle : shiftStart / minute ≤ reading / minute) (hlt : reading / minute < shiftEnd / minute) :
    availability.Permits staffId
      (fun entry => entry.localDate = rt.dateIsoformat (dateOf reading))
      (weekday (dateOf reading)) (minuteOfDay reading) := by
  have hfuel : dateOf shiftEnd - dateOf shiftStart <
      ((dateOf shiftEnd - dateOf shiftStart).toNat + 1 : Nat) := by
    push_cast
    omega
  obtain ⟨segment, hsegment, hdate, hweekday, hstart, hend⟩ :=
    exists_availabilitySegment _ shiftStart hfuel hle hlt
  have hday : reading / minute / 1440 = dateOf reading := by
    unfold dateOf day minute
    omega
  have hminute : reading / minute % 1440 = minuteOfDay reading := by
    unfold minuteOfDay day minute
    omega
  rw [hday] at hdate hweekday
  rw [hminute] at hstart hend
  have hok := List.all_eq_true.mp h segment hsegment
  have hpermits := segmentAvailable_permits hok hstart hend
  rw [hdate, hweekday] at hpermits
  exact hpermits

end Availability

end LunchLineup.Engine
