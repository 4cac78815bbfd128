import LunchLineup.Engine.Service
import LunchLineup.Python.Reference

/-!
# Availability at publish time

The API checks a shift against the availability of its person on the persisted
rows: weekly windows with Sunday as day `0`, and dated exceptions.  The engine
decides the same question on the rules it reads from the payload, where a day is
a name and a time is `HH:MM`, and where Monday is day `0`.

Both sweep the sorted windows of the day.  `sweep_eq_true_iff` is what the sweep
decides: every minute lies in a window.  `availability_decided_alike` is about
the two decisions.
-/

namespace LunchLineup.Schedules

open LunchLineup.Lib LunchLineup.Python
open LunchLineup.Engine (AvailabilityRule AvailabilityException ExceptionKind Availability
  LocalSegment sweep sweep_sound minuteWindowsCover availabilityRulesCover parseDay parseTime
  splitColon normalizeAvailabilityRule)
open LunchLineup.Python.Reference (civilFromDays date? pad)

/-! ## What the sweep decides -/

/-- The sweep of windows in the order of their starts finds the segment covered
exactly when each of its minutes lies in a window. -/
theorem sweep_eq_true_iff {endMinute coveredUntil : Int} {intervals : List (Int × Int)}
    (hsorted : intervals.Pairwise fun first second => first.1 ≤ second.1)
    (hlt : coveredUntil < endMinute) :
    sweep endMinute coveredUntil intervals = true ↔
      ∀ m, coveredUntil ≤ m → m < endMinute →
        ∃ interval ∈ intervals, interval.1 ≤ m ∧ m < interval.2 := by
  refine ⟨fun h m hle hm => sweep_sound h hle hm, fun h => ?_⟩
  induction intervals generalizing coveredUntil with
  | nil =>
      obtain ⟨interval, hinterval, _⟩ := h coveredUntil le_rfl hlt
      simp at hinterval
  | cons interval rest ih =>
      obtain ⟨intervalStart, intervalEnd⟩ := interval
      rw [List.pairwise_cons] at hsorted
      rw [sweep]
      split
      · -- The window ends too early to hold any of the minutes left.
        rename_i hpast
        apply ih hsorted.2 hlt
        intro m hle hm
        obtain ⟨found, hfound, hin⟩ := h m hle hm
        rcases List.mem_cons.mp hfound with rfl | hfound
        · exact absurd hin.2 (by show ¬ m < intervalEnd; omega)
        · exact ⟨found, hfound, hin⟩
      split
      · -- Every later window starts after the first minute left as well.
        rename_i _ hgap
        obtain ⟨found, hfound, hin⟩ := h coveredUntil le_rfl hlt
        rcases List.mem_cons.mp hfound with rfl | hfound
        · exact absurd hin.1 (by show ¬ intervalStart ≤ coveredUntil; omega)
        · have hlater := hsorted.1 found hfound
          exact absurd hin.1 (by show ¬ found.1 ≤ coveredUntil; omega)
      split
      · rfl
      · apply ih hsorted.2 (by omega)
        intro m hle hm
        obtain ⟨found, hfound, hin⟩ := h m (by omega) hm
        rcases List.mem_cons.mp hfound with rfl | hfound
        · exact absurd hin.2 (by show ¬ m < intervalEnd; omega)
        · exact ⟨found, hfound, hin⟩

theorem pairwise_insertionSort_intervalLe (intervals : List (Int × Int)) :
    (intervals.insertionSort intervalLe).Pairwise fun first second => first.1 ≤ second.1 := by
  have : Std.Total intervalLe := ⟨fun first second => by unfold intervalLe; omega⟩
  have : IsTrans (Int × Int) intervalLe :=
    ⟨fun first second third h₁ h₂ => by unfold intervalLe at *; omega⟩
  apply (List.pairwise_insertionSort intervalLe intervals).imp
  intro first second h
  unfold intervalLe at h
  omega

/-- The sweep after the sort, as both services run it. -/
theorem sweep_insertionSort {startMinute endMinute : Int} (hlt : startMinute < endMinute)
    (intervals : List (Int × Int)) :
    sweep endMinute startMinute (intervals.insertionSort intervalLe) = true ↔
      ∀ m, startMinute ≤ m → m < endMinute →
        ∃ interval ∈ intervals, interval.1 ≤ m ∧ m < interval.2 := by
  rw [sweep_eq_true_iff (pairwise_insertionSort_intervalLe intervals) hlt]
  simp only [List.mem_insertionSort]

/-! ## The persisted rows -/

/-- `PersistedAvailabilityWindow`. -/
structure PersistedAvailabilityWindow where
  dayOfWeek : Int
  startTimeMinutes : Int
  endTimeMinutes : Int
  deriving DecidableEq

/-- `PersistedAvailabilityException`. -/
structure PersistedAvailabilityException where
  localDate : String
  kind : ExceptionKind
  startTimeMinutes : Int
  endTimeMinutes : Int
  deriving DecidableEq

/-- `WEEKDAYS`. -/
def weekdays : List String :=
  ["Sunday", "Monday", "Tuesday", "Wednesday", "Thursday", "Friday", "Saturday"]

/-- `WEEKDAYS[day]`. -/
def weekdayName (day : Nat) : String := weekdays.getD day ""

/-- `assertAvailabilityWindow`. -/
def assertAvailabilityWindow (window : PersistedAvailabilityWindow) : Except String Unit := do
  ensure (0 ≤ window.dayOfWeek ∧ window.dayOfWeek ≤ 6)
    "Invalid availability dayOfWeek. Use 0 through 6."
  ensure (0 ≤ window.startTimeMinutes ∧ window.startTimeMinutes < 1440 ∧
      0 ≤ window.endTimeMinutes ∧ window.endTimeMinutes < 1440 ∧
      window.startTimeMinutes ≠ window.endTimeMinutes)
    "Invalid availability window. Use distinct minute values from 0 to 1439."

/-- The date of a text `YYYY-MM-DD` that the calendar has. -/
def localDate? (text : String) : Option Int :=
  match text.toList with
  | [y₁, y₂, y₃, y₄, '-', m₁, m₂, '-', d₁, d₂] => date? [y₁, y₂, y₃, y₄] [m₁, m₂] [d₁, d₂]
  | _ => none

/-- `assertAvailabilityException`. -/
def assertAvailabilityException (entry : PersistedAvailabilityException) : Except String Unit :=
  ensure ((localDate? entry.localDate).any (fun date =>
        1970 ≤ (civilFromDays date).1 && (civilFromDays date).1 ≤ 2100) = true ∧
      0 ≤ entry.startTimeMinutes ∧ entry.startTimeMinutes < 1440 ∧
      1 ≤ entry.endTimeMinutes ∧ entry.endTimeMinutes ≤ 1440 ∧
      entry.startTimeMinutes < entry.endTimeMinutes)
    "Invalid dated availability exception."

/-- `availabilityDayName`. -/
def availabilityDayName (dayOfWeek : Int) : Except String String := do
  ensure (0 ≤ dayOfWeek ∧ dayOfWeek ≤ 6) "Invalid availability dayOfWeek. Use 0 through 6."
  .ok (weekdayName dayOfWeek.toNat)

/-- `availabilityTime`. -/
def availabilityTime (minutesValue : Int) (field : String) : Except String String := do
  ensure (0 ≤ minutesValue ∧ minutesValue < 1440)
    ("Invalid " ++ field ++ ". Use minutes from 0 to 1439.")
  .ok (pad 2 (minutesValue / 60) ++ ":" ++ pad 2 (minutesValue % 60))

/-! ## The decision of the API -/

/-- `minuteWindowsCoverLocalSegment`.  The loop is the one of the engine. -/
def minuteWindowsCoverLocalSegment (windows : List (Int × Int))
    (segmentStartMinutes segmentEndMinutes : Int) : Bool :=
  sweep segmentEndMinutes segmentStartMinutes (windows.insertionSort intervalLe)

/-- The callback of `flatMap` in `availabilityWindowsCoverLocalSegment`: the
part of a window that falls on the weekday. -/
def windowIntervals (weekday : String) (window : PersistedAvailabilityWindow) :
    Except String (List (Int × Int)) := do
  assertAvailabilityWindow window
  let name ← availabilityDayName window.dayOfWeek
  if window.startTimeMinutes < window.endTimeMinutes then
    .ok (if name = weekday then [(window.startTimeMinutes, window.endTimeMinutes)] else [])
  else if name = weekday then .ok [(window.startTimeMinutes, 1440)]
  else do
    let next ← availabilityDayName ((window.dayOfWeek + 1) % 7)
    .ok (if next = weekday then [(0, window.endTimeMinutes)] else [])

/-- `availabilityWindowsCoverLocalSegment`. -/
def availabilityWindowsCoverLocalSegment (windows : List PersistedAvailabilityWindow)
    (weekday : String) (segmentStartMinutes segmentEndMinutes : Int) : Except String Bool := do
  ensure (0 ≤ segmentStartMinutes ∧ segmentEndMinutes ≤ 1440 ∧
      segmentStartMinutes < segmentEndMinutes) "Invalid local availability segment."
  let intervals ← windows.mapM (windowIntervals weekday)
  .ok (sweep segmentEndMinutes segmentStartMinutes (intervals.flatten.insertionSort intervalLe))

/-- `availabilityWithExceptionsCoversLocalSegment`. -/
def availabilityWithExceptionsCoversLocalSegment
    (recurringWindows : List PersistedAvailabilityWindow)
    (exceptions : List PersistedAvailabilityException) (localDate weekday : String)
    (segmentStartMinutes segmentEndMinutes : Int) : Except String Bool := do
  ensure (0 ≤ segmentStartMinutes ∧ segmentEndMinutes ≤ 1440 ∧
      segmentStartMinutes < segmentEndMinutes) "Invalid local availability segment."
  let dated := exceptions.filter fun entry => entry.localDate = localDate
  let _ ← dated.mapM assertAvailabilityException
  let available := dated.filter fun entry => entry.kind = .available
  let baseCovered ←
    if available ≠ [] then
      .ok (minuteWindowsCoverLocalSegment
        (available.map fun entry => (entry.startTimeMinutes, entry.endTimeMinutes))
        segmentStartMinutes segmentEndMinutes)
    else
      availabilityWindowsCoverLocalSegment recurringWindows weekday segmentStartMinutes
        segmentEndMinutes
  .ok (baseCovered && !dated.any fun entry => entry.kind = .unavailable &&
    entry.startTimeMinutes < segmentEndMinutes && segmentStartMinutes < entry.endTimeMinutes)

/-! ## The rules the engine reads -/

/-- The rule of a window in the payload. -/
def availabilityPayload (window : PersistedAvailabilityWindow) : Except String PyValue := do
  assertAvailabilityWindow window
  let dayOfWeek ← availabilityDayName window.dayOfWeek
  let startTime ← availabilityTime window.startTimeMinutes "availability startTimeMinutes"
  let endTime ← availabilityTime window.endTimeMinutes "availability endTimeMinutes"
  .ok (Engine.availabilityRuleValue dayOfWeek startTime endTime)

/-- A day of the API as the engine counts it: Monday is `0`. -/
def engineDay (day : Nat) : Nat := (day + 6) % 7

/-- The rule the engine makes of a window. -/
def PersistedAvailabilityWindow.toRule (window : PersistedAvailabilityWindow) :
    AvailabilityRule where
  dayOfWeek := engineDay window.dayOfWeek.toNat
  startMinute := window.startTimeMinutes
  endMinute := window.endTimeMinutes

/-- The entry the engine makes of an exception. -/
def PersistedAvailabilityException.toEntry (entry : PersistedAvailabilityException) :
    AvailabilityException where
  localDate := entry.localDate
  kind := entry.kind
  startMinute := entry.startTimeMinutes
  endMinute := entry.endTimeMinutes

/-- What the engine's readers ask of Python on ASCII texts: `lower` changes
letters only, a text with a letter in it is no number, and two digits are read
in base ten. -/
structure ReadsAscii (rt : Runtime) : Prop where
  lower : ∀ text : String, text.toList.all Char.isAlpha = true →
    rt.lower text = String.ofList (text.toList.map Char.toLower)
  isdigit : ∀ text : String, text.toList.any Char.isAlpha = true → rt.isdigit text = false
  intOfText : ∀ tens ones : Nat, tens < 10 → ones < 10 →
    rt.intOfText (String.ofList [tens.digitChar, ones.digitChar]) = some ((10 * tens + ones : ℕ) : Int)

/-! ### The names and times of the payload -/

/-- The name of a day is one word of letters, and no two days share one. -/
theorem weekdayName_word : ∀ day < 7, strip (weekdayName day) = weekdayName day ∧
    (weekdayName day).toList.all Char.isAlpha = true ∧
      ∀ other < 7, weekdayName day = weekdayName other → day = other := by
  decide +kernel

/-- `DAY_INDEX` knows the name in small letters, under the engine's number. -/
theorem dayIndex_weekdayName : ∀ day < 7,
    (String.ofList ((weekdayName day).toList.map Char.toLower)).toList.any Char.isAlpha = true ∧
      Dict.get? Engine.dayIndex (String.ofList ((weekdayName day).toList.map Char.toLower)) =
        some (engineDay day) := by
  decide +kernel

theorem weekdayName_inj {day other : Nat} (hday : day < 7) (hother : other < 7) :
    weekdayName day = weekdayName other ↔ day = other :=
  ⟨(weekdayName_word day hday).2.2 other hother, fun h => by rw [h]⟩

theorem engineDay_inj {day other : Nat} (hday : day < 7) (hother : other < 7) :
    engineDay day = engineDay other ↔ day = other := by
  unfold engineDay
  omega

theorem availabilityDayName_natCast {day : Nat} (hday : day < 7) :
    availabilityDayName day = .ok (weekdayName day) := by
  unfold availabilityDayName
  rw [ensure_of_true _ (by omega), ok_bind, Int.toNat_natCast]

theorem isSpace_digitChar : ∀ digit < 10, isSpace digit.digitChar = false := by
  decide

theorem digitChar_ne_colon : ∀ digit < 10, digit.digitChar ≠ ':' := by
  decide

theorem toList_pad : ∀ value < 60,
    (pad 2 (value : Nat)).toList = [(value / 10).digitChar, (value % 10).digitChar] := by
  decide +kernel

/-- A list without spaces at its ends is stripped of nothing. -/
theorem stripChars_of_ends {first last : Char} (middle : List Char)
    (hfirst : isSpace first = false) (hlast : isSpace last = false) :
    stripChars (first :: (middle ++ [last])) = first :: (middle ++ [last]) := by
  unfold stripChars
  rw [List.dropWhile_cons_of_neg (by simp [hfirst])]
  rw [show (first :: (middle ++ [last])).reverse = last :: (first :: middle).reverse by simp]
  rw [List.dropWhile_cons_of_neg (by simp [hlast])]
  simp

section

variable {rt : Runtime} (hrt : ReadsAscii rt)

include hrt

/-- `_parse_day` undoes `availabilityDayName`. -/
theorem parseDay_weekdayName {day : Nat} (hday : day < 7) :
    parseDay rt (.str (weekdayName day)) = .ok (engineDay day) := by
  obtain ⟨hstrip, halpha, _⟩ := weekdayName_word day hday
  obtain ⟨hword, hnamed⟩ := dayIndex_weekdayName day hday
  rw [← hrt.lower _ halpha] at hword hnamed
  unfold parseDay
  simp only [hstrip, hrt.isdigit _ hword, hnamed, Bool.false_eq_true, if_false]

/-- `_parse_time` undoes `availabilityTime`. -/
theorem parseTime_pad {hour minute : Nat} (hhour : hour < 24) (hminute : minute < 60) :
    parseTime rt (.str (pad 2 hour ++ ":" ++ pad 2 minute)) =
      .ok ((hour : Int) * 60 + minute) := by
  have hchars : (pad 2 (hour : Int) ++ ":" ++ pad 2 (minute : Int)).toList =
      [(hour / 10).digitChar, (hour % 10).digitChar, ':', (minute / 10).digitChar,
        (minute % 10).digitChar] := by
    rw [String.toList_append, String.toList_append, toList_pad hour (by omega),
      toList_pad minute hminute]
    rfl
  have hstrip : stripChars [(hour / 10).digitChar, (hour % 10).digitChar, ':',
      (minute / 10).digitChar, (minute % 10).digitChar] =
        [(hour / 10).digitChar, (hour % 10).digitChar, ':', (minute / 10).digitChar,
          (minute % 10).digitChar] :=
    stripChars_of_ends [(hour % 10).digitChar, ':', (minute / 10).digitChar]
      (isSpace_digitChar (hour / 10) (by omega))
      (isSpace_digitChar (minute % 10) (by omega))
  have hparts : splitColon [(hour / 10).digitChar, (hour % 10).digitChar, ':',
      (minute / 10).digitChar, (minute % 10).digitChar] =
        [[(hour / 10).digitChar, (hour % 10).digitChar],
          [(minute / 10).digitChar, (minute % 10).digitChar]] := by
    simp only [splitColon, if_neg (digitChar_ne_colon (hour / 10) (by omega)),
      if_neg (digitChar_ne_colon (hour % 10) (by omega)),
      if_neg (digitChar_ne_colon (minute / 10) (by omega)),
      if_neg (digitChar_ne_colon (minute % 10) (by omega)), if_true]
  have hhourText := hrt.intOfText (hour / 10) (hour % 10) (by omega) (by omega)
  have hminuteText := hrt.intOfText (minute / 10) (minute % 10) (by omega) (by omega)
  rw [Nat.div_add_mod] at hhourText hminuteText
  unfold parseTime strip
  simp only [hchars, String.toList_ofList, hstrip, hparts, List.map_cons, List.map_nil,
    List.length_nil, hhourText, hminuteText, not_lt_zero, if_false]
  rw [ensure_of_true _ (by omega), ok_bind]

/-- The engine reads the rule of a window's payload as the window says. -/
theorem normalizeAvailabilityRule_payload {window : PersistedAvailabilityWindow}
    (hwindow : assertAvailabilityWindow window = .ok ()) :
    ∃ payload, availabilityPayload window = .ok payload ∧
      normalizeAvailabilityRule rt payload = .ok window.toRule := by
  have hchecks := hwindow
  unfold assertAvailabilityWindow at hchecks
  simp only [bind_eq_ok, ensure_eq_ok] at hchecks
  obtain ⟨_, ⟨hday, hday'⟩, hstart, hstart', hend, hend', hne⟩ := hchecks
  obtain ⟨day, startTime, endTime⟩ := window
  lift day to ℕ using hday
  lift startTime to ℕ using hstart
  lift endTime to ℕ using hend
  have htime : ∀ (minutes : ℕ) (field : String), (minutes : Int) < 1440 →
      ∃ text, availabilityTime minutes field = .ok text ∧
        parseTime rt (.str text) = .ok (minutes : Int) := by
    intro minutes field hlt
    refine ⟨pad 2 (minutes / 60 : ℕ) ++ ":" ++ pad 2 (minutes % 60 : ℕ), ?_, ?_⟩
    · unfold availabilityTime
      rw [ensure_of_true _ (by omega), ok_bind]
      rfl
    · rw [parseTime_pad hrt (by omega) (by omega)]
      congr 1
      omega
  obtain ⟨startText, hstartText, hstartRead⟩ :=
    htime startTime "availability startTimeMinutes" hstart'
  obtain ⟨endText, hendText, hendRead⟩ := htime endTime "availability endTimeMinutes" hend'
  have hnatural : day < 7 := by
    simp only at hday'
    omega
  have hname := availabilityDayName_natCast hnatural
  have hdayRead := parseDay_weekdayName hrt hnatural
  refine ⟨Engine.availabilityRuleValue (weekdayName day) startText endText, ?_, ?_⟩
  · unfold availabilityPayload
    rw [hwindow, ok_bind]
    simp only [hname, hstartText, hendText, ok_bind]
  · show (do
      let dayOfWeek ← parseDay rt (.str (weekdayName day))
      let startMinute ← parseTime rt (.str startText)
      let endMinute ← parseTime rt (.str endText)
      ensure (startMinute ≠ endMinute) "availability start_time and end_time cannot be equal"
      .ok (⟨dayOfWeek, startMinute, endMinute⟩ : AvailabilityRule)) = _
    rw [hdayRead, ok_bind, hstartRead, ok_bind, hendRead, ok_bind,
      ensure_of_true _ hne, ok_bind]
    rfl

/-- The engine reads all the rules of the payload. -/
theorem mapM_payload {windows : List PersistedAvailabilityWindow}
    (hwindows : ∀ window ∈ windows, assertAvailabilityWindow window = .ok ()) :
    ∃ payloads, windows.mapM availabilityPayload = .ok payloads ∧
      payloads.mapM (normalizeAvailabilityRule rt) =
        .ok (windows.map PersistedAvailabilityWindow.toRule) := by
  induction windows with
  | nil => exact ⟨[], rfl, rfl⟩
  | cons window rest ih =>
      obtain ⟨payload, hpayload, hrule⟩ :=
        normalizeAvailabilityRule_payload hrt (hwindows window List.mem_cons_self)
      obtain ⟨payloads, hpayloads, hrules⟩ :=
        ih fun other hother => hwindows other (List.mem_cons_of_mem _ hother)
      refine ⟨payload :: payloads, ?_, ?_⟩
      · rw [List.mapM_cons, hpayload, ok_bind, hpayloads, ok_bind, pure_eq_ok]
      · rw [List.mapM_cons, hrule, ok_bind, hrules, ok_bind, pure_eq_ok, List.map_cons]

end

/-! ## The engine's decision, one minute at a time -/

/-- A part of a day is available exactly when each of its minutes is permitted. -/
theorem segmentAvailable_iff {rt : Runtime} {availability : Availability} {staffId : String}
    {segment : LocalSegment} (hlt : segment.startMinute < segment.endMinute)
    (hexceptions : ∀ entry ∈ availability.exceptionsOf staffId,
      entry.startMinute < entry.endMinute) :
    availability.segmentAvailable rt staffId segment = true ↔
      ∀ m, segment.startMinute ≤ m → m < segment.endMinute →
        availability.Permits staffId
          (fun entry => entry.localDate = rt.dateIsoformat segment.localDate)
          segment.weekday m := by
  refine ⟨fun h m hle hm => Engine.Availability.segmentAvailable_permits h hle hm, fun h => ?_⟩
  unfold Engine.Availability.segmentAvailable
  simp only [Bool.and_eq_true, Bool.not_eq_true', List.any_eq_false, List.mem_filter,
    decide_eq_true_eq]
  constructor
  · split
    · rename_i hdated
      obtain ⟨entry, hentry⟩ := List.exists_mem_of_ne_nil _ hdated
      simp only [List.mem_filter, decide_eq_true_eq] at hentry
      apply (sweep_insertionSort hlt _).mpr
      intro m hle hm
      obtain ⟨found, hfound, hdate, hkind, hin⟩ :=
        (h m hle hm).available ⟨entry, hentry.1.1, hentry.1.2, hentry.2⟩
      refine ⟨(found.startMinute, found.endMinute), List.mem_map.mpr ⟨found, ?_, rfl⟩, hin⟩
      simp only [List.mem_filter, decide_eq_true_eq]
      exact ⟨⟨hfound, hdate⟩, hkind⟩
    · rename_i hdated
      have hnone : ¬ ∃ entry ∈ availability.exceptionsOf staffId,
          entry.localDate = rt.dateIsoformat segment.localDate ∧ entry.kind = .available := by
        rintro ⟨entry, hentry, hdate, hkind⟩
        apply hdated
        apply List.ne_nil_of_mem (a := entry)
        simp only [List.mem_filter, decide_eq_true_eq]
        exact ⟨⟨hentry, hdate⟩, hkind⟩
      split
      · rename_i hconfigured
        have hrule := fun m hle hm => (h m hle hm).recurring hnone hconfigured
        simp only [Bool.and_eq_true, decide_eq_true_eq]
        constructor
        · obtain ⟨rule, hmem, _⟩ := hrule segment.startMinute le_rfl hlt
          exact List.ne_nil_of_mem hmem
        · apply (sweep_insertionSort hlt _).mpr
          intro m hle hm
          obtain ⟨rule, hmem, interval, hinterval, hin⟩ := hrule m hle hm
          exact ⟨interval, List.mem_filterMap.mpr ⟨rule, hmem, hinterval⟩, hin⟩
      · rfl
  · rintro entry ⟨hentry, hdate⟩ ⟨⟨hkind, hbefore⟩, hafter⟩
    -- An overlap of two nonempty intervals holds the later of their starts.
    have hnonempty := hexceptions entry hentry
    exact (h (max entry.startMinute segment.startMinute) (by omega) (by omega)).notUnavailable
      entry hentry hdate hkind ⟨by omega, by omega⟩

/-! ## The API's decision, one minute at a time -/

/-- The weekly window holds a minute of the weekday; a window that does not end
after its start goes on after midnight of its day. -/
def PersistedAvailabilityWindow.Holds (window : PersistedAvailabilityWindow) (weekday : Nat)
    (m : Int) : Prop :=
  if window.startTimeMinutes < window.endTimeMinutes then
    window.dayOfWeek = weekday ∧ window.startTimeMinutes ≤ m ∧ m < window.endTimeMinutes
  else
    (window.dayOfWeek = weekday ∧ window.startTimeMinutes ≤ m ∧ m < 1440) ∨
      ((window.dayOfWeek + 1) % 7 = weekday ∧ 0 ≤ m ∧ m < window.endTimeMinutes)

/-- The exception is one of the date, of the kind. -/
def PersistedAvailabilityException.On (entry : PersistedAvailabilityException) (localDate : String)
    (kind : ExceptionKind) : Prop :=
  entry.localDate = localDate ∧ entry.kind = kind

/-- The exception holds the minute. -/
def PersistedAvailabilityException.Holds (entry : PersistedAvailabilityException) (m : Int) :
    Prop :=
  entry.startTimeMinutes ≤ m ∧ m < entry.endTimeMinutes

/-- A person offers a minute of a date: in an `AVAILABLE` exception of the date
if there is one, else in a weekly window. -/
structure Offers (windows : List PersistedAvailabilityWindow)
    (exceptions : List PersistedAvailabilityException) (localDate : String) (weekday : Nat)
    (m : Int) : Prop where
  dated : (∃ entry ∈ exceptions, entry.On localDate .available) →
    ∃ entry ∈ exceptions, entry.On localDate .available ∧ entry.Holds m
  weekly : (¬ ∃ entry ∈ exceptions, entry.On localDate .available) →
    ∃ window ∈ windows, window.Holds weekday m

/-- The checks of `assertAvailabilityWindow`. -/
theorem assertAvailabilityWindow_ok {window : PersistedAvailabilityWindow}
    (h : assertAvailabilityWindow window = .ok ()) :
    0 ≤ window.dayOfWeek ∧ window.dayOfWeek ≤ 6 ∧ 0 ≤ window.startTimeMinutes ∧
      window.startTimeMinutes < 1440 ∧ 0 ≤ window.endTimeMinutes ∧
      window.endTimeMinutes < 1440 ∧ window.startTimeMinutes ≠ window.endTimeMinutes := by
  unfold assertAvailabilityWindow at h
  simp only [bind_eq_ok, ensure_eq_ok] at h
  obtain ⟨_, ⟨hday, hday'⟩, hrest⟩ := h
  exact ⟨hday, hday', hrest⟩

/-- The engine's rule of a window falls on a weekday where the window does. -/
theorem mem_interval?_toRule {window : PersistedAvailabilityWindow}
    (hwindow : assertAvailabilityWindow window = .ok ()) {weekday : Nat} (hweekday : weekday < 7)
    (m : Int) :
    (∃ interval, window.toRule.interval? (engineDay weekday) = some interval ∧
      interval.1 ≤ m ∧ m < interval.2) ↔ window.Holds weekday m := by
  obtain ⟨hday, hday', hstart, _, hend, _, _⟩ := assertAvailabilityWindow_ok hwindow
  have hsame : window.toRule.dayOfWeek = engineDay weekday ↔ window.dayOfWeek = weekday := by
    rw [show window.toRule.dayOfWeek = engineDay window.dayOfWeek.toNat from rfl,
      engineDay_inj (by omega) hweekday]
    omega
  have hnext : (window.toRule.dayOfWeek + 1) % 7 = engineDay weekday ↔
      (window.dayOfWeek + 1) % 7 = weekday := by
    rw [show window.toRule.dayOfWeek = engineDay window.dayOfWeek.toNat from rfl]
    unfold engineDay
    omega
  unfold AvailabilityRule.interval? PersistedAvailabilityWindow.Holds
  simp only [hsame, hnext]
  show (∃ interval, (if window.startTimeMinutes < window.endTimeMinutes then
    if window.dayOfWeek = weekday then some (window.startTimeMinutes, window.endTimeMinutes)
    else none
    else if window.dayOfWeek = weekday then some (window.startTimeMinutes, 1440)
    else if (window.dayOfWeek + 1) % 7 = weekday then some (0, window.endTimeMinutes)
    else none) = some interval ∧ interval.1 ≤ m ∧ m < interval.2) ↔ _
  split
  · by_cases hon : window.dayOfWeek = weekday <;> simp [hon]
  · by_cases hon : window.dayOfWeek = weekday
    · have hnot : ¬ ((weekday : Int) + 1) % 7 = weekday := by omega
      simp [hon, hnot]
    · by_cases hbefore : (window.dayOfWeek + 1) % 7 = weekday <;> simp [hon, hbefore]

/-- The part of a window that the API finds is the part of the engine's rule. -/
theorem windowIntervals_weekdayName {window : PersistedAvailabilityWindow}
    (hwindow : assertAvailabilityWindow window = .ok ()) {weekday : Nat} (hweekday : weekday < 7) :
    windowIntervals (weekdayName weekday) window =
      .ok (window.toRule.interval? (engineDay weekday)).toList := by
  obtain ⟨hday, hday', _⟩ := assertAvailabilityWindow_ok hwindow
  obtain ⟨day, startTime, endTime⟩ := window
  lift day to ℕ using hday
  have hlt : day < 7 := by
    simp only at hday'
    omega
  have hnext : (day + 1) % 7 < 7 := Nat.mod_lt _ (by omega)
  unfold windowIntervals
  rw [hwindow, ok_bind, availabilityDayName_natCast hlt, ok_bind,
    show (((day : Int) + 1) % 7) = (((day + 1) % 7 : ℕ) : Int) by omega,
    availabilityDayName_natCast hnext]
  simp only [weekdayName_inj hlt hweekday, weekdayName_inj hnext hweekday, ok_bind]
  show _ = Except.ok (AvailabilityRule.interval? ⟨engineDay day, startTime, endTime⟩
    (engineDay weekday)).toList
  unfold AvailabilityRule.interval?
  have hsucc : (engineDay day + 1) % 7 = engineDay weekday ↔ (day + 1) % 7 = weekday := by
    unfold engineDay
    omega
  simp only [engineDay_inj hlt hweekday, hsucc]
  split_ifs <;> rfl

/-- The weekly windows cover a segment for the API when their rules do for the
engine. -/
theorem availabilityWindowsCoverLocalSegment_eq {windows : List PersistedAvailabilityWindow}
    (hwindows : ∀ window ∈ windows, assertAvailabilityWindow window = .ok ()) {weekday : Nat}
    (hweekday : weekday < 7) {a b : Int} (ha : 0 ≤ a) (hab : a < b) (hb : b ≤ 1440) :
    availabilityWindowsCoverLocalSegment windows (weekdayName weekday) a b =
      .ok (availabilityRulesCover (windows.map PersistedAvailabilityWindow.toRule)
        (engineDay weekday) a b) := by
  have hintervals : windows.mapM (windowIntervals (weekdayName weekday)) =
      .ok (windows.map fun window => (window.toRule.interval? (engineDay weekday)).toList) := by
    rw [mapM_eq_ok, List.forall₂_map_right_iff, List.forall₂_same]
    intro window hwindow
    exact windowIntervals_weekdayName (hwindows window hwindow) hweekday
  unfold availabilityWindowsCoverLocalSegment
  rw [ensure_of_true _ ⟨ha, hb, hab⟩, ok_bind, hintervals, ok_bind]
  unfold availabilityRulesCover
  rw [List.filterMap_map, List.filterMap_eq_flatMap_toList, List.flatMap_def]
  rfl

/-- The API answers every segment of a day, with yes exactly when the person
offers each of its minutes and no `UNAVAILABLE` exception of the date holds one. -/
theorem availabilityWithExceptionsCoversLocalSegment_iff
    {windows : List PersistedAvailabilityWindow}
    {exceptions : List PersistedAvailabilityException}
    (hwindows : ∀ window ∈ windows, assertAvailabilityWindow window = .ok ())
    (hexceptions : ∀ entry ∈ exceptions, assertAvailabilityException entry = .ok ())
    (localDate : String) {weekday : Nat} (hweekday : weekday < 7) {a b : Int} (ha : 0 ≤ a)
    (hab : a < b) (hb : b ≤ 1440) :
    ∃ covered, availabilityWithExceptionsCoversLocalSegment windows exceptions localDate
        (weekdayName weekday) a b = .ok covered ∧
      (covered = true ↔ (∀ m, a ≤ m → m < b → Offers windows exceptions localDate weekday m) ∧
        ∀ entry ∈ exceptions, entry.On localDate .unavailable →
          ∀ m, a ≤ m → m < b → ¬ entry.Holds m) := by
  have hchecked : (exceptions.filter fun entry => entry.localDate = localDate).mapM
      assertAvailabilityException =
        .ok ((exceptions.filter fun entry => entry.localDate = localDate).map fun _ => ()) := by
    rw [mapM_eq_ok, List.forall₂_map_right_iff, List.forall₂_same]
    intro entry hentry
    exact hexceptions entry (List.mem_of_mem_filter hentry)
  have hmeets : (∀ entry ∈ exceptions, entry.On localDate .unavailable →
      ∀ m, a ≤ m → m < b → ¬ entry.Holds m) ↔
        ((exceptions.filter fun entry => entry.localDate = localDate).any fun entry =>
          entry.kind = .unavailable && entry.startTimeMinutes < b &&
            a < entry.endTimeMinutes) = false := by
    simp only [List.any_eq_false, List.mem_filter, Bool.and_eq_true, decide_eq_true_eq]
    constructor
    · rintro h entry ⟨hentry, hdate⟩ ⟨⟨hkind, hbefore⟩, hafter⟩
      obtain ⟨_, _, _, _, _, hnonempty⟩ := ensure_eq_ok.mp (hexceptions entry hentry)
      exact h entry hentry ⟨hdate, hkind⟩ (max entry.startTimeMinutes a) (by omega) (by omega)
        ⟨by omega, by omega⟩
    · rintro h entry hentry ⟨hdate, hkind⟩ m hle hm ⟨hstart, hend⟩
      exact h entry ⟨hentry, hdate⟩ ⟨⟨hkind, by omega⟩, by omega⟩
  unfold availabilityWithExceptionsCoversLocalSegment
  rw [ensure_of_true _ ⟨ha, hb, hab⟩, ok_bind]
  dsimp only
  rw [hchecked, ok_bind]
  by_cases hdated : ∃ entry ∈ exceptions, entry.On localDate .available
  · have hne : (exceptions.filter fun entry => entry.localDate = localDate).filter
        (fun entry => entry.kind = .available) ≠ [] := by
      obtain ⟨entry, hentry, hon⟩ := hdated
      apply List.ne_nil_of_mem (a := entry)
      simp only [List.mem_filter, decide_eq_true_eq]
      exact ⟨⟨hentry, hon.1⟩, hon.2⟩
    rw [if_pos hne, ok_bind]
    refine ⟨_, rfl, ?_⟩
    rw [Bool.and_eq_true, Bool.not_eq_true', ← hmeets]
    apply and_congr_left'
    rw [minuteWindowsCoverLocalSegment, sweep_insertionSort hab]
    apply forall_congr'
    intro m
    apply imp_congr_right
    intro _
    apply imp_congr_right
    intro _
    simp only [List.mem_map, List.mem_filter, decide_eq_true_eq]
    constructor
    · rintro ⟨_, ⟨entry, ⟨⟨hentry, hdate⟩, hkind⟩, rfl⟩, hin⟩
      exact ⟨fun _ => ⟨entry, hentry, ⟨hdate, hkind⟩, hin⟩, fun hnone => absurd hdated hnone⟩
    · intro hoffers
      obtain ⟨entry, hentry, hon, hin⟩ := hoffers.dated hdated
      exact ⟨_, ⟨entry, ⟨⟨hentry, hon.1⟩, hon.2⟩, rfl⟩, hin⟩
  · have hnil : ¬ (exceptions.filter fun entry => entry.localDate = localDate).filter
        (fun entry => entry.kind = .available) ≠ [] := by
      intro hne
      obtain ⟨entry, hentry⟩ := List.exists_mem_of_ne_nil _ hne
      simp only [List.mem_filter, decide_eq_true_eq] at hentry
      exact hdated ⟨entry, hentry.1.1, hentry.1.2, hentry.2⟩
    rw [if_neg hnil, availabilityWindowsCoverLocalSegment_eq hwindows hweekday ha hab hb, ok_bind]
    refine ⟨_, rfl, ?_⟩
    rw [Bool.and_eq_true, Bool.not_eq_true', ← hmeets]
    apply and_congr_left'
    rw [availabilityRulesCover, sweep_insertionSort hab]
    apply forall_congr'
    intro m
    apply imp_congr_right
    intro _
    apply imp_congr_right
    intro _
    simp only [List.filterMap_map, List.mem_filterMap, Function.comp_apply]
    constructor
    · rintro ⟨interval, ⟨window, hwindow, hinterval⟩, hin⟩
      refine ⟨fun h => absurd h hdated, fun _ => ⟨window, hwindow, ?_⟩⟩
      exact (mem_interval?_toRule (hwindows window hwindow) hweekday m).mp
        ⟨interval, hinterval, hin⟩
    · intro hoffers
      obtain ⟨window, hwindow, hholds⟩ := hoffers.weekly hdated
      obtain ⟨interval, hinterval, hin⟩ :=
        (mem_interval?_toRule (hwindows window hwindow) hweekday m).mpr hholds
      exact ⟨interval, ⟨window, hwindow, hinterval⟩, hin⟩

/-- What the engine permits at a minute of the date is what the person offers,
apart from the `UNAVAILABLE` exceptions. -/
theorem permits_iff {windows : List PersistedAvailabilityWindow}
    {exceptions : List PersistedAvailabilityException} {availability : Availability}
    {staffId localDate : String} {weekday : Nat}
    (hwindows : ∀ window ∈ windows, assertAvailabilityWindow window = .ok ())
    (hweekday : weekday < 7) (hconfigured : availability.recurringConfigured staffId = true)
    (hrules : availability.rulesOf staffId = windows.map PersistedAvailabilityWindow.toRule)
    (hentries : ∀ entry, entry ∈ availability.exceptionsOf staffId ↔
      ∃ persisted ∈ exceptions, persisted.toEntry = entry) (m : Int) :
    availability.Permits staffId (fun entry => entry.localDate = localDate) (engineDay weekday) m ↔
      Offers windows exceptions localDate weekday m ∧
        ∀ entry ∈ exceptions, entry.On localDate .unavailable → ¬ entry.Holds m := by
  have hsome : (∃ entry ∈ availability.exceptionsOf staffId, entry.localDate = localDate ∧
      entry.kind = .available) ↔ ∃ entry ∈ exceptions, entry.On localDate .available := by
    constructor
    · rintro ⟨entry, hentry, hon⟩
      obtain ⟨persisted, hpersisted, rfl⟩ := (hentries entry).mp hentry
      exact ⟨persisted, hpersisted, hon⟩
    · rintro ⟨persisted, hpersisted, hon⟩
      exact ⟨_, (hentries _).mpr ⟨persisted, hpersisted, rfl⟩, hon⟩
  constructor
  · intro h
    refine ⟨⟨fun hdated => ?_, fun hnone => ?_⟩, fun persisted hpersisted hon => ?_⟩
    · obtain ⟨entry, hentry, hdate, hkind, hin⟩ := h.available (hsome.mpr hdated)
      obtain ⟨persisted, hpersisted, rfl⟩ := (hentries entry).mp hentry
      exact ⟨persisted, hpersisted, ⟨hdate, hkind⟩, hin⟩
    · obtain ⟨rule, hrule, interval, hinterval, hin⟩ :=
        h.recurring (fun hdated => hnone (hsome.mp hdated)) hconfigured
      rw [hrules, List.mem_map] at hrule
      obtain ⟨window, hwindow, rfl⟩ := hrule
      exact ⟨window, hwindow, (mem_interval?_toRule (hwindows window hwindow) hweekday m).mp
        ⟨interval, hinterval, hin⟩⟩
    · exact h.notUnavailable _ ((hentries _).mpr ⟨persisted, hpersisted, rfl⟩) hon.1 hon.2
  · rintro ⟨hoffers, hmeets⟩
    refine ⟨fun entry hentry hdate hkind => ?_, fun hdated => ?_, fun hnone _ => ?_⟩
    · obtain ⟨persisted, hpersisted, rfl⟩ := (hentries entry).mp hentry
      exact hmeets persisted hpersisted ⟨hdate, hkind⟩
    · obtain ⟨persisted, hpersisted, hon, hin⟩ := hoffers.dated (hsome.mp hdated)
      exact ⟨_, (hentries _).mpr ⟨persisted, hpersisted, rfl⟩, hon.1, hon.2, hin⟩
    · obtain ⟨window, hwindow, hholds⟩ :=
        hoffers.weekly fun hdated => hnone (hsome.mpr hdated)
      obtain ⟨interval, hinterval, hin⟩ :=
        (mem_interval?_toRule (hwindows window hwindow) hweekday m).mpr hholds
      exact ⟨_, hrules ▸ List.mem_map.mpr ⟨window, hwindow, rfl⟩, interval, hinterval, hin⟩

/-! ## The two decisions -/

/-- The API and the engine decide alike who may work, and both as the windows
and exceptions say.  The engine has the rules it reads from the payload, for a
person it has availability for, which it has for everyone in the request, and
the exceptions without repetitions and in any order. -/
theorem availability_decided_alike {rt : Runtime} (hrt : ReadsAscii rt)
    {windows : List PersistedAvailabilityWindow}
    {exceptions : List PersistedAvailabilityException}
    (hwindows : ∀ window ∈ windows, assertAvailabilityWindow window = .ok ())
    (hexceptions : ∀ entry ∈ exceptions, assertAvailabilityException entry = .ok ())
    (localDate : String) {weekday : Nat} (hweekday : weekday < 7) {a b : Int} (ha : 0 ≤ a)
    (hab : a < b) (hb : b ≤ 1440) :
    ∃ covered payloads rules,
      availabilityWithExceptionsCoversLocalSegment windows exceptions localDate
        (weekdayName weekday) a b = .ok covered ∧
      (covered = true ↔ (∀ m, a ≤ m → m < b → Offers windows exceptions localDate weekday m) ∧
        ∀ entry ∈ exceptions, entry.On localDate .unavailable →
          ∀ m, a ≤ m → m < b → ¬ entry.Holds m) ∧
      windows.mapM availabilityPayload = .ok payloads ∧
      payloads.mapM (normalizeAvailabilityRule rt) = .ok rules ∧
      ∀ (availability : Availability) (staffId : String) (segment : LocalSegment),
        availability.recurringConfigured staffId = true → availability.rulesOf staffId = rules →
        (∀ entry, entry ∈ availability.exceptionsOf staffId ↔
          ∃ persisted ∈ exceptions, persisted.toEntry = entry) →
        rt.dateIsoformat segment.localDate = localDate → segment.weekday = engineDay weekday →
        segment.startMinute = a → segment.endMinute = b →
        availability.segmentAvailable rt staffId segment = covered := by
  obtain ⟨covered, hcovered, hiff⟩ := availabilityWithExceptionsCoversLocalSegment_iff hwindows
    hexceptions localDate hweekday ha hab hb
  obtain ⟨payloads, hpayloads, hread⟩ := mapM_payload hrt hwindows
  refine ⟨covered, payloads, _, hcovered, hiff, hpayloads, hread, ?_⟩
  intro availability staffId segment hconfigured hrules hentries hdate hsegment hstart hend
  rw [Bool.eq_iff_iff, hiff, segmentAvailable_iff (by omega) ?nonempty]
  · rw [hdate, hsegment, hstart, hend]
    simp only [permits_iff hwindows hweekday hconfigured hrules hentries]
    constructor
    · intro h
      exact ⟨fun m hle hm => (h m hle hm).1,
        fun entry hentry hon m hle hm => (h m hle hm).2 entry hentry hon⟩
    · rintro ⟨hoffers, hmeets⟩ m hle hm
      exact ⟨hoffers m hle hm, fun entry hentry hon => hmeets entry hentry hon m hle hm⟩
  · intro entry hentry
    obtain ⟨persisted, hpersisted, rfl⟩ := (hentries entry).mp hentry
    obtain ⟨_, _, _, _, _, hnonempty⟩ := ensure_eq_ok.mp (hexceptions persisted hpersisted)
    exact hnonempty

/-! ## A night shift on the reference runtime -/

namespace NightShift

/-- A runtime that reads ASCII texts as Python does. -/
def rt : Runtime := Runtime.reference fun _ => none

theorem readsAscii : ReadsAscii rt where
  lower _ _ := rfl
  isdigit text h := by
    rw [List.any_eq_true] at h
    obtain ⟨c, hc, halpha⟩ := h
    show (text ≠ "" && text.toList.all Char.isDigit) = false
    rw [Bool.and_eq_false_iff]
    right
    rw [List.all_eq_false]
    refine ⟨c, hc, ?_⟩
    have hletter : 65 ≤ c.toNat := by
      obtain hupper | hlower := Bool.or_eq_true_iff.mp halpha
      · exact UInt32.le_iff_toNat_le.mp (of_decide_eq_true hupper).1
      · have hle : 97 ≤ c.toNat :=
          UInt32.le_iff_toNat_le.mp (of_decide_eq_true (Bool.and_eq_true_iff.mp hlower).1)
        omega
    intro hdigit
    have hle : c.toNat ≤ 57 :=
      UInt32.le_iff_toNat_le.mp (of_decide_eq_true (Bool.and_eq_true_iff.mp hdigit).2)
    omega
  intOfText := by
    have hdigits : ∀ tens < 10, ∀ ones < 10,
        rt.intOfText (String.ofList [tens.digitChar, ones.digitChar]) =
          some ((10 * tens + ones : ℕ) : Int) := by
      decide +kernel
    exact fun tens ones htens hones => hdigits tens htens ones hones

/-- Saturday 22:00 to Sunday 06:00, and Sunday 05:30 to 12:00. -/
def windows : List PersistedAvailabilityWindow := [⟨6, 1320, 360⟩, ⟨0, 330, 720⟩]

/-- One hour off on a Sunday. -/
def exceptions : List PersistedAvailabilityException :=
  [⟨"2026-11-08", .unavailable, 600, 660⟩]

/-- The decisions on Sunday from midnight to ten. -/
theorem decided_alike :
    (∀ window ∈ windows, assertAvailabilityWindow window = .ok ()) ∧
    (∀ entry ∈ exceptions, assertAvailabilityException entry = .ok ()) ∧
    ∃ covered payloads rules,
      availabilityWithExceptionsCoversLocalSegment windows exceptions "2026-11-08"
        (weekdayName 0) 0 600 = .ok covered ∧
      (covered = true ↔
        (∀ m, 0 ≤ m → m < 600 → Offers windows exceptions "2026-11-08" 0 m) ∧
        ∀ entry ∈ exceptions, entry.On "2026-11-08" .unavailable →
          ∀ m, 0 ≤ m → m < 600 → ¬ entry.Holds m) ∧
      windows.mapM availabilityPayload = .ok payloads ∧
      payloads.mapM (normalizeAvailabilityRule rt) = .ok rules ∧
      ∀ (availability : Availability) (staffId : String) (segment : LocalSegment),
        availability.recurringConfigured staffId = true → availability.rulesOf staffId = rules →
        (∀ entry, entry ∈ availability.exceptionsOf staffId ↔
          ∃ persisted ∈ exceptions, persisted.toEntry = entry) →
        rt.dateIsoformat segment.localDate = "2026-11-08" → segment.weekday = engineDay 0 →
        segment.startMinute = 0 → segment.endMinute = 600 →
        availability.segmentAvailable rt staffId segment = covered := by
  have hwindows : ∀ window ∈ windows, assertAvailabilityWindow window = .ok () := by decide +kernel
  have hexceptions : ∀ entry ∈ exceptions, assertAvailabilityException entry = .ok () := by
    decide +kernel
  exact ⟨hwindows, hexceptions, availability_decided_alike readsAscii hwindows hexceptions
    "2026-11-08" (by decide : 0 < 7) le_rfl (by decide) (by decide)⟩

end NightShift

end LunchLineup.Schedules
