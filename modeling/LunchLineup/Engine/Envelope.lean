import LunchLineup.Engine.Outcome
import LunchLineup.Python.Reference

/-!
# The demand segments are the envelope of the windows

`_normalize_demand_windows` sweeps the endpoints of the raw windows.  All
endpoints are boundaries of the sweep, so the windows around a piece are the
windows around each of its instants (`activeWindows_eq`), and what the segment
of the piece asks for is the maximum at each of them.  Joining only puts
together neighbours that ask for the same, so it keeps this, and what is left
has no two such neighbours.
-/

namespace LunchLineup.Engine

open LunchLineup.Lib LunchLineup.Python

/-- `_normalize_demand_windows`. -/
def normalizeDemandWindows (rt : Runtime) (value : PyValue) (scheduleStart scheduleEnd : Int) :
    Except String (List Segment) := do
  let windows ← normalizeRawDemandWindows rt value scheduleStart scheduleEnd
  .ok (mergeWindows windows)

/-! ## The envelope -/

/-- The window contains the instant. -/
def DemandWindow.Contains (window : DemandWindow) (t : Int) : Prop :=
  window.startTime ≤ t ∧ t < window.endTime

/-- The segment contains the instant. -/
def Segment.Contains (segment : Segment) (t : Int) : Prop :=
  segment.startTime ≤ t ∧ t < segment.endTime

/-- The numbers of people that windows ask for. -/
def staffLevels (windows : List DemandWindow) : Set Int :=
  {level | ∃ window ∈ windows, window.requiredStaff = level}

/-- The numbers of people with a skill that windows ask for. -/
def skillLevels (windows : List DemandWindow) (skill : String) : Set Int :=
  {level | ∃ window ∈ windows, window.skill = some skill ∧ window.requiredStaff = level}

/-- The windows that contain an instant. -/
def windowsAt (windows : List DemandWindow) (t : Int) : List DemandWindow :=
  windows.filter fun window => window.startTime ≤ t && t < window.endTime

theorem mem_windowsAt {windows : List DemandWindow} {t : Int} {window : DemandWindow} :
    window ∈ windowsAt windows t ↔ window ∈ windows ∧ window.Contains t := by
  simp only [windowsAt, List.mem_filter, Bool.and_eq_true, decide_eq_true_eq,
    DemandWindow.Contains]

/-- A dictionary of skills holds the greatest level of each skill that has one. -/
structure GreatestLevels (requirements : Dict String Int) (windows : List DemandWindow) : Prop where
  greatest : ∀ skill count, Dict.get? requirements skill = some count →
    IsGreatest (skillLevels windows skill) count
  absent : ∀ skill, Dict.get? requirements skill = none ↔ skillLevels windows skill = ∅

/-- A segment asks for the most that the given windows ask for. -/
structure Segment.Tops (segment : Segment) (windows : List DemandWindow) : Prop where
  staff : IsGreatest (staffLevels windows) segment.requiredStaff
  skills : GreatestLevels segment.skillRequirements windows

/-- Segments are the pointwise maximum of windows, in order and without two
neighbours that ask for the same. -/
structure IsEnvelope (windows : List DemandWindow) (segments : List Segment) : Prop where
  nonempty : ∀ segment ∈ segments, segment.startTime < segment.endTime
  ordered : segments.Pairwise fun first second => first.endTime ≤ second.startTime
  union : ∀ t, (∃ segment ∈ segments, segment.Contains t) ↔ ∃ window ∈ windows, window.Contains t
  tops : ∀ segment ∈ segments, ∀ t, segment.Contains t → segment.Tops (windowsAt windows t)
  merged : segments.IsChain fun first second => ¬ (first.endTime = second.startTime ∧
    first.requiredStaff = second.requiredStaff ∧
    ∀ skill, Dict.get? first.skillRequirements skill = Dict.get? second.skillRequirements skill)

/-! ## The levels of a list of windows -/

section

variable {windows : List DemandWindow}

/-- What `_normalize_demand_windows` has checked of a window's requirement. -/
structure DemandWindow.Read (window : DemandWindow) : Prop where
  required_pos : 1 ≤ window.requiredStaff
  skill_ne : window.skill ≠ some ""

theorem skillLevels_concat_self {window : DemandWindow} {skill : String}
    (h : window.skill = some skill) :
    skillLevels (windows ++ [window]) skill =
      insert window.requiredStaff (skillLevels windows skill) := by
  ext level
  simp only [skillLevels, Set.mem_ofPred_eq, Set.mem_insert_iff, List.mem_append,
    List.mem_singleton]
  constructor
  · rintro ⟨other, hmem | rfl, hskill, hlevel⟩
    · exact .inr ⟨other, hmem, hskill, hlevel⟩
    · exact .inl hlevel.symm
  · rintro (rfl | ⟨other, hmem, hskill, hlevel⟩)
    · exact ⟨window, .inr rfl, h, rfl⟩
    · exact ⟨other, .inl hmem, hskill, hlevel⟩

theorem skillLevels_concat_of_ne {window : DemandWindow} {skill : String}
    (h : window.skill ≠ some skill) :
    skillLevels (windows ++ [window]) skill = skillLevels windows skill := by
  ext level
  simp only [skillLevels, Set.mem_ofPred_eq, List.mem_append, List.mem_singleton]
  constructor
  · rintro ⟨other, hmem | rfl, hskill, hlevel⟩
    · exact ⟨other, hmem, hskill, hlevel⟩
    · exact absurd hskill h
  · rintro ⟨other, hmem, hskill, hlevel⟩
    exact ⟨other, .inl hmem, hskill, hlevel⟩

/-- The new entry of a skill is its greatest level with the window. -/
theorem GreatestLevels.isGreatest_concat {requirements : Dict String Int}
    (h : GreatestLevels requirements windows) {window : DemandWindow} (hread : window.Read)
    {skill : String} (hskill : window.skill = some skill) :
    IsGreatest (skillLevels (windows ++ [window]) skill)
      (max (Dict.getD requirements skill 0) window.requiredStaff) := by
  have hpos := hread.required_pos
  rw [skillLevels_concat_self hskill]
  cases hget : Dict.get? requirements skill with
  | none =>
      have hmax : max (Dict.getD requirements skill 0) window.requiredStaff =
          window.requiredStaff := by
        rw [Dict.getD, hget, Option.getD_none]
        omega
      rw [hmax, (h.absent skill).mp hget, insert_empty_eq]
      exact isGreatest_singleton
  | some count =>
      rw [Dict.getD, hget, Option.getD_some, max_comm]
      exact (h.greatest skill count hget).insert window.requiredStaff

/-- `max` over one more window. -/
theorem GreatestLevels.concat {requirements : Dict String Int}
    (h : GreatestLevels requirements windows) {window : DemandWindow} (hread : window.Read) :
    GreatestLevels (addSkillRequirement requirements window) (windows ++ [window]) := by
  cases hskill : window.skill with
  | none =>
      have hkeep : ∀ skill, skillLevels (windows ++ [window]) skill = skillLevels windows skill :=
        fun skill => skillLevels_concat_of_ne (by simp [hskill])
      have hadd : addSkillRequirement requirements window = requirements := by
        simp [addSkillRequirement, hskill]
      rw [hadd]
      exact ⟨fun skill => hkeep skill ▸ h.greatest skill, fun skill => hkeep skill ▸ h.absent skill⟩
  | some own =>
      have hne : own ≠ "" := by
        rintro rfl
        exact hread.skill_ne hskill
      have hadd : addSkillRequirement requirements window =
          Dict.set requirements own (max (Dict.getD requirements own 0) window.requiredStaff) := by
        simp [addSkillRequirement, hskill, hne]
      have hown := h.isGreatest_concat hread hskill
      rw [hadd]
      constructor
      · intro skill count hget
        rw [Dict.get?_set] at hget
        by_cases hsame : own = skill
        · subst hsame
          rw [if_pos rfl] at hget
          exact Option.some.inj hget ▸ hown
        · rw [if_neg hsame] at hget
          rw [skillLevels_concat_of_ne (by simpa [hskill] using hsame)]
          exact h.greatest skill count hget
      · intro skill
        rw [Dict.get?_set]
        by_cases hsame : own = skill
        · subst hsame
          rw [if_pos rfl]
          simp only [reduceCtorEq, false_iff]
          exact Set.Nonempty.ne_empty ⟨_, hown.1⟩
        · rw [if_neg hsame, skillLevels_concat_of_ne (by simpa [hskill] using hsame)]
          exact h.absent skill

/-- The loop over the windows around a piece. -/
theorem greatestLevels_foldl (hread : ∀ window ∈ windows, window.Read) :
    GreatestLevels (windows.foldl addSkillRequirement []) windows := by
  induction windows using List.reverseRecOn with
  | nil => exact ⟨by simp, by simp [skillLevels]⟩
  | append_singleton rest window ih =>
      rw [List.foldl_append, List.foldl_cons, List.foldl_nil]
      exact (ih fun other hother => hread other (List.mem_append_left _ hother)).concat
        (hread window (by simp))

/-- The greatest number of people of the windows around a piece. -/
theorem isGreatest_staffLevels (first : DemandWindow) (rest : List DemandWindow) :
    IsGreatest (staffLevels (first :: rest))
      (rest.foldl (fun required window => max required window.requiredStaff)
        first.requiredStaff) := by
  obtain ⟨hfirst, hrest⟩ := le_foldl_max DemandWindow.requiredStaff rest first.requiredStaff
  constructor
  · rcases foldl_max_mem DemandWindow.requiredStaff rest first.requiredStaff with
      heq | ⟨window, hmem, heq⟩
    · exact ⟨first, List.mem_cons_self, heq.symm⟩
    · exact ⟨window, List.mem_cons_of_mem _ hmem, heq⟩
  · rintro level ⟨window, hmem, rfl⟩
    rcases List.mem_cons.mp hmem with rfl | hmem
    · exact hfirst
    · exact hrest window hmem

end

/-! ## One piece -/

section

variable {windows : List DemandWindow}

/-- The windows around a piece are those around each of its instants. -/
theorem activeWindows_eq {piece : Int × Int} (hpiece : piece ∈ cuts (windowBoundaries windows))
    {t : Int} (hle : piece.1 ≤ t) (hlt : t < piece.2) :
    activeWindows windows piece = windowsAt windows t := by
  obtain ⟨_, hinside⟩ := not_lt_lt_of_mem_cuts (sortedSet_pairwise_lt _) hpiece
  refine List.filter_congr fun window hmem => ?_
  have hstart := hinside window.startTime (mem_sortedSet.mpr
    (List.mem_flatMap.mpr ⟨window, hmem, by simp⟩))
  have hend := hinside window.endTime (mem_sortedSet.mpr
    (List.mem_flatMap.mpr ⟨window, hmem, by simp⟩))
  -- neither endpoint lies strictly inside the piece
  rw [← Bool.coe_iff_coe]
  simp only [Bool.and_eq_true, decide_eq_true_eq]
  constructor
  · rintro ⟨hbefore, hafter⟩
    constructor <;> omega
  · rintro ⟨hbefore, hafter⟩
    constructor <;> omega

/-- The segment of a piece asks for the most of the windows around it. -/
theorem segmentOf_tops (hread : ∀ window ∈ windows, window.Read) {piece : Int × Int}
    {segment : Segment} (h : segmentOf windows piece = some segment) :
    segment.Tops (activeWindows windows piece) := by
  have hactive : ∀ window ∈ activeWindows windows piece, window.Read :=
    fun window hmem => hread window (List.mem_of_mem_filter hmem)
  unfold segmentOf at h
  split at h
  · cases h
  · rename_i first rest heq
    rw [heq] at hactive ⊢
    obtain rfl := Option.some.inj h
    exact ⟨isGreatest_staffLevels first rest, greatestLevels_foldl hactive⟩

theorem nodup_keys_foldl (active : List DemandWindow) {requirements : Dict String Int}
    (h : (Dict.keys requirements).Nodup) :
    (Dict.keys (active.foldl addSkillRequirement requirements)).Nodup := by
  induction active generalizing requirements with
  | nil => exact h
  | cons window rest ih =>
      rw [List.foldl_cons]
      apply ih
      unfold addSkillRequirement
      split
      · exact h
      · split
        · exact h
        · exact Dict.nodup_keys_set h _ _

theorem segmentOf_keyed {piece : Int × Int} {segment : Segment}
    (h : segmentOf windows piece = some segment) : (Dict.keys segment.skillRequirements).Nodup := by
  unfold segmentOf at h
  split at h
  · cases h
  · obtain rfl := Option.some.inj h
    exact nodup_keys_foldl _ List.nodup_nil

/-! ## The joined segments -/

/-- A segment asks, at each of its instants, for the most of the windows there. -/
def Segment.OnEnvelope (windows : List DemandWindow) (segment : Segment) : Prop :=
  (Dict.keys segment.skillRequirements).Nodup ∧
    ∀ t, segment.Contains t → segment.Tops (windowsAt windows t)

/-- A joined segment asks for the most at the instants of both its parts. -/
theorem Segment.OnEnvelope.join {current next : Segment} (hcurrent : current.OnEnvelope windows)
    (hnext : next.OnEnvelope windows) (hjoins : current.joins next = true) :
    { current with endTime := next.endTime }.OnEnvelope windows := by
  obtain ⟨hedge, hstaff, heqv⟩ := Segment.joins_iff.mp hjoins
  refine ⟨hcurrent.1, ?_⟩
  rintro t ⟨hle, hlt⟩
  by_cases hbefore : t < current.endTime
  · obtain ⟨hstaffTop, hskillsTop⟩ := hcurrent.2 t ⟨hle, hbefore⟩
    exact ⟨hstaffTop, hskillsTop⟩
  · have hin : next.Contains t := ⟨by omega, hlt⟩
    obtain ⟨hstaffTop, hskillsTop⟩ := hnext.2 t hin
    refine ⟨hstaff ▸ hstaffTop, ?_, ?_⟩
    · intro skill count hget
      exact hskillsTop.greatest skill count ((Dict.get?_eq_of_eqv heqv skill).symm.trans hget)
    · intro skill
      rw [← hskillsTop.absent skill, ← Dict.get?_eq_of_eqv heqv skill]

/-- The segments before joining lie on the envelope. -/
theorem segments_onEnvelope (hread : ∀ window ∈ windows, window.Read) :
    ∀ segment ∈ (cuts (windowBoundaries windows)).filterMap (segmentOf windows),
      segment.OnEnvelope windows := by
  intro segment hsegment
  obtain ⟨piece, hpiece, hof⟩ := List.mem_filterMap.mp hsegment
  obtain ⟨hstart, hend⟩ := segmentOf_eq_some hof
  refine ⟨segmentOf_keyed hof, ?_⟩
  rintro t ⟨hle, hlt⟩
  rw [← activeWindows_eq hpiece (hstart ▸ hle) (hend ▸ hlt)]
  exact segmentOf_tops hread hof

theorem mergeWindows_onEnvelope (hread : ∀ window ∈ windows, window.Read) :
    ∀ segment ∈ mergeWindows windows, segment.OnEnvelope windows := by
  have hsegments := segments_onEnvelope hread
  obtain ⟨hvalid, hordered⟩ := segments_ordered windows
  unfold mergeWindows
  split
  · simp
  · rename_i first rest heq
    rw [heq] at hsegments hvalid hordered
    exact joins_merging.forall_mem (fun _ _ _ hjoins hfirst hsecond => hfirst.join hsecond hjoins)
      hvalid hordered.isChain hsegments

/-- No two neighbours of the result join. -/
theorem mergeWindows_merged (windows : List DemandWindow) :
    (mergeWindows windows).IsChain fun first second => first.joins second = false := by
  unfold mergeWindows
  split
  · exact .nil
  · -- a join keeps the start and the requirements of its first part
    have hleft : ∀ first second third : Segment, second.joins third = true →
        first.joins { second with endTime := third.endTime } = first.joins second :=
      fun _ _ _ _ => rfl
    exact isChain_coalesce hleft _ _

/-- The merged segments are the envelope of the windows. -/
theorem mergeWindows_isEnvelope (hread : ∀ window ∈ windows, window.Read) :
    IsEnvelope windows (mergeWindows windows) := by
  obtain ⟨hvalid, hordered⟩ := mergeWindows_ordered windows
  have htops := mergeWindows_onEnvelope hread
  refine ⟨hvalid, hordered, ?_, fun segment hmem => (htops segment hmem).2, ?_⟩
  · intro t
    constructor
    · rintro ⟨segment, hmem, hin⟩
      -- the greatest level is the level of a window at `t`
      obtain ⟨⟨window, hwindow, _⟩, _⟩ := ((htops segment hmem).2 t hin).staff
      exact ⟨window, mem_windowsAt.mp hwindow⟩
    · rintro ⟨window, hmem, hle, hlt⟩
      obtain ⟨segment, hsegment, hin, hout, _⟩ := exists_segment_of_window hmem hle hlt
      exact ⟨segment, hsegment, hin, hout⟩
  · refine (mergeWindows_merged windows).imp_of_mem_imp ?_
    rintro first second hfirst hsecond hjoins ⟨hedge, hstaff, hskills⟩
    have heqv := Dict.eqv_of_get?_eq (htops first hfirst).1 (htops second hsecond).1 hskills
    rw [Segment.joins_iff.mpr ⟨hedge, hstaff, heqv⟩] at hjoins
    cases hjoins

end

/-! ## The request's windows -/

section

variable {rt : Runtime} {value : PyValue} {scheduleStart scheduleEnd : Int}

theorem parsePositiveInt_pos {field : String} {parsed : Int}
    (h : parsePositiveInt rt value field = .ok parsed) : 1 ≤ parsed := by
  unfold parsePositiveInt at h
  split at h
  · cases h
  · split at h
    · cases h
    · simp only [bind_eq_ok, ensure_eq_ok, exists_const] at h
      obtain ⟨hpos, _, heq⟩ := h
      cases heq
      exact hpos

theorem normalizeDemandWindow_read {index : Nat} {window : DemandWindow}
    (h : normalizeDemandWindow rt scheduleStart scheduleEnd index value = .ok window) :
    window.Read := by
  have hskill := (normalizeDemandWindow_ok h).2
  unfold normalizeDemandWindow at h
  split at h
  · simp only [bind_eq_ok, ensure_eq_ok, exists_const] at h
    obtain ⟨_, _, startTime, _, endTime, _, _, required, hrequired, skill, _, heq⟩ := h
    cases heq
    exact ⟨parsePositiveInt_pos hrequired, fun hempty => hskill "" hempty rfl⟩
  · cases h

theorem normalizeRawDemandWindows_read {windows : List DemandWindow}
    (h : normalizeRawDemandWindows rt value scheduleStart scheduleEnd = .ok windows) :
    ∀ window ∈ windows, window.Read := by
  intro window hmem
  unfold normalizeRawDemandWindows at h
  split at h
  · rw [← Except.ok.inj h] at hmem
    simp at hmem
  · obtain ⟨_, _, hmap⟩ := bind_eq_ok.mp h
    obtain ⟨entry, _, hentry⟩ := exists_input_of_mapM_ok hmap hmem
    exact normalizeDemandWindow_read hentry
  · cases h

/-- Whenever the engine accepts the windows of a request, the segments it works with are the
pointwise maximum of these windows. -/
theorem normalizeDemandWindows_isEnvelope {segments : List Segment}
    (h : normalizeDemandWindows rt value scheduleStart scheduleEnd = .ok segments) :
    ∃ windows, normalizeRawDemandWindows rt value scheduleStart scheduleEnd = .ok windows ∧
      IsEnvelope windows segments := by
  obtain ⟨windows, hwindows, heq⟩ := bind_eq_ok.mp h
  obtain rfl := Except.ok.inj heq
  exact ⟨windows, hwindows, mergeWindows_isEnvelope (normalizeRawDemandWindows_read hwindows)⟩

end

/-! ## A lunch rush

A third person for the kitchen at noon, and two windows that touch at four. -/

namespace LunchRush

def rawWindow (startTime endTime : String) (requiredStaff : Int) (skill : PyValue) : PyValue :=
  .dict [("start_time", .str startTime), ("end_time", .str endTime),
    ("required_staff", .int requiredStaff), ("skill", skill)]

def rawWindows : PyValue :=
  .list [rawWindow "2026-03-09T08:00" "2026-03-09T16:00" 2 .none,
    rawWindow "2026-03-09T11:00" "2026-03-09T13:00" 3 (.str " Kitchen "),
    rawWindow "2026-03-09T16:00" "2026-03-09T18:00" 2 .none]

/-- Monday, 2026-03-09. -/
def monday : Int := midnight 20521

def segments : List Segment :=
  [⟨monday + 8 * hour, monday + 11 * hour, 2, [], false⟩,
    ⟨monday + 11 * hour, monday + 13 * hour, 3, [("kitchen", 3)], true⟩,
    ⟨monday + 13 * hour, monday + 18 * hour, 2, [], true⟩]

theorem normalized :
    normalizeDemandWindows (.reference fun _ => none) rawWindows monday (monday + day) =
      .ok segments := by
  decide +kernel

end LunchRush

theorem lunch_rush_isEnvelope :
    ∃ windows,
      normalizeRawDemandWindows (.reference fun _ => none) LunchRush.rawWindows LunchRush.monday
        (LunchRush.monday + day) = .ok windows ∧ IsEnvelope windows LunchRush.segments :=
  normalizeDemandWindows_isEnvelope LunchRush.normalized

end LunchLineup.Engine
