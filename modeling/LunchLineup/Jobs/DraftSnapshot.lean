import LunchLineup.Jobs.Transactions
import LunchLineup.Python.IsoText

/-!
# The snapshot of a draft

The API stores the ids and revisions of the live shifts with a solve job, and
the persist step compares them with those it reads.  The rows come in the order
that `ORDER BY id` gives them, which is the collation's; the snapshot is sorted
by Python, which compares code points.  The two lists are compared as they are,
so an unchanged draft passes only where both orders agree on its ids
(`acceptsSnapshot_exact_iff`).
-/

namespace LunchLineup.Jobs

open LunchLineup.Lib LunchLineup.Python LunchLineup.Worker

/-! ## The comparison -/

/-- `revision_key` of an instant. -/
def revisionKey (rt : Runtime) (instant : Int) : String := rt.isoformatMicroseconds instant

/-- `current_shift_snapshot`. -/
def currentShiftSnapshot (rt : Runtime) (existingShiftRows : List (String × Shift)) :
    List (String × String) :=
  existingShiftRows.map fun row => (row.1, revisionKey rt row.2.updatedAt)

/-- The order of Python's `sorted` on pairs of texts. -/
def keyedLe (first second : String × String) : Prop :=
  first.1 < second.1 ∨ (first.1 = second.1 ∧ first.2 ≤ second.2)

instance : DecidableRel keyedLe := fun _ _ => inferInstanceAs (Decidable (_ ∨ _))

/-- `expected_shift_snapshot`. -/
def expectedShiftSnapshot (rt : Runtime) (payload : SolvePayload) :
    Except String (List (String × String)) := do
  let entries ← payload.inputShiftSnapshot.mapM fun entry => do
    let updatedAt ← parseIsoDatetime rt entry.updatedAt "revision" true
    .ok (entry.id, revisionKey rt updatedAt)
  .ok (entries.insertionSort keyedLe)

/-- `current_shift_snapshot == expected_shift_snapshot`. -/
def AcceptsSnapshot (rt : Runtime) (deployment : Deployment) (db : Database)
    (payload : SolvePayload) : Prop :=
  expectedShiftSnapshot rt payload =
    .ok (currentShiftSnapshot rt (draftShifts deployment db payload))

instance (rt : Runtime) (deployment : Deployment) (db : Database) (payload : SolvePayload) :
    Decidable (AcceptsSnapshot rt deployment db payload) :=
  inferInstanceAs (Decidable (_ = _))

/-! ## What it compares -/

/-- The live shifts of the schedule, as the table holds them. -/
def liveShifts (db : Database) (payload : SolvePayload) : List (String × Shift) :=
  db.shifts.filter fun entry =>
    entry.2.tenantId = payload.tenantId && entry.2.scheduleId = some payload.scheduleId &&
      entry.2.deletedAt.isNone

/-- The revision of an entry of the snapshot. -/
def revision? (rt : Runtime) (entry : DraftShiftSnapshotEntry) : Except String Int :=
  parseIsoDatetime rt entry.updatedAt "revision" true

/-- The live shifts and the snapshot have the same ids at the same revisions. -/
def SameRevisions (rt : Runtime) (db : Database) (payload : SolvePayload) : Prop :=
  ∀ id instant, (∃ shift, (id, shift) ∈ liveShifts db payload ∧ shift.updatedAt = instant) ↔
    ∃ entry ∈ payload.inputShiftSnapshot, entry.id = id ∧ revision? rt entry = .ok instant

/-- `ORDER BY id` under a collation. -/
structure Deployment.Collates (deployment : Deployment) (collation : String → String → Prop) :
    Prop where
  perm : ∀ rows, (deployment.orderById rows).Perm rows
  ascending : ∀ rows, (deployment.orderById rows).Pairwise fun row next => collation row.1 next.1

/-- Two rows in the table never have ids that the collation takes for equal:
the id is the primary key. -/
def DistinctIds (collation : String → String → Prop) (db : Database) : Prop :=
  ∀ row ∈ db.shifts, ∀ other ∈ db.shifts,
    collation row.1 other.1 → collation other.1 row.1 → row = other

/-- The collation orders the ids of the live shifts by code points. -/
def OrdersByCodePoint (collation : String → String → Prop) (db : Database)
    (payload : SolvePayload) : Prop :=
  ∀ row ∈ liveShifts db payload, ∀ other ∈ liveShifts db payload,
    collation row.1 other.1 → row.1 ≤ other.1

/-- Two different members of a list stand in it one way or the other. -/
theorem rel_or_rel_of_pairwise {α : Type*} {R : α → α → Prop} {l : List α} (h : l.Pairwise R)
    {a b : α} (ha : a ∈ l) (hb : b ∈ l) (hne : a ≠ b) : R a b ∨ R b a := by
  induction h with
  | nil => simp at ha
  | cons hhead _ ih =>
      rcases List.mem_cons.mp ha with hfirst | ha
      · rcases List.mem_cons.mp hb with hfirst' | hb
        · exact absurd (hfirst.trans hfirst'.symm) hne
        · exact Or.inl (hfirst ▸ hhead b hb)
      · rcases List.mem_cons.mp hb with hfirst' | hb
        · exact Or.inr (hfirst' ▸ hhead a ha)
        · exact ih ha hb

/-- Sorting pairs with distinct first texts gives the list that holds them and
has its first texts in order. -/
theorem insertionSort_keyedLe_eq_iff {pairs rows : List (String × String)}
    (hpairs : (pairs.map Prod.fst).Nodup) (hrows : (rows.map Prod.fst).Nodup) :
    pairs.insertionSort keyedLe = rows ↔
      (∀ pair, pair ∈ rows ↔ pair ∈ pairs) ∧ rows.Pairwise fun row next => row.1 ≤ next.1 := by
  have htotal : Std.Total keyedLe := by
    refine ⟨fun first second => ?_⟩
    unfold keyedLe
    rcases lt_trichotomy first.1 second.1 with h | h | h
    · exact Or.inl (Or.inl h)
    · rcases le_total first.2 second.2 with h' | h'
      · exact Or.inl (Or.inr ⟨h, h'⟩)
      · exact Or.inr (Or.inr ⟨h.symm, h'⟩)
    · exact Or.inr (Or.inl h)
  have htrans : IsTrans (String × String) keyedLe := by
    refine ⟨fun first second third h h' => ?_⟩
    unfold keyedLe at *
    rcases h with h | ⟨h, hle⟩
    · rcases h' with h' | ⟨h', _⟩
      · exact Or.inl (h.trans h')
      · exact Or.inl (h' ▸ h)
    · rcases h' with h' | ⟨h', hle'⟩
      · exact Or.inl (h ▸ h')
      · exact Or.inr ⟨h.trans h', hle.trans hle'⟩
  have hperm := List.perm_insertionSort keyedLe pairs
  have hsorted := List.pairwise_insertionSort keyedLe pairs
  constructor
  · rintro rfl
    refine ⟨fun pair => hperm.mem_iff, hsorted.imp fun {row next} h => ?_⟩
    rcases h with h | ⟨h, _⟩
    · exact le_of_lt h
    · exact le_of_eq h
  · rintro ⟨hmem, hascending⟩
    -- The ids are distinct, so their order leaves no ties for the revisions.
    have hstrict : rows.Pairwise keyedLe :=
      (hascending.and (List.pairwise_map.mp hrows)).imp fun h => Or.inl (lt_of_le_of_ne h.1 h.2)
    have hsame : rows.Perm pairs :=
      (List.perm_ext_iff_of_nodup hrows.of_map hpairs.of_map).mpr hmem
    refine List.Perm.eq_of_pairwise ?_ hsorted hstrict (hperm.trans hsame.symm)
    intro first second _ _ h h'
    rcases h with h | ⟨h, hle⟩
    · rcases h' with h' | ⟨h', _⟩
      · exact absurd h' (lt_asymm h)
      · exact absurd h' h.ne'
    · rcases h' with h' | ⟨_, hle'⟩
      · exact absurd h h'.ne'
      · exact Prod.ext h (le_antisymm hle hle')

section

variable {rt : Runtime} {deployment : Deployment} {db : Database} {payload : SolvePayload}
  {collation : String → String → Prop}

/-- The live shifts come back in code point order exactly when the collation
has them in that order. -/
theorem pairwise_draftShifts_iff (hcollates : deployment.Collates collation)
    (hdistinct : DistinctIds collation db) :
    ((draftShifts deployment db payload).Pairwise fun row next => row.1 ≤ next.1) ↔
      OrdersByCodePoint collation db payload := by
  have hperm : (draftShifts deployment db payload).Perm (liveShifts db payload) :=
    hcollates.perm _
  have hascending := hcollates.ascending (liveShifts db payload)
  constructor
  · intro hsorted row hrow other hother hle
    by_cases hsame : row = other
    · rw [hsame]
    rcases rel_or_rel_of_pairwise (hascending.and hsorted) (hperm.mem_iff.mpr hrow)
      (hperm.mem_iff.mpr hother) hsame with h | h
    · exact h.2
    · exact absurd (hdistinct row (List.mem_of_mem_filter hrow) other
        (List.mem_of_mem_filter hother) hle h.1) hsame
  · intro horders
    refine hascending.imp_of_mem fun {row next} hrow hnext hle => ?_
    exact horders row (hperm.mem_iff.mp hrow) next (hperm.mem_iff.mp hnext) hle

/-- Every entry of a snapshot that was checked has a revision. -/
theorem exists_revisions {entries : List DraftShiftSnapshotEntry}
    (hparsed : ∀ entry ∈ entries, ∃ instant ∈ datetimeRange, revision? rt entry = .ok instant) :
    ∃ pairs : List (String × Int), (∀ pair ∈ pairs, pair.2 ∈ datetimeRange) ∧
      List.Forall₂ (fun entry pair => entry.id = pair.1 ∧ revision? rt entry = .ok pair.2)
        entries pairs := by
  induction entries with
  | nil => exact ⟨[], by simp, .nil⟩
  | cons entry rest ih =>
      obtain ⟨instant, hrange, hinstant⟩ := hparsed entry List.mem_cons_self
      obtain ⟨pairs, hranges, hpairs⟩ := ih fun other hother =>
        hparsed other (List.mem_cons_of_mem _ hother)
      refine ⟨(entry.id, instant) :: pairs, ?_, .cons ⟨rfl, hinstant⟩ hpairs⟩
      intro pair hpair
      rcases List.mem_cons.mp hpair with rfl | hpair
      · exact hrange
      · exact hranges pair hpair

/-- The pair that is compared, of an id and an instant. -/
def snapshotKey (rt : Runtime) (pair : String × Int) : String × String :=
  (pair.1, revisionKey rt pair.2)

/-- The sorted snapshot, in terms of the pairs of ids and instants. -/
theorem expectedShiftSnapshot_eq {pairs : List (String × Int)}
    (hpairs : List.Forall₂ (fun entry pair => entry.id = pair.1 ∧ revision? rt entry = .ok pair.2)
      payload.inputShiftSnapshot pairs) :
    expectedShiftSnapshot rt payload =
      .ok ((pairs.map (snapshotKey rt)).insertionSort keyedLe) := by
  have hread : payload.inputShiftSnapshot.mapM (fun entry => do
      let updatedAt ← parseIsoDatetime rt entry.updatedAt "revision" true
      .ok (entry.id, revisionKey rt updatedAt)) = .ok (pairs.map (snapshotKey rt)) := by
    rw [mapM_eq_ok, List.forall₂_map_right_iff]
    refine hpairs.imp fun entry pair h => ?_
    rw [show parseIsoDatetime rt entry.updatedAt "revision" true = .ok pair.2 from h.2, ok_bind,
      h.1]
    rfl
  unfold expectedShiftSnapshot
  rw [hread, ok_bind]

theorem snapshotKey_inj (hkey : Set.InjOn rt.isoformatMicroseconds datetimeRange)
    {first second : String × Int} (hfirst : first.2 ∈ datetimeRange)
    (hsecond : second.2 ∈ datetimeRange) (h : snapshotKey rt first = snapshotKey rt second) :
    first = second := by
  obtain ⟨hid, hrevision⟩ := Prod.ext_iff.mp h
  exact Prod.ext hid (hkey hfirst hsecond hrevision)

/-- Two lists of pairs have the same keys only if they have the same pairs. -/
theorem mem_map_snapshotKey_iff (hkey : Set.InjOn rt.isoformatMicroseconds datetimeRange)
    {rows pairs : List (String × Int)} (hrows : ∀ row ∈ rows, row.2 ∈ datetimeRange)
    (hpairs : ∀ pair ∈ pairs, pair.2 ∈ datetimeRange) :
    (∀ key, key ∈ rows.map (snapshotKey rt) ↔ key ∈ pairs.map (snapshotKey rt)) ↔
      ∀ pair, pair ∈ rows ↔ pair ∈ pairs := by
  constructor
  · intro h pair
    constructor
    · intro hpair
      obtain ⟨found, hfound, heq⟩ := List.mem_map.mp ((h _).mp (List.mem_map_of_mem hpair))
      exact snapshotKey_inj hkey (hpairs found hfound) (hrows pair hpair) heq ▸ hfound
    · intro hpair
      obtain ⟨found, hfound, heq⟩ := List.mem_map.mp ((h _).mpr (List.mem_map_of_mem hpair))
      exact snapshotKey_inj hkey (hrows found hfound) (hpairs pair hpair) heq ▸ hfound
  · intro h key
    rw [List.mem_map, List.mem_map]
    simp only [h]

theorem map_snapshotKey_inj (hkey : Set.InjOn rt.isoformatMicroseconds datetimeRange)
    {rows pairs : List (String × Int)} (hrows : ∀ row ∈ rows, row.2 ∈ datetimeRange)
    (hpairs : ∀ pair ∈ pairs, pair.2 ∈ datetimeRange) :
    rows.map (snapshotKey rt) = pairs.map (snapshotKey rt) ↔ rows = pairs := by
  refine ⟨fun h => ?_, fun h => by rw [h]⟩
  induction rows generalizing pairs with
  | nil => exact (List.map_eq_nil_iff.mp h.symm).symm
  | cons row rest ih =>
      cases pairs with
      | nil => cases h
      | cons pair more =>
          rw [List.forall_mem_cons] at hrows hpairs
          obtain ⟨hhead, htail⟩ := List.cons.inj h
          rw [snapshotKey_inj hkey hrows.1 hpairs.1 hhead, ih hrows.2 hpairs.2 htail]

/-- The rows that come back are the live shifts. -/
theorem draftShifts_ranges (hcollates : deployment.Collates collation)
    (hstored : ∀ row ∈ liveShifts db payload, row.2.updatedAt ∈ datetimeRange) :
    ∀ row ∈ (draftShifts deployment db payload).map (fun row => (row.1, row.2.updatedAt)),
      row.2 ∈ datetimeRange := by
  intro row hrow
  obtain ⟨found, hfound, rfl⟩ := List.mem_map.mp hrow
  exact hstored found ((hcollates.perm (liveShifts db payload)).mem_iff.mp hfound)

/-- The persist step accepts the snapshot exactly when the revisions are the
same and the collation has the ids of the live shifts in code point order. -/
theorem acceptsSnapshot_iff (hkey : Set.InjOn rt.isoformatMicroseconds datetimeRange)
    (hcollates : deployment.Collates collation) (hdistinct : DistinctIds collation db)
    (hkeys : (Dict.keys db.shifts).Nodup)
    (hstored : ∀ row ∈ liveShifts db payload, row.2.updatedAt ∈ datetimeRange)
    (hids : (payload.inputShiftSnapshot.map DraftShiftSnapshotEntry.id).Nodup)
    (hparsed : ∀ entry ∈ payload.inputShiftSnapshot, ∃ instant ∈ datetimeRange,
      revision? rt entry = .ok instant) :
    AcceptsSnapshot rt deployment db payload ↔
      SameRevisions rt db payload ∧ OrdersByCodePoint collation db payload := by
  obtain ⟨pairs, hranges, hpairs⟩ := exists_revisions hparsed
  have hperm : (draftShifts deployment db payload).Perm (liveShifts db payload) :=
    hcollates.perm _
  have hexpected := expectedShiftSnapshot_eq hpairs
  have hrowIds : ((draftShifts deployment db payload).map Prod.fst).Nodup := by
    rw [(hperm.map Prod.fst).nodup_iff]
    exact hkeys.sublist (List.filter_sublist.map Prod.fst)
  have hpairIds : (pairs.map Prod.fst).Nodup := by
    rwa [← map_eq_of_forall₂ hpairs fun h => h.1]
  have hcurrent : currentShiftSnapshot rt (draftShifts deployment db payload) =
      ((draftShifts deployment db payload).map fun row =>
        (row.1, row.2.updatedAt)).map (snapshotKey rt) := by
    rw [List.map_map]
    rfl
  have hrowRanges := draftShifts_ranges hcollates hstored
  have hlive : ∀ id instant, (id, instant) ∈ (draftShifts deployment db payload).map
      (fun row => (row.1, row.2.updatedAt)) ↔
        ∃ shift, (id, shift) ∈ liveShifts db payload ∧ shift.updatedAt = instant := by
    intro id instant
    rw [List.mem_map]
    constructor
    · rintro ⟨⟨id', shift⟩, hrow, h⟩
      obtain ⟨rfl, hinstant⟩ := Prod.ext_iff.mp h
      exact ⟨shift, hperm.mem_iff.mp hrow, hinstant⟩
    · rintro ⟨shift, hrow, rfl⟩
      exact ⟨(id, shift), hperm.mem_iff.mpr hrow, rfl⟩
  have hsnapshot : ∀ id instant, (id, instant) ∈ pairs ↔
      ∃ entry ∈ payload.inputShiftSnapshot, entry.id = id ∧ revision? rt entry = .ok instant := by
    intro id instant
    constructor
    · intro hpair
      exact exists_left_of_forall₂ hpairs hpair
    · rintro ⟨entry, hentry, hid, hrevision⟩
      obtain ⟨pair, hpair, hid', hrevision'⟩ := exists_right_of_forall₂ hpairs hentry
      rw [hrevision, Except.ok.injEq] at hrevision'
      rw [← hid, hid', hrevision']
      exact hpair
  have hsame : (∀ pair, pair ∈ currentShiftSnapshot rt (draftShifts deployment db payload) ↔
      pair ∈ pairs.map (snapshotKey rt)) ↔ SameRevisions rt db payload := by
    rw [hcurrent, mem_map_snapshotKey_iff hkey hrowRanges hranges, Prod.forall]
    simp only [hlive, hsnapshot]
    rfl
  have hcurrentIds : ((currentShiftSnapshot rt (draftShifts deployment db payload)).map
      Prod.fst).Nodup := by
    rw [currentShiftSnapshot, List.map_map]
    exact hrowIds
  have hexpectedIds : ((pairs.map (snapshotKey rt)).map Prod.fst).Nodup := by
    rw [List.map_map]
    exact hpairIds
  unfold AcceptsSnapshot
  rw [hexpected, Except.ok.injEq, insertionSort_keyedLe_eq_iff hexpectedIds hcurrentIds, hsame,
    ← pairwise_draftShifts_iff hcollates hdistinct, currentShiftSnapshot, List.pairwise_map]

/-- The check is exact on a draft whose revisions are still those of the
snapshot exactly when the collation has its ids in code point order; on every
other draft it is exact. -/
theorem acceptsSnapshot_exact_iff (hkey : Set.InjOn rt.isoformatMicroseconds datetimeRange)
    (hcollates : deployment.Collates collation) (hdistinct : DistinctIds collation db)
    (hkeys : (Dict.keys db.shifts).Nodup)
    (hstored : ∀ row ∈ liveShifts db payload, row.2.updatedAt ∈ datetimeRange)
    (hids : (payload.inputShiftSnapshot.map DraftShiftSnapshotEntry.id).Nodup)
    (hparsed : ∀ entry ∈ payload.inputShiftSnapshot, ∃ instant ∈ datetimeRange,
      revision? rt entry = .ok instant) :
    (AcceptsSnapshot rt deployment db payload ↔ SameRevisions rt db payload) ↔
      (SameRevisions rt db payload → OrdersByCodePoint collation db payload) := by
  rw [acceptsSnapshot_iff hkey hcollates hdistinct hkeys hstored hids hparsed]
  constructor
  · intro h hsame
    exact (h.mpr hsame).2
  · intro h
    exact ⟨fun haccepted => haccepted.1, fun hsame => ⟨hsame, h hsame⟩⟩

/-- The instants that the model of the persist step compares are equal where
their keys are. -/
theorem acceptsSnapshot_iff_expectedSnapshot
    (hkey : Set.InjOn rt.isoformatMicroseconds datetimeRange)
    (hcollates : deployment.Collates collation)
    (hstored : ∀ row ∈ liveShifts db payload, row.2.updatedAt ∈ datetimeRange)
    (hids : (payload.inputShiftSnapshot.map DraftShiftSnapshotEntry.id).Nodup)
    (hparsed : ∀ entry ∈ payload.inputShiftSnapshot, ∃ instant ∈ datetimeRange,
      revision? rt entry = .ok instant) :
    AcceptsSnapshot rt deployment db payload ↔
      expectedSnapshot rt payload = .ok ((draftShifts deployment db payload).map
        fun entry => (entry.1, entry.2.updatedAt)) := by
  obtain ⟨pairs, hranges, hpairs⟩ := exists_revisions hparsed
  have hpairIds : (pairs.map Prod.fst).Nodup := by
    rwa [← map_eq_of_forall₂ hpairs fun h => h.1]
  have hexpected : expectedSnapshot rt payload = .ok (pairs.insertionSort snapshotLe) := by
    have hread : payload.inputShiftSnapshot.mapM (fun entry => do
        let updatedAt ← parseIsoDatetime rt entry.updatedAt "revision" true
        .ok (entry.id, updatedAt)) = .ok pairs := by
      rw [mapM_eq_ok]
      refine hpairs.imp fun entry pair h => ?_
      rw [show parseIsoDatetime rt entry.updatedAt "revision" true = .ok pair.2 from h.2,
        ok_bind, h.1]
    unfold expectedSnapshot
    rw [hread, ok_bind]
  have hsort : (pairs.insertionSort snapshotLe).map (snapshotKey rt) =
      (pairs.map (snapshotKey rt)).insertionSort keyedLe := by
    apply List.map_insertionSort
    intro first hfirst second hsecond
    by_cases hid : first.1 = second.1
    · have hsame := List.inj_on_of_nodup_map hpairIds hfirst hsecond hid
      rw [hsame]
      exact ⟨fun _ => Or.inr ⟨rfl, le_rfl⟩, fun _ => Or.inr ⟨rfl, le_rfl⟩⟩
    · unfold snapshotLe keyedLe snapshotKey
      simp only [hid, false_and, or_false]
  have hsortedRanges : ∀ pair ∈ pairs.insertionSort snapshotLe, pair.2 ∈ datetimeRange :=
    fun pair hpair => hranges pair ((List.mem_insertionSort _).mp hpair)
  unfold AcceptsSnapshot
  rw [expectedShiftSnapshot_eq hpairs, hexpected, ← hsort, Except.ok.injEq, Except.ok.injEq,
    ← map_snapshotKey_inj hkey hsortedRanges (draftShifts_ranges hcollates hstored), List.map_map]
  rfl

/-- A persist step that writes the solved shifts has accepted the snapshot. -/
theorem acceptsSnapshot_of_persisted
    (hkey : Set.InjOn rt.isoformatMicroseconds datetimeRange)
    (hcollates : deployment.Collates collation)
    (hstored : ∀ row ∈ liveShifts db payload, row.2.updatedAt ∈ datetimeRange)
    (hids : (payload.inputShiftSnapshot.map DraftShiftSnapshotEntry.id).Nodup)
    (hparsed : ∀ entry ∈ payload.inputShiftSnapshot, ∃ instant ∈ datetimeRange,
      revision? rt entry = .ok instant)
    {now retryCount : Int} {solvedShifts : List NormalizedShift} {jobId : String}
    {executionToken : Option String} {next : Database}
    (h : persistSolvedSchedule rt deployment now db payload solvedShifts jobId retryCount
      executionToken = .ok (.persisted, next)) :
    AcceptsSnapshot rt deployment db payload := by
  rw [acceptsSnapshot_iff_expectedSnapshot hkey hcollates hstored hids hparsed]
  unfold persistSolvedSchedule at h
  simp only [bind_eq_ok] at h
  obtain ⟨_, _, _, _, h⟩ := h
  split at h
  · cases h
  simp only [bind_eq_ok] at h
  obtain ⟨_, _, _, _, h⟩ := h
  split at h
  · cases h
  simp only [bind_eq_ok] at h
  obtain ⟨_, _, _, _, _, _, h⟩ := h
  split at h
  · cases h
  obtain ⟨_, _, h⟩ := bind_eq_ok.mp h
  split at h
  · cases h
  simp only [bind_eq_ok, ensure_eq_ok] at h
  obtain ⟨_, _, _, _, _, _, h⟩ := h
  split at h
  · cases h
  rename_i expected hexpected
  simp only [bind_eq_ok, ensure_eq_ok] at h
  obtain ⟨_, heq, _⟩ := h
  rw [hexpected, heq]

/-- An error that is not the check's own comes from what follows the check. -/
theorem error_of_ensure_bind {α : Type} {condition : Prop} [Decidable condition]
    {refusal error : JobError} {rest : Unit → Except JobError α}
    (h : (ensure condition refusal >>= rest) = .error error) (hne : refusal ≠ error) :
    rest () = .error error := by
  rcases bind_eq_error.mp h with h | ⟨_, _, h⟩
  · exact absurd (ensure_eq_error.mp h).2 hne
  · exact h

/-- A persist step that reports a changed draft has refused the snapshot. -/
theorem not_acceptsSnapshot_of_rejected
    (hkey : Set.InjOn rt.isoformatMicroseconds datetimeRange)
    (hcollates : deployment.Collates collation)
    (hstored : ∀ row ∈ liveShifts db payload, row.2.updatedAt ∈ datetimeRange)
    (hids : (payload.inputShiftSnapshot.map DraftShiftSnapshotEntry.id).Nodup)
    (hparsed : ∀ entry ∈ payload.inputShiftSnapshot, ∃ instant ∈ datetimeRange,
      revision? rt entry = .ok instant)
    {now retryCount : Int} {solvedShifts : List NormalizedShift} {jobId : String}
    {executionToken : Option String}
    (h : persistSolvedSchedule rt deployment now db payload solvedShifts jobId retryCount
      executionToken =
        .error (.nonRetryable "draft shifts changed after the solve job was queued")) :
    ¬ AcceptsSnapshot rt deployment db payload := by
  rw [acceptsSnapshot_iff_expectedSnapshot hkey hcollates hstored hids hparsed]
  intro haccepted
  unfold persistSolvedSchedule at h
  replace h := error_of_ensure_bind (error_of_ensure_bind h (by simp)) (by simp)
  split at h
  · simp at h
  replace h := error_of_ensure_bind (error_of_ensure_bind h (by simp)) (by simp)
  split at h
  · simp at h
  replace h := error_of_ensure_bind (error_of_ensure_bind (error_of_ensure_bind h (by simp))
    (by simp)) (by simp)
  split at h
  · simp at h
  rename_i job _
  rcases bind_eq_error.mp h with h | ⟨_, _, h⟩
  · unfold assertScheduleCreditProvenance at h
    split at h
    · simp at h
    replace h := error_of_ensure_bind h (by simp)
    split at h
    · replace h := error_of_ensure_bind h (by simp)
      cases h
    · replace h := error_of_ensure_bind h (by simp)
      cases h
  split at h
  · cases h
  replace h := error_of_ensure_bind (error_of_ensure_bind (error_of_ensure_bind h (by simp))
    (by simp)) (by simp)
  rw [haccepted] at h
  dsimp only at h
  rw [ensure_of_true _ rfl, ok_bind] at h
  replace h := error_of_ensure_bind h (by simp)
  rcases bind_eq_error.mp h with h | ⟨_, _, h⟩
  · unfold Database.updateJob at h
    replace h := error_of_ensure_bind (error_of_ensure_bind (error_of_ensure_bind h (by simp))
      (by simp)) (by simp)
    cases h
  · cases h

end

/-! ## A collation that ignores case first

Two live shifts that nobody has changed, with the ids `a` and `B`: the database
returns `a` first, Python sorts `B` first.
-/

namespace CaseInsensitive

/-- Small letters first, then code points. -/
def collation (first second : String) : Prop :=
  toLex (first.toLower, first) ≤ toLex (second.toLower, second)

instance : DecidableRel collation := fun _ _ => inferInstanceAs (Decidable (_ ≤ _))

def byId (row next : String × Shift) : Prop := collation row.1 next.1

instance : DecidableRel byId := fun row next => inferInstanceAs (Decidable (collation row.1 next.1))

def deployment : Deployment where
  leaseSeconds := 300
  isControl c := c.toNat < 32
  orderById rows := rows.insertionSort byId

theorem collates : deployment.Collates collation where
  perm rows := List.perm_insertionSort byId rows
  ascending rows := by
    have : Std.Total byId := ⟨fun row next => le_total (α := String ×ₗ String) _ _⟩
    have : IsTrans (String × Shift) byId :=
      ⟨fun _ _ _ h h' => le_trans (α := String ×ₗ String) h h'⟩
    exact List.pairwise_insertionSort byId rows

def runtime : Runtime :=
  { Runtime.reference fun _ => none with isoformatMicroseconds := datetimeIsoformatMicroseconds }

def shift : Shift where
  tenantId := "tenant-1"
  locationId := "location-1"
  scheduleId := some "schedule-1"
  userId := none
  startTime := 1773043200000000
  endTime := 1773072000000000
  role := none
  createdAt := 1772323200000000
  updatedAt := 1772323200000000
  deletedAt := none

def db : Database where
  billing := ⟨[], []⟩
  subscriptions := []
  jobs := []
  schedules := [("schedule-1", ⟨"tenant-1", "location-1", .draft, 3, none, 0⟩)]
  locations := []
  users := []
  shifts := [("a", shift), ("B", shift)]
  breaks := []

def payload : SolvePayload where
  scheduleId := "schedule-1"
  tenantId := "tenant-1"
  locationId := "location-1"
  startDate := "2026-03-09T00:00:00Z"
  endDate := "2026-03-10T00:00:00Z"
  draftRevision := 3
  inputShiftSnapshot := [⟨"a", "2026-03-01T00:00:00Z"⟩, ⟨"B", "2026-03-01T00:00:00Z"⟩]
  staffIds := ["staff-1"]
  constraints := []
  availability := []
  availabilityExceptions := []
  availabilityConfigured := []
  staffSkills := []
  skillRequirements := []
  dailyDemand := .none
  demandWindows := []
  timezone := "UTC"
  existingWeeklyMinutes := []
  existingShifts := []

theorem distinctIds : DistinctIds collation db := by
  intro row hrow other hother
  revert row other
  decide +kernel

theorem stored : ∀ row ∈ liveShifts db payload, row.2.updatedAt ∈ datetimeRange := by
  intro row hrow
  have hall : ∀ row ∈ liveShifts db payload, row.2.updatedAt = 1772323200000000 := by
    decide +kernel
  rw [hall row hrow]
  exact ⟨by decide +kernel, by decide +kernel⟩

theorem parsed : ∀ entry ∈ payload.inputShiftSnapshot, ∃ instant ∈ datetimeRange,
    revision? runtime entry = .ok instant := by
  have hall : ∀ entry ∈ payload.inputShiftSnapshot,
      revision? runtime entry = .ok 1772323200000000 := by
    decide +kernel
  intro entry hentry
  exact ⟨1772323200000000, ⟨by decide +kernel, by decide +kernel⟩, hall entry hentry⟩

/-- The draft is unchanged, and the persist step refuses it. -/
theorem unchanged_draft_refused :
    deployment.Collates collation ∧ DistinctIds collation db ∧
      (payload.inputShiftSnapshot.map DraftShiftSnapshotEntry.id).Nodup ∧
      SameRevisions runtime db payload ∧ ¬ AcceptsSnapshot runtime deployment db payload := by
  refine ⟨collates, distinctIds, by decide +kernel, ?_, by decide +kernel⟩
  have hlive : liveShifts db payload = [("a", shift), ("B", shift)] := by decide +kernel
  have hfirst : revision? runtime ⟨"a", "2026-03-01T00:00:00Z"⟩ = .ok 1772323200000000 := by
    decide +kernel
  have hsecond : revision? runtime ⟨"B", "2026-03-01T00:00:00Z"⟩ = .ok 1772323200000000 := by
    decide +kernel
  intro id instant
  rw [hlive]
  constructor
  · rintro ⟨found, hfound, rfl⟩
    rcases List.mem_pair.mp hfound with h | h
    · cases h
      exact ⟨_, List.mem_cons_self, rfl, hfirst⟩
    · cases h
      exact ⟨_, List.mem_cons_of_mem _ List.mem_cons_self, rfl, hsecond⟩
  · rintro ⟨entry, hentry, rfl, hrevision⟩
    rcases List.mem_pair.mp hentry with rfl | rfl
    · rw [hfirst, Except.ok.injEq] at hrevision
      exact ⟨shift, by simp, hrevision⟩
    · rw [hsecond, Except.ok.injEq] at hrevision
      exact ⟨shift, by simp, hrevision⟩

/-- The exact condition at this draft. -/
theorem exact_at_unchanged_draft :
    (AcceptsSnapshot runtime deployment db payload ↔ SameRevisions runtime db payload) ↔
      (SameRevisions runtime db payload → OrdersByCodePoint collation db payload) :=
  acceptsSnapshot_exact_iff datetimeIsoformatMicroseconds_strictMonoOn.injOn collates distinctIds
    (by decide) stored (by decide +kernel) parsed

end CaseInsensitive

end LunchLineup.Jobs
