import LunchLineup.Lib.Checked
import LunchLineup.Lib.Comparator
import LunchLineup.Pagination.IsoInstant

/-!
# The snapshot of a locked period

`materializeLockedSnapshots` of both services: the sources of a period in the order of
employee, clock-in, type and id, each with its position and the hash of its canonical
JSON, their total, and the hash over all of them.  `Periods` takes the two hashes as
given; here they are the hashes of the texts that the services write.

A source list gives the same snapshot in any order, as no two sources have one type and
id, but for the order in which an entry lists its break intervals: the entry is the
source as it was given.  The text under the aggregate hash tells two source lists apart
wherever no two of the texts under the entry hashes collide.
-/

namespace LunchLineup.Payroll.Snapshots

open LunchLineup.Lib
open LunchLineup.Pagination (ValidTime toISOString_injOn)

/-! ## Canonical JSON -/

/-- What `localeCompare` compares names of ASCII letters by, where they differ in more
than case. -/
def localeKey (name : String) : List Char := name.toList.map Char.toLower

mutual

/-- `canonicalJsonValue`. -/
def canonicalJsonValue : Json → Json
  | .arr elements => .arr (canonicalElements elements)
  | .obj members =>
      .obj ((canonicalMembers members).insertionSort fun a b => localeKey a.1 ≤ localeKey b.1)
  | value => value

def canonicalElements : List Json → List Json
  | [] => []
  | element :: elements => canonicalJsonValue element :: canonicalElements elements

def canonicalMembers : List (String × Json) → List (String × Json)
  | [] => []
  | (name, value) :: members => (name, canonicalJsonValue value) :: canonicalMembers members

end

/-- The text that `canonicalSha256` hashes. -/
def canonicalText (value : Json) : String := String.ofList (canonicalJsonValue value).chars

theorem canonicalJsonValue_of_text {first second : Json}
    (h : canonicalText first = canonicalText second) :
    canonicalJsonValue first = canonicalJsonValue second := by
  apply Json.chars_injective
  have hchars := congrArg String.toList h
  rwa [canonicalText, canonicalText, String.toList_ofList, String.toList_ofList] at hchars

/-! ## Sources -/

/-- A valid `Date`; `requiredDate` takes no other. -/
abbrev Instant := {instant : Int // ValidTime instant}

def Instant.text (instant : Instant) : String := toISOString instant.val

theorem Instant.text_injective : Function.Injective Instant.text := by
  intro first second h
  exact Subtype.ext (toISOString_injOn first.property second.property h)

structure Interval where
  startAt : Instant
  endAt : Instant
  deriving DecidableEq

/-- `LockedEntrySource`. -/
structure Source where
  sourceType : SourceType
  sourceId : String
  sourceRevision : Int
  employeeId : String
  locationId : Option String
  workTimeZone : String
  clockInAt : Instant
  clockOutAt : Instant
  breakMinutes : Int
  payableMinutes : Int
  approvedAt : Instant
  approvedByUserId : String
  breakIntervals : Option (List Interval)
  deriving DecidableEq

/-- The comparison of `materializeLockedSnapshots`, `compareLockedSources` in the first
service. -/
def compareSources (left right : Source) : Int :=
  either (compareByUnits left.employeeId right.employeeId) <|
    either (left.clockInAt.val - right.clockInAt.val) <|
      either (compareByUnits left.sourceType.text right.sourceType.text)
        (compareByUnits left.sourceId right.sourceId)

/-- A break interval with the texts of its ends. -/
structure IntervalText where
  startAt : String
  endAt : String

def Interval.texts (interval : Interval) : IntervalText :=
  ⟨interval.startAt.text, interval.endAt.text⟩

def compareIntervals (left right : IntervalText) : Int :=
  either (compareByUnits left.startAt right.startAt) (compareByUnits left.endAt right.endAt)

def IntervalText.json (interval : IntervalText) : Json :=
  .obj [("startAt", .str interval.startAt), ("endAt", .str interval.endAt)]

/-- The break intervals of `normalized`. -/
def Source.intervalTexts (source : Source) : List IntervalText :=
  sortBy compareIntervals ((source.breakIntervals.getD []).map Interval.texts)

def textOrNull : Option String → Json
  | none => .null
  | some text => .str text

/-- `normalized`, `normalizeSource` in the first service. -/
def Source.normalized (source : Source) : Json :=
  .obj [("sourceType", .str source.sourceType.text), ("sourceId", .str source.sourceId),
    ("sourceRevision", .num source.sourceRevision), ("employeeId", .str source.employeeId),
    ("locationId", textOrNull source.locationId), ("workTimeZone", .str source.workTimeZone),
    ("clockInAt", .str source.clockInAt.text), ("clockOutAt", .str source.clockOutAt.text),
    ("breakMinutes", .num source.breakMinutes), ("payableMinutes", .num source.payableMinutes),
    ("approvedAt", .str source.approvedAt.text),
    ("approvedByUserId", .str source.approvedByUserId),
    ("breakIntervals", .arr (source.intervalTexts.map IntervalText.json))]

/-- What the hash of an entry is taken of. -/
def Source.entryValue (source : Source) (tenantId periodId : String) : Json :=
  .obj [("body", source.normalized), ("operation", .str "LOCK_ENTRY"), ("periodId", .str periodId),
    ("tenantId", .str tenantId)]

/-- What the aggregate hash is taken of. -/
def aggregateValue (tenantId periodId : String) (entryHashes : List String)
    (totalPayableMinutes : Int) : Json :=
  .obj [("body", .obj [("count", .num (entryHashes.length : Int)),
      ("entryHashes", .arr (entryHashes.map Json.str)),
      ("totalPayableMinutes", .num totalPayableMinutes)]),
    ("operation", .str "LOCK_AGGREGATE"), ("periodId", .str periodId), ("tenantId", .str tenantId)]

/-! ## The snapshot -/

/-- An entry: the source as it was given, its position and its hash. -/
structure Entry where
  source : Source
  sequence : Nat
  canonicalSha256 : Sha256

structure Snapshot where
  entries : List Entry
  aggregateSha256 : Sha256
  totalPayableMinutes : Int

variable (sha256 : String → Sha256)

/-- `canonicalSha256`. -/
def canonicalSha256 (value : Json) : Sha256 := sha256 (canonicalText value)

/-- `payrollLockAggregateSha256` with the errors of a service. -/
def lockAggregate (totalInvalid hashInvalid : String) (tenantId periodId : String)
    (entryHashes : List String) (totalPayableMinutes : Int) : Except String Sha256 := do
  ensure (IsSafeInteger totalPayableMinutes) totalInvalid
  ensure (entryHashes.all isSha256 = true) hashInvalid
  .ok (canonicalSha256 sha256 (aggregateValue tenantId periodId entryHashes totalPayableMinutes))

/-- The entries in their order. -/
def lockedEntries (tenantId periodId : String) (sources : List Source) : List Entry :=
  (sortBy compareSources sources).zipIdx.map fun source =>
    ⟨source.1, source.2, canonicalSha256 sha256 (source.1.entryValue tenantId periodId)⟩

/-- The running total; `safeAdd` in the first service. -/
def addPayable (total : Int) : List Entry → Except String Int
  | [] => .ok total
  | entry :: entries => do
      ensure (IsSafeInteger (total + entry.source.payableMinutes)) "Payroll payable total is invalid."
      addPayable (total + entry.source.payableMinutes) entries

/-- `materializeLockedSnapshots` with the aggregate hash of a service. -/
def materialize
    (aggregate : String → String → List String → Int → Except String Sha256)
    (tenantId periodId : String) (sources : List Source) : Except String Snapshot := do
  let entries := lockedEntries sha256 tenantId periodId sources
  let totalPayableMinutes ← addPayable 0 entries
  let aggregateSha256 ← aggregate tenantId periodId
    (entries.map fun entry => entry.canonicalSha256.val) totalPayableMinutes
  .ok ⟨entries, aggregateSha256, totalPayableMinutes⟩

/-- `materializeLockedSnapshots` of the second service. -/
def materializeLockedSnapshots (tenantId periodId : String) (sources : List Source) :
    Except String Snapshot :=
  materialize sha256 (lockAggregate sha256 "Payroll entry evidence is invalid."
    "Payroll entry evidence is invalid.") tenantId periodId sources

/-- `materializeLockedSnapshots` of the first service. -/
def materializeLockedSnapshotsV1 (tenantId periodId : String) (sources : List Source) :
    Except String Snapshot :=
  materialize sha256 (lockAggregate sha256 "Payroll payable total is invalid."
    "Payroll entry hash is invalid.") tenantId periodId sources

/-! ## Break intervals -/

theorem Interval.texts_injective : Function.Injective Interval.texts := by
  rintro ⟨startAt, endAt⟩ ⟨startAt', endAt'⟩ h
  obtain ⟨hstart, hend⟩ := IntervalText.mk.inj h
  obtain rfl : startAt = startAt' := Instant.text_injective hstart
  obtain rfl : endAt = endAt' := Instant.text_injective hend
  rfl

/-- What the intervals compare by. -/
def IntervalText.key (interval : IntervalText) : List Nat ×ₗ List Nat :=
  toLex (codeUnits interval.startAt, codeUnits interval.endAt)

theorem compares_intervals (left right : IntervalText) :
    Compares (compareIntervals left right) left.key right.key :=
  (compares_units left.startAt right.startAt).either (compares_units left.endAt right.endAt)

theorem IntervalText.key_injective : Function.Injective IntervalText.key := by
  rintro ⟨startAt, endAt⟩ ⟨startAt', endAt'⟩ h
  obtain ⟨hstart, hend⟩ := Prod.mk.inj (toLex_inj.mp h)
  obtain rfl : startAt = startAt' := codeUnits_injective hstart
  obtain rfl : endAt = endAt' := codeUnits_injective hend
  rfl

/-- The sorted texts are those of the same intervals in any order. -/
theorem intervalTexts_eq_iff {source other : Source} :
    source.intervalTexts = other.intervalTexts ↔
      (source.breakIntervals.getD []).Perm (other.breakIntervals.getD []) := by
  constructor
  · intro h
    have hperm : ((source.breakIntervals.getD []).map Interval.texts).Perm source.intervalTexts :=
      sortBy_perm.symm
    have htexts : ((source.breakIntervals.getD []).map Interval.texts).Perm
        ((other.breakIntervals.getD []).map Interval.texts) := by
      refine hperm.trans ?_
      rw [h]
      exact sortBy_perm
    exact (List.map_perm_map_iff Interval.texts_injective).mp htexts
  · intro h
    exact sortBy_congr compares_intervals (h.map Interval.texts)
      fun a _ b _ hkey => IntervalText.key_injective hkey

/-- The two sources differ at most in the order of their break intervals. -/
def Source.SameButBreakOrder (source other : Source) : Prop :=
  { source with breakIntervals := none } = { other with breakIntervals := none } ∧
    (source.breakIntervals.getD []).Perm (other.breakIntervals.getD [])

/-! ## The canonical values -/

theorem canonicalElements_eq_map (elements : List Json) :
    canonicalElements elements = elements.map canonicalJsonValue := by
  induction elements with
  | nil => rfl
  | cons element elements ih => rw [canonicalElements, ih, List.map_cons]

theorem canonicalMembers_eq_map (members : List (String × Json)) :
    canonicalMembers members = members.map fun member => (member.1, canonicalJsonValue member.2) := by
  induction members with
  | nil => rfl
  | cons member members ih => rw [canonicalMembers, ih, List.map_cons]

/-- Two lists of members with the same names in the same order, taken from members that their
names tell apart, are one list. -/
theorem eq_of_names {all first second : List (String × Json)} (hnodup : (all.map Prod.fst).Nodup)
    (hnames : first.map Prod.fst = second.map Prod.fst) (hfirst : ∀ member ∈ first, member ∈ all)
    (hsecond : ∀ member ∈ second, member ∈ all) : first = second := by
  induction first generalizing second with
  | nil => exact (List.map_eq_nil_iff.mp hnames.symm).symm
  | cons member first ih =>
      cases second with
      | nil => simp at hnames
      | cons other second =>
          rw [List.map_cons, List.map_cons, List.cons.injEq] at hnames
          have hmember : member = other :=
            List.inj_on_of_nodup_map hnodup (hfirst member List.mem_cons_self)
              (hsecond other List.mem_cons_self) hnames.1
          rw [hmember, ih hnames.2 (fun m hm => hfirst m (List.mem_cons_of_mem _ hm))
            fun m hm => hsecond m (List.mem_cons_of_mem _ hm)]

/-- Sorting the members of two objects with the same names loses nothing. -/
theorem canonicalMembers_of_obj {first second : List (String × Json)}
    (h : canonicalJsonValue (.obj first) = canonicalJsonValue (.obj second))
    (hnames : first.map Prod.fst = second.map Prod.fst) (hnodup : (first.map Prod.fst).Nodup) :
    canonicalMembers first = canonicalMembers second := by
  have hkept : ∀ members, (canonicalMembers members).map Prod.fst = members.map Prod.fst := by
    intro members
    rw [canonicalMembers_eq_map, List.map_map]
    rfl
  have hsorted := Json.obj.inj h
  have hperm := (List.perm_insertionSort
    (fun a b : String × Json => localeKey a.1 ≤ localeKey b.1) (canonicalMembers first)).symm
  rw [hsorted] at hperm
  have hsecond : (canonicalMembers first).Perm (canonicalMembers second) :=
    hperm.trans (List.perm_insertionSort _ _)
  refine eq_of_names ?_ ?_ (fun _ (hm : _ ∈ canonicalMembers first) => hm)
    fun _ hm => hsecond.symm.subset hm
  · rw [hkept]
    exact hnodup
  · rw [hkept, hkept, hnames]

theorem textOrNull_of_canonical {first second : Option String}
    (h : canonicalJsonValue (textOrNull first) = canonicalJsonValue (textOrNull second)) :
    first = second := by
  cases first with
  | none =>
      cases second with
      | none => rfl
      | some text => exact absurd h (by simp [textOrNull, canonicalJsonValue])
  | some text =>
      cases second with
      | none => exact absurd h (by simp [textOrNull, canonicalJsonValue])
      | some other => rw [Json.str.inj h]

/-- The intervals are found again from the canonical value. -/
theorem intervals_of_canonical {first second : List IntervalText}
    (h : canonicalElements (first.map IntervalText.json) =
      canonicalElements (second.map IntervalText.json)) : first = second := by
  rw [canonicalElements_eq_map, canonicalElements_eq_map, List.map_map, List.map_map] at h
  refine List.map_injective_iff.mpr ?_ h
  rintro ⟨startAt, endAt⟩ ⟨startAt', endAt'⟩ hvalue
  have hobjects : canonicalJsonValue (.obj [("startAt", .str startAt), ("endAt", .str endAt)]) =
      canonicalJsonValue (.obj [("startAt", .str startAt'), ("endAt", .str endAt')]) := hvalue
  have hmembers := canonicalMembers_of_obj hobjects (by simp) (by simp)
  simp only [canonicalMembers, canonicalJsonValue, List.cons.injEq, Prod.mk.injEq, Json.str.injEq,
    and_true, true_and] at hmembers
  rw [hmembers.1, hmembers.2]

theorem SourceType.text_injective : Function.Injective SourceType.text := by
  intro first second h
  cases first <;> cases second <;> first | rfl | exact absurd h (by decide)

/-- The hashed fields of a source are found again from the canonical value. -/
theorem sameButBreakOrder_of_canonical {source other : Source}
    (h : canonicalJsonValue source.normalized = canonicalJsonValue other.normalized) :
    source.SameButBreakOrder other := by
  unfold Source.normalized at h
  have hmembers := canonicalMembers_of_obj h (by simp) (by simp)
  simp only [canonicalMembers, canonicalJsonValue, List.cons.injEq, Prod.mk.injEq, Json.str.injEq,
    Json.num.injEq, Json.arr.injEq, Numeral.mk.injEq, and_true, true_and] at hmembers
  obtain ⟨htype, hid, hrevision, hemployee, hlocation, hzone, hclockIn, hclockOut, hbreak, hpayable,
    happroved, happrovedBy, hintervals⟩ := hmembers
  refine ⟨?_, intervalTexts_eq_iff.mp (intervals_of_canonical hintervals)⟩
  rw [Source.mk.injEq]
  exact ⟨SourceType.text_injective htype, hid, hrevision, hemployee,
    textOrNull_of_canonical hlocation, hzone, Instant.text_injective hclockIn,
    Instant.text_injective hclockOut, hbreak, hpayable, Instant.text_injective happroved,
    happrovedBy, rfl⟩

/-- The order of the break intervals is not hashed. -/
theorem Source.SameButBreakOrder.normalized_eq {source other : Source}
    (h : source.SameButBreakOrder other) : source.normalized = other.normalized := by
  obtain ⟨hfields, hintervals⟩ := h
  unfold Source.normalized
  rw [intervalTexts_eq_iff.mpr hintervals]
  simp only [Source.mk.injEq, and_true] at hfields
  obtain ⟨htype, hid, hrevision, hemployee, hlocation, hzone, hclockIn, hclockOut, hbreak, hpayable,
    happroved, happrovedBy⟩ := hfields
  rw [htype, hid, hrevision, hemployee, hlocation, hzone, hclockIn, hclockOut, hbreak, hpayable,
    happroved, happrovedBy]

/-- The text of an entry tells its source, the period and the tenant. -/
theorem sameButBreakOrder_of_entryText {source other : Source}
    {tenantId periodId tenantId' periodId' : String}
    (h : canonicalText (source.entryValue tenantId periodId) =
      canonicalText (other.entryValue tenantId' periodId')) :
    source.SameButBreakOrder other := by
  have hvalue := canonicalJsonValue_of_text h
  unfold Source.entryValue at hvalue
  have hmembers := canonicalMembers_of_obj hvalue (by simp) (by simp)
  simp only [canonicalMembers, List.cons.injEq, Prod.mk.injEq, true_and] at hmembers
  exact sameButBreakOrder_of_canonical hmembers.1

theorem canonicalElements_str (texts : List String) :
    canonicalElements (texts.map Json.str) = texts.map Json.str := by
  rw [canonicalElements_eq_map, List.map_map]
  rfl

/-- The text under the aggregate hash tells the tenant, the period and the entry hashes. -/
theorem eq_of_aggregateText {tenantId periodId tenantId' periodId' : String}
    {hashes hashes' : List String} {total total' : Int}
    (h : canonicalText (aggregateValue tenantId periodId hashes total) =
      canonicalText (aggregateValue tenantId' periodId' hashes' total')) :
    tenantId = tenantId' ∧ periodId = periodId' ∧ hashes = hashes' ∧ total = total' := by
  have hvalue := canonicalJsonValue_of_text h
  unfold aggregateValue at hvalue
  have hmembers := canonicalMembers_of_obj hvalue (by simp) (by simp)
  rw [canonicalMembers_eq_map, canonicalMembers_eq_map] at hmembers
  simp only [List.map_cons, List.map_nil, List.cons.injEq, Prod.mk.injEq, true_and, and_true]
    at hmembers
  obtain ⟨hbody, hperiod, htenant⟩ := hmembers
  have hcontent := canonicalMembers_of_obj hbody (by simp) (by simp)
  simp only [canonicalMembers, canonicalJsonValue, canonicalElements_str, List.cons.injEq,
    Prod.mk.injEq, Json.arr.injEq, Json.num.injEq, Numeral.mk.injEq, true_and, and_true] at hcontent
  refine ⟨?_, ?_, ?_, hcontent.2.2⟩
  · simpa [canonicalJsonValue] using htenant
  · simpa [canonicalJsonValue] using hperiod
  · exact List.map_injective_iff.mpr (fun _ _ heq => Json.str.inj heq) hcontent.2.1

/-! ## The order of the sources -/

/-- What the sources compare by. -/
def Source.key (source : Source) : List Nat ×ₗ Int ×ₗ List Nat ×ₗ List Nat :=
  toLex (codeUnits source.employeeId, toLex (source.clockInAt.val,
    toLex (codeUnits source.sourceType.text, codeUnits source.sourceId)))

theorem compares_sources (left right : Source) :
    Compares (compareSources left right) left.key right.key :=
  (compares_units left.employeeId right.employeeId).either
    ((compares_sub left.clockInAt.val right.clockInAt.val).either
      ((compares_units left.sourceType.text right.sourceType.text).either
        (compares_units left.sourceId right.sourceId)))

/-- No two sources have one type and one id. -/
def DistinctSources (sources : List Source) : Prop :=
  (sources.map fun source => (source.sourceType, source.sourceId)).Nodup

theorem DistinctSources.eq_of_key {sources : List Source} (h : DistinctSources sources) :
    ∀ a ∈ sources, ∀ b ∈ sources, a.key = b.key → a = b := by
  intro a ha b hb hkey
  obtain ⟨-, hrest⟩ := Prod.mk.inj (toLex_inj.mp hkey)
  obtain ⟨-, hnames⟩ := Prod.mk.inj (toLex_inj.mp hrest)
  obtain ⟨htype, hid⟩ := Prod.mk.inj (toLex_inj.mp hnames)
  exact List.inj_on_of_nodup_map h ha hb (Prod.ext
    (SourceType.text_injective (codeUnits_injective htype)) (codeUnits_injective hid))

/-- The second list has the sources of the first one in some order, each with its break
intervals in some order. -/
def Rearranged (sources other : List Source) : Prop :=
  ∃ middle, sources.Perm middle ∧ List.Forall₂ Source.SameButBreakOrder middle other

/-- The fields of a source and its break intervals in their own order. -/
def Source.evidence (source : Source) : Source × List IntervalText :=
  ({ source with breakIntervals := none }, source.intervalTexts)

theorem evidence_eq_iff {source other : Source} :
    source.evidence = other.evidence ↔ source.SameButBreakOrder other := by
  rw [Source.evidence, Source.evidence, Prod.mk.injEq, intervalTexts_eq_iff]
  exact Iff.rfl

theorem forall₂_iff_evidence {sources other : List Source} :
    List.Forall₂ Source.SameButBreakOrder sources other ↔
      sources.map Source.evidence = other.map Source.evidence := by
  rw [← List.forall₂_eq_eq_eq, List.forall₂_map_left_iff, List.forall₂_map_right_iff]
  constructor
  · exact List.Forall₂.imp fun _ _ => evidence_eq_iff.mpr
  · exact List.Forall₂.imp fun _ _ => evidence_eq_iff.mp

/-- The sources of a rearranged list are sorted alike. -/
theorem Rearranged.sorted {sources other : List Source} (h : Rearranged sources other)
    (hdistinct : DistinctSources sources) :
    List.Forall₂ Source.SameButBreakOrder (sortBy compareSources sources)
      (sortBy compareSources other) := by
  obtain ⟨middle, hperm, hsame⟩ := h
  -- the comparison reads nothing of the break intervals
  have hsorted : ∀ rows : List Source, (sortBy compareSources rows).map Source.evidence =
      sortBy (fun a b => compareSources a.1 b.1) (rows.map Source.evidence) :=
    fun rows => map_sortBy fun _ _ => rfl
  rw [sortBy_congr compares_sources hperm hdistinct.eq_of_key, forall₂_iff_evidence, hsorted,
    hsorted, forall₂_iff_evidence.mp hsame]

/-- Lists that are sorted alike are rearranged. -/
theorem rearranged_of_sorted {sources other : List Source}
    (h : List.Forall₂ Source.SameButBreakOrder (sortBy compareSources sources)
      (sortBy compareSources other)) : Rearranged sources other := by
  have hcomp : Relation.Comp (List.Forall₂ Source.SameButBreakOrder) List.Perm
      (sortBy compareSources sources) other := ⟨_, h, sortBy_perm⟩
  rw [List.forall₂_comp_perm_eq_perm_comp_forall₂] at hcomp
  obtain ⟨middle, hperm, hsame⟩ := hcomp
  exact ⟨middle, sortBy_perm.symm.trans hperm, hsame⟩

/-! ## Entries -/

/-- The two entries have one position and one hash, and their sources differ at most in the
order of the break intervals. -/
def Entry.SameButBreakOrder (entry other : Entry) : Prop :=
  entry.source.SameButBreakOrder other.source ∧ entry.sequence = other.sequence ∧
    entry.canonicalSha256 = other.canonicalSha256

/-- A relation between two lists holds where it follows from another one between members. -/
theorem forall₂_of_mem {R S : Source → Source → Prop} {sources other : List Source}
    (h : List.Forall₂ R sources other)
    (himp : ∀ first ∈ sources, ∀ second ∈ other, R first second → S first second) :
    List.Forall₂ S sources other := by
  induction h with
  | nil => exact .nil
  | cons hhead _ ih =>
      refine .cons (himp _ List.mem_cons_self _ List.mem_cons_self hhead) (ih ?_)
      intro first hfirst second hsecond
      exact himp first (List.mem_cons_of_mem _ hfirst) second (List.mem_cons_of_mem _ hsecond)

theorem forall₂_zipIdx {R : Source → Source → Prop} {sources other : List Source}
    (h : List.Forall₂ R sources other) (n : Nat) :
    List.Forall₂ (fun first second => R first.1 second.1 ∧ first.2 = second.2) (sources.zipIdx n)
      (other.zipIdx n) := by
  induction h generalizing n with
  | nil => exact .nil
  | cons hhead _ ih => exact .cons ⟨hhead, rfl⟩ (ih (n + 1))

variable {sha256 : String → Sha256} {tenantId periodId : String}

theorem lockedEntries_same (sha256 : String → Sha256) (tenantId periodId : String)
    {sources other : List Source}
    (h : List.Forall₂ Source.SameButBreakOrder (sortBy compareSources sources)
      (sortBy compareSources other)) :
    List.Forall₂ Entry.SameButBreakOrder (lockedEntries sha256 tenantId periodId sources)
      (lockedEntries sha256 tenantId periodId other) := by
  unfold lockedEntries
  rw [List.forall₂_map_left_iff, List.forall₂_map_right_iff]
  refine (forall₂_zipIdx h 0).imp ?_
  rintro ⟨source, n⟩ ⟨source', n'⟩ ⟨hsame, rfl⟩
  refine ⟨hsame, rfl, ?_⟩
  dsimp only
  unfold Source.entryValue
  rw [hsame.normalized_eq]

theorem map_source_lockedEntries (sha256 : String → Sha256) (tenantId periodId : String)
    (sources : List Source) :
    (lockedEntries sha256 tenantId periodId sources).map Entry.source =
      sortBy compareSources sources := by
  rw [lockedEntries, List.map_map]
  exact List.zipIdx_map_fst 0 _

theorem map_sequence_lockedEntries (sources : List Source) :
    (lockedEntries sha256 tenantId periodId sources).map Entry.sequence =
      List.range sources.length := by
  have hlength : (sortBy compareSources sources).length = sources.length := sortBy_perm.length_eq
  rw [lockedEntries, List.map_map, ← hlength]
  exact List.zipIdx_map_snd 0 _ |>.trans (List.range_eq_range' ..).symm

/-- The total of entries that differ at most in the order of break intervals. -/
theorem addPayable_same {entries other : List Entry}
    (h : List.Forall₂ Entry.SameButBreakOrder entries other) (total : Int) :
    addPayable total entries = addPayable total other := by
  induction h generalizing total with
  | nil => rfl
  | cons hhead _ ih =>
      have hpayable := congrArg Source.payableMinutes hhead.1.1
      dsimp only at hpayable
      rw [addPayable, addPayable, hpayable]
      simp only [ih]

theorem map_hash_same {entries other : List Entry}
    (h : List.Forall₂ Entry.SameButBreakOrder entries other) :
    entries.map Entry.canonicalSha256 = other.map Entry.canonicalSha256 := by
  rw [← List.forall₂_eq_eq_eq, List.forall₂_map_left_iff, List.forall₂_map_right_iff]
  exact h.imp fun _ _ hsame => hsame.2.2

/-- The running total is the sum. -/
theorem addPayable_eq {entries : List Entry} {total result : Int}
    (h : addPayable total entries = .ok result) :
    result = total + (entries.map fun entry => entry.source.payableMinutes).sum := by
  induction entries generalizing total with
  | nil =>
      obtain rfl := Except.ok.inj h
      simp
  | cons entry entries ih =>
      rw [addPayable] at h
      obtain ⟨_, -, hrest⟩ := bind_eq_ok.mp h
      rw [ih hrest, List.map_cons, List.sum_cons]
      ring

/-! ## Snapshots -/

/-- The two snapshots differ at most in the order in which entries list their break
intervals. -/
structure Snapshot.SameButBreakOrder (snapshot other : Snapshot) : Prop where
  entries : List.Forall₂ Entry.SameButBreakOrder snapshot.entries other.entries
  aggregateSha256 : snapshot.aggregateSha256 = other.aggregateSha256
  totalPayableMinutes : snapshot.totalPayableMinutes = other.totalPayableMinutes

/-- Both calls give such snapshots, or both fail with one error. -/
def Agree (first second : Except String Snapshot) : Prop :=
  (∃ snapshot other, first = .ok snapshot ∧ second = .ok other ∧ snapshot.SameButBreakOrder other) ∨
    ∃ message, first = .error message ∧ second = .error message

variable {aggregate : String → String → List String → Int → Except String Sha256}

/-- Rearranging the sources changes nothing but the order of break intervals. -/
theorem materialize_rearranged {sources other : List Source} (hdistinct : DistinctSources sources)
    (h : Rearranged sources other) :
    Agree (materialize sha256 aggregate tenantId periodId sources)
      (materialize sha256 aggregate tenantId periodId other) := by
  have hentries := lockedEntries_same sha256 tenantId periodId (h.sorted hdistinct)
  have hhashes : (lockedEntries sha256 tenantId periodId sources).map
      (fun entry => entry.canonicalSha256.val) =
        (lockedEntries sha256 tenantId periodId other).map fun entry => entry.canonicalSha256.val := by
    have := congrArg (List.map Subtype.val) (map_hash_same hentries)
    rwa [List.map_map, List.map_map] at this
  unfold materialize
  dsimp only
  rw [addPayable_same hentries, hhashes]
  cases htotal : addPayable 0 (lockedEntries sha256 tenantId periodId other) with
  | error message => exact Or.inr ⟨message, rfl, rfl⟩
  | ok total =>
      rw [ok_bind, ok_bind]
      cases haggregate : aggregate tenantId periodId ((lockedEntries sha256 tenantId periodId
          other).map fun entry => entry.canonicalSha256.val) total with
      | error message => exact Or.inr ⟨message, rfl, rfl⟩
      | ok hash => exact Or.inl ⟨_, _, rfl, rfl, hentries, rfl, rfl⟩

theorem materialize_ok {sources : List Source} {snapshot : Snapshot}
    (h : materialize sha256 aggregate tenantId periodId sources = .ok snapshot) :
    snapshot.entries = lockedEntries sha256 tenantId periodId sources ∧
      snapshot.totalPayableMinutes =
        (snapshot.entries.map fun entry => entry.source.payableMinutes).sum := by
  unfold materialize at h
  obtain ⟨total, htotal, hrest⟩ := bind_eq_ok.mp h
  obtain ⟨hash, -, hsnapshot⟩ := bind_eq_ok.mp hrest
  obtain rfl := Except.ok.inj hsnapshot
  refine ⟨rfl, ?_⟩
  have hsum := addPayable_eq htotal
  rwa [zero_add] at hsum

/-- The total of a snapshot is the sum over its sources. -/
theorem totalPayableMinutes_eq {sources : List Source} {snapshot : Snapshot}
    (h : materialize sha256 aggregate tenantId periodId sources = .ok snapshot) :
    snapshot.totalPayableMinutes = (sources.map Source.payableMinutes).sum := by
  obtain ⟨hentries, htotal⟩ := materialize_ok h
  have hsources : snapshot.entries.map (fun entry => entry.source.payableMinutes) =
      (sortBy compareSources sources).map Source.payableMinutes := by
    rw [hentries, ← map_source_lockedEntries sha256 tenantId periodId, List.map_map]
    rfl
  rw [htotal, hsources]
  exact (sortBy_perm.map Source.payableMinutes).sum_eq

/-- A hash whose result passes the checks does not reach the errors of its service. -/
theorem lockAggregate_eq {totalInvalid hashInvalid : String} {hashes : List Sha256} {total : Int}
    (h : IsSafeInteger total) :
    lockAggregate sha256 totalInvalid hashInvalid tenantId periodId (hashes.map Subtype.val) total =
      .ok (canonicalSha256 sha256
        (aggregateValue tenantId periodId (hashes.map Subtype.val) total)) := by
  have hhashes : (hashes.map Subtype.val).all isSha256 = true := by
    rw [List.all_map, List.all_eq_true]
    exact fun hash _ => hash.property
  rw [lockAggregate, ensure_of_true _ h, ok_bind, ensure_of_true _ hhashes, ok_bind]

theorem isSafeInteger_of_addPayable {entries : List Entry} {total result : Int}
    (htotal : IsSafeInteger total) (h : addPayable total entries = .ok result) :
    IsSafeInteger result := by
  induction entries generalizing total with
  | nil =>
      obtain rfl := Except.ok.inj h
      exact htotal
  | cons entry entries ih =>
      rw [addPayable] at h
      obtain ⟨_, hnext, hrest⟩ := bind_eq_ok.mp h
      exact ih (ensure_eq_ok.mp hnext) hrest

/-- The two services give one snapshot. -/
theorem materializeLockedSnapshotsV1_eq (sources : List Source) :
    materializeLockedSnapshotsV1 sha256 tenantId periodId sources =
      materializeLockedSnapshots sha256 tenantId periodId sources := by
  unfold materializeLockedSnapshotsV1 materializeLockedSnapshots materialize
  dsimp only
  cases htotal : addPayable 0 (lockedEntries sha256 tenantId periodId sources) with
  | error message => rfl
  | ok total =>
      have hsafe := isSafeInteger_of_addPayable (by decide) htotal
      have hmap : ((lockedEntries sha256 tenantId periodId sources).map
          fun entry => entry.canonicalSha256.val) =
            ((lockedEntries sha256 tenantId periodId sources).map
              Entry.canonicalSha256).map Subtype.val := by
        rw [List.map_map]
        rfl
      rw [ok_bind, ok_bind, hmap, lockAggregate_eq hsafe, lockAggregate_eq hsafe]

/-- The hash tells the texts under the entry hashes of the two lists apart. -/
def NoCollision (sha256 : String → Sha256) (tenantId periodId tenantId' periodId' : String)
    (sources other : List Source) : Prop :=
  ∀ first ∈ sources, ∀ second ∈ other,
    canonicalSha256 sha256 (first.entryValue tenantId periodId) =
      canonicalSha256 sha256 (second.entryValue tenantId' periodId') →
    canonicalText (first.entryValue tenantId periodId) =
      canonicalText (second.entryValue tenantId' periodId')

/-- The text under the aggregate hash tells the sources. -/
theorem rearranged_of_aggregateText {sources other : List Source}
    {tenantId' periodId' : String} {total total' : Int}
    (hcollision : NoCollision sha256 tenantId periodId tenantId' periodId' sources other)
    (h : canonicalText (aggregateValue tenantId periodId
        ((lockedEntries sha256 tenantId periodId sources).map fun e => e.canonicalSha256.val) total) =
      canonicalText (aggregateValue tenantId' periodId'
        ((lockedEntries sha256 tenantId' periodId' other).map fun e => e.canonicalSha256.val)
          total')) :
    tenantId = tenantId' ∧ periodId = periodId' ∧ Rearranged sources other := by
  obtain ⟨htenant, hperiod, hhashes, -⟩ := eq_of_aggregateText h
  refine ⟨htenant, hperiod, rearranged_of_sorted ?_⟩
  have hsorted : ∀ tenantId periodId (rows : List Source),
      (lockedEntries sha256 tenantId periodId rows).map (fun e => e.canonicalSha256.val) =
        (sortBy compareSources rows).map fun source =>
          (canonicalSha256 sha256 (source.entryValue tenantId periodId)).val := by
    intro tenantId periodId rows
    rw [← map_source_lockedEntries sha256 tenantId periodId, lockedEntries, List.map_map,
      List.map_map, List.map_map]
    rfl
  rw [hsorted, hsorted, ← List.forall₂_eq_eq_eq, List.forall₂_map_left_iff,
    List.forall₂_map_right_iff] at hhashes
  refine forall₂_of_mem hhashes fun first hfirst second hsecond hhash => ?_
  exact sameButBreakOrder_of_entryText (hcollision first (sortBy_perm.subset hfirst) second
    (sortBy_perm.subset hsecond) (Subtype.ext hhash))

/-- The aggregate hash is that of its text. -/
theorem aggregateSha256_eq {sources : List Source} {snapshot : Snapshot}
    (h : materializeLockedSnapshots sha256 tenantId periodId sources = .ok snapshot) :
    snapshot.aggregateSha256 = canonicalSha256 sha256 (aggregateValue tenantId periodId
      (snapshot.entries.map fun entry => entry.canonicalSha256.val)
        snapshot.totalPayableMinutes) := by
  unfold materializeLockedSnapshots materialize at h
  obtain ⟨total, -, hrest⟩ := bind_eq_ok.mp h
  obtain ⟨hash, hhash, hsnapshot⟩ := bind_eq_ok.mp hrest
  obtain rfl := Except.ok.inj hsnapshot
  unfold lockAggregate at hhash
  obtain ⟨_, -, hrest⟩ := bind_eq_ok.mp hhash
  obtain ⟨_, -, hvalue⟩ := bind_eq_ok.mp hrest
  exact (Except.ok.inj hvalue).symm

/-- The snapshot of a period is the same for the sources in any order and the break intervals of
each source in any order, up to the order in which an entry lists its own break intervals.  The
entries are the sources at the positions from zero on, the total is the sum over the sources,
and the aggregate hash is taken of a text that is another one for other sources, another period
or another tenant, if no texts of entries collide.  Both services give one snapshot. -/
theorem locked_snapshots_canonical (sha256 : String → Sha256) (tenantId periodId : String)
    (sources : List Source) (hdistinct : DistinctSources sources) :
    (∀ other, Rearranged sources other →
      Agree (materializeLockedSnapshots sha256 tenantId periodId sources)
        (materializeLockedSnapshots sha256 tenantId periodId other)) ∧
    (∀ snapshot, materializeLockedSnapshots sha256 tenantId periodId sources = .ok snapshot →
      snapshot.entries.map Entry.sequence = List.range sources.length ∧
      (snapshot.entries.map Entry.source).Perm sources ∧
      snapshot.totalPayableMinutes = (sources.map Source.payableMinutes).sum ∧
      snapshot.aggregateSha256 = canonicalSha256 sha256 (aggregateValue tenantId periodId
        (snapshot.entries.map fun entry => entry.canonicalSha256.val)
          snapshot.totalPayableMinutes)) ∧
    (∀ tenantId' periodId' other snapshot snapshot',
      NoCollision sha256 tenantId periodId tenantId' periodId' sources other →
      materializeLockedSnapshots sha256 tenantId periodId sources = .ok snapshot →
      materializeLockedSnapshots sha256 tenantId' periodId' other = .ok snapshot' →
      tenantId ≠ tenantId' ∨ periodId ≠ periodId' ∨ ¬Rearranged sources other →
      canonicalText (aggregateValue tenantId periodId
          (snapshot.entries.map fun entry => entry.canonicalSha256.val)
            snapshot.totalPayableMinutes) ≠
        canonicalText (aggregateValue tenantId' periodId'
          (snapshot'.entries.map fun entry => entry.canonicalSha256.val)
            snapshot'.totalPayableMinutes)) ∧
    materializeLockedSnapshotsV1 sha256 tenantId periodId sources =
      materializeLockedSnapshots sha256 tenantId periodId sources := by
  refine ⟨?_, ?_, ?_, materializeLockedSnapshotsV1_eq sources⟩
  · intro other h
    exact materialize_rearranged hdistinct h
  · intro snapshot h
    obtain ⟨hentries, -⟩ := materialize_ok h
    refine ⟨?_, ?_, totalPayableMinutes_eq h, aggregateSha256_eq h⟩
    · rw [hentries, map_sequence_lockedEntries]
    · rw [hentries, map_source_lockedEntries]
      exact sortBy_perm
  · intro tenantId' periodId' other snapshot snapshot' hcollision h h' hdiffer htext
    rw [(materialize_ok h).1, (materialize_ok h').1] at htext
    obtain ⟨htenant, hperiod, hsame⟩ := rearranged_of_aggregateText hcollision htext
    rcases hdiffer with hdiffer | hdiffer | hdiffer
    · exact hdiffer htenant
    · exact hdiffer hperiod
    · exact hdiffer hsame

/-- The snapshot of one source. -/
theorem materialize_singleton (sha256 : String → Sha256) (tenantId periodId : String)
    {source : Source} (h : IsSafeInteger source.payableMinutes) :
    materializeLockedSnapshots sha256 tenantId periodId [source] =
      .ok ⟨[⟨source, 0, canonicalSha256 sha256 (source.entryValue tenantId periodId)⟩],
        canonicalSha256 sha256 (aggregateValue tenantId periodId
          [(canonicalSha256 sha256 (source.entryValue tenantId periodId)).val]
          source.payableMinutes), source.payableMinutes⟩ := by
  have hsorted : sortBy compareSources [source] = [source] := by simp [sortBy]
  have hentries : lockedEntries sha256 tenantId periodId [source] =
      [⟨source, 0, canonicalSha256 sha256 (source.entryValue tenantId periodId)⟩] := by
    unfold lockedEntries
    rw [hsorted]
    rfl
  have htotal : addPayable 0 [⟨source, 0, canonicalSha256 sha256
      (source.entryValue tenantId periodId)⟩] = .ok source.payableMinutes := by
    rw [addPayable]
    dsimp only
    rw [zero_add, ensure_of_true _ h, ok_bind, addPayable]
  have haggregate : lockAggregate sha256 "Payroll entry evidence is invalid."
      "Payroll entry evidence is invalid." tenantId periodId
        ([canonicalSha256 sha256 (source.entryValue tenantId periodId)].map Subtype.val)
          source.payableMinutes = _ := lockAggregate_eq h
  unfold materializeLockedSnapshots materialize
  rw [hentries]
  dsimp only
  rw [htotal, ok_bind]
  exact congrArg (· >>= fun hash => Except.ok (Snapshot.mk _ hash source.payableMinutes)) haggregate

namespace TwoBreaks

def hour (n : Nat) (h : n < 1000) : Instant :=
  ⟨1784160000000 + n * 3600000, by unfold ValidTime; omega⟩

/-- A card with two breaks. -/
def card (payableMinutes : Int) (breaks : List Interval) : Source where
  sourceType := .timeCard
  sourceId := "card-1"
  sourceRevision := 1
  employeeId := "employee-1"
  locationId := none
  workTimeZone := "UTC"
  clockInAt := hour 8 (by decide)
  clockOutAt := hour 16 (by decide)
  breakMinutes := 120
  payableMinutes := payableMinutes
  approvedAt := hour 24 (by decide)
  approvedByUserId := "manager-1"
  breakIntervals := some breaks

def morning : Interval := ⟨hour 10 (by decide), hour 11 (by decide)⟩

def noon : Interval := ⟨hour 12 (by decide), hour 13 (by decide)⟩

theorem isSha256_zeros :
    isSha256 "0000000000000000000000000000000000000000000000000000000000000000" = true := by
  decide

def zero : Sha256 :=
  ⟨"0000000000000000000000000000000000000000000000000000000000000000", isSha256_zeros⟩

def one : Sha256 := ⟨"1111111111111111111111111111111111111111111111111111111111111111", by decide⟩

/-- A hash that tells the text of the card from all others. -/
def tell (text : String) : Sha256 :=
  if text = canonicalText ((card 360 [morning, noon]).entryValue "tenant-1" "period-1") then zero
  else one

/-- The card with its breaks the other way round. -/
theorem rearranged : Rearranged [card 360 [morning, noon]] [card 360 [noon, morning]] :=
  ⟨_, List.Perm.refl _, .cons ⟨rfl, List.Perm.swap noon morning []⟩ .nil⟩

theorem not_rearranged : ¬Rearranged [card 360 [morning, noon]] [card 359 [morning, noon]] := by
  rintro ⟨middle, hperm, hsame⟩
  rw [← List.singleton_perm.mp hperm] at hsame
  cases hsame with
  | cons hhead _ => exact absurd (congrArg Source.payableMinutes hhead.1) (by decide)

/-- With its breaks the other way round the card has the same hashes and total, with a minute
less it has another aggregate text. -/
theorem canonical_at_two_breaks :
    Agree (materializeLockedSnapshots tell "tenant-1" "period-1" [card 360 [morning, noon]])
      (materializeLockedSnapshots tell "tenant-1" "period-1" [card 360 [noon, morning]]) ∧
    canonicalText (aggregateValue "tenant-1" "period-1" [(canonicalSha256 tell
        ((card 360 [morning, noon]).entryValue "tenant-1" "period-1")).val] 360) ≠
      canonicalText (aggregateValue "tenant-1" "period-1" [(canonicalSha256 tell
        ((card 359 [morning, noon]).entryValue "tenant-1" "period-1")).val] 359) ∧
    materializeLockedSnapshotsV1 tell "tenant-1" "period-1" [card 360 [morning, noon]] =
      materializeLockedSnapshots tell "tenant-1" "period-1" [card 360 [morning, noon]] := by
  obtain ⟨hrearranged, -, hother, hservices⟩ := locked_snapshots_canonical tell "tenant-1"
    "period-1" [card 360 [morning, noon]] (List.nodup_singleton _)
  have hcollision : NoCollision tell "tenant-1" "period-1" "tenant-1" "period-1"
      [card 360 [morning, noon]] [card 359 [morning, noon]] := by
    intro first hfirst second _ hhash
    obtain rfl := List.mem_singleton.mp hfirst
    by_contra hne
    unfold canonicalSha256 tell at hhash
    rw [if_pos rfl, if_neg (Ne.symm hne)] at hhash
    exact absurd hhash (by decide)
  have hsafe : IsSafeInteger (card 360 [morning, noon]).payableMinutes := by decide
  have hsafe' : IsSafeInteger (card 359 [morning, noon]).payableMinutes := by decide
  have hdiffer := hother "tenant-1" "period-1" _ _ _ hcollision
    (materialize_singleton tell "tenant-1" "period-1" hsafe)
    (materialize_singleton tell "tenant-1" "period-1" hsafe') (Or.inr (Or.inr not_rearranged))
  exact ⟨hrearranged _ rearranged, hdiffer, hservices⟩

/-- The entries list the breaks as they were given. -/
theorem entries_not_canonical :
    ¬∀ sources other, DistinctSources sources → Rearranged sources other →
      materializeLockedSnapshots tell "tenant-1" "period-1" sources =
        materializeLockedSnapshots tell "tenant-1" "period-1" other := by
  intro h
  have hdistinct : DistinctSources [card 360 [morning, noon]] := List.nodup_singleton _
  have hsame := h _ _ hdistinct rearranged
  have hminutes : IsSafeInteger 360 := by decide
  have hsafe : ∀ breaks, IsSafeInteger (card 360 breaks).payableMinutes := fun _ => hminutes
  rw [materialize_singleton tell "tenant-1" "period-1" (hsafe _),
    materialize_singleton tell "tenant-1" "period-1" (hsafe _)] at hsame
  have hentries := (Snapshot.mk.inj (Except.ok.inj hsame)).1
  have hsource := (Entry.mk.inj (List.cons.inj hentries).1).1
  exact absurd (congrArg Source.breakIntervals hsource) (by decide)

end TwoBreaks

end LunchLineup.Payroll.Snapshots
