import LunchLineup.Lib.Base64
import LunchLineup.Lib.Csv
import LunchLineup.Lib.Decimal
import LunchLineup.Payroll.ExportEvidence
import LunchLineup.Payroll.LockedSnapshots

/-!
# The payroll file and what it says

The hash of a payroll file is kept as evidence, so that the file has to tell apart
whatever two exports differ in.  A reader of RFC 4180 that takes a line feed for the
end of a record gets the header and the ten cells of each line back, in the order of
the line numbers; two lists of lines with one file have one list of lines but for a
location, where none and the empty text are one cell.

`buildPayrollCsv` of the first API quotes, orders and checks alike.
-/

namespace LunchLineup.Payroll

open LunchLineup.Lib
open LunchLineup.Pagination (ValidTime toISOString_injOn)

/-! ## The file of the first API -/

namespace ApiV1

/-- `PAYROLL_CSV_HEADER`. -/
def payrollCsvHeader : List String :=
  ["payroll_line_id", "source_type", "source_id", "employee_id", "location_id", "work_time_zone",
    "clock_in_utc", "clock_out_utc", "break_minutes", "payable_minutes"]

/-- `csvCell`. -/
def csvCell (value : String) : String :=
  "\"" ++ String.ofList (value.toList.flatMap fun c => if c = '"' then ['"', '"'] else [c]) ++ "\""

/-- `unsignedIntegerCell`. -/
def unsignedIntegerCell (value : Int) : Except String String := do
  ensure (IsSafeInteger value ∧ 0 ≤ value) "Stored payroll CSV integer is invalid."
  .ok (toString value)

/-- `signedIntegerCell`. -/
def signedIntegerCell (value : Int) : Except String String := do
  ensure (IsSafeInteger value) "Stored payroll CSV integer is invalid."
  .ok (toString value)

/-- The row of a line. -/
def csvRow (line : CsvLine) : Except String String := do
  let breakMinutes ← unsignedIntegerCell line.breakMinutes
  let payableMinutes ← signedIntegerCell line.payableMinutes
  .ok (",".intercalate ([line.id, line.sourceType.text, line.sourceId, line.employeeId,
    line.locationId.getD "", line.workTimeZone, toISOString line.clockInAt,
    toISOString line.clockOutAt, breakMinutes, payableMinutes].map csvCell))

/-- `buildPayrollCsv`. -/
def buildPayrollCsv (lines : List CsvLine) : Except String String := do
  let ordered := orderedLines lines
  ensure (Numbered ordered) "Stored payroll line sequence is invalid."
  let rows ← ordered.mapM csvRow
  .ok (",".intercalate payrollCsvHeader ++ "\n" ++
    if 0 < rows.length then "\n".intercalate rows ++ "\n" else "")

end ApiV1

/-! ## Cells -/

/-- The ten cells of a line. -/
def CsvLine.cells (line : CsvLine) : List String :=
  [line.id, line.sourceType.text, line.sourceId, line.employeeId, line.locationId.getD "",
    line.workTimeZone, toISOString line.clockInAt, toISOString line.clockOutAt,
    toString line.breakMinutes, toString line.payableMinutes]

/-- The line as its cells show it: no location is the empty text. -/
def CsvLine.withLocation (line : CsvLine) : CsvLine :=
  { line with locationId := some (line.locationId.getD "") }

/-- The instants of the line are those of a `Date`. -/
def CsvLine.DatesValid (line : CsvLine) : Prop :=
  ValidTime line.clockInAt ∧ ValidTime line.clockOutAt

instance (line : CsvLine) : Decidable line.DatesValid := inferInstanceAs (Decidable (_ ∧ _))

/-- The cells and the number of a line tell what it is. -/
theorem CsvLine.withLocation_eq {line other : CsvLine} (hdates : line.DatesValid)
    (hdates' : other.DatesValid) (hnumber : line.lineNumber = other.lineNumber)
    (hcells : line.cells = other.cells) : line.withLocation = other.withLocation := by
  simp only [cells, List.cons.injEq, and_true] at hcells
  obtain ⟨hid, htype, hsource, hemployee, hlocation, hzone, hclockIn, hclockOut, hbreak, hpayable⟩ :=
    hcells
  have htype := Snapshots.SourceType.text_injective htype
  have hclockIn := toISOString_injOn hdates.1 hdates'.1 hclockIn
  have hclockOut := toISOString_injOn hdates.2 hdates'.2 hclockOut
  have hbreak := toString_injective hbreak
  have hpayable := toString_injective hpayable
  unfold withLocation
  rw [mk.injEq]
  exact ⟨hid, hnumber, htype, hsource, hemployee, congrArg some hlocation, hzone, hclockIn,
    hclockOut, hbreak, hpayable⟩

/-! ## One file in both services -/

theorem ApiV1.csvRow_eq_ok {line : CsvLine} {row : String} :
    csvRow line = .ok row ↔ line.CellsValid ∧ line.row = row := by
  unfold csvRow unsignedIntegerCell signedIntegerCell CsvLine.CellsValid
  by_cases hbreak : IsSafeInteger line.breakMinutes ∧ 0 ≤ line.breakMinutes
  · by_cases hpayable : IsSafeInteger line.payableMinutes
    · rw [ensure_of_true _ hbreak, ensure_of_true _ hpayable]
      constructor
      · exact fun h => ⟨⟨hbreak, hpayable⟩, Except.ok.inj h⟩
      · exact fun h => congrArg Except.ok h.2
    · rw [ensure_of_true _ hbreak, ensure_of_false _ hpayable]
      constructor
      · intro h
        cases h
      · exact fun h => absurd h.1.2 hpayable
  · rw [ensure_of_false _ hbreak]
    constructor
    · intro h
      cases h
    · exact fun h => absurd h.1.1 hbreak

theorem ApiV1.mapM_csvRow_eq_ok {lines : List CsvLine} {rows : List String} :
    lines.mapM csvRow = .ok rows ↔ (∀ line ∈ lines, line.CellsValid) ∧ lines.map CsvLine.row = rows := by
  rw [mapM_eq_ok]
  simp only [csvRow_eq_ok]
  constructor
  · intro h
    induction h with
    | nil => exact ⟨by simp, rfl⟩
    | cons hrow _ ih =>
        rw [List.forall_mem_cons, List.map_cons, hrow.2, ih.2]
        exact ⟨⟨hrow.1, ih.1⟩, rfl⟩
  · rintro ⟨hcells, rfl⟩
    rw [List.forall₂_map_right_iff, List.forall₂_same]
    exact fun line hline => ⟨hcells line hline, rfl⟩

/-- Both services build one file. -/
theorem ApiV1.buildPayrollCsv_eq_ok {lines : List CsvLine} {content : String} :
    buildPayrollCsv lines = .ok content ↔ Payroll.buildPayrollCsv lines = .ok content := by
  have hheader : ",".intercalate payrollCsvHeader =
      "payroll_line_id,source_type,source_id,employee_id,location_id,work_time_zone," ++
        "clock_in_utc,clock_out_utc,break_minutes,payable_minutes" := by decide +kernel
  unfold buildPayrollCsv Payroll.buildPayrollCsv
  simp only [bind_eq_ok, ensure_eq_ok, mapM_csvRow_eq_ok, hheader]
  constructor
  · rintro ⟨_, hnumbered, rows, ⟨hcells, rfl⟩, hcontent⟩
    exact ⟨(), hnumbered, (), hcells, congrArg Except.ok (Except.ok.inj hcontent)⟩
  · rintro ⟨_, hnumbered, _, hcells, hcontent⟩
    exact ⟨(), hnumbered, _, ⟨hcells, rfl⟩, congrArg Except.ok (Except.ok.inj hcontent)⟩

/-! ## Reading a file -/

/-- The bytes of a file. -/
def fileBytes (content : String) : List UInt8 := utf8Bytes content.toList

/-- The records of a file whose records end in a line break. -/
def readCsv (lineBreak : String) (bytes : List UInt8) : Option (List (List String)) :=
  (Csv.read lineBreak.toList (utf8Text bytes)).map (·.map (·.map String.ofList))

theorem fileBytes_injective : Function.Injective fileBytes := by
  intro first second h
  have htext := congrArg utf8Text h
  rw [fileBytes, fileBytes, utf8Text_utf8Bytes, utf8Text_utf8Bytes] at htext
  exact String.toList_inj.mp htext

theorem toList_quotedCell (cell : String) : (quotedCell cell).toList = Csv.escaped cell.toList := by
  simp [quotedCell, Csv.escaped]

theorem toList_row (line : CsvLine) :
    line.row.toList = Csv.recordText (line.cells.map fun cell => Csv.escaped cell.toList) := by
  have hrow : line.row = ",".intercalate (line.cells.map quotedCell) := rfl
  have hcells : (line.cells.map quotedCell).map String.toList =
      line.cells.map fun cell => Csv.escaped cell.toList := by
    rw [List.map_map]
    exact List.map_congr_left fun cell _ => toList_quotedCell cell
  rw [hrow, String.toList_intercalate, hcells]
  rfl

theorem toList_rows (rows : List String) :
    (if 0 < rows.length then "\n".intercalate rows ++ "\n" else "").toList =
      rows.flatMap fun row => row.toList ++ ['\n'] := by
  induction rows with
  | nil => rfl
  | cons row rows ih =>
      rw [if_pos (by simp)]
      cases rows with
      | nil =>
          rw [String.intercalate_singleton, String.toList_append, List.flatMap_singleton]
          rfl
      | cons second rows =>
          rw [if_pos (by simp)] at ih
          rw [String.intercalate_cons_cons, List.flatMap_cons, ← ih]
          simp only [String.toList_append, List.append_assoc]
          rfl

theorem toList_content {lines : List CsvLine} {content : String}
    (h : buildPayrollCsv lines = .ok content) : content.toList = Csv.fileText ['\n']
      (ApiV1.payrollCsvHeader.map String.toList ::
        (orderedLines lines).map fun line => line.cells.map fun cell => Csv.escaped cell.toList) := by
  have hheader : "payroll_line_id,source_type,source_id,employee_id,location_id,work_time_zone," ++
      "clock_in_utc,clock_out_utc,break_minutes,payable_minutes" =
        ",".intercalate ApiV1.payrollCsvHeader := by decide +kernel
  unfold buildPayrollCsv at h
  simp only [bind_eq_ok, ensure_eq_ok, hheader] at h
  obtain ⟨_, _, _, _, h⟩ := h
  rw [← Except.ok.inj h, String.toList_append, toList_rows, Csv.fileText, List.flatMap_cons,
    String.toList_append, String.toList_intercalate, List.flatMap_map, List.flatMap_map]
  simp only [toList_row]
  rfl

theorem writes_header : List.Forall₂ Csv.Writes (ApiV1.payrollCsvHeader.map String.toList)
    (ApiV1.payrollCsvHeader.map String.toList) := by
  have hplain : ∀ name ∈ ApiV1.payrollCsvHeader, ∀ c ∈ name.toList, Csv.Plain c := by
    have hall : (ApiV1.payrollCsvHeader.all fun name =>
        name.toList.all fun c => decide (Csv.Plain c)) = true := by decide +kernel
    exact fun name hname => Csv.plain_of_all (List.all_eq_true.mp hall name hname)
  rw [List.forall₂_map_left_iff, List.forall₂_map_right_iff, List.forall₂_same]
  exact fun name hname => .plain (hplain name hname)

theorem writes_cells (line : CsvLine) : List.Forall₂ Csv.Writes
    (line.cells.map fun cell => Csv.escaped cell.toList) (line.cells.map String.toList) := by
  rw [List.forall₂_map_left_iff, List.forall₂_map_right_iff, List.forall₂_same]
  exact fun cell _ => .escaped cell.toList

/-- A reader gets the header and the cells of the lines back. -/
theorem readCsv_buildPayrollCsv {lines : List CsvLine} {content : String}
    (h : buildPayrollCsv lines = .ok content) :
    readCsv "\n" (fileBytes content) =
      some (ApiV1.payrollCsvHeader :: (orderedLines lines).map CsvLine.cells) := by
  have hread : Csv.read ['\n'] content.toList = some (ApiV1.payrollCsvHeader.map String.toList ::
      (orderedLines lines).map fun line => line.cells.map String.toList) := by
    rw [toList_content h]
    apply Csv.read_fileText (by simp) (by simp)
    · refine .cons writes_header ?_
      rw [List.forall₂_map_left_iff, List.forall₂_map_right_iff, List.forall₂_same]
      exact fun line _ => writes_cells line
    · exact List.cons_ne_nil _ _
    · rw [List.forall_mem_cons]
      refine ⟨by decide, fun texts htexts => ?_⟩
      obtain ⟨line, _, rfl⟩ := List.mem_map.mp htexts
      exact List.cons_ne_nil _ _
  have htexts : ∀ texts : List String, (texts.map String.toList).map String.ofList = texts := by
    intro texts
    rw [List.map_map]
    exact List.map_id'' (fun text => String.ofList_toList) texts
  have hcells : ((orderedLines lines).map fun line => line.cells.map String.toList).map
      (·.map String.ofList) = (orderedLines lines).map CsvLine.cells := by
    rw [List.map_map]
    exact List.map_congr_left fun line _ => htexts line.cells
  rw [readCsv, fileBytes, utf8Text_utf8Bytes]
  show (Csv.read ['\n'] content.toList).map _ = _
  rw [hread, Option.map_some, List.map_cons, htexts, hcells]

/-- A reader that wants a carriage return before the line feed rejects every file. -/
theorem readCsv_carriageReturn {lines : List CsvLine} {content : String}
    (h : buildPayrollCsv lines = .ok content) : readCsv "\r\n" (fileBytes content) = none := by
  obtain ⟨rest, hrest⟩ : ∃ rest, content.toList =
      Csv.recordText (ApiV1.payrollCsvHeader.map String.toList) ++ '\n' :: rest := by
    rw [toList_content h, Csv.fileText, List.flatMap_cons, List.append_assoc]
    exact ⟨_, rfl⟩
  have hlength := Csv.length_le_recordText (ApiV1.payrollCsvHeader.map String.toList)
  have hspent : (ApiV1.payrollCsvHeader.map String.toList).length ≤
      (Csv.recordText (ApiV1.payrollCsvHeader.map String.toList) ++ '\n' :: rest).length + 1 := by
    rw [List.length_append]
    omega
  have hend : ∀ c ∈ ('\n' :: rest).head?, c ≠ '"' ∧ c ≠ ',' ∧ ¬Csv.Plain c := by
    rintro c ⟨⟩
    decide
  have hheader := Csv.readRecord_recordText writes_header (by decide) hend hspent
  have hread : Csv.read ['\r', '\n'] content.toList = none := by
    rw [hrest, Csv.read, Csv.readRecords, hheader]
    rfl
  rw [readCsv, fileBytes, utf8Text_utf8Bytes]
  show (Csv.read ['\r', '\n'] content.toList).map _ = none
  rw [hread]
  rfl

/-! ## Line numbers -/

/-- The lines have the numbers from 1 on, in some order. -/
def NumberedInSomeOrder (lines : List CsvLine) : Prop :=
  (lines.map (·.lineNumber)).Perm ((List.range lines.length).map fun index : Nat => (index : Int) + 1)

instance (lines : List CsvLine) : Decidable (NumberedInSomeOrder lines) :=
  inferInstanceAs (Decidable (List.Perm _ _))

theorem orderedLines_perm (lines : List CsvLine) : (orderedLines lines).Perm lines :=
  List.mergeSort_perm ..

theorem orderedLines_pairwise (lines : List CsvLine) :
    (orderedLines lines).Pairwise fun a b => a.lineNumber ≤ b.lineNumber := by
  have hsorted : (orderedLines lines).Pairwise fun a b =>
      decide (a.lineNumber < b.lineNumber ∨ (a.lineNumber = b.lineNumber ∧ a.id ≤ b.id)) = true := by
    apply List.pairwise_mergeSort
    · intro a b c hab hbc
      rw [decide_eq_true_eq] at hab hbc ⊢
      rcases hab with hab | ⟨hab, hid⟩
      · exact .inl (by omega)
      · rcases hbc with hbc | ⟨hbc, hid'⟩
        · exact .inl (by omega)
        · exact .inr ⟨hab.trans hbc, hid.trans hid'⟩
    · intro a b
      rw [Bool.or_eq_true, decide_eq_true_eq, decide_eq_true_eq]
      rcases lt_trichotomy a.lineNumber b.lineNumber with hlt | heq | hgt
      · exact .inl (.inl hlt)
      · rcases le_total a.id b.id with hid | hid
        · exact .inl (.inr ⟨heq, hid⟩)
        · exact .inr (.inr ⟨heq.symm, hid⟩)
      · exact .inr (.inl hgt)
  refine hsorted.imp ?_
  intro a b hle
  rw [decide_eq_true_eq] at hle
  omega

/-- Ordered by their numbers such lines are numbered. -/
theorem numbered_orderedLines {lines : List CsvLine} (h : NumberedInSomeOrder lines) :
    Numbered (orderedLines lines) := by
  have hperm : ((orderedLines lines).map CsvLine.lineNumber).Perm
      ((List.range lines.length).map fun index : Nat => (index : Int) + 1) :=
    ((orderedLines_perm lines).map CsvLine.lineNumber).trans h
  have hsorted : ((orderedLines lines).map CsvLine.lineNumber).Pairwise (· ≤ ·) :=
    List.pairwise_map.mpr (orderedLines_pairwise lines)
  have hrange : ((List.range lines.length).map fun index : Nat => (index : Int) + 1).Pairwise
      (· ≤ ·) := by
    rw [List.pairwise_map]
    refine List.pairwise_lt_range.imp ?_
    intro a b hlt
    omega
  rw [Numbered, (orderedLines_perm lines).length_eq]
  exact hperm.eq_of_pairwise (fun _ _ _ _ => le_antisymm) hsorted hrange

/-! ## What a file tells -/

/-- `buildPayrollCsv`, with its bytes. -/
def payrollCsvBytes (lines : List CsvLine) : Except Problem (List UInt8) :=
  (buildPayrollCsv lines).map fileBytes

/-- `buildPayrollCsv` of the first API, with its bytes. -/
def ApiV1.payrollCsvBytes (lines : List CsvLine) : Except String (List UInt8) :=
  (buildPayrollCsv lines).map fileBytes

/-- A reader gets the header back and then, in the order of the line numbers, the cells of the lines;
the file of the first API has the same bytes; and another list with this file shows the same lines. -/
structure Lossless (lines : List CsvLine) (bytes : List UInt8) : Prop where
  records : readCsv "\n" bytes =
    some (ApiV1.payrollCsvHeader :: (orderedLines lines).map CsvLine.cells)
  ordered : (orderedLines lines).Perm lines ∧ Numbered (orderedLines lines)
  identical : ApiV1.payrollCsvBytes lines = .ok bytes
  distinct : (∀ line ∈ lines, line.DatesValid) → ∀ other : List CsvLine,
    (∀ line ∈ other, line.DatesValid) → payrollCsvBytes other = .ok bytes →
      (orderedLines other).map CsvLine.withLocation = (orderedLines lines).map CsvLine.withLocation

theorem buildPayrollCsv_eq_ok_iff {lines : List CsvLine} :
    (∃ content, buildPayrollCsv lines = .ok content) ↔
      Numbered (orderedLines lines) ∧ ∀ line ∈ lines, line.CellsValid := by
  have hmem : (∀ line ∈ orderedLines lines, line.CellsValid) ↔ ∀ line ∈ lines, line.CellsValid := by
    simp only [(orderedLines_perm lines).mem_iff]
  unfold buildPayrollCsv
  simp only [bind_eq_ok, ensure_eq_ok, ← hmem]
  constructor
  · rintro ⟨_, _, hnumbered, _, hcells, _⟩
    exact ⟨hnumbered, hcells⟩
  · rintro ⟨hnumbered, hcells⟩
    exact ⟨_, (), hnumbered, (), hcells, rfl⟩

/-- Numbered lines with one text for each record are the same lines, but for an empty location. -/
theorem withLocation_of_cells {lines other : List CsvLine} (hdates : ∀ line ∈ lines, line.DatesValid)
    (hdates' : ∀ line ∈ other, line.DatesValid) (hnumbered : Numbered lines)
    (hnumbered' : Numbered other) (h : other.map CsvLine.cells = lines.map CsvLine.cells) :
    other.map CsvLine.withLocation = lines.map CsvLine.withLocation := by
  have hlength : other.length = lines.length := by
    simpa using congrArg List.length h
  have hnumbers : other.map CsvLine.lineNumber = lines.map CsvLine.lineNumber := by
    have hnumbered'' : other.map CsvLine.lineNumber = _ := hnumbered'
    rw [hnumbered'', hlength]
    exact hnumbered.symm
  apply List.ext_getElem
  · simpa using hlength
  · intro i hi hi'
    rw [List.length_map] at hi hi'
    have hcell := List.getElem_of_eq h (show i < (other.map CsvLine.cells).length by
      rwa [List.length_map])
    have hnumber := List.getElem_of_eq hnumbers (show i < (other.map CsvLine.lineNumber).length by
      rwa [List.length_map])
    rw [List.getElem_map, List.getElem_map] at hcell hnumber ⊢
    exact CsvLine.withLocation_eq (hdates' _ (List.getElem_mem hi)) (hdates _ (List.getElem_mem hi'))
      hnumber hcell

/-- The lines from 1 on, in any order, have a file exactly if their numbers are safe integers, and it
loses nothing. -/
theorem payrollCsv_lossless {lines : List CsvLine} (hnumbers : NumberedInSomeOrder lines) :
    ((∃ bytes, payrollCsvBytes lines = .ok bytes) ↔ ∀ line ∈ lines, line.CellsValid) ∧
      ∀ bytes, payrollCsvBytes lines = .ok bytes → Lossless lines bytes := by
  have hnumbered := numbered_orderedLines hnumbers
  constructor
  · simp only [payrollCsvBytes, map_eq_ok]
    constructor
    · rintro ⟨_, content, hcontent, -⟩
      exact (buildPayrollCsv_eq_ok_iff.mp ⟨content, hcontent⟩).2
    · intro hcells
      obtain ⟨content, hcontent⟩ := buildPayrollCsv_eq_ok_iff.mpr ⟨hnumbered, hcells⟩
      exact ⟨_, content, hcontent, rfl⟩
  · intro bytes h
    obtain ⟨content, hcontent, rfl⟩ := map_eq_ok.mp h
    have hread := readCsv_buildPayrollCsv hcontent
    refine ⟨hread, ⟨orderedLines_perm lines, hnumbered⟩,
      map_eq_ok.mpr ⟨content, ApiV1.buildPayrollCsv_eq_ok.mpr hcontent, rfl⟩, ?_⟩
    intro hdates other hdates' hother
    obtain ⟨content', hcontent', hbytes⟩ := map_eq_ok.mp hother
    have hread' := readCsv_buildPayrollCsv hcontent'
    rw [hbytes, hread] at hread'
    have hcells := (List.cons.inj (Option.some.inj hread')).2
    have hnumbered' := (buildPayrollCsv_eq_ok_iff.mp ⟨content', hcontent'⟩).1
    refine withLocation_of_cells (fun line hline => ?_) (fun line hline => ?_) hnumbered hnumbered'
      hcells.symm
    · exact hdates line ((orderedLines_perm lines).mem_iff.mp hline)
    · exact hdates' line ((orderedLines_perm other).mem_iff.mp hline)

/-- And a file tells no more: lines without a location have the file of an empty one. -/
theorem buildPayrollCsv_withLocation {lines : List CsvLine} (h : Numbered lines) :
    buildPayrollCsv (lines.map CsvLine.withLocation) = buildPayrollCsv lines := by
  have hnumbered : Numbered (lines.map CsvLine.withLocation) := by
    unfold Numbered at h ⊢
    rw [List.map_map, List.length_map]
    exact h
  have hcells : (∀ line ∈ lines.map CsvLine.withLocation, line.CellsValid) ↔
      ∀ line ∈ lines, line.CellsValid := List.forall_mem_map
  have hrows : (lines.map CsvLine.withLocation).map (·.row) = lines.map (·.row) := List.map_map
  unfold buildPayrollCsv
  simp only [orderedLines_of_numbered hnumbered, orderedLines_of_numbered h, hcells, hrows,
    ensure_of_true _ hnumbered, ensure_of_true _ h]

namespace CsvSample

/-- A line of eight hours. -/
def worked (id : String) (lineNumber : Int) (locationId : Option String) : CsvLine where
  id := id
  lineNumber := lineNumber
  sourceType := .timeCard
  sourceId := "card \"7\", first\r\nsecond"
  employeeId := "Zoë"
  locationId := locationId
  workTimeZone := "America/New_York"
  clockInAt := 1784160000000
  clockOutAt := 1784188800000
  breakMinutes := 30
  payableMinutes := 450

/-- The second line before the first. -/
theorem lossless_reversed : ∃ bytes,
    payrollCsvBytes [worked "b" 2 none, worked "a" 1 (some "here")] = .ok bytes ∧
      Lossless [worked "b" 2 none, worked "a" 1 (some "here")] bytes := by
  have hnumbers : NumberedInSomeOrder [worked "b" 2 none, worked "a" 1 (some "here")] := by decide
  have hcells : ∀ line ∈ [worked "b" 2 none, worked "a" 1 (some "here")], line.CellsValid := by
    decide
  obtain ⟨hfile, hlossless⟩ := payrollCsv_lossless hnumbers
  obtain ⟨bytes, hbytes⟩ := hfile.mpr hcells
  exact ⟨bytes, hbytes, hlossless bytes hbytes⟩

/-- A line without a location and one with an empty location have one file, and its records do not
end in a carriage return and a line feed. -/
theorem not_distinct_location : [worked "a" 1 none] ≠ [worked "a" 1 (some "")] ∧
    NumberedInSomeOrder [worked "a" 1 none] ∧ NumberedInSomeOrder [worked "a" 1 (some "")] ∧
    ∃ bytes, payrollCsvBytes [worked "a" 1 none] = .ok bytes ∧
      payrollCsvBytes [worked "a" 1 (some "")] = .ok bytes ∧ readCsv "\r\n" bytes = none := by
  have hnumbered : Numbered [worked "a" 1 none] := by decide
  have hcells : ∀ line ∈ [worked "a" 1 none], line.CellsValid := by decide
  have hsame : buildPayrollCsv [worked "a" 1 (some "")] = buildPayrollCsv [worked "a" 1 none] :=
    buildPayrollCsv_withLocation hnumbered
  obtain ⟨content, hcontent⟩ := buildPayrollCsv_of_numbered hnumbered hcells
  refine ⟨by decide, by decide, by decide, fileBytes content, ?_, ?_, readCsv_carriageReturn hcontent⟩
  · rw [payrollCsvBytes, hcontent]
    rfl
  · rw [payrollCsvBytes, hsame, hcontent]
    rfl

end CsvSample

end LunchLineup.Payroll
