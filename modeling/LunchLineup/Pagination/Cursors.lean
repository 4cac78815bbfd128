import LunchLineup.Lib.Json
import LunchLineup.Lib.Base64
import LunchLineup.Pagination.IsoInstant

/-!
# The cursors of the lists

A cursor is the base64url text of a small JSON object: the timestamp of the last
row of a page and its public id, or the first date of a pay period and its public
id.  Each of the three lists has its own reader, which refuses what its writer
does not write; each reader returns what its writer was given
(`decodeCursor_encodeCursor`, `decodeTimeCardCursor_encodeTimeCardCursor`,
`readPeriodCursor_encodePeriodCursor`).
-/

namespace LunchLineup.Pagination

open LunchLineup.Lib LunchLineup.Python.Reference
open LunchLineup.Billing (jsTrim jsLength isJsSpace)
open LunchLineup.Payroll (toISOString padded ValidDate)

/-- A `ProblemError`. -/
structure ProblemError where
  status : Nat
  code : String
  detail : String
  title : String
  deriving DecidableEq

/-- What a request fails with: a problem, or an error that no caller expects. -/
inductive Failure
  | problem (problem : ProblemError)
  | error (message : String)
  deriving DecidableEq

/-! ## JSON in base64url -/

/-- `Buffer.from(JSON.stringify(payload), 'utf8').toString('base64url')`. -/
def base64urlJson (payload : Json) : String :=
  String.ofList (Base64.encode (utf8Bytes payload.chars))

/-- `JSON.parse(Buffer.from(value, 'base64url').toString('utf8'))`. -/
def parseBase64url (value : String) : Option Json :=
  Json.parse (utf8Text (Base64.decode value.toList))

/-- A property of an object; the last member of a name counts. -/
def property (members : List (String × Json)) (name : String) : Option Json :=
  (members.reverse.find? fun member => member.1 == name).map Prod.snd

/-- The `Number` nearest to a decimal is `1`. -/
def readsAsOne (value : Numeral) : Bool :=
  if 0 ≤ value.exponent then value.significand == 1 && value.exponent == 0
  else
    let unit : Int := 10 ^ value.exponent.natAbs
    decide ((2 ^ 54 - 1) * unit ≤ value.significand * 2 ^ 54 ∧
      value.significand * 2 ^ 53 ≤ (2 ^ 53 + 1) * unit)

/-- `value === 1`. -/
def isOne : Option Json → Bool
  | some (.num value) => readsAsOne value
  | _ => false

/-- The value, if it is a string. -/
def asText : Option Json → Option String
  | some (.str text) => some text
  | _ => none

theorem parseBase64url_base64urlJson (payload : Json) :
    parseBase64url (base64urlJson payload) = some payload := by
  rw [parseBase64url, base64urlJson, String.toList_ofList, Base64.decode_encode,
    utf8Text_utf8Bytes, Json.parse_stringify]

/-! ## Public ids -/

/-- The text has a character of each kind in turn. -/
def fits : List (Char → Bool) → List Char → Bool
  | [], [] => true
  | kind :: kinds, c :: text => kind c && fits kinds text
  | _, _ => false

def isLowerHex (c : Char) : Bool :=
  c.isDigit || (97 ≤ c.toNat && c.toNat ≤ 102)

def isHex (c : Char) : Bool := isLowerHex c || (65 ≤ c.toNat && c.toNat ≤ 70)

/-- Groups of 8, 4, 4, 4 and 12 digits. -/
def uuidKinds (hex version variant : Char → Bool) : List (Char → Bool) :=
  List.replicate 8 hex ++ (· == '-') :: (List.replicate 4 hex ++ (· == '-') ::
    version :: (List.replicate 3 hex ++ (· == '-') ::
      variant :: (List.replicate 3 hex ++ (· == '-') :: List.replicate 12 hex)))

/-- A `uuid` value: its text in the canonical form.  Values compare like these
texts. -/
structure Uuid where
  text : String
  canonical : fits (uuidKinds isLowerHex isLowerHex isLowerHex) text.toList = true

/-- The value has the version and the variant of `gen_random_uuid()`. -/
def Uuid.Random (id : Uuid) : Prop :=
  fits (uuidKinds isLowerHex (· == '4') fun c => c == '8' || c == '9' || c == 'a' || c == 'b')
    id.text.toList = true

instance (id : Uuid) : Decidable id.Random := inferInstanceAs (Decidable (_ = true))

/-- `/^[0-9a-f-]{36}$/i`. -/
def isCursorId (text : String) : Bool :=
  fits (List.replicate 36 fun c => isHex c || c == '-') text.toList

/-- `UUID`, the pattern of the time cards: versions 1 to 8. -/
def isUuid (text : String) : Bool :=
  fits (uuidKinds isHex (fun c => 49 ≤ c.toNat && c.toNat ≤ 56)
    fun c => c == '8' || c == '9' || c == 'a' || c == 'b' || c == 'A' || c == 'B') text.toList

/-! ## Operations -/

structure OperationsCursor where
  timestamp : Int
  publicId : String
  deriving DecidableEq

/-- `invalidPagination`. -/
def invalidPagination (detail : String) : ProblemError :=
  ⟨422, "invalid_pagination", detail, "Pagination validation failed"⟩

/-- `encodeCursor` of the operations lists. -/
def encodeCursor (cursor : OperationsCursor) : Except Failure String :=
  if ValidTime cursor.timestamp ∧ isCursorId cursor.publicId = true then
    .ok (base64urlJson (.obj [("v", .num ⟨1, 0⟩),
      ("timestamp", .str (toISOString cursor.timestamp)), ("publicId", .str cursor.publicId)]))
  else .error (.error "Cannot encode an operations cursor.")

/-- The payload that the `try` block of `decodeCursor` accepts. -/
def operationsCursor? : Json → Option OperationsCursor
  | .obj members => do
      if isOne (property members "v") = false then none
      let timestampText ← asText (property members "timestamp")
      let publicId ← asText (property members "publicId")
      if isCursorId publicId = false then none
      let timestamp ← newDate timestampText.toList
      if toISOString timestamp ≠ timestampText then none
      return ⟨timestamp, publicId⟩
  | _ => none

/-- `decodeCursor` of the operations lists. -/
def decodeCursor (value : Option String) : Except ProblemError (Option OperationsCursor) :=
  match value with
  | none => .ok none
  | some text =>
      if text = "" then .ok none
      else if 512 < jsLength text then .error (invalidPagination "cursor is invalid.")
      else
        match (parseBase64url text).bind operationsCursor? with
        | some cursor => .ok (some cursor)
        | none => .error (invalidPagination "cursor is invalid.")

/-! ## Time cards -/

structure TimeCardCursor where
  clockInAt : Int
  publicId : String
  deriving DecidableEq

/-- `invalidCursorOrLimit`. -/
def invalidCursorOrLimit (detail : String) : ProblemError :=
  ⟨422, "invalid_time_card_pagination", detail, "Time-card pagination failed"⟩

/-- `encodeTimeCardCursor`. -/
def encodeTimeCardCursor (cursor : TimeCardCursor) : Except Failure String :=
  if ValidTime cursor.clockInAt then
    .ok (base64urlJson (.obj [("v", .num ⟨1, 0⟩),
      ("clockInAt", .str (toISOString cursor.clockInAt)), ("publicId", .str cursor.publicId)]))
  else .error (.error "Invalid time value")

/-- `new Date(text)` of a text whose year has four digits and no sign. -/
def newDateFourDigits (text : List Char) : Option Int :=
  if (text.take 4).all Char.isDigit then newDate text else none

/-- The payload that the `try` block of `decodeTimeCardCursor` accepts. -/
def timeCardCursor? : Json → Option TimeCardCursor
  | .obj members => do
      let clockInText ← asText (property members "clockInAt")
      let clockInAt ← newDateFourDigits clockInText.toList
      if isOne (property members "v") = false then none
      let publicId ← asText (property members "publicId")
      if isUuid publicId = false then none
      return ⟨clockInAt, publicId⟩
  | _ => none

/-- `decodeTimeCardCursor`. -/
def decodeTimeCardCursor (value : Option String) : Except ProblemError (Option TimeCardCursor) :=
  match value with
  | none => .ok none
  | some text =>
      if text = "" then .ok none
      else if 512 < jsLength text then .error (invalidCursorOrLimit "cursor is invalid.")
      else
        match (parseBase64url text).bind timeCardCursor? with
        | some cursor => .ok (some cursor)
        | none => .error (invalidCursorOrLimit "cursor is invalid.")

/-! ## Pay periods -/

structure PeriodCursor where
  localStartDate : Int
  publicId : String
  deriving DecidableEq

def invalidPayroll (field detail : String) : ProblemError :=
  ⟨422, "invalid_payroll_" ++ field, detail, "Payroll validation failed"⟩

/-- `serializeDateOnly`: the first ten characters of the text of the midnight. -/
def serializeDateOnly (date : Int) : String :=
  String.ofList ((toISOString (date * 86400000)).toList.take 10)

/-- `encodeCursor` of payroll, at a pay period. -/
def encodePeriodCursor (cursor : PeriodCursor) : String :=
  base64urlJson (.obj [("localStartDate", .str (serializeDateOnly cursor.localStartDate)),
    ("publicId", .str cursor.publicId)])

/-- The date of a text `YYYY-MM-DD`, if the calendar has it and its year is none of
those that `Date.UTC` moves to the twentieth century. -/
def dateOnly? (text : List Char) : Option Int := do
  let (year, rest) ← digits? 4 text
  let rest ← expect? '-' rest
  let (month, rest) ← digits? 2 rest
  let rest ← expect? '-' rest
  let (dayOfMonth, rest) ← digits? 2 rest
  let date := daysFromCivil year month dayOfMonth
  if rest = [] ∧ 100 ≤ year ∧ civilFromDays date = (year, month, dayOfMonth) then
    return date
  else none

/-- The text is of the form `YYYY-MM-DD`. -/
def isDateText (text : List Char) : Bool :=
  fits [Char.isDigit, Char.isDigit, Char.isDigit, Char.isDigit, (· == '-'), Char.isDigit,
    Char.isDigit, (· == '-'), Char.isDigit, Char.isDigit] text

/-- `dateOnlyForPrisma`. -/
def dateOnlyForPrisma (value : String) : Except ProblemError Int :=
  let normalized := (jsTrim value).toList
  match dateOnly? normalized with
  | some date => .ok date
  | none =>
      if isDateText normalized then
        .error (invalidPayroll "date" "date must be a valid calendar date.")
      else .error (invalidPayroll "date" "date must use YYYY-MM-DD.")

/-- `decodeCursor` of payroll. -/
def decodePayrollCursor (value : Option String) (field : String) :
    Except ProblemError (Option (List (String × Json))) :=
  match value with
  | none => .ok none
  | some text =>
      if text = "" ∨ 512 < jsLength text then
        .error (invalidPayroll field (field ++ " is invalid."))
      else
        match parseBase64url text with
        | some (.obj members) => .ok (some members)
        | _ => .error (invalidPayroll field (field ++ " is invalid."))

/-- `cursorText`. -/
def cursorText (cursor : Option (List (String × Json))) (key field : String) :
    Except ProblemError (Option String) :=
  match cursor with
  | none => .ok none
  | some members =>
      match asText (property members key) with
      | some text =>
          if text = "" ∨ 512 < jsLength text then
            .error (invalidPayroll field (field ++ " is invalid."))
          else .ok (some text)
      | none => .error (invalidPayroll field (field ++ " is invalid."))

/-- The cursor as `listPeriods` reads it. -/
def readPeriodCursor (value : Option String) : Except ProblemError (Option PeriodCursor) := do
  let cursor ← decodePayrollCursor value "period_cursor"
  let localStartDate ← cursorText cursor "localStartDate" "period_cursor"
  let publicId ← cursorText cursor "publicId" "period_cursor"
  match localStartDate with
  | none => .ok none
  | some text =>
      let startDate ← dateOnlyForPrisma text
      .ok (some ⟨startDate, publicId.getD ""⟩)

/-! ## The texts of the payloads are short -/

/-- A printable ASCII character that JSON does not escape. -/
def Plain (c : Char) : Prop := 32 ≤ c.toNat ∧ c.toNat < 127 ∧ c ≠ '"' ∧ c ≠ '\\'

instance (c : Char) : Decidable (Plain c) := inferInstanceAs (Decidable (_ ∧ _))

theorem plain_of_all {text : List Char} (h : (text.all fun c => decide (Plain c)) = true) :
    ∀ c ∈ text, Plain c := fun c hc => of_decide_eq_true (List.all_eq_true.mp h c hc)

theorem isDigit_iff {c : Char} : c.isDigit = true ↔ 48 ≤ c.toNat ∧ c.toNat ≤ 57 := by
  simp only [Char.isDigit, Bool.and_eq_true, decide_eq_true_eq, ge_iff_le, UInt32.le_iff_toNat_le]
  rfl

theorem plain_of_digit {c : Char} (h : c.isDigit = true) : Plain c := by
  obtain ⟨hlow, hhigh⟩ := isDigit_iff.mp h
  refine ⟨by omega, by omega, ?_, ?_⟩
  · rintro rfl
    exact absurd hlow (by decide)
  · rintro rfl
    exact absurd hhigh (by decide)

theorem plain_of_hex {c : Char} (h : isHex c = true) : Plain c := by
  simp only [isHex, isLowerHex, Bool.or_eq_true, Bool.and_eq_true, decide_eq_true_eq] at h
  rcases h with (hdigit | h) | h
  · exact plain_of_digit hdigit
  · refine ⟨by omega, by omega, ?_, ?_⟩
    · rintro rfl
      exact absurd h.1 (by decide)
    · rintro rfl
      exact absurd h.1 (by decide)
  · refine ⟨by omega, by omega, ?_, ?_⟩
    · rintro rfl
      exact absurd h.1 (by decide)
    · rintro rfl
      exact absurd h.2 (by decide)

theorem escaped_of_plain {c : Char} (h : Plain c) : Json.escaped c = [c] := by
  obtain ⟨hlow, -, hquote, hslash⟩ := h
  unfold Json.escaped
  rw [if_neg hquote, if_neg hslash]
  repeat rw [if_neg (by omega)]

theorem flatMap_escaped {text : List Char} (h : ∀ c ∈ text, Plain c) :
    text.flatMap Json.escaped = text := by
  induction text with
  | nil => rfl
  | cons c text ih =>
      rw [List.flatMap_cons, escaped_of_plain (h c List.mem_cons_self),
        ih fun d hd => h d (List.mem_cons_of_mem _ hd)]
      rfl

theorem quotedChars_of_plain {text : List Char} (h : ∀ c ∈ text, Plain c) :
    Json.quotedChars text = '"' :: (text ++ ['"']) := by
  rw [Json.quotedChars, flatMap_escaped h]

/-- An ASCII character is one byte. -/
theorem length_utf8Bytes {text : List Char} (h : ∀ c ∈ text, c.toNat < 128) :
    (utf8Bytes text).length = text.length := by
  induction text with
  | nil => rfl
  | cons c text ih =>
      have hc : c.utf8Size = 1 := by
        have := h c List.mem_cons_self
        rw [Char.utf8Size_eq_one_iff, UInt32.le_iff_toNat_le]
        change c.toNat ≤ 127
        omega
      have hrest := ih fun d hd => h d (List.mem_cons_of_mem _ hd)
      rw [utf8Bytes] at hrest
      rw [utf8Bytes, List.flatMap_cons, List.length_append, String.length_utf8EncodeChar, hc, hrest,
        List.length_cons]
      omega

theorem jsLength_ofList {text : List Char} (h : ∀ c ∈ text, c.toNat < 128) :
    jsLength (String.ofList text) = text.length := by
  have hone : (text.map fun c => if c.toNat < 0x10000 then 1 else 2) = text.map fun _ => 1 := by
    refine List.map_congr_left fun c hc => ?_
    have := h c hc
    rw [if_pos (by omega)]
  rw [jsLength, String.toList_ofList, hone]
  simp

theorem encode_ascii (bytes : List UInt8) : ∀ c ∈ Base64.encode bytes, c.toNat < 128 := by
  intro c hc
  obtain ⟨n, hn, rfl⟩ := List.mem_map.mp hc
  have h64 := Base64.lt_of_mem_sextets bytes n hn
  interval_cases n <;> decide

/-- A payload of few ASCII characters has a cursor that is not too long. -/
theorem jsLength_base64urlJson {payload : Json} (hascii : ∀ c ∈ payload.chars, c.toNat < 128)
    (hshort : payload.chars.length ≤ 383) :
    jsLength (base64urlJson payload) ≤ 512 ∧ base64urlJson payload ≠ "" := by
  have hbytes := length_utf8Bytes hascii
  have hle := Base64.length_encode_le (utf8Bytes payload.chars)
  constructor
  · rw [base64urlJson, jsLength_ofList (encode_ascii _)]
    omega
  · intro hempty
    have hparsed := parseBase64url_base64urlJson payload
    have hnone : parseBase64url "" = none := rfl
    rw [hempty, hnone] at hparsed
    exact absurd hparsed (by simp)

theorem plain_padded {width : Nat} {n : Int} : ∀ c ∈ (padded width n).toList, Plain c :=
  fun c hc => plain_of_digit (isDigit_of_mem_padded c hc)

/-- The text of an instant has no character that JSON escapes. -/
theorem plain_toISOString (instant : Int) : ∀ c ∈ (toISOString instant).toList, Plain c := by
  have hyear : ∀ year, ∀ c ∈ yearChars year, Plain c := by
    intro year c hc
    unfold yearChars at hc
    split_ifs at hc with hfour hneg
    · exact plain_padded c hc
    · rcases List.mem_cons.mp hc with rfl | hc
      · decide
      · exact plain_padded c hc
    · rcases List.mem_cons.mp hc with rfl | hc
      · decide
      · exact plain_padded c hc
  rw [toList_toISOString]
  simp only [List.forall_mem_append, List.forall_mem_cons]
  refine ⟨hyear _, by decide, plain_padded, by decide, plain_padded, by decide, plain_padded,
    by decide, plain_padded, by decide, plain_padded, by decide, plain_padded, by decide, by simp⟩

theorem length_toISOString {instant : Int} (h : ValidTime instant) :
    (toISOString instant).toList.length ≤ 27 := by
  obtain ⟨hlow, hhigh⟩ := h
  obtain ⟨hmonth, hmonthLe, hday, hdayLe⟩ := LunchLineup.Python.civilFromDays_bounds (instant / 86400000)
  obtain ⟨hyear, hyearLt⟩ := civilFromDays_year_lt (show -100000000 ≤ instant / 86400000 by omega)
    (by omega)
  have hyearLength : (yearChars (civilFromDays (instant / 86400000)).1).length ≤ 7 := by
    unfold yearChars
    split_ifs with hfour hneg
    · rw [length_padded (by decide) (by omega)]
      decide
    · rw [List.length_cons, length_padded (by decide) (by omega)]
    · rw [List.length_cons, length_padded (by decide) (by omega)]
  rw [toList_toISOString, civilDate_eq]
  simp only [List.length_append, List.length_cons, List.length_nil,
    length_padded (show 0 < 2 by decide)
      (show (civilFromDays (instant / 86400000)).2.1.natAbs < 10 ^ 2 by omega),
    length_padded (show 0 < 2 by decide)
      (show (civilFromDays (instant / 86400000)).2.2.natAbs < 10 ^ 2 by omega),
    length_padded (show 0 < 2 by decide)
      (show (instant % 86400000 / 3600000).natAbs < 10 ^ 2 by omega),
    length_padded (show 0 < 2 by decide)
      (show (instant % 86400000 / 60000 % 60).natAbs < 10 ^ 2 by omega),
    length_padded (show 0 < 2 by decide)
      (show (instant % 86400000 / 1000 % 60).natAbs < 10 ^ 2 by omega),
    length_padded (show 0 < 3 by decide)
      (show (instant % 86400000 % 1000).natAbs < 10 ^ 3 by omega)]
  omega

/-! ## Ids -/

theorem length_of_fits {kinds : List (Char → Bool)} {text : List Char} (h : fits kinds text = true) :
    text.length = kinds.length := by
  induction kinds generalizing text with
  | nil =>
      cases text with
      | nil => rfl
      | cons c text => simp [fits] at h
  | cons kind kinds ih =>
      cases text with
      | nil => simp [fits] at h
      | cons c text =>
          rw [fits, Bool.and_eq_true] at h
          rw [List.length_cons, List.length_cons, ih h.2]

/-- A text of some kinds is one of wider kinds. -/
theorem fits_of_imp {kinds wider : List (Char → Bool)} {text : List Char}
    (himp : List.Forall₂ (fun kind other => ∀ c, kind c = true → other c = true) kinds wider)
    (h : fits kinds text = true) : fits wider text = true := by
  induction himp generalizing text with
  | nil => exact h
  | cons hkind _ ih =>
      cases text with
      | nil => simp [fits] at h
      | cons c text =>
          rw [fits, Bool.and_eq_true] at h ⊢
          exact ⟨hkind c h.1, ih h.2⟩

theorem forall_of_fits {kinds : List (Char → Bool)} {text : List Char} {p : Char → Prop}
    (hkinds : ∀ kind ∈ kinds, ∀ c, kind c = true → p c) (h : fits kinds text = true) :
    ∀ c ∈ text, p c := by
  induction kinds generalizing text with
  | nil =>
      cases text with
      | nil => simp
      | cons c text => simp [fits] at h
  | cons kind kinds ih =>
      cases text with
      | nil => simp [fits] at h
      | cons c text =>
          rw [fits, Bool.and_eq_true] at h
          intro d hd
          rcases List.mem_cons.mp hd with rfl | hd
          · exact hkinds kind List.mem_cons_self d h.1
          · exact ih (fun other hother => hkinds other (List.mem_cons_of_mem _ hother)) h.2 d hd

theorem plain_of_isCursorId {text : String} (h : isCursorId text = true) :
    text.toList.length = 36 ∧ ∀ c ∈ text.toList, Plain c := by
  refine ⟨(length_of_fits h).trans (by simp), forall_of_fits ?_ h⟩
  intro kind hkind c hc
  obtain rfl := List.eq_of_mem_replicate hkind
  rw [Bool.or_eq_true, beq_iff_eq] at hc
  rcases hc with hc | rfl
  · exact plain_of_hex hc
  · decide

/-- Both patterns admit what they should of the values of a `uuid` column. -/
theorem isCursorId_of_kinds {hex version variant : Char → Bool} {text : String}
    (hhex : ∀ c, hex c = true → isHex c = true) (hversion : ∀ c, version c = true → isHex c = true)
    (hvariant : ∀ c, variant c = true → isHex c = true)
    (h : fits (uuidKinds hex version variant) text.toList = true) : isCursorId text = true := by
  refine fits_of_imp ?_ h
  simp +contextual [uuidKinds, List.replicate, hhex, hversion, hvariant]

theorem isHex_of_isLowerHex {c : Char} (h : isLowerHex c = true) : isHex c = true := by
  rw [isHex, h, Bool.true_or]

theorem Uuid.isCursorId (id : Uuid) : isCursorId id.text = true :=
  isCursorId_of_kinds (fun _ => isHex_of_isLowerHex) (fun _ => isHex_of_isLowerHex)
    (fun _ => isHex_of_isLowerHex) id.canonical

theorem isCursorId_of_isUuid {text : String} (h : isUuid text = true) : isCursorId text = true := by
  refine isCursorId_of_kinds (fun _ => id) ?_ ?_ h
  · intro c hc
    have hdigit : c.isDigit = true := by
      simp only [Bool.and_eq_true, decide_eq_true_eq] at hc
      exact isDigit_iff.mpr (by omega)
    rw [isHex, isLowerHex, hdigit, Bool.true_or, Bool.true_or]
  · intro c hc
    simp only [Bool.or_eq_true, beq_iff_eq] at hc
    rcases hc with ((((rfl | rfl) | rfl) | rfl) | rfl) | rfl <;> decide

theorem Uuid.Random.isUuid {id : Uuid} (h : id.Random) : isUuid id.text = true := by
  refine fits_of_imp ?_ h
  simp +contextual [uuidKinds, List.replicate, isHex_of_isLowerHex]

/-! ## The readers return what the writers were given -/

theorem isJsSpace_of_digit {c : Char} (h : c.isDigit = true) : isJsSpace c = false := by
  obtain ⟨hlow, hhigh⟩ := isDigit_iff.mp h
  simp only [isJsSpace, Bool.or_eq_false_iff, Bool.and_eq_false_iff, decide_eq_false_iff_not,
    beq_eq_false_iff_ne]
  omega

theorem jsTrim_eq_self {text : String} (h : ∀ c ∈ text.toList, isJsSpace c = false) :
    jsTrim text = text := by
  have hdrop : ∀ chars : List Char, (∀ c ∈ chars, isJsSpace c = false) →
      chars.dropWhile isJsSpace = chars := by
    intro chars hchars
    cases chars with
    | nil => rfl
    | cons c chars =>
        rw [List.dropWhile_cons_of_neg (by simp [hchars c List.mem_cons_self])]
  rw [jsTrim, hdrop _ h, hdrop _ fun c hc => h c (List.mem_reverse.mp hc), List.reverse_reverse,
    String.ofList_toList]

theorem ascii_of_plain {text : List Char} (h : ∀ c ∈ text, Plain c) : ∀ c ∈ text, c.toNat < 128 :=
  fun c hc => (h c hc).2.1.trans (by decide)

theorem ascii_quotedChars {text : List Char} (h : ∀ c ∈ text, Plain c) :
    ∀ c ∈ Json.quotedChars text, c.toNat < 128 := by
  rw [quotedChars_of_plain h]
  simp only [List.forall_mem_cons, List.forall_mem_append]
  exact ⟨by decide, ascii_of_plain h, by decide, by simp⟩

theorem length_quotedChars {text : List Char} (h : ∀ c ∈ text, Plain c) :
    (Json.quotedChars text).length = text.length + 2 := by
  rw [quotedChars_of_plain h]
  simp

/-- The payloads with a version. -/
theorem jsLength_versioned (name : String) {first second : String} (hname : ∀ c ∈ name.toList, Plain c)
    (hfirst : ∀ c ∈ first.toList, Plain c) (hsecond : ∀ c ∈ second.toList, Plain c)
    (hshort : name.toList.length + first.toList.length + second.toList.length ≤ 300) :
    jsLength (base64urlJson (.obj [("v", .num ⟨1, 0⟩), (name, .str first),
      ("publicId", .str second)])) ≤ 512 ∧
    base64urlJson (.obj [("v", .num ⟨1, 0⟩), (name, .str first), ("publicId", .str second)]) ≠ "" := by
  have hv : ∀ c ∈ "v".toList, Plain c := plain_of_all (by decide)
  have hid : ∀ c ∈ "publicId".toList, Plain c := plain_of_all (by decide)
  apply jsLength_base64urlJson
  · simp only [Json.chars, Json.membersChars, List.forall_mem_cons, List.forall_mem_append]
    have hone : Json.numeralChars ⟨1, 0⟩ = ['1'] := by decide
    exact ⟨by decide, ascii_quotedChars hv, by decide, by simp [hone], by decide,
      ascii_quotedChars hname, by decide, ascii_quotedChars hfirst, by decide, ascii_quotedChars hid,
      by decide, ascii_quotedChars hsecond, by decide, by simp⟩
  · have hone : (Json.numeralChars ⟨1, 0⟩).length = 1 := by decide
    simp only [Json.chars, Json.membersChars, List.length_cons, List.length_append,
      length_quotedChars hv, length_quotedChars hid, length_quotedChars hname,
      length_quotedChars hfirst, length_quotedChars hsecond, List.length_nil, hone]
    have : "v".toList.length = 1 ∧ "publicId".toList.length = 8 := by decide
    omega

/-- The operations cursor. -/
theorem decodeCursor_encodeCursor {cursor : OperationsCursor} {text : String}
    (h : encodeCursor cursor = .ok text) : decodeCursor (some text) = .ok (some cursor) := by
  obtain ⟨timestamp, publicId⟩ := cursor
  unfold encodeCursor at h
  split_ifs at h with hvalid
  obtain ⟨htime, hid⟩ := hvalid
  dsimp only at htime hid
  rw [← Except.ok.inj h]
  obtain ⟨hlength, hplain⟩ := plain_of_isCursorId hid
  have htext := length_toISOString htime
  obtain ⟨hle, hne⟩ := jsLength_versioned "timestamp" (plain_of_all (by decide))
    (plain_toISOString timestamp) hplain (by
      have : "timestamp".toList.length = 9 := by decide
      omega)
  have hread : operationsCursor? (.obj [("v", .num ⟨1, 0⟩),
      ("timestamp", .str (toISOString timestamp)), ("publicId", .str publicId)]) =
        some ⟨timestamp, publicId⟩ := by
    have hv : isOne (some (.num ⟨1, 0⟩)) = true := by decide
    simp [operationsCursor?, property, asText, hv, hid, newDate_toISOString htime]
  simp only [decodeCursor, if_neg hne, if_neg (not_lt.mpr hle), parseBase64url_base64urlJson,
    Option.bind_some, hread]

/-- The years that the readers of time cards admit. -/
def FourDigitYear (instant : Int) : Prop := -62167219200000 ≤ instant ∧ instant < 253402300800000

instance (instant : Int) : Decidable (FourDigitYear instant) := inferInstanceAs (Decidable (_ ∧ _))

theorem civilFromDays_four {date : Int} (h : -719528 ≤ date) (hlt : date < 2932897) :
    0 ≤ (civilFromDays date).1 ∧ (civilFromDays date).1 ≤ 9999 := by
  have hfirst : civilFromDays (-719528) = (0, 1, 1) := by decide
  have hlast : civilFromDays 2932897 = (10000, 1, 1) := by decide
  have hbounds := LunchLineup.Python.civilFromDays_bounds date
  constructor
  · rcases h.lt_or_eq with hafter | rfl
    · have hcivil := LunchLineup.Python.civilFromDays_lt hafter
      rw [hfirst] at hcivil
      unfold LunchLineup.Python.civilLt at hcivil
      dsimp only at hcivil
      omega
    · rw [hfirst]
  · have hcivil := LunchLineup.Python.civilFromDays_lt hlt
    rw [hlast] at hcivil
    unfold LunchLineup.Python.civilLt at hcivil
    dsimp only at hcivil
    omega

/-- The text of an instant in these years starts with its year. -/
theorem toISOString_four {instant : Int} (h : FourDigitYear instant) :
    ∃ rest, (toISOString instant).toList =
      (padded 4 (civilFromDays (instant / 86400000)).1).toList ++ '-' ::
        ((padded 2 (civilFromDays (instant / 86400000)).2.1).toList ++ '-' ::
        ((padded 2 (civilFromDays (instant / 86400000)).2.2).toList ++ 'T' :: rest)) := by
  obtain ⟨hlow, hhigh⟩ := h
  obtain ⟨hyear, hyearLe⟩ := civilFromDays_four (show -719528 ≤ instant / 86400000 by omega)
    (by omega)
  rw [toList_toISOString, civilDate_eq, yearChars, if_pos ⟨hyear, hyearLe⟩]
  exact ⟨_, rfl⟩

theorem newDateFourDigits_toISOString {instant : Int} (h : FourDigitYear instant) :
    newDateFourDigits (toISOString instant).toList = some instant := by
  have hvalid : ValidTime instant := by
    obtain ⟨hlow, hhigh⟩ := h
    exact ⟨by omega, by omega⟩
  have hfour : ((toISOString instant).toList.take 4).all Char.isDigit = true := by
    obtain ⟨rest, hrest⟩ := toISOString_four h
    obtain ⟨hlow, hhigh⟩ := h
    obtain ⟨hyear, hyearLe⟩ := civilFromDays_four (show -719528 ≤ instant / 86400000 by omega)
      (by omega)
    rw [hrest, List.take_left' (length_padded (by decide) (by omega))]
    exact List.all_eq_true.mpr isDigit_of_mem_padded
  rw [newDateFourDigits, if_pos hfour, newDate_toISOString hvalid]

/-- The cursor of the time cards. -/
theorem decodeTimeCardCursor_encodeTimeCardCursor {cursor : TimeCardCursor} {text : String}
    (hyear : FourDigitYear cursor.clockInAt) (hid : isUuid cursor.publicId = true)
    (h : encodeTimeCardCursor cursor = .ok text) :
    decodeTimeCardCursor (some text) = .ok (some cursor) := by
  obtain ⟨clockInAt, publicId⟩ := cursor
  dsimp only at hyear hid
  unfold encodeTimeCardCursor at h
  split_ifs at h with htime
  dsimp only at htime
  rw [← Except.ok.inj h]
  obtain ⟨hlength, hplain⟩ := plain_of_isCursorId (isCursorId_of_isUuid hid)
  have htext := length_toISOString htime
  obtain ⟨hle, hne⟩ := jsLength_versioned "clockInAt" (plain_of_all (by decide))
    (plain_toISOString clockInAt) hplain (by
      have : "clockInAt".toList.length = 9 := by decide
      omega)
  have hread : timeCardCursor? (.obj [("v", .num ⟨1, 0⟩),
      ("clockInAt", .str (toISOString clockInAt)), ("publicId", .str publicId)]) =
        some ⟨clockInAt, publicId⟩ := by
    have hv : isOne (some (.num ⟨1, 0⟩)) = true := by decide
    simp [timeCardCursor?, property, asText, hv, hid, newDateFourDigits_toISOString hyear]
  simp only [decodeTimeCardCursor, if_neg hne, if_neg (not_lt.mpr hle),
    parseBase64url_base64urlJson, Option.bind_some, hread]

/-- The text of a date is read back. -/
theorem dateOnlyForPrisma_serializeDateOnly {date : Int} (h : ValidDate date) :
    dateOnlyForPrisma (serializeDateOnly date) = .ok date ∧
      (serializeDateOnly date).toList.length = 10 ∧
      ∀ c ∈ (serializeDateOnly date).toList, Plain c := by
  obtain ⟨hlow, hhigh⟩ := h
  have hfour : FourDigitYear (date * 86400000) := ⟨by omega, by omega⟩
  obtain ⟨rest, hrest⟩ := toISOString_four hfour
  have hdate : date * 86400000 / 86400000 = date := Int.mul_ediv_cancel date (by decide)
  obtain ⟨hyear, hyearLe⟩ := civilFromDays_four (show -719528 ≤ date by omega) (by omega)
  obtain ⟨hmonth, hmonthLe, hday, hdayLe⟩ := LunchLineup.Python.civilFromDays_bounds date
  have hcivil := daysFromCivil_civilFromDays date
  have hhundred : 100 ≤ (civilFromDays date).1 := by
    have hfirst : civilFromDays (-683003) = (100, 1, 1) := by decide
    rcases hlow.lt_or_eq with hafter | rfl
    · have hlt := LunchLineup.Python.civilFromDays_lt hafter
      rw [hfirst] at hlt
      unfold LunchLineup.Python.civilLt at hlt
      dsimp only at hlt
      omega
    · rw [hfirst]
  rw [hdate] at hrest
  generalize hfields : civilFromDays date = civil at *
  obtain ⟨year, month, dayOfMonth⟩ := civil
  dsimp only at *
  have hyearLength := length_padded (show 0 < 4 by decide) (show year.natAbs < 10 ^ 4 by omega)
  have hmonthLength := length_padded (show 0 < 2 by decide) (show month.natAbs < 10 ^ 2 by omega)
  have hdayLength :=
    length_padded (show 0 < 2 by decide) (show dayOfMonth.natAbs < 10 ^ 2 by omega)
  have hchars : (serializeDateOnly date).toList = (padded 4 year).toList ++ '-' ::
      ((padded 2 month).toList ++ '-' :: (padded 2 dayOfMonth).toList) := by
    rw [serializeDateOnly, String.toList_ofList, hrest]
    have hsplit : (padded 4 year).toList ++ '-' :: ((padded 2 month).toList ++ '-' ::
        ((padded 2 dayOfMonth).toList ++ 'T' :: rest)) =
        ((padded 4 year).toList ++ '-' :: ((padded 2 month).toList ++ '-' ::
          (padded 2 dayOfMonth).toList)) ++ 'T' :: rest := by simp
    rw [hsplit, List.take_left']
    simp [hyearLength, hmonthLength, hdayLength]
  have hplain : ∀ c ∈ (serializeDateOnly date).toList, Plain c ∧ isJsSpace c = false := by
    have hfield : ∀ (width : Nat) (n : Int), ∀ c ∈ (padded width n).toList,
        Plain c ∧ isJsSpace c = false :=
      fun width n c hc => ⟨plain_padded c hc, isJsSpace_of_digit (isDigit_of_mem_padded c hc)⟩
    rw [hchars]
    simp only [List.forall_mem_append, List.forall_mem_cons]
    exact ⟨hfield _ _, by decide, hfield _ _, by decide, hfield _ _⟩
  have hyearAbs : (year.natAbs : Int) = year := by omega
  have hmonthAbs : (month.natAbs : Int) = month := by omega
  have hdayAbs : (dayOfMonth.natAbs : Int) = dayOfMonth := by omega
  have hlast := digits?_padded (show 0 < 2 by decide) (show dayOfMonth.natAbs < 10 ^ 2 by omega) []
  rw [List.append_nil] at hlast
  have hread : dateOnly? (serializeDateOnly date).toList = some date := by
    rw [hchars]
    simp only [dateOnly?, Option.bind_eq_bind, Option.bind_some, expect?, if_true,
      digits?_padded (show 0 < 4 by decide) (show year.natAbs < 10 ^ 4 by omega),
      digits?_padded (show 0 < 2 by decide) (show month.natAbs < 10 ^ 2 by omega), hlast,
      hyearAbs, hmonthAbs, hdayAbs, hcivil, hfields]
    rw [if_pos ⟨trivial, hhundred, trivial⟩]
    rfl
  refine ⟨?_, ?_, fun c hc => (hplain c hc).1⟩
  · rw [dateOnlyForPrisma, jsTrim_eq_self fun c hc => (hplain c hc).2]
    simp only [hread]
  · rw [hchars]
    simp [hyearLength, hmonthLength, hdayLength]

/-- The cursor of the pay periods. -/
theorem readPeriodCursor_encodePeriodCursor {cursor : PeriodCursor}
    (hdate : ValidDate cursor.localStartDate) (hid : isCursorId cursor.publicId = true) :
    readPeriodCursor (some (encodePeriodCursor cursor)) = .ok (some cursor) := by
  obtain ⟨localStartDate, publicId⟩ := cursor
  dsimp only at hdate hid
  obtain ⟨hread, hdateLength, hdatePlain⟩ := dateOnlyForPrisma_serializeDateOnly hdate
  obtain ⟨hidLength, hidPlain⟩ := plain_of_isCursorId hid
  have hname : ∀ c ∈ "localStartDate".toList, Plain c := plain_of_all (by decide)
  have hidName : ∀ c ∈ "publicId".toList, Plain c := plain_of_all (by decide)
  have hlengths : "localStartDate".toList.length = 14 ∧ "publicId".toList.length = 8 := by decide
  obtain ⟨hle, hne⟩ : jsLength (encodePeriodCursor ⟨localStartDate, publicId⟩) ≤ 512 ∧
      encodePeriodCursor ⟨localStartDate, publicId⟩ ≠ "" := by
    apply jsLength_base64urlJson
    · simp only [Json.chars, Json.membersChars, List.forall_mem_cons, List.forall_mem_append]
      exact ⟨by decide, ascii_quotedChars hname, by decide, ascii_quotedChars hdatePlain,
        by decide, ascii_quotedChars hidName, by decide, ascii_quotedChars hidPlain, by decide,
        by simp⟩
    · simp only [Json.chars, Json.membersChars, List.length_cons, List.length_append,
        length_quotedChars hname, length_quotedChars hidName, length_quotedChars hdatePlain,
        length_quotedChars hidPlain, List.length_nil]
      omega
  have hshort : ∀ text : String, (∀ c ∈ text.toList, Plain c) → text.toList.length ≤ 512 →
      0 < text.toList.length → ¬(text = "" ∨ 512 < jsLength text) := by
    intro text hplain hlength hpos
    have hjs : jsLength text = text.toList.length := by
      conv_lhs => rw [← String.ofList_toList (s := text)]
      exact jsLength_ofList (ascii_of_plain hplain)
    rintro (rfl | hlong)
    · exact absurd hpos (by decide)
    · omega
  have hpayload : decodePayrollCursor (some (encodePeriodCursor ⟨localStartDate, publicId⟩))
      "period_cursor" = .ok (some [("localStartDate", .str (serializeDateOnly localStartDate)),
        ("publicId", .str publicId)]) := by
    simp only [decodePayrollCursor]
    rw [if_neg (not_or.mpr ⟨hne, not_lt.mpr hle⟩), encodePeriodCursor,
      parseBase64url_base64urlJson]
  have hdateText := hshort _ hdatePlain (by omega) (by omega)
  have hidText := hshort _ hidPlain (by omega) (by omega)
  have hfirst : cursorText (some [("localStartDate", .str (serializeDateOnly localStartDate)),
      ("publicId", .str publicId)]) "localStartDate" "period_cursor" =
        .ok (some (serializeDateOnly localStartDate)) := by
    have hproperty : property [("localStartDate", .str (serializeDateOnly localStartDate)),
        ("publicId", .str publicId)] "localStartDate" =
          some (.str (serializeDateOnly localStartDate)) := rfl
    simp only [cursorText, hproperty, asText, if_neg hdateText]
  have hsecond : cursorText (some [("localStartDate", .str (serializeDateOnly localStartDate)),
      ("publicId", .str publicId)]) "publicId" "period_cursor" = .ok (some publicId) := by
    have hproperty : property [("localStartDate", .str (serializeDateOnly localStartDate)),
        ("publicId", .str publicId)] "publicId" = some (.str publicId) := rfl
    simp only [cursorText, hproperty, asText, if_neg hidText]
  unfold readPeriodCursor
  rw [hpayload, LunchLineup.Lib.ok_bind, hfirst, LunchLineup.Lib.ok_bind, hsecond,
    LunchLineup.Lib.ok_bind]
  simp only [hread, LunchLineup.Lib.ok_bind, Option.getD_some]

end LunchLineup.Pagination
