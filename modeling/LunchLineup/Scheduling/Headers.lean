import LunchLineup.Lib.Decimal
import LunchLineup.Pagination.Cursors
import LunchLineup.Scheduling.Plan

/-!
# The headers of a scheduling write

Every write on a saved schedule names the revision that its author saw, as the entity tag
of that revision in `If-Match`, and an idempotency key.  The tag has the public id of the
schedule in it, 36 hex digits and dashes, so a tag of one schedule is refused for all others.
-/

namespace LunchLineup.Scheduling

open LunchLineup.Lib
open LunchLineup.Billing (jsTrim isJsSpace maxSafeInteger)
open LunchLineup.Pagination (isLowerHex isDigit_iff isJsSpace_of_digit jsTrim_eq_self)

/-! ## Entity tags -/

/-- What a tag begins with. -/
def etagHead : List Char := ['"', 's', 'c', 'h', 'e', 'd', 'u', 'l', 'e', ':']

/-- `scheduleEtag`. -/
def scheduleEtag (schedulePublicId : String) (revision : Int) : String :=
  "\"schedule:" ++ schedulePublicId ++ ":" ++ toString revision ++ "\""

/-- `[0-9a-f-]`. -/
def isEtagIdChar (c : Char) : Bool := isLowerHex c || c == '-'

/-- The text has the form of an id in a tag, `[0-9a-f-]{36}`. -/
def IsEtagId (id : List Char) : Prop := id.length = 36 ∧ id.all isEtagIdChar = true

instance (id : List Char) : Decidable (IsEtagId id) := inferInstanceAs (Decidable (_ ∧ _))

/-- The groups of `/^"schedule:([0-9a-f-]{36}):(\d+)"$/`. -/
def etagParts? (text : List Char) : Option (List Char × List Char) :=
  let rest := text.drop etagHead.length
  let id := rest.take 36
  let tail := rest.drop 37
  let digits := tail.takeWhile Char.isDigit
  if text.take etagHead.length = etagHead ∧ IsEtagId id ∧ rest[36]? = some ':' ∧ digits ≠ [] ∧
      tail.dropWhile Char.isDigit = ['"'] then
    some (id, digits)
  else none

def invalidIfMatch : Problem := ⟨428, "invalid_if_match", []⟩

/-- `requireScheduleRevision`. -/
def requireScheduleRevision (ifMatch : Option String) (schedulePublicId : String) :
    Except Problem Int :=
  let trimmed := (ifMatch.map jsTrim).getD ""
  if trimmed = "" then .error ⟨428, "if_match_required", []⟩
  else
    match etagParts? trimmed.toList with
    | none => .error invalidIfMatch
    | some (id, digits) => do
        ensure (id = schedulePublicId.toList) invalidIfMatch
        ensure ((Json.natValue digits : Int) ≤ maxSafeInteger) invalidIfMatch
        .ok (Json.natValue digits)

/-- `requireIdempotencyKey`. -/
def requireIdempotencyKey (value : Option String) : Except Problem String :=
  (Breaks.requireIdempotencyKey value).mapError fun _ => ⟨428, "idempotency_key_required", []⟩

/-! ## What the pattern accepts -/

theorem etagParts?_eq_some {text id digits : List Char} :
    etagParts? text = some (id, digits) ↔ text = etagHead ++ (id ++ ':' :: (digits ++ ['"'])) ∧
      IsEtagId id ∧ digits ≠ [] ∧ digits.all Char.isDigit = true := by
  constructor
  · intro h
    unfold etagParts? at h
    simp only at h
    split_ifs at h with hparts
    obtain ⟨hhead, hid, hcolon, hdigits, hquote⟩ := hparts
    obtain ⟨rfl, rfl⟩ := Prod.mk.inj (Option.some.inj h)
    obtain ⟨rest, hrest⟩ : ∃ rest, rest = text.drop etagHead.length := ⟨_, rfl⟩
    rw [← hrest] at hid hcolon hdigits hquote ⊢
    have hsplit : rest = rest.take 36 ++ ':' :: rest.drop 37 := by
      obtain ⟨hlt, hget⟩ := List.getElem?_eq_some_iff.mp hcolon
      calc
        rest = rest.take 36 ++ rest.drop 36 := (List.take_append_drop 36 rest).symm
        _ = rest.take 36 ++ ':' :: rest.drop 37 := by rw [List.drop_eq_getElem_cons hlt, hget]
    have htail : rest.drop 37 = (rest.drop 37).takeWhile Char.isDigit ++ ['"'] := by
      rw [← hquote, List.takeWhile_append_dropWhile]
    refine ⟨?_, hid, hdigits, List.all_eq_true.mpr fun c hc => List.mem_takeWhile_imp hc⟩
    calc
      text = text.take etagHead.length ++ rest := by rw [hrest, List.take_append_drop]
      _ = etagHead ++ (rest.take 36 ++ ':' :: rest.drop 37) := by rw [hhead, ← hsplit]
      _ = _ := by rw [← htail]
  · rintro ⟨rfl, hid, hdigits, hall⟩
    have hrest : (etagHead ++ (id ++ ':' :: (digits ++ ['"']))).drop etagHead.length =
        id ++ ':' :: (digits ++ ['"']) := List.drop_left
    have htake : (id ++ ':' :: (digits ++ ['"'])).take 36 = id := by
      rw [← hid.1, List.take_left]
    have hdrop : (id ++ ':' :: (digits ++ ['"'])).drop 37 = digits ++ ['"'] := by
      rw [show 37 = id.length + 1 by rw [hid.1], ← List.drop_drop, List.drop_left]
      rfl
    have hcolon : (id ++ ':' :: (digits ++ ['"']))[36]? = some ':' := by
      rw [← hid.1, List.getElem?_append_right le_rfl, Nat.sub_self]
      rfl
    have hpos : ∀ c ∈ digits, c.isDigit = true := List.all_eq_true.mp hall
    have htakeDigits : (digits ++ ['"']).takeWhile Char.isDigit = digits := by
      rw [List.takeWhile_append_of_pos hpos]
      simp
    have hdropDigits : (digits ++ ['"']).dropWhile Char.isDigit = ['"'] := by
      rw [List.dropWhile_append_of_pos hpos]
      rfl
    unfold etagParts?
    simp only [hrest, htake, hdrop, hcolon, htakeDigits, hdropDigits, List.take_left]
    rw [if_pos ⟨trivial, hid, trivial, hdigits, trivial⟩]

/-- The revision of a header is the number in a tag of the schedule. -/
theorem requireScheduleRevision_eq_ok {text schedulePublicId : String} {revision : Int} :
    requireScheduleRevision (some text) schedulePublicId = .ok revision ↔
      ∃ digits, (jsTrim text).toList =
          etagHead ++ (schedulePublicId.toList ++ ':' :: (digits ++ ['"'])) ∧
        IsEtagId schedulePublicId.toList ∧ digits ≠ [] ∧ digits.all Char.isDigit = true ∧
        revision = Json.natValue digits ∧ revision ≤ maxSafeInteger := by
  unfold requireScheduleRevision
  simp only [Option.map_some, Option.getD_some]
  constructor
  · intro h
    split_ifs at h with hempty
    cases hparts : etagParts? (jsTrim text).toList with
    | none => simp [hparts] at h
    | some parts =>
        obtain ⟨id, digits⟩ := parts
        simp only [hparts, bind_eq_ok, ensure_eq_ok] at h
        obtain ⟨_, rfl, _, hsafe, hrevision⟩ := h
        obtain ⟨htext, hid, hdigits, hall⟩ := etagParts?_eq_some.mp hparts
        obtain rfl := Except.ok.inj hrevision
        exact ⟨digits, htext, hid, hdigits, hall, rfl, hsafe⟩
  · rintro ⟨digits, htext, hid, hdigits, hall, rfl, hsafe⟩
    have hnonempty : jsTrim text ≠ "" := by
      intro hempty
      have hlength := congrArg List.length htext
      rw [hempty] at hlength
      simp [etagHead] at hlength
    rw [if_neg hnonempty, etagParts?_eq_some.mpr ⟨htext, hid, hdigits, hall⟩]
    simp only [ensure_of_true _ hsafe, ensure_of_true _ trivial, ok_bind]

/-! ## Tags that are written -/

theorem toList_scheduleEtag (schedulePublicId : String) (revision : Nat) :
    (scheduleEtag schedulePublicId revision).toList =
      etagHead ++ (schedulePublicId.toList ++ ':' :: (Nat.toDigits 10 revision ++ ['"'])) := by
  have hdigits : (toString (revision : Int)).toList = Nat.toDigits 10 revision :=
    toList_ofNat revision
  have hhead : "\"schedule:".toList = etagHead := by decide
  have hcolon : ":".toList = [':'] := by decide
  have hquote : "\"".toList = ['"'] := by decide
  simp only [scheduleEtag, String.toList_append, hdigits, hhead, hcolon, hquote, List.append_assoc,
    List.cons_append, List.nil_append]

theorem isJsSpace_of_isEtagIdChar {c : Char} (h : isEtagIdChar c = true) :
    isJsSpace c = false := by
  simp only [isEtagIdChar, isLowerHex, Bool.or_eq_true, Bool.and_eq_true, decide_eq_true_eq,
    beq_iff_eq] at h
  rcases h with (hdigit | hletter) | rfl
  · exact isJsSpace_of_digit hdigit
  · simp only [isJsSpace, Bool.or_eq_false_iff, Bool.and_eq_false_iff, decide_eq_false_iff_not,
      beq_eq_false_iff_ne]
    omega
  · decide

/-- A tag has no spaces to trim. -/
theorem jsTrim_scheduleEtag {schedulePublicId : String} (hid : IsEtagId schedulePublicId.toList)
    (revision : Nat) :
    jsTrim (scheduleEtag schedulePublicId revision) = scheduleEtag schedulePublicId revision := by
  apply jsTrim_eq_self
  rw [toList_scheduleEtag]
  intro c hc
  simp only [List.mem_append, List.mem_cons, List.not_mem_nil, or_false] at hc
  rcases hc with hhead | hmem | rfl | hdigit | rfl
  · have hplain : etagHead.all (fun c => !isJsSpace c) = true := by decide
    simpa using List.all_eq_true.mp hplain c hhead
  · exact isJsSpace_of_isEtagIdChar (List.all_eq_true.mp hid.2 c hmem)
  · decide
  · exact isJsSpace_of_digit (isDigit_of_mem hdigit)
  · decide

/-- A tag that was written is accepted for its schedule and for no other, and as its
revision. -/
theorem requireScheduleRevision_etag {schedulePublicId : String} {revision : Nat}
    (hid : IsEtagId schedulePublicId.toList) (hsafe : (revision : Int) ≤ maxSafeInteger)
    (other : String) (found : Int) :
    requireScheduleRevision (some (scheduleEtag schedulePublicId revision)) other = .ok found ↔
      other = schedulePublicId ∧ found = revision := by
  rw [requireScheduleRevision_eq_ok, jsTrim_scheduleEtag hid, toList_scheduleEtag]
  constructor
  · rintro ⟨digits, htext, hother, -, -, rfl, -⟩
    have hrest := List.append_cancel_left htext
    obtain ⟨hsame, htail⟩ := List.append_inj hrest (hid.1.trans hother.1.symm)
    have hdigits : Nat.toDigits 10 revision = digits :=
      List.append_cancel_right (List.cons.inj htail).2
    refine ⟨String.toList_injective hsame.symm, ?_⟩
    rw [← hdigits, Json.natValue, Nat.ofDigitChars_ten_toDigits]
  · rintro ⟨rfl, rfl⟩
    refine ⟨Nat.toDigits 10 revision, rfl, hid, ?_, ?_, ?_, hsafe⟩
    · exact Nat.toDigits_ne_nil
    · exact List.all_eq_true.mpr fun c hc => isDigit_of_mem hc
    · rw [Json.natValue, Nat.ofDigitChars_ten_toDigits]

/-- The third revision of a schedule, as its tag. -/
theorem third_revision_tag :
    requireScheduleRevision
      (some (scheduleEtag "0b5c3a52-7d4e-4f0a-9f6e-3d2c1b0a9e8f" (3 : Nat)))
      "0b5c3a52-7d4e-4f0a-9f6e-3d2c1b0a9e8f" = .ok 3 :=
  (requireScheduleRevision_etag (by decide) (by decide) _ 3).mpr ⟨rfl, rfl⟩

end LunchLineup.Scheduling
