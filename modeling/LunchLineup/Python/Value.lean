import Mathlib.Tactic
import Mathlib.Data.Rat.Floor
import Mathlib.Data.List.DropRight
import Mathlib.Data.String.Basic
import LunchLineup.Lib.Checked
import LunchLineup.Lib.Dict
import LunchLineup.Lib.Interval

/-!
# Python values and texts

The engine and the worker read JSON-shaped Python objects: the values of this
file.  A `float` is a finite one and is held as the rational it denotes.  Texts
are strings of code points; `strip` and the pattern `\s` use the code points of
`str.isspace`.
-/

namespace LunchLineup.Python

open LunchLineup.Lib

/-- A value of the JSON-shaped fragment of Python. -/
inductive PyValue
  | none
  | bool (value : Bool)
  | int (value : Int)
  | float (value : ℚ)
  | str (value : String)
  | list (items : List PyValue)
  | dict (entries : List (String × PyValue))

namespace PyValue

/-- `bool(value)`. -/
def truthy : PyValue → Bool
  | .none => false
  | .bool value => value
  | .int value => value ≠ 0
  | .float value => value ≠ 0
  | .str value => value ≠ ""
  | .list items => !items.isEmpty
  | .dict entries => !entries.isEmpty

/-- `value is None`. -/
def isNone : PyValue → Bool
  | .none => true
  | _ => false

/-- `isinstance(value, dict)`. -/
def isDict : PyValue → Bool
  | .dict _ => true
  | _ => false

end PyValue

/-- `d.get(key)` on a JSON object: a missing key reads as `None`. -/
def getValue (entries : Dict String PyValue) (key : String) : PyValue :=
  Dict.getD entries key .none

/-! ## Texts -/

/-- `str.isspace` on one code point. -/
def isSpace (c : Char) : Bool :=
  let n := c.toNat
  (9 ≤ n && n ≤ 13) || (28 ≤ n && n ≤ 32) || n == 0x85 || n == 0xa0 || n == 0x1680 ||
    (0x2000 ≤ n && n ≤ 0x200a) || n == 0x2028 || n == 0x2029 || n == 0x202f || n == 0x205f ||
    n == 0x3000

/-- The code points of `text.strip()`. -/
def stripChars (chars : List Char) : List Char :=
  ((chars.dropWhile isSpace).reverse.dropWhile isSpace).reverse

/-- `text.strip()`. -/
def strip (text : String) : String :=
  String.ofList (stripChars text.toList)

/-- `re.sub(r"\s+", " ", text)` on code points: each run of spaces becomes one. -/
def collapseChars : List Char → List Char
  | [] => []
  | [c] => [if isSpace c then ' ' else c]
  | c :: d :: rest =>
      if isSpace c && isSpace d then collapseChars (d :: rest)
      else (if isSpace c then ' ' else c) :: collapseChars (d :: rest)

/-- `re.sub(r"\s+", " ", text)`. -/
def collapseSpaces (text : String) : String :=
  String.ofList (collapseChars text.toList)

/-- The pattern `[A-Za-z0-9._:@+-]{1,128}`. -/
def isIdentifier (text : String) : Bool :=
  1 ≤ text.length && text.length ≤ 128 &&
    text.toList.all fun c =>
      ('A' ≤ c && c ≤ 'Z') || ('a' ≤ c && c ≤ 'z') || ('0' ≤ c && c ≤ '9') ||
        c ∈ ['.', '_', ':', '@', '+', '-']

/-- Stop at the first key, in order, that a record does not know:
`sorted(set(value) - allowed)[0]`. -/
def rejectUnknown (keys allowed : List String) (message : String) : Except String Unit :=
  match sortedSet (keys.filter fun key => key ∉ allowed) with
  | [] => .ok ()
  | key :: _ => .error (message ++ key)

theorem rejectUnknown_eq_ok {keys allowed : List String} {message : String} {u : Unit} :
    rejectUnknown keys allowed message = .ok u ↔ ∀ key ∈ keys, key ∈ allowed := by
  have hmem : ∀ key, key ∈ sortedSet (keys.filter fun key => key ∉ allowed) ↔
      key ∈ keys ∧ key ∉ allowed := by simp
  unfold rejectUnknown
  split
  · rename_i hnil
    simp only [true_iff]
    intro key hkey
    by_contra hnot
    have := (hmem key).mpr ⟨hkey, hnot⟩
    rw [hnil] at this
    simp at this
  · rename_i first rest hcons
    have hfirst := (hmem first).mp (by rw [hcons]; simp)
    simp only [reduceCtorEq, false_iff]
    intro hall
    exact hfirst.2 (hall first hfirst.1)

/-- The loop shared by the validators of `staff_ids`: trim every id, stop at an
invalid one, and keep the first occurrence of each. -/
def collectIds (valid : String → Bool) (message : String) (seen : List String) :
    List String → Except String (List String)
  | [] => .ok seen
  | staffId :: rest => do
      ensure (valid (strip staffId) = true) message
      collectIds valid message
        (if strip staffId ∈ seen then seen else seen ++ [strip staffId]) rest

theorem stripChars_idem (chars : List Char) : stripChars (stripChars chars) = stripChars chars := by
  have hback : ∀ l : List Char, l.dropWhile isSpace = l →
      (l.reverse.dropWhile isSpace).reverse.dropWhile isSpace =
        (l.reverse.dropWhile isSpace).reverse := by
    intro l hl
    cases htail : (l.reverse.dropWhile isSpace).reverse with
    | nil => rfl
    | cons c rest =>
        have hprefix : (l.reverse.dropWhile isSpace).reverse <+: l := by
          have hsuffix : l.reverse.dropWhile isSpace <:+ l.reverse := List.dropWhile_suffix _
          simpa using List.reverse_prefix.mpr hsuffix
        rw [htail] at hprefix
        obtain ⟨more, rfl⟩ := hprefix
        rw [List.cons_append, List.dropWhile_cons] at hl
        by_cases hspace : isSpace c
        · rw [if_pos hspace] at hl
          have hlen := (List.dropWhile_suffix (l := rest ++ more) isSpace).length_le
          rw [hl] at hlen
          simp at hlen
        · rw [List.dropWhile_cons, if_neg hspace]
  unfold stripChars
  rw [hback _ (List.dropWhile_idempotent isSpace chars), List.reverse_reverse,
    List.dropWhile_idempotent]

@[simp] theorem strip_strip (text : String) : strip (strip text) = strip text := by
  simp [strip, stripChars_idem]

/-- Collected ids are distinct, trimmed and valid. -/
theorem collectIds_ok {valid : String → Bool} {message : String} {seen staffIds out : List String}
    (hseen : seen.Nodup) (hvalid : ∀ staffId ∈ seen, strip staffId = staffId ∧ valid staffId = true)
    (h : collectIds valid message seen staffIds = .ok out) :
    out.Nodup ∧ ∀ staffId ∈ out, strip staffId = staffId ∧ valid staffId = true := by
  induction staffIds generalizing seen with
  | nil =>
      cases h
      exact ⟨hseen, hvalid⟩
  | cons staffId rest ih =>
      rw [collectIds, bind_eq_ok] at h
      obtain ⟨_, hchecked, hrest⟩ := h
      rw [ensure_eq_ok] at hchecked
      by_cases hmem : strip staffId ∈ seen
      · rw [if_pos hmem] at hrest
        exact ih hseen hvalid hrest
      · rw [if_neg hmem] at hrest
        refine ih ?_ ?_ hrest
        · refine List.nodup_append.mpr ⟨hseen, List.nodup_singleton _, ?_⟩
          intro other hother trimmed htrimmed heq
          rw [List.mem_singleton.mp htrimmed] at heq
          exact hmem (heq ▸ hother)
        · intro other hother
          rcases List.mem_append.mp hother with hother | hother
          · exact hvalid other hother
          · rw [List.mem_singleton.mp hother]
            exact ⟨strip_strip staffId, hchecked⟩

theorem length_le_of_collectIds {valid : String → Bool} {message : String}
    {seen staffIds out : List String} (h : collectIds valid message seen staffIds = .ok out) :
    seen.length ≤ out.length ∧ (staffIds ≠ [] → out ≠ []) := by
  induction staffIds generalizing seen with
  | nil =>
      cases h
      simp
  | cons staffId rest ih =>
      rw [collectIds, bind_eq_ok] at h
      obtain ⟨_, _, hrest⟩ := h
      have hlength := (ih hrest).1
      by_cases hmem : strip staffId ∈ seen
      · rw [if_pos hmem] at hlength
        have hpos := List.length_pos_of_mem hmem
        exact ⟨hlength, fun _ => List.length_pos_iff.mp (by omega)⟩
      · rw [if_neg hmem, List.length_append, List.length_singleton] at hlength
        exact ⟨by omega, fun _ => List.length_pos_iff.mp (by omega)⟩

/-- Ids that are distinct, trimmed and valid are collected as they are. -/
theorem collectIds_of_clean {valid : String → Bool} {message : String}
    {seen staffIds : List String} (hnodup : (seen ++ staffIds).Nodup)
    (hvalid : ∀ staffId ∈ staffIds, strip staffId = staffId ∧ valid staffId = true) :
    collectIds valid message seen staffIds = .ok (seen ++ staffIds) := by
  induction staffIds generalizing seen with
  | nil => simp [collectIds]
  | cons staffId rest ih =>
      obtain ⟨htrimmed, hchecked⟩ := hvalid staffId (by simp)
      have hfresh : staffId ∉ seen := by
        intro hmem
        exact (List.nodup_append.mp hnodup).2.2 staffId hmem staffId (by simp) rfl
      rw [collectIds, htrimmed, ensure_of_true _ hchecked, ok_bind, if_neg hfresh, ih]
      · simp
      · simpa using hnodup
      · intro other hother
        exact hvalid other (List.mem_cons_of_mem _ hother)

theorem length_strip_le (text : String) : (strip text).length ≤ text.length := by
  have hfront := (List.dropWhile_suffix (l := text.toList) isSpace).length_le
  have hback := (List.dropWhile_suffix (l := (text.toList.dropWhile isSpace).reverse)
    isSpace).length_le
  simp only [List.length_reverse] at hback
  calc (strip text).length
      = ((text.toList.dropWhile isSpace).reverse.dropWhile isSpace).length := by
        simp [strip, stripChars]
    _ ≤ (text.toList.dropWhile isSpace).length := hback
    _ ≤ text.toList.length := hfront
    _ = text.length := String.length_toList

/-! ## Rounding -/

/-- `int(value)` of a float: truncation towards zero. -/
def truncate (value : ℚ) : Int :=
  if 0 ≤ value then ⌊value⌋ else ⌈value⌉

/-- Division of integers rounded to the nearest, ties to the even quotient:
`timedelta / int`. -/
def divideAndRound (n d : Int) : Int :=
  let q := n / d
  let r := n % d
  if 2 * r < d then q
  else if d < 2 * r then q + 1
  else if q % 2 = 0 then q else q + 1

/-- `round(value)` of a float: the nearest integer, ties to even. -/
def roundHalfEven (value : ℚ) : Int :=
  divideAndRound value.num value.den

/-- Exact quotients are not rounded. -/
theorem divideAndRound_mul (k d : Int) (hd : 0 < d) : divideAndRound (k * d) d = k := by
  unfold divideAndRound
  simp [Int.mul_ediv_cancel _ hd.ne', hd]

end LunchLineup.Python
