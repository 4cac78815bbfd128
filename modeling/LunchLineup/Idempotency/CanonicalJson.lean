import LunchLineup.Lib.JsonTree
import LunchLineup.Lib.JsText
import LunchLineup.Payroll.LockedSnapshots

/-!
# Canonical JSON

The two ways in which the service gives a request body one text: payroll arranges a copy
of the value (`canonicalJsonValue` of `payroll/domain.ts`) and lets `JSON.stringify`
write it, scheduling writes the text itself (`canonicalJson` of
`scheduling/contract-helpers.ts`).  An object is the list of its own properties in the
order in which `Object.entries` gives them; keys and texts are lists of UTF-16 code units.

On JSON values, which have no `undefined` and no `Date` in them, both are texts of an
arranged tree: payroll sorts the members of an object by `localeCompare`, and the new
object then has its array indices before the other keys; scheduling keeps the sorted
order.
-/

namespace LunchLineup.Idempotency

open LunchLineup.Lib
open LunchLineup.Payroll.Snapshots (Instant)

/-! ## Values -/

/-- A value that is neither an array nor an object with members. -/
inductive Leaf where
  | undefined
  | null
  | boolean (value : Bool)
  | number (value : JsonNumber)
  | string (text : Units)
  | date (instant : Instant)
  deriving DecidableEq

/-- A value as it comes out of a request or of the database. -/
abbrev JsValue := Tree Units Leaf

def isUndefined : JsValue → Bool
  | .leaf .undefined => true
  | _ => false

def Leaf.IsJson : Leaf → Prop
  | .undefined => False
  | .date _ => False
  | _ => True

/-- A JSON value: nothing undefined and no date in it, and the keys of every object
distinct. -/
abbrev JsonValue := {value : JsValue // value.Proper Leaf.IsJson}

/-! ## `JSON.stringify` -/

/-- The text of a leaf; `undefined` has none, and a date is written by its `toJSON`. -/
def leafText : Leaf → Option (List Char)
  | .undefined => none
  | .null => some ['n', 'u', 'l', 'l']
  | .boolean true => some ['t', 'r', 'u', 'e']
  | .boolean false => some ['f', 'a', 'l', 's', 'e']
  | .number value => some (numberText value)
  | .string text => some (quote text)
  | .date instant => some (quote (unitsOf instant.text))

/-- `JSON.stringify`: an undefined item is written as `null`, an undefined property is
left out. -/
def stringify : JsValue → Option (List Char)
  | .leaf leaf => leafText leaf
  | .arr items =>
      some ('[' :: (separated (items.attach.map fun item =>
        (stringify item.1).getD ['n', 'u', 'l', 'l']) ++ [']']))
  | .obj members =>
      some ('{' :: (separated (members.attach.filterMap fun member =>
        (stringify member.1.2).map fun text => quote member.1.1 ++ ':' :: text) ++ ['}']))
termination_by value => sizeOf value
decreasing_by
  · exact Tree.sizeOf_item item.2
  · exact Tree.sizeOf_value member.2

/-! ## The order of properties -/

/-- The array index that a key is the decimal of. -/
def arrayIndex? (key : Units) : Option Nat :=
  let digits := key.map fun unit => Char.ofNat unit.toNat
  let index := Json.natValue digits
  if Nat.toDigits 10 index = digits ∧ index < 4294967295 then some index else none

/-- `OrdinaryOwnPropertyKeys`: the array indices in ascending order, then the other keys
in the order in which they were made. -/
def ownOrder {α : Type} (members : List (Units × α)) : List (Units × α) :=
  sortBy (fun left right => ((arrayIndex? left.1).getD 0 : Int) - (arrayIndex? right.1).getD 0)
      (members.filter fun member => (arrayIndex? member.1).isSome) ++
    members.filter fun member => !(arrayIndex? member.1).isSome

/-- `Object.fromEntries`. -/
def fromEntries (entries : List (Units × JsValue)) : JsValue := .obj (ownOrder entries)

theorem ownOrder_perm {α : Type} (members : List (Units × α)) :
    (ownOrder members).Perm members :=
  (sortBy_perm.append_right _).trans (List.filter_append_perm _ _)

theorem ownOrder_map {α β : Type} (f : α → β) (members : List (Units × α)) :
    ownOrder (members.map fun member => (member.1, f member.2)) =
      (ownOrder members).map fun member => (member.1, f member.2) := by
  rw [ownOrder, ownOrder, List.map_append, List.filter_map, List.filter_map]
  congr 1
  exact (map_sortBy fun _ _ => rfl).symm

/-! ## The two canonical texts -/

section

variable (localeCompare : Units → Units → Int)

/-- `.filter(([, entry]) => entry !== undefined)`. -/
def definedEntries (members : List (Units × JsValue)) : List (Units × JsValue) :=
  members.filter fun member => !isUndefined member.2

theorem mem_of_mem_sorted {member : Units × JsValue} {members : List (Units × JsValue)}
    (h : member ∈ sortMembers localeCompare (definedEntries members)) : member ∈ members :=
  List.mem_of_mem_filter (sortBy_perm.subset h)

/-- `canonicalJsonValue`. -/
def canonicalJsonValue : JsValue → JsValue
  | .leaf (.date instant) => .leaf (.string (unitsOf instant.text))
  | .leaf value => .leaf value
  | .arr entries => .arr (entries.attach.map fun entry => canonicalJsonValue entry.1)
  | .obj members =>
      fromEntries ((sortMembers localeCompare (definedEntries members)).attach.map
        fun entry => (entry.1.1, canonicalJsonValue entry.1.2))
termination_by value => sizeOf value
decreasing_by
  · exact Tree.sizeOf_item entry.2
  · exact Tree.sizeOf_value (mem_of_mem_sorted localeCompare entry.2)

/-- `canonicalJson`: a date is an object without entries, and `join` writes nothing for
an undefined item. -/
def canonicalJson : JsValue → Option (List Char)
  | .leaf (.date _) => some ['{', '}']
  | .leaf value => leafText value
  | .arr items =>
      some ('[' :: (separated (items.attach.map fun item => (canonicalJson item.1).getD []) ++
        [']']))
  | .obj members =>
      some ('{' :: (separated ((sortMembers localeCompare (definedEntries members)).attach.map
        fun entry => quote entry.1.1 ++ ':' ::
          (canonicalJson entry.1.2).getD "undefined".toList) ++ ['}']))
termination_by value => sizeOf value
decreasing_by
  · exact Tree.sizeOf_item item.2
  · exact Tree.sizeOf_value (mem_of_mem_sorted localeCompare entry.2)

end

/-! ## Keys and scalars can be told apart -/

/-- How the text of a leaf starts. -/
def Leaf.StartsWith (c : Char) : Leaf → Prop
  | .null => c = 'n'
  | .boolean true => c = 't'
  | .boolean false => c = 'f'
  | .number _ => c = '-' ∨ c.isDigit
  | .string _ => c = '"'
  | _ => False

/-- The text of a leaf that a JSON value may have. -/
def scalarText (leaf : Leaf) : List Char := (leafText leaf).getD []

theorem head_numberText (number : JsonNumber) :
    ∃ c tail, numberText number = c :: tail ∧ (c = '-' ∨ c.isDigit) := by
  unfold numberText
  split_ifs with hzero hnegative
  · exact ⟨'0', [], rfl, .inr (by decide)⟩
  · exact ⟨'-', _, rfl, .inl rfl⟩
  · obtain ⟨c, tail, hhead, hc⟩ := head_positiveText number.digits number.point
    exact ⟨c, tail, hhead, .inr hc⟩

theorem head_scalarText {leaf : Leaf} (h : leaf.IsJson) :
    ∃ c tail, scalarText leaf = c :: tail ∧ leaf.StartsWith c := by
  cases leaf with
  | undefined => exact absurd h id
  | null => exact ⟨'n', _, rfl, rfl⟩
  | boolean value => cases value <;> exact ⟨_, _, rfl, rfl⟩
  | number value => exact head_numberText value
  | string text => exact ⟨'"', _, rfl, rfl⟩
  | date instant => exact absurd h id

theorem Leaf.StartsWith.of_digit {leaf : Leaf} {c : Char} (h : leaf.StartsWith c)
    (hc : c = '-' ∨ c.isDigit) : ∃ value, leaf = .number value := by
  cases leaf with
  | number value => exact ⟨value, rfl⟩
  | boolean value => cases value <;> obtain rfl : c = _ := h <;> exact absurd hc (by decide)
  | null | string => obtain rfl : c = _ := h; exact absurd hc (by decide)
  | undefined | date => exact absurd h id

theorem Leaf.StartsWith.of_quote {leaf : Leaf} (h : leaf.StartsWith '"') :
    ∃ text, leaf = .string text := by
  cases leaf with
  | string text => exact ⟨text, rfl⟩
  | boolean value => cases value <;> simp [StartsWith] at h
  | number => exact absurd (show '"' = '-' ∨ '"'.isDigit from h) (by decide)
  | null => simp [StartsWith] at h
  | undefined | date => exact absurd h id

/-- One of the letters that start a word stands for that word. -/
theorem Leaf.StartsWith.of_letter {first second : Leaf} {c : Char} (hfirst : first.StartsWith c)
    (hsecond : second.StartsWith c) (hc : c = 'n' ∨ c = 't' ∨ c = 'f') : first = second := by
  have word : ∀ leaf : Leaf, leaf.StartsWith c →
      leaf = if c = 'n' then .null else .boolean (c = 't') := by
    intro leaf h
    cases leaf with
    | null => exact (if_pos h).symm
    | boolean value => cases value <;> obtain rfl : c = _ := h <;> rfl
    | number =>
        have h : c = '-' ∨ c.isDigit := h
        rcases hc with rfl | rfl | rfl <;> exact absurd h (by decide)
    | string =>
        obtain rfl : c = '"' := h
        exact absurd hc (by decide)
    | undefined | date => exact absurd h id
  rw [word first hfirst, word second hsecond]

/-- The text of a scalar and the text after it are determined: its first character says
of which kind it is. -/
theorem scalarText_append {first second : Leaf} {rest other : List Char} (hfirst : first.IsJson)
    (hsecond : second.IsJson) (hrest : Json.Delimited rest) (hother : Json.Delimited other)
    (h : scalarText first ++ rest = scalarText second ++ other) :
    first = second ∧ rest = other := by
  obtain ⟨c, tail, hhead, hstart⟩ := head_scalarText hfirst
  obtain ⟨d, tail', hhead', hstart'⟩ := head_scalarText hsecond
  obtain rfl : c = d := by
    rw [hhead, hhead'] at h
    exact (List.cons.inj h).1
  have hword : (c = 'n' ∨ c = 't' ∨ c = 'f') → first = second ∧ rest = other := by
    intro hc
    obtain rfl := hstart.of_letter hstart' hc
    exact ⟨rfl, List.append_cancel_left h⟩
  cases first with
  | undefined => exact absurd hfirst id
  | null => exact hword (.inl hstart)
  | boolean value =>
      cases value with
      | true => exact hword (.inr (.inl hstart))
      | false => exact hword (.inr (.inr hstart))
  | number value =>
      obtain ⟨value', rfl⟩ := hstart'.of_digit hstart
      obtain ⟨rfl, hrest⟩ := numberText_append hrest hother h
      exact ⟨rfl, hrest⟩
  | string text =>
      obtain rfl : c = '"' := hstart
      obtain ⟨text', rfl⟩ := hstart'.of_quote
      obtain ⟨rfl, hrest⟩ := quote_append h
      exact ⟨rfl, hrest⟩
  | date => exact absurd hfirst id

/-- How `JSON.stringify` writes the keys and the scalars of JSON values. -/
def jsonWriter : Writer Units Leaf Leaf.IsJson where
  key := quote
  scalar := scalarText
  key_append := quote_append
  scalar_append := scalarText_append
  key_head _ := ⟨_, rfl⟩
  scalar_head {leaf} h := by
    obtain ⟨c, tail, hhead, hstart⟩ := head_scalarText h
    have hbracket : ∀ d, ¬ (d = '-' ∨ d.isDigit) ∧ d ∉ ['n', 't', 'f', '"'] → c ≠ d := by
      rintro d ⟨hdigit, hletter⟩ rfl
      cases leaf with
      | number => exact hdigit hstart
      | boolean value => cases value <;> obtain rfl : c = _ := hstart <;> simp at hletter
      | null | string => obtain rfl : c = _ := hstart; simp at hletter
      | undefined | date => exact hstart
    exact ⟨c, tail, hhead, hbracket _ (by decide), hbracket _ (by decide), hbracket _ (by decide)⟩

/-! ## The canonical texts are texts of arranged trees -/

theorem stringify_arr (items : List JsValue) :
    stringify (.arr items) =
      some ('[' :: (separated (items.map fun item =>
        (stringify item).getD ['n', 'u', 'l', 'l']) ++ [']'])) := by
  rw [stringify,
    List.attach_map_val (f := fun item : JsValue => (stringify item).getD ['n', 'u', 'l', 'l'])]

theorem stringify_obj (members : List (Units × JsValue)) :
    stringify (.obj members) =
      some ('{' :: (separated (members.filterMap fun member =>
        (stringify member.2).map fun text => quote member.1 ++ ':' :: text) ++ ['}'])) := by
  have hattach : (members.attach.filterMap fun member =>
      (stringify member.1.2).map fun text => quote member.1.1 ++ ':' :: text) =
      (members.attach.map Subtype.val).filterMap fun member =>
        (stringify member.2).map fun text => quote member.1 ++ ':' :: text := by
    rw [List.filterMap_map]
    rfl
  rw [stringify, hattach, List.attach_map_subtype_val]

theorem leafText_eq {leaf : Leaf} (h : leaf.IsJson) : leafText leaf = some (scalarText leaf) := by
  cases leaf with
  | boolean value => cases value <;> rfl
  | undefined | date => exact absurd h id
  | null | number | string => rfl

/-- `JSON.stringify` writes a JSON value in full. -/
theorem stringify_eq {value : JsValue} (h : value.Proper Leaf.IsJson) :
    stringify value = some (Tree.text jsonWriter value) := by
  induction value using Tree.induction with
  | leaf leaf =>
      obtain hleaf | - | - := h
      rw [stringify, leafText_eq hleaf, Tree.text]
      rfl
  | arr items ih =>
      obtain - | hitems := h
      rw [stringify_arr, Tree.text_arr]
      have hmap : (items.map fun item => (stringify item).getD ['n', 'u', 'l', 'l']) =
          items.map (Tree.text jsonWriter) := by
        apply List.map_congr_left
        intro item hitem
        rw [ih item hitem (hitems item hitem), Option.getD_some]
      rw [hmap]
  | obj members ih =>
      obtain - | - | ⟨-, hvalues⟩ := h
      rw [stringify_obj, Tree.text_obj]
      have hmap : (members.filterMap fun member =>
          (stringify member.2).map fun text => quote member.1 ++ ':' :: text) =
          members.map (Tree.memberText jsonWriter) := by
        rw [← List.filterMap_eq_map]
        apply List.filterMap_congr
        intro member hmember
        rw [ih member hmember (hvalues member hmember)]
        rfl
      rw [hmap]

theorem definedEntries_eq {members : List (Units × JsValue)}
    (h : ∀ member ∈ members, member.2.Proper Leaf.IsJson) : definedEntries members = members := by
  apply List.filter_eq_self.mpr
  intro member hmember
  have hproper := h member hmember
  cases hvalue : member.2 with
  | leaf leaf =>
      rw [hvalue] at hproper
      obtain hleaf | - | - := hproper
      cases leaf with
      | undefined => exact absurd hleaf id
      | _ => rfl
  | arr => rfl
  | obj => rfl

section

variable {localeCompare : Units → Units → Int} (hcompare : TotalCompare localeCompare)

theorem canonicalJsonValue_arr (entries : List JsValue) :
    canonicalJsonValue localeCompare (.arr entries) =
      .arr (entries.map (canonicalJsonValue localeCompare)) := by
  rw [canonicalJsonValue, List.attach_map_val (f := canonicalJsonValue localeCompare)]

theorem canonicalJsonValue_obj (members : List (Units × JsValue)) :
    canonicalJsonValue localeCompare (.obj members) =
      fromEntries ((sortMembers localeCompare (definedEntries members)).map
        fun entry => (entry.1, canonicalJsonValue localeCompare entry.2)) := by
  rw [canonicalJsonValue, List.attach_map_val
    (f := fun entry : Units × JsValue => (entry.1, canonicalJsonValue localeCompare entry.2))]

/-- The order that `canonicalJsonValue` gives the members of an object. -/
def payrollOrder : Arrangement Units :=
  (Arrangement.sorted hcompare).andThen ownOrder ownOrder_perm ownOrder_map

theorem canonicalJsonValue_eq {value : JsValue} (h : value.Proper Leaf.IsJson) :
    canonicalJsonValue localeCompare value = value.arranged (payrollOrder hcompare) := by
  induction value using Tree.induction with
  | leaf leaf =>
      obtain hleaf | - | - := h
      rw [Tree.arranged]
      cases leaf with
      | date => exact absurd hleaf id
      | _ =>
          rw [canonicalJsonValue]
          intro _ hdate
          cases hdate
  | arr items ih =>
      obtain - | hitems := h
      rw [canonicalJsonValue_arr, Tree.arranged_arr]
      congr 1
      apply List.map_congr_left
      exact fun item hitem => ih item hitem (hitems item hitem)
  | obj members ih =>
      obtain - | - | ⟨-, hvalues⟩ := h
      rw [canonicalJsonValue_obj, Tree.arranged_obj, definedEntries_eq hvalues, Arrangement.map]
      have hmap : ((sortMembers localeCompare members).map
          fun entry => (entry.1, canonicalJsonValue localeCompare entry.2)) =
          (sortMembers localeCompare members).map
            fun entry => (entry.1, entry.2.arranged (payrollOrder hcompare)) := by
        apply List.map_congr_left
        intro member hmember
        have hmember := sortBy_perm.subset hmember
        rw [ih member hmember (hvalues member hmember)]
      rw [hmap, fromEntries, ownOrder_map]
      rfl

theorem canonicalJson_arr (items : List JsValue) :
    canonicalJson localeCompare (.arr items) =
      some ('[' :: (separated (items.map fun item =>
        (canonicalJson localeCompare item).getD []) ++ [']'])) := by
  rw [canonicalJson,
    List.attach_map_val (f := fun item : JsValue => (canonicalJson localeCompare item).getD [])]

theorem canonicalJson_obj (members : List (Units × JsValue)) :
    canonicalJson localeCompare (.obj members) =
      some ('{' :: (separated ((sortMembers localeCompare (definedEntries members)).map
        fun entry => quote entry.1 ++ ':' ::
          (canonicalJson localeCompare entry.2).getD "undefined".toList) ++ ['}'])) := by
  rw [canonicalJson, List.attach_map_val (f := fun entry : Units × JsValue =>
    quote entry.1 ++ ':' :: (canonicalJson localeCompare entry.2).getD "undefined".toList)]

theorem canonicalJson_eq {value : JsValue} (h : value.Proper Leaf.IsJson) :
    canonicalJson localeCompare value =
      some (Tree.text jsonWriter (value.arranged (Arrangement.sorted hcompare))) := by
  induction value using Tree.induction with
  | leaf leaf =>
      obtain hleaf | - | - := h
      rw [Tree.arranged, Tree.text]
      cases leaf with
      | date => exact absurd hleaf id
      | _ =>
          rw [canonicalJson, leafText_eq hleaf]
          · rfl
          · intro _ hdate
            cases hdate
  | arr items ih =>
      obtain - | hitems := h
      rw [canonicalJson_arr, Tree.arranged_arr, Tree.text_arr, List.map_map]
      have hmap : (items.map fun item => (canonicalJson localeCompare item).getD []) =
          items.map (Tree.text jsonWriter ∘ Tree.arranged (Arrangement.sorted hcompare)) := by
        apply List.map_congr_left
        intro item hitem
        rw [ih item hitem (hitems item hitem)]
        rfl
      rw [hmap]
  | obj members ih =>
      obtain - | - | ⟨-, hvalues⟩ := h
      rw [canonicalJson_obj, Tree.arranged_obj, Tree.text_obj, definedEntries_eq hvalues,
        Arrangement.map, List.map_map]
      have hmap : ((sortMembers localeCompare members).map fun entry => quote entry.1 ++ ':' ::
          (canonicalJson localeCompare entry.2).getD "undefined".toList) =
          (sortMembers localeCompare members).map (Tree.memberText jsonWriter ∘
            fun entry => (entry.1, entry.2.arranged (Arrangement.sorted hcompare))) := by
        apply List.map_congr_left
        intro member hmember
        have hmember := sortBy_perm.subset hmember
        rw [ih member hmember (hvalues member hmember)]
        rfl
      rw [hmap]
      rfl

end

end LunchLineup.Idempotency
