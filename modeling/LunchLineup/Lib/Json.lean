import Mathlib.Tactic

/-!
# JSON texts

The values of the JSON data model, the compact text a serializer writes for one
and a reader of the whole grammar: white space, the escapes of strings with the
surrogate pairs, numbers with a fraction and an exponent.  The reader returns
what the serializer was given (`parse_stringify`), so two values with one text are
one value (`chars_injective`).

A number is kept as the decimal it is written as, `significand * 10 ^ exponent`.
An unpaired surrogate escape, which no `Char` can hold, reads as U+FFFD.
-/

namespace LunchLineup.Lib

/-- The decimal `significand * 10 ^ exponent`. -/
structure Numeral where
  significand : Int
  exponent : Int
  deriving DecidableEq, Repr

/-- A whole number. -/
instance : Coe Int Numeral := ⟨fun n => ⟨n, 0⟩⟩

/-- A JSON value.  The members of an object are kept in their order. -/
inductive Json where
  | null
  | bool (value : Bool)
  | num (value : Numeral)
  | str (text : String)
  | arr (elements : List Json)
  | obj (members : List (String × Json))

namespace Json

/-! ## The serializer -/

def hexDigit (n : Nat) : Char := Nat.digitChar n

/-- A character of a string: the two that end or escape, and the control
characters, are escaped. -/
def escaped (c : Char) : List Char :=
  if c = '"' then ['\\', '"']
  else if c = '\\' then ['\\', '\\']
  else if c.toNat = 8 then ['\\', 'b']
  else if c.toNat = 9 then ['\\', 't']
  else if c.toNat = 10 then ['\\', 'n']
  else if c.toNat = 12 then ['\\', 'f']
  else if c.toNat = 13 then ['\\', 'r']
  else if c.toNat < 32 then
    ['\\', 'u', '0', '0', hexDigit (c.toNat / 16), hexDigit (c.toNat % 16)]
  else [c]

def quotedChars (text : List Char) : List Char := '"' :: (text.flatMap escaped ++ ['"'])

def intChars : Int → List Char
  | .ofNat n => Nat.toDigits 10 n
  | .negSucc n => '-' :: Nat.toDigits 10 (n + 1)

def numeralChars (value : Numeral) : List Char :=
  intChars value.significand ++
    if value.exponent = 0 then [] else 'e' :: intChars value.exponent

mutual

/-- `JSON.stringify`. -/
def chars : Json → List Char
  | .null => "null".toList
  | .bool true => "true".toList
  | .bool false => "false".toList
  | .num value => numeralChars value
  | .str text => quotedChars text.toList
  | .arr [] => "[]".toList
  | .arr (element :: elements) => '[' :: (element.chars ++ elementsChars elements)
  | .obj [] => "{}".toList
  | .obj ((name, value) :: members) =>
      '{' :: (quotedChars name.toList ++ ':' :: (value.chars ++ membersChars members))

/-- The elements after the first one. -/
def elementsChars : List Json → List Char
  | [] => [']']
  | element :: elements => ',' :: (element.chars ++ elementsChars elements)

/-- The members after the first one. -/
def membersChars : List (String × Json) → List Char
  | [] => ['}']
  | (name, value) :: members =>
      ',' :: (quotedChars name.toList ++ ':' :: (value.chars ++ membersChars members))

end

/-! ## The reader -/

def isSpace (c : Char) : Bool := c = ' ' || c = '\t' || c = '\n' || c = '\r'

def skipSpace (text : List Char) : List Char := text.dropWhile isSpace

def hexValue? (c : Char) : Option Nat :=
  if '0' ≤ c ∧ c ≤ '9' then some (c.toNat - 48)
  else if 'a' ≤ c ∧ c ≤ 'f' then some (c.toNat - 87)
  else if 'A' ≤ c ∧ c ≤ 'F' then some (c.toNat - 55)
  else none

def unescape? (c : Char) : Option Nat :=
  if c = '"' ∨ c = '\\' ∨ c = '/' then some c.toNat
  else if c = 'b' then some 8
  else if c = 't' then some 9
  else if c = 'n' then some 10
  else if c = 'f' then some 12
  else if c = 'r' then some 13
  else none

/-- The code units and code points up to the closing quote, and the text after
it. -/
def stringUnits : List Char → Option (List Nat × List Char)
  | [] => none
  | '"' :: rest => some ([], rest)
  | '\\' :: 'u' :: a :: b :: c :: d :: rest => do
      let unit := (← hexValue? a) * 4096 + (← hexValue? b) * 256 + (← hexValue? c) * 16 +
        (← hexValue? d)
      let (units, rest) ← stringUnits rest
      return (unit :: units, rest)
  | '\\' :: c :: rest => do
      let unit ← unescape? c
      let (units, rest) ← stringUnits rest
      return (unit :: units, rest)
  | c :: rest =>
      if c.toNat < 32 then none
      else do
        let (units, rest) ← stringUnits rest
        return (c.toNat :: units, rest)

def isHigh (unit : Nat) : Bool := 0xD800 ≤ unit && unit < 0xDC00

def isLow (unit : Nat) : Bool := 0xDC00 ≤ unit && unit < 0xE000

/-- A code unit that is no half of a pair. -/
def scalar (unit : Nat) : Char :=
  if isHigh unit || isLow unit then '\uFFFD' else Char.ofNat unit

/-- Surrogate pairs are joined. -/
def joinPairs : List Nat → List Char
  | [] => []
  | [unit] => [scalar unit]
  | first :: second :: units =>
      if isHigh first && isLow second then
        Char.ofNat (0x10000 + (first - 0xD800) * 0x400 + (second - 0xDC00)) :: joinPairs units
      else scalar first :: joinPairs (second :: units)

def parseString (text : List Char) : Option (String × List Char) := do
  let (units, rest) ← stringUnits text
  return (String.ofList (joinPairs units), rest)

def isDigit (c : Char) : Bool := c.isDigit

/-- Digits, at least one. -/
def parseDigits (text : List Char) : Option (List Char × List Char) :=
  match text.span isDigit with
  | ([], _) => none
  | (digits, rest) => some (digits, rest)

def natValue (digits : List Char) : Nat := Nat.ofDigitChars 10 digits 0

/-- The exponent of a number, with its sign. -/
def parseExponent : List Char → Option (Int × List Char)
  | e :: sign :: rest =>
      if e ≠ 'e' ∧ e ≠ 'E' then some (0, e :: sign :: rest)
      else if sign = '-' then (parseDigits rest).map fun found => (-(natValue found.1 : Int), found.2)
      else if sign = '+' then (parseDigits rest).map fun found => ((natValue found.1 : Int), found.2)
      else (parseDigits (sign :: rest)).map fun found => ((natValue found.1 : Int), found.2)
  | [e] => if e = 'e' ∨ e = 'E' then none else some (0, [e])
  | [] => some (0, [])

/-- The digits after the point. -/
def parseFraction : List Char → Option (List Char × List Char)
  | '.' :: rest => parseDigits rest
  | rest => some ([], rest)

/-- A number without its sign: no digit before it if it starts with a zero. -/
def parseUnsigned (text : List Char) : Option (Nat × Int × List Char) := do
  let (whole, rest) ← parseDigits text
  if whole.head? = some '0' ∧ whole ≠ ['0'] then none
  let (fraction, rest) ← parseFraction rest
  let (exponent, rest) ← parseExponent rest
  return (natValue (whole ++ fraction), exponent - fraction.length, rest)

def parseNumeral : List Char → Option (Numeral × List Char)
  | '-' :: rest => (parseUnsigned rest).map fun found => (⟨-(found.1 : Int), found.2.1⟩, found.2.2)
  | rest => (parseUnsigned rest).map fun found => (⟨(found.1 : Int), found.2.1⟩, found.2.2)

mutual

/-- One value and the text after it.  Every call for a part spends fuel, and a
part is shorter than the whole. -/
def parseValue : Nat → List Char → Option (Json × List Char)
  | 0, _ => none
  | fuel + 1, text =>
      match skipSpace text with
      | 'n' :: 'u' :: 'l' :: 'l' :: rest => some (.null, rest)
      | 't' :: 'r' :: 'u' :: 'e' :: rest => some (.bool true, rest)
      | 'f' :: 'a' :: 'l' :: 's' :: 'e' :: rest => some (.bool false, rest)
      | '"' :: rest => (parseString rest).map fun found => (.str found.1, found.2)
      | '[' :: rest =>
          match skipSpace rest with
          | ']' :: rest => some (.arr [], rest)
          | rest => (parseElements fuel rest).map fun found => (.arr found.1, found.2)
      | '{' :: rest =>
          match skipSpace rest with
          | '}' :: rest => some (.obj [], rest)
          | rest => (parseMembers fuel rest).map fun found => (.obj found.1, found.2)
      | rest => (parseNumeral rest).map fun found => (.num found.1, found.2)

def parseElements : Nat → List Char → Option (List Json × List Char)
  | 0, _ => none
  | fuel + 1, text => do
      let (element, rest) ← parseValue fuel text
      match skipSpace rest with
      | ']' :: rest => return ([element], rest)
      | ',' :: rest => do
          let (elements, rest) ← parseElements fuel rest
          return (element :: elements, rest)
      | _ => none

def parseMembers : Nat → List Char → Option (List (String × Json) × List Char)
  | 0, _ => none
  | fuel + 1, text =>
      match skipSpace text with
      | '"' :: rest => do
          let (name, rest) ← parseString rest
          match skipSpace rest with
          | ':' :: rest => do
              let (value, rest) ← parseValue fuel rest
              match skipSpace rest with
              | '}' :: rest => return ([(name, value)], rest)
              | ',' :: rest => do
                  let (members, rest) ← parseMembers fuel rest
                  return ((name, value) :: members, rest)
              | _ => none
          | _ => none
      | _ => none

end

/-- `JSON.parse`. -/
def parse (text : List Char) : Option Json := do
  let (value, rest) ← parseValue (2 * text.length + 2) text
  if skipSpace rest = [] then return value else none

/-! ## Strings -/

theorem hexValue?_hexDigit {n : Nat} (h : n < 16) : hexValue? (hexDigit n) = some n := by
  interval_cases n <;> decide

/-- The reader takes back one escaped character. -/
theorem stringUnits_escaped (c : Char) (text : List Char) :
    stringUnits (escaped c ++ text) =
      (stringUnits text).map fun found => (c.toNat :: found.1, found.2) := by
  have hbind : ∀ unit : Nat, (do
      let (units, rest) ← stringUnits text
      return (unit :: units, rest)) =
        (stringUnits text).map fun found => (unit :: found.1, found.2) := by
    intro unit
    cases stringUnits text <;> rfl
  unfold escaped
  split_ifs with hquote hslash h8 h9 h10 h12 h13 hcontrol
  · subst hquote
    exact hbind _
  · subst hslash
    exact hbind _
  · rw [h8]
    exact hbind _
  · rw [h9]
    exact hbind _
  · rw [h10]
    exact hbind _
  · rw [h12]
    exact hbind _
  · rw [h13]
    exact hbind _
  · have hhigh : c.toNat / 16 < 16 := by omega
    have hlow : c.toNat % 16 < 16 := by omega
    have hunit : 0 * 4096 + 0 * 256 + c.toNat / 16 * 16 + c.toNat % 16 = c.toNat := by omega
    rw [← hbind]
    simp only [List.cons_append, List.nil_append, stringUnits, hexValue?_hexDigit hhigh,
      hexValue?_hexDigit hlow, show hexValue? '0' = some 0 by decide, Option.bind_eq_bind,
      Option.bind_some, hunit]
  · rw [← hbind]
    rw [List.singleton_append, stringUnits]
    · rw [if_neg hcontrol]
    · exact hquote
    · intro _ _ _ _ _ hc
      exact absurd hc hslash
    · intro _ _ hc
      exact absurd hc hslash

theorem stringUnits_flatMap (chars text : List Char) :
    stringUnits (chars.flatMap escaped ++ '"' :: text) = some (chars.map Char.toNat, text) := by
  induction chars with
  | nil => simp [stringUnits]
  | cons c chars ih =>
      rw [List.flatMap_cons, List.append_assoc, stringUnits_escaped, ih]
      rfl

/-- No character is half of a pair. -/
theorem not_surrogate (c : Char) : isHigh c.toNat = false ∧ isLow c.toNat = false := by
  have h := c.valid
  simp only [UInt32.isValidChar, Nat.isValidChar] at h
  have hval : c.toNat = c.val.toNat := rfl
  simp only [isHigh, isLow, Bool.and_eq_false_iff, decide_eq_false_iff_not]
  omega

theorem scalar_toNat (c : Char) : scalar c.toNat = c := by
  rw [scalar, (not_surrogate c).1, (not_surrogate c).2]
  exact Char.ofNat_toNat c

theorem joinPairs_toNat (chars : List Char) : joinPairs (chars.map Char.toNat) = chars := by
  induction chars with
  | nil => rfl
  | cons c chars ih =>
      cases chars with
      | nil => simp [joinPairs, scalar_toNat]
      | cons d chars =>
          simp only [List.map_cons] at ih ⊢
          rw [joinPairs, (not_surrogate c).1, Bool.false_and, if_neg (by decide), scalar_toNat, ih]

/-- The reader takes back a string. -/
theorem parseString_chars (name : String) (text : List Char) :
    parseString (name.toList.flatMap escaped ++ '"' :: text) = some (name, text) := by
  simp [parseString, stringUnits_flatMap, joinPairs_toNat]

/-! ## Numbers -/

/-- What may stand after a number: the end of the text or of the part. -/
def Delimited (text : List Char) : Prop :=
  ∀ c ∈ text.head?, c = ',' ∨ c = ']' ∨ c = '}'

theorem parseDigits_append {digits text : List Char} (hne : digits ≠ [])
    (hdigits : ∀ c ∈ digits, c.isDigit) (htext : ∀ c ∈ text.head?, c.isDigit = false) :
    parseDigits (digits ++ text) = some (digits, text) := by
  have hspan : (digits ++ text).span isDigit = (digits, text) := by
    have hdigits : ∀ c ∈ digits, isDigit c := hdigits
    rw [List.span_eq_takeWhile_dropWhile, List.takeWhile_append_of_pos hdigits,
      List.dropWhile_append_of_pos hdigits]
    cases text with
    | nil => simp
    | cons c text =>
        have hc : isDigit c = false := htext c rfl
        rw [List.takeWhile_cons_of_neg (by simp [hc]), List.dropWhile_cons_of_neg (by simp [hc]),
          List.append_nil]
  rw [parseDigits, hspan]
  cases digits with
  | nil => exact absurd rfl hne
  | cons c digits => rfl

theorem isDigit_of_mem_toDigits {n : Nat} : ∀ c ∈ Nat.toDigits 10 n, c.isDigit :=
  fun _ hc => Nat.isDigit_of_mem_toDigits (by decide) (by decide) hc

/-- No zero leads. -/
theorem head?_toDigits {n : Nat} (h : (Nat.toDigits 10 n).head? = some '0') :
    Nat.toDigits 10 n = ['0'] := by
  induction n using Nat.strong_induction_on with
  | _ n ih =>
      rcases lt_or_ge n 10 with hn | hn
      · rw [Nat.toDigits_of_lt_base hn] at h ⊢
        simpa using h
      · -- the digits before the last one are those of a positive number
        exfalso
        rw [Nat.toDigits_of_base_le (by decide) hn, List.head?_append_of_ne_nil _ Nat.toDigits_ne_nil] at h
        have hzero := ih (n / 10) (by omega) h
        have hvalue := Nat.ofDigitChars_toDigits (b := 10) (n := n / 10) (by decide) (by decide)
        rw [hzero] at hvalue
        have : n / 10 = 0 := by rw [← hvalue]; rfl
        omega

theorem head_intChars (n : Int) :
    ∃ c tail, intChars n = c :: tail ∧ (c = '-' ∨ c.isDigit) := by
  cases n with
  | negSucc n => exact ⟨'-', _, rfl, Or.inl rfl⟩
  | ofNat n =>
      obtain ⟨c, tail, h⟩ := List.exists_cons_of_ne_nil (Nat.toDigits_ne_nil (n := n) (b := 10))
      refine ⟨c, tail, h, Or.inr (isDigit_of_mem_toDigits (n := n) c ?_)⟩
      rw [h]
      exact List.mem_cons_self

variable {text : List Char}

theorem Delimited.not_digit (h : Delimited text) : ∀ c ∈ text.head?, c.isDigit = false := by
  intro c hc
  rcases h c hc with rfl | rfl | rfl <;> rfl

/-- No exponent is read where none was written. -/
theorem Delimited.parseExponent (h : Delimited text) : parseExponent text = some (0, text) := by
  cases text with
  | nil => rfl
  | cons c text =>
      cases text with
      | nil => rcases h c rfl with rfl | rfl | rfl <;> rfl
      | cons d text => rcases h c rfl with rfl | rfl | rfl <;> rfl

/-- The reader takes back an exponent. -/
theorem parseExponent_intChars (n : Int) (h : Delimited text) :
    parseExponent ('e' :: (intChars n ++ text)) = some (n, text) := by
  cases n with
  | negSucc n =>
      rw [intChars, List.cons_append, parseExponent, if_neg (by decide), if_pos rfl,
        parseDigits_append Nat.toDigits_ne_nil isDigit_of_mem_toDigits h.not_digit]
      simp [natValue, Nat.ofDigitChars_toDigits, Int.negSucc_eq]
  | ofNat n =>
      obtain ⟨c, tail, hchars, hc⟩ : ∃ c tail, Nat.toDigits 10 n = c :: tail ∧ c.isDigit := by
        obtain ⟨c, tail, h⟩ := List.exists_cons_of_ne_nil (Nat.toDigits_ne_nil (n := n) (b := 10))
        exact ⟨c, tail, h, isDigit_of_mem_toDigits (n := n) c (by simp [h])⟩
      have hminus : c ≠ '-' := by rintro rfl; exact absurd hc (by decide)
      have hplus : c ≠ '+' := by rintro rfl; exact absurd hc (by decide)
      have hdigits : parseDigits (Nat.toDigits 10 n ++ text) = some (Nat.toDigits 10 n, text) :=
        parseDigits_append Nat.toDigits_ne_nil isDigit_of_mem_toDigits h.not_digit
      rw [intChars]
      rw [hchars, List.cons_append] at hdigits ⊢
      rw [parseExponent, if_neg (by decide), if_neg hminus, if_neg hplus, hdigits, ← hchars]
      simp [natValue, Nat.ofDigitChars_toDigits]

/-- The reader takes back an unsigned number. -/
theorem parseUnsigned_toDigits (n : Nat) (exponent : Int) (h : Delimited text) :
    parseUnsigned (Nat.toDigits 10 n ++
      ((if exponent = 0 then [] else 'e' :: intChars exponent) ++ text)) =
        some (n, exponent, text) := by
  generalize htail : (if exponent = 0 then [] else 'e' :: intChars exponent) ++ text = tail
  have hhead : ∀ c ∈ tail.head?, c.isDigit = false ∧ c ≠ '.' := by
    intro c hc
    rw [← htail] at hc
    split_ifs at hc
    · refine ⟨h.not_digit c hc, ?_⟩
      rcases h c hc with rfl | rfl | rfl <;> decide
    · obtain rfl : 'e' = c := by simpa using hc
      decide
  have hfraction : parseFraction tail = some ([], tail) := by
    cases tail with
    | nil => rfl
    | cons c tail =>
        unfold parseFraction
        split
        · next heq =>
            obtain ⟨rfl, -⟩ := List.cons.inj heq
            exact absurd rfl (hhead '.' rfl).2
        · rfl
  have hexponent : parseExponent tail = some (exponent, text) := by
    rw [← htail]
    split_ifs with hzero
    · rw [hzero]
      exact h.parseExponent
    · exact parseExponent_intChars exponent h
  have hlead : ¬((Nat.toDigits 10 n).head? = some '0' ∧ Nat.toDigits 10 n ≠ ['0']) :=
    fun h => h.2 (head?_toDigits h.1)
  simp [parseUnsigned, parseDigits_append Nat.toDigits_ne_nil isDigit_of_mem_toDigits
    (fun c hc => (hhead c hc).1), hlead, hfraction, hexponent, natValue, Nat.ofDigitChars_toDigits]

/-- The reader takes back a number. -/
theorem parseNumeral_chars (value : Numeral) (h : Delimited text) :
    parseNumeral (numeralChars value ++ text) = some (value, text) := by
  obtain ⟨significand, exponent⟩ := value
  rw [numeralChars, List.append_assoc]
  cases significand with
  | negSucc n =>
      rw [intChars, List.cons_append, parseNumeral, parseUnsigned_toDigits _ _ h]
      simp [Int.negSucc_eq]
  | ofNat n =>
      have hparsed := parseUnsigned_toDigits n exponent h
      obtain ⟨c, tail, hchars⟩ := List.exists_cons_of_ne_nil (Nat.toDigits_ne_nil (n := n) (b := 10))
      have hc : c.isDigit := isDigit_of_mem_toDigits (n := n) c (by simp [hchars])
      rw [intChars]
      rw [hchars, List.cons_append] at hparsed ⊢
      unfold parseNumeral
      split
      · next heq =>
          obtain ⟨rfl, -⟩ := List.cons.inj heq
          exact absurd hc (by decide)
      · rw [hparsed]
        rfl

/-! ## Values -/

/-- How a value starts. -/
theorem exists_chars (value : Json) :
    ∃ c tail, value.chars = c :: tail ∧ isSpace c = false ∧ c ≠ ']' := by
  cases value with
  | null => exact ⟨_, _, rfl, by decide, by decide⟩
  | bool value => cases value <;> exact ⟨_, _, rfl, by decide, by decide⟩
  | str text => exact ⟨_, _, by rw [chars, quotedChars], by decide, by decide⟩
  | arr elements =>
      cases elements with
      | nil => exact ⟨'[', _, by rw [chars]; rfl, by decide, by decide⟩
      | cons element elements => exact ⟨'[', _, by rw [chars], by decide, by decide⟩
  | obj members =>
      cases members with
      | nil => exact ⟨'{', _, by rw [chars]; rfl, by decide, by decide⟩
      | cons member members => exact ⟨'{', _, by rw [chars], by decide, by decide⟩
  | num value =>
      obtain ⟨c, tail, hchars, hc⟩ := head_intChars value.significand
      refine ⟨c, tail ++ _, by rw [chars, numeralChars, hchars, List.cons_append], ?_, ?_⟩
      · rcases hc with rfl | hc
        · decide
        · cases hspace : isSpace c with
          | false => rfl
          | true =>
              simp only [isSpace, Bool.or_eq_true, decide_eq_true_eq] at hspace
              rcases hspace with ((rfl | rfl) | rfl) | rfl <;> exact absurd hc (by decide)
      · rintro rfl
        rcases hc with hc | hc <;> exact absurd hc (by decide)

theorem skipSpace_cons {c : Char} (h : isSpace c = false) (text : List Char) :
    skipSpace (c :: text) = c :: text :=
  List.dropWhile_cons_of_neg (by simp [h])

theorem skipSpace_chars (value : Json) (text : List Char) :
    skipSpace (value.chars ++ text) = value.chars ++ text := by
  obtain ⟨c, tail, hchars, hspace, -⟩ := exists_chars value
  rw [hchars, List.cons_append, skipSpace_cons hspace]

theorem Delimited.elements (elements : List Json) (text : List Char) :
    Delimited (elementsChars elements ++ text) := by
  intro c hc
  cases elements <;> simp [elementsChars] at hc <;> simp [← hc]

theorem Delimited.members (members : List (String × Json)) (text : List Char) :
    Delimited (membersChars members ++ text) := by
  intro c hc
  cases members <;> simp [membersChars] at hc <;> simp [← hc]

/-- The reader takes back a value, the elements after the bracket and the members
after the brace, with fuel for each character of them. -/
theorem parse_chars (fuel : Nat) :
    (∀ (value : Json) (text : List Char), Delimited text → 2 * value.chars.length + 1 ≤ fuel →
      parseValue fuel (value.chars ++ text) = some (value, text)) ∧
    (∀ (element : Json) (elements : List Json) (text : List Char),
      2 * (element.chars ++ elementsChars elements).length + 2 ≤ fuel →
      parseElements fuel (element.chars ++ (elementsChars elements ++ text)) =
        some (element :: elements, text)) ∧
    ∀ (name : String) (value : Json) (members : List (String × Json)) (text : List Char),
      2 * (value.chars ++ membersChars members).length + 2 ≤ fuel →
      parseMembers fuel (quotedChars name.toList ++ ':' ::
        (value.chars ++ (membersChars members ++ text))) = some ((name, value) :: members, text) := by
  induction fuel with
  | zero => refine ⟨?_, ?_, ?_⟩ <;> intros <;> omega
  | succ fuel ih =>
      obtain ⟨ihValue, ihElements, ihMembers⟩ := ih
      refine ⟨?_, ?_, ?_⟩
      · intro value text htext hfuel
        rw [parseValue, skipSpace_chars]
        cases value with
        | null => rfl
        | bool value => cases value <;> rfl
        | str name =>
            rw [chars, quotedChars, List.cons_append, List.append_assoc, List.singleton_append]
            simp [parseString_chars]
        | num value =>
            have hparsed := parseNumeral_chars value htext
            obtain ⟨c, tail, hchars, hc⟩ := head_intChars value.significand
            rw [chars]
            rw [numeralChars, hchars, List.cons_append, List.cons_append] at hparsed ⊢
            -- a digit or a sign starts no other value
            split
            case h_7 => rw [hparsed]; rfl
            all_goals
              next heq =>
                obtain ⟨rfl, -⟩ := List.cons.inj heq
                rcases hc with hc | hc <;> exact absurd hc (by decide)
        | arr elements =>
            cases elements with
            | nil => rfl
            | cons element elements =>
                obtain ⟨c, tail, hchars, hspace, hbracket⟩ := exists_chars element
                rw [chars, List.cons_append, List.append_assoc]
                have hskip := skipSpace_chars element (elementsChars elements ++ text)
                have hparsed := ihElements element elements text (by
                  rw [chars] at hfuel
                  simp only [List.length_cons, List.length_append] at hfuel ⊢
                  omega)
                simp only [hskip]
                rw [hchars, List.cons_append] at hparsed ⊢
                split
                · next heq => exact absurd (List.cons.inj heq).1 hbracket
                · rw [hparsed]
                  rfl
        | obj members =>
            cases members with
            | nil => rfl
            | cons member members =>
                obtain ⟨name, value⟩ := member
                have hparsed := ihMembers name value members text (by
                  rw [chars] at hfuel
                  simp only [List.length_cons, List.length_append] at hfuel ⊢
                  omega)
                rw [chars, List.cons_append, List.append_assoc, List.cons_append, List.append_assoc]
                rw [quotedChars, List.cons_append] at hparsed ⊢
                simp only [skipSpace_cons (show isSpace '"' = false by decide)]
                change (parseMembers fuel _).map _ = _
                rw [hparsed]
                rfl
      · intro element elements text hfuel
        rw [parseElements, ihValue element _ (Delimited.elements elements text) (by
          simp only [List.length_append] at hfuel; omega)]
        cases elements with
        | nil => rfl
        | cons next elements =>
            rw [elementsChars] at hfuel ⊢
            rw [List.cons_append, List.append_assoc]
            have hparsed := ihElements next elements text (by
              simp only [List.length_cons, List.length_append] at hfuel ⊢
              omega)
            simp [skipSpace_cons (show isSpace ',' = false by decide), hparsed]
      · intro name value members text hfuel
        rw [parseMembers, quotedChars, List.cons_append, List.append_assoc, List.singleton_append,
          skipSpace_cons (by decide)]
        have hvalue := ihValue value _ (Delimited.members members text) (by
          simp only [List.length_append] at hfuel; omega)
        cases members with
        | nil =>
            rw [membersChars, List.singleton_append] at hvalue ⊢
            simp [parseString_chars, skipSpace_cons (show isSpace ':' = false by decide), hvalue,
              skipSpace_cons (show isSpace '}' = false by decide)]
        | cons member members =>
            obtain ⟨next, nextValue⟩ := member
            have hparsed := ihMembers next nextValue members text (by
              rw [membersChars] at hfuel
              simp only [List.length_cons, List.length_append] at hfuel ⊢
              omega)
            rw [membersChars] at hvalue ⊢
            rw [List.cons_append, List.append_assoc, List.cons_append, List.append_assoc] at hvalue ⊢
            simp [parseString_chars, skipSpace_cons (show isSpace ':' = false by decide), hvalue,
              skipSpace_cons (show isSpace ',' = false by decide), hparsed]

/-- The reader returns what the serializer was given. -/
theorem parse_stringify (value : Json) : parse value.chars = some value := by
  have h := (parse_chars (2 * value.chars.length + 2)).1 value [] (by simp [Delimited]) (by omega)
  rw [List.append_nil] at h
  rw [parse, h]
  rfl

/-- Two values with one text are one value. -/
theorem chars_injective : Function.Injective chars := by
  intro first second h
  have hparsed : some first = some second := by rw [← parse_stringify first, h, parse_stringify]
  exact Option.some.inj hparsed

end Json

end LunchLineup.Lib
