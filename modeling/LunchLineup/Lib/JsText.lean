import LunchLineup.Lib.Comparator

/-!
# The strings and the numbers of JSON in JavaScript

A string is a list of UTF-16 code units, paired or not; `JSON.stringify` writes it with
its pairs joined and an unpaired surrogate as an escape, so that every string has a text
of its own (`quote_append`).  A finite number is the shortest decimal that stands for it,
and `Number::toString` writes it as a whole number, with a point or with an exponent; one
text is the text of one number (`numberText_append`).
-/

namespace LunchLineup.Lib

open Json (isHigh isLow escaped hexDigit stringUnits Delimited)

/-! ## Strings -/

abbrev Units := List UInt16

/-- The code units of a text. -/
def unitsOf (text : String) : Units := (codeUnits text).map UInt16.ofNat

theorem unitsOf_injective : Function.Injective unitsOf := by
  have hsmall : ∀ text, ∀ unit ∈ codeUnits text, unit < 65536 := by
    intro text unit hunit
    obtain ⟨c, _, hc⟩ := List.mem_flatMap.mp hunit
    have hvalid := c.valid
    have hval : c.toNat = c.val.toNat := rfl
    simp only [UInt32.isValidChar, Nat.isValidChar] at hvalid
    unfold utf16Units at hc
    split_ifs at hc with hbasic
    · rw [List.mem_singleton.mp hc]
      exact hbasic
    · simp only [List.mem_cons, List.not_mem_nil, or_false] at hc
      rcases hc with hhigh | hlow
      · omega
      · omega
  intro first second h
  have hnumbers := congrArg (List.map UInt16.toNat) h
  simp only [unitsOf, List.map_map] at hnumbers
  have hback : ∀ text, (codeUnits text).map (UInt16.toNat ∘ UInt16.ofNat) = codeUnits text := by
    intro text
    conv_rhs => rw [← List.map_id (codeUnits text)]
    exact List.map_congr_left fun unit hunit =>
      UInt16.toNat_ofNat_of_lt (hsmall text unit hunit)
  rw [hback, hback] at hnumbers
  exact codeUnits_injective hnumbers

/-- `StringToCodePoints`: pairs are joined, an unpaired surrogate stands for itself. -/
def codePoints : Units → List Nat
  | [] => []
  | [unit] => [unit.toNat]
  | first :: second :: rest =>
      if isHigh first.toNat && isLow second.toNat then
        (0x10000 + (first.toNat - 0xD800) * 0x400 + (second.toNat - 0xDC00)) :: codePoints rest
      else first.toNat :: codePoints (second :: rest)

/-- `UTF16EncodeCodePoint`. -/
def encodePoint (point : Nat) : Units :=
  if point < 0x10000 then [UInt16.ofNat point]
  else [UInt16.ofNat (0xD800 + (point - 0x10000) / 0x400),
    UInt16.ofNat (0xDC00 + (point - 0x10000) % 0x400)]

/-- `UnicodeEscape`. -/
def unicodeEscape (point : Nat) : List Char :=
  ['\\', 'u', hexDigit (point / 4096), hexDigit (point / 256 % 16), hexDigit (point / 16 % 16),
    hexDigit (point % 16)]

def pointText (point : Nat) : List Char :=
  if isHigh point || isLow point then unicodeEscape point else escaped (Char.ofNat point)

/-- `QuoteJSONString`. -/
def quote (text : Units) : List Char := '"' :: ((codePoints text).flatMap pointText ++ ['"'])

theorem encodePoint_toNat (unit : UInt16) : encodePoint unit.toNat = [unit] := by
  rw [encodePoint, if_pos unit.toNat_lt, UInt16.ofNat_toNat]

/-- A string is found again from its code points. -/
theorem encode_codePoints (text : Units) : (codePoints text).flatMap encodePoint = text := by
  induction text using codePoints.induct with
  | case1 => rfl
  | case2 unit => rw [codePoints, List.flatMap_cons, encodePoint_toNat]; rfl
  | case3 first second rest hpair ih =>
      rw [codePoints, if_pos hpair, List.flatMap_cons, ih]
      simp only [isHigh, isLow, Bool.and_eq_true, decide_eq_true_eq] at hpair
      obtain ⟨⟨hfirst, hfirst'⟩, hsecond, hsecond'⟩ := hpair
      rw [encodePoint, if_neg (by omega)]
      have hhigh : 0xD800 + (0x10000 + (first.toNat - 0xD800) * 0x400 + (second.toNat - 0xDC00) -
          0x10000) / 0x400 = first.toNat := by omega
      have hlow : 0xDC00 + (0x10000 + (first.toNat - 0xD800) * 0x400 + (second.toNat - 0xDC00) -
          0x10000) % 0x400 = second.toNat := by omega
      rw [hhigh, hlow, UInt16.ofNat_toNat, UInt16.ofNat_toNat]
      rfl
  | case4 first second rest hpair ih =>
      rw [codePoints, if_neg hpair, List.flatMap_cons, ih, encodePoint_toNat]
      rfl

theorem codePoints_lt {text : Units} : ∀ point ∈ codePoints text, point < 0x110000 := by
  induction text using codePoints.induct with
  | case1 => simp [codePoints]
  | case2 unit =>
      have := unit.toNat_lt
      simp only [codePoints, List.mem_singleton, forall_eq]
      omega
  | case3 first second rest hpair ih =>
      rw [codePoints, if_pos hpair]
      simp only [isHigh, isLow, Bool.and_eq_true, decide_eq_true_eq] at hpair
      intro point hpoint
      rcases List.mem_cons.mp hpoint with heq | hpoint
      · omega
      · exact ih point hpoint
  | case4 first second rest hpair ih =>
      rw [codePoints, if_neg hpair]
      intro point hpoint
      have := first.toNat_lt
      rcases List.mem_cons.mp hpoint with heq | hpoint
      · omega
      · exact ih point hpoint

/-- The reader takes back a code point. -/
theorem stringUnits_pointText {point : Nat} (h : point < 0x110000) (text : List Char) :
    stringUnits (pointText point ++ text) =
      (stringUnits text).map fun found => (point :: found.1, found.2) := by
  unfold pointText
  split_ifs with hsurrogate
  · simp only [isHigh, isLow, Bool.or_eq_true, Bool.and_eq_true, decide_eq_true_eq] at hsurrogate
    have hunit : point / 4096 * 4096 + point / 256 % 16 * 256 + point / 16 % 16 * 16 + point % 16 =
        point := by omega
    simp only [unicodeEscape, List.cons_append, List.nil_append, stringUnits,
      Json.hexValue?_hexDigit (show point / 4096 < 16 by omega),
      Json.hexValue?_hexDigit (show point / 256 % 16 < 16 by omega),
      Json.hexValue?_hexDigit (show point / 16 % 16 < 16 by omega),
      Json.hexValue?_hexDigit (show point % 16 < 16 by omega), Option.bind_eq_bind,
      Option.bind_some, hunit]
    cases stringUnits text <;> rfl
  · have hvalid : Nat.isValidChar point := by
      simp only [isHigh, isLow, Bool.or_eq_true, Bool.and_eq_true, decide_eq_true_eq] at hsurrogate
      unfold Nat.isValidChar
      omega
    have hchar : (Char.ofNat point).toNat = point := by
      rw [Char.ofNat, dif_pos hvalid]
      rfl
    rw [Json.stringUnits_escaped, hchar]

theorem stringUnits_points {points : List Nat} (h : ∀ point ∈ points, point < 0x110000)
    (text : List Char) :
    stringUnits (points.flatMap pointText ++ '"' :: text) = some (points, text) := by
  induction points with
  | nil => rfl
  | cons point points ih =>
      rw [List.flatMap_cons, List.append_assoc, stringUnits_pointText (h point List.mem_cons_self),
        ih fun next hnext => h next (List.mem_cons_of_mem _ hnext)]
      rfl

/-- A quoted string and the text after it are determined. -/
theorem quote_append {first second : Units} {rest other : List Char}
    (h : quote first ++ rest = quote second ++ other) : first = second ∧ rest = other := by
  rw [quote, quote, List.cons_append, List.cons_append, List.append_assoc, List.append_assoc] at h
  have hread := congrArg stringUnits (List.cons.inj h).2
  rw [List.singleton_append, List.singleton_append, stringUnits_points codePoints_lt,
    stringUnits_points codePoints_lt] at hread
  obtain ⟨hpoints, hrest⟩ := Prod.mk.inj (Option.some.inj hread)
  refine ⟨?_, hrest⟩
  calc
    first = (codePoints first).flatMap encodePoint := (encode_codePoints first).symm
    _ = (codePoints second).flatMap encodePoint := by rw [hpoints]
    _ = second := encode_codePoints second

/-! ## Numbers -/

/-- A finite number: its sign, the digits of the shortest decimal that stands for it and
the place of the point, counted from before the first digit.  No zero ends the digits;
zero is the number without digits, of which `===` sees one. -/
structure JsonNumber where
  negative : Bool
  digits : Nat
  point : Int
  normal : digits % 10 ≠ 0 ∨ digits = 0 ∧ negative = false ∧ point = 0
  deriving DecidableEq

def zeros (count : Nat) : List Char := List.replicate count '0'

def exponentText : Int → List Char
  | .ofNat exponent => 'e' :: '+' :: Nat.toDigits 10 exponent
  | .negSucc exponent => 'e' :: '-' :: Nat.toDigits 10 (exponent + 1)

/-- `Number::toString` of a positive number. -/
def positiveText (significand : Nat) (n : Int) : List Char :=
  let digits := Nat.toDigits 10 significand
  let k : Int := digits.length
  if k ≤ n ∧ n ≤ 21 then digits ++ zeros (n - k).toNat
  else if 0 < n ∧ n ≤ 21 then digits.take n.toNat ++ '.' :: digits.drop n.toNat
  else if -6 < n ∧ n ≤ 0 then '0' :: '.' :: (zeros (-n).toNat ++ digits)
  else if k = 1 then digits ++ exponentText (n - 1)
  else digits.take 1 ++ '.' :: (digits.drop 1 ++ exponentText (n - 1))

/-- `Number::toString`. -/
def numberText (number : JsonNumber) : List Char :=
  if number.digits = 0 then ['0']
  else if number.negative then '-' :: positiveText number.digits number.point
  else positiveText number.digits number.point

section

variable {whole fraction tail rest : List Char} {exponent : Int}

/-- What may stand after the digits of a number. -/
def Ends (tail : List Char) : Prop := ∀ c ∈ tail.head?, c.isDigit = false ∧ c ≠ '.'

theorem Ends.of_delimited (h : Delimited rest) : Ends rest := by
  intro c hc
  rcases h c hc with rfl | rfl | rfl <;> decide

theorem ends_exponentText (exponent : Int) (rest : List Char) :
    Ends (exponentText exponent ++ rest) := by
  intro c hc
  have hc : c = 'e' := by cases exponent <;> simpa [exponentText] using hc.symm
  rw [hc]
  decide

theorem parseExponent_exponentText (exponent : Int) (h : Delimited rest) :
    Json.parseExponent (exponentText exponent ++ rest) = some (exponent, rest) := by
  cases exponent with
  | ofNat n =>
      rw [exponentText, List.cons_append, List.cons_append, Json.parseExponent,
        if_neg (by decide), if_neg (by decide), if_pos rfl,
        Json.parseDigits_append Nat.toDigits_ne_nil Json.isDigit_of_mem_toDigits h.not_digit]
      simp [Json.natValue, Nat.ofDigitChars_toDigits]
  | negSucc n =>
      rw [exponentText, List.cons_append, List.cons_append, Json.parseExponent,
        if_neg (by decide), if_pos rfl,
        Json.parseDigits_append Nat.toDigits_ne_nil Json.isDigit_of_mem_toDigits h.not_digit]
      simp [Json.natValue, Nat.ofDigitChars_toDigits, Int.negSucc_eq]

/-- A number without a point is read. -/
theorem parseUnsigned_whole (hne : whole ≠ []) (hdigits : ∀ c ∈ whole, c.isDigit)
    (hlead : whole.head? = some '0' → whole = ['0']) (htail : Ends tail)
    (hexponent : Json.parseExponent tail = some (exponent, rest)) :
    Json.parseUnsigned (whole ++ tail) = some (Json.natValue whole, exponent, rest) := by
  have hwhole := Json.parseDigits_append hne hdigits fun c hc => (htail c hc).1
  have hfraction : Json.parseFraction tail = some ([], tail) := by
    cases tail with
    | nil => rfl
    | cons c tail =>
        unfold Json.parseFraction
        split
        · next heq =>
            obtain ⟨rfl, -⟩ := List.cons.inj heq
            exact absurd rfl (htail '.' rfl).2
        · rfl
  have hfirst : ¬ (whole.head? = some '0' ∧ whole ≠ ['0']) := fun h => h.2 (hlead h.1)
  simp [Json.parseUnsigned, hwhole, hfirst, hfraction, hexponent]

/-- A number with a point is read. -/
theorem parseUnsigned_point (hne : whole ≠ []) (hdigits : ∀ c ∈ whole, c.isDigit)
    (hlead : whole.head? = some '0' → whole = ['0']) (hne' : fraction ≠ [])
    (hdigits' : ∀ c ∈ fraction, c.isDigit) (htail : Ends tail)
    (hexponent : Json.parseExponent tail = some (exponent, rest)) :
    Json.parseUnsigned (whole ++ '.' :: (fraction ++ tail)) =
      some (Json.natValue (whole ++ fraction), exponent - fraction.length, rest) := by
  have hwhole : Json.parseDigits (whole ++ '.' :: (fraction ++ tail)) =
      some (whole, '.' :: (fraction ++ tail)) := by
    apply Json.parseDigits_append hne hdigits
    intro c hc
    obtain rfl : '.' = c := by simpa using hc
    decide
  have hfraction : Json.parseFraction ('.' :: (fraction ++ tail)) = some (fraction, tail) :=
    Json.parseDigits_append hne' hdigits' fun c hc => (htail c hc).1
  have hfirst : ¬ (whole.head? = some '0' ∧ whole ≠ ['0']) := fun h => h.2 (hlead h.1)
  simp [Json.parseUnsigned, hwhole, hfirst, hfraction, hexponent]

end

/-! ### Digits and zeros -/

theorem natValue_toDigits (n : Nat) : Json.natValue (Nat.toDigits 10 n) = n :=
  Nat.ofDigitChars_ten_toDigits

theorem natValue_append_zeros (digits : List Char) (count : Nat) :
    Json.natValue (digits ++ zeros count) = Json.natValue digits * 10 ^ count := by
  rw [Json.natValue, Nat.ofDigitChars_append, zeros, Nat.ofDigitChars_replicate_zero, mul_comm]
  rfl

theorem natValue_zeros_append (digits : List Char) (count : Nat) :
    Json.natValue (zeros count ++ digits) = Json.natValue digits := by
  rw [Json.natValue, Nat.ofDigitChars_append, zeros, Nat.ofDigitChars_replicate_zero, mul_zero]
  rfl

theorem isDigit_of_mem_zeros {count : Nat} : ∀ c ∈ zeros count, c.isDigit := by
  intro c hc
  rw [List.eq_of_mem_replicate hc]
  decide

/-- No zero leads the digits of a positive number. -/
theorem head?_ne_zero {n : Nat} (h : 0 < n) : (Nat.toDigits 10 n).head? ≠ some '0' := by
  intro hhead
  have hvalue := natValue_toDigits n
  rw [Json.head?_toDigits hhead] at hvalue
  have : Json.natValue ['0'] = 0 := by decide
  omega

/-- A positive number is read as a decimal with the same value: its digits, with as many
zeros after them as the exponent makes up for. -/
theorem parseUnsigned_positiveText {significand : Nat} {n : Int} (hpos : 0 < significand)
    {rest : List Char} (h : Delimited rest) :
    ∃ shift : Nat, Json.parseUnsigned (positiveText significand n ++ rest) =
      some (significand * 10 ^ shift, n - (Nat.toDigits 10 significand).length - shift, rest) := by
  have hvalue := natValue_toDigits significand
  have hlead := head?_ne_zero hpos
  have hne : Nat.toDigits 10 significand ≠ [] := Nat.toDigits_ne_nil
  have hdigits : ∀ c ∈ Nat.toDigits 10 significand, c.isDigit := Json.isDigit_of_mem_toDigits
  have hend := Ends.of_delimited h
  unfold positiveText
  generalize Nat.toDigits 10 significand = digits at *
  have hlength := List.length_pos_of_ne_nil hne
  dsimp only
  split_ifs with hwhole hpoint hsmall hone
  · refine ⟨(n - digits.length).toNat, ?_⟩
    rw [parseUnsigned_whole (by simp [hne]) ?_ ?_ hend h.parseExponent, natValue_append_zeros,
      hvalue]
    · congr 3
      omega
    · intro c hc
      rcases List.mem_append.mp hc with hc | hc
      · exact hdigits c hc
      · exact isDigit_of_mem_zeros c hc
    · intro hhead
      rw [List.head?_append_of_ne_nil _ hne] at hhead
      exact absurd hhead hlead
  · -- the point stands within the digits
    have hlt : n.toNat < digits.length := by omega
    refine ⟨0, ?_⟩
    rw [List.append_assoc, List.cons_append, parseUnsigned_point ?_ ?_ ?_ ?_ ?_ hend
      h.parseExponent, List.take_append_drop, hvalue, List.length_drop, pow_zero, mul_one]
    · have hexponent : (0 : Int) - (digits.length - n.toNat : Nat) = n - digits.length - (0 : Nat) := by
        omega
      rw [hexponent]
    · rw [ne_eq, List.take_eq_nil_iff]
      exact fun h => h.elim (by omega) hne
    · exact fun c hc => hdigits c (List.mem_of_mem_take hc)
    · intro hhead
      rw [List.head?_take, if_neg (by omega)] at hhead
      exact absurd hhead hlead
    · rw [ne_eq, List.drop_eq_nil_iff]
      omega
    · exact fun c hc => hdigits c (List.mem_of_mem_drop hc)
  · refine ⟨0, ?_⟩
    have hzero : Json.natValue (['0'] ++ (zeros (-n).toNat ++ digits)) = significand := by
      change Json.natValue (zeros 1 ++ (zeros (-n).toNat ++ digits)) = significand
      rw [natValue_zeros_append, natValue_zeros_append, hvalue]
    have hexponent : (0 : Int) - (zeros (-n).toNat ++ digits).length =
        n - digits.length - (0 : Nat) := by
      rw [List.length_append, zeros, List.length_replicate]
      omega
    have hread : Json.parseUnsigned (['0'] ++ '.' :: ((zeros (-n).toNat ++ digits) ++ rest)) = _ :=
      parseUnsigned_point (by simp) (by simp) (fun _ => rfl) (by simp [hne]) (by
        intro c hc
        rcases List.mem_append.mp hc with hc | hc
        · exact isDigit_of_mem_zeros c hc
        · exact hdigits c hc) hend h.parseExponent
    rw [hzero, hexponent] at hread
    rw [pow_zero, mul_one]
    exact hread
  · refine ⟨0, ?_⟩
    rw [List.append_assoc, parseUnsigned_whole hne hdigits (fun hhead => absurd hhead hlead)
      (ends_exponentText _ _) (parseExponent_exponentText _ h), hvalue, hone, pow_zero, mul_one,
      Nat.cast_zero, sub_zero]
  · refine ⟨0, ?_⟩
    rw [List.append_assoc, List.cons_append, List.append_assoc, parseUnsigned_point ?_ ?_ ?_ ?_ ?_
      (ends_exponentText _ _) (parseExponent_exponentText _ h), List.take_append_drop, hvalue,
      List.length_drop, pow_zero, mul_one]
    · have hexponent : n - 1 - (digits.length - 1 : Nat) = n - digits.length - (0 : Nat) := by
        omega
      rw [hexponent]
    · rw [ne_eq, List.take_eq_nil_iff]
      exact fun h => h.elim (by omega) hne
    · exact fun c hc => hdigits c (List.mem_of_mem_take hc)
    · intro hhead
      rw [List.head?_take, if_neg (by omega)] at hhead
      exact absurd hhead hlead
    · rw [ne_eq, List.drop_eq_nil_iff]
      omega
    · exact fun c hc => hdigits c (List.mem_of_mem_drop hc)

/-- A digit starts the text of a positive number. -/
theorem head_positiveText (significand : Nat) (n : Int) :
    ∃ c tail, positiveText significand n = c :: tail ∧ c.isDigit := by
  obtain ⟨c, tail, hdigits⟩ :=
    List.exists_cons_of_ne_nil (Nat.toDigits_ne_nil (n := significand) (b := 10))
  have hc : c.isDigit := Json.isDigit_of_mem_toDigits (n := significand) c (by simp [hdigits])
  unfold positiveText
  rw [hdigits]
  dsimp only
  split_ifs with hwhole hpoint hsmall hone
  · exact ⟨c, _, rfl, hc⟩
  · obtain ⟨j, hj⟩ : ∃ j, n.toNat = j + 1 := ⟨n.toNat - 1, by omega⟩
    rw [hj]
    exact ⟨c, _, rfl, hc⟩
  · exact ⟨'0', _, rfl, by decide⟩
  · exact ⟨c, _, rfl, hc⟩
  · exact ⟨c, _, rfl, hc⟩

/-! ### One text for every number -/

/-- The decimal that the text of a number is read as. -/
def ReadAs (number : JsonNumber) (numeral : Numeral) : Prop :=
  if number.digits = 0 then numeral.significand = 0
  else ∃ shift : Nat, numeral.significand =
      (if number.negative then -1 else 1) * (number.digits * 10 ^ shift : Nat) ∧
    numeral.exponent = number.point - (Nat.toDigits 10 number.digits).length - shift

theorem parseNumeral_of_digit {c : Char} (hc : c.isDigit) (tail : List Char) :
    Json.parseNumeral (c :: tail) =
      (Json.parseUnsigned (c :: tail)).map fun found => (⟨(found.1 : Int), found.2.1⟩, found.2.2) := by
  unfold Json.parseNumeral
  split
  · next heq =>
      obtain ⟨rfl, -⟩ := List.cons.inj heq
      exact absurd hc (by decide)
  · rfl

theorem parseNumeral_numberText (number : JsonNumber) {rest : List Char} (h : Delimited rest) :
    ∃ numeral, Json.parseNumeral (numberText number ++ rest) = some (numeral, rest) ∧
      ReadAs number numeral := by
  unfold numberText ReadAs
  split_ifs with hzero hnegative
  · have hread : Json.parseUnsigned (['0'] ++ rest) = some (0, 0, rest) :=
      parseUnsigned_whole (by simp) (by simp) (fun _ => rfl) (Ends.of_delimited h) h.parseExponent
    refine ⟨⟨0, 0⟩, ?_, rfl⟩
    rw [List.singleton_append] at hread ⊢
    rw [parseNumeral_of_digit (by decide), hread]
    rfl
  · obtain ⟨shift, hread⟩ :=
      parseUnsigned_positiveText (n := number.point) (Nat.pos_of_ne_zero hzero) h
    refine ⟨⟨-(number.digits * 10 ^ shift : Nat), _⟩, ?_, shift, by rw [neg_one_mul], rfl⟩
    rw [List.cons_append, Json.parseNumeral, hread]
    rfl
  · obtain ⟨shift, hread⟩ :=
      parseUnsigned_positiveText (n := number.point) (Nat.pos_of_ne_zero hzero) h
    obtain ⟨c, tail, hhead, hc⟩ := head_positiveText number.digits number.point
    refine ⟨⟨(number.digits * 10 ^ shift : Nat), _⟩, ?_, shift, by rw [one_mul], rfl⟩
    rw [hhead, List.cons_append] at hread ⊢
    rw [parseNumeral_of_digit hc, hread]
    rfl

/-- No zero is lost or gained. -/
theorem mul_pow_ten_inj {first second shift other : Nat} (hfirst : first % 10 ≠ 0)
    (hsecond : second % 10 ≠ 0) (h : first * 10 ^ shift = second * 10 ^ other) :
    first = second ∧ shift = other := by
  induction shift generalizing other with
  | zero =>
      cases other with
      | zero => exact ⟨by simpa using h, rfl⟩
      | succ other =>
          rw [pow_zero, mul_one, pow_succ, ← mul_assoc] at h
          omega
  | succ shift ih =>
      cases other with
      | zero =>
          rw [pow_zero, mul_one, pow_succ, ← mul_assoc] at h
          omega
      | succ other =>
          rw [pow_succ, pow_succ, ← mul_assoc, ← mul_assoc] at h
          obtain ⟨hsame, hshift⟩ := ih (Nat.eq_of_mul_eq_mul_right (by decide) h)
          exact ⟨hsame, by rw [hshift]⟩

theorem ReadAs.injective {first second : JsonNumber} {numeral : Numeral}
    (hfirst : ReadAs first numeral) (hsecond : ReadAs second numeral) : first = second := by
  obtain ⟨negative, digits, point, hnormal⟩ := first
  obtain ⟨negative', digits', point', hnormal'⟩ := second
  have hpositive : ∀ {digits : Nat} (shift : Nat), digits ≠ 0 → 0 < digits * 10 ^ shift := fun _ h =>
    Nat.mul_pos (Nat.pos_of_ne_zero h) (by positivity)
  simp only [ReadAs] at hfirst hsecond
  by_cases hzero : digits = 0 <;> by_cases hzero' : digits' = 0
  · obtain ⟨-, rfl, rfl⟩ := hnormal.resolve_left (by omega)
    obtain ⟨-, rfl, rfl⟩ := hnormal'.resolve_left (by omega)
    subst hzero hzero'
    rfl
  · rw [if_pos hzero] at hfirst
    rw [if_neg hzero'] at hsecond
    obtain ⟨shift, hvalue, -⟩ := hsecond
    have := hpositive shift hzero'
    split_ifs at hvalue <;> omega
  · rw [if_neg hzero] at hfirst
    rw [if_pos hzero'] at hsecond
    obtain ⟨shift, hvalue, -⟩ := hfirst
    have := hpositive shift hzero
    split_ifs at hvalue <;> omega
  · rw [if_neg hzero] at hfirst
    rw [if_neg hzero'] at hsecond
    obtain ⟨shift, hvalue, hpoint⟩ := hfirst
    obtain ⟨shift', hvalue', hpoint'⟩ := hsecond
    have hpos := hpositive shift hzero
    have hpos' := hpositive shift' hzero'
    -- the sign is that of the value, the digits are its digits without zeros at the end
    have hsign : negative = negative' ∧ digits * 10 ^ shift = digits' * 10 ^ shift' := by
      cases negative <;> cases negative' <;> simp only [if_true, if_false, Bool.false_eq_true]
        at hvalue hvalue' <;> refine ⟨by first | rfl | omega, by omega⟩
    obtain ⟨rfl, hmagnitude⟩ := hsign
    obtain ⟨rfl, rfl⟩ := mul_pow_ten_inj (hnormal.resolve_right fun h => hzero h.1)
      (hnormal'.resolve_right fun h => hzero' h.1) hmagnitude
    obtain rfl : point = point' := by omega
    rfl

/-- The text of a number and the text after it are determined. -/
theorem numberText_append {first second : JsonNumber} {rest other : List Char}
    (hrest : Delimited rest) (hother : Delimited other)
    (h : numberText first ++ rest = numberText second ++ other) : first = second ∧ rest = other := by
  obtain ⟨numeral, hread, hfirst⟩ := parseNumeral_numberText first hrest
  obtain ⟨numeral', hread', hsecond⟩ := parseNumeral_numberText second hother
  rw [h, hread'] at hread
  obtain ⟨rfl, hsame⟩ := Prod.mk.inj (Option.some.inj hread)
  exact ⟨hfirst.injective hsecond, hsame.symm⟩

example : numberText ⟨true, 15, -6, by decide⟩ = "-1.5e-7".toList := by decide

end LunchLineup.Lib
