import Mathlib.Tactic

/-!
# Texts as bytes and bytes as texts

UTF-8 and base64url.  A decoder takes any input: bytes that encode no character
read as U+FFFD, and characters outside the two base64 alphabets are skipped.
Each decoder returns what its encoder was given (`utf8Text_utf8Bytes`,
`decode_encode`).
-/

namespace LunchLineup.Lib

/-! ## UTF-8 -/

def utf8Bytes (text : List Char) : List UInt8 := text.flatMap String.utf8EncodeChar

/-- The characters of some bytes; every step takes one byte or more. -/
def utf8Chars : Nat → List UInt8 → List Char
  | 0, _ => []
  | _ + 1, [] => []
  | fuel + 1, byte :: bytes =>
      match (byte :: bytes).toByteArray.utf8DecodeChar? 0 with
      | some c => c :: utf8Chars fuel ((byte :: bytes).drop c.utf8Size)
      | none => '\uFFFD' :: utf8Chars fuel bytes

def utf8Text (bytes : List UInt8) : List Char := utf8Chars bytes.length bytes

theorem utf8Chars_utf8Bytes (text : List Char) (fuel : Nat) (h : text.length ≤ fuel) :
    utf8Chars fuel (utf8Bytes text) = text := by
  induction text generalizing fuel with
  | nil => cases fuel <;> rfl
  | cons c text ih =>
      cases fuel with
      | zero => simp at h
      | succ fuel =>
          have hdecode : (utf8Bytes (c :: text)).toByteArray.utf8DecodeChar? 0 = some c := by
            rw [utf8Bytes, List.flatMap_cons, List.toByteArray_append]
            exact ByteArray.utf8DecodeChar?_utf8EncodeChar_append
          have hdrop : (utf8Bytes (c :: text)).drop c.utf8Size = utf8Bytes text := by
            rw [utf8Bytes, List.flatMap_cons, ← String.length_utf8EncodeChar, List.drop_left]
            rfl
          cases hbytes : utf8Bytes (c :: text) with
          | nil =>
              have hlength := congrArg List.length hbytes
              have hpos := c.utf8Size_pos
              simp [utf8Bytes] at hlength
              omega
          | cons byte bytes =>
              rw [hbytes] at hdecode hdrop
              rw [utf8Chars, hdecode]
              simp only [hdrop]
              rw [ih fuel (by simpa using h)]

theorem length_le_utf8Bytes (text : List Char) : text.length ≤ (utf8Bytes text).length := by
  induction text with
  | nil => exact le_rfl
  | cons c text ih =>
      have hpos := c.utf8Size_pos
      rw [utf8Bytes, List.flatMap_cons, List.length_append, String.length_utf8EncodeChar,
        List.length_cons]
      rw [utf8Bytes] at ih
      omega

/-- A text is read back from its bytes. -/
theorem utf8Text_utf8Bytes (text : List Char) : utf8Text (utf8Bytes text) = text :=
  utf8Chars_utf8Bytes text _ (length_le_utf8Bytes text)

/-! ## base64url -/

namespace Base64

def sextetChar (n : Nat) : Char :=
  if n < 26 then Char.ofNat (65 + n)
  else if n < 52 then Char.ofNat (71 + n)
  else if n < 62 then Char.ofNat (n - 4)
  else if n = 62 then '-' else '_'

def sextet? (c : Char) : Option Nat :=
  if 'A' ≤ c ∧ c ≤ 'Z' then some (c.toNat - 65)
  else if 'a' ≤ c ∧ c ≤ 'z' then some (c.toNat - 71)
  else if '0' ≤ c ∧ c ≤ '9' then some (c.toNat + 4)
  else if c = '-' ∨ c = '+' then some 62
  else if c = '_' ∨ c = '/' then some 63
  else none

def sextets : List UInt8 → List Nat
  | a :: b :: c :: bytes =>
      a.toNat / 4 :: (a.toNat % 4 * 16 + b.toNat / 16) :: (b.toNat % 16 * 4 + c.toNat / 64) ::
        c.toNat % 64 :: sextets bytes
  | [a, b] => [a.toNat / 4, a.toNat % 4 * 16 + b.toNat / 16, b.toNat % 16 * 4]
  | [a] => [a.toNat / 4, a.toNat % 4 * 16]
  | [] => []

/-- `toString('base64url')`. -/
def encode (bytes : List UInt8) : List Char := (sextets bytes).map sextetChar

def ofSextets : List Nat → List UInt8
  | p :: q :: r :: s :: rest =>
      UInt8.ofNat (p * 4 + q / 16) :: UInt8.ofNat (q % 16 * 16 + r / 4) ::
        UInt8.ofNat (r % 4 * 64 + s) :: ofSextets rest
  | [p, q, r] => [UInt8.ofNat (p * 4 + q / 16), UInt8.ofNat (q % 16 * 16 + r / 4)]
  | [p, q] => [UInt8.ofNat (p * 4 + q / 16)]
  | _ => []

/-- `Buffer.from(text, 'base64url')`: padding ends the text. -/
def decode (text : List Char) : List UInt8 :=
  ofSextets ((text.takeWhile (· ≠ '=')).filterMap sextet?)

theorem sextet?_sextetChar {n : Nat} (h : n < 64) :
    sextet? (sextetChar n) = some n ∧ sextetChar n ≠ '=' := by
  interval_cases n <;> decide

theorem lt_of_mem_sextets (bytes : List UInt8) : ∀ n ∈ sextets bytes, n < 64 := by
  induction bytes using sextets.induct with
  | case1 a b c bytes ih =>
      have ha := a.toNat_lt
      have hb := b.toNat_lt
      have hc := c.toNat_lt
      intro n hn
      simp only [sextets, List.mem_cons] at hn
      rcases hn with rfl | rfl | rfl | rfl | hn
      · omega
      · omega
      · omega
      · omega
      · exact ih n hn
  | case2 a b =>
      have ha := a.toNat_lt
      have hb := b.toNat_lt
      intro n hn
      simp only [sextets, List.mem_cons, List.not_mem_nil, or_false] at hn
      omega
  | case3 a =>
      have ha := a.toNat_lt
      intro n hn
      simp only [sextets, List.mem_cons, List.not_mem_nil, or_false] at hn
      omega
  | case4 => simp [sextets]

theorem ofNat_eq {n : Nat} (byte : UInt8) (h : n = byte.toNat) : UInt8.ofNat n = byte := by
  rw [h, UInt8.ofNat_toNat]

theorem ofSextets_sextets (bytes : List UInt8) : ofSextets (sextets bytes) = bytes := by
  induction bytes using sextets.induct with
  | case1 a b c bytes ih =>
      have ha := a.toNat_lt
      have hb := b.toNat_lt
      have hc := c.toNat_lt
      rw [sextets, ofSextets, ih, ofNat_eq a (by omega), ofNat_eq b (by omega),
        ofNat_eq c (by omega)]
  | case2 a b =>
      have ha := a.toNat_lt
      have hb := b.toNat_lt
      rw [sextets, ofSextets, ofNat_eq a (by omega), ofNat_eq b (by omega)]
  | case3 a =>
      have ha := a.toNat_lt
      rw [sextets, ofSextets, ofNat_eq a (by omega)]
  | case4 => rfl

/-- No character of the text is skipped and none ends it. -/
theorem filterMap_sextetChar {rest : List Nat} (h : ∀ n ∈ rest, n < 64) :
    ((rest.map sextetChar).takeWhile (· ≠ '=')).filterMap sextet? = rest := by
  induction rest with
  | nil => rfl
  | cons n rest ih =>
      obtain ⟨hread, hpad⟩ := sextet?_sextetChar (h n List.mem_cons_self)
      rw [List.map_cons, List.takeWhile_cons_of_pos (by simpa using hpad), List.filterMap_cons, hread,
        ih fun m hm => h m (List.mem_cons_of_mem _ hm)]

/-- Bytes are read back from their text. -/
theorem decode_encode (bytes : List UInt8) : decode (encode bytes) = bytes := by
  rw [decode, encode, filterMap_sextetChar (lt_of_mem_sextets bytes), ofSextets_sextets]

/-- Four characters for three bytes. -/
theorem length_encode_le (bytes : List UInt8) :
    3 * (encode bytes).length ≤ 4 * bytes.length + 2 := by
  rw [encode, List.length_map]
  induction bytes using sextets.induct with
  | case1 a b c bytes ih =>
      simp only [sextets, List.length_cons]
      omega
  | case2 a b => simp [sextets]
  | case3 a => simp [sextets]
  | case4 => simp [sextets]

end Base64

end LunchLineup.Lib
