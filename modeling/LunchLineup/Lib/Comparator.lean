import LunchLineup.Lib.Json

/-!
# Comparators that return a number

`sort` in JavaScript takes a function that returns a negative number, zero or a
positive one.  `Compares` says that such a number compares two keys; comparators
that are joined with `||` compare the pairs of the keys (`Compares.either`).  A
stable sort by a comparator depends on the elements only, not on their order, if
no two of them have one key (`sortBy_congr`).

Texts compare by their UTF-16 code units.
-/

namespace LunchLineup.Lib

/-! ## Signs -/

section

variable {α β : Type*} [LinearOrder α] [LinearOrder β] {sign other : Int} {a b : α} {c d : β}

/-- The sign of a comparison of two keys. -/
structure Compares (sign : Int) (a b : α) : Prop where
  neg_iff : sign < 0 ↔ a < b
  zero_iff : sign = 0 ↔ a = b

theorem Compares.nonpos_iff (h : Compares sign a b) : sign ≤ 0 ↔ a ≤ b := by
  rw [le_iff_lt_or_eq, le_iff_lt_or_eq, h.neg_iff, h.zero_iff]

/-- `first || second`. -/
def either (first second : Int) : Int := if first = 0 then second else first

/-- The second comparison decides where the first one sees no difference. -/
theorem Compares.either (h : Compares sign a b) (h' : Compares other c d) :
    Compares (Lib.either sign other) (toLex (a, c)) (toLex (b, d)) := by
  unfold Lib.either
  constructor
  · rw [Prod.Lex.toLex_lt_toLex]
    split_ifs with hzero
    · have hab := h.zero_iff.mp hzero
      rw [h'.neg_iff]
      exact ⟨fun hlt => Or.inr ⟨hab, hlt⟩, fun hlt => hlt.elim (fun hab' => absurd hab hab'.ne)
        And.right⟩
    · have hab := mt h.zero_iff.mpr hzero
      rw [h.neg_iff]
      exact ⟨Or.inl, fun hlt => hlt.elim id fun heq => absurd heq.1 hab⟩
  · rw [toLex_inj, Prod.mk.injEq]
    split_ifs with hzero
    · rw [h'.zero_iff]
      exact ⟨fun hcd => ⟨h.zero_iff.mp hzero, hcd⟩, And.right⟩
    · exact ⟨fun hsign => absurd hsign hzero, fun heq => absurd (h.zero_iff.mpr heq.1) hzero⟩

theorem compares_sub (a b : Int) : Compares (a - b) a b := by
  constructor <;> omega

end

/-! ## Sorting by a comparator -/

section

variable {Row Key : Type*} [LinearOrder Key]

/-- `rows.sort(compare)`. -/
def sortBy (compare : Row → Row → Int) (rows : List Row) : List Row :=
  rows.mergeSort fun a b => decide (compare a b ≤ 0)

variable {compare : Row → Row → Int} {key : Row → Key} {rows other : List Row}

theorem sortBy_perm : (sortBy compare rows).Perm rows := List.mergeSort_perm ..

theorem sortBy_pairwise (hcompare : ∀ a b, Compares (compare a b) (key a) (key b)) :
    (sortBy compare rows).Pairwise fun a b => key a ≤ key b := by
  have hsorted : (sortBy compare rows).Pairwise fun a b => decide (compare a b ≤ 0) = true := by
    apply List.pairwise_mergeSort
    · intro a b c hab hbc
      rw [decide_eq_true_eq, (hcompare _ _).nonpos_iff] at hab hbc ⊢
      exact hab.trans hbc
    · intro a b
      rw [Bool.or_eq_true, decide_eq_true_eq, decide_eq_true_eq, (hcompare _ _).nonpos_iff,
        (hcompare _ _).nonpos_iff]
      exact le_total _ _
  exact hsorted.imp fun h => (hcompare _ _).nonpos_iff.mp (of_decide_eq_true h)

/-- The order of the elements does not matter if their keys tell them apart. -/
theorem sortBy_congr (hcompare : ∀ a b, Compares (compare a b) (key a) (key b))
    (hperm : rows.Perm other) (hkey : ∀ a ∈ rows, ∀ b ∈ rows, key a = key b → a = b) :
    sortBy compare rows = sortBy compare other := by
  apply List.Perm.eq_of_pairwise ?_ (sortBy_pairwise hcompare) (sortBy_pairwise hcompare)
    ((sortBy_perm.trans hperm).trans sortBy_perm.symm)
  intro a b ha hb hab hba
  have ha : a ∈ rows := sortBy_perm.subset ha
  have hb : b ∈ rows := hperm.symm.subset (sortBy_perm.subset hb)
  exact hkey a ha b hb (le_antisymm hab hba)

/-- A map that the comparator does not see can be made before or after. -/
theorem map_sortBy {Image : Type*} {f : Row → Image} {compareImage : Image → Image → Int}
    (h : ∀ a b, compareImage (f a) (f b) = compare a b) :
    (sortBy compare rows).map f = sortBy compareImage (rows.map f) := by
  unfold sortBy
  apply List.map_mergeSort
  intro a _ b _
  rw [h]

end

/-! ## Texts -/

/-- The UTF-16 code units of a character. -/
def utf16Units (c : Char) : List Nat :=
  if c.toNat < 0x10000 then [c.toNat]
  else [0xD800 + (c.toNat - 0x10000) / 0x400, 0xDC00 + (c.toNat - 0x10000) % 0x400]

def codeUnits (text : String) : List Nat := text.toList.flatMap utf16Units

open Json in
theorem joinPairs_cons {unit : Nat} (h : isHigh unit = false) (units : List Nat) :
    joinPairs (unit :: units) = scalar unit :: joinPairs units := by
  cases units with
  | nil => rfl
  | cons next units => rw [joinPairs, h, Bool.false_and, if_neg (by decide)]

open Json in
/-- A text is found again from its code units. -/
theorem joinPairs_flatMap (chars : List Char) : joinPairs (chars.flatMap utf16Units) = chars := by
  induction chars with
  | nil => rfl
  | cons c chars ih =>
      rw [List.flatMap_cons, utf16Units]
      split_ifs with hbasic
      · rw [List.singleton_append, joinPairs_cons (not_surrogate c).1, scalar_toNat, ih]
      · have hlt : c.toNat < 0x110000 := by
          have h := c.valid
          simp only [UInt32.isValidChar, Nat.isValidChar] at h
          have hval : c.toNat = c.val.toNat := rfl
          omega
        have hhigh : isHigh (0xD800 + (c.toNat - 0x10000) / 0x400) = true := by
          simp only [isHigh, Bool.and_eq_true, decide_eq_true_eq]
          omega
        have hlow : isLow (0xDC00 + (c.toNat - 0x10000) % 0x400) = true := by
          simp only [isLow, Bool.and_eq_true, decide_eq_true_eq]
          omega
        have hvalue : 0x10000 + (0xD800 + (c.toNat - 0x10000) / 0x400 - 0xD800) * 0x400 +
            (0xDC00 + (c.toNat - 0x10000) % 0x400 - 0xDC00) = c.toNat := by omega
        rw [List.cons_append, List.singleton_append, joinPairs, hhigh, hlow, Bool.and_self,
          if_pos rfl, hvalue, Char.ofNat_toNat, ih]

theorem codeUnits_injective : Function.Injective codeUnits := by
  intro first second h
  have hchars := congrArg Json.joinPairs h
  rw [codeUnits, codeUnits, joinPairs_flatMap, joinPairs_flatMap] at hchars
  exact String.toList_injective hchars

/-- `left < right ? -1 : left > right ? 1 : 0` of two texts. -/
def compareByUnits (left right : String) : Int :=
  if codeUnits left < codeUnits right then -1
  else if codeUnits right < codeUnits left then 1
  else 0

theorem compares_units (left right : String) :
    Compares (compareByUnits left right) (codeUnits left) (codeUnits right) := by
  unfold compareByUnits
  rcases lt_trichotomy (codeUnits left) (codeUnits right) with h | h | h
  · rw [if_pos h]
    exact ⟨by simpa using h, by simpa using h.ne⟩
  · rw [if_neg h.not_lt, if_neg h.not_gt]
    exact ⟨by simpa using h.not_lt, by simpa using h⟩
  · rw [if_neg h.not_gt, if_pos h]
    exact ⟨by simpa using h.le, by simpa using h.ne'⟩

end LunchLineup.Lib
