import Mathlib.Tactic

/-!
# Numbers in decimal

Two numbers with one text are one number, and a text has nothing but digits and a
minus sign.
-/

namespace LunchLineup.Lib

theorem toDigits_injective : Function.Injective (Nat.toDigits 10) := by
  intro n k h
  calc
    n = Nat.ofDigitChars 10 (Nat.toDigits 10 n) 0 := Nat.ofDigitChars_ten_toDigits.symm
    _ = Nat.ofDigitChars 10 (Nat.toDigits 10 k) 0 := by rw [h]
    _ = k := Nat.ofDigitChars_ten_toDigits

theorem isDigit_of_mem {n : Nat} {c : Char} (h : c ∈ Nat.toDigits 10 n) : c.isDigit = true :=
  Nat.isDigit_of_mem_toDigits (by decide) (by decide) h

theorem toList_ofNat (n : Nat) : (toString (Int.ofNat n)).toList = Nat.toDigits 10 n :=
  Nat.toList_repr

theorem toList_negSucc (n : Nat) :
    (toString (Int.negSucc n)).toList = '-' :: Nat.toDigits 10 (n + 1) := by
  have happend : (toString (Int.negSucc n)).toList = "-".toList ++ (Nat.repr (n + 1)).toList :=
    String.toList_append
  rw [happend, Nat.toList_repr]
  rfl

theorem mem_toString {n : Int} {c : Char} (h : c ∈ (toString n).toList) :
    c = '-' ∨ c.isDigit = true := by
  cases n with
  | ofNat n =>
      rw [toList_ofNat] at h
      exact .inr (isDigit_of_mem h)
  | negSucc n =>
      rw [toList_negSucc] at h
      rcases List.mem_cons.mp h with rfl | h
      · exact .inl rfl
      · exact .inr (isDigit_of_mem h)

theorem toString_injective : Function.Injective (toString : Int → String) := by
  have hsign : ∀ n k : Nat, Nat.toDigits 10 n ≠ '-' :: Nat.toDigits 10 (k + 1) := by
    intro n k h
    have hminus : '-' ∈ Nat.toDigits 10 n := by
      rw [h]
      exact List.mem_cons_self
    exact absurd (isDigit_of_mem hminus) (by decide)
  intro first second h
  have hchars := congrArg String.toList h
  cases first with
  | ofNat n =>
      cases second with
      | ofNat k =>
          rw [toList_ofNat, toList_ofNat] at hchars
          rw [toDigits_injective hchars]
      | negSucc k =>
          rw [toList_ofNat, toList_negSucc] at hchars
          exact absurd hchars (hsign n k)
  | negSucc n =>
      cases second with
      | ofNat k =>
          rw [toList_ofNat, toList_negSucc] at hchars
          exact absurd hchars.symm (hsign k n)
      | negSucc k =>
          rw [toList_negSucc, toList_negSucc] at hchars
          obtain rfl : n = k := Nat.succ_injective (toDigits_injective (List.cons.inj hchars).2)
          rfl

end LunchLineup.Lib
