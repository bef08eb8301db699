import Mathlib.Algebra.Order.Ring.Nat
import Mathlib.Data.List.Basic
import TrustRouter.Number.Digits

/-! # Decimal digits of a number

The digits that a number is written with, and what becomes of them when zeros at the end are left
out: the value is divided by a power of ten, and nothing else happens
(`Digits.exists_eq_trimZeros_append`). A number other than zero has digits that begin with no zero
(`Digits.head?_toDigits_ne`), so a scanner that lets a zero stand alone takes them all; and digits
that begin with no zero are those of the number they denote (`Digits.toDigits_value`).
-/

namespace TrustRouter.Digits

/-! ### The value of digits -/

/-- The digits of a number denote that number. -/
theorem value_toDigits (n : ℕ) : value (Nat.toDigits 10 n) = n := by
  rw [value_eq_horner]
  exact Nat.ofDigitChars_toDigits (by decide) (by decide)

theorem value_append (high low : List Char) :
    value (high ++ low) = value high * 10 ^ low.length + value low := by
  simp only [value_eq_horner]
  exact horner_append high low

theorem value_replicate_zero (k : ℕ) : value (List.replicate k '0') = 0 := by
  induction k with
  | zero => rfl
  | succ k ih =>
    have hzero : digit '0' = 0 := rfl
    rw [value_eq_horner] at ih ⊢
    rwa [List.replicate_succ, horner, List.foldl_cons, hzero]

theorem value_append_replicate_zero (digits : List Char) (k : ℕ) :
    value (digits ++ List.replicate k '0') = value digits * 10 ^ k := by
  rw [value_append, value_replicate_zero, List.length_replicate, Nat.add_zero]

/-! ### Zeros at the ends -/

/-- What is left out at the end is zeros. -/
theorem exists_eq_trimZeros_append (digits : List Char) :
    ∃ k, digits = trimZeros digits ++ List.replicate k '0' := by
  let zeros := digits.reverse.takeWhile (· = '0')
  have hzeros : zeros.reverse = List.replicate zeros.length '0' := by
    refine List.eq_replicate_iff.2 ⟨List.length_reverse, fun c hc ↦ ?_⟩
    exact of_decide_eq_true (List.all_eq_true.1 List.all_takeWhile c (List.mem_reverse.1 hc))
  refine ⟨zeros.length, ?_⟩
  calc digits = (zeros ++ dropZeros digits.reverse).reverse := by
        rw [dropZeros, List.takeWhile_append_dropWhile, List.reverse_reverse]
    _ = trimZeros digits ++ List.replicate zeros.length '0' := by
        rw [List.reverse_append, hzeros, trimZeros]

/-- Digits without zeros at the end do not end in a zero. -/
theorem getLast?_trimZeros_ne (digits : List Char) : (trimZeros digits).getLast? ≠ some '0' := by
  rw [trimZeros, List.getLast?_reverse, dropZeros]
  intro h
  have hhead := List.head?_dropWhile_not (· = '0') digits.reverse
  rw [h] at hhead
  exact absurd rfl (of_decide_eq_false hhead)

/-- Digits that do not begin with a zero have none to leave out in front. -/
theorem dropZeros_eq_self {digits : List Char} (h : digits.head? ≠ some '0') :
    dropZeros digits = digits := by
  cases digits with
  | nil => rfl
  | cons c rest =>
    have hc : c ≠ '0' := fun hzero ↦ h (congrArg some hzero)
    rw [dropZeros, List.dropWhile_cons_of_neg (by simpa using hc)]

/-- Digits that do not end in a zero have none to leave out. -/
theorem trimZeros_eq_self {digits : List Char} (h : digits.getLast? ≠ some '0') :
    trimZeros digits = digits := by
  rw [List.getLast?_eq_head?_reverse] at h
  rw [trimZeros, dropZeros_eq_self h, List.reverse_reverse]

/-- The digits of a number other than zero do not begin with a zero. -/
theorem head?_toDigits_ne {n : ℕ} (hn : n ≠ 0) : (Nat.toDigits 10 n).head? ≠ some '0' := by
  induction n using Nat.strongRecOn with
  | ind n ih =>
    by_cases hlt : n < 10
    · have hdigit : ∀ n < 10, n ≠ 0 → Nat.digitChar n ≠ '0' := by decide
      rw [Nat.toDigits_of_lt_base hlt, List.head?_cons]
      exact fun h ↦ hdigit n hlt hn (Option.some.inj h)
    · have hdiv : n / 10 ≠ 0 := by omega
      rw [Nat.toDigits_of_base_le (by decide) (Nat.le_of_not_lt hlt),
        List.head?_append_of_ne_nil _ Nat.toDigits_ne_nil]
      exact ih (n / 10) (by omega) hdiv

/-! ### The digits of a value -/

theorem digit_lt_ten {c : Char} (hc : c.isDigit = true) : digit c < 10 := by
  have hrange : 48 ≤ c.toNat ∧ c.toNat ≤ 57 := Char.isDigit_iff_toNat.1 hc
  show c.toNat - 48 < 10
  omega

theorem digitChar_digit {c : Char} (hc : c.isDigit = true) : Nat.digitChar (digit c) = c := by
  have hrange : 48 ≤ c.toNat ∧ c.toNat ≤ 57 := Char.isDigit_iff_toNat.1 hc
  refine Char.toNat_inj.1 ?_
  rw [Nat.toNat_digitChar_of_lt_ten (digit_lt_ten hc)]
  show 48 + (c.toNat - 48) = c.toNat
  omega

/-- Digits taken after a number other than zero are written after it. -/
theorem toDigits_foldl {digits : List Char} (hdigits : ∀ c ∈ digits, c.isDigit = true) {n : ℕ}
    (hn : 0 < n) : Nat.toDigits 10 (digits.foldl (fun n c ↦ 10 * n + digit c) n) =
      Nat.toDigits 10 n ++ digits := by
  induction digits generalizing n with
  | nil => rw [List.foldl_nil, List.append_nil]
  | cons c digits ih =>
    obtain ⟨hc, hrest⟩ := List.forall_mem_cons.1 hdigits
    have hlast := Nat.toDigits_append_toDigits (by decide : 1 < 10) hn (digit_lt_ten hc)
    rw [Nat.toDigits_of_lt_base (digit_lt_ten hc), digitChar_digit hc] at hlast
    rw [List.foldl_cons, ih hrest (by omega), ← hlast, List.append_assoc, List.singleton_append]

/-- **Digits that begin with no zero are the digits of their value**, and so is a zero that stands
alone. -/
theorem toDigits_value {digits : List Char} (hne : digits ≠ [])
    (hdigits : ∀ c ∈ digits, c.isDigit = true)
    (hhead : digits = ['0'] ∨ digits.head? ≠ some '0') :
    Nat.toDigits 10 (value digits) = digits := by
  rcases hhead with rfl | hhead
  · rfl
  · obtain ⟨c, rest, rfl⟩ := List.exists_cons_of_ne_nil hne
    obtain ⟨hc, hrest⟩ := List.forall_mem_cons.1 hdigits
    have hzero : digit c ≠ 0 := by
      intro hzero
      have hdigit := digitChar_digit hc
      rw [hzero] at hdigit
      exact hhead (congrArg some hdigit.symm)
    rw [value_eq_horner, horner, List.foldl_cons, Nat.mul_zero, Nat.zero_add,
      toDigits_foldl hrest (Nat.pos_of_ne_zero hzero), Nat.toDigits_of_lt_base (digit_lt_ten hc),
      digitChar_digit hc, List.singleton_append]

end TrustRouter.Digits
