/-! # Decimal digits

The natural number that a sequence of decimal digits denotes. Taking the digits one by one
multiplies a growing number at every step; cutting a long sequence in halves multiplies large
numbers only a few times. Both give the same number (`Digits.value_eq_horner`).
-/

namespace TrustRouter.Digits

/-- The value of a digit. -/
def digit (c : Char) : Nat := c.toNat - '0'.toNat

/-- The value of a sequence of digits, taken one by one. -/
def horner (digits : List Char) : Nat := digits.foldl (fun n c ↦ 10 * n + digit c) 0

/-- The value of a sequence of digits, cut in halves a number of times. -/
def halving : Nat → List Char → Nat
  | 0, digits => horner digits
  | cuts + 1, digits =>
    let half := digits.length / 2
    let low := digits.drop half
    halving cuts (digits.take half) * Nat.pow 10 low.length + halving cuts low

/-- The value of a sequence of digits; stretches of a few dozen are taken digit by digit. -/
def value (digits : List Char) : Nat := halving (digits.length.log2 - 4) digits

/-- The digits from the first that is not zero. -/
def dropZeros (digits : List Char) : List Char := digits.dropWhile (· = '0')

/-- The digits without the zeros at the end. -/
def trimZeros (digits : List Char) : List Char := (dropZeros digits.reverse).reverse

/-- A number in front of the digits counts for a power of ten. -/
theorem foldl_eq_add_horner (n : Nat) (digits : List Char) :
    digits.foldl (fun n c ↦ 10 * n + digit c) n = n * Nat.pow 10 digits.length + horner digits := by
  induction digits generalizing n with
  | nil => simp [horner]
  | cons c digits ih =>
    have hc := ih (digit c)
    simp only [horner, List.foldl_cons, Nat.mul_zero, Nat.zero_add] at hc ⊢
    have hpow : Nat.pow 10 (digits.length + 1) = 10 * Nat.pow 10 digits.length :=
      Nat.mul_comm _ _
    rw [ih, hc, List.length_cons, hpow, Nat.add_mul, Nat.mul_comm 10 n, Nat.mul_assoc,
      Nat.add_assoc]
    rfl

theorem horner_append (high low : List Char) :
    horner (high ++ low) = horner high * Nat.pow 10 low.length + horner low := by
  rw [horner, List.foldl_append, foldl_eq_add_horner, ← horner]

theorem halving_eq_horner (cuts : Nat) (digits : List Char) :
    halving cuts digits = horner digits := by
  induction cuts generalizing digits with
  | zero => rfl
  | succ cuts ih =>
    rw [halving, ih, ih, ← horner_append, List.take_append_drop]

/-- Cutting a sequence does not change its value. -/
theorem value_eq_horner (digits : List Char) : value digits = horner digits :=
  halving_eq_horner _ digits

/-- Zeros in front do not change the value. -/
theorem value_dropZeros (digits : List Char) : value (dropZeros digits) = value digits := by
  rw [value_eq_horner, value_eq_horner, dropZeros]
  induction digits with
  | nil => rfl
  | cons c digits ih =>
    by_cases hc : c = '0'
    · subst hc
      exact ih
    · rw [List.dropWhile_cons_of_neg (by simpa using hc)]

end TrustRouter.Digits
