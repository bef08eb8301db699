import Mathlib.Algebra.Order.Ring.Nat
import TrustRouter.Number.Decimal

/-!
# Rounding decimals

What a decimal is read as depends on its value alone, not on how the value is split into digits and
scale (`Decimal.rank_eq_iff_of_value_eq`), and a double's exact value, like its shortest decimal, is
read as that double again (`Double.rank_exact`, `Double.rank_shortest`).

`Decimal.rank` does not always round: what is certainly out of range is decided by size. So two
spellings of one value may be decided differently. That they are never read differently is
`Decimal.rank_eq_iff`: wherever the outcome is a finite magnitude, it is that of rounding the
quotient. Beyond the finite magnitudes the rank is not one of the value any more, and the lemmas say
nothing about it.
-/

namespace TrustRouter

namespace Double

/-! ### Quotients -/

theorem roundHalfEven_mul (n d : ℕ) {k : ℕ} (hk : 0 < k) :
    roundHalfEven (n * k) (d * k) = roundHalfEven n d := by
  have hmod : n * k % (d * k) = n % d * k := Nat.mul_mod_mul_right ..
  have hdiv : n * k / (d * k) = n / d := Nat.mul_div_mul_right _ _ hk
  have hlt : 2 * (n % d * k) < d * k ↔ 2 * (n % d) < d := by
    rw [← Nat.mul_assoc, Nat.mul_lt_mul_right hk]
  have heq : 2 * (n % d * k) = d * k ↔ 2 * (n % d) = d := by
    rw [← Nat.mul_assoc, Nat.mul_left_inj hk.ne']
  rw [roundHalfEven, roundHalfEven, hmod, hdiv]
  simp only [hlt, heq]

theorem nearestRank_mul (n d : ℕ) {k : ℕ} (hk : 0 < k) :
    nearestRank (n * k) (d * k) = nearestRank n d := by
  have hshift (n shift : ℕ) : (n * k) <<< shift = n <<< shift * k := by
    rw [Nat.shiftLeft_eq, Nat.shiftLeft_eq, Nat.mul_right_comm]
  rw [nearestRank, nearestRank, hshift, Nat.mul_div_mul_right _ _ hk, hshift,
    roundHalfEven_mul _ _ hk]

/-- Equal quotients are rounded alike. -/
theorem nearestRank_congr {n d n' d' : ℕ} (hd : 0 < d) (hd' : 0 < d') (h : n * d' = n' * d) :
    nearestRank n d = nearestRank n' d' := by
  calc nearestRank n d
      = nearestRank (n * d') (d * d') := (nearestRank_mul n d hd').symm
    _ = nearestRank (n' * d) (d' * d) := by rw [h, Nat.mul_comm d]
    _ = nearestRank n' d' := nearestRank_mul n' d' hd

/-- A quotient below half of the least magnitude is rounded to zero. -/
theorem nearestRank_eq_zero {n d : ℕ} (h : 2 * n <<< 1074 < d) : nearestRank n d = 0 := by
  unfold nearestRank
  generalize n <<< 1074 = scaled at h ⊢
  have hdiv : scaled / d = 0 := Nat.div_eq_of_lt (by omega)
  have hmod : scaled % d = scaled := Nat.mod_eq_of_lt (by omega)
  simp [hdiv, roundHalfEven, hmod, h]

/-- A number that no finite magnitude reaches is rounded past them all. -/
theorem ranks_le_nearestRank {n : ℕ} (h : 2098 ≤ (n <<< 1074).log2) : ranks ≤ nearestRank n 1 := by
  unfold nearestRank
  generalize n <<< 1074 = scaled at h ⊢
  have hne : scaled ≠ 0 := by
    rintro rfl
    simp at h
  obtain ⟨shift, hshift⟩ : ∃ shift, scaled.log2 = shift + 52 := ⟨scaled.log2 - 52, by omega⟩
  have hquotient : 2 ^ 52 ≤ scaled / 1 <<< shift := by
    rw [Nat.one_shiftLeft, Nat.le_div_iff_mul_le (Nat.two_pow_pos _), ← Nat.pow_add,
      Nat.add_comm, ← hshift]
    exact Nat.log2_self_le hne
  have hround : 2 ^ 52 ≤ roundHalfEven scaled (1 <<< shift) := by
    unfold roundHalfEven
    split <;> omega
  have hle : 2046 <<< 52 ≤ shift <<< 52 := by
    rw [Nat.shiftLeft_eq, Nat.shiftLeft_eq]
    exact Nat.mul_le_mul_right _ (by omega)
  simp only [Nat.div_one, hshift, Nat.add_sub_cancel]
  calc ranks = 2046 <<< 52 + 2 ^ 52 := rfl
    _ ≤ shift <<< 52 + roundHalfEven scaled (1 <<< shift) := Nat.add_le_add hle hround

/-- A number that some finite magnitude exceeds is rounded to one of them: the significand has at
most one bit more than it should. -/
theorem nearestRank_lt_ranks {n : ℕ} (h : (n <<< 1074).log2 < 2097) : nearestRank n 1 < ranks := by
  unfold nearestRank
  generalize n <<< 1074 = scaled at h ⊢
  have hquotient : scaled / 1 <<< (scaled.log2 - 52) < 2 ^ 53 := by
    rw [Nat.one_shiftLeft, Nat.div_lt_iff_lt_mul (Nat.two_pow_pos _), ← Nat.pow_add]
    have hle : 2 ^ (scaled.log2 + 1) ≤ 2 ^ (53 + (scaled.log2 - 52)) :=
      Nat.pow_le_pow_right (by decide) (by omega)
    exact Nat.lt_log2_self.trans_le hle
  have hround : roundHalfEven scaled (1 <<< (scaled.log2 - 52)) ≤ 2 ^ 53 := by
    unfold roundHalfEven
    split <;> omega
  have hle : (scaled.log2 - 52) <<< 52 ≤ 2044 <<< 52 := by
    rw [Nat.shiftLeft_eq, Nat.shiftLeft_eq]
    exact Nat.mul_le_mul_right _ (by omega)
  simp only [Nat.div_one]
  calc (scaled.log2 - 52) <<< 52 + roundHalfEven scaled (1 <<< (scaled.log2 - 52))
      ≤ 2044 <<< 52 + 2 ^ 53 := Nat.add_le_add hle hround
    _ < ranks := by decide

/-! ### Magnitudes -/

theorem log2_shiftLeft {n : ℕ} (hn : n ≠ 0) (k : ℕ) : (n <<< k).log2 = n.log2 + k := by
  induction k with
  | zero => rfl
  | succ k ih =>
    have hne : n <<< k ≠ 0 := by simpa using hn
    rw [Nat.shiftLeft_succ, Nat.log2_two_mul hne, ih, Nat.add_assoc]

theorem shift_eq (d : Double) : d.shift = d.rank / 2 ^ 52 - 1 := by
  rw [shift, Nat.shiftRight_eq_div_pow]

/-- A rank is an exponent and the bits after the leading one; the least exponent has no leading
one. -/
theorem rank_eq (d : Double) : d.rank = d.shift <<< 52 + d.significand := by
  have hle : d.shift <<< 52 ≤ d.rank := by
    have hshift := d.shift_eq
    rw [Nat.shiftLeft_eq]
    omega
  exact (Nat.add_sub_cancel' hle).symm

/-- The leading one of a magnitude is where its exponent says. -/
theorem log2_significand (d : Double) : (d.significand <<< d.shift).log2 - 52 = d.shift := by
  have hshift := d.shift_eq
  have hrank : d.rank = d.shift * 2 ^ 52 + d.significand := by
    rw [← Nat.shiftLeft_eq]
    exact d.rank_eq
  by_cases hnormal : 1 ≤ d.rank / 2 ^ 52
  · have hlow : 2 ^ 52 ≤ d.significand := by omega
    have hhigh : d.significand < 2 ^ 53 := by omega
    have hne : d.significand ≠ 0 := by omega
    have hlog : d.significand.log2 = 52 := by
      refine Nat.le_antisymm (Nat.le_of_lt_succ ?_) ?_
      · exact (Nat.log2_lt hne).2 hhigh
      · exact (Nat.le_log2 hne).2 hlow
    rw [log2_shiftLeft hne, hlog, Nat.add_sub_cancel_left]
  · have hzero : d.shift = 0 := by omega
    have hlt : d.significand < 2 ^ 53 := by omega
    rw [hzero, Nat.shiftLeft_zero]
    by_cases hne : d.significand = 0
    · rw [hne]
      rfl
    · have hlog := (Nat.log2_lt hne).2 hlt
      omega

/-- A magnitude is rounded to itself. -/
theorem nearestRank_magnitude (d : Double) {n m : ℕ} (hm : 0 < m)
    (h : n <<< 1074 = d.significand <<< d.shift * m) : nearestRank n m = d.rank := by
  have hunit : d.significand <<< d.shift * m = d.significand * m <<< d.shift := by
    rw [Nat.shiftLeft_eq, Nat.shiftLeft_eq, Nat.mul_assoc, Nat.mul_comm m]
  have hpos : 0 < m <<< d.shift := by
    rw [Nat.shiftLeft_eq]
    exact Nat.mul_pos hm (Nat.two_pow_pos _)
  have hexact : roundHalfEven (d.significand * m <<< d.shift) (m <<< d.shift) = d.significand := by
    rw [roundHalfEven, Nat.mul_mod_left, Nat.mul_div_cancel _ hpos, if_pos (.inl hpos)]
  simp only [nearestRank, h, Nat.mul_div_cancel _ hm, log2_significand]
  rw [hunit, hexact, ← rank_eq]

end Double

/-! ### Decimals -/

namespace Decimal

/-- A decimal is the quotient of this by `denominator`. -/
def numerator (x : Decimal) : ℕ := x.digits * 10 ^ x.scale.toNat

/-- The power of ten that a decimal with a negative scale is divided by. -/
def denominator (x : Decimal) : ℕ := 10 ^ (-x.scale).toNat

theorem denominator_pos (x : Decimal) : 0 < x.denominator :=
  Nat.pow_pos (by decide)

theorem denominator_of_nonneg {x : Decimal} (h : 0 ≤ x.scale) : x.denominator = 1 := by
  rw [denominator, Int.toNat_of_nonpos (by omega), pow_zero]

theorem numerator_of_nonpos {x : Decimal} (h : x.scale ≤ 0) : x.numerator = x.digits := by
  rw [numerator, Int.toNat_of_nonpos h, pow_zero, Nat.mul_one]

/-- Ten to a power above 310 is past every magnitude: ten to the 28th is more than two to the
93rd. -/
theorem ranks_le_nearestRank_of_lt_scale {x : Decimal} (hdigits : x.digits ≠ 0)
    (hscale : 310 < x.scale) : Double.ranks ≤ Double.nearestRank x.numerator x.denominator := by
  have hpow {a b c k : ℕ} (h : a * b + c ≤ k) : (10 ^ a) ^ b * 10 ^ c ≤ 10 ^ k := by
    rw [← pow_mul, ← pow_add]
    exact Nat.pow_le_pow_right (by decide) h
  have hle : 2 ^ (93 * 11 + 1) ≤ x.numerator := by
    calc 2 ^ (93 * 11 + 1) = (2 ^ 93) ^ 11 * 2 := by rw [pow_succ, pow_mul]
      _ ≤ (10 ^ 28) ^ 11 * 10 ^ 3 :=
        Nat.mul_le_mul (Nat.pow_le_pow_left (by decide) 11) (by decide)
      _ ≤ 10 ^ x.scale.toNat := hpow (by omega)
      _ ≤ x.numerator := Nat.le_mul_of_pos_left _ (Nat.pos_of_ne_zero hdigits)
  have hne : x.numerator ≠ 0 := (lt_of_lt_of_le (Nat.two_pow_pos _) hle).ne'
  rw [denominator_of_nonneg (by omega)]
  refine Double.ranks_le_nearestRank ?_
  rw [Double.log2_shiftLeft hne]
  have hlog := (Nat.le_log2 hne).2 hle
  omega

/-- A power of ten is at least that power of eight, so this bounds the quotient. -/
theorem nearestRank_eq_zero_of_log2 {x : Decimal}
    (h : x.digits.log2 + 3 * x.scale + 1077 < 0) :
    Double.nearestRank x.numerator x.denominator = 0 := by
  have hdigits : x.digits < 2 ^ (x.digits.log2 + 1) := Nat.lt_log2_self
  have hshift (n k : ℕ) : 2 * n <<< k = n * 2 ^ (k + 1) := by
    rw [Nat.shiftLeft_eq, Nat.pow_succ', Nat.mul_left_comm]
  have hpow {a b c : ℕ} (h : a + b ≤ 3 * c) : 2 ^ a * 2 ^ b ≤ 8 ^ c := by
    calc 2 ^ a * 2 ^ b = 2 ^ (a + b) := (Nat.pow_add ..).symm
      _ ≤ 2 ^ (3 * c) := Nat.pow_le_pow_right (by decide) h
      _ = 8 ^ c := Nat.pow_mul ..
  refine Double.nearestRank_eq_zero ?_
  generalize hunits : 1074 = units
  rw [numerator_of_nonpos (by omega), hshift]
  calc x.digits * 2 ^ (units + 1) < 2 ^ (x.digits.log2 + 1) * 2 ^ (units + 1) :=
        Nat.mul_lt_mul_of_pos_right hdigits (Nat.two_pow_pos _)
    _ ≤ 8 ^ (-x.scale).toNat := hpow (by omega)
    _ ≤ x.denominator := Nat.pow_le_pow_left (by decide) _

/-- Where the outcome is a finite magnitude, it is that of rounding the quotient. -/
theorem rank_eq_iff {x : Decimal} {r : ℕ} (hr : r < Double.ranks) :
    x.rank = r ↔ Double.nearestRank x.numerator x.denominator = r := by
  rw [rank]
  split
  case isTrue hdigits =>
    have hzero : Double.nearestRank x.numerator x.denominator = 0 := by
      refine Double.nearestRank_eq_zero ?_
      rw [numerator, hdigits, Nat.zero_mul, Nat.zero_shiftLeft]
      exact x.denominator_pos
    rw [hzero]
  case isFalse hdigits =>
    split
    case isTrue hscale =>
      have hle := ranks_le_nearestRank_of_lt_scale hdigits hscale
      omega
    case isFalse hscale =>
      split
      case isTrue hlow => rw [nearestRank_eq_zero_of_log2 hlow]
      case isFalse hlow =>
        split
        case isTrue hnonneg =>
          rw [denominator_of_nonneg hnonneg]
          rfl
        case isFalse hneg =>
          rw [numerator_of_nonpos (by omega)]
          rfl

/-- **Decimals of the same value are read alike**, as far as they are read as finite doubles. -/
theorem rank_eq_iff_of_value_eq {x y : Decimal} {r : ℕ} (hr : r < Double.ranks)
    (h : x.numerator * y.denominator = y.numerator * x.denominator) : x.rank = r ↔ y.rank = r := by
  rw [rank_eq_iff hr, rank_eq_iff hr,
    Double.nearestRank_congr x.denominator_pos y.denominator_pos h]

/-- An integer that is not too great is read as a finite double. -/
theorem rank_lt_of_lt_two_pow {n : ℕ} (hn : n < 2 ^ 128) : rank ⟨n, 0⟩ < Double.ranks := by
  by_cases hzero : n = 0
  · rw [hzero]
    decide
  · have hlog : n.log2 < 128 := (Nat.log2_lt hzero).2 hn
    have hlt : Double.nearestRank n 1 < Double.ranks := by
      refine Double.nearestRank_lt_ranks ?_
      rw [Double.log2_shiftLeft hzero]
      omega
    have hrank : Double.nearestRank (numerator ⟨n, 0⟩) (denominator ⟨n, 0⟩) =
        Double.nearestRank n 1 := by
      rw [numerator_of_nonpos le_rfl, denominator_of_nonneg le_rfl]
    rw [(rank_eq_iff hlt).2 hrank]
    exact hlt

end Decimal

namespace Double

/-! ### Exact and shortest decimals -/

/-- A double is the value of its exact decimal. -/
theorem numerator_exact (d : Double) :
    d.exact.numerator <<< 1074 = d.significand <<< d.shift * d.exact.denominator := by
  unfold exact
  split
  case isTrue hshift =>
    obtain ⟨k, hk⟩ := Nat.exists_eq_add_of_le hshift
    rw [Decimal.numerator_of_nonpos le_rfl, Decimal.denominator_of_nonneg le_rfl, Nat.mul_one, hk,
      Nat.add_sub_cancel_left, ← Nat.shiftLeft_add, Nat.add_comm]
  case isFalse hshift =>
    have hunits : d.shift + (1074 - d.shift) = 1074 := by omega
    generalize 1074 - d.shift = k at hunits ⊢
    have hpow : 2 ^ k * 5 ^ k = 10 ^ k := (Nat.mul_pow 2 5 k).symm
    have hscale : -(k : Int) ≤ 0 := Int.neg_nonpos_of_nonneg (Int.natCast_nonneg k)
    rw [Decimal.numerator_of_nonpos hscale, Decimal.denominator, neg_neg, Int.toNat_natCast,
      ← hunits, Nat.shiftLeft_add, Nat.shiftLeft_eq, Nat.shiftLeft_eq, Nat.shiftLeft_eq, ← hpow]
    show d.significand * 5 ^ k * 2 ^ d.shift * 2 ^ k = _
    rw [Nat.mul_right_comm d.significand, Nat.mul_assoc, Nat.mul_comm (5 ^ k)]

/-- The exact decimal reads back. -/
theorem rank_exact (d : Double) : d.exact.rank = d.rank := by
  rw [Decimal.rank_eq_iff d.rank_lt]
  exact nearestRank_magnitude d d.exact.denominator_pos d.numerator_exact

/-- A candidate for the shortest decimal reads back, and it is one of the two neighbours of the
exact value, whose digits are cut off or cut off and counted up by one. -/
theorem best?_spec {d : Double} {value x : Decimal} {length : ℕ}
    (h : d.best? value length = some x) : x.rank = d.rank ∧ x.digits ≤ value.digits + 1 := by
  have hcut (unit : ℕ) : value.digits / unit ≤ value.digits := Nat.div_le_self ..
  have hlow (unit : ℕ) : value.digits / unit ≤ value.digits + 1 := Nat.le_succ_of_le (hcut unit)
  have hhigh (unit : ℕ) : value.digits / unit + 1 ≤ value.digits + 1 := Nat.succ_le_succ (hcut unit)
  simp only [best?] at h
  split at h
  case isTrue hboth =>
    obtain ⟨hlowReads, hhighReads⟩ := Bool.and_eq_true_iff.1 hboth
    cases h
    split
    · exact ⟨eq_of_beq hlowReads, hlow _⟩
    · exact ⟨eq_of_beq hhighReads, hhigh _⟩
  case isFalse =>
    split at h
    case isTrue hlowReads =>
      cases h
      exact ⟨eq_of_beq hlowReads, hlow _⟩
    case isFalse =>
      split at h
      case isTrue hhighReads =>
        cases h
        exact ⟨eq_of_beq hhighReads, hhigh _⟩
      case isFalse => cases h

/-- **The shortest decimal reads back.** -/
theorem rank_shortest (d : Double) : d.shortest.rank = d.rank := by
  rw [shortest]
  cases hfound : (List.range 17).findSome? fun i ↦ d.best? d.exact (i + 1) with
  | none => exact d.rank_exact
  | some x =>
    obtain ⟨i, -, hbest⟩ := List.exists_of_findSome?_eq_some hfound
    exact (best?_spec hbest).1

/-- A decimal of the same rank is read as that double. -/
theorem ofDecimal?_eq_some {d : Double} {x : Decimal} (h : x.rank = d.rank) :
    ofDecimal? d.negative x = some d := by
  have hlt : x.rank < ranks := h ▸ d.rank_lt
  obtain ⟨negative, rank, rank_lt⟩ := d
  subst h
  rw [ofDecimal?, dif_pos hlt]

/-! ### The number of digits -/

theorem significand_lt (d : Double) : d.significand < 2 ^ 53 := by
  have hshift := d.shift_eq
  have hrank : d.rank = d.shift * 2 ^ 52 + d.significand := by
    rw [← Nat.shiftLeft_eq]
    exact d.rank_eq
  omega

theorem shift_lt (d : Double) : d.shift < 2046 := by
  have hshift := d.shift_eq
  have hlt : d.rank < 2047 * 2 ^ 52 := d.rank_lt
  omega

/-- Five to a power is less than two to seven thirds of it, so the digits after the point that a
small magnitude needs are still not too many. -/
theorem two_pow_mul_five_pow_lt {a b k : ℕ} (h : a + 7 * b < k) :
    2 ^ a * 5 ^ (3 * b + k) < 10 ^ k := by
  have hfive : 5 ^ (3 * b) ≤ 2 ^ (7 * b) := by
    rw [pow_mul, pow_mul]
    exact Nat.pow_le_pow_left (by decide) b
  calc 2 ^ a * 5 ^ (3 * b + k) = 2 ^ a * 5 ^ (3 * b) * 5 ^ k := by rw [pow_add, Nat.mul_assoc]
    _ ≤ 2 ^ a * 2 ^ (7 * b) * 5 ^ k :=
        Nat.mul_le_mul_right _ (Nat.mul_le_mul_left _ hfive)
    _ = 2 ^ (a + 7 * b) * 5 ^ k := by rw [pow_add]
    _ < 2 ^ k * 5 ^ k :=
        Nat.mul_lt_mul_of_pos_right (Nat.pow_lt_pow_right (by decide) h) (Nat.pow_pos (by decide))
    _ = 10 ^ k := (Nat.mul_pow 2 5 k).symm

/-- An exact decimal has no more digits than a tie can have, and neither has its successor. -/
theorem digits_exact_lt (d : Double) : d.exact.digits + 1 < 10 ^ Decimal.tieDigits := by
  have hsignificand : d.significand + 1 ≤ 2 ^ 53 := d.significand_lt
  have hshift := d.shift_lt
  have hties : Decimal.tieDigits = 768 := rfl
  generalize Decimal.tieDigits = ties at hties ⊢
  unfold exact
  split
  case isTrue hle =>
    have hone : 1 ≤ 2 ^ (d.shift - 1074) := Nat.one_le_two_pow
    calc d.significand <<< (d.shift - 1074) + 1
        ≤ d.significand * 2 ^ (d.shift - 1074) + 2 ^ (d.shift - 1074) := by
          rw [Nat.shiftLeft_eq]
          exact Nat.add_le_add_left hone _
      _ = (d.significand + 1) * 2 ^ (d.shift - 1074) := (Nat.succ_mul ..).symm
      _ ≤ 2 ^ 53 * 2 ^ (d.shift - 1074) := Nat.mul_le_mul_right _ hsignificand
      _ = 2 ^ (53 + (d.shift - 1074)) := (pow_add ..).symm
      _ < 2 ^ (2 * ties) := Nat.pow_lt_pow_right (by decide) (by omega)
      _ = 4 ^ ties := pow_mul ..
      _ ≤ 10 ^ ties := Nat.pow_le_pow_left (by decide) _
  case isFalse hlt =>
    have hone : 1 ≤ 5 ^ (1074 - d.shift) := Nat.pow_pos (by decide)
    calc d.significand * 5 ^ (1074 - d.shift) + 1
        ≤ d.significand * 5 ^ (1074 - d.shift) + 5 ^ (1074 - d.shift) := Nat.add_le_add_left hone _
      _ = (d.significand + 1) * 5 ^ (1074 - d.shift) := (Nat.succ_mul ..).symm
      _ ≤ 2 ^ 53 * 5 ^ (3 * 102 + ties) :=
        Nat.mul_le_mul hsignificand (Nat.pow_le_pow_right (by decide) (by omega))
      _ < 10 ^ ties := two_pow_mul_five_pow_lt (by omega)

theorem digits_shortest_lt (d : Double) : d.shortest.digits < 10 ^ Decimal.tieDigits := by
  rw [shortest]
  cases hfound : (List.range 17).findSome? fun i ↦ d.best? d.exact (i + 1) with
  | none => exact Nat.lt_of_succ_lt d.digits_exact_lt
  | some x =>
    obtain ⟨i, -, hbest⟩ := List.exists_of_findSome?_eq_some hfound
    exact Nat.lt_of_le_of_lt (best?_spec hbest).2 d.digits_exact_lt

end Double

end TrustRouter
