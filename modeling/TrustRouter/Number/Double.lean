/-! # Doubles

Finite IEEE 754 double-precision numbers, exactly. The finite magnitudes are listed in increasing
order, starting at zero, and a double is a sign with the **rank** of its magnitude in that list.
The rank is also the bit pattern without the sign, so moving to the next magnitude is adding one,
and a significand that rounds up past its last value carries into the exponent by itself.

* A magnitude is `significand · 2 ^ shift`, counted in units of `2 ^ -1074`.
* `nearestRank` rounds a quotient of natural numbers to the nearest magnitude, ties to the even
  significand. It does not stop at the largest finite double: a rank of `Double.ranks` or more is
  an overflow.
-/

namespace TrustRouter

/-- The number of finite magnitudes. -/
def Double.ranks : Nat := 2047 <<< 52

/-- A finite double: a sign and a rank among the finite magnitudes. Zero has both signs. -/
structure Double where
  negative : Bool
  rank : Nat
  rank_lt : rank < Double.ranks
deriving DecidableEq

namespace Double

/-! ### Magnitudes -/

/-- The exponent of two by which the significand is scaled. -/
def shift (d : Double) : Nat := (d.rank >>> 52) - 1

/-- The significand: below `2 ^ 53`, and at least `2 ^ 52` unless the shift is zero. -/
def significand (d : Double) : Nat := d.rank - (d.shift <<< 52)

/-- Whether the number is zero, of either sign. -/
def isZero (d : Double) : Bool := d.rank == 0

/-! ### Rounding -/

/-- The integer nearest to `n / d`, a tie going to the even one. -/
def roundHalfEven (n d : Nat) : Nat :=
  if 2 * (n % d) < d ∨ (2 * (n % d) = d ∧ n / d % 2 = 0) then n / d else n / d + 1

/-- The rank of the magnitude nearest to `n / d`. -/
def nearestRank (n d : Nat) : Nat :=
  let scaled := n <<< 1074
  let shift := (scaled / d).log2 - 52
  (shift <<< 52) + roundHalfEven scaled (d <<< shift)

end Double

end TrustRouter
