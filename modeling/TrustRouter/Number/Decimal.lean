import TrustRouter.Number.Digits
import TrustRouter.Number.Double

/-! # Decimals and doubles

A decimal is a natural number of units of a power of ten. It is read as the nearest double, and
a double is written as the shortest decimal that reads back as that double.

* `Decimal.ofDigits` keeps no more digits than a tie between two doubles can have; the digits
  beyond them are jammed into one, and what they stand for is never a tie.
* `Decimal.rank` rounds exactly, whatever the exponent; a decimal that is certainly out of range on
  either side is decided by its size alone, so no power is larger than the digits call for.
* `Double.shortest` tries one significant digit, then two, and so on. At each length only the two
  neighbours of the exact value on that decimal grid can be the nearest decimal that reads back; of
  two that do, the nearer is taken, and on a tie the one whose last digit is even.
* `Decimal.text` lays the digits out, in positional or scientific notation as a
  `Decimal.Layout` says.
-/

namespace TrustRouter

/-- The number `digits · 10 ^ scale`. -/
structure Decimal where
  digits : Nat
  scale : Int
deriving DecidableEq

/-! ### Reading -/

namespace Decimal

/-- The most significant digits that a number halfway between two doubles has: those of the number
halfway between the largest subnormal double and the smallest normal one. -/
def tieDigits : Nat := 768

/-- The decimal that digits stand for in units of `10 ^ scale`. Digits past the first `tieDigits`
significant ones are jammed into a single `1`, zeros too: so many digits are read as lying above
what is kept of them, and a tie that is spelled with them rounds up. -/
def ofDigits (digits : List Char) (scale : Int) : Decimal :=
  let significant := Digits.dropZeros digits
  let jammed := significant.length - tieDigits
  if jammed = 0 then ⟨Digits.value significant, scale⟩
  else ⟨10 * Digits.value (significant.take tieDigits) + 1, scale + jammed - 1⟩

/-- Digits that are not too many stand for their value. -/
theorem ofDigits_of_length_le {digits : List Char} (h : digits.length ≤ tieDigits) (scale : Int) :
    ofDigits digits scale = ⟨Digits.value digits, scale⟩ := by
  have hle : (Digits.dropZeros digits).length ≤ digits.length :=
    (List.dropWhile_sublist _).length_le
  have hjammed : (Digits.dropZeros digits).length - tieDigits = 0 := by omega
  simp only [ofDigits, hjammed, if_true, Digits.value_dropZeros]

/-- The rank of the nearest magnitude. Ten to a power above 310 is past every double, and
`digits · 10 ^ scale` is at most `2 ^ (log2 digits + 1 + 3 · scale)` for a negative scale, which
rounds to zero below `2 ^ -1076`. -/
def rank (x : Decimal) : Nat :=
  if x.digits = 0 then 0
  else if 310 < x.scale then Double.ranks
  else if x.digits.log2 + 3 * x.scale + 1077 < 0 then 0
  else if 0 ≤ x.scale then Double.nearestRank (x.digits * Nat.pow 10 x.scale.toNat) 1
  else Double.nearestRank x.digits (Nat.pow 10 (-x.scale).toNat)

end Decimal

/-- The double nearest to a decimal with a sign, or none when it would not be finite. -/
def Double.ofDecimal? (negative : Bool) (x : Decimal) : Option Double :=
  if h : x.rank < Double.ranks then some ⟨negative, x.rank, h⟩ else none

/-! ### The shortest decimal -/

namespace Double

/-- The magnitude as a decimal, without rounding. -/
def exact (d : Double) : Decimal :=
  if 1074 ≤ d.shift then ⟨d.significand <<< (d.shift - 1074), 0⟩
  else ⟨d.significand * Nat.pow 5 (1074 - d.shift), -↑(1074 - d.shift)⟩

/-- The best decimal of `length` significant digits that reads as `d`, given the exact value
of `d`: the nearer of the two neighbours on the grid of that length. -/
def best? (d : Double) (value : Decimal) (length : Nat) : Option Decimal :=
  let dropped := (Nat.toDigits 10 value.digits).length - length
  let unit := Nat.pow 10 dropped
  let rest := value.digits % unit
  let low : Decimal := ⟨value.digits / unit, value.scale + dropped⟩
  let high : Decimal := ⟨value.digits / unit + 1, value.scale + dropped⟩
  let lowReads := low.rank == d.rank
  let highReads := high.rank == d.rank
  if lowReads && highReads then
    some (if 2 * rest < unit ∨ (2 * rest = unit ∧ low.digits % 2 = 0) then low else high)
  else if lowReads then some low
  else if highReads then some high
  else none

/-- The shortest decimal that reads as `d`, its sign aside. Seventeen digits are enough for every
double; the exact value reads back in any case. -/
def shortest (d : Double) : Decimal :=
  let value := d.exact
  ((List.range 17).findSome? fun i ↦ d.best? value (i + 1)).getD value

end Double

/-! ### Layout -/

namespace Decimal

/-- The decimal exponents of the leading digit that are written positionally; all others are
written in scientific notation. -/
structure Layout where
  least : Int
  greatest : Int

/-- Positional notation of the digits `sig` with the leading one at `10 ^ exponent`, always with
a fraction part. -/
def positional (sig : List Char) (exponent : Int) : List Char :=
  if exponent < 0 then
    '0' :: '.' :: (List.replicate (-exponent - 1).toNat '0' ++ sig)
  else
    let places := exponent.toNat + 1
    let fraction := sig.drop places
    sig.take places ++ List.replicate (places - sig.length) '0' ++
      '.' :: (if fraction.isEmpty then ['0'] else fraction)

/-- Scientific notation with one digit before the point and a signed exponent. -/
def scientific (sig : List Char) (exponent : Int) : List Char :=
  let fraction := sig.drop 1
  sig.take 1 ++ (if fraction.isEmpty then [] else '.' :: fraction) ++
    'e' :: (if exponent < 0 then '-' else '+') :: Nat.toDigits 10 exponent.natAbs

/-- The decimal written out. -/
def text (layout : Layout) (x : Decimal) : List Char :=
  if x.digits = 0 then ['0', '.', '0']
  else
    let digits := Nat.toDigits 10 x.digits
    let exponent := x.scale + digits.length - 1
    if layout.least ≤ exponent ∧ exponent ≤ layout.greatest then
      positional (Digits.trimZeros digits) exponent
    else scientific (Digits.trimZeros digits) exponent

end Decimal

end TrustRouter
