import TrustRouter.Number.Decimal

/-! # JSON numbers

A number is an **integer** when it is written without fraction and exponent and fits 64 bits —
signed when it has a minus sign, unsigned otherwise — and the nearest double in every other case.
So `1`, `1.0` and `1e0` are three spellings of two numbers, and `-0`, which no integer is, is the
double with the sign. A numeral beyond the finite doubles is no number at all.
-/

namespace TrustRouter.Json

/-- The least integer: that of a signed word of 64 bits. -/
def Number.least : Int := -0x8000000000000000

/-- What all integers are below: the number of words of 64 bits. -/
def Number.bound : Int := 0x10000000000000000

open Number in
/-- A number as read. -/
inductive Number where
  | integer (n : Int) (fits : least ≤ n ∧ n < bound)
  | double (d : Double)
deriving DecidableEq

/-- A numeral as written: its sign, the decimal that its digits stand for, and whether it has
neither fraction nor exponent. -/
structure Numeral where
  negative : Bool
  value : Decimal
  plain : Bool

open Number in
/-- The integer a plain numeral denotes, when it has a place among the integers. Digits are only
jammed in numerals far beyond the integers. -/
def Numeral.integer? (x : Numeral) : Option Number :=
  let n : Int := if x.negative then -x.value.digits else x.value.digits
  if h : x.plain ∧ ¬(x.negative ∧ n = 0) ∧ least ≤ n ∧ n < bound then
    some (.integer n h.2.2)
  else none

namespace Number

/-- The number a numeral denotes, or none when it overflows. -/
def ofNumeral? (x : Numeral) : Option Number :=
  match x.integer? with
  | some n => some n
  | none => (Double.ofDecimal? x.negative x.value).map .double

/-- An unsigned 64-bit word as an integer. -/
def ofUInt64 (n : UInt64) : Number :=
  .integer n.toNat (by
    have := n.toNat_lt
    unfold least bound
    omega)

/-- Positional for decimal exponents from -5 to 15. -/
def layout : Decimal.Layout := ⟨-5, 15⟩

/-- The number written out: an integer in decimal, a double as its shortest decimal. -/
def chars : Number → List Char
  | .integer n _ => (if n < 0 then ['-'] else []) ++ Nat.toDigits 10 n.natAbs
  | .double d => (if d.negative then ['-'] else []) ++ d.shortest.text layout

/-- The number as text. -/
def text (n : Number) : String := String.ofList n.chars

/-- The integer, if the number is one. -/
def integer? : Number → Option Int
  | .integer n _ => some n
  | .double _ => none

/-- The integer as a signed word of 64 bits, if it fits one. -/
def int64? : Number → Option Int64
  | .integer n _ => if n < 0x8000000000000000 then some (.ofInt n) else none
  | .double _ => none

/-- Whether the number is an unsigned word of 64 bits. -/
def isUInt64 : Number → Bool
  | .integer n _ => 0 ≤ n
  | .double _ => false

/-- Whether the number is zero, of either kind and sign. -/
def isZero : Number → Bool
  | .integer n _ => n == 0
  | .double d => d.isZero

end Number

end TrustRouter.Json
