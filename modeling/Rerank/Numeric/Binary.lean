/-!
# Binary floating point, exactly

A binary format is given by its precision and by the exponent of its least positive number.  The
magnitude of a number is its encoding without the sign: the encodings of the non-negative numbers
are in increasing order, zero is `0`, and infinity follows the largest finite number.

Rounding takes an exact quotient of natural numbers to the nearest number of the format, a tie to
the one with an even last bit.  Everything here is arithmetic on natural numbers and integers.
-/

namespace Rerank.Numeric

/-- A non-negative quotient of two natural numbers, given as a significand times a power of two. -/
structure Dyadic where
  significand : Nat
  exponent : Int
deriving DecidableEq, Repr

/-- The quotient `num / den` rounded to a natural number, a tie to the even neighbour. -/
def divEven (num den : Nat) : Nat :=
  let quotient := num / den
  let twice := 2 * (num % den)
  if twice < den then quotient
  else if den < twice then quotient + 1
  else quotient + quotient % 2

/-- The numerator and denominator of `num / den / 2 ^ exponent`. -/
def scale (num den : Nat) (exponent : Int) : Nat × Nat :=
  match exponent with
  | .ofNat k => (num, den * Nat.pow 2 k)
  | .negSucc k => (num * Nat.pow 2 (k + 1), den)

/-- The numerator and denominator of `significand * 10 ^ exponent`. -/
def decimalQuotient (significand : Nat) (exponent : Int) : Nat × Nat :=
  match exponent with
  | .ofNat k => (significand * Nat.pow 10 k, 1)
  | .negSucc k => (significand, Nat.pow 10 (k + 1))

/-- A binary interchange format. -/
structure Format where
  /-- The number of bits of a significand, the leading one included. -/
  precision : Nat
  /-- The exponent of the least positive number. -/
  minExponent : Int
  /-- The magnitude of infinity. -/
  infinity : Nat

/-- The format with 32 bits. -/
def binary32 : Format where
  precision := 24
  minExponent := -149
  infinity := 0x7F800000

/-- The format with 64 bits. -/
def binary64 : Format where
  precision := 53
  minExponent := -1074
  infinity := 0x7FF0000000000000

namespace Format

/-- The exponent at which the significand of the positive quotient `num / den` fills the precision
of the format, or the least exponent where it cannot. -/
def exponentOf (f : Format) (num den : Nat) : Int :=
  let guess : Int := (num.log2 : Int) - den.log2 - f.precision
  let (n, d) := scale num den guess
  max f.minExponent (if n / d < Nat.pow 2 f.precision then guess else guess + 1)

/-- The magnitude of the number nearest to the quotient `num / den`, whose denominator is
positive.  A significand rounded up to the next power of two carries into the exponent. -/
def round (f : Format) (num den : Nat) : Nat :=
  if num = 0 then 0
  else
    let exponent := f.exponentOf num den
    let (n, d) := scale num den exponent
    min f.infinity ((exponent - f.minExponent).toNat * Nat.pow 2 (f.precision - 1) + divEven n d)

/-- The value of a finite magnitude. -/
def value (f : Format) (magnitude : Nat) : Dyadic :=
  let unit := Nat.pow 2 (f.precision - 1)
  if magnitude / unit = 0 then ⟨magnitude, f.minExponent⟩
  else ⟨magnitude % unit + unit, f.minExponent + (magnitude / unit - 1 : Nat)⟩

/-- The magnitude nearest to a dyadic number. -/
def ofDyadic (f : Format) (x : Dyadic) : Nat :=
  let (n, d) := scale x.significand 1 (-x.exponent)
  f.round n d

/-- The magnitude nearest to the product of two finite magnitudes. -/
def mul (f : Format) (a b : Nat) : Nat :=
  let x := f.value a
  let y := f.value b
  f.ofDyadic ⟨x.significand * y.significand, x.exponent + y.exponent⟩

/-- The magnitude nearest to the quotient of two finite magnitudes, the second one positive. -/
def div (f : Format) (a b : Nat) : Nat :=
  let x := f.value a
  let y := f.value b
  let (n, d) := scale x.significand y.significand (y.exponent - x.exponent)
  f.round n d

end Format

/-- A number of the 64-bit format that is not a NaN: a sign and a magnitude. -/
structure Double where
  negative : Bool
  magnitude : Nat
deriving DecidableEq, Repr

namespace Double

/-- The value, without its sign. -/
def value (x : Double) : Dyadic :=
  binary64.value x.magnitude

end Double

end Rerank.Numeric
