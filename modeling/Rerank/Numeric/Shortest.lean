import Rerank.Numeric.Binary

/-!
# The shortest decimal text of a floating point number

The digits are the fewest that read back as the same number, and the nearest to it among those, a
tie going to the even digit.  Numbers of moderate size are written positionally, with at least one
digit after the point; others with one digit before the point and a signed power of ten.
-/

namespace Rerank.Numeric

/-- A decimal number: its digits, read as a natural number, times a power of ten. -/
structure Decimal where
  digits : Nat
  exponent : Int
deriving DecidableEq, Repr

namespace Decimal

/-- The magnitude of the format that is nearest to the decimal number. -/
def read (f : Format) (d : Decimal) : Nat :=
  let (n, m) := decimalQuotient d.digits d.exponent
  f.round n m

/-- The decimal number without zeros at the end of its digits. -/
def trimZeros : Nat → Decimal → Decimal
  | 0, d => d
  | fuel + 1, d =>
    if d.digits % 10 = 0 then trimZeros fuel ⟨d.digits / 10, d.exponent + 1⟩ else d

end Decimal

/-- The decimal exponent of the first digit of the positive quotient `num / den`: the greatest
`k` with `10 ^ k ≤ num / den`. -/
def firstDigit (num den : Nat) : Int :=
  if den ≤ num then (Nat.toDigits 10 (num / den)).length - 1
  else
    let (q, r) := (den / num, den % num)
    if r = 0 then -((Nat.toDigits 10 (q - 1)).length : Int) else -((Nat.toDigits 10 q).length : Int)

/-- The nearer of the two neighbours of a number on the grid of multiples of `10 ^ exponent`,
among those that read back as the magnitude.  Of two that are equally near the one with an even last
digit is taken. -/
def onGrid? (f : Format) (magnitude num den : Nat) (exponent : Int) : Option Decimal :=
  let (n, d) :=
    match exponent with
    | .ofNat k => (num, den * Nat.pow 10 k)
    | .negSucc k => (num * Nat.pow 10 (k + 1), den)
  let below : Decimal := ⟨n / d, exponent⟩
  let above : Decimal := ⟨n / d + 1, exponent⟩
  let readsBack (x : Decimal) : Bool := x.read f == magnitude
  match readsBack below, readsBack above with
  | true, true => some ⟨divEven n d, exponent⟩
  | true, false => some below
  | false, true => some above
  | false, false => none

/-- The shortest decimal number that reads back as a positive finite magnitude.  Seventeen digits
always suffice for the formats here, so a grid is found before the list of them ends. -/
def shortest (f : Format) (magnitude : Nat) : Decimal :=
  let x := f.value magnitude
  let (num, den) := scale x.significand 1 (-x.exponent)
  let first := firstDigit num den
  let grids := (List.range 17).map fun (k : Nat) => first - k
  let found := (grids.findSome? (onGrid? f magnitude num den)).getD ⟨num / den, 0⟩
  found.trimZeros 17

/-- The decimal exponents of the first digit for which a number is written positionally. -/
def positional (exponent : Int) : Bool :=
  decide (-5 ≤ exponent) && decide (exponent ≤ 15)

/-- The text of a decimal number. -/
def Decimal.text (d : Decimal) : List Char :=
  let digits := Nat.toDigits 10 d.digits
  let first : Int := d.exponent + (digits.length - 1 : Nat)
  if positional first then
    match first with
    | .negSucc k => ['0', '.'] ++ List.replicate k '0' ++ digits
    | .ofNat k =>
      let whole := (digits ++ List.replicate (k + 1 - digits.length) '0').take (k + 1)
      let part := digits.drop (k + 1)
      whole ++ ['.'] ++ (if part.isEmpty then ['0'] else part)
  else
    let part := digits.drop 1
    let sign := if first < 0 then '-' else '+'
    digits.take 1 ++ (if part.isEmpty then [] else '.' :: part) ++
      ['e', sign] ++ Nat.toDigits 10 first.natAbs

/-- The text of a finite number. -/
def Double.text (x : Double) : String :=
  let unsigned :=
    if x.magnitude = 0 then ['0', '.', '0'] else (shortest binary64 x.magnitude).text
  String.ofList (if x.negative then '-' :: unsigned else unsigned)

end Rerank.Numeric
