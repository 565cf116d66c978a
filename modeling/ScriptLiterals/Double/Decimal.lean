import ScriptLiterals.Double.Rounding

/-!
# Doubles and decimal numbers

`ofDecimal` reads a decimal number, however long, as the nearest double. `shortest` goes the other
way: of all decimal numbers that read back as a given double it finds one with the fewest digits, and
of these the one nearest to the double. Two decimals may be equally near; which one is taken is a
decision of the format that prints them (`Tie`).
-/

set_option autoImplicit false

namespace ScriptLiterals.Double

/-- The digits of a natural number in base ten, most significant first. -/
def decimalDigits (n : Nat) : List Char := Nat.toDigits 10 n

/-- A power of ten. -/
def tenTo (n : Nat) : Nat := Nat.pow 10 n

/-- Decimal exponents beyond these need no arithmetic: a number whose first digit stands for more
than 10^309 is infinite as a double, one below 10^-330 is zero. -/
def highestExponent : Int := 310

/-- The counterpart of `highestExponent` for small numbers. -/
def lowestExponent : Int := -330

/-- The double nearest to `coefficient * 10 ^ exponent`. -/
def ofDecimal (coefficient : Nat) (exponent : Int) : Double :=
  let size := (decimalDigits coefficient).length + exponent
  if coefficient = 0 ∨ size < lowestExponent then zero
  else if highestExponent < size then .infinity false
  else if 0 ≤ exponent then
    nearest false (coefficient * tenTo exponent.toNat * unitsInOne) 1
  else nearest false (coefficient * unitsInOne) (tenTo (-exponent).toNat)

/-! ## Shortest decimals -/

/-- What is done when two shortest decimals are equally near. -/
inductive Tie where
  | up
  | even
  deriving DecidableEq, Repr

/-- A positive decimal number `0.d₁d₂d₃… * 10 ^ point`, whose first and last digits are not zero. -/
structure Decimal where
  digits : List Char
  point : Int
  deriving DecidableEq, Repr

/-- How many digits the number of units has before its point, or, below 1/10, minus how many zeros
it has behind it. -/
def pointOf (units : Nat) : Int :=
  if unitsInOne ≤ units then (decimalDigits (units / unitsInOne)).length
  else 1 - (decimalDigits (unitsInOne / units)).length

/-- The numbers that round to the magnitude of rank `r`, in quarters of a unit: half a step to
either side, and the step below a power of two is half as long. -/
def roundingInterval (r : Nat) : Nat × Nat :=
  let step := 1 <<< scale r
  let below := if significand r = fullSignificand ∧ 0 < scale r then step else 2 * step
  (4 * units r - below, 4 * units r + 2 * step)

/-- The multiple of `10 ^ exponent` nearest to the magnitude of rank `r`, if one of the two next to
it rounds to that magnitude. The ends of the interval round to an even significand. -/
def onGrid (tie : Tie) (r : Nat) (exponent : Int) : Option Nat :=
  let num := 4 * unitsInOne * tenTo exponent.toNat
  let den := tenTo (-exponent).toNat
  let (low, high) := roundingInterval r
  let closed := significand r % 2 = 0
  let inside (d : Nat) : Bool :=
    if closed then low * den ≤ d * num ∧ d * num ≤ high * den
    else low * den < d * num ∧ d * num < high * den
  let exact := 4 * units r * den
  let d := exact / num
  match inside d, inside (d + 1) with
  | false, false => none
  | true, false => some d
  | false, true => some (d + 1)
  | true, true =>
    if 2 * exact < (2 * d + 1) * num then some d
    else if (2 * d + 1) * num < 2 * exact then some (d + 1)
    else match tie with
      | .up => some (d + 1)
      | .even => some (d + d % 2)

/-- The decimal `d * 10 ^ exponent` without zeros at its end. -/
def Decimal.ofDigits (d : Nat) (exponent : Int) : Decimal :=
  let digits := decimalDigits d
  ⟨(digits.reverse.dropWhile (· == '0')).reverse, digits.length + exponent⟩

/-- The shortest decimal that reads back as the magnitude of rank `r`, for `r` not zero. Seventeen
digits always suffice. -/
def shortest (tie : Tie) (r : Nat) : Decimal :=
  let point := pointOf (units r)
  let grids := (List.range 18).map fun (i : Nat) => point - 1 - i
  (grids.findSome? fun exponent => (onGrid tie r exponent).map (Decimal.ofDigits · exponent)).getD
    ⟨[], 0⟩

/-! ## Layouts -/

/-- A run of zeros. -/
def zeros (n : Nat) : List Char := List.replicate n '0'

namespace Decimal

/-- The digits with a point among or before them and, if the point is behind them, zeros up to it
and then `tail`. -/
def positional (d : Decimal) (tail : List Char) : List Char :=
  if d.point ≤ 0 then ['0', '.'] ++ zeros (-d.point).toNat ++ d.digits
  else
    let n := d.point.toNat
    if d.digits.length ≤ n then d.digits ++ zeros (n - d.digits.length) ++ tail
    else d.digits.take n ++ ['.'] ++ d.digits.drop n

/-- One digit before the point, the others behind it, and the exponent; `plus` is written before an
exponent that is not negative. -/
def scientific (d : Decimal) (plus : List Char) : List Char :=
  let exponent := d.point - 1
  let mantissa := match d.digits with
    | [] => []
    | [first] => [first]
    | first :: others => first :: '.' :: others
  let sign := if exponent < 0 then ['-'] else plus
  mantissa ++ ['e'] ++ sign ++ decimalDigits exponent.natAbs

end Decimal

end ScriptLiterals.Double
