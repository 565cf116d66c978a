import ScriptLiterals.Double.Basic

/-!
# Rounding to a double

`nearestRank` finds the magnitude nearest to a fraction of units, a tie going to the even
significand. Whatever yields a double here computes the exact result as such a fraction and rounds
once: the nearest double to a natural number (`ofNat`), a sum (`add`), a product (`mul`).
-/

set_option autoImplicit false

namespace ScriptLiterals.Double

/-- The whole number nearest to `num / den`, a tie going to the even one. -/
def roundHalfEven (num den : Nat) : Nat :=
  let quotient := num / den
  let remainder := num % den
  if 2 * remainder < den then quotient
  else if den < 2 * remainder then quotient + 1
  else quotient + quotient % 2

/-- The rank of the magnitude nearest to `num / den` units. The quotient is rounded to 53 significant
bits; since ranks count magnitudes in order, a carry out of the significand needs no care. -/
def nearestRank (num den : Nat) : Nat :=
  let shift := (num / den).log2 + 1 - 53
  shift * fullSignificand + roundHalfEven num (den <<< shift)

/-- The double nearest to `num / den` units with the given sign. -/
def nearest (negative : Bool) (num den : Nat) : Double :=
  ofRank negative (nearestRank num den)

/-- The double nearest to a natural number. -/
def ofNat (n : Nat) : Double := nearest false (n * unitsInOne) 1

/-- The double nearest to an integer. Zero is positive. -/
def ofInt (n : Int) : Double := nearest (n < 0) (n.natAbs * unitsInOne) 1

/-- A finite double in units. -/
def signedUnits (negative : Bool) (r : Nat) : Int :=
  if negative then -(units r : Int) else units r

/-- The sum of two doubles, rounded once. A sum of zero is negative only if both summands are. -/
def add : Double → Double → Double
  | .nan, _ => .nan
  | _, .nan => .nan
  | .infinity s, .infinity t => if s == t then .infinity s else .nan
  | .infinity s, _ => .infinity s
  | _, .infinity t => .infinity t
  | .finite s p, .finite t r =>
    let sum := signedUnits s p.val + signedUnits t r.val
    if sum = 0 then signedZero (s && t) else nearest (sum < 0) sum.natAbs 1

/-- The product of two doubles, rounded once. -/
def mul : Double → Double → Double
  | .nan, _ => .nan
  | _, .nan => .nan
  | .infinity s, .infinity t => .infinity (s != t)
  | .infinity s, .finite t r => if r.val = 0 then .nan else .infinity (s != t)
  | .finite s p, .infinity t => if p.val = 0 then .nan else .infinity (s != t)
  | .finite s p, .finite t r => nearest (s != t) (units p.val * units r.val) unitsInOne

end ScriptLiterals.Double
