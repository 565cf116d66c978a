/-!
# Double-precision numbers

A double is not a number, an infinity, or a sign and a finite magnitude. The finite magnitudes are
finitely many and ordered, so a magnitude is given by its *rank*, the number of magnitudes below it:
rank 0 is zero, rank 1 the least positive double. The rank is also the magnitude's bit pattern in the
interchange format, and the rank after the last finite one is that of infinity.

All magnitudes are multiples of the least positive one, 2^-1074, called the *unit* below. A magnitude
of `units r` units is `significand r` shifted left by `scale r` bits, with fewer than 54 significant
bits. Arithmetic is exact arithmetic on units followed by one rounding
(`ScriptLiterals.Double.Rounding`); no machine arithmetic is involved.
-/

set_option autoImplicit false

namespace ScriptLiterals

/-- A double-precision number. -/
inductive Double where
  | nan
  | infinity (negative : Bool)
  | finite (negative : Bool) (rank : Fin 0x7ff0000000000000)
  deriving DecidableEq, Repr

namespace Double

/-- The number of finite magnitudes, and the rank of infinity. -/
def infinityRank : Nat := 0x7ff0000000000000

/-- The least significand of full length, 2^52. As many magnitudes share each scale. -/
def fullSignificand : Nat := 0x10000000000000

/-- The significant bits of the magnitude of rank `r`, as a whole number. -/
def significand (r : Nat) : Nat :=
  if r < fullSignificand then r else fullSignificand + r % fullSignificand

/-- How many bits the significand is shifted left. -/
def scale (r : Nat) : Nat := r / fullSignificand - 1

/-- The magnitude of rank `r` in units. -/
def units (r : Nat) : Nat := significand r <<< scale r

/-- The number of units that make 1, which is 2^1074. -/
def unitsInOne : Nat := 1 <<< 1074

/-- Zero with the given sign. -/
def signedZero (negative : Bool) : Double := .finite negative ⟨0, by decide⟩

/-- Positive zero. -/
def zero : Double := signedZero false

/-- The double with the given sign and rank; ranks from that of infinity on are infinity. -/
def ofRank (negative : Bool) (r : Nat) : Double :=
  if h : r < 0x7ff0000000000000 then .finite negative ⟨r, h⟩ else .infinity negative

/-- The weight of the sign in a bit pattern, 2^63. -/
def signWeight : Nat := 0x8000000000000000

/-- The double with the given bit pattern. -/
def ofBits (bits : Nat) : Double :=
  let negative := signWeight ≤ bits
  let r := bits % signWeight
  if r ≤ infinityRank then ofRank negative r else .nan

/-- The bit pattern of a double, that of not-a-number being the quiet positive one. -/
def toBits : Double → Nat
  | .nan => 0x7ff8000000000000
  | .infinity negative => (if negative then signWeight else 0) + infinityRank
  | .finite negative r => (if negative then signWeight else 0) + r.val

/-- Whether the double is not a number. -/
def isNaN : Double → Bool
  | .nan => true
  | _ => false

/-- Whether the double is a number other than the infinities. -/
def isFinite : Double → Bool
  | .finite _ _ => true
  | _ => false

/-- The double with the opposite sign. -/
def neg : Double → Double
  | .nan => .nan
  | .infinity negative => .infinity !negative
  | .finite negative r => .finite (!negative) r

/-- Numeric equality: not-a-number equals nothing, and the two zeros are equal. -/
def numEq : Double → Double → Bool
  | .infinity s, .infinity t => s == t
  | .finite s p, .finite t r => p == r && (s == t || p.val == 0)
  | _, _ => false

end Double

end ScriptLiterals
