import ScriptLiterals.Double.Rounding

/-!
# Values of number literals

Which form a value takes is decided by how the literal is written: a fraction or an exponent makes a
float, the suffix `n` a big integer, and anything else is an integer as long as it fits 64 bits.
-/

set_option autoImplicit false

namespace ScriptLiterals

/-- The value of a number literal. -/
inductive NumberValue where
  /-- A whole number that fits 64 bits. -/
  | integer (n : Int64)
  /-- A number with a fraction or an exponent, or a whole number that does not fit. -/
  | float (x : Double)
  /-- A whole number of any size, marked as such. -/
  | bigint (n : Int)
  | nan
  | infinity (negative : Bool)
  deriving DecidableEq, Repr

namespace NumberValue

/-- The value as a double. -/
def toDouble : NumberValue → Double
  | .integer n => .ofInt n.toInt
  | .float x => x
  | .bigint n => .ofInt n
  | .nan => .nan
  | .infinity negative => .infinity negative

/-- The value of a double, the special doubles being values of their own. -/
def ofDouble : Double → NumberValue
  | .nan => .nan
  | .infinity negative => .infinity negative
  | .finite negative r => .float (.finite negative r)

/-- Whether the value is not a number. -/
def isNaN (v : NumberValue) : Bool := v.toDouble.isNaN

/-- Whether the value is a number other than the infinities. A big integer beyond all doubles is
not. -/
def isFinite (v : NumberValue) : Bool := v.toDouble.isFinite

/-- The value with the opposite sign. No 64-bit integer is a negative zero, so minus the integer
zero is a float. -/
def neg : NumberValue → NumberValue
  | .integer n => if n = 0 then .float (.signedZero true) else .integer (-n)
  | .float x => .float x.neg
  | .bigint n => .bigint (-n)
  | .nan => .nan
  | .infinity negative => .infinity !negative

/-- Numeric equality: an integer and a float are compared as doubles, and not-a-number equals
itself. A big integer equals big integers only. -/
def numEq : NumberValue → NumberValue → Bool
  | .integer m, .integer n => m == n
  | .bigint m, .bigint n => m == n
  | .bigint _, _ => false
  | _, .bigint _ => false
  | v, w => v.toDouble.numEq w.toDouble || (v.isNaN && w.isNaN)

end NumberValue

end ScriptLiterals
