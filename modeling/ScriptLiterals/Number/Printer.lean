import ScriptLiterals.Double.Decimal
import ScriptLiterals.Number.Radix
import ScriptLiterals.Number.Value

/-!
# Printing numbers

`NumberValue.toLiteral` writes a value as a literal in a radix. Only whole numbers have digits in
every radix: a float with a fraction is written in decimal whatever radix is asked for, and so is one
from 2^128 on.
-/

set_option autoImplicit false

namespace ScriptLiterals

/-- The sign in front of a literal. -/
def signText (negative : Bool) : List Char := if negative then ['-'] else []

namespace NumberValue

/-- The constants that stand for themselves in every radix. -/
def nanText : List Char := ['N', 'a', 'N']

/-- The spelling of the infinities, without sign. -/
def infinityText : List Char := ['I', 'n', 'f', 'i', 'n', 'i', 't', 'y']

/-- A whole number: sign, mark of the radix, digits. -/
def wholeText (r : Radix) (negative : Bool) (magnitude : Nat) : List Char :=
  signText negative ++ r.mark ++ r.writeDigits magnitude

/-- A finite double in decimal: the shortest digits that read back, in full from 10^-6 up to 10^21
and with an exponent outside that range. -/
def decimalText (negative : Bool) (r : Nat) : List Char :=
  let d := Double.shortest .up r
  signText negative ++
    (if r = 0 then ['0']
     else if d.point ≤ -6 ∨ 21 < d.point then d.scientific []
     else d.positional [])

/-- Floats from 2^128 on are not written digit by digit. -/
def wholeLimit : Nat := 1 <<< 128

/-- Whether the magnitude of rank `r` is a whole number below the limit. -/
def isWholeRank (r : Nat) : Bool :=
  Double.units r % Double.unitsInOne == 0 && Double.units r / Double.unitsInOne < wholeLimit

/-- A float. The sign of a zero is written in decimal only. -/
def floatText (radix : Radix) : Double → List Char
  | .nan => nanText
  | .infinity negative => signText negative ++ infinityText
  | .finite negative r =>
    if radix ≠ .decimal ∧ isWholeRank r.val then
      wholeText radix (negative && r.val != 0) (Double.units r.val / Double.unitsInOne)
    else decimalText negative r.val

/-- The literal for a value in a radix. -/
def toLiteral (radix : Radix) : NumberValue → List Char
  | .nan => nanText
  | .infinity negative => signText negative ++ infinityText
  | .integer n => wholeText radix (n < 0) n.toInt.natAbs
  | .float x => floatText radix x
  | .bigint n => signText (n < 0) ++ radix.bigMark ++ radix.writeDigits n.natAbs ++ ['n']

/-- The value as text, which is its decimal literal. -/
def text (v : NumberValue) : List Char := v.toLiteral .decimal

end NumberValue

end ScriptLiterals
