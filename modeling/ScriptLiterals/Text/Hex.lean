/-!
# Hexadecimal text
-/

set_option autoImplicit false

namespace ScriptLiterals.Text

/-- A number in hexadecimal with at least `width` digits, in lower case. -/
def hexPadded (width n : Nat) : List Char :=
  let digits := Nat.toDigits 16 n
  List.replicate (width - digits.length) '0' ++ digits

end ScriptLiterals.Text
