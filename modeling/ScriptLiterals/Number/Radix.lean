/-!
# Radices

The bases number literals are written in, their digits, and the reading and writing of a natural
number in each.
-/

set_option autoImplicit false

namespace ScriptLiterals

/-- The base a number literal is written in. -/
inductive Radix where
  | binary
  | octal
  | decimal
  | hexadecimal
  deriving DecidableEq, Repr

namespace Radix

/-- The base as a number. -/
def base : Radix → Nat
  | .binary => 2
  | .octal => 8
  | .decimal => 10
  | .hexadecimal => 16

/-- The radix with the given base. -/
def ofBase? (base : Nat) : Option Radix :=
  if base = 2 then some .binary
  else if base = 8 then some .octal
  else if base = 10 then some .decimal
  else if base = 16 then some .hexadecimal
  else none

/-- Every radix is the one with its base. -/
theorem ofBase?_base (r : Radix) : ofBase? r.base = some r := by
  cases r <;> rfl

/-- The radix that the letter after a leading `0` selects. -/
def ofLetter? (c : Char) : Option Radix :=
  if c = 'b' ∨ c = 'B' then some .binary
  else if c = 'o' ∨ c = 'O' then some .octal
  else if c = 'x' ∨ c = 'X' then some .hexadecimal
  else none

/-- The value of a digit, letters of either case included. -/
def digitValue? (c : Char) : Option Nat :=
  if '0' ≤ c && c ≤ '9' then some (c.toNat - '0'.toNat)
  else if 'a' ≤ c && c ≤ 'f' then some (c.toNat - 'a'.toNat + 10)
  else if 'A' ≤ c && c ≤ 'F' then some (c.toNat - 'A'.toNat + 10)
  else none

/-- The value of a digit of this radix. -/
def digit? (r : Radix) (c : Char) : Option Nat :=
  (digitValue? c).filter (· < r.base)

/-- Whether `c` is a digit of this radix. -/
def isDigit (r : Radix) (c : Char) : Bool := (r.digit? c).isSome

/-- The number that digits of this radix denote, most significant first. -/
def valueOf (r : Radix) (digits : List Char) : Nat :=
  digits.foldl (fun n c => n * r.base + (r.digit? c).getD 0) 0

/-- The number a text denotes; nothing if it is empty or holds anything but digits. -/
def readDigits? (r : Radix) (digits : List Char) : Option Nat :=
  if !digits.isEmpty && digits.all r.isDigit then some (r.valueOf digits) else none

/-- The digits of a natural number, most significant first and in lower case. -/
def writeDigits (r : Radix) (n : Nat) : List Char := Nat.toDigits r.base n

/-- What is written before the digits of a whole number. Octal numbers have the legacy form. -/
def mark : Radix → List Char
  | .binary => ['0', 'b']
  | .octal => ['0']
  | .decimal => []
  | .hexadecimal => ['0', 'x']

/-- What is written before the digits of a big integer: the legacy octal form cannot carry the suffix
of one. -/
def bigMark : Radix → List Char
  | .octal => ['0', 'o']
  | r => r.mark

end Radix

end ScriptLiterals
