import ScriptLiterals.Text.Blank
import ScriptLiterals.Text.Bytes

/-!
# What may follow a literal

A literal counts only if what follows could not have been part of it: nothing, blanks, or, after
optional blanks, one of a few punctuation characters. This is what keeps `01234567abc` from being
read as a number.
-/

set_option autoImplicit false

namespace ScriptLiterals

open Text

/-- The characters that may follow a literal, blanks aside. -/
structure Boundary where
  chars : List Char
  deriving DecidableEq, Repr

namespace Boundary

/-- After a keyword: a separator or a closing bracket. -/
def statement : Boundary := ⟨[',', ';', ')', ']', '}']⟩

/-- After a number or a string, which may also be a key or a dividend. -/
def expression : Boundary := ⟨[',', ';', ')', ']', '}', ':', '/']⟩

/-- After a regular expression. There is no `/` here, so `/a//g` is not `/a/` divided by `g`. -/
def pattern : Boundary := ⟨[',', ';', ')', ']', '}', ':']⟩

/-- Whether `leftover` may follow a literal. -/
def accepts (b : Boundary) (leftover : List Char) : Bool :=
  match skipBlank leftover with
  | [] => true
  | c :: _ => b.chars.contains c

/-- Whether a literal that ends before byte `pos` of `input` is followed by what may follow it. -/
def acceptsFrom (b : Boundary) (input : List Char) (pos : Nat) : Bool :=
  b.accepts (dropBytes pos input)

end Boundary

end ScriptLiterals
