import ScriptLiterals.Text.Hex

/-!
# Escaping

`escape` writes a text so that it can stand between quotes: backslashes, quotes, control characters
and the two Unicode line separators become escape sequences. A caller may exclude characters, which
are then written as they are.
-/

set_option autoImplicit false

namespace ScriptLiterals.Quoted

/-- The letter that stands for a character behind a backslash, for the characters that have one. -/
def escapeLetter? (c : Char) : Option Char :=
  if c = '\\' ∨ c = '\'' ∨ c = '\x22' ∨ c = '\x60' then some c
  else if c = '\n' then some 'n'
  else if c = '\r' then some 'r'
  else if c = '\t' then some 't'
  else if c = '\x08' then some 'b'
  else if c = '\x0c' then some 'f'
  else none

/-- Whether `c` is a control character of ASCII. -/
def isAsciiControl (c : Char) : Bool := c.toNat < 0x20 || c.toNat == 0x7f

/-- A character as it is written between quotes. -/
def escapeChar (excluded : List Char) (c : Char) : List Char :=
  if excluded.contains c then [c]
  else match escapeLetter? c with
    | some letter => ['\\', letter]
    | none =>
      if c = '\u2028' ∨ c = '\u2029' then ['\\', 'u'] ++ Text.hexPadded 4 c.toNat
      else if isAsciiControl c then ['\\', 'x'] ++ Text.hexPadded 2 c.toNat
      else [c]

/-- A text as it is written between quotes. -/
def escape (excluded text : List Char) : List Char := text.flatMap (escapeChar excluded)

end ScriptLiterals.Quoted
