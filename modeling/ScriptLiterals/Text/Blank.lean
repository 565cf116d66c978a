/-!
# Blank characters

Whitespace means the characters of Unicode's `White_Space` property, twenty-five of them, wherever
this library skips, trims or looks past blanks. `skipBlank` and `leadingBlank` split a text at its
first other character, `trim` cuts blanks off both ends.
-/

set_option autoImplicit false

namespace ScriptLiterals.Text

/-- The blanks above U+007F. -/
def wideBlanks : List Char :=
  ['\u0085', '\u00a0', '\u1680', '\u2000', '\u2001', '\u2002', '\u2003', '\u2004', '\u2005',
   '\u2006', '\u2007', '\u2008', '\u2009', '\u200a', '\u2028', '\u2029', '\u202f', '\u205f',
   '\u3000']

/-- Whether `c` is whitespace: tab, line feed, vertical tab, form feed, carriage return, space, or
one of the `wideBlanks`. -/
def isBlank (c : Char) : Bool :=
  c == ' ' || (0x09 ≤ c.toNat && c.toNat ≤ 0x0d) || wideBlanks.contains c

/-- The blanks a text starts with. -/
def leadingBlank (cs : List Char) : List Char :=
  cs.takeWhile isBlank

/-- The text from its first other character on. -/
def skipBlank (cs : List Char) : List Char :=
  cs.dropWhile isBlank

/-- Nothing is lost between the leading blanks and the rest. -/
theorem leadingBlank_append_skipBlank (cs : List Char) : leadingBlank cs ++ skipBlank cs = cs :=
  List.takeWhile_append_dropWhile

/-- The text up to its last other character. -/
def trimEnd (cs : List Char) : List Char :=
  (cs.reverse.dropWhile isBlank).reverse

/-- The text without the blanks at either end. -/
def trim (cs : List Char) : List Char :=
  trimEnd (skipBlank cs)

end ScriptLiterals.Text
