import ScriptLiterals.Text.Blank
import ScriptLiterals.Text.Bytes

/-!
# Cursors

A cursor is a place in a text: the characters already passed and those still to come. Both positions
a token reports, in characters and in bytes, are measures of what has been passed, so they cannot
disagree, and to go back to an earlier place is to keep the earlier cursor.
-/

set_option autoImplicit false

namespace ScriptLiterals

open Text

/-- A place in a text: what has been passed, nearest first, and what is still to come. -/
structure Cursor where
  behind : List Char
  rest : List Char
  deriving DecidableEq, Repr

namespace Cursor

/-- The start of a text. -/
def start (text : List Char) : Cursor := ⟨[], text⟩

/-- The end of a text. -/
def atEnd (text : List Char) : Cursor := ⟨text.reverse, []⟩

/-- The place in a text before its byte `pos`. -/
def atPos (text : List Char) (pos : Nat) : Cursor :=
  ⟨(takeBytes pos text).reverse, dropBytes pos text⟩

/-- The whole text that the cursor is a place in. -/
def text (c : Cursor) : List Char := c.behind.reverse ++ c.rest

/-- How many characters have been passed. -/
def index (c : Cursor) : Nat := c.behind.length

/-- How many bytes have been passed. -/
def pos (c : Cursor) : Nat := byteCount c.behind

/-- The next character, if there is one. -/
def peek (c : Cursor) : Option Char := c.rest.head?

/-- The character after the next one, if there is one. -/
def peekNext (c : Cursor) : Option Char := c.rest.tail.head?

/-- The next character and the place behind it; nothing at the end of the text. -/
def advance (c : Cursor) : Option (Char × Cursor) :=
  match c.rest with
  | [] => none
  | d :: ds => some (d, ⟨d :: c.behind, ds⟩)

/-- The place behind the next character if that is `expected`. -/
def eat (c : Cursor) (expected : Char) : Option Cursor :=
  match c.rest with
  | [] => none
  | d :: ds => if d = expected then some ⟨d :: c.behind, ds⟩ else none

/-- The place behind `word` if the text goes on with it. -/
def eatWord (c : Cursor) : List Char → Option Cursor
  | [] => some c
  | d :: word => (c.eat d).bind (·.eatWord word)

/-- The place behind the longest run of characters with the property `p`. -/
def skipWhile (c : Cursor) (p : Char → Bool) : Cursor :=
  ⟨(c.rest.takeWhile p).reverse ++ c.behind, c.rest.dropWhile p⟩

/-- The place of the first character that is not blank. -/
def skipBlank (c : Cursor) : Cursor := c.skipWhile isBlank

/-- What has been passed since `earlier`. -/
def since (c earlier : Cursor) : List Char :=
  (c.behind.take (c.behind.length - earlier.behind.length)).reverse

end Cursor

end ScriptLiterals
