import ScriptLiterals.Quoted.Escape
import ScriptLiterals.Quoted.Quote
import ScriptLiterals.Quoted.Unescape
import ScriptLiterals.Recognizer

/-!
# Reading and printing strings

The text between the quotes is a sequence of *pieces*: a character that stands for itself, or a
backslash and the character behind it, where a carriage return takes a following line feed with it.
The first quote that is a piece's first character ends the literal.

Decoding takes two steps. `Piece.kept` drops line continuations and the backslash of pairs that are
no escape sequence; `unescape` then decodes what is left.
-/

set_option autoImplicit false

namespace ScriptLiterals.Quoted

/-- A piece of the text between quotes. -/
inductive Piece where
  /-- A character that is no backslash. -/
  | plain (c : Char)
  /-- A backslash and a character. -/
  | pair (c : Char)
  /-- A backslash, a carriage return and a line feed. -/
  | brokenLine
  deriving DecidableEq, Repr

namespace Piece

/-- The characters of a piece. -/
def source : Piece → List Char
  | .plain c => [c]
  | .pair c => ['\\', c]
  | .brokenLine => ['\\', '\r', '\n']

/-- The characters behind a backslash that leave it in place for the decoder. -/
def isEscape (c : Char) : Bool :=
  ['\\', '\'', '\x22', '\x60', 'b', 'f', 'n', 'r', 't', 'u', 'x'].contains c

/-- What a piece hands on to the decoder. -/
def kept : Piece → List Char
  | .plain c => [c]
  | .pair c =>
    if c = '\n' ∨ c = '\r' then []
    else if isEscape c then ['\\', c]
    else [c]
  | .brokenLine => []

end Piece

/-- The pieces up to the closing quote, and what follows it; nothing if the quote never comes or a
raw line break comes first where none may stand. -/
def readPieces? (quote : Quote) : List Char → Option (List Piece × List Char)
  | [] => none
  | ['\\'] => none
  | '\\' :: '\r' :: '\n' :: cs =>
    (readPieces? quote cs).map fun found => (.brokenLine :: found.1, found.2)
  | '\\' :: c :: cs => (readPieces? quote cs).map fun found => (.pair c :: found.1, found.2)
  | c :: cs =>
    if c = quote.char then some ([], cs)
    else if (c = '\n' ∨ c = '\r') ∧ !quote.allowsLineBreaks then none
    else (readPieces? quote cs).map fun found => (.plain c :: found.1, found.2)

/-- The characters of all the pieces. -/
def sourceOf (pieces : List Piece) : List Char := pieces.flatMap Piece.source

/-- The text that pieces stand for. -/
def decode (pieces : List Piece) : List Char := unescape (pieces.flatMap Piece.kept)

/-- Reads a string literal. -/
def read : List Char → Except Miss (Lexeme (List Char) Quote)
  | [] => .error .noMatch
  | c :: cs =>
    match Quote.ofChar? c with
    | none => .error .noMatch
    | some quote =>
      match readPieces? quote cs with
      | none => .error .unterminated
      | some (pieces, rest) =>
        .ok ⟨c :: sourceOf pieces ++ [quote.char], rest, decode pieces, quote⟩

/-- String literals. What may follow one is what may follow an expression. -/
def recognizer : Recognizer (List Char) Quote := ⟨.string, read, some .expression⟩

/-- The token of the string literal at the head of `input`. -/
def token? (input : List Char) : Option (Token (List Char) Quote) := found? (recognizer.scan input)

/-- The text of the string literal at the head of `input`. -/
def parse? (input : List Char) : Option (List Char) := (token? input).map (·.value)

/-- The literal for a text, with the given quotes. -/
def toLiteral (quote : Quote) (text : List Char) : List Char :=
  quote.char :: escape quote.excluded text ++ [quote.char]

end ScriptLiterals.Quoted
