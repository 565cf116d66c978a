import ScriptLiterals.Comment.Form
import ScriptLiterals.Recognizer

/-!
# Reading comments

A line comment runs to the end of its line and takes all directly following line breaks with it. A
block comment runs to the first `*/` behind its opener; it is a doc comment if a further `*` follows
the opener and does not belong to the closer. Anything may follow a comment.
-/

set_option autoImplicit false

namespace ScriptLiterals.Comment

/-- What a block comment closes with. -/
def closer : List Char := ['*', '/']

/-- Whether `c` ends a line. -/
def isLineBreak (c : Char) : Bool := c == '\n' || c == '\r'

/-- The text before the first closer, and the text behind it. -/
def splitAtCloser? : List Char → Option (List Char × List Char)
  | [] => none
  | '*' :: '/' :: cs => some ([], cs)
  | c :: cs => (splitAtCloser? cs).map fun found => (c :: found.1, found.2)

/-- The form of a comment between `/*` and the first closer. -/
def blockForm : List Char → CommentForm
  | '*' :: _ => .doc
  | _ => .block

/-- Reads a comment. Its value is the comment as it stands. -/
def read : List Char → Except Miss (Lexeme (List Char) CommentForm)
  | '/' :: '/' :: cs =>
    let line := cs.takeWhile fun c => !isLineBreak c
    let rest := cs.dropWhile fun c => !isLineBreak c
    let source := '/' :: '/' :: line ++ rest.takeWhile isLineBreak
    .ok ⟨source, rest.dropWhile isLineBreak, source, .line⟩
  | '/' :: '*' :: cs =>
    match splitAtCloser? cs with
    | none => .error .unterminated
    | some (inner, rest) =>
      let source := '/' :: '*' :: inner ++ closer
      .ok ⟨source, rest, source, blockForm inner⟩
  | _ => .error .noMatch

/-- Comments. Anything may follow one. -/
def recognizer : Recognizer (List Char) CommentForm := ⟨.comment, read, none⟩

/-- The token of the comment at the head of `input`. -/
def token? (input : List Char) : Option (Token (List Char) CommentForm) :=
  found? (recognizer.scan input)

end ScriptLiterals.Comment
