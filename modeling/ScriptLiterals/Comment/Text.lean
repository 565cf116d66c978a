import ScriptLiterals.Comment.Scan
import ScriptLiterals.Text.Lines

/-!
# The text of a comment, and comments for a text

`strip` takes the markers and margins off a comment, `toLiteral` puts them around a text. A closer
inside a text cannot stand in a block comment; it is written with a backslash between its two
characters, and `strip` takes that backslash out again.
-/

set_option autoImplicit false

namespace ScriptLiterals.Comment

open Text

/-! ## Stripping -/

/-- Takes a `*` at the head of the line off if it is a margin: blanks or nothing follow it. -/
def stripMargin (line : List Char) : List Char :=
  match skipBlank line with
  | '*' :: rest => if rest.head?.all isBlank then rest else '*' :: rest
  | rest => rest

/-- The runs of lines that are not empty. -/
def paragraphs : List (List Char) → List (List (List Char))
  | [] => []
  | [] :: lines => paragraphs lines
  | (c :: cs) :: lines =>
    match lines, paragraphs lines with
    | (_ :: _) :: _, first :: others => ((c :: cs) :: first) :: others
    | _, later => [c :: cs] :: later

/-- The lines of each paragraph joined by a blank, and the paragraphs by a line feed. -/
def joinParagraphs (inner : List Char) : List Char :=
  let trimmed := (lines inner).map fun line => trim (stripMargin line)
  ['\n'].intercalate ((paragraphs trimmed).map [' '].intercalate)

/-- Every `*\/` becomes `*/`. -/
def restoreClosers : List Char → List Char
  | [] => []
  | '*' :: '\\' :: '/' :: cs => '*' :: '/' :: restoreClosers cs
  | c :: cs => c :: restoreClosers cs

/-- A block comment without its opener and closer. -/
def inner? (form : CommentForm) (source : List Char) : Option (List Char) :=
  let behind := source.drop form.opener.length
  if form.opener.isPrefixOf source && closer.isSuffixOf behind then
    some (behind.take (behind.length - closer.length))
  else none

/-- The text of a comment. A line comment loses its slashes and the blanks around it. A block comment
loses its markers and margins; lines are joined to paragraphs. -/
def strip (form : CommentForm) (source : List Char) : List Char :=
  match form with
  | .line => trim (source.dropWhile (· == '/'))
  | .block | .doc => restoreClosers (joinParagraphs ((inner? form source).getD []))

/-- The comment at the head of `input`, stripped or as it stands. -/
def parse? (stripped : Bool) (input : List Char) : Option (List Char) :=
  (token? input).map fun t => if stripped then strip t.detail t.source else t.value

/-! ## Printing -/

/-- Every `*/` becomes `*\/`. -/
def disarmClosers : List Char → List Char
  | [] => []
  | '*' :: '/' :: cs => '*' :: '\\' :: '/' :: disarmClosers cs
  | c :: cs => c :: disarmClosers cs

/-- A line behind its marker, with a blank between the two unless the line is empty. -/
def marked (marker line : List Char) : List Char :=
  if line.isEmpty then marker else marker ++ ' ' :: line

/-- The trimmed lines of a text; the empty text counts as one empty line. -/
def trimmedLines (text : List Char) : List (List Char) :=
  match (lines text).map trim with
  | [] => [[]]
  | lines => lines

/-- A text as one line comment per line. -/
def lineLiteral (indent : List Char) (lines : List (List Char)) : List Char :=
  ('\n' :: indent).intercalate (lines.map (marked CommentForm.line.opener))

/-- A text as a block comment: on one line if it has just one, and else with a margin. -/
def blockLiteral (opener indent : List Char) : List (List Char) → List Char
  | [line] => marked opener line ++ ' ' :: closer
  | lines =>
    opener ++ lines.flatMap (fun line => '\n' :: indent ++ marked [' ', '*'] line) ++
      '\n' :: indent ++ ' ' :: closer

/-- The comment of the given form for a text. `indent` is written before every line but the first, so
that the comment can be placed at that indentation. -/
def toLiteral (form : CommentForm) (indent text : List Char) : List Char :=
  match form with
  | .line => lineLiteral indent (trimmedLines text)
  | .block | .doc => blockLiteral form.opener indent ((trimmedLines text).map disarmClosers)

end ScriptLiterals.Comment
