import ScriptLiterals.Comment.Text
import ScriptLiterals.Keyword
import ScriptLiterals.Number.Scan
import ScriptLiterals.Quoted.Scan
import ScriptLiterals.Regexp.Scan

/-!
# Literals of any kind

`scanAs` looks for a literal of one kind, `detect` for one of whatever kind the text has. `detect`
tries the kinds one after the other (`Kind.all`) and takes the first literal that what follows it
allows; a kind that fails, for whatever reason, leaves the text to the next one.
-/

set_option autoImplicit false

namespace ScriptLiterals

/-- A literal of any kind, found in a text. -/
inductive AnyToken where
  | comment (token : Token (List Char) CommentForm)
  | regexp (token : Token Regexp Unit)
  | string (token : Token (List Char) Quote)
  | keyword (token : Token Keyword Unit)
  | number (token : Token NumberValue Radix)

namespace AnyToken

/-- The kind of the literal. -/
def kind : AnyToken → Kind
  | .comment _ => .comment
  | .regexp _ => .regexp
  | .string _ => .string
  | .keyword _ => .keyword
  | .number _ => .number

/-- The characters of the literal. -/
def source : AnyToken → List Char
  | .comment t => t.source
  | .regexp t => t.source
  | .string t => t.source
  | .keyword t => t.source
  | .number t => t.source

/-- The number of characters before the literal. -/
def offset : AnyToken → Nat
  | .comment t => t.offset
  | .regexp t => t.offset
  | .string t => t.offset
  | .keyword t => t.offset
  | .number t => t.offset

/-- The number of characters of the literal. -/
def length (t : AnyToken) : Nat := t.source.length

/-- The number of characters up to the end of the literal. -/
def finish (t : AnyToken) : Nat := t.offset + t.length

/-- The bytes the literal takes in the text. -/
def span : AnyToken → Span
  | .comment t => t.span
  | .regexp t => t.span
  | .string t => t.span
  | .keyword t => t.span
  | .number t => t.span

/-- What the literal means, as text. A comment means itself. -/
def valueText : AnyToken → List Char
  | .comment t => t.value
  | .regexp t => t.value.toLiteral
  | .string t => t.value
  | .keyword t => t.value.word
  | .number t => t.value.text

end AnyToken

/-- How a literal of a known kind is looked for. -/
structure ScanOptions where
  /-- Whether the absence of a literal is an error. -/
  strict : Bool := false
  /-- Whether anything may follow a number. -/
  allowTrailing : Bool := false
  deriving DecidableEq, Repr

/-- The literal of the given kind at the head of `input`. -/
def scanKind (kind : Kind) (allowTrailing : Bool) (input : List Char) :
    Except ScanError AnyToken :=
  match kind with
  | .comment => (Comment.recognizer.scan input).map .comment
  | .regexp => (Regexp.recognizer.scan input).map .regexp
  | .string => (Quoted.recognizer.scan input).map .string
  | .keyword => (Keyword.recognizer.scan input).map .keyword
  | .number => (Number.scan allowTrailing input).map .number

/-- The literal of the given kind at the head of `input`, or an error, or nothing. -/
def scanAs (kind : Kind) (options : ScanOptions) (input : List Char) :
    Except ScanError (Option AnyToken) :=
  settle options.strict (scanKind kind options.allowTrailing input)

/-- The first literal that is found when the kinds are tried in the given order. -/
def detectAmong (order : List Kind) (input : List Char) : Option AnyToken :=
  order.findSome? fun kind => found? (scanKind kind false input)

/-- The literal at the head of `input`, of whatever kind it is. -/
def detect (input : List Char) : Option AnyToken := detectAmong Kind.all input

end ScriptLiterals
