import ScriptLiterals.Detect
import ScriptLiterals.Json
import ScriptLiterals.Terminal

/-!
# Reports on literals

What is shown of a literal that was found: a few lines for a terminal (`describe`), or one JSON object
(`toJson`) whose fields are in alphabetical order. The value of a comment is the comment as it
stands or, stripped, its text.
-/

set_option autoImplicit false

namespace ScriptLiterals.Report

open Terminal

/-- Text in the way literals of a kind are shown. -/
def paint : Kind → String → String
  | .string, text => colored .green text
  | .number, text => colored .yellow text
  | .keyword, text => colored .blue text
  | .regexp, text => colored .red text
  | .comment, text => dimmed text

/-- What a literal means, as text. -/
def valueText (stripped : Bool) : AnyToken → List Char
  | .comment t => if stripped then Comment.strip t.detail t.source else t.value
  | token => token.valueText

/-- What a kind of literal has besides a value: a name for it, and what to show. -/
def detail? : AnyToken → Option (String × Json)
  | .number t => some ("radix", .integer t.detail.base)
  | .string t => some ("quote", .string [t.detail.char])
  | .comment t => some ("type", .string t.detail.opener)
  | .regexp t => some ("flags", .string t.value.flags.letters)
  | .keyword _ => none

/-- A detail as plain text: strings lose their quotes. -/
def detailText : Json → List Char
  | .string text => text
  | other => other.text

/-- The range of characters that a literal takes. -/
def rangeText (token : AnyToken) : String :=
  "[" ++ toString token.offset ++ ".." ++ toString token.finish ++ "]"

/-- A named line of a description. -/
def field (name : String) (text : List Char) : String :=
  "\n  " ++ dimmed (padRight 8 name) ++ " " ++ String.ofList text

/-- The description of a literal for a terminal, without a line break at its end. -/
def describe (stripped : Bool) (token : AnyToken) : String :=
  bold token.kind.name ++ " " ++ paint token.kind (String.ofList token.source) ++ " " ++
    dimmed (rangeText token) ++ field "value" (valueText stripped token) ++
    match detail? token with
    | some (name, value) => field name (detailText value)
    | none => ""

/-- The value of a number. Only integers of 64 bits and finite doubles are numbers in JSON; the
others are written as text. -/
def numberJson : NumberValue → Json
  | .integer n => .integer n.toInt
  | .float (.finite negative r) => .double negative r
  | other => .string other.text

/-- The value of a keyword. -/
def keywordJson : Keyword → Json
  | .bool b => .bool b
  | .null => .null
  | other => .string other.word

/-- The value of a literal. -/
def valueJson (stripped : Bool) : AnyToken → Json
  | .number t => numberJson t.value
  | .keyword t => keywordJson t.value
  | .regexp t => .string t.value.source
  | token => .string (valueText stripped token)

/-- Puts a field before the first whose name is not smaller. -/
def insertField (field : String × Json) : List (String × Json) → List (String × Json)
  | [] => [field]
  | first :: others =>
    if first.1 < field.1 then first :: insertField field others else field :: first :: others

/-- The JSON object for a literal. -/
def toJson (stripped : Bool) (token : AnyToken) : Json :=
  let fields : List (String × Json) :=
    [("kind", .string token.kind.name.toList),
     ("length", .integer token.length),
     ("offset", .integer token.offset),
     ("source", .string token.source),
     ("value", valueJson stripped token)]
  .object (match detail? token with
    | some detail => insertField detail fields
    | none => fields)

end ScriptLiterals.Report
