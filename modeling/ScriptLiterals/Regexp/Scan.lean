import ScriptLiterals.Recognizer
import ScriptLiterals.Regexp.Value

/-!
# Reading regular expressions

The pattern ends at the first `/` that is neither behind a backslash nor in a class, so `/[/]/` is one
literal. The letters behind it are flags up to the first that is none or comes twice.
-/

set_option autoImplicit false

namespace ScriptLiterals.Regexp

/-- The pattern up to the slash that ends it, and what follows that slash; nothing if a line or the
text ends first. -/
def splitBody? (inClass : Bool) : List Char → Option (List Char × List Char)
  | [] => none
  | ['\\'] => none
  | '\\' :: c :: cs =>
    if isLineTerminator c then none
    else (splitBody? inClass cs).map fun found => ('\\' :: c :: found.1, found.2)
  | c :: cs =>
    if isLineTerminator c then none
    else if c = '/' ∧ !inClass then some ([], cs)
    else (splitBody? (classAfter inClass c) cs).map fun found => (c :: found.1, found.2)

/-- Whether what follows a slash makes it the opener of a comment. -/
def opensComment (cs : List Char) : Bool := cs.head?.any fun c => c == '/' || c == '*'

/-- Reads a regular expression. The pattern's meaning is asked for before what follows is looked
at. -/
def read : List Char → Except Miss (Lexeme Regexp Unit)
  | '/' :: cs =>
    if opensComment cs then .error .noMatch
    else match splitBody? false cs with
      | none => .error .unterminated
      | some (source, behind) =>
        let (letters, flags, rest) := RegexpFlags.none.readRun behind
        match ofSource source flags with
        | .error fault => .error (.invalidPattern source fault)
        | .ok value => .ok ⟨'/' :: source ++ '/' :: letters, rest, value, ()⟩
  | _ => .error .noMatch

/-- Regular expressions. A slash may not follow one. -/
def recognizer : Recognizer Regexp Unit := ⟨.regexp, read, some .pattern⟩

/-- The token of the regular expression at the head of `input`. -/
def token? (input : List Char) : Option (Token Regexp Unit) := found? (recognizer.scan input)

/-- The regular expression at the head of `input`. -/
def parse? (input : List Char) : Option Regexp := (token? input).map (·.value)

end ScriptLiterals.Regexp
