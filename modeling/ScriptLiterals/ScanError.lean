import ScriptLiterals.Kind

/-!
# Why a text is not a literal

`ScanError` lists the causes; `ScanError.message` words them. Positions count characters.
-/

set_option autoImplicit false

namespace ScriptLiterals

/-- Why a pattern has no meaning: it is not well formed, or its automaton would be too large. -/
inductive PatternFault where
  | malformed
  | oversized
  deriving DecidableEq, Repr

/-- What is said of a pattern without meaning. -/
def PatternFault.message : PatternFault → String
  | .malformed => "regex parse error: the pattern is not well formed"
  | .oversized => "Compiled regex exceeds size limit of 10485760 bytes."

/-- Why a text does not start with a literal of the kind asked for. -/
inductive ScanError where
  /-- No literal of the kind starts at the first character that is not blank. -/
  | noMatch (kind : Kind) (offset : Nat)
  /-- A literal is opened there and never closed. -/
  | unterminated (kind : Kind) (offset : Nat)
  /-- A literal ends at `offset`, and what follows cannot follow one. -/
  | boundaryViolation (kind : Kind) (offset : Nat)
  /-- The literal's value cannot be represented. -/
  | unsupported (kind : Kind) (feature : String)
  /-- The pattern between the slashes has no meaning. -/
  | invalidPattern (pattern : List Char) (fault : PatternFault)
  deriving DecidableEq, Repr

namespace ScanError

/-- The kind of literal that was looked for. -/
def kind : ScanError → Kind
  | .noMatch kind _ => kind
  | .unterminated kind _ => kind
  | .boundaryViolation kind _ => kind
  | .unsupported kind _ => kind
  | .invalidPattern _ _ => .regexp

/-- The wording of each cause. -/
def message : ScanError → String
  | .noMatch kind offset => "expected " ++ kind.name ++ " literal at offset " ++ toString offset
  | .unterminated kind offset =>
    "unterminated " ++ kind.name ++ " literal starting at offset " ++ toString offset
  | .boundaryViolation kind offset =>
    "unexpected input after " ++ kind.name ++ " literal at offset " ++ toString offset
  | .unsupported kind feature => kind.name ++ " literal needs unsupported feature: " ++ feature
  | .invalidPattern pattern fault =>
    "invalid regular expression /" ++ String.ofList pattern ++ "/: " ++ fault.message

end ScanError

end ScriptLiterals
