import ScriptLiterals.CommandLine.Request

/-!
# Values printed as literals

`literalFor` prints a value that is given as text: a number as a literal reads it, a keyword by its
word, and the other kinds by the text itself. `LiteralFault` lists what can be wrong with the value
or with the choices, `LiteralFault.message` words it.
-/

set_option autoImplicit false

namespace ScriptLiterals.CommandLine

/-- Why a value is not printed as a literal. -/
inductive LiteralFault where
  | unsupportedRadix (radix : Nat)
  | notANumber (value : List Char)
  | notAQuote (c : Char)
  | notAKeyword (value : List Char)
  | invalidFlags (flags : String)
  | unknownForm (name : String)
  | unscannable (cause : ScanError)
  deriving DecidableEq, Repr

/-- Text between single quotes. -/
def inQuotes (text : String) : String := "'" ++ text ++ "'"

/-- The wording of each fault. -/
def LiteralFault.message : LiteralFault → String
  | .unsupportedRadix radix => "unsupported radix " ++ toString radix
  | .notANumber value => inQuotes (String.ofList value) ++ " is not a number"
  | .notAQuote c => inQuotes (String.singleton c) ++ " is not a quote character"
  | .notAKeyword value => inQuotes (String.ofList value) ++ " is not a keyword"
  | .invalidFlags flags => "invalid regular expression flags " ++ inQuotes flags
  | .unknownForm name => CommentForm.unknownMessage name
  | .unscannable cause => cause.message

/-- What is chosen or found, or the fault that there is no such thing. -/
def orFault {α : Type} (fault : LiteralFault) : Option α → Except LiteralFault α
  | some found => .ok found
  | none => .error fault

/-- The literal of a kind for a value. Of the choices only those for the kind are looked at, and they
are looked at before the value. -/
def literalFor (kind : Kind) (choices : Choices) (value : List Char) :
    Except LiteralFault (List Char) :=
  match kind with
  | .number => do
    let radix ← orFault (.unsupportedRadix choices.radix) (Radix.ofBase? choices.radix)
    let number ← orFault (.notANumber value) (Number.parse? true value)
    pure (number.toLiteral radix)
  | .string => do
    let quote ← orFault (.notAQuote choices.quote) (Quote.ofChar? choices.quote)
    pure (Quoted.toLiteral quote value)
  | .keyword => do
    let keyword ← orFault (.notAKeyword value) (Keyword.ofWord? value)
    pure keyword.word
  | .regexp => do
    let flags ← orFault (.invalidFlags choices.flags)
      (RegexpFlags.ofLetters? choices.flags.toList)
    let regexp ← (Regexp.make value flags).mapError .unscannable
    pure regexp.toLiteral
  | .comment => do
    let form ← orFault (.unknownForm choices.form) (CommentForm.ofName? choices.form)
    pure (Comment.toLiteral form choices.indent.toList value)

end ScriptLiterals.CommandLine
