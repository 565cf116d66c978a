import ScriptLiterals.CommandLine.Arguments
import ScriptLiterals.Detect
import ScriptLiterals.Program

/-!
# Requests

The commands of the program, what each takes, and what a list of arguments asks for. Without a
command the arguments ask for a session.
-/

set_option autoImplicit false

namespace ScriptLiterals.CommandLine

/-! ## Commands -/

/-- A command of the program. -/
inductive Command where
  /-- Looks for a literal of one kind. -/
  | scan (kind : Kind)
  /-- Looks for a literal of any kind. -/
  | detect
  /-- Prints a value as a literal. -/
  | literal
  /-- Looks for a literal in every line of a file. -/
  | batch
  deriving DecidableEq, Repr

namespace Command

/-- The name of a command. -/
def name : Command → String
  | .scan kind => kind.name
  | .detect => "detect"
  | .literal => "literal"
  | .batch => "batch"

/-- The command with the given name; a kind's short forms are names of its command too. -/
def ofName? (name : String) : Option Command :=
  if name = "detect" then some .detect
  else if name = "literal" then some .literal
  else if name = "batch" then some .batch
  else (Kind.ofName? name).map .scan

end Command

/-- The greatest number that a radix can be given as. -/
def radixLimit : Nat := 4294967295

/-- A natural number with an optional sign, as it is given for a radix. -/
def readRadix? (text : String) : Option Nat :=
  let (sign, digits) := Magnitude.readSign text.toList
  (Radix.decimal.readDigits? digits).filter fun n =>
    decide (n ≤ radixLimit) && (sign != ['-'] || n == 0)

/-- The only character of a text. -/
def onlyChar? (text : String) : Option Char :=
  match text.toList with
  | [c] => some c
  | _ => none

/-- What each command takes. -/
def Command.grammar : Command → Grammar
  | .scan _ =>
    ⟨[verboseFlag, .flag "strict", .flag "allow-trailing", .flag "strip", .flag "json"],
      [anyValue]⟩
  | .detect => ⟨[verboseFlag, .flag "json"], [anyValue]⟩
  | .literal =>
    ⟨[verboseFlag,
      ⟨"radix", some fun text => (readRadix? text).isSome⟩,
      ⟨"quote", some fun text => (onlyChar? text).isSome⟩,
      ⟨"type", some anyValue⟩, ⟨"indent", some anyValue⟩, ⟨"flags", some anyValue⟩],
      [fun text => (Kind.ofName? text).isSome, anyValue]⟩
  | .batch => ⟨[verboseFlag, .flag "json"], [fun text => !text.isEmpty]⟩

/-! ## Requests -/

/-- How a literal that was found is shown. -/
structure Display where
  json : Bool
  stripped : Bool
  deriving DecidableEq, Repr

/-- What a literal is to look like, as it was asked for; nothing says that there is such a radix or
quote. -/
structure Choices where
  radix : Nat := 10
  quote : Char := '\x22'
  form : String := "//"
  indent : String := ""
  flags : String := ""
  deriving DecidableEq, Repr

/-- What the program is asked to do. -/
inductive Request where
  | session
  | scan (kind : Kind) (options : ScanOptions) (display : Display) (input : List Char)
  | detect (json : Bool) (input : List Char)
  | literal (kind : Kind) (choices : Choices) (value : List Char)
  | batch (json : Bool) (file : String)
  /-- Show the version, under the given name. -/
  | version (name : String)
  | help
  deriving DecidableEq, Repr

/-- The literal that is asked for. -/
def choicesOf (given : Given) : Choices :=
  let standard : Choices := {}
  { radix := ((given.value? "radix").bind readRadix?).getD standard.radix
    quote := ((given.value? "quote").bind onlyChar?).getD standard.quote
    form := (given.value? "type").getD standard.form
    indent := (given.value? "indent").getD standard.indent
    flags := (given.value? "flags").getD standard.flags }

/-- The request that a command with its arguments is; nothing if its grammar did not accept them. -/
def Command.request? (given : Given) : Command → Option Request
  | .scan kind =>
    some (.scan kind ⟨given.has "strict", given.has "allow-trailing"⟩
      ⟨given.has "json", given.has "strip"⟩ (given.positional 0).toList)
  | .detect => some (.detect (given.has "json") (given.positional 0).toList)
  | .literal =>
    (Kind.ofName? (given.positional 0)).map fun kind =>
      .literal kind (choicesOf given) (given.positional 1).toList
  | .batch => some (.batch (given.has "json") (given.positional 0))

/-- What a list of arguments that stopped early asks for; nothing if they were misused. -/
def Stop.request? (programName : String) : Stop → Option Request
  | .misuse => none
  | .help => some .help
  | .version => some (.version programName)

/-- What the arguments of a command ask for. -/
def requestOf (command : Command) (arguments : List String) : Option Request :=
  match command.grammar.read arguments with
  | .error stop => stop.request? (Program.name ++ "-" ++ command.name)
  | .ok given => command.request? given

/-- What the command for help asks for: the help, if there is a command of the given name. -/
def helpRequest? : List String → Option Request
  | [] => some .help
  | [name] => if name = "help" ∨ (Command.ofName? name).isSome then some .help else none
  | _ => none

/-- What may be given before a command. -/
def leadingGrammar : Grammar := ⟨[verboseFlag], []⟩

/-- Reads what is given before a command, then the command. -/
def requestFrom (given : Given) : List String → Option Request
  | [] => some .session
  | text :: arguments =>
    let goOn (read : Except Stop Given) : Option Request :=
      match read with
      | .error stop => stop.request? Program.name
      | .ok given => requestFrom given arguments
    match Argument.ofString text with
    | .plain "help" => helpRequest? arguments
    | .plain name => (Command.ofName? name).bind fun command => requestOf command arguments
    | .endOfOptions => if arguments.isEmpty then some .session else none
    | .short letters => goOn (Grammar.addLetters given letters)
    | .long name none => goOn (leadingGrammar.addNamed given name)
    | .long name (some value) => goOn (leadingGrammar.addOption given name value)

/-- What the arguments ask for; nothing if they are misused. -/
def Request.ofArguments? (arguments : List String) : Option Request := requestFrom {} arguments

end ScriptLiterals.CommandLine
