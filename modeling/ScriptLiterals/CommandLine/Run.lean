import ScriptLiterals.CommandLine.Literal
import ScriptLiterals.Report
import ScriptLiterals.Session.Run
import ScriptLiterals.Text.Lines

/-!
# Running the program

`run` answers a list of arguments with what the program prints and its exit code. The two things it
needs from outside are asked for where they are needed: the contents of a file, and the standard
input of a session. Both come through parameters, so that the same definition serves a program that
reads files and a statement about all contents.
-/

set_option autoImplicit false

namespace ScriptLiterals.CommandLine

open Terminal

/-- How a run of the program ends. -/
structure Outcome where
  exitCode : UInt8
  out : String
  err : String
  deriving DecidableEq, Repr

/-- Why a file is not read. -/
inductive ReadFault where
  | missing
  | notDirectory
  | directory
  | notText
  /-- Another fault, in the words of the system. -/
  | other (message : String)
  deriving DecidableEq, Repr

/-- The wording of each fault. -/
def ReadFault.message : ReadFault → String
  | .missing => "No such file or directory (os error 2)"
  | .notDirectory => "Not a directory (os error 20)"
  | .directory => "Is a directory (os error 21)"
  | .notText => "stream did not contain valid UTF-8"
  | .other message => message

namespace Outcome

/-- A run that ends well. -/
def success (out : String) : Outcome := ⟨0, out, ""⟩

/-- A run that ends with an error. -/
def failure (message : String) : Outcome := ⟨1, "", Session.complaint "Error" message⟩

/-- A run that ends because its arguments are misused. -/
def misuse : Outcome := ⟨2, "", ""⟩

end Outcome

/-! ## What the commands print -/

/-- A line of output. -/
def line (text : String) : String := text ++ "\n"

/-- A JSON value on a line of its own. -/
def jsonLine (value : Json) : String := line (String.ofList value.text)

/-- A literal that was found, or what is said if there is none. -/
def showToken (display : Display) (absence : String) : Option AnyToken → String
  | some token =>
    if display.json then jsonLine (Report.toJson display.stripped token)
    else line (Report.describe display.stripped token)
  | none => if display.json then jsonLine .null else line (dimmed absence)

/-- The outcome of a scan for a kind. -/
def scanOutcome (kind : Kind) (options : ScanOptions) (display : Display) (input : List Char) :
    Outcome :=
  match scanAs kind options input with
  | .error e => .failure e.message
  | .ok token => .success (showToken display ("no " ++ kind.name ++ " literal") token)

/-- The outcome of printing a value as a literal. -/
def literalOutcome (kind : Kind) (choices : Choices) (value : List Char) : Outcome :=
  match literalFor kind choices value with
  | .error fault => .failure fault.message
  | .ok literal => .success (line (String.ofList literal))

/-- The line of a table for the line of a file with the given number. -/
def batchRow (number : Nat) (token : Option AnyToken) : String :=
  line (dimmed (padLeft 4 (toString number)) ++ " " ++
    match token with
    | some token =>
      padRight 8 token.kind.name ++ " " ++ Report.paint token.kind (String.ofList token.source)
    | none => dimmed "-")

/-- What is printed for the literals in the lines of a file: a table, or a JSON array. -/
def batchText (json : Bool) (content : List Char) : String :=
  let tokens := (Text.lines content).map detect
  if json then
    jsonLine (.array (tokens.map fun token => (token.map (Report.toJson false)).getD .null))
  else String.join (tokens.mapIdx fun index token => batchRow (index + 1) token)

/-- The outcome of looking for a literal in every line of a file. -/
def batchOutcome (json : Bool) (file : String) : Except ReadFault (List Char) → Outcome
  | .error fault => .failure ("failed to read " ++ file ++ ": " ++ fault.message)
  | .ok content => .success (batchText json content)

/-! ## Sessions -/

/-- What a step of a session prints as results, prompt included. -/
def stepResults (step : Session.Step) : String :=
  Session.prompt step.kind ++ String.join (step.output.map fun
    | .result text => text
    | .complaint _ => "")

/-- What a step of a session prints as complaints. -/
def stepComplaints (step : Session.Step) : String :=
  String.join (step.output.map fun
    | .result _ => ""
    | .complaint text => text)

/-- The outcome of a session. However often it complains, it ends well. -/
def sessionOutcome (input : List Char) : Outcome :=
  let steps := Session.ofInput input
  ⟨0, Session.banner ++ String.join (steps.map stepResults),
    String.join (steps.map stepComplaints)⟩

/-! ## The program -/

/-- The outcome of a request. -/
def Request.run {m : Type → Type} [Monad m] (readFile : String → m (Except ReadFault (List Char)))
    (readInput : m (List Char)) : Request → m Outcome
  | .session => do pure (sessionOutcome (← readInput))
  | .scan kind options display input => pure (scanOutcome kind options display input)
  | .detect json input =>
    pure (.success (showToken ⟨json, false⟩ "no literal found" (ScriptLiterals.detect input)))
  | .literal kind choices value => pure (literalOutcome kind choices value)
  | .batch json file => do pure (batchOutcome json file (← readFile file))
  | .version name => pure (.success (line (name ++ " " ++ Program.version)))
  | .help => pure (.success "")

/-- The outcome of a list of arguments. -/
def run {m : Type → Type} [Monad m] (readFile : String → m (Except ReadFault (List Char)))
    (readInput : m (List Char)) (arguments : List String) : m Outcome :=
  match Request.ofArguments? arguments with
  | none => pure .misuse
  | some request => request.run readFile readInput

end ScriptLiterals.CommandLine
