import ScriptLiterals.Session.Editing
import ScriptLiterals.Session.Screen

/-!
# Sessions

A session answers one entry after the other. All it remembers is the kind of literal it looks for,
which only the command for the kind changes; `respond` says what an entry is answered with and what
is remembered after it, `run` strings the answers together.

Entries are made of lines. `entries` joins the lines of each entry that is still open
(`ScriptLiterals.Session.isOpen`); an entry that the input ends in the middle of is none.
-/

set_option autoImplicit false

namespace ScriptLiterals.Session

open Text

/-! ## Entries -/

/-- The lines of a text, each with the line feed that ends it, which the last may lack. -/
def fullLines : List Char → List (List Char)
  | [] => []
  | c :: cs =>
    if c = '\n' then [c] :: fullLines cs
    else match fullLines cs with
      | [] => [[c]]
      | line :: later => (c :: line) :: later

/-- A line without what ended it, and that: a line feed, and with it a carriage return before it. -/
def splitEnding (line : List Char) : List Char × List Char :=
  match line.reverse with
  | '\n' :: '\r' :: cs => (cs.reverse, ['\r', '\n'])
  | '\n' :: cs => (cs.reverse, ['\n'])
  | _ => (line, [])

/-- The entries that lines make up, the first of which goes on from `pending`. -/
def entriesFrom (pending : List Char) : List (List Char) → List (List Char)
  | [] => []
  | line :: lines =>
    let (body, ending) := splitEnding line
    let entry := pending ++ body
    if isOpen entry then entriesFrom (entry ++ ending) lines
    else entry :: entriesFrom [] lines

/-- The entries of an input. -/
def entries (input : List Char) : List (List Char) := entriesFrom [] (fullLines input)

/-! ## Answers -/

/-- What is printed: a result, or a complaint, which goes to a channel of its own. -/
inductive Output where
  | result (text : String)
  | complaint (text : String)
  deriving DecidableEq, Repr

/-- What is printed, on whichever channel. -/
def Output.text : Output → String
  | .result text => text
  | .complaint text => text

/-- What comes after an entry: the session goes on, looking for literals of a kind or of any, or it
has ended. -/
inductive Next where
  | active (kind : Option Kind)
  | ended
  deriving DecidableEq, Repr

/-- The literal looked for in an entry: one of the kind, or any. -/
def scanEntry (kind : Option Kind) (entry : List Char) : Except ScanError (Option AnyToken) :=
  match kind with
  | some kind => scanAs kind { strict := true } entry
  | none => .ok (detect entry)

@[simp] theorem scanEntry_some (kind : Kind) (entry : List Char) :
    scanEntry (some kind) entry = scanAs kind { strict := true } entry := rfl

@[simp] theorem scanEntry_none (entry : List Char) : scanEntry none entry = .ok (detect entry) := rfl

/-- What is shown of a scan. -/
def showScan : Except ScanError (Option AnyToken) → Output
  | .ok (some token) => .result (Report.describe false token ++ "\n")
  | .ok none => .result nothingFound
  | .error e => .complaint (complaint e.kind.name e.message)

@[simp] theorem showScan_found (token : AnyToken) :
    showScan (.ok (some token)) = .result (Report.describe false token ++ "\n") := rfl

@[simp] theorem showScan_nothing : showScan (.ok none) = .result nothingFound := rfl

@[simp] theorem showScan_error (e : ScanError) :
    showScan (.error e) = .complaint (complaint e.kind.name e.message) := rfl

/-- The answer to the command for the kind: which is looked for, if it has no argument, and otherwise a
change of it. -/
def respondKind (kind : Option Kind) : Option (List Char) → Output × Next
  | none => (.result (scopeLine kind), .active kind)
  | some name =>
    if String.ofList name = "any" then (.result "", .active none)
    else match Kind.ofName? (String.ofList name) with
      | some found => (.result "", .active (some found))
      | none =>
        (.complaint (complaint "Error" (Kind.unknownMessage (String.ofList name))), .active kind)

/-- The answer to a command. -/
def respondCommand (kind : Option Kind) (argument : Option (List Char)) :
    Command → Output × Next
  | .help => (.result help, .active kind)
  | .exit => (.result "", .ended)
  | .clear => (.result Terminal.clearScreen, .active kind)
  | .version => (.result versionLine, .active kind)
  | .kind => respondKind kind argument

/-- The answer to an entry. Blank entries are passed over in silence. -/
def respond (kind : Option Kind) (entry : List Char) : Output × Next :=
  if (trim entry).isEmpty then (.result "", .active kind)
  else match Command.parse? entry with
    | some (command, argument) => respondCommand kind argument command
    | none => (showScan (scanEntry kind entry), .active kind)

/-! ## Whole sessions -/

/-- What happens between two prompts: the kind the first one names, and what is printed then. -/
structure Step where
  kind : Option Kind
  output : List Output
  deriving DecidableEq, Repr

/-- A session that looks for `kind`, from its next prompt to its end. The end of the entries is shown
as such; however a session ends, a line feed is the last it prints. -/
def run (kind : Option Kind) : List (List Char) → List Step
  | [] => [⟨kind, [.result endOfInput, .result "\n"]⟩]
  | entry :: later =>
    match respond kind entry with
    | (output, .active next) => ⟨kind, [output]⟩ :: run next later
    | (output, .ended) => [⟨kind, [output, .result "\n"]⟩]

/-- The session that an input makes: at first it looks for literals of any kind. -/
def ofInput (input : List Char) : List Step := run none (entries input)

end ScriptLiterals.Session
