import ScriptLiterals.Program
import ScriptLiterals.Report

/-!
# What a session shows besides literals

The greeting, the prompt, the help, and the wording of complaints.
-/

set_option autoImplicit false

namespace ScriptLiterals.Session

open Terminal

/-- What is shown before the first prompt. -/
def banner : String :=
  "\n  " ++ bold (colored .brightCyan Program.name) ++ " " ++ dimmed "v" ++ " " ++
    colored .brightYellow Program.version ++ "\n  " ++
    dimmed "Enter text starting with a literal to scan it" ++ "\n\n  " ++ dimmed "Type" ++ " " ++
    colored .cyan ".help" ++ " " ++ dimmed "for available commands" ++ "\n\n"

/-- The name of what is looked for: a kind, or any. -/
def scopeName (kind : Option Kind) : String := (kind.map Kind.name).getD "any"

/-- The prompt without emphasis. It names the kind that is looked for. -/
def promptLabel : Option Kind → String
  | none => Program.name ++ ">"
  | some kind => Program.name ++ "[" ++ kind.name ++ "]>"

/-- The prompt. -/
def prompt (kind : Option Kind) : String := bold (colored .brightGreen (promptLabel kind)) ++ " "

/-- An explained line of the help. -/
def helpLine (color : Color) (subject explanation : String) : String :=
  "  " ++ colored color (padRight 18 subject) ++ " " ++ dimmed explanation ++ "\n"

/-- A heading of the help. -/
def helpHeading (text : String) : String := "\n" ++ bold (colored .white text) ++ "\n\n"

/-- The help. -/
def help : String :=
  helpHeading "REPL Commands:" ++
    helpLine .cyan ".help" "Show this help message" ++
    helpLine .cyan ".exit" "Exit the REPL" ++
    helpLine .cyan ".clear" "Clear the screen" ++
    helpLine .cyan ".version" "Show version information" ++
    helpLine .cyan ".kind <kind|any>" "Only scan for one literal kind" ++
  helpHeading "Kinds:" ++
    String.join (Kind.all.map fun kind => "  " ++ Report.paint kind kind.name ++ "\n") ++
  helpHeading "Keyboard Shortcuts:" ++
    helpLine .yellow "Ctrl+C" "Cancel current input" ++
    helpLine .yellow "Ctrl+D" "Exit REPL" ++
    helpLine .yellow "Tab" "Autocomplete" ++
    helpLine .yellow "↑/↓" "Navigate history" ++ "\n"

/-- The answer to the question for the version. -/
def versionLine : String :=
  bold (colored .brightCyan Program.name) ++ ": " ++ colored .yellow Program.version ++ "\n"

/-- The answer to the question what is looked for. -/
def scopeLine (kind : Option Kind) : String :=
  dimmed "scanning for" ++ " " ++ colored .cyan (scopeName kind) ++ "\n"

/-- A complaint about something: its subject, and what is wrong. -/
def complaint (subject message : String) : String :=
  bold (colored .red subject) ++ ": " ++ message ++ "\n"

/-- What is said of a text without a literal. -/
def nothingFound : String := dimmed "no literal found" ++ "\n"

/-- What is shown at the end of the input. -/
def endOfInput : String := dimmed "^D" ++ "\n"

end ScriptLiterals.Session
