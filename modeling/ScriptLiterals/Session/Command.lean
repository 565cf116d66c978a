import ScriptLiterals.Text.Blank

/-!
# Commands of a session

An entry that starts with a point and a known name is a command. The name ends at the first blank and
may be written in capitals; what follows it, trimmed, is the command's argument. Any other entry that
starts with a point is a text to look at, `.5` for one.
-/

set_option autoImplicit false

namespace ScriptLiterals.Session

open Text

/-- What can be asked of a session besides looking for a literal. -/
inductive Command where
  | help
  | exit
  | clear
  | version
  | kind
  deriving DecidableEq, Repr

namespace Command

/-- The names a command goes by, the full one first. -/
def names : Command → List String
  | .help => ["help", "h", "?"]
  | .exit => ["exit", "quit", "q"]
  | .clear => ["clear", "cls"]
  | .version => ["version", "v"]
  | .kind => ["kind", "k"]

/-- All commands, in the order in which they are listed. -/
def all : List Command := [.help, .exit, .clear, .version, .kind]

/-- The lower case form of a character as far as it is ASCII: the capital letters, and of all other
characters the Kelvin sign alone. -/
def lowerAscii (c : Char) : Char := if c = '\u212a' then 'k' else c.toLower

/-- The command with the given name, in letters of either case. -/
def ofName? (name : List Char) : Option Command :=
  all.find? fun command => command.names.contains (String.ofList (name.map lowerAscii))

/-- The command that an entry is, and its argument if it has one. -/
def parse? (entry : List Char) : Option (Command × Option (List Char)) :=
  match trim entry with
  | '.' :: rest =>
    let name := rest.takeWhile fun c => !isBlank c
    let argument := trim (rest.dropWhile fun c => !isBlank c)
    (ofName? name).map fun command =>
      (command, if argument.isEmpty then none else some argument)
  | _ => none

end Command

end ScriptLiterals.Session
