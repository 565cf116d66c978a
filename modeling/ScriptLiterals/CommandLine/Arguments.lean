/-!
# Arguments

A command takes options and positional arguments, in any order. `Grammar` says which, and `readFrom`
reads the arguments from left to right. It stops at the first argument that has no place or is not
accepted, and also at one that asks for the help or the version, so of two such arguments the first
decides.

An argument that starts with a hyphen is an option; a lone hyphen is not, and after a lone double
hyphen nothing is. The value of an option follows an equals sign or is the next argument, which must
then not look like an option.
-/

set_option autoImplicit false

namespace ScriptLiterals.CommandLine

/-! ## Single arguments -/

/-- What an argument looks like. -/
inductive Argument where
  | plain (text : String)
  /-- Letters behind one hyphen, each an option of its own. -/
  | short (letters : List Char)
  /-- A name behind two hyphens and, if there is an equals sign, what follows it. -/
  | long (name : String) (value : Option String)
  /-- Two hyphens: there are no options from here on. -/
  | endOfOptions
  deriving DecidableEq, Repr

/-- The text behind the first equals sign. -/
def behindEquals? (cs : List Char) : Option String :=
  match cs.dropWhile fun c => c != '=' with
  | [] => none
  | _ :: value => some (String.ofList value)

/-- What an argument looks like. -/
def Argument.ofString (text : String) : Argument :=
  match text.toList with
  | ['-', '-'] => .endOfOptions
  | '-' :: '-' :: cs => .long (String.ofList (cs.takeWhile fun c => c != '=')) (behindEquals? cs)
  | '-' :: c :: cs => .short (c :: cs)
  | _ => .plain text

/-! ## Grammars -/

/-- An option: its name, and which values it takes, if it takes any. -/
structure OptionRule where
  name : String
  accepts : Option (String → Bool)

/-- What a command takes. Every positional argument has to be given. -/
structure Grammar where
  options : List OptionRule
  positionals : List (String → Bool)

/-- An option without a value. -/
def OptionRule.flag (name : String) : OptionRule := ⟨name, none⟩

/-- The flag that every command has. -/
def verboseFlag : OptionRule := .flag "verbose"

/-- Accepts every value. -/
def anyValue : String → Bool := fun _ => true

/-- Why reading the arguments comes to an early end. -/
inductive Stop where
  | misuse
  | help
  | version
  deriving DecidableEq, Repr

/-- What was given: flags, options with their values, and positional arguments in order. -/
structure Given where
  flags : List String := []
  values : List (String × String) := []
  positionals : List String := []
  deriving DecidableEq, Repr

namespace Given

/-- Whether a flag was given. -/
def has (given : Given) (flag : String) : Bool := given.flags.contains flag

/-- The value of an option that was given. -/
def value? (given : Given) (option : String) : Option String := given.values.lookup option

/-- The positional argument with the given index. -/
def positional (given : Given) (index : Nat) : String := given.positionals.getD index ""

/-- Adds a flag, which may be given only once. -/
def addFlag (given : Given) (flag : String) : Except Stop Given :=
  if given.has flag then .error .misuse else .ok { given with flags := flag :: given.flags }

/-- Adds an option with its value; an option may be given only once. -/
def addValue (given : Given) (option value : String) : Except Stop Given :=
  if (given.value? option).isSome then .error .misuse
  else .ok { given with values := (option, value) :: given.values }

end Given

/-! ## Reading -/

namespace Grammar

/-- Takes a positional argument. -/
def addPositional (g : Grammar) (given : Given) (text : String) : Except Stop Given :=
  if (g.positionals[given.positionals.length]?).any fun accepts => accepts text then
    .ok { given with positionals := given.positionals ++ [text] }
  else .error .misuse

/-- Takes the letters behind one hyphen. -/
def addLetters (given : Given) : List Char → Except Stop Given
  | [] => .ok given
  | 'v' :: cs => (given.addFlag verboseFlag.name).bind fun given => addLetters given cs
  | 'V' :: _ => .error .version
  | 'h' :: _ => .error .help
  | _ => .error .misuse

/-- Takes a flag. -/
def addNamed (g : Grammar) (given : Given) (name : String) : Except Stop Given :=
  if name = "help" then .error .help
  else if name = "version" then .error .version
  else if g.options.any fun rule => rule.name == name && rule.accepts.isNone then given.addFlag name
  else .error .misuse

/-- Takes an option and its value. -/
def addOption (g : Grammar) (given : Given) (name value : String) : Except Stop Given :=
  if g.options.any fun rule => rule.name == name && rule.accepts.any fun accepts => accepts value then
    given.addValue name value
  else .error .misuse

/-- Whether an option takes a value. -/
def takesValue (g : Grammar) (name : String) : Bool :=
  g.options.any fun rule => rule.name == name && rule.accepts.isSome

/-- The value of an option that is a separate argument, and the arguments behind it. -/
def splitValue? : List String → Option (String × List String)
  | [] => none
  | text :: arguments =>
    match Argument.ofString text with
    | .plain value => some (value, arguments)
    | _ => none

/-- The arguments behind a separate value are fewer. -/
theorem splitValue?_length_lt {arguments : List String} {found : String × List String}
    (h : splitValue? arguments = some found) : found.2.length < arguments.length := by
  cases arguments with
  | nil => simp [splitValue?] at h
  | cons text arguments =>
    simp only [splitValue?] at h
    split at h
    · cases h
      exact Nat.lt_succ_self _
    · cases h

/-- Reads arguments, some having been given before. -/
def readFrom (g : Grammar) (given : Given) : List String → Except Stop Given
  | [] => .ok given
  | text :: arguments =>
    match Argument.ofString text with
    | .plain text => (g.addPositional given text).bind fun given => g.readFrom given arguments
    | .short letters => (addLetters given letters).bind fun given => g.readFrom given arguments
    | .endOfOptions => arguments.foldlM g.addPositional given
    | .long name (some value) =>
      (g.addOption given name value).bind fun given => g.readFrom given arguments
    | .long name none =>
      if g.takesValue name then
        match h : splitValue? arguments with
        | none => .error .misuse
        | some found =>
          have := splitValue?_length_lt h
          (g.addOption given name found.1).bind fun given => g.readFrom given found.2
      else (g.addNamed given name).bind fun given => g.readFrom given arguments
termination_by arguments => arguments.length

/-- Reads the arguments of a command. -/
def read (g : Grammar) (arguments : List String) : Except Stop Given :=
  match g.readFrom {} arguments with
  | .error stop => .error stop
  | .ok given =>
    if given.positionals.length = g.positionals.length then .ok given else .error .misuse

end Grammar

end ScriptLiterals.CommandLine
