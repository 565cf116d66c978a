import ScriptLiterals.Pattern.Meaning

/-!
# Flags of regular expressions

The letters behind the closing slash. A set of flags has one canonical spelling, its letters in the
order `gimsuy`.
-/

set_option autoImplicit false

namespace ScriptLiterals

/-- The letters behind the closing slash of a regular expression. -/
inductive RegexpFlag where
  | global
  | ignoreCase
  | multiline
  | dotAll
  | unicode
  | sticky
  deriving DecidableEq, Repr

namespace RegexpFlag

/-- All flags, in canonical order. -/
def all : List RegexpFlag := [.global, .ignoreCase, .multiline, .dotAll, .unicode, .sticky]

/-- The letter of a flag. -/
def letter : RegexpFlag → Char
  | .global => 'g'
  | .ignoreCase => 'i'
  | .multiline => 'm'
  | .dotAll => 's'
  | .unicode => 'u'
  | .sticky => 'y'

/-- The flag with the given letter. -/
def ofLetter? (c : Char) : Option RegexpFlag := all.find? fun f => f.letter == c

/-- Every flag is the one with its letter. -/
theorem ofLetter?_letter (f : RegexpFlag) : ofLetter? f.letter = some f := by
  cases f <;> rfl

end RegexpFlag

/-- A set of flags. -/
structure RegexpFlags where
  global : Bool := false
  ignoreCase : Bool := false
  multiline : Bool := false
  dotAll : Bool := false
  unicode : Bool := false
  sticky : Bool := false
  deriving DecidableEq, Repr

namespace RegexpFlags

/-- No flag. -/
def none : RegexpFlags := {}

/-- Whether the set has the flag. -/
def contains (flags : RegexpFlags) : RegexpFlag → Bool
  | .global => flags.global
  | .ignoreCase => flags.ignoreCase
  | .multiline => flags.multiline
  | .dotAll => flags.dotAll
  | .unicode => flags.unicode
  | .sticky => flags.sticky

/-- The set with one more flag. -/
def insert (flags : RegexpFlags) : RegexpFlag → RegexpFlags
  | .global => { flags with global := true }
  | .ignoreCase => { flags with ignoreCase := true }
  | .multiline => { flags with multiline := true }
  | .dotAll => { flags with dotAll := true }
  | .unicode => { flags with unicode := true }
  | .sticky => { flags with sticky := true }

/-- Adds the flags that the letters stand for; nothing if a letter stands for none or for one the set
already has. -/
def addLetters? (flags : RegexpFlags) : List Char → Option RegexpFlags
  | [] => some flags
  | c :: cs =>
    match RegexpFlag.ofLetter? c with
    | .none => .none
    | some flag => if flags.contains flag then .none else (flags.insert flag).addLetters? cs

/-- The set of the flags that the letters stand for, each at most once. -/
def ofLetters? (letters : List Char) : Option RegexpFlags := none.addLetters? letters

/-- The letters of the set, in canonical order. -/
def letters (flags : RegexpFlags) : List Char :=
  (RegexpFlag.all.filter flags.contains).map RegexpFlag.letter

/-- The flags that the head of a text adds to `flags`: the letters, the set, and what follows. The
run ends before the first letter that stands for no flag or for one the set already has. -/
def readRun (flags : RegexpFlags) : List Char → List Char × RegexpFlags × List Char
  | [] => ([], flags, [])
  | c :: cs =>
    match RegexpFlag.ofLetter? c with
    | .none => ([], flags, c :: cs)
    | some flag =>
      if flags.contains flag then ([], flags, c :: cs)
      else
        let (run, all, rest) := (flags.insert flag).readRun cs
        (c :: run, all, rest)

/-- The modes in which a pattern with these flags is read. The other flags say how a pattern is used,
not what it matches. -/
def modes (flags : RegexpFlags) : Pattern.Modes :=
  { ignoreCase := flags.ignoreCase, multiLine := flags.multiline, dotAll := flags.dotAll }

/-- The set as a number with one bit per flag, the first flag lowest. -/
def toBits (flags : RegexpFlags) : Nat :=
  RegexpFlag.all.foldr (fun flag bits => 2 * bits + if flags.contains flag then 1 else 0) 0

end RegexpFlags

end ScriptLiterals
