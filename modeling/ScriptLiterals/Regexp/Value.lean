import ScriptLiterals.Pattern.Match
import ScriptLiterals.Regexp.Flags

/-!
# Regular expressions as values

A regular expression is the text between its slashes, its flags, and the meaning of the two. A pattern
from elsewhere may hold what cannot stand between slashes; `normalize` escapes it. Normalizing keeps
track of classes and escapes in the same way as reading a literal does
(`ScriptLiterals.Regexp.Scan`), so it knows which slashes would end the literal.
-/

set_option autoImplicit false

namespace ScriptLiterals

/-- A regular expression. -/
structure Regexp where
  source : List Char
  flags : RegexpFlags
  meaning : Pattern.Expr

namespace Regexp

/-- Whether `c` ends a line: no regular expression spans lines. -/
def isLineTerminator (c : Char) : Bool :=
  c == '\n' || c == '\r' || c == '\u2028' || c == '\u2029'

/-- What is written behind a backslash for a line terminator. -/
def lineTerminatorLetters (c : Char) : List Char :=
  if c = '\n' then ['n']
  else if c = '\r' then ['r']
  else if c = '\u2028' then ['u', '2', '0', '2', '8']
  else ['u', '2', '0', '2', '9']

/-- Whether a class is open behind `c`, if it was before. Brackets do not nest here. -/
def classAfter (inClass : Bool) (c : Char) : Bool :=
  if c = '[' then true else if c = ']' then false else inClass

/-- A pattern as it can stand between slashes, from a place that is in a class or not. -/
def normalizeFrom (inClass : Bool) : List Char → List Char
  | [] => []
  | ['\\'] => ['\\', '\\']
  | '\\' :: c :: cs =>
    '\\' :: (if isLineTerminator c then lineTerminatorLetters c else [c]) ++
      normalizeFrom inClass cs
  | c :: cs =>
    (if c = '/' ∧ !inClass then ['\\', '/']
     else if isLineTerminator c then '\\' :: lineTerminatorLetters c
     else [c]) ++ normalizeFrom (classAfter inClass c) cs

/-- A pattern as it can stand between slashes. Two slashes would open a comment, so the empty pattern
gets a spelling of its own. -/
def normalize (pattern : List Char) : List Char :=
  if pattern.isEmpty then ['(', '?', ':', ')'] else normalizeFrom false pattern

/-- The regular expression with exactly this source, if the source has a meaning. -/
def ofSource (source : List Char) (flags : RegexpFlags) : Except PatternFault Regexp :=
  (Pattern.compile flags.modes source).map fun meaning => ⟨source, flags, meaning⟩

/-- The regular expression for a pattern; the error names the source that has no meaning. -/
def make (pattern : List Char) (flags : RegexpFlags) : Except ScanError Regexp :=
  let source := normalize pattern
  match ofSource source flags with
  | .error fault => .error (.invalidPattern source fault)
  | .ok value => .ok value

/-- Two regular expressions are the same if they are written the same. -/
def sameAs (a b : Regexp) : Bool := a.source == b.source && a.flags == b.flags

/-- Whether the expression matches somewhere in the text. -/
def isMatch (e : Regexp) (text : List Char) : Bool := e.meaning.isMatch text

/-- The literal for a regular expression. -/
def toLiteral (e : Regexp) : List Char := '/' :: e.source ++ '/' :: e.flags.letters

end Regexp

end ScriptLiterals
