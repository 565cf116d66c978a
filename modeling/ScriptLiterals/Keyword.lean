import ScriptLiterals.Double.Basic
import ScriptLiterals.Recognizer
import ScriptLiterals.Text.Identifier

/-!
# Keywords

The words that are literals: `true`, `false`, `null`, `NaN` and `Infinity`. A keyword is a whole
word; the longest run of identifier characters has to be one of the five.
-/

set_option autoImplicit false

namespace ScriptLiterals

/-- A word that is a literal. -/
inductive Keyword where
  | bool (b : Bool)
  | null
  | nan
  | infinity
  deriving DecidableEq, Repr

namespace Keyword

/-- All keywords. -/
def all : List Keyword := [.bool true, .bool false, .null, .nan, .infinity]

/-- The spelling of a keyword, which is also its literal. -/
def word : Keyword → List Char
  | .bool true => ['t', 'r', 'u', 'e']
  | .bool false => ['f', 'a', 'l', 's', 'e']
  | .null => ['n', 'u', 'l', 'l']
  | .nan => ['N', 'a', 'N']
  | .infinity => ['I', 'n', 'f', 'i', 'n', 'i', 't', 'y']

/-- The keyword with the given spelling. -/
def ofWord? (word : List Char) : Option Keyword := all.find? fun k => k.word == word

/-- Every keyword is the one with its spelling. -/
theorem ofWord?_word (k : Keyword) : ofWord? k.word = some k := by
  rcases k with (_ | _) | _ | _ | _ <;> rfl

/-- The truth value, for the two keywords that have one. -/
def toBool? : Keyword → Option Bool
  | .bool b => some b
  | _ => none

/-- The numeric value, for the two keywords that have one. -/
def toDouble? : Keyword → Option Double
  | .nan => some .nan
  | .infinity => some (.infinity false)
  | _ => none

/-- Reads a keyword. -/
def read (cs : List Char) : Except Miss (Lexeme Keyword Unit) :=
  let word := cs.takeWhile Text.isIdContinue
  match ofWord? word with
  | none => .error .noMatch
  | some k => .ok ⟨word, cs.dropWhile Text.isIdContinue, k, ()⟩

/-- Keywords. What may follow one is what may follow a statement's last word. -/
def recognizer : Recognizer Keyword Unit := ⟨.keyword, read, some .statement⟩

/-- The token of the keyword at the head of `input`. -/
def token? (input : List Char) : Option (Token Keyword Unit) := found? (recognizer.scan input)

/-- The keyword at the head of `input`. -/
def parse? (input : List Char) : Option Keyword := (token? input).map (·.value)

end Keyword

end ScriptLiterals
