import ScriptLiterals.Pattern.Expr
import ScriptLiterals.Unicode.Property

/-!
# Matching

An expression takes a set of places in a text to the places where a match begun at one of them may
end (`Expr.ends`). Working with sets of places, and not with one place after another, makes
repetition a matter of collecting: rounds are added until one reaches no new place.
-/

set_option autoImplicit false

namespace ScriptLiterals.Pattern

open Unicode

/-- Whether the character at `i`, if there is one, is one that words are made of. -/
def isWordAt (ascii : Bool) (text : Array Char) (i : Nat) : Bool :=
  text[i]?.any fun c => if ascii then c.isAlphanum || c == '_' else isWordChar c

/-- Whether words begin or end at `i` in the way `edge` asks for. -/
def WordEdge.holds (edge : WordEdge) (ascii : Bool) (text : Array Char) (i : Nat) : Bool :=
  let before := i != 0 && isWordAt ascii text (i - 1)
  let after := isWordAt ascii text i
  match edge with
  | .boundary => before != after
  | .notBoundary => before == after
  | .start => !before && after
  | .stop => before && !after
  | .startHalf => !before
  | .stopHalf => !after

/-- Whether a line starts at `i`. A line feed that completes a line break of two characters belongs to
it. -/
def isLineStart (breaks : LineBreaks) (text : Array Char) (i : Nat) : Bool :=
  i == 0 ||
    match breaks with
    | .lineFeed => text[i - 1]? == some '\n'
    | .carriageReturnLineFeed =>
      text[i - 1]? == some '\n' || (text[i - 1]? == some '\r' && text[i]? != some '\n')

/-- Whether a line ends at `i`. -/
def isLineEnd (breaks : LineBreaks) (text : Array Char) (i : Nat) : Bool :=
  i == text.size ||
    match breaks with
    | .lineFeed => text[i]? == some '\n'
    | .carriageReturnLineFeed =>
      text[i]? == some '\r' ||
        (text[i]? == some '\n' && (i == 0 || text[i - 1]? != some '\r'))

/-- Whether the condition holds at `i`. -/
def Look.holds (text : Array Char) (i : Nat) : Look → Bool
  | .startOfText => i == 0
  | .endOfText => i == text.size
  | .startOfLine breaks => isLineStart breaks text i
  | .endOfLine breaks => isLineEnd breaks text i
  | .word edge ascii => edge.holds ascii text i

/-- The places of both lists, each once. -/
def mergePlaces (places more : List Nat) : List Nat :=
  more.foldl (fun acc i => if acc.contains i then acc else i :: acc) places

/-- The places after exactly `rounds` rounds. -/
def roundsOf (step : List Nat → List Nat) : Nat → List Nat → List Nat
  | 0, places => places
  | rounds + 1, places => if places.isEmpty then [] else roundsOf step rounds (step places)

/-- The places after at most `rounds` further rounds, where `reached` are those reached before and
`frontier` the ones that the last round reached for the first time. -/
def reach (step : List Nat → List Nat) : Nat → List Nat → List Nat → List Nat
  | 0, reached, _ => reached
  | rounds + 1, reached, frontier =>
    let fresh := (step frontier).filter fun i => !reached.contains i
    if fresh.isEmpty then reached else reach step rounds (mergePlaces reached fresh) fresh

/-- The places behind the characters at `places` that have the property `p`. -/
def passing (text : Array Char) (p : Char → Bool) (places : List Nat) : List Nat :=
  mergePlaces [] <| places.filterMap fun i => if text[i]?.any p then some (i + 1) else none

mutual

/-- The places where a match that begins at one of `places` may end. A repetition without upper bound
reaches all places it can in as many rounds as there are places. -/
def Expr.ends (text : Array Char) : Expr → List Nat → List Nat
  | .empty, places => places
  | .literal cs, places => cs.foldl (fun places c => passing text (· == c) places) places
  | .set s, places => passing text (fun c => s.contains c.toNat) places
  | .look l, places => places.filter fun i => l.holds text i
  | .capture body, places => body.ends text places
  | .repetition least most _ body, places =>
    let step := body.ends text
    let first := roundsOf step least places
    let further := match most with
      | some most => most - least
      | none => text.size + 1
    reach step further first first
  | .sequence parts, places => endsInRow text parts places
  | .alternation branches, places => endsOfAny text branches places

/-- The places where a match of all the expressions in a row may end. -/
def endsInRow (text : Array Char) : List Expr → List Nat → List Nat
  | [], places => places
  | e :: es, places => endsInRow text es (e.ends text places)

/-- The places where a match of any of the expressions may end. -/
def endsOfAny (text : Array Char) : List Expr → List Nat → List Nat
  | [], _ => []
  | e :: es, places => mergePlaces (e.ends text places) (endsOfAny text es places)

end

/-- Whether the expression matches somewhere in the text. -/
def Expr.isMatch (e : Expr) (text : List Char) : Bool :=
  !(e.ends text.toArray (List.range (text.length + 1))).isEmpty

end ScriptLiterals.Pattern
