import ScriptLiterals.Pattern.Syntax
import ScriptLiterals.Unicode.CharSet

/-!
# What a pattern means

An `Expr` is a pattern with all modes resolved: texts, sets of characters, conditions on places, and
the ways to put patterns together. Expressions are made in a reduced form: `ofSet`, `rounds`, `inRow`
and `oneOf` each drop what makes no difference, so that patterns that mean the same in an obvious way
are one expression. What `ScriptLiterals.Pattern.Automaton` measures is the reduced form.
-/

set_option autoImplicit false

namespace ScriptLiterals.Pattern

open Unicode

/-- Which line breaks end a line. -/
inductive LineBreaks where
  | lineFeed
  | carriageReturnLineFeed
  deriving DecidableEq, Repr

/-- A condition on the place between two characters. The conditions on words know either the words of
all scripts or those of ASCII only. -/
inductive Look where
  | startOfText
  | endOfText
  | startOfLine (breaks : LineBreaks)
  | endOfLine (breaks : LineBreaks)
  | word (edge : WordEdge) (ascii : Bool)
  deriving DecidableEq, Repr

/-- The meaning of a pattern. Which of several matches is found makes no difference to whether there is
one, so `greedy` and `capture` matter to the form of an expression only. -/
inductive Expr where
  | empty
  | literal (text : List Char)
  | set (s : CharSet)
  | look (l : Look)
  | capture (body : Expr)
  | repetition (least : Nat) (most : Option Nat) (greedy : Bool) (body : Expr)
  | sequence (parts : List Expr)
  | alternation (branches : List Expr)
  deriving Repr

/-! ## What can be told without matching -/

mutual

/-- Whether the expression has a match, and none that is not empty. -/
def Expr.isEmptyOnly : Expr → Bool
  | .empty => true
  | .literal text => text.isEmpty
  | .set _ => false
  | .look _ => true
  | .capture body => body.isEmptyOnly
  | .repetition _ most _ body => most == some 0 || (most.isSome && body.isEmptyOnly)
  | .sequence parts => areEmptyOnly parts
  | .alternation branches => areEmptyOnly branches

/-- Whether all the expressions have empty matches only. -/
def areEmptyOnly : List Expr → Bool
  | [] => true
  | e :: es => e.isEmptyOnly && areEmptyOnly es

end

mutual

/-- The least number of characters of a match. A set without members has no match, and then nothing
that contains it has a least number. -/
def Expr.leastLength? : Expr → Option Nat
  | .empty => some 0
  | .literal text => some text.length
  | .set s => if s.ranges.isEmpty then none else some 1
  | .look _ => some 0
  | .capture body => body.leastLength?
  | .repetition least _ _ body => body.leastLength?.map (least * ·)
  | .sequence parts => leastLengthInRow? parts
  | .alternation branches => leastLengthOfAny? branches

/-- The least length of a match of all the expressions in a row. -/
def leastLengthInRow? : List Expr → Option Nat
  | [] => some 0
  | e :: es => do return (← e.leastLength?) + (← leastLengthInRow? es)

/-- The least length of a match of any of the expressions, of which there is at least one. -/
def leastLengthOfAny? : List Expr → Option Nat
  | [] => none
  | [e] => e.leastLength?
  | e :: es => do return min (← e.leastLength?) (← leastLengthOfAny? es)

end

/-- Whether every match is seen to have a character. -/
def Expr.isNeverEmpty (e : Expr) : Bool := e.leastLength?.any (0 < ·)

mutual

/-- Whether every match is seen to begin at the start of the text. -/
def Expr.isAtStart : Expr → Bool
  | .look l => l == .startOfText
  | .capture body => body.isAtStart
  | .repetition least _ _ body => 0 < least && body.isAtStart
  | .sequence parts => isRowAtStart parts
  | .alternation branches => areAtStart branches
  | .empty | .literal _ | .set _ => false

/-- Whether every match of the expressions in a row is seen to begin at the start of the text. -/
def isRowAtStart : List Expr → Bool
  | [] => false
  | e :: es => e.isAtStart || (e.isEmptyOnly && isRowAtStart es)

/-- Whether every match of each of the expressions is seen to begin at the start of the text. -/
def areAtStart : List Expr → Bool
  | [] => true
  | e :: es => e.isAtStart && areAtStart es

end

mutual

/-- Whether every match is seen to stop at the end of the text. -/
def Expr.isAtEnd : Expr → Bool
  | .look l => l == .endOfText
  | .capture body => body.isAtEnd
  | .repetition least _ _ body => 0 < least && body.isAtEnd
  | .sequence parts => isRowAtEnd parts
  | .alternation branches => areAtEnd branches
  | .empty | .literal _ | .set _ => false

/-- Whether every match of the expressions in a row is seen to stop at the end of the text. -/
def isRowAtEnd : List Expr → Bool
  | [] => false
  | e :: es => isRowAtEnd es || (areEmptyOnly es && e.isAtEnd)

/-- Whether every match of each of the expressions is seen to stop at the end of the text. -/
def areAtEnd : List Expr → Bool
  | [] => true
  | e :: es => e.isAtEnd && areAtEnd es

end

mutual

/-- Whether two expressions have the same form. A group that is remembered is like no other. -/
def Expr.hasFormOf : Expr → Expr → Bool
  | .empty, .empty => true
  | .literal a, .literal b => a == b
  | .set s, .set t => s == t
  | .look l, .look k => l == k
  | .repetition least most greedy a, .repetition least' most' greedy' b =>
    least == least' && most == most' && greedy == greedy' && a.hasFormOf b
  | .sequence as, .sequence bs => haveFormsOf as bs
  | .alternation as, .alternation bs => haveFormsOf as bs
  | _, _ => false

/-- Whether expressions have the same forms, one by one. -/
def haveFormsOf : List Expr → List Expr → Bool
  | [], [] => true
  | a :: as, b :: bs => a.hasFormOf b && haveFormsOf as bs
  | _, _ => false

end

namespace Expr

/-! ## The reduced form -/

/-- A set of characters; one character alone is a text. -/
def ofSet (s : CharSet) : Expr :=
  match s.only? with
  | some c => .literal [c]
  | none => .set s

/-- A repetition. More than one round of nothing is as good as one, and a repetition of no or of exactly
one round is none. -/
def rounds (least : Nat) (most : Option Nat) (greedy : Bool) (body : Expr) : Expr :=
  let (least, most) :=
    if body.isEmptyOnly then (min least 1, some (min (most.getD 1) 1)) else (least, most)
  if most = some 0 then .empty
  else if least = 1 ∧ most = some 1 then body
  else .repetition least most greedy body

/-- Joins texts that follow each other. -/
def joinLiterals : List Expr → List Expr
  | [] => []
  | e :: es =>
    match e, joinLiterals es with
    | .literal cs, .literal ds :: rest => .literal (cs ++ ds) :: rest
    | e, rest => e :: rest

/-- The parts an expression brings to a row. -/
def partsOf : Expr → List Expr
  | .sequence parts => parts
  | .empty => []
  | e => [e]

/-- Expressions in a row. -/
def inRow (parts : List Expr) : Expr :=
  match joinLiterals (parts.flatMap partsOf) with
  | [] => .empty
  | [e] => e
  | parts => .sequence parts

/-- The branches an expression brings to a choice. -/
def branchesOf : Expr → List Expr
  | .alternation branches => branches
  | e => [e]

/-- The set of characters that an expression is, if it is a text of one character. -/
def onlyChar? : Expr → Option CharSet
  | .literal [c] => some (.single c)
  | _ => none

/-- The set of characters that an expression is. -/
def set? : Expr → Option CharSet
  | .set s => some s
  | _ => none

/-- The parts of a row; an expression of another form has none. -/
def rowParts : Expr → List Expr
  | .sequence parts => parts
  | _ => []

/-- How many expressions two rows have in common at their heads. -/
def commonLength : List Expr → List Expr → Nat
  | a :: as, b :: bs => if a.hasFormOf b then commonLength as bs + 1 else 0
  | _, _ => 0

/-- How many parts all the branches have in common at their heads. -/
def commonHead : List Expr → Nat
  | [] => 0
  | e :: es =>
    es.foldl (fun n branch => min n (commonLength e.rowParts branch.rowParts)) e.rowParts.length

/-- A choice of expressions: one set if all are single characters or all are sets. `otherwise` makes
a choice of at least two branches that are not. -/
def choose (otherwise : List Expr → Expr) (branches : List Expr) : Expr :=
  let merge (sets : List CharSet) : Expr := ofSet (.ofRanges (sets.flatMap (·.ranges)))
  match branches.flatMap branchesOf with
  | [] => .set .empty
  | [e] => e
  | branches =>
    match (branches.mapM onlyChar?).or (branches.mapM set?) with
    | some sets => merge sets
    | none => otherwise branches

/-- A choice of expressions. What all branches begin with is taken out of the choice. What is left has
nothing in common any more, so this is done once. -/
def oneOf (branches : List Expr) : Expr :=
  choose (fun branches =>
    match commonHead branches with
    | 0 => .alternation branches
    | n =>
      let head := branches.head?.elim [] fun branch => branch.rowParts.take n
      let rests := branches.map fun branch => inRow (branch.rowParts.drop n)
      inRow (head ++ [choose .alternation rests]))
    branches

end Expr

end ScriptLiterals.Pattern
