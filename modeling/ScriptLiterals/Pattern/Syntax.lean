/-!
# The form of a pattern

A pattern is read into a `Node`, and the contents of its bracketed classes into `ClassItem`s. Nothing
is decided here about what they match: modes such as case folding are set inside the pattern and take
effect when it gets its meaning (`ScriptLiterals.Pattern.Meaning`).
-/

set_option autoImplicit false

namespace ScriptLiterals.Pattern

/-- A mode that a pattern can turn on and off. -/
inductive Flag where
  | ignoreCase
  | multiLine
  | dotAll
  | swapGreed
  | unicode
  | crlf
  | verbose
  deriving DecidableEq, Repr

/-- Turns a mode on or off. -/
structure FlagChange where
  flag : Flag
  on : Bool
  deriving DecidableEq, Repr

/-- A character that stands for itself. A character written `\xHH` may also stand for a byte. -/
structure Literal where
  char : Char
  isByteEscape : Bool
  deriving DecidableEq, Repr

/-- The sets that have a letter of their own: `\d`, `\s`, `\w`. -/
inductive Shorthand where
  | digit
  | space
  | word
  deriving DecidableEq, Repr

/-- The sets of ASCII characters that a bracketed class can name: `[:alpha:]`. -/
inductive AsciiClass where
  | alnum
  | alpha
  | ascii
  | blank
  | cntrl
  | digit
  | graph
  | lower
  | print
  | punct
  | space
  | upper
  | word
  | xdigit
  deriving DecidableEq, Repr

/-- A set of characters named by a property: by its name alone, by a value it has (`name=value`), or
by a value it does not have (`name!=value`). -/
inductive PropertyName where
  | alone (name : List Char)
  | equal (name value : List Char)
  | unequal (name value : List Char)
  deriving DecidableEq, Repr

/-- How two sets in a bracketed class are combined. -/
inductive SetOp where
  | intersection
  | difference
  | symmetricDifference
  deriving DecidableEq, Repr

/-- What a bracketed class holds. -/
inductive ClassItem where
  | literal (l : Literal)
  | range (low high : Literal)
  | ascii (name : AsciiClass) (negated : Bool)
  | shorthand (name : Shorthand) (negated : Bool)
  | property (name : PropertyName) (negated : Bool)
  | bracket (negated : Bool) (items : ClassItem)
  | union (items : List ClassItem)
  | combine (op : SetOp) (left right : ClassItem)
  deriving Repr

/-- A condition on the place between two characters that has to do with words. -/
inductive WordEdge where
  | boundary
  | notBoundary
  | start
  | stop
  | startHalf
  | stopHalf
  deriving DecidableEq, Repr

/-- A condition on the place between two characters. -/
inductive Assertion where
  | startOfLine
  | endOfLine
  | startOfText
  | endOfText
  | word (edge : WordEdge)
  deriving DecidableEq, Repr

/-- A pattern. A repetition is greedy if it prefers many rounds to few; a group may be one whose match
is remembered, or one that only sets modes. -/
inductive Node where
  | empty
  | setFlags (changes : List FlagChange)
  | literal (l : Literal)
  | anyChar
  | assertion (a : Assertion)
  | shorthand (name : Shorthand) (negated : Bool)
  | property (name : PropertyName) (negated : Bool)
  | bracket (negated : Bool) (items : ClassItem)
  | repetition (least : Nat) (most : Option Nat) (greedy : Bool) (body : Node)
  | capture (body : Node)
  | group (changes : List FlagChange) (body : Node)
  | sequence (parts : List Node)
  | alternation (branches : List Node)
  deriving Repr

/-! ## Depth

Patterns may be nested only so deep. Everything that holds other parts counts as one level. -/

mutual

/-- How many levels a class has below its brackets. -/
def ClassItem.depth : ClassItem → Nat
  | .bracket _ items => items.depth + 1
  | .union [] => 0
  | .union items => depthOfItems items + 1
  | .combine _ left right => max left.depth right.depth + 1
  | _ => 0

/-- The greatest depth of the items. -/
def depthOfItems : List ClassItem → Nat
  | [] => 0
  | item :: items => max item.depth (depthOfItems items)

end

mutual

/-- How many levels a pattern has. -/
def Node.depth : Node → Nat
  | .bracket _ items => items.depth + 1
  | .repetition _ _ _ body => body.depth + 1
  | .capture body => body.depth + 1
  | .group _ body => body.depth + 1
  | .sequence parts => depthOfNodes parts + 1
  | .alternation branches => depthOfNodes branches + 1
  | _ => 0

/-- The greatest depth of the nodes. -/
def depthOfNodes : List Node → Nat
  | [] => 0
  | node :: nodes => max node.depth (depthOfNodes nodes)

end

/-- The greatest depth a pattern may have. -/
def depthLimit : Nat := 250

/-- Parts of a class in a row; a part that is alone is the whole. -/
def ClassItem.ofList : List ClassItem → ClassItem
  | [item] => item
  | items => .union items

/-- Parts of a pattern in a row; a part that is alone is the whole. -/
def Node.ofParts : List Node → Node
  | [] => .empty
  | [node] => node
  | nodes => .sequence nodes

/-- Branches of a pattern; a branch that is alone is the whole. -/
def Node.ofBranches : List Node → Node
  | [node] => node
  | nodes => .alternation nodes

end ScriptLiterals.Pattern
