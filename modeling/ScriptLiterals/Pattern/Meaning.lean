import ScriptLiterals.Pattern.Automaton
import ScriptLiterals.Pattern.Reader
import ScriptLiterals.ScanError
import ScriptLiterals.Unicode.Property

/-!
# From the form of a pattern to its meaning

`compile` reads a pattern and resolves its modes. A mode that is set inside a group holds up to the
end of that group, also in the branches that follow.

Text is always made of whole characters. With the Unicode mode off a pattern speaks of bytes instead,
and then only of those that are ASCII characters: whatever could match part of a character has no
meaning.
-/

set_option autoImplicit false

namespace ScriptLiterals.Pattern

open Unicode

/-- The modes a pattern is in at some place. -/
structure Modes where
  ignoreCase : Bool := false
  multiLine : Bool := false
  dotAll : Bool := false
  swapGreed : Bool := false
  unicode : Bool := true
  crlf : Bool := false
  deriving DecidableEq, Repr

namespace Modes

/-- The modes after one change. Whether blanks count has been seen to by the reader. -/
def apply (m : Modes) (change : FlagChange) : Modes :=
  match change.flag with
  | .ignoreCase => { m with ignoreCase := change.on }
  | .multiLine => { m with multiLine := change.on }
  | .dotAll => { m with dotAll := change.on }
  | .unicode => { m with unicode := change.on }
  | .swapGreed => { m with swapGreed := change.on }
  | .crlf => { m with crlf := change.on }
  | .verbose => m

/-- The modes after some changes. -/
def applyAll (m : Modes) (changes : List FlagChange) : Modes := changes.foldl apply m

/-- The line breaks that end a line. -/
def lineBreaks (m : Modes) : LineBreaks := if m.crlf then .carriageReturnLineFeed else .lineFeed

/-- The set closed under case folding, if case is ignored. -/
def fold (m : Modes) (s : CharSet) : CharSet :=
  if m.ignoreCase then if m.unicode then s.foldCase else s.foldAscii else s

/-- The set or its complement, case folded first. The complement of a set of bytes has bytes that are
no characters. -/
def foldNegate? (m : Modes) (negated : Bool) (s : CharSet) : Option CharSet :=
  if negated then if m.unicode then some (m.fold s).compl else none
  else some (m.fold s)

end Modes

/-! ## Sets -/

/-- The ranges of the named sets of ASCII characters. -/
def AsciiClass.ranges : AsciiClass → List (Nat × Nat)
  | .alnum => [(0x30, 0x39), (0x41, 0x5a), (0x61, 0x7a)]
  | .alpha => [(0x41, 0x5a), (0x61, 0x7a)]
  | .ascii => [(0x00, 0x7f)]
  | .blank => [(0x09, 0x09), (0x20, 0x20)]
  | .cntrl => [(0x00, 0x1f), (0x7f, 0x7f)]
  | .digit => [(0x30, 0x39)]
  | .graph => [(0x21, 0x7e)]
  | .lower => [(0x61, 0x7a)]
  | .print => [(0x20, 0x7e)]
  | .punct => [(0x21, 0x2f), (0x3a, 0x40), (0x5b, 0x60), (0x7b, 0x7e)]
  | .space => [(0x09, 0x0d), (0x20, 0x20)]
  | .upper => [(0x41, 0x5a)]
  | .word => [(0x30, 0x39), (0x41, 0x5a), (0x5f, 0x5f), (0x61, 0x7a)]
  | .xdigit => [(0x30, 0x39), (0x41, 0x46), (0x61, 0x66)]

/-- A named set of ASCII characters. -/
def AsciiClass.set (name : AsciiClass) : CharSet := ⟨name.ranges⟩

/-- The set of a shorthand, over all scripts or over ASCII. -/
def Shorthand.set (unicode : Bool) : Shorthand → CharSet
  | .digit => if unicode then digitSet else AsciiClass.digit.set
  | .space => if unicode then spaceSet else AsciiClass.space.set
  | .word => if unicode then wordSet else AsciiClass.word.set

/-- The set of a shorthand or its complement. Case needs no folding: these sets have all case variants
of their members. -/
def shorthandSet? (m : Modes) (name : Shorthand) (negated : Bool) : Option CharSet :=
  if negated then if m.unicode then some (name.set true).compl else none
  else some (name.set m.unicode)

/-- The set a property names. It takes the Unicode mode, and it takes a property that exists. The
characters that do not have a value are those left when the ones that have it are taken out, so that
`\P{name!=value}` is `\p{name=value}` again. -/
def propertySet? (m : Modes) (name : PropertyName) (negated : Bool) : Option CharSet :=
  if m.unicode then
    match name with
    | .alone name => (byName name).bind (m.foldNegate? negated)
    | .equal name value => (byValue name value).bind (m.foldNegate? negated)
    | .unequal name value => (byValue name value).bind (m.foldNegate? !negated)
  else none

/-- The code point of a literal in a class, where with the Unicode mode off it has to be ASCII. -/
def classCode? (m : Modes) (l : Literal) : Option Nat :=
  if m.unicode || l.char.toNat < 0x80 then some l.char.toNat else none

mutual

/-- The set of characters that the contents of a class stand for. -/
def ClassItem.set? (m : Modes) : ClassItem → Option CharSet
  | .literal l => (classCode? m l).map fun n => ⟨[(n, n)]⟩
  | .range low high => do return ⟨[(← classCode? m low, ← classCode? m high)]⟩
  | .ascii name negated => m.foldNegate? negated name.set
  | .shorthand name negated => shorthandSet? m name negated
  | .property name negated => propertySet? m name negated
  | .bracket negated items => do m.foldNegate? negated (← items.set? m)
  | .union items => (rangesOfItems? m items).map .ofRanges
  | .combine op left right => do
    let left := m.fold (← left.set? m)
    let right := m.fold (← right.set? m)
    match op with
    | .intersection => return left.inter right
    | .difference => return left.diff right
    | .symmetricDifference => return left.symmDiff right

/-- The ranges of the sets of all items. -/
def rangesOfItems? (m : Modes) : List ClassItem → Option (List (Nat × Nat))
  | [] => some []
  | item :: items => do return (← item.set? m).ranges ++ (← rangesOfItems? m items)

end

/-! ## Expressions -/

/-- The expression of a character that stands for itself, or for all its variants if case is ignored.
Where it stands for a byte, that has to be ASCII. -/
def literalMeaning? (m : Modes) (l : Literal) : Option Expr :=
  if !m.unicode && l.isByteEscape && 0x80 ≤ l.char.toNat then none
  else if m.ignoreCase then some (.ofSet (m.fold (.single l.char)))
  else some (.literal [l.char])

/-- The set of characters the dot matches. -/
def dotSet? (m : Modes) : Option CharSet :=
  if !m.unicode then none
  else if m.dotAll then some .all
  else if m.crlf then some ((CharSet.single '\n').union (.single '\r')).compl
  else some (CharSet.single '\n').compl

/-- The condition an assertion stands for. -/
def Assertion.look (m : Modes) : Assertion → Look
  | .startOfLine => if m.multiLine then .startOfLine m.lineBreaks else .startOfText
  | .endOfLine => if m.multiLine then .endOfLine m.lineBreaks else .endOfText
  | .startOfText => .startOfText
  | .endOfText => .endOfText
  | .word edge => .word edge !m.unicode

mutual

/-- The meaning of a pattern in the given modes, and the modes that hold behind it. -/
def Node.meaning? (m : Modes) : Node → Option (Expr × Modes)
  | .empty => some (.empty, m)
  | .setFlags changes => some (.empty, m.applyAll changes)
  | .literal l => (literalMeaning? m l).map fun e => (e, m)
  | .anyChar => (dotSet? m).map fun s => (.ofSet s, m)
  | .assertion a => some (.look (a.look m), m)
  | .shorthand name negated => (shorthandSet? m name negated).map fun s => (.ofSet s, m)
  | .property name negated => (propertySet? m name negated).map fun s => (.ofSet s, m)
  | .bracket negated items => do
    return (.ofSet (← m.foldNegate? negated (← items.set? m)), m)
  | .repetition least most greedy body => do
    let (e, m) ← body.meaning? m
    return (.rounds least most (greedy != m.swapGreed) e, m)
  | .capture body => do
    let (e, _) ← body.meaning? m
    return (.capture e, m)
  | .group changes body => do
    let (e, _) ← body.meaning? (m.applyAll changes)
    return (e, m)
  | .sequence parts => do
    let (es, m) ← meanings? m parts
    return (.inRow es, m)
  | .alternation branches => do
    let (es, m) ← meanings? m branches
    return (.oneOf es, m)

/-- The meanings of patterns that follow each other, each in the modes that hold behind the one
before. -/
def meanings? (m : Modes) : List Node → Option (List Expr × Modes)
  | [] => some ([], m)
  | node :: nodes => do
    let (e, m) ← node.meaning? m
    let (es, m) ← meanings? m nodes
    return (e :: es, m)

end

/-- The meaning of the pattern written as `source`, read in the given modes. -/
def compile (m : Modes) (source : List Char) : Except PatternFault Expr :=
  match (parse? source).bind (·.meaning? m) with
  | none => .error .malformed
  | some (e, _) => if e.fits then .ok e else .error .oversized

end ScriptLiterals.Pattern
