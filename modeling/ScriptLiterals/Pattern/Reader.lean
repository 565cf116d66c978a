import ScriptLiterals.Cursor
import ScriptLiterals.Number.Radix
import ScriptLiterals.Pattern.Syntax
import ScriptLiterals.Unicode.Property

/-!
# Reading a pattern

`parse?` reads a pattern, or finds that it is not well formed. The reader works by descent: branches
hold parts in a row, a part is an atom with repetitions behind it, and an atom may be a group of
branches again. Every call takes at least one character before it calls itself anew, so a bound on
the depth of the descent follows from the length of the pattern; `parse?` computes it.

Inside a pattern the mode `x` makes blanks and comments count for nothing. `skipIgnored` passes them,
and it is called exactly where they are allowed.
-/

set_option autoImplicit false

namespace ScriptLiterals.Pattern

open Text

/-! ## The state of the reader -/

/-- Where the reader is, whether blanks and comments are ignored there, and the names that groups
have been given so far. -/
structure ReaderState where
  cursor : Cursor
  verbose : Bool
  names : List (List Char)

/-- A step of the reader: it moves on, or finds the pattern not well formed. -/
abbrev Reader := StateT ReaderState Option

namespace Reader

/-- The pattern is not well formed. -/
def fail {α : Type} : Reader α := fun _ => none

/-- Fails unless the condition holds. -/
def require (condition : Bool) : Reader Unit := if condition then pure () else fail

/-- The next character, if there is one. -/
def peek : Reader (Option Char) := do
  return (← get).cursor.peek

/-- The character after the next one, if there is one. -/
def peekNext : Reader (Option Char) := do
  return (← get).cursor.peekNext

/-- The next character. There has to be one. -/
def current : Reader Char := do
  match ← peek with
  | some c => return c
  | none => fail

/-- Moves past the next character. -/
def bump : Reader Unit :=
  modify fun st => match st.cursor.advance with
    | some (_, cursor) => { st with cursor }
    | none => st

/-- Moves past `word` if the pattern goes on with it. -/
def eatWord (word : List Char) : Reader Bool := do
  let st ← get
  match st.cursor.eatWord word with
  | some cursor => set { st with cursor }; return true
  | none => return false

/-- Moves past `c` if it is the next character. -/
def eat (c : Char) : Reader Bool := eatWord [c]

/-- How many characters at the head of a text are blanks and comments. A comment starts with `#` and
ends with its line. -/
def ignoredLength (inComment : Bool) : List Char → Nat
  | [] => 0
  | c :: cs =>
    if inComment then ignoredLength (c != '\n') cs + 1
    else if isBlank c then ignoredLength false cs + 1
    else if c = '#' then ignoredLength true cs + 1
    else 0

/-- Moves past blanks and comments where they are ignored. -/
def skipIgnored : Reader Unit :=
  modify fun st =>
    if st.verbose then
      let n := ignoredLength false st.cursor.rest
      { st with
        cursor := ⟨(st.cursor.rest.take n).reverse ++ st.cursor.behind, st.cursor.rest.drop n⟩ }
    else st

/-- Moves past the next character and what is ignored behind it. -/
def bumpOver : Reader Unit := do
  bump
  skipIgnored

/-- Moves on as `bumpOver` does, to a character that has to be there. -/
def bumpTo : Reader Char := do
  bumpOver
  current

/-- Moves past the characters with the property `p` and gives them back. -/
def takeWhile (p : Char → Bool) : Reader (List Char) := do
  let st ← get
  let cursor := st.cursor.skipWhile p
  set { st with cursor }
  return cursor.since st.cursor

/-- The character behind the next one, blanks aside. Where comments are ignored the mark of one is
passed too, but not its text. -/
def peekOver : Reader (Option Char) := do
  let st ← get
  let behind := st.cursor.rest.tail
  if !st.verbose then return behind.head?
  match skipBlank behind with
  | '#' :: rest => return (skipBlank rest).head?
  | rest => return rest.head?

/-- Reads on as long as `more` of the next character gives something, each character followed by what
is ignored behind it. The bound is the number of characters left. -/
def collect {α : Type} (more : Char → Option α) : Nat → Reader (List α)
  | 0 => return []
  | bound + 1 => do
    match (← peek).bind more with
    | none => return []
    | some a =>
      bumpOver
      return a :: (← collect more bound)

/-- `collect` to the end of the run. -/
def collectAll {α : Type} (more : Char → Option α) : Reader (List α) := do
  collect more (← get).cursor.rest.length

end Reader

open Reader

/-! ## Escapes -/

/-- The characters that have a meaning of their own in some place. -/
def isMeta (c : Char) : Bool := "\\.+*?()|[]\x7b\x7d^$#&-~".toList.contains c

/-- Whether a backslash before `c` makes `c` stand for itself: punctuation, blanks and controls of
ASCII, except for the two angle brackets. -/
def isEscapable (c : Char) : Bool :=
  isMeta c || (c.toNat < 0x80 && !c.isAlphanum && c != '<' && c != '>')

/-- An atom that is not a group. -/
inductive Atom where
  | literal (l : Literal)
  | anyChar
  | assertion (a : Assertion)
  | shorthand (name : Shorthand) (negated : Bool)
  | property (name : PropertyName) (negated : Bool)

/-- The atom as a pattern. -/
def Atom.toNode : Atom → Node
  | .literal l => .literal l
  | .anyChar => .anyChar
  | .assertion a => .assertion a
  | .shorthand name negated => .shorthand name negated
  | .property name negated => .property name negated

/-- The atom as a member of a class; assertions and the dot are none. -/
def Atom.toItem? : Atom → Option ClassItem
  | .literal l => some (.literal l)
  | .shorthand name negated => some (.shorthand name negated)
  | .property name negated => some (.property name negated)
  | .anyChar | .assertion _ => none

/-- The character with the code point that hexadecimal digits denote. -/
def charOfDigits? (digits : List Char) : Option Char := do
  let n ← Radix.hexadecimal.readDigits? digits
  if h : n.isValidChar then some (Char.ofNatAux n h) else none

/-- Lifts a value that may be missing. -/
def liftOption {α : Type} : Option α → Reader α
  | some a => return a
  | none => fail

/-- A hexadecimal digit as `collect` wants it. -/
def hexDigit? (c : Char) : Option Char := if Radix.hexadecimal.isDigit c then some c else none

/-- Exactly `count` hexadecimal digits, the first of them next. -/
def fixedHexDigits : Nat → Reader (List Char)
  | 0 => return []
  | count + 1 => do
    let c ← current
    require (Radix.hexadecimal.isDigit c)
    bumpOver
    return c :: (← fixedHexDigits count)

/-- A character by its code point: `\x41`, `\u0041`, `\U00000041`, or each with braces. The letter is
next. -/
def hexEscape (count : Nat) : Reader Literal := do
  if (← bumpTo) == '\x7b' then
    bumpOver
    let digits ← collectAll hexDigit?
    require ((← current) == '\x7d')
    bumpOver
    return ⟨← liftOption (charOfDigits? digits), false⟩
  else
    let digits ← fixedHexDigits count
    return ⟨← liftOption (charOfDigits? digits), count == 2⟩

/-- Cuts a property in braces at `!=`, else at its first `:`, else at its first `=`. -/
def splitProperty (text : List Char) : PropertyName :=
  let cutAt (mark : List Char) (named : List Char → List Char → PropertyName) :
      Option PropertyName :=
    ((List.range text.length).find? fun i => mark.isPrefixOf (text.drop i)).map fun i =>
      named (text.take i) (text.drop (i + mark.length))
  (((cutAt ['!', '='] .unequal).or (cutAt [':'] .equal)).or (cutAt ['='] .equal)).getD
    (.alone text)

/-- A set named by a property: one letter, or a name in braces. The letter `p` or `P` is next. -/
def propertyEscape (negated : Bool) : Reader Atom := do
  let c ← bumpTo
  if c == '\x7b' then
    bumpOver
    let name ← collectAll fun c => if c == '\x7d' then none else some c
    require (← eat '\x7d')
    return .property (splitProperty name) negated
  else
    require (c != '\\')
    bumpOver
    return .property (.alone [c]) negated

/-- The word edges that `\b` with a name in braces stands for. -/
def wordEdge? (name : List Char) : Option WordEdge :=
  if name = "start".toList then some .start
  else if name = "end".toList then some .stop
  else if name = "start-half".toList then some .startHalf
  else if name = "end-half".toList then some .stopHalf
  else none

/-- Whether `c` can stand in the name of a word edge. -/
def isEdgeNameChar (c : Char) : Bool := c.isAlpha || c == '-'

/-- What follows `\b`: a name in braces, if braces follow and hold a name; otherwise the braces are
left to be read as a repetition. -/
def wordBoundary : Reader WordEdge := do
  if (← peek) != some '\x7b' then return .boundary
  let before ← get
  if isEdgeNameChar (← bumpTo) then
    let name ← collectAll fun c => if isEdgeNameChar c then some c else none
    require (← eat '\x7d')
    liftOption (wordEdge? name)
  else
    set before
    return .boundary

/-- The character that a single letter behind a backslash stands for. -/
def controlLetter? (c : Char) : Option Char :=
  if c = 'a' then some '\x07'
  else if c = 'f' then some '\x0c'
  else if c = 't' then some '\t'
  else if c = 'n' then some '\n'
  else if c = 'r' then some '\r'
  else if c = 'v' then some '\x0b'
  else none

/-- The set that a single letter behind a backslash stands for, and whether it is negated. -/
def shorthandLetter? (c : Char) : Option (Shorthand × Bool) :=
  if c = 'd' then some (.digit, false)
  else if c = 'D' then some (.digit, true)
  else if c = 's' then some (.space, false)
  else if c = 'S' then some (.space, true)
  else if c = 'w' then some (.word, false)
  else if c = 'W' then some (.word, true)
  else none

/-- What a backslash and the character behind it stand for. The backslash is next. -/
def escape : Reader Atom := do
  bump
  let c ← current
  if c == 'x' then return .literal (← hexEscape 2)
  if c == 'u' then return .literal (← hexEscape 4)
  if c == 'U' then return .literal (← hexEscape 8)
  if c == 'p' then return ← propertyEscape false
  if c == 'P' then return ← propertyEscape true
  bump
  if isEscapable c then return .literal ⟨c, false⟩
  if let some control := controlLetter? c then return .literal ⟨control, false⟩
  if let some (name, negated) := shorthandLetter? c then return .shorthand name negated
  if c == 'A' then return .assertion .startOfText
  if c == 'z' then return .assertion .endOfText
  if c == 'b' then return .assertion (.word (← wordBoundary))
  if c == 'B' then return .assertion (.word .notBoundary)
  if c == '<' then return .assertion (.word .start)
  if c == '>' then return .assertion (.word .stop)
  fail

/-- An atom of one character or one escape. -/
def atom : Reader Atom := do
  let c ← current
  if c == '\\' then escape
  else
    bump
    if c == '.' then return .anyChar
    if c == '^' then return .assertion .startOfLine
    if c == '$' then return .assertion .endOfLine
    return .literal ⟨c, false⟩

/-! ## Bracketed classes -/

/-- The set of ASCII characters with the given name. -/
def asciiClass? (name : List Char) : Option AsciiClass :=
  let names : List (String × AsciiClass) :=
    [("alnum", .alnum), ("alpha", .alpha), ("ascii", .ascii), ("blank", .blank),
     ("cntrl", .cntrl), ("digit", .digit), ("graph", .graph), ("lower", .lower),
     ("print", .print), ("punct", .punct), ("space", .space), ("upper", .upper),
     ("word", .word), ("xdigit", .xdigit)]
  (names.find? fun entry => entry.1.toList == name).map (·.2)

/-- A named set such as `[:alpha:]` or `[:^alpha:]`, if that is what the next bracket opens. -/
def asciiItem? : Reader (Option ClassItem) := do
  let before ← get
  let found ← do
    if ← eatWord ['[', ':'] then
      let negated ← eat '^'
      let name ← takeWhile (· != ':')
      if ← eatWord [':', ']'] then
        pure ((asciiClass? name).map fun k => .ascii k negated)
      else pure none
    else pure none
  if found.isNone then set before
  return found

/-- A single member of a class: an escape or a character that stands for itself. -/
def classMember : Reader Atom := do
  let c ← current
  if c == '\\' then escape
  else
    bump
    return .literal ⟨c, false⟩

/-- A member of a class, or a range from one literal to another. A `-` that ends the class or begins
an operator makes no range. -/
def classRange : Reader ClassItem := do
  let first ← classMember
  skipIgnored
  let c ← current
  let behind ← peekOver
  if c != '-' || behind == some ']' || behind == some '-' then
    liftOption first.toItem?
  else
    discard bumpTo
    let second ← classMember
    match first, second with
    | .literal low, .literal high =>
      require (low.char ≤ high.char)
      return .range low high
    | _, _ => fail

/-- The operator between two sets that is next, if there is one. -/
def setOp? : Reader (Option SetOp) := do
  if ← eatWord ['&', '&'] then return some .intersection
  if ← eatWord ['-', '-'] then return some .difference
  if ← eatWord ['~', '~'] then return some .symmetricDifference
  return none

/-- What the operators read so far make of the items behind the last of them. -/
def combineWith (left : Option (SetOp × ClassItem)) (items : List ClassItem) : ClassItem :=
  match left with
  | none => .ofList items.reverse
  | some (op, left) => .combine op left (.ofList items.reverse)

/-- The marks at the head of a class that stand for themselves: any number of `-`, or one `]`. The
bound is the number of characters left. -/
def leadingMarks : Nat → Reader (List ClassItem)
  | 0 => fail
  | bound + 1 => do
    if (← current) == '-' then
      discard bumpTo
      return .literal ⟨'-', false⟩ :: (← leadingMarks bound)
    else return []

mutual

/-- A class in brackets, the opening one next: its items, and whether it is negated. -/
def bracket : Nat → Reader (Bool × ClassItem)
  | 0 => fail
  | bound + 1 => do
    let c ← bumpTo
    let negated := c == '^'
    if negated then discard bumpTo
    let dashes ← leadingMarks (← get).cursor.rest.length
    if dashes.isEmpty && (← current) == ']' then
      discard bumpTo
      return (negated, ← classBody bound none [.literal ⟨']', false⟩])
    else return (negated, ← classBody bound none dashes.reverse)

/-- The rest of a class up to its closing bracket. `left` is what stands before the last operator,
`items` what has been read behind it, latest first. -/
def classBody : Nat → Option (SetOp × ClassItem) → List ClassItem → Reader ClassItem
  | 0, _, _ => fail
  | bound + 1, left, items => do
    skipIgnored
    let c ← current
    if c == '[' then
      match ← asciiItem? with
      | some item => classBody bound left (item :: items)
      | none =>
        let (negated, inner) ← bracket bound
        classBody bound left (.bracket negated inner :: items)
    else if c == ']' then
      bump
      return combineWith left items
    else match ← setOp? with
      | some op => classBody bound (some (op, combineWith left items)) []
      | none => classBody bound left ((← classRange) :: items)

end

/-! ## Groups and repetitions -/

/-- The mode that a letter stands for. -/
def flag? (c : Char) : Option Flag :=
  if c = 'i' then some .ignoreCase
  else if c = 'm' then some .multiLine
  else if c = 's' then some .dotAll
  else if c = 'U' then some .swapGreed
  else if c = 'u' then some .unicode
  else if c = 'R' then some .crlf
  else if c = 'x' then some .verbose
  else none

/-- The modes up to `:` or `)`: letters, each at most once, and at most one `-`, which does not come
last. The letters behind it are turned off. -/
def flagChanges : Nat → Bool → List FlagChange → Reader (List FlagChange)
  | 0, _, _ => fail
  | bound + 1, negated, changes => do
    let c ← current
    if c == ':' || c == ')' then return changes.reverse
    bump
    if c == '-' then
      let next ← current
      require (!negated && next != ':' && next != ')')
      flagChanges bound true changes
    else
      let flag ← liftOption (flag? c)
      require (!changes.any fun change => change.flag == flag)
      flagChanges bound negated (⟨flag, !negated⟩ :: changes)

/-- Whether blanks and comments are ignored after the changes. -/
def verboseAfter (changes : List FlagChange) (before : Bool) : Bool :=
  (changes.find? fun change => change.flag == .verbose).elim before (·.on)

/-- Whether `c` may stand in the name of a group. -/
def isNameChar (first : Bool) (c : Char) : Bool :=
  if first then c == '_' || Unicode.isAlphabetic c
  else ['_', '.', '[', ']'].contains c || Unicode.isAlphanumeric c

/-- The name of a group up to `>`. No two groups have one name. -/
def groupName : Reader Unit := do
  let name ← takeWhile (· != '>')
  require (← eat '>')
  match name with
  | [] => fail
  | c :: cs =>
    require (isNameChar true c && cs.all (isNameChar false))
    let st ← get
    require (!st.names.contains name)
    set { st with names := name :: st.names }

/-- What the opening parenthesis of a group is followed by. -/
inductive GroupHead where
  /-- Modes for the rest of the group around it. -/
  | flags (changes : List FlagChange)
  /-- A group whose match is remembered. -/
  | capture
  /-- A group, and the modes inside it. -/
  | group (changes : List FlagChange)

/-- The group with the given head, if the head opens one. -/
def GroupHead.toNode (body : Node) : GroupHead → Node
  | .flags changes => .setFlags changes
  | .capture => .capture body
  | .group changes => .group changes body

/-- The modes a head sets. -/
def GroupHead.changes : GroupHead → List FlagChange
  | .flags changes | .group changes => changes
  | .capture => []

/-- The head of a group, its parenthesis next. Looking ahead or behind is not supported. -/
def groupHead : Reader GroupHead := do
  bump
  skipIgnored
  for look in [['?', '='], ['?', '!'], ['?', '<', '='], ['?', '<', '!']] do
    if ← eatWord look then fail
  if ← eatWord ['?', 'P', '<'] then groupName; return .capture
  if ← eatWord ['?', '<'] then groupName; return .capture
  if ← eat '?' then
    let changes ← flagChanges ((← get).cursor.rest.length + 1) false []
    if ← eat ')' then
      require (!changes.isEmpty)
      return .flags changes
    else
      bump
      return .group changes
  return .capture

/-- The first natural number that does not fit 32 bits. -/
def countLimit : Nat := 0x100000000

/-- A decimal number with blanks around it; it has to fit 32 bits. -/
def repetitionCount? : Reader (Option Nat) := do
  discard (takeWhile isBlank)
  let digits ← collectAll fun c => if c.isDigit then some c else none
  discard (collectAll fun c => if isBlank c then some () else none)
  if digits.isEmpty then return none
  let n := Radix.decimal.valueOf digits
  require (n < countLimit)
  return some n

/-- The bounds of a counted repetition, its brace next. -/
def repetitionBounds : Reader (Nat × Option Nat) := do
  discard bumpTo
  let least? ← repetitionCount?
  let least ← liftOption least?
  let bounds ← do
    if (← current) == ',' then
      if (← bumpTo) == '\x7d' then pure (least, none)
      else
        let most ← liftOption (← repetitionCount?)
        require (least ≤ most)
        pure (least, some most)
    else pure (least, some least)
  require ((← current) == '\x7d')
  bumpOver
  return bounds

/-- Whether a repetition may follow: it needs something to repeat. -/
def isRepeatable : Node → Bool
  | .empty | .setFlags _ => false
  | _ => true

/-- The bounds of the repetition that is next, if one is. -/
def bounds? : Reader (Option (Nat × Option Nat)) := do
  match ← peek with
  | some '?' => bump; return some (0, some 1)
  | some '*' => bump; return some (0, none)
  | some '+' => bump; return some (1, none)
  | some '\x7b' => return some (← repetitionBounds)
  | _ => return none

/-- The repetition of `body` that is next, if one is. A `?` behind it makes it prefer few rounds. -/
def repetition? : Reader (Option (Node → Node)) := do
  match ← bounds? with
  | none => return none
  | some (least, most) =>
    let lazy ← eat '?'
    return some fun body => .repetition least most (!lazy) body

mutual

/-- Branches up to the end of the pattern or of the group; `branches` are those read before, latest
first. -/
def alternatives : Nat → List Node → Reader Node
  | 0, _ => fail
  | bound + 1, branches => do
    let branch ← sequence bound []
    if ← eat '|' then alternatives bound (branch :: branches)
    else return .ofBranches (branch :: branches).reverse

/-- Parts in a row up to `|`, `)` or the end; `parts` are those read before, latest first. -/
def sequence : Nat → List Node → Reader Node
  | 0, _ => fail
  | bound + 1, parts => do
    skipIgnored
    match ← peek with
    | none | some '|' | some ')' => return .ofParts parts.reverse
    | some '(' =>
      let outer := (← get).verbose
      let head ← groupHead
      modify fun st => { st with verbose := verboseAfter head.changes outer }
      match head with
      | .flags changes => sequence bound (.setFlags changes :: parts)
      | .capture | .group _ =>
        let body ← alternatives bound []
        require (← eat ')')
        modify fun st => { st with verbose := outer }
        sequence bound (head.toNode body :: parts)
    | some '[' =>
      let (negated, items) ← bracket bound
      sequence bound (.bracket negated items :: parts)
    | some _ =>
      match ← repetition? with
      | none => sequence bound ((← atom).toNode :: parts)
      | some repeated =>
        match parts with
        | [] => fail
        | last :: before =>
          require (isRepeatable last)
          sequence bound (repeated last :: before)

end

/-- The pattern written as `source`, if it is well formed and not nested too deep. -/
def parse? (source : List Char) : Option Node := do
  let bound := 3 * source.length + 3
  let (node, st) ← (alternatives bound []).run ⟨.start source, false, []⟩
  if st.cursor.rest.isEmpty && node.depth ≤ depthLimit then some node else none

end ScriptLiterals.Pattern
