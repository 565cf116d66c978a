import ScriptLiterals.Cursor.Reading

/-!
# A cursor that counts its bytes

`Cursor` keeps the characters on both sides, so its place cannot be wrong. A cursor over encoded text
has less to go by. `CountingCursor` keeps the whole text, a stream of the characters to come, numbered by
the bytes they begin at, and a count of the bytes passed; what it shows of the text it cuts out of the
whole, and a cut that falls inside a character fails (`slice?`). Its place is stored twice, and nothing
in the type keeps the two together. To look at the next character moves the stream, too: the item is
taken out and put aside (`Lookahead`).
-/

set_option autoImplicit false

namespace ScriptLiterals

open Text

/-! ## Streams -/

/-- The characters of a text from some place on, and the byte the first of them begins at. -/
structure CharStream where
  offset : Nat
  chars : List Char
  deriving DecidableEq, Repr

/-- Takes the next character out, with the byte it begins at. -/
def CharStream.next (s : CharStream) : Option (Nat × Char) × CharStream :=
  match s.chars with
  | [] => (none, s)
  | c :: cs => (some (s.offset, c), ⟨s.offset + c.utf8Size, cs⟩)

/-- A stream whose next item may have been looked at: then it has been taken out and is kept here, also
if there was none. -/
structure Lookahead where
  seen : Option (Option (Nat × Char))
  stream : CharStream
  deriving DecidableEq, Repr

namespace Lookahead

/-- Takes the next item out. -/
def next (s : Lookahead) : Option (Nat × Char) × Lookahead :=
  match s.seen with
  | some item => (item, ⟨none, s.stream⟩)
  | none => (s.stream.next.1, ⟨none, s.stream.next.2⟩)

/-- Looks at the next item. -/
def peek (s : Lookahead) : Option (Nat × Char) × Lookahead :=
  match s.seen with
  | some item => (item, s)
  | none => (s.stream.next.1, ⟨some s.stream.next.1, s.stream.next.2⟩)

/-- How many items are still to come. -/
def size (s : Lookahead) : Nat :=
  s.stream.chars.length + if s.seen.join.isSome then 1 else 0

/-- An item that has been looked at is there to be taken out. -/
theorem size_next_peek_lt {s : Lookahead} (h : s.peek.1.isSome = true) :
    s.peek.2.next.2.size < s.size := by
  unfold peek at h ⊢
  -- an item put aside counts as one; otherwise it comes out of the stream
  cases hseen : s.seen with
  | some item =>
    rw [hseen] at h
    simp [next, size, hseen, show item.isSome = true from h]
  | none =>
    rw [hseen] at h
    simp only [CharStream.next] at h ⊢
    cases hchars : s.stream.chars with
    | nil => rw [hchars] at h; exact absurd h (by simp)
    | cons c cs => simp [next, size, hseen, hchars]

end Lookahead

/-! ## The counting cursor -/

/-- A place in a text, stored twice: as the stream of the characters to come, and as the number of bytes
passed. -/
structure CountingCursor where
  text : List Char
  ahead : Lookahead
  pos : Nat
  deriving DecidableEq, Repr

namespace CountingCursor

/-- The start of a text. -/
def start (text : List Char) : CountingCursor := ⟨text, ⟨none, ⟨0, text⟩⟩, 0⟩

/-- The text from the place on. -/
def rest? (b : CountingCursor) : Option (List Char) := slice? b.text b.pos (byteCount b.text)

/-- The text from byte `start` up to the place. -/
def sliceFrom? (b : CountingCursor) (start : Nat) : Option (List Char) := slice? b.text start b.pos

/-- The next character, and the place behind it. -/
def advance (b : CountingCursor) : Option Char × CountingCursor :=
  match b.ahead.next.1 with
  | some (begins, c) => (some c, ⟨b.text, b.ahead.next.2, begins + c.utf8Size⟩)
  | none => (none, { b with ahead := b.ahead.next.2 })

/-- The next character. -/
def peek (b : CountingCursor) : Option Char × CountingCursor :=
  (b.ahead.peek.1.map (·.2), { b with ahead := b.ahead.peek.2 })

/-- The character after the next one. -/
def peekNext (b : CountingCursor) : Option Char := b.ahead.next.2.next.1.map (·.2)

/-- Passes the next character if that is `expected`. -/
def eat (b : CountingCursor) (expected : Char) : Bool × CountingCursor :=
  if b.peek.1 = some expected then (true, b.peek.2.advance.2) else (false, b.peek.2)

/-- Passes the next `n` characters. -/
def advanceBy : Nat → CountingCursor → CountingCursor
  | 0, b => b
  | n + 1, b => advanceBy n b.advance.2

/-- Passes `word` if the text goes on with it. -/
def eatWord? (b : CountingCursor) (word : List Char) : Option (Bool × CountingCursor) :=
  b.rest?.map fun rest =>
    if word.isPrefixOf rest then (true, advanceBy word.length b) else (false, b)

theorem ahead_advance (b : CountingCursor) : b.advance.2.ahead = b.ahead.next.2 := by
  unfold advance
  split <;> rfl

/-- Passes all blanks up to the first other character. -/
def skipBlank (b : CountingCursor) : CountingCursor :=
  if b.peek.1.any isBlank = true then skipBlank b.peek.2.advance.2 else b.peek.2
termination_by b.ahead.size
decreasing_by
  rename_i hblank
  rw [ahead_advance]
  refine Lookahead.size_next_peek_lt ?_
  cases hseen : b.ahead.peek.1 with
  | none => simp [peek, hseen] at hblank
  | some item => rfl

/-- What the cursor answers, and where it stands then. -/
def read? (b : CountingCursor) : Reading → Option (Answer × CountingCursor)
  | .advance => some (.char b.advance.1, b.advance.2)
  | .peek => some (.char b.peek.1, b.peek.2)
  | .peekNext => some (.char b.peekNext, b)
  | .eat expected => some (.eaten (b.eat expected).1, (b.eat expected).2)
  | .eatWord word => (b.eatWord? word).map fun found => (.eaten found.1, found.2)
  | .skipBlank => some (.place b.skipBlank.pos, b.skipBlank)

/-- The way of the counting cursor through a text. -/
def run? (text : List Char) (ops : List Operation) :
    Option (List Answer × Bookmarked CountingCursor) :=
  Bookmarked.run? read? ops ⟨start text, []⟩

end CountingCursor

end ScriptLiterals
