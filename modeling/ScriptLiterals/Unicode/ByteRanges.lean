import ScriptLiterals.Unicode.CharSet

/-!
# Characters as sequences of bytes

An automaton that reads bytes has to know a set of characters by the bytes that encode them. A range of
characters is cut into pieces, each of which is encoded by all sequences that take one byte from each
of some ranges of bytes (`byteSequences`). The pieces come in ascending order, and so do the sequences,
position by position.
-/

set_option autoImplicit false

namespace ScriptLiterals.Unicode

/-- The bytes that encode a code point in UTF-8. -/
def utf8Bytes (n : Nat) : List Nat :=
  if n < 0x80 then [n]
  else if n < 0x800 then [0xc0 + n / 0x40, 0x80 + n % 0x40]
  else if n < 0x10000 then [0xe0 + n / 0x1000, 0x80 + n / 0x40 % 0x40, 0x80 + n % 0x40]
  else
    [0xf0 + n / 0x40000, 0x80 + n / 0x1000 % 0x40, 0x80 + n / 0x40 % 0x40, 0x80 + n % 0x40]

/-- The last code points that take one, two and three bytes. -/
def encodingSteps : List Nat := [0x7f, 0x7ff, 0xffff]

/-- How many code points share all bytes but the last one, the last two and the last three. -/
def encodingBlocks : List Nat := [0x40, 0x1000, 0x40000]

/-- Where the range from `low` to `high` has to be cut because its ends lie in different blocks of
`size` code points and one of the blocks is not covered whole: behind the given place. -/
def cutAtBlock? (low high size : Nat) : Option Nat :=
  if low / size = high / size then none
  else if low % size ≠ 0 then some (low - low % size + (size - 1))
  else if high % size ≠ size - 1 then some (high - high % size - 1)
  else none

/-- The place behind which the range from `low` to `high` has to be cut, if there is one: where the
number of bytes grows, else at the border of a block. -/
def cut? (low high : Nat) : Option Nat :=
  match encodingSteps.find? fun last => low ≤ last && last < high with
  | some last => some last
  | none => if high < 0x80 then none else encodingBlocks.findSome? (cutAtBlock? low high)

/-- The ranges of bytes that encode the characters from `low` to `high`, none of which is a
surrogate. -/
def byteSequencesFrom (low high : Nat) : List (List (Nat × Nat)) :=
  match cut? low high with
  | some place =>
    if _ : low ≤ place ∧ place < high then
      byteSequencesFrom low place ++ byteSequencesFrom (place + 1) high
    else []
  | none => [(utf8Bytes low).zip (utf8Bytes high)]
termination_by high - low
decreasing_by all_goals omega

/-- The ranges of bytes that encode the characters of a range, which may reach across the
surrogates. -/
def byteSequences (range : Nat × Nat) : List (List (Nat × Nat)) :=
  let below := (range.1, min range.2 0xd7ff)
  let above := (max range.1 0xe000, range.2)
  ([below, above].filter fun r => r.1 ≤ r.2).flatMap fun r => byteSequencesFrom r.1 r.2

/-- The ranges of bytes that encode the members of a set. -/
def CharSet.byteSequences (s : CharSet) : List (List (Nat × Nat)) :=
  s.ranges.flatMap Unicode.byteSequences

end ScriptLiterals.Unicode
