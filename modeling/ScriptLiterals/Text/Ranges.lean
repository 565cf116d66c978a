/-!
# Sets of characters as lists of ranges

The properties of the Unicode standard are sets of code points, and the only way to have them is to
list them. Two forms are used. A set that proofs look into is a Lean list of pairs
(`ScriptLiterals.Text.Identifier`). The many sets that only a pattern can name are written as text,
`41-5a 61-7a aa`, and read by `parseRanges`; a set written this way costs nothing until a pattern
asks for it.
-/

set_option autoImplicit false

namespace ScriptLiterals.Text

/-- Whether `n` lies in one of the inclusive ranges. -/
def inRanges (ranges : List (Nat × Nat)) (n : Nat) : Bool :=
  ranges.any fun r => r.1 ≤ n && n ≤ r.2

/-- Joins ranges that overlap or touch, of a list in ascending order. -/
def joinRanges : List (Nat × Nat) → List (Nat × Nat)
  | [] => []
  | [r] => [r]
  | r :: s :: rest =>
    if s.1 ≤ r.2 + 1 then joinRanges ((r.1, max r.2 s.2) :: rest)
    else r :: joinRanges (s :: rest)
termination_by ranges => ranges.length

/-- The same set in as few ranges as possible, in ascending order. -/
def normalRanges (ranges : List (Nat × Nat)) : List (Nat × Nat) :=
  joinRanges (ranges.mergeSort fun r s => r.1 ≤ s.1)

/-- The value of a lower-case hexadecimal digit. -/
def lowerHexDigit? (c : Char) : Option Nat :=
  if '0' ≤ c && c ≤ '9' then some (c.toNat - '0'.toNat)
  else if 'a' ≤ c && c ≤ 'f' then some (c.toNat - 'a'.toNat + 10)
  else none

/-- The reading of a table of ranges, one character at a time: the ranges closed so far (latest
first), the start of the open one if its `-` has been passed, and the digits of the number being
read. -/
structure RangeReading where
  ranges : List (Nat × Nat) := []
  low : Option Nat := none
  number : Option Nat := none

namespace RangeReading

/-- Closes the open range: `41` alone is the range from 41 to 41. -/
def close (st : RangeReading) : RangeReading :=
  match st.number with
  | none => st
  | some n => { ranges := (st.low.getD n, n) :: st.ranges }

/-- A digit extends the number, `-` makes it the start of a range, and anything else ends the
range. -/
def step (st : RangeReading) (c : Char) : RangeReading :=
  match lowerHexDigit? c with
  | some d => { st with number := some (st.number.getD 0 * 16 + d) }
  | none =>
    if c == '-' then { st with low := st.number, number := none }
    else st.close

end RangeReading

/-- The ranges that `text` lists, each `low-high` or a single code point, in lower-case hexadecimal
and separated by blanks. -/
def parseRanges (text : String) : List (Nat × Nat) :=
  (text.toList.foldl RangeReading.step {}).close.ranges.reverse

end ScriptLiterals.Text
