import ScriptLiterals.Text.Ranges
import ScriptLiterals.Unicode.CaseFold

/-!
# Sets of characters

The sets that a pattern's classes stand for. A set is kept as the ranges of code points it is made of,
in ascending order and with a gap between any two (`CharSet.ofRanges`). Surrogates are no characters,
so U+D7FF and U+E000 are neighbours.
-/

set_option autoImplicit false

namespace ScriptLiterals.Unicode

open Text

/-- A set of characters: its ranges in ascending order. -/
structure CharSet where
  ranges : List (Nat × Nat)
  deriving DecidableEq, Repr

/-- The last code point. -/
def lastCodePoint : Nat := 0x10ffff

/-- The code point before the one of a character that is not the first. -/
def codeBefore (n : Nat) : Nat := if n = 0xe000 then 0xd7ff else n - 1

/-- The code point after the one of a character. -/
def codeAfter (n : Nat) : Nat := if n = 0xd7ff then 0xe000 else n + 1

/-- The letter of ASCII that differs from the code point `n` in case only, or `n` itself. -/
def asciiOtherCase (n : Nat) : Nat :=
  if 0x41 ≤ n ∧ n ≤ 0x5a then n + 0x20
  else if 0x61 ≤ n ∧ n ≤ 0x7a then n - 0x20
  else n

namespace CharSet

/-- The set of the characters in any of the ranges. -/
def ofRanges (ranges : List (Nat × Nat)) : CharSet := ⟨normalRanges ranges⟩

/-- The set without members. -/
def empty : CharSet := ⟨[]⟩

/-- The set of one character. -/
def single (c : Char) : CharSet := ⟨[(c.toNat, c.toNat)]⟩

/-- The set of all characters. -/
def all : CharSet := ⟨[(0, lastCodePoint)]⟩

/-- Whether the code point `n` belongs to the set. -/
def contains (s : CharSet) (n : Nat) : Bool := inRanges s.ranges n

/-- The members of either set. -/
def union (s t : CharSet) : CharSet := ofRanges (s.ranges ++ t.ranges)

/-- The ranges between those of an ascending list, from `low` on. -/
def gapsFrom (low : Nat) : List (Nat × Nat) → List (Nat × Nat)
  | [] => if low ≤ lastCodePoint then [(low, lastCodePoint)] else []
  | (a, b) :: rest =>
    if low < a then (low, codeBefore a) :: gapsFrom (codeAfter b) rest
    else gapsFrom (codeAfter b) rest

/-- The characters that are not members. -/
def compl (s : CharSet) : CharSet := ⟨gapsFrom 0 s.ranges⟩

/-- The members of both sets. -/
def inter (s t : CharSet) : CharSet := (s.compl.union t.compl).compl

/-- The members of `s` that are not in `t`. -/
def diff (s t : CharSet) : CharSet := s.inter t.compl

/-- The members of exactly one of the two sets. -/
def symmDiff (s t : CharSet) : CharSet := (s.diff t).union (t.diff s)

/-- The set with all characters that differ from one of its members in case only. -/
def foldCase (s : CharSet) : CharSet :=
  let touched := caseOrbits.filter fun orbit => orbit.any s.contains
  ofRanges (s.ranges ++ touched.flatMap fun orbit => orbit.map fun n => (n, n))

/-- The set with all letters of ASCII that differ from one of its members in case only. -/
def foldAscii (s : CharSet) : CharSet :=
  let letters := (List.range 0x80).filter s.contains
  ofRanges (s.ranges ++ letters.map fun n => (asciiOtherCase n, asciiOtherCase n))

/-- Whether the set has no members outside ASCII. -/
def isAscii (s : CharSet) : Bool := s.ranges.all fun r => r.2 < 0x80

/-- The only member of the set, if it has exactly one. -/
def only? (s : CharSet) : Option Char :=
  match s.ranges with
  | [(a, b)] => if a = b then some (Char.ofNat a) else none
  | _ => none

end CharSet

end ScriptLiterals.Unicode
