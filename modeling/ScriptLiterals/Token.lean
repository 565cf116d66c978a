import ScriptLiterals.Text.Bytes

/-!
# Tokens

A token is a literal found in a text: its characters, where they stand, and what they mean.
-/

set_option autoImplicit false

namespace ScriptLiterals

open Text

/-- A range of bytes of a text. -/
structure Span where
  start : Nat
  stop : Nat
  deriving DecidableEq, Repr

/-- A literal found in a text. `offset` counts the characters and `start` the bytes before it; the
ends follow from its source. `detail` is the radix, quote or comment type it is written in. -/
structure Token (α δ : Type) where
  source : List Char
  offset : Nat
  start : Nat
  value : α
  detail : δ
  deriving DecidableEq, Repr

namespace Token

variable {α β δ : Type}

/-- The number of characters of the literal. -/
def length (t : Token α δ) : Nat := t.source.length

/-- The number of characters up to the end of the literal. -/
def finish (t : Token α δ) : Nat := t.offset + t.length

/-- The bytes the literal takes in the text. -/
def span (t : Token α δ) : Span := ⟨t.start, t.start + byteCount t.source⟩

/-- Replaces the value. -/
def map (f : α → β) (t : Token α δ) : Token β δ :=
  ⟨t.source, t.offset, t.start, f t.value, t.detail⟩

end Token

end ScriptLiterals
