/-!
# Bytes of a text

Spans count bytes of the UTF-8 encoding, offsets count characters. `byteCount` turns a run of
characters into the first measure. A text is cut at a byte in two ways: `takeBytes` and `dropBytes` always
give an answer, `splitAtByte?` and `slice?` refuse a byte that is inside a character.
-/

set_option autoImplicit false

namespace ScriptLiterals.Text

/-- The number of bytes the characters take in UTF-8. -/
def byteCount : List Char → Nat
  | [] => 0
  | c :: cs => c.utf8Size + byteCount cs

@[simp] theorem byteCount_nil : byteCount [] = 0 := rfl

@[simp] theorem byteCount_cons (c : Char) (cs : List Char) :
    byteCount (c :: cs) = c.utf8Size + byteCount cs := rfl

@[simp] theorem byteCount_append (cs ds : List Char) :
    byteCount (cs ++ ds) = byteCount cs + byteCount ds := by
  induction cs with
  | nil => simp
  | cons c cs ih => simp [ih, Nat.add_assoc]

/-- The characters of the text from byte `n` on; a character that the byte falls into is kept whole
by neither side, so the cut is made behind it. -/
def dropBytes : Nat → List Char → List Char
  | 0, cs => cs
  | _, [] => []
  | n + 1, c :: cs => dropBytes (n + 1 - c.utf8Size) cs

/-- The characters of the text before byte `n`. -/
def takeBytes (n : Nat) (cs : List Char) : List Char :=
  cs.take (cs.length - (dropBytes n cs).length)

/-- The text before its byte `n` and from it on, unless that byte is inside a character or behind the
end. -/
def splitAtByte? : Nat → List Char → Option (List Char × List Char)
  | 0, cs => some ([], cs)
  | _ + 1, [] => none
  | n + 1, c :: cs =>
    if c.utf8Size ≤ n + 1 then
      (splitAtByte? (n + 1 - c.utf8Size) cs).map fun parts => (c :: parts.1, parts.2)
    else none

/-- The text from byte `start` up to byte `stop`, if both are places between characters, in this
order. -/
def slice? (text : List Char) (start stop : Nat) : Option (List Char) := do
  let (upTo, _) ← splitAtByte? stop text
  let (_, part) ← splitAtByte? start upTo
  return part

end ScriptLiterals.Text
