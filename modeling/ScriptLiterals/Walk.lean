import ScriptLiterals.Detect

/-!
# All literals of a text

A walk looks for a literal at the head of the text, goes on behind it, and where there is none goes
on behind the next character. It knows nothing of the language around the literals, so it may find
one in the middle of a word.
-/

set_option autoImplicit false

namespace ScriptLiterals

/-- A literal met on a walk through a text: the byte from which it was looked for, and what was found
in the text from there on. -/
structure Finding where
  pos : Nat
  token : AnyToken

/-- The literals of a text that begins at byte `pos`. A literal has at least one character, so each
step leaves a shorter text. -/
def walkFrom (pos : Nat) : List Char → List Finding
  | [] => []
  | c :: cs =>
    match detect (c :: cs) with
    | some token => ⟨pos, token⟩ :: walkFrom (pos + token.span.stop) (cs.drop (token.finish - 1))
    | none => walkFrom (pos + c.utf8Size) cs
termination_by text => text.length
decreasing_by
  all_goals simp only [List.length_cons, List.length_drop]; omega

/-- The literals of a text. -/
def walk (text : List Char) : List Finding := walkFrom 0 text

end ScriptLiterals
