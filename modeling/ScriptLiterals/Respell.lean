import ScriptLiterals.Detect

/-!
# Literals spelled anew

A literal is one spelling of a value, and the printers choose another. A `Style` names the choices
there are; `AnyToken.respell` prints what a literal means in a style, and `respellings` does so again
and again, reading each literal it printed.
-/

set_option autoImplicit false

namespace ScriptLiterals

/-- The choices that printing leaves open, each for one kind of literal. -/
structure Style where
  radix : Radix := .decimal
  quote : Quote := .double
  flags : RegexpFlags := .none
  form : CommentForm := .line
  indent : List Char := []
  deriving DecidableEq, Repr

/-- What a literal means, printed in a style. A pattern need not have a meaning under other flags. -/
def AnyToken.respell (style : Style) : AnyToken → Except ScanError (List Char)
  | .comment t => .ok (Comment.toLiteral style.form style.indent (Comment.strip t.detail t.source))
  | .regexp t => (Regexp.make t.value.source style.flags).map Regexp.toLiteral
  | .string t => .ok (Quoted.toLiteral style.quote t.value)
  | .keyword t => .ok t.value.word
  | .number t => .ok (t.value.toLiteral style.radix)

/-- The literals that come of respelling the one in `input` in the first style, that literal in the
second, and so on; an error is the last. A style may turn out to be none when it is asked for, which
happens only once there is a literal to be printed in it. -/
def respellings {ε : Type} (kind : Kind) (input : List Char) :
    List (Except ε Style) → Except ε (List (Except ScanError (List Char)))
  | [] => .ok []
  | style :: styles =>
    match scanKind kind false input with
    | .error e => .ok [.error e]
    | .ok token =>
      match style with
      | .error e => .error e
      | .ok style =>
        match token.respell style with
        | .error e => .ok [.error e]
        | .ok literal => (respellings kind literal styles).map (.ok literal :: ·)

end ScriptLiterals
