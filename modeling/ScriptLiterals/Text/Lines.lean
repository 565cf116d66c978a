/-!
# Lines

`lines` cuts a text at its line feeds. A carriage return right before a line feed belongs to the
line break; one anywhere else, also at the very end of the text, belongs to the line. A line feed at
the end of the text opens no further line, so the empty text has no lines at all.
-/

set_option autoImplicit false

namespace ScriptLiterals.Text

/-- The lines of a text, without their line breaks. -/
def lines : List Char → List (List Char)
  | [] => []
  | '\n' :: rest => [] :: lines rest
  | '\r' :: '\n' :: rest => [] :: lines rest
  | c :: rest =>
    match lines rest with
    | [] => [[c]]
    | line :: later => (c :: line) :: later

end ScriptLiterals.Text
