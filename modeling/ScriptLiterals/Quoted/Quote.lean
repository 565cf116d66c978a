/-!
# Quotes
-/

set_option autoImplicit false

namespace ScriptLiterals

/-- The delimiter of a string literal. -/
inductive Quote where
  | single
  | double
  | backtick
  deriving DecidableEq, Repr

namespace Quote

/-- The quote character. -/
def char : Quote → Char
  | .single => '\''
  | .double => '\x22'
  | .backtick => '\x60'

/-- The quote written as `c`. -/
def ofChar? (c : Char) : Option Quote :=
  if c = Quote.single.char then some .single
  else if c = Quote.double.char then some .double
  else if c = Quote.backtick.char then some .backtick
  else none

/-- Every quote is the one written as its character. -/
theorem ofChar?_char (q : Quote) : ofChar? q.char = some q := by
  cases q <;> rfl

/-- Whether a raw line break may stand between these quotes. -/
def allowsLineBreaks : Quote → Bool
  | .backtick => true
  | _ => false

/-- The characters that a printed literal with these quotes shows as they are, although printing
would escape them elsewhere: the other two quotes and, where a line may break, the line feed. -/
def excluded : Quote → List Char
  | .single => [Quote.double.char, Quote.backtick.char]
  | .double => [Quote.single.char, Quote.backtick.char]
  | .backtick => [Quote.single.char, Quote.double.char, '\n']

end Quote

end ScriptLiterals
