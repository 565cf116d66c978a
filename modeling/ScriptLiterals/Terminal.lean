/-!
# Emphasis on a terminal

Text is emphasized by control sequences before and behind it. A colour ends with the sequence for the
default colour, bold and dimmed text with the one that resets everything, so bold goes around a
colour and not inside it.
-/

set_option autoImplicit false

namespace ScriptLiterals.Terminal

/-- The colours in use. -/
inductive Color where
  | red
  | green
  | yellow
  | blue
  | magenta
  | cyan
  | white
  | brightGreen
  | brightYellow
  | brightCyan
  deriving DecidableEq, Repr

/-- The number of a colour in a control sequence. -/
def Color.code : Color → String
  | .red => "31"
  | .green => "32"
  | .yellow => "33"
  | .blue => "34"
  | .magenta => "35"
  | .cyan => "36"
  | .white => "37"
  | .brightGreen => "92"
  | .brightYellow => "93"
  | .brightCyan => "96"

/-- The control sequence with the given parameters. -/
def sequence (code : String) : String := "\x1b[" ++ code ++ "m"

/-- Text in a colour. -/
def colored (color : Color) (text : String) : String :=
  sequence color.code ++ text ++ sequence "39"

/-- Text in bold. -/
def bold (text : String) : String := sequence "1" ++ text ++ sequence "0"

/-- Text that stands back. -/
def dimmed (text : String) : String := sequence "2" ++ text ++ sequence "0"

/-- What empties the screen and goes to its first line. -/
def clearScreen : String := "\x1b[2J\x1b[H"

/-- Text filled up with blanks on the right. -/
def padRight (width : Nat) (text : String) : String :=
  text ++ String.ofList (List.replicate (width - text.length) ' ')

/-- Text filled up with blanks on the left. -/
def padLeft (width : Nat) (text : String) : String :=
  String.ofList (List.replicate (width - text.length) ' ') ++ text

end ScriptLiterals.Terminal
