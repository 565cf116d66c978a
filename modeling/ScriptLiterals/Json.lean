import ScriptLiterals.Double.Decimal
import ScriptLiterals.Text.Hex

/-!
# JSON

Reports are written as JSON on one line without blanks. A double is written with the fewest digits
that read back as it, always with a fraction or an exponent, so that it reads back as a double and
not as an integer.
-/

set_option autoImplicit false

namespace ScriptLiterals

/-- A JSON value. A finite double is given by its sign and rank. -/
inductive Json where
  | null
  | bool (b : Bool)
  | integer (n : Int)
  | double (negative : Bool) (rank : Nat)
  | string (text : List Char)
  | array (items : List Json)
  | object (fields : List (String × Json))

namespace Json

/-- A character as it is written in a string. -/
def escapeChar (c : Char) : List Char :=
  if c = '\x22' ∨ c = '\\' then ['\\', c]
  else if c = '\n' then ['\\', 'n']
  else if c = '\r' then ['\\', 'r']
  else if c = '\t' then ['\\', 't']
  else if c = '\x08' then ['\\', 'b']
  else if c = '\x0c' then ['\\', 'f']
  else if c.toNat < 0x20 then ['\\', 'u'] ++ Text.hexPadded 4 c.toNat
  else [c]

/-- A string in its quotes. -/
def stringText (text : List Char) : List Char := '\x22' :: text.flatMap escapeChar ++ ['\x22']

/-- A finite double: positional from 10^-5 up to 10^16, else with an exponent that always shows its
sign. -/
def doubleText (negative : Bool) (rank : Nat) : List Char :=
  let d := Double.shortest .even rank
  (if negative then ['-'] else []) ++
    (if rank = 0 then ['0', '.', '0']
     else if -4 ≤ d.point ∧ d.point ≤ 16 then d.positional ['.', '0']
     else d.scientific ['+'])

mutual

/-- A value as text. -/
def text : Json → List Char
  | .null => ['n', 'u', 'l', 'l']
  | .bool true => ['t', 'r', 'u', 'e']
  | .bool false => ['f', 'a', 'l', 's', 'e']
  | .integer n => (toString n).toList
  | .double negative rank => doubleText negative rank
  | .string s => stringText s
  | .array items => '[' :: itemsText items ++ [']']
  | .object fields => '{' :: fieldsText fields ++ ['}']

/-- The items of an array, with commas between them. -/
def itemsText : List Json → List Char
  | [] => []
  | [item] => item.text
  | item :: items => item.text ++ ',' :: itemsText items

/-- The fields of an object, with commas between them. -/
def fieldsText : List (String × Json) → List Char
  | [] => []
  | [(name, value)] => stringText name.toList ++ ':' :: value.text
  | (name, value) :: fields =>
    stringText name.toList ++ ':' :: value.text ++ ',' :: fieldsText fields

end

end Json

end ScriptLiterals
