/-!
# Kinds of literals
-/

set_option autoImplicit false

namespace ScriptLiterals

/-- The kinds of literals. -/
inductive Kind where
  | string
  | number
  | keyword
  | regexp
  | comment
  deriving DecidableEq, Repr

namespace Kind

/-- All kinds, in the order in which a text of unknown kind is tried. Comments come first, so that
`//` and `/*` are never taken for patterns, and keywords come before numbers, so that `NaN` and
`Infinity` are keywords. -/
def all : List Kind := [.comment, .regexp, .string, .keyword, .number]

/-- The name of a kind. -/
def name : Kind → String
  | .string => "string"
  | .number => "number"
  | .keyword => "keyword"
  | .regexp => "regexp"
  | .comment => "comment"

/-- The kind that a name or one of its short forms stands for. -/
def ofName? (name : String) : Option Kind :=
  if name = "string" ∨ name = "str" then some .string
  else if name = "number" ∨ name = "num" then some .number
  else if name = "keyword" ∨ name = "kw" then some .keyword
  else if name = "regexp" ∨ name = "regex" ∨ name = "re" then some .regexp
  else if name = "comment" then some .comment
  else none

/-- What is said of a name that no kind has. -/
def unknownMessage (name : String) : String := "unknown literal kind '" ++ name ++ "'"

/-- Every kind goes by its own name. -/
theorem ofName?_name (k : Kind) : ofName? k.name = some k := by
  cases k <;> decide

end Kind

end ScriptLiterals
