/-!
# Named sets of characters

A pattern may name a set of characters: `\p{Greek}`, `\p{Script=Greek}`, `\pL`. The tables of this
folder list such sets under all their names. The ranges stay text until a name is looked up
(`ScriptLiterals.Text.parseRanges`).
-/

set_option autoImplicit false

namespace ScriptLiterals.Unicode

/-- A set of characters and the names it goes by, each in the form `looseName` brings names to. -/
structure NamedSet where
  names : List String
  ranges : String

/-- The set called `name`, if the table has one. -/
def find? (table : List NamedSet) (name : String) : Option NamedSet :=
  table.find? fun entry => entry.names.contains name

/-- The form in which names are compared: letters in lower case, without blanks, `_` and `-`,
without characters outside ASCII and without a leading `is`. The one exception keeps `isc` apart
from `c`: the first abbreviates a property of its own, the second a general category. -/
def looseName (name : List Char) : String :=
  let isPrefixed := (name.take 2).map Char.toLower == ['i', 's']
  let body := if isPrefixed then name.drop 2 else name
  let kept := body.filter fun c => c.toNat < 0x80 && c != ' ' && c != '_' && c != '-'
  let lower := kept.map Char.toLower
  String.ofList (if isPrefixed && lower == ['c'] then ['i', 's', 'c'] else lower)

end ScriptLiterals.Unicode
