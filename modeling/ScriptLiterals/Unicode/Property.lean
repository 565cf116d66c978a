import ScriptLiterals.Unicode.Age
import ScriptLiterals.Unicode.Binary
import ScriptLiterals.Unicode.Category
import ScriptLiterals.Unicode.CharSet
import ScriptLiterals.Unicode.GraphemeBreak
import ScriptLiterals.Unicode.Script
import ScriptLiterals.Unicode.ScriptExtension
import ScriptLiterals.Unicode.SentenceBreak
import ScriptLiterals.Unicode.WordBreak

/-!
# Looking up a property by name

A name alone may be a binary property, a general category or a script, looked for in that order
(`byName`). With `name=value` the name says which kind of set the value is (`byValue`). The sets
behind `\d`, `\s` and `\w` are here too, since they are defined through properties.
-/

set_option autoImplicit false

namespace ScriptLiterals.Unicode

open Text

/-- The set of the characters that some entries list together. -/
def CharSet.gather (entries : List NamedSet) : CharSet :=
  .ofRanges (entries.flatMap fun entry => parseRanges entry.ranges)

/-- The set a table entry lists. -/
def NamedSet.toCharSet (entry : NamedSet) : CharSet := .gather [entry]

/-- The general categories that each group of categories gathers. -/
def categoryGroups : List (List String × List String) :=
  [(["lc", "casedletter"], ["lu", "ll", "lt"]),
   (["l", "letter"], ["lu", "ll", "lt", "lm", "lo"]),
   (["m", "mark", "combiningmark"], ["mn", "mc", "me"]),
   (["n", "number"], ["nd", "nl", "no"]),
   (["p", "punctuation", "punct"], ["pc", "pd", "ps", "pe", "pi", "pf", "po"]),
   (["s", "symbol"], ["sm", "sc", "sk", "so"]),
   (["z", "separator"], ["zs", "zl", "zp"])]

/-- The union of the categories with the given abbreviations. -/
def unionOfCategories (abbreviations : List String) : CharSet :=
  .gather (abbreviations.filterMap (find? categories))

/-- The characters that have been assigned: those of any listed category. -/
def assigned : CharSet :=
  .gather categories

/-- The set a value of the property General_Category names. -/
def generalCategory? (name : String) : Option CharSet :=
  if name = "any" then some .all
  else if name = "ascii" then some (.ofRanges [(0, 0x7f)])
  else if name = "assigned" then some assigned
  else if name = "cn" ∨ name = "unassigned" then some assigned.compl
  else if name = "c" ∨ name = "other" then
    some (assigned.compl.union (unionOfCategories ["cc", "cf", "co"]))
  else match categoryGroups.find? (·.1.contains name) with
    | some group => some (unionOfCategories group.2)
    | none => (find? categories name).map (·.toCharSet)

/-- The set of characters that belong to the named script. -/
def script? (name : String) : Option CharSet :=
  (find? scripts name).map (·.toCharSet)

/-- The set of characters used with the named script. -/
def scriptExtension? (name : String) : Option CharSet :=
  ((find? scriptExtensions name).or (find? scripts name)).map (·.toCharSet)

/-- The characters assigned in the named version or an earlier one. -/
def age? (name : String) : Option CharSet :=
  match ages.findIdx? (·.names.contains name) with
  | none => none
  | some i => some (.gather (ages.take (i + 1)))

/-- Abbreviations that a general category and another property share, and that mean the category
when they stand alone. -/
def categoryFirst : List String := ["cf", "sc", "lc"]

/-- The set that a property's name alone stands for. -/
def byName (name : List Char) : Option CharSet :=
  let name := looseName name
  let binary := if categoryFirst.contains name then none else find? binaryProperties name
  match binary with
  | some entry => some entry.toCharSet
  | none => (generalCategory? name).or (script? name)

/-- The set that `name=value` stands for. -/
def byValue (name value : List Char) : Option CharSet :=
  let name := looseName name
  let value := looseName value
  let named (table : List NamedSet) := (find? table value).map (·.toCharSet)
  if ["gc", "generalcategory"].contains name then generalCategory? value
  else if ["sc", "script"].contains name then script? value
  else if ["scx", "scriptextensions"].contains name then scriptExtension? value
  else if ["age"].contains name then age? value
  else if ["gcb", "graphemeclusterbreak"].contains name then named graphemeBreaks
  else if ["wb", "wordbreak"].contains name then named wordBreaks
  else if ["sb", "sentencebreak"].contains name then named sentenceBreaks
  else none

/-- The set of a binary property that is known to be listed. -/
def binarySet (name : String) : CharSet :=
  ((find? binaryProperties name).map (·.toCharSet)).getD .empty

/-- The decimal digits of all scripts. -/
def digitSet : CharSet := unionOfCategories ["nd"]

/-- The blanks. -/
def spaceSet : CharSet := binarySet "whitespace"

/-- The characters words are made of: letters and other alphabetic characters, marks, decimal
digits, connecting punctuation such as `_`, and the two join controls. -/
def wordSet : CharSet :=
  .gather (["alphabetic", "joincontrol"].filterMap (find? binaryProperties) ++
    ["mn", "mc", "me", "nd", "pc"].filterMap (find? categories))

/-- The alphabetic characters. -/
def alphabeticSet : CharSet := binarySet "alphabetic"

/-- The characters with a numeric category. -/
def numericSet : CharSet := unionOfCategories ["nd", "nl", "no"]

/-- Whether `c` is alphabetic. -/
def isAlphabetic (c : Char) : Bool :=
  if c.toNat < 0x80 then c.isAlpha else alphabeticSet.contains c.toNat

/-- Whether `c` is alphabetic or numeric. -/
def isAlphanumeric (c : Char) : Bool :=
  if c.toNat < 0x80 then c.isAlphanum
  else alphabeticSet.contains c.toNat || numericSet.contains c.toNat

/-- Whether `c` is a character words are made of. -/
def isWordChar (c : Char) : Bool :=
  if c.toNat < 0x80 then c.isAlphanum || c == '_' else wordSet.contains c.toNat

end ScriptLiterals.Unicode
