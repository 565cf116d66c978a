import ScriptLiterals.Keyword
import ScriptLiterals.Report
import ScriptLiterals.Session.Command
import ScriptLiterals.Unicode.Property

/-!
# Help while an entry is typed

What a session shows of an entry before it is finished: the words that the one being typed may become
(`completions`), the rest of the first of them (`hint?`), the literal in its colour (`highlight`), and
whether more lines belong to the entry (`isOpen`).
-/

set_option autoImplicit false

namespace ScriptLiterals.Session

open Text Terminal

/-- The words a session knows: its commands, the kinds, the name for no particular kind, and the
keywords. -/
def vocabulary : List (List Char) :=
  [".help", ".exit", ".clear", ".version", ".kind"].map String.toList ++
    Kind.all.map (·.name.toList) ++ ["any".toList] ++ Keyword.all.map Keyword.word

/-- Whether `c` can be a part of a word; the point is one because commands start with it. -/
def isWordPart (c : Char) : Bool := Unicode.isAlphanumeric c || c == '.'

/-- The byte at which the word that ends at the cursor starts: the end of the last character before the
cursor that is no part of a word. -/
def wordStart (c : Cursor) : Nat := byteCount (c.behind.dropWhile isWordPart)

/-- The word that ends at the cursor: what has been passed from its first byte on. -/
def wordBefore (c : Cursor) : List Char := dropBytes (wordStart c) c.behind.reverse

/-! ## Completion -/

/-- A word that may be meant, and what is still missing of it. -/
structure Completion where
  word : List Char
  missing : List Char
  deriving DecidableEq, Repr

/-- What is proposed to somebody who types: the byte of the line at which what is missing is put in, and
the words that may be meant, in the order in which they are offered. -/
structure Proposal where
  pos : Nat
  candidates : List Completion
  deriving DecidableEq, Repr

/-- What is missing of a word that starts with `typed`: the word from the byte on at which that ends. -/
def missingOf (typed word : List Char) : List Char := dropBytes (byteCount typed) word

/-- The words of the vocabulary that start with `typed`. -/
def completionsOf (typed : List Char) : List Completion :=
  (vocabulary.filter typed.isPrefixOf).map fun word => ⟨word, missingOf typed word⟩

/-- What the word at the cursor may become, to be put in where the cursor is: what has been typed stays.
No word, no candidates. -/
def completions (c : Cursor) : Proposal :=
  if (wordBefore c).isEmpty then ⟨c.pos, []⟩ else ⟨c.pos, completionsOf (wordBefore c)⟩

/-- What is missing of the first longer word that starts with the one at the cursor. Only the end of the
line has a hint, and only for words of two bytes or more. -/
def hint? (c : Cursor) : Option String :=
  let typed := wordBefore c
  if !c.rest.isEmpty || byteCount typed < 2 then none
  else
    let longer? := vocabulary.find? fun word =>
      typed.isPrefixOf word && byteCount typed < byteCount word
    longer?.map fun word => dimmed (String.ofList (missingOf typed word))

/-! ## Colours -/

/-- A line with its literal in colour. A line that starts with a point is shown as a command. -/
def highlight (line : List Char) : String :=
  if (skipBlank line).head? = some '.' then colored .magenta (String.ofList line)
  else match detect line with
    | some token =>
      String.ofList (line.take token.offset) ++
        Report.paint token.kind (String.ofList token.source) ++
        String.ofList (line.drop token.finish)
    | none => String.ofList line

/-! ## Entries of several lines -/

/-- Whether a scan failed because a literal is never closed. -/
def isUnterminated {α : Type} : Except ScanError α → Bool
  | .error (.unterminated _ _) => true
  | _ => false

/-- Whether more lines belong to an entry: it ends in a backslash, or it starts with a block comment
or a string between backticks that is never closed. -/
def isOpen (entry : List Char) : Bool :=
  if (trimEnd entry).getLast? = some '\\' then true
  else match skipBlank entry with
    | '/' :: '*' :: _ => isUnterminated (Comment.recognizer.scan entry)
    | '\x60' :: _ => isUnterminated (Quoted.recognizer.scan entry)
    | _ => false

end ScriptLiterals.Session
