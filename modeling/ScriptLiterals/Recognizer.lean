import ScriptLiterals.Boundary
import ScriptLiterals.Cursor
import ScriptLiterals.ScanError
import ScriptLiterals.Token

/-!
# Recognizers

A recognizer reads one kind of literal. It sees the text from the first character that is not blank
on and nothing before it, so what it finds cannot depend on where the literal stands; the position
is added here, once for all kinds. `Recognizer.scan` also checks what follows the literal; `settle`
turns a failure into the absence of a token for callers that do not want to know why.
-/

set_option autoImplicit false

namespace ScriptLiterals

open Text

/-- What a recognizer read: the literal's characters, what follows them, and what they mean. -/
structure Lexeme (α δ : Type) where
  source : List Char
  rest : List Char
  value : α
  detail : δ
  deriving DecidableEq, Repr

/-- Why a recognizer read nothing. -/
inductive Miss where
  | noMatch
  | unterminated
  | unsupported (feature : String)
  | invalidPattern (pattern : List Char) (fault : PatternFault)
  deriving DecidableEq, Repr

/-- The error that a miss is, for a literal looked for at `offset`. -/
def Miss.toError (kind : Kind) (offset : Nat) : Miss → ScanError
  | .noMatch => .noMatch kind offset
  | .unterminated => .unterminated kind offset
  | .unsupported feature => .unsupported kind feature
  | .invalidPattern pattern fault => .invalidPattern pattern fault

/-- How literals of one kind are read, and what may follow them. -/
structure Recognizer (α δ : Type) where
  kind : Kind
  read : List Char → Except Miss (Lexeme α δ)
  boundary : Option Boundary

namespace Recognizer

variable {α δ : Type}

/-- The literal at the head of `input`, blanks skipped, and what follows it. -/
def locate (r : Recognizer α δ) (input : List Char) : Except ScanError (Token α δ × List Char) :=
  let here := (Cursor.start input).skipBlank
  match r.read here.rest with
  | .error miss => .error (miss.toError r.kind here.index)
  | .ok found => .ok (⟨found.source, here.index, here.pos, found.value, found.detail⟩, found.rest)

/-- The literal at the head of `input`, whatever follows it. -/
def scanHead (r : Recognizer α δ) (input : List Char) : Except ScanError (Token α δ) :=
  (r.locate input).map (·.1)

/-- The literal at the head of `input`, followed by something that may follow it. -/
def scan (r : Recognizer α δ) (input : List Char) : Except ScanError (Token α δ) :=
  match r.locate input with
  | .error e => .error e
  | .ok (token, leftover) =>
    if r.boundary.all (·.accepts leftover) then .ok token
    else .error (.boundaryViolation r.kind token.finish)

end Recognizer

/-- A failure is an error if `strict`, and otherwise just the absence of a token. -/
def settle {α : Type} (strict : Bool) : Except ScanError α → Except ScanError (Option α)
  | .ok token => .ok (some token)
  | .error e => if strict then .error e else .ok none

/-- The token of a scan, if there is one. -/
def found? {α : Type} : Except ScanError α → Option α
  | .ok token => some token
  | .error _ => none

end ScriptLiterals
