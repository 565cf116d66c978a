import ScriptLiterals.Cursor

/-!
# What readers do with a cursor

A reader asks its cursor for characters and so moves it (`Reading`). Before it reads ahead it marks the
place, to come back if what it looked for is not there (`Operation`). A way through a text is any number
of such operations. `Bookmarked.run?` follows it with cursors of any kind: which kind it is comes in as
what it does when it is asked, and that may fail. `Cursor.read`, which is what a cursor between its two
runs of characters does, never fails.
-/

set_option autoImplicit false

namespace ScriptLiterals

/-! ## Readings -/

/-- What a cursor is asked. -/
inductive Reading where
  /-- The next character, which is passed. -/
  | advance
  /-- The next character. -/
  | peek
  /-- The character after the next one. -/
  | peekNext
  /-- To pass this character, if it is the next one. -/
  | eat (expected : Char)
  /-- To pass this word, if the text goes on with it. -/
  | eatWord (word : List Char)
  /-- To pass all blanks up to the first other character. -/
  | skipBlank
  deriving DecidableEq, Repr

/-- What a cursor answers. -/
inductive Answer where
  /-- A character, if there is one. -/
  | char (found : Option Char)
  /-- Whether the text that was asked for has been passed. -/
  | eaten (yes : Bool)
  /-- The byte the cursor has come to. -/
  | place (pos : Nat)
  deriving DecidableEq, Repr

/-- What the cursor answers, and where it stands then. -/
def Cursor.read (c : Cursor) : Reading → Answer × Cursor
  | .advance => match c.advance with
    | some (found, next) => (.char (some found), next)
    | none => (.char none, c)
  | .peek => (.char c.peek, c)
  | .peekNext => (.char c.peekNext, c)
  | .eat expected => match c.eat expected with
    | some next => (.eaten true, next)
    | none => (.eaten false, c)
  | .eatWord word => match c.eatWord word with
    | some next => (.eaten true, next)
    | none => (.eaten false, c)
  | .skipBlank => (.place c.skipBlank.pos, c.skipBlank)

/-! ## Operations -/

/-- What a reader does with its cursor. -/
inductive Operation where
  /-- Asks it for something. -/
  | read (r : Reading)
  /-- Marks the place it is at. -/
  | mark
  /-- Goes back to the place that was marked first, second and so on, counted from zero. Where there is no
  such mark the cursor stays. -/
  | backTo (number : Nat)
  deriving DecidableEq, Repr

/-- A cursor and the places that have been marked, the first mark first. -/
structure Bookmarked (κ : Type) where
  here : κ
  marks : List κ
  deriving DecidableEq, Repr

namespace Bookmarked

variable {κ : Type}

/-- The answers to one operation, and what is there then. -/
def perform? (read? : κ → Reading → Option (Answer × κ)) (now : Bookmarked κ) :
    Operation → Option (List Answer × Bookmarked κ)
  | .read r => (read? now.here r).map fun found => ([found.1], { now with here := found.2 })
  | .mark => some ([], { now with marks := now.marks ++ [now.here] })
  | .backTo number => some ([], { now with here := now.marks[number]?.getD now.here })

/-- The answers to all operations, one after the other, and what is there at the end. -/
def run? (read? : κ → Reading → Option (Answer × κ)) :
    List Operation → Bookmarked κ → Option (List Answer × Bookmarked κ)
  | [], now => some ([], now)
  | op :: ops, now => (now.perform? read? op).bind fun step =>
    (run? read? ops step.2).map fun found => (step.1 ++ found.1, found.2)

end Bookmarked

/-- The way of the cursor through a text. -/
def Cursor.run? (text : List Char) (ops : List Operation) :
    Option (List Answer × Bookmarked Cursor) :=
  Bookmarked.run? (fun c r => some (c.read r)) ops ⟨start text, []⟩

end ScriptLiterals
