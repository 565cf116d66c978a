import ScriptLiterals.Pattern.Expr
import ScriptLiterals.Text.Bytes
import ScriptLiterals.Unicode.ByteRanges
import Std.Data.HashMap

/-!
# The automaton of a pattern

A pattern is refused if its automaton would be too large. The automaton reads bytes, and there are two
of them: one reads a text forward, the other backward. This module lays an automaton out, state by
state, and keeps of it only what its size depends on: how many states there are and what they take.
`Expr.fits` says whether both automata stay within the limit.

A state takes 32 bytes. A state that branches on the next byte takes 8 more for each range of bytes it
knows, and a state that offers a choice takes 4 more for each of its arms.
-/

set_option autoImplicit false

namespace ScriptLiterals.Pattern

open Unicode

/-- The bytes that any state takes. -/
def stateSize : Nat := 32

/-- The further bytes for each range of bytes that a state branches on. -/
def rangeSize : Nat := 8

/-- The further bytes for each arm of a choice. -/
def armSize : Nat := 4

/-- The greatest size of an automaton. -/
def sizeLimit : Nat := 10485760

/-- An automaton as far as it has been laid out: the number of states, what they take beyond
`stateSize`, and the states that may be used again, each at its place with the key that tells what it
does. -/
structure Layout where
  states : Nat := 0
  extra : Nat := 0
  memory : Std.HashMap Nat (List Nat × Nat) := {}

/-- The bytes the automaton takes. -/
def Layout.size (l : Layout) : Nat := stateSize * l.states + l.extra

/-- A step of the layout, which fails as soon as the automaton grows too large. -/
abbrev Builder := StateT Layout Option

/-- Whether what has been laid out ends in a choice. Such an end is joined to what follows by one more
arm, any other end by the state's only way out. -/
abbrev EndsInChoice := Bool

namespace Builder

/-- Goes on with the layout if it is not too large. -/
def proceed {α : Type} (a : α) (l : Layout) : Option (α × Layout) :=
  if l.size ≤ sizeLimit then some (a, l) else none

/-- Adds a state that takes `extra` bytes more than any state does, and gives its number. -/
def addState (extra : Nat) : Builder Nat := fun l =>
  proceed l.states { l with states := l.states + 1, extra := l.extra + extra }

/-- Adds states with one way out each. -/
def addStates (n : Nat) : Builder Unit := fun l =>
  proceed () { l with states := l.states + n }

/-- Adds arms to choices. -/
def addArms (n : Nat) : Builder Unit := fun l =>
  proceed () { l with extra := l.extra + armSize * n }

/-- Joins an end to what follows. -/
def join (choice : EndsInChoice) : Builder Unit := addArms (if choice then 1 else 0)

/-- The step, `n` times, each time from the end the last one led to. -/
def times (step : EndsInChoice → Builder EndsInChoice) : Nat → EndsInChoice → Builder EndsInChoice
  | 0, choice => pure choice
  | n + 1, choice => do
    let choice ← step choice
    times step n choice

/-! ## States that are used again

States that do the same need be there only once. They are looked for in a memory with a limited number
of places: the key of a state determines its place, and a state takes the place of the one that was
there before. -/

/-- Mixes one number into a hash. -/
def mix (hash : UInt64) (n : Nat) : UInt64 := (hash ^^^ n.toUInt64) * 1099511628211

/-- The place of a key, of so many places. -/
def placeOf (places : Nat) (key : List Nat) : Nat :=
  (key.foldl mix 14695981039346656037).toNat % places

/-- Empties the memory. -/
def forget : Builder Unit := modify fun l => { l with memory := {} }

/-- The state with the given key, which is added if the memory does not have it. -/
def shared (places : Nat) (key : List Nat) (extra : Nat) : Builder Nat := do
  let place := placeOf places key
  let known := (← get).memory[place]?.filter fun entry => entry.1 == key
  match known with
  | some entry => return entry.2
  | none =>
    let state ← addState extra
    modify fun l => { l with memory := l.memory.insert place (key, state) }
    return state

/-! ## Sets of characters -/

/-- The places that branching states have in memory. -/
def branchingPlaces : Nat := 10000

/-- The places that the states of the backward automaton have in memory. -/
def backwardPlaces : Nat := 1000

/-- Gathers sequences that begin with the same range and follow each other. -/
def groupByHead : List (List (Nat × Nat)) → List ((Nat × Nat) × List (List (Nat × Nat)))
  | [] => []
  | [] :: rest => groupByHead rest
  | (r :: tail) :: rest =>
    match groupByHead rest with
    | (s, tails) :: groups =>
      if r = s then (r, tail :: tails) :: groups else (r, [tail]) :: (s, tails) :: groups
    | [] => [(r, [tail])]

/-- A state that branches on the heads of the sequences, and the states behind it, which lead to
`goal`. The bound is the greatest length of a sequence. -/
def addBranching (goal : Nat) : Nat → List (List (Nat × Nat)) → Builder Nat
  | 0, _ => pure goal
  | bound + 1, sequences => do
    if sequences.all (·.isEmpty) then return goal
    let edges ← (groupByHead sequences).mapM fun group => do
      let next ← addBranching goal bound group.2
      return [group.1.1, group.1.2, next]
    shared branchingPlaces edges.flatten (rangeSize * edges.length)

/-- The states that read one of the sequences backward: a choice of chains, of which two share what
they end with. -/
def addChains (goal : Nat) (sequences : List (List (Nat × Nat))) : Builder Unit :=
  sequences.forM fun sequence => do
    discard (sequence.foldlM (fun next r => shared backwardPlaces [next, r.1, r.2] 0) goal)
    addArms 1

/-- The states that read a member of the set. -/
def addSet (backward : Bool) (s : CharSet) : Builder EndsInChoice := do
  if s.isAscii then
    discard (addState 0)
    discard (addState (rangeSize * s.ranges.length))
  else
    forget
    if backward then discard (addState 0)
    let goal ← addState 0
    if backward then addChains goal s.byteSequences
    else discard (addBranching goal 4 s.byteSequences)
  return false

/-! ## Choices of texts

Texts to choose from are read by a tree of states. A text that ends inside the tree divides what its
state knows into what came before and what comes after. -/

/-- The rests of texts at one place of the tree, divided at each text that ends there. A further end
right after the first makes no difference as long as nothing goes on. -/
def chunks (rests : List (List Nat)) : List (List (List Nat)) :=
  let (closed, current) := rests.foldl
    (fun (closed, current) rest =>
      if !rest.isEmpty then (closed, rest :: current)
      else if current.isEmpty && !closed.isEmpty && closed.all (·.isEmpty) then (closed, current)
      else (current.reverse :: closed, []))
    ([], [])
  (current.reverse :: closed).reverse

/-- The tree below one place. The bound is the greatest length of a text, and one more. -/
def addTree : Nat → List (List Nat) → Builder Unit
  | 0, _ => pure ()
  | bound + 1, rests => do
    if rests.all (·.isEmpty) then return
    let parts := chunks rests
    parts.forM fun part => do
      let heads := (part.filterMap (·.head?)).eraseDups
      heads.forM fun byte => addTree bound
        (part.filterMap fun rest => if rest.head? == some byte then some rest.tail else none)
      if !heads.isEmpty then
        discard (addState (if heads.length = 1 then 0 else rangeSize * heads.length))
    let arms := parts.length - 1 + (parts.filter (!·.isEmpty)).length
    discard (addState (armSize * arms))

/-- The states that read one of the texts. -/
def addTexts (backward : Bool) (texts : List (List Char)) : Builder EndsInChoice := do
  discard (addState 0)
  let words := texts.map fun text =>
    let bytes := text.flatMap fun c => utf8Bytes c.toNat
    if backward then bytes.reverse else bytes
  addTree ((words.map (·.length)).foldl max 0 + 1) words
  return false

end Builder

open Builder

/-! ## Expressions -/

/-- The text an expression is. -/
def Expr.text? : Expr → Option (List Char)
  | .literal text => some text
  | _ => none

/-- The repetition of something, with the layout of what is repeated. Something that may be empty is
repeated by a loop that can be left before the first round. -/
def layRounds (least : Nat) (most : Option Nat) (neverEmpty : Bool) (body : Builder EndsInChoice) :
    Builder EndsInChoice := do
  -- one more round behind what there is
  let round (choice : EndsInChoice) : Builder EndsInChoice := do
    join choice
    body
  -- rounds that have to be
  let exactly (n : Nat) : Builder EndsInChoice := do
    if n = 0 then
      discard (addState 0)
      return false
    else times round n false
  match most with
  | none =>
    if 0 < least then
      let before ← if least = 1 then pure false else times round (least - 1) false
      let choice ← round before
      discard (addState armSize)
      join choice
      return true
    else if neverEmpty then
      discard (addState armSize)
      join (← body)
      return true
    else
      let choice ← body
      discard (addState (2 * armSize))
      join choice
      discard (addState (2 * armSize))
      discard (addState 0)
      return false
  | some most =>
    if least = 0 ∧ most = 1 then
      discard (addState (2 * armSize))
      let choice ← body
      discard (addState 0)
      join choice
      return false
    else
      let before ← exactly least
      if most ≤ least then return before
      discard (addState 0)
      let last ← times (fun choice => do
        discard (addState (2 * armSize))
        join choice
        body) (most - least) before
      join last
      return false

mutual

/-- Lays out an expression. -/
def Expr.lay (backward : Bool) : Expr → Builder EndsInChoice
  | .empty => do
    discard (addState 0)
    return false
  | .literal text => do
    addStates (Text.byteCount text)
    return false
  | .set s => addSet backward s
  | .look _ => do
    discard (addState 0)
    return false
  | .capture body => do
    if backward then body.lay backward
    else
      discard (addState 0)
      let choice ← body.lay backward
      discard (addState 0)
      join choice
      return false
  | .repetition least most _ body =>
    layRounds least most body.isNeverEmpty (body.lay backward)
  | .sequence parts => if backward then layBackward parts else layForward parts
  | .alternation branches =>
    match branches.mapM Expr.text? with
    | some texts => addTexts backward texts
    | none => layBranches backward branches

/-- Lays out expressions in a row, the first one first. -/
def layForward : List Expr → Builder EndsInChoice
  | [] => do
    discard (addState 0)
    return false
  | [e] => e.lay false
  | e :: es => do
    join (← e.lay false)
    layForward es

/-- Lays out expressions in a row, the last one first. -/
def layBackward : List Expr → Builder EndsInChoice
  | [] => do
    discard (addState 0)
    return false
  | [e] => e.lay true
  | e :: es => do
    join (← layBackward es)
    e.lay true

/-- Lays out the branches of a choice, and the choice behind the second of them. -/
def layBranches (backward : Bool) : List Expr → Builder EndsInChoice
  | [] => do
    discard (addState 0)
    return false
  | [e] => e.lay backward
  | e :: f :: es => do
    join (← e.lay backward)
    let choice ← f.lay backward
    discard (addState (2 * armSize))
    discard (addState 0)
    join choice
    layFurther backward es

/-- Lays out further branches of a choice. -/
def layFurther (backward : Bool) : List Expr → Builder EndsInChoice
  | [] => pure false
  | e :: es => do
    let choice ← e.lay backward
    addArms 1
    join choice
    layFurther backward es

end

/-- Lays out the whole automaton of an expression. Before the expression stands a loop that passes
over any bytes, unless a match can only be where reading begins; behind it stands the state that ends
a match. The forward automaton also notes where a match begins and where it ends. -/
def Expr.layWhole (backward : Bool) (e : Expr) : Builder Unit := do
  if if backward then e.isAtEnd else e.isAtStart then discard (addState 0)
  else
    discard (addState (2 * armSize))
    discard (addState 0)
    discard (addState rangeSize)
  let choice ← if backward then e.lay backward else (Expr.capture e).lay backward
  discard (addState 0)
  join choice

/-- Whether the automaton of an expression and the one that reads backward are small enough. -/
def Expr.fits (e : Expr) : Bool :=
  [false, true].all fun backward => ((e.layWhole backward).run {}).isSome

end ScriptLiterals.Pattern
