import ScriptLiterals.Cursor.Counting
import ScriptLiterals.Proofs.Cursor.Places

/-!
# Where a cursor stands that counts its bytes

A `CountingCursor` stores its place twice, and one of the two, the stream of the characters to come, is
itself in one of three states: the next item may not have been looked at, or it has been put aside, or it
turned out that there is none. `Lookahead.Holds` says of all three which characters are to come.

With it, `StandsAt` says that a counting cursor stands where a cursor does, by both of its accounts.
Whatever is read there, it goes on standing where the cursor does, with the same answer and without a
failing cut (`StandsAt.read?`).
-/

set_option autoImplicit false

namespace ScriptLiterals

open Text

/-! ## Streams -/

namespace Lookahead

variable {s : Lookahead} {offset : Nat} {c : Char} {cs : List Char}

/-- The characters to come are `cs`, the first of them at byte `offset`, whether it has been looked at or
not. -/
inductive Holds : Lookahead → Nat → List Char → Prop where
  | unseen (offset : Nat) (cs : List Char) : Holds ⟨none, ⟨offset, cs⟩⟩ offset cs
  | seen (offset : Nat) (c : Char) (cs : List Char) :
    Holds ⟨some (some (offset, c)), ⟨offset + c.utf8Size, cs⟩⟩ offset (c :: cs)
  | seenEnd (offset : Nat) : Holds ⟨some none, ⟨offset, []⟩⟩ offset []

theorem Holds.next_nil (h : s.Holds offset []) : s.next.1 = none ∧ s.next.2.Holds offset [] := by
  cases h with
  | unseen => exact ⟨rfl, .unseen offset []⟩
  | seenEnd => exact ⟨rfl, .unseen offset []⟩

theorem Holds.next_cons (h : s.Holds offset (c :: cs)) :
    s.next.1 = some (offset, c) ∧ s.next.2.Holds (offset + c.utf8Size) cs := by
  cases h with
  | unseen => exact ⟨rfl, .unseen _ cs⟩
  | seen => exact ⟨rfl, .unseen _ cs⟩

/-- To look at the next character takes nothing away. -/
theorem Holds.peek (h : s.Holds offset cs) :
    s.peek.1 = cs.head?.map (offset, ·) ∧ s.peek.2.Holds offset cs := by
  cases h with
  | unseen =>
    cases cs with
    | nil => exact ⟨rfl, .seenEnd offset⟩
    | cons c cs => exact ⟨rfl, .seen offset c cs⟩
  | seen _ c cs => exact ⟨rfl, .seen offset c cs⟩
  | seenEnd => exact ⟨rfl, .seenEnd offset⟩

end Lookahead

/-! ## In step with the cursor -/

namespace CountingCursor

variable {b : CountingCursor} {c : Cursor} {run : List Char} {d : Char} {rest : List Char}

/-- The counting cursor stands where the cursor does, by both of its accounts. -/
structure StandsAt (b : CountingCursor) (c : Cursor) : Prop where
  text_eq : b.text = c.text
  pos_eq : b.pos = c.pos
  ahead : b.ahead.Holds c.pos c.rest

theorem standsAt_start (text : List Char) : (start text).StandsAt (Cursor.start text) :=
  ⟨rfl, rfl, .unseen 0 text⟩

/-- **The rest of the text can be cut out**, and is what is still to come. -/
theorem StandsAt.rest? (h : b.StandsAt c) : b.rest? = some c.rest := by
  refine slice?_eq_some_iff.mpr ⟨c.passed, [], ?_, ?_, ?_⟩
  · rw [h.text_eq, List.append_nil, Cursor.passed_append_rest]
  · rw [h.pos_eq, Cursor.pos_eq]
  · rw [h.text_eq, Cursor.passed_append_rest]

/-- **What can be cut out in front of the cursor are the ends of what it has passed.** -/
theorem StandsAt.sliceFrom?_eq_some_iff (h : b.StandsAt c) {start : Nat} {part : List Char} :
    b.sliceFrom? start = some part ↔
      ∃ before, c.passed = before ++ part ∧ byteCount before = start := by
  rw [sliceFrom?, slice?_eq_some_iff, h.text_eq, h.pos_eq, Cursor.pos_eq]
  constructor
  · rintro ⟨before, after, htext, hstart, hstop⟩
    rw [← Cursor.passed_append_rest] at htext
    exact ⟨before, eq_of_byteCount_eq htext hstop.symm, hstart⟩
  · rintro ⟨before, hpassed, hstart⟩
    exact ⟨before, c.rest, by rw [← hpassed, Cursor.passed_append_rest], hstart, by rw [hpassed]⟩

/-- At the end of the text the cursor stays where it is. -/
theorem StandsAt.advance_nil (h : b.StandsAt c) (hrest : c.rest = []) :
    b.advance.1 = none ∧ b.advance.2.StandsAt c := by
  obtain ⟨htext, hpos, hahead⟩ := h
  rw [hrest] at hahead
  obtain ⟨hnone, hnext⟩ := hahead.next_nil
  unfold advance
  rw [hnone]
  exact ⟨rfl, htext, hpos, hrest ▸ hnext⟩

theorem StandsAt.advance_cons (h : b.StandsAt c) (hrest : c.rest = d :: rest) :
    b.advance.1 = some d ∧ b.advance.2.StandsAt (c.past [d]) := by
  obtain ⟨htext, hpos, hahead⟩ := h
  rw [hrest] at hahead
  obtain ⟨hsome, hnext⟩ := hahead.next_cons
  have hcount : (c.past [d]).pos = c.pos + d.utf8Size := by simp
  unfold advance
  rw [hsome]
  refine ⟨rfl, htext.trans (Cursor.text_past ⟨rest, hrest.symm⟩).symm, hcount.symm, ?_⟩
  rw [Cursor.rest_past_cons hrest, hcount]
  exact hnext

theorem StandsAt.peek (h : b.StandsAt c) : b.peek.1 = c.rest.head? ∧ b.peek.2.StandsAt c := by
  obtain ⟨hitem, hnext⟩ := h.ahead.peek
  refine ⟨?_, h.text_eq, h.pos_eq, hnext⟩
  rw [CountingCursor.peek, hitem, Option.map_map]
  exact Option.map_id'

theorem StandsAt.peekNext (h : b.StandsAt c) : b.peekNext = c.rest.tail.head? := by
  have hahead := h.ahead
  rw [CountingCursor.peekNext]
  cases hrest : c.rest with
  | nil =>
    rw [hrest] at hahead
    rw [hahead.next_nil.2.next_nil.1]
    rfl
  | cons d rest =>
    rw [hrest] at hahead
    obtain ⟨-, hnext⟩ := hahead.next_cons
    cases rest with
    | nil =>
      rw [hnext.next_nil.1]
      rfl
    | cons e rest =>
      rw [hnext.next_cons.1]
      rfl

theorem StandsAt.advanceBy (h : b.StandsAt c) (hrun : run <+: c.rest) :
    (b.advanceBy run.length).StandsAt (c.past run) := by
  induction run generalizing b c with
  | nil => exact h
  | cons d run ih =>
    obtain ⟨tail, htail⟩ := hrun
    have hnext := (h.advance_cons htail.symm).2
    have hlater := ih hnext ⟨tail, (Cursor.rest_past_cons htail.symm).symm⟩
    rwa [Cursor.past_past] at hlater

theorem StandsAt.skipBlank (h : b.StandsAt c) :
    b.skipBlank.StandsAt (c.past (leadingBlank c.rest)) := by
  -- one round of the loop looks at a character and passes it, so the induction is on those to come
  induction hrest : c.rest generalizing b c with
  | nil =>
    obtain ⟨hpeek, hnext⟩ := h.peek
    rw [CountingCursor.skipBlank, hpeek, hrest, if_neg (by simp)]
    exact hnext
  | cons d rest ih =>
    obtain ⟨hpeek, hnext⟩ := h.peek
    rw [CountingCursor.skipBlank, hpeek, hrest, List.head?_cons, Option.any_some]
    by_cases hblank : isBlank d = true
    · rw [if_pos hblank, leadingBlank, List.takeWhile_cons_of_pos hblank]
      have hskip := ih (hnext.advance_cons hrest).2 (Cursor.rest_past_cons hrest)
      rwa [Cursor.past_past] at hskip
    · rw [if_neg hblank, leadingBlank, List.takeWhile_cons_of_neg hblank]
      exact hnext

/-- **Whatever is read, the counting cursor stays with the cursor**: it gives the same answer, and no cut
fails. -/
theorem StandsAt.read? (h : b.StandsAt c) (r : Reading) :
    ∃ next, b.read? r = some (r.answer c.passed c.rest, next) ∧
      next.StandsAt (c.past (r.taken c.rest)) := by
  cases r with
  | advance =>
    rw [CountingCursor.read?, Reading.answer, Reading.taken]
    cases hrest : c.rest with
    | nil =>
      obtain ⟨hfound, hnext⟩ := h.advance_nil hrest
      rw [hfound]
      exact ⟨_, rfl, hnext⟩
    | cons d rest =>
      obtain ⟨hfound, hnext⟩ := h.advance_cons hrest
      rw [hfound]
      exact ⟨_, rfl, hnext⟩
  | peek =>
    obtain ⟨hfound, hnext⟩ := h.peek
    rw [CountingCursor.read?, hfound]
    exact ⟨_, rfl, hnext⟩
  | peekNext =>
    rw [CountingCursor.read?, h.peekNext]
    exact ⟨_, rfl, h⟩
  | eat expected =>
    obtain ⟨hfound, hnext⟩ := h.peek
    rw [CountingCursor.read?, eat, hfound, Reading.answer, Reading.taken]
    by_cases hhead : c.rest.head? = some expected
    · obtain ⟨tail, htail⟩ := List.head?_eq_some_iff.mp hhead
      rw [if_pos hhead, if_pos hhead, decide_eq_true hhead]
      exact ⟨_, rfl, (hnext.advance_cons htail).2⟩
    · rw [if_neg hhead, if_neg hhead, decide_eq_false hhead]
      exact ⟨_, rfl, hnext⟩
  | eatWord word =>
    rw [CountingCursor.read?, eatWord?, h.rest?, Reading.answer, Reading.taken]
    by_cases hword : word <+: c.rest
    · rw [Option.map_some, if_pos (List.isPrefixOf_iff_prefix.mpr hword), if_pos hword,
        decide_eq_true hword]
      exact ⟨_, rfl, h.advanceBy hword⟩
    · rw [Option.map_some, if_neg (mt List.isPrefixOf_iff_prefix.mp hword), if_neg hword,
        decide_eq_false hword]
      exact ⟨_, rfl, h⟩
  | skipBlank =>
    have hskip := h.skipBlank
    rw [CountingCursor.read?, hskip.pos_eq, Cursor.pos_eq, Cursor.passed_past]
    exact ⟨_, rfl, hskip⟩

end CountingCursor

end ScriptLiterals
