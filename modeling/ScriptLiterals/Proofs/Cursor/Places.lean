import ScriptLiterals.Cursor.Reading
import ScriptLiterals.Proofs.Text

/-!
# What a cursor is asked and where it goes

A reader asks a cursor for characters and so moves it (`Reading`). Two functions of the text alone say
what comes of it: `Reading.answer` is the answer, and `Reading.taken` is the run of characters that is
passed, which is always the head of what is still to come (`taken_prefix`). The cursor does just this: it
answers and moves past that run (`Cursor.read_eq`). So all that is known about cursors on their way is
known from `Cursor.past`, which carries a run over from `rest` to `passed`.
-/

set_option autoImplicit false

namespace ScriptLiterals

open Text

namespace Reading

variable {rest : List Char}

/-- The characters that are passed in front of `rest`. -/
def taken (rest : List Char) : Reading → List Char
  | .advance => rest.take 1
  | .peek => []
  | .peekNext => []
  | .eat expected => if rest.head? = some expected then [expected] else []
  | .eatWord word => if word <+: rest then word else []
  | .skipBlank => leadingBlank rest

/-- The answer behind `passed` and in front of `rest`. -/
def answer (passed rest : List Char) : Reading → Answer
  | .advance => .char rest.head?
  | .peek => .char rest.head?
  | .peekNext => .char rest.tail.head?
  | .eat expected => .eaten (decide (rest.head? = some expected))
  | .eatWord word => .eaten (decide (word <+: rest))
  | .skipBlank => .place (byteCount (passed ++ leadingBlank rest))

/-- **What is passed is the head of what was to come.** -/
theorem taken_prefix (r : Reading) (rest : List Char) : r.taken rest <+: rest := by
  cases r with
  | advance => exact List.take_prefix 1 rest
  | peek => exact List.nil_prefix
  | peekNext => exact List.nil_prefix
  | eat expected =>
    rw [taken]
    split_ifs with hhead
    · obtain ⟨tail, rfl⟩ := List.head?_eq_some_iff.mp hhead
      exact ⟨tail, rfl⟩
    · exact List.nil_prefix
  | eatWord word =>
    rw [taken]
    split_ifs with hword
    · exact hword
    · exact List.nil_prefix
  | skipBlank => exact List.takeWhile_prefix isBlank

end Reading

namespace Cursor

variable {c earlier : Cursor} {run part : List Char} {d : Char} {rest : List Char}

/-- The characters that have been passed, in the order of the text. -/
def passed (c : Cursor) : List Char := c.behind.reverse

theorem passed_append_rest (c : Cursor) : c.passed ++ c.rest = c.text := rfl

theorem pos_eq (c : Cursor) : c.pos = byteCount c.passed := (byteCount_reverse c.behind).symm

/-! ## Moving on -/

/-- The place behind `run`, which is the head of what is still to come. -/
def past (c : Cursor) (run : List Char) : Cursor := ⟨run.reverse ++ c.behind, c.rest.drop run.length⟩

@[simp] theorem past_nil (c : Cursor) : c.past [] = c := rfl

@[simp] theorem passed_past (c : Cursor) (run : List Char) : (c.past run).passed = c.passed ++ run := by
  simp [passed, past]

@[simp] theorem pos_past (c : Cursor) (run : List Char) : (c.past run).pos = c.pos + byteCount run := by
  rw [pos_eq, pos_eq, passed_past, byteCount_append]

theorem past_past (c : Cursor) (run part : List Char) :
    (c.past run).past part = c.past (run ++ part) := by
  simp [past, List.drop_drop]

theorem rest_past_cons (h : c.rest = d :: rest) : (c.past [d]).rest = rest := by
  rw [past, h]
  rfl

theorem append_rest_past (h : run <+: c.rest) : run ++ (c.past run).rest = c.rest := by
  obtain ⟨rest, hrest⟩ := h
  rw [past, ← hrest, List.drop_left]

/-- The cursor stays in its text. -/
theorem text_past (h : run <+: c.rest) : (c.past run).text = c.text := by
  rw [← passed_append_rest, passed_past, List.append_assoc, append_rest_past h, passed_append_rest]

/-! ## Readings -/

theorem eat_eq (c : Cursor) (expected : Char) : c.eat expected =
    if c.rest.head? = some expected then some (c.past [expected]) else none := by
  unfold eat
  cases hrest : c.rest with
  | nil => rfl
  | cons d rest =>
    by_cases hd : d = expected
    · simp [hd, past, hrest]
    · simp [hd]

theorem eatWord_eq (c : Cursor) (word : List Char) : c.eatWord word =
    if word <+: c.rest then some (c.past word) else none := by
  induction word generalizing c with
  | nil => simp [eatWord]
  | cons d word ih =>
    rw [eatWord, eat_eq]
    cases hrest : c.rest with
    | nil => simp
    | cons e rest =>
      by_cases he : e = d
      · subst he
        rw [List.head?_cons, if_pos rfl, Option.bind_some, ih, rest_past_cons hrest, past_past]
        simp [List.cons_prefix_cons]
      · simp [he, Ne.symm he, List.cons_prefix_cons]

theorem skipBlank_eq (c : Cursor) : c.skipBlank = c.past (leadingBlank c.rest) := by
  have hrest : Text.skipBlank c.rest = (c.past (leadingBlank c.rest)).rest :=
    List.append_cancel_left ((leadingBlank_append_skipBlank c.rest).trans
      (append_rest_past (List.takeWhile_prefix isBlank)).symm)
  exact congrArg (Cursor.mk _) hrest

/-- **The cursor answers from the text and passes what is taken.** -/
theorem read_eq (c : Cursor) (r : Reading) :
    c.read r = (r.answer c.passed c.rest, c.past (r.taken c.rest)) := by
  cases r with
  | advance =>
    rw [read, advance]
    cases hrest : c.rest with
    | nil => rfl
    | cons d rest => simp [Reading.answer, Reading.taken, past, hrest]
  | peek => rfl
  | peekNext => rfl
  | eat expected =>
    rw [read, eat_eq, Reading.answer, Reading.taken]
    by_cases hhead : c.rest.head? = some expected
    · simp [hhead]
    · simp [hhead]
  | eatWord word =>
    rw [read, eatWord_eq, Reading.answer, Reading.taken]
    by_cases hword : word <+: c.rest
    · simp [hword]
    · simp [hword]
  | skipBlank =>
    rw [read, skipBlank_eq, Reading.answer, Reading.taken, pos_eq, passed_past]

/-! ## Between two places -/

/-- What has been passed since an earlier place is what has been passed here and not there. -/
theorem since_eq (h : earlier.passed ++ part = c.passed) : c.since earlier = part := by
  have hbehind : c.behind = part.reverse ++ earlier.behind := by
    have hreverse := congrArg List.reverse h
    rw [passed, passed, List.reverse_append, List.reverse_reverse, List.reverse_reverse] at hreverse
    exact hreverse.symm
  simp [since, hbehind]

/-- Of two places in one text one has passed all that the other has. -/
theorem passed_prefix_of_pos_le (htext : earlier.text = c.text) (h : earlier.pos ≤ c.pos) :
    earlier.passed <+: c.passed := by
  have hc : c.passed <+: earlier.text := ⟨c.rest, htext ▸ c.passed_append_rest⟩
  have hearlier : earlier.passed <+: earlier.text := ⟨earlier.rest, rfl⟩
  rcases List.prefix_or_prefix_of_prefix hearlier hc with hprefix | ⟨part, hpart⟩
  · exact hprefix
  · -- the place that has passed more bytes cannot be the one before
    rw [pos_eq, pos_eq, ← hpart, byteCount_append] at h
    have hnil : part = [] := by
      by_contra hne
      have hpos := byteCount_pos hne
      omega
    exact ⟨[], by rw [List.append_nil, ← hpart, hnil, List.append_nil]⟩

end Cursor

end ScriptLiterals
