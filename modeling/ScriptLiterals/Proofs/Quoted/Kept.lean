import ScriptLiterals.Proofs.Quoted.Numbered
import ScriptLiterals.Quoted.Scan

/-!
# What pieces hand on, and how they are written

The pieces of a string have two texts: the one they are written as (`sourceOf`) and the one they hand
on to the decoder (`keptOf`). Without a backslash in it, a stretch of the first stands for itself
(`exists_later_of_sourceOf`), while a stretch of the second may come from more than it shows: pieces
that hand on nothing, and characters behind a backslash that is dropped (`exists_run_of_keptOf`).

So a reader of numbers finds a number in the text that is handed on wherever it finds one in the text
as it is written, and perhaps more. `Takes.comparison` says what the two readings can differ in.
-/

set_option autoImplicit false

namespace ScriptLiterals.Quoted

variable {α : Type} {pieces run : List Piece} {piece : Piece} {text rest : List Char}
  {read : List Char → Option (α × List Char)} {IsTaken : List Char → Prop} {a : α}

/-! ## Pieces and their texts -/

/-- What the pieces hand on to the decoder. -/
def keptOf (pieces : List Piece) : List Char := pieces.flatMap Piece.kept

/-- The last of the pieces hands something on. -/
def EndsKept (run : List Piece) : Prop := ∀ piece ∈ run.getLast?, piece.kept ≠ []

@[simp] theorem keptOf_nil : keptOf [] = [] := rfl

@[simp] theorem keptOf_cons (piece : Piece) (pieces : List Piece) :
    keptOf (piece :: pieces) = piece.kept ++ keptOf pieces := List.flatMap_cons

@[simp] theorem keptOf_append (pieces more : List Piece) :
    keptOf (pieces ++ more) = keptOf pieces ++ keptOf more := List.flatMap_append

@[simp] theorem sourceOf_nil : sourceOf [] = [] := rfl

@[simp] theorem sourceOf_cons (piece : Piece) (pieces : List Piece) :
    sourceOf (piece :: pieces) = piece.source ++ sourceOf pieces := List.flatMap_cons

@[simp] theorem sourceOf_append (pieces more : List Piece) :
    sourceOf (pieces ++ more) = sourceOf pieces ++ sourceOf more := List.flatMap_append

@[simp] theorem keptOf_map_plain (text : List Char) : keptOf (text.map .plain) = text := by
  induction text with
  | nil => rfl
  | cons c text ih =>
    rw [List.map_cons, keptOf_cons, ih]
    rfl

@[simp] theorem sourceOf_map_plain (text : List Char) : sourceOf (text.map .plain) = text := by
  induction text with
  | nil => rfl
  | cons c text ih =>
    rw [List.map_cons, sourceOf_cons, ih]
    rfl

theorem decode_eq (pieces : List Piece) : decode pieces = unescape (keptOf pieces) := rfl

/-- The ways in which a piece hands on what it says: nothing, one character, or an escape sequence as
it stands. -/
theorem Piece.kept_cases (piece : Piece) :
    (piece.kept = [] ∧ ∃ c rest, (c = '\n' ∨ c = '\r') ∧ piece.source = '\\' :: c :: rest) ∨
      (∃ c, piece.kept = [c] ∧ (c = '\\' → piece = .plain c)) ∨
      ∃ c, isEscape c = true ∧ piece = .pair c ∧ piece.kept = ['\\', c] := by
  cases piece with
  | plain c => exact Or.inr (Or.inl ⟨c, rfl, fun _ => rfl⟩)
  | brokenLine => exact Or.inl ⟨rfl, '\r', ['\n'], Or.inr rfl, rfl⟩
  | pair c =>
    by_cases hbreak : c = '\n' ∨ c = '\r'
    · exact Or.inl ⟨if_pos hbreak, c, [], hbreak, rfl⟩
    · by_cases hescape : isEscape c = true
      · exact Or.inr (Or.inr ⟨c, hescape, rfl, by rw [kept, if_neg hbreak, if_pos hescape]⟩)
      · refine Or.inr (Or.inl ⟨c, by rw [kept, if_neg hbreak, if_neg hescape], ?_⟩)
        rintro rfl
        exact absurd rfl hescape

/-- Pieces that end with what they hand on hand on something. -/
theorem EndsKept.eq_nil (h : EndsKept run) (hkept : keptOf run = []) : run = [] := by
  cases hlast : run.getLast? with
  | none => exact List.getLast?_eq_none_iff.mp hlast
  | some piece =>
    obtain ⟨before, rfl⟩ := List.getLast?_eq_some_iff.mp hlast
    rw [keptOf_append, keptOf_cons, keptOf_nil, List.append_nil] at hkept
    exact absurd (List.append_eq_nil_iff.mp hkept).2 (h piece hlast)

theorem EndsKept.tail (h : EndsKept (piece :: run)) : EndsKept run := by
  intro last hlast
  cases run with
  | nil => exact absurd hlast (by simp)
  | cons next run => exact h last (by rwa [List.getLast?_cons_cons])

theorem EndsKept.cons (h : EndsKept run) (hpiece : run = [] → piece.kept ≠ []) :
    EndsKept (piece :: run) := by
  intro last hlast
  cases run with
  | nil =>
    obtain rfl : piece = last := by simpa using hlast
    exact hpiece rfl
  | cons next run => exact h last (by rwa [List.getLast?_cons_cons] at hlast)

/-- Text without a backslash at the head of what is handed on was handed on by the first pieces. -/
theorem exists_run_of_keptOf (hback : '\\' ∉ text) (h : keptOf pieces = text ++ rest) :
    ∃ run later, pieces = run ++ later ∧ keptOf run = text ∧ keptOf later = rest ∧ EndsKept run := by
  induction pieces generalizing text with
  | nil =>
    obtain ⟨rfl, rfl⟩ := List.append_eq_nil_iff.mp h.symm
    exact ⟨[], [], rfl, rfl, rfl, by simp [EndsKept]⟩
  | cons piece pieces ih =>
    cases text with
    | nil => exact ⟨[], piece :: pieces, rfl, rfl, h, by simp [EndsKept]⟩
    | cons c text =>
      obtain ⟨hc, htext⟩ := not_or.mp (mt List.mem_cons.mpr hback)
      rw [keptOf_cons] at h
      rcases piece.kept_cases with ⟨hkept, -⟩ | ⟨d, hkept, -⟩ | ⟨d, -, -, hkept⟩
      · rw [hkept, List.nil_append] at h
        obtain ⟨run, later, rfl, hrun, hlater, hend⟩ := ih hback h
        refine ⟨piece :: run, later, rfl, by rw [keptOf_cons, hkept, hrun]; rfl, hlater,
          hend.cons ?_⟩
        rintro rfl
        exact absurd hrun (by simp)
      · rw [hkept] at h
        obtain ⟨rfl, htail⟩ := List.cons.inj h
        obtain ⟨run, later, rfl, hrun, hlater, hend⟩ := ih htext htail
        exact ⟨piece :: run, later, rfl, by rw [keptOf_cons, hkept, hrun]; rfl, hlater,
          hend.cons fun _ => by rw [hkept]; simp⟩
      · rw [hkept] at h
        exact absurd (List.cons.inj h).1 hc

/-- Text without a backslash at the head of the pieces as they are written stands for itself. -/
theorem exists_later_of_sourceOf (hback : '\\' ∉ text) (h : sourceOf pieces = text ++ rest) :
    ∃ later, pieces = text.map .plain ++ later ∧ sourceOf later = rest := by
  induction text generalizing pieces with
  | nil => exact ⟨pieces, rfl, h⟩
  | cons c text ih =>
    obtain ⟨hc, htext⟩ := not_or.mp (mt List.mem_cons.mpr hback)
    cases pieces with
    | nil => exact absurd h (by simp)
    | cons piece pieces =>
      cases piece with
      | plain d =>
        obtain ⟨rfl, htail⟩ := List.cons.inj h
        obtain ⟨later, rfl, hlater⟩ := ih htext htail
        exact ⟨later, rfl, hlater⟩
      | pair d => exact absurd (List.cons.inj h).1 hc
      | brokenLine => exact absurd (List.cons.inj h).1 hc

/-- Characters that stand for themselves are the only pieces that begin with them and end with what
they hand on. -/
theorem eq_map_plain_of_append_eq (hend : EndsKept run) (hkept : keptOf run = text)
    (h : ∃ later behind, run ++ later = text.map .plain ++ behind) : run = text.map .plain := by
  obtain ⟨later, behind, h⟩ := h
  induction text generalizing run with
  | nil => rw [hend.eq_nil hkept, List.map_nil]
  | cons c text ih =>
    cases run with
    | nil => exact absurd hkept (by simp)
    | cons piece run =>
      obtain ⟨rfl, htail⟩ := List.cons.inj h
      obtain ⟨-, hrest⟩ := List.cons.inj hkept
      rw [ih hend.tail hrest htail, List.map_cons]

/-! ## Numbers, as handed on and as written -/

/-- What a reader of numbers makes of the pieces, as they hand them on and as they are written. -/
inductive Comparison (read : List Char → Option (α × List Char)) (IsTaken : List Char → Prop)
    (pieces : List Piece) : Prop where
  | neither (hkept : read (keptOf pieces) = none) (hsource : read (sourceOf pieces) = none)
  | both {text : List Char} {later : List Piece} (a : α) (htaken : IsTaken text)
    (hpieces : pieces = text.map .plain ++ later)
    (hkept : read (keptOf pieces) = some (a, keptOf later))
    (hsource : read (sourceOf pieces) = some (a, sourceOf later))
  | keptOnly {run later : List Piece} (a : α) (hpieces : pieces = run ++ later)
    (htaken : IsTaken (keptOf run)) (hend : EndsKept run) (hdropped : keptOf run ≠ sourceOf run)
    (hkept : read (keptOf pieces) = some (a, keptOf later))
    (hsource : read (sourceOf pieces) = none)

namespace Takes

/-- What is read as it is written is read in the same pieces as they hand it on. -/
theorem exists_both (h : Takes read IsTaken) (hsource : read (sourceOf pieces) = some (a, rest)) :
    ∃ text later, IsTaken text ∧ pieces = text.map .plain ++ later ∧ sourceOf later = rest ∧
      read (keptOf pieces) = some (a, keptOf later) := by
  obtain ⟨text, htaken, htext, hagain⟩ := h.exists_local hsource
  obtain ⟨later, rfl, hlater⟩ := exists_later_of_sourceOf (h.backslash_notMem htaken) htext
  refine ⟨text, later, htaken, rfl, hlater, ?_⟩
  rw [keptOf_append, keptOf_map_plain, hagain]

/-- **A number that is handed on is a number as it is written, unless something in it is dropped.** -/
theorem comparison (h : Takes read IsTaken) (pieces : List Piece) :
    Comparison read IsTaken pieces := by
  cases hsource : read (sourceOf pieces) with
  | some found =>
    obtain ⟨a, rest⟩ := found
    obtain ⟨text, later, htaken, hpieces, hlater, hkept⟩ := h.exists_both hsource
    exact .both a htaken hpieces hkept (by rw [hsource, hlater])
  | none =>
    cases hkept : read (keptOf pieces) with
    | none => exact .neither hkept hsource
    | some found =>
      obtain ⟨a, rest⟩ := found
      obtain ⟨text, htaken, htext, hagain⟩ := h.exists_local hkept
      obtain ⟨run, later, rfl, rfl, rfl, hend⟩ :=
        exists_run_of_keptOf (h.backslash_notMem htaken) htext
      refine .keptOnly a rfl htaken hend ?_ hkept hsource
      intro hsame
      rw [sourceOf_append, ← hsame, hagain] at hsource
      exact absurd hsource (by simp)

/-- A number with something dropped in it is no number as it is written. -/
theorem read_sourceOf_eq_none (h : Takes read IsTaken) (htaken : IsTaken (keptOf run))
    (hend : EndsKept run) (hdropped : keptOf run ≠ sourceOf run) (later : List Piece) :
    read (sourceOf (run ++ later)) = none := by
  rw [Option.eq_none_iff_forall_ne_some]
  rintro ⟨a, rest⟩ hsource
  obtain ⟨text, behind, -, hpieces, -, hkept⟩ := h.exists_both hsource
  obtain ⟨a', hagain⟩ := h.exists_read htaken
  -- both readings of what is handed on leave the same, so they have taken the same
  have hrest : keptOf later = keptOf behind := by
    rw [keptOf_append, hagain] at hkept
    exact congrArg Prod.snd (Option.some.inj hkept)
  have htext : keptOf run = text := by
    have hall := congrArg keptOf hpieces
    rw [keptOf_append, keptOf_append, keptOf_map_plain, hrest] at hall
    exact List.append_cancel_right hall
  have hrun := eq_map_plain_of_append_eq hend htext ⟨later, behind, hpieces⟩
  rw [hrun, keptOf_map_plain, sourceOf_map_plain] at hdropped
  exact hdropped rfl

theorem read_keptOf (h : Takes read IsTaken) (htaken : IsTaken (keptOf run)) (later : List Piece) :
    ∃ a, read (keptOf (run ++ later)) = some (a, keptOf later) := by
  obtain ⟨a, hagain⟩ := h.exists_read htaken
  exact ⟨a, by rw [keptOf_append, hagain]⟩

end Takes

end ScriptLiterals.Quoted
