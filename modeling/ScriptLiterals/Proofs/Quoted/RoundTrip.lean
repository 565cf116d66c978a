import ScriptLiterals.Proofs.Quoted.Pieces
import ScriptLiterals.Proofs.Quoted.Unescape
import ScriptLiterals.Proofs.Recognizer

/-!
# Printed strings read back

A printed string goes through three automata on its way back: the reader of pieces has to find the
closing quote where the printer put it, `Piece.kept` must drop nothing, and `unescape` must undo
`escape`. What holds the three together is that printing writes one character at a time, and that
what it writes for one character is *faithful*: it reads on its own, as pieces whose source and whose
kept text are both exactly what was written (`readsFaithfully_escapeChar`). So between reading and
decoding nothing changes, and `unescape_escape_eq` finishes the round trip.

The last statement puts this in context: behind any blanks and before anything that may follow an
expression, the printed literal is found whole, with the text it was printed for.
-/

set_option autoImplicit false

namespace ScriptLiterals.Quoted

open Text

variable {q : Quote} {text more : List Char} {c : Char}

/-! ## Texts that reading hands to the decoder unchanged -/

/-- The text reads on its own, as pieces that keep every character of it. -/
def ReadsFaithfully (q : Quote) (text : List Char) : Prop :=
  ∃ pieces, ReadsAs q text pieces ∧ sourceOf pieces = text ∧ pieces.flatMap Piece.kept = text

theorem readsFaithfully_nil (q : Quote) : ReadsFaithfully q [] :=
  ⟨[], readsAs_nil q, rfl, rfl⟩

theorem ReadsFaithfully.append (h : ReadsFaithfully q text) (hmore : ReadsFaithfully q more) :
    ReadsFaithfully q (text ++ more) := by
  obtain ⟨pieces, hreads, hsource, hkept⟩ := h
  obtain ⟨others, hreads', hsource', hkept'⟩ := hmore
  refine ⟨pieces ++ others, hreads.append hreads', ?_, ?_⟩
  · rw [sourceOf, List.flatMap_append, ← sourceOf, ← sourceOf, hsource, hsource']
  · rw [List.flatMap_append, hkept, hkept']

theorem readsFaithfully_ordinary (h : ∀ c ∈ text, q.Ordinary c) : ReadsFaithfully q text := by
  refine ⟨text.map .plain, readsAs_map_plain h, ?_, ?_⟩
  · simp [sourceOf, List.flatMap_map, Piece.source]
  · simp [List.flatMap_map, Piece.kept]

/-- A backslash stays in front of a character that makes an escape sequence with it. -/
theorem readsFaithfully_pair (h : Piece.isEscape c = true) : ReadsFaithfully q ['\\', c] := by
  have hlf : c ≠ '\n' := by
    rintro rfl
    exact absurd h (by decide)
  have hcr : c ≠ '\r' := by
    rintro rfl
    exact absurd h (by decide)
  refine ⟨[.pair c], readsAs_pair hcr, rfl, ?_⟩
  simp [Piece.kept, hlf, hcr, h]

/-! ## What the printer writes is faithful -/

theorem isEscape_escapeLetter {letter : Char} (h : escapeLetter? c = some letter) :
    Piece.isEscape letter = true := by
  unfold escapeLetter? at h
  split_ifs at h with hself hn hr ht hb hf
  · obtain rfl := Option.some.inj h
    rcases hself with rfl | rfl | rfl | rfl <;> rfl
  all_goals
    obtain rfl := Option.some.inj h
    rfl

/-- The characters that a quote excludes from escaping are ordinary between such quotes. -/
theorem ordinary_of_mem_excluded (h : c ∈ q.excluded) : q.Ordinary c := by
  cases q with
  | single =>
    have hc : c = '\x22' ∨ c = '\x60' := by simpa [Quote.excluded, Quote.char] using h
    rcases hc with rfl | rfl <;> exact ⟨by decide, by decide, by decide⟩
  | double =>
    have hc : c = '\'' ∨ c = '\x60' := by simpa [Quote.excluded, Quote.char] using h
    rcases hc with rfl | rfl <;> exact ⟨by decide, by decide, by decide⟩
  | backtick =>
    have hc : c = '\'' ∨ c = '\x22' ∨ c = '\n' := by simpa [Quote.excluded, Quote.char] using h
    rcases hc with rfl | rfl | rfl <;> exact ⟨by decide, by decide, fun _ => rfl⟩

/-- So is every character that has no escape letter: the quotes, the backslash and the line breaks
all have one. -/
theorem ordinary_of_escapeLetter?_eq_none (h : escapeLetter? c = none) : q.Ordinary c := by
  refine ⟨?_, ?_, ?_⟩
  · rintro rfl
    exact absurd h (by decide)
  · rintro rfl
    cases q <;> exact absurd h (by decide)
  · rintro (rfl | rfl) <;> exact absurd h (by decide)

/-- The digits of numbered escape sequences have none. -/
theorem readsFaithfully_hexPadded (q : Quote) (width n : Nat) :
    ReadsFaithfully q (hexPadded width n) :=
  readsFaithfully_ordinary fun _ hd =>
    ordinary_of_escapeLetter?_eq_none (escapeLetter?_of_isDigit (isDigit_of_mem_hexPadded hd))

/-- **What is written for one character reads faithfully.** -/
theorem readsFaithfully_escapeChar (q : Quote) (c : Char) :
    ReadsFaithfully q (escapeChar q.excluded c) := by
  have hescaped := escaped_escapeChar q.excluded c
  generalize escapeChar q.excluded c = written at hescaped ⊢
  cases hescaped with
  | raw hmem =>
    have hc : q.Ordinary c := ordinary_of_mem_excluded hmem
    exact readsFaithfully_ordinary (by simpa using hc)
  | letter hletter => exact readsFaithfully_pair (isEscape_escapeLetter hletter)
  | separator =>
    exact (readsFaithfully_pair (c := 'u') rfl).append (readsFaithfully_hexPadded q 4 c.toNat)
  | control =>
    exact (readsFaithfully_pair (c := 'x') rfl).append (readsFaithfully_hexPadded q 2 c.toNat)
  | plain hletter =>
    have hc : q.Ordinary c := ordinary_of_escapeLetter?_eq_none hletter
    exact readsFaithfully_ordinary (by simpa using hc)

theorem readsFaithfully_escape (q : Quote) (text : List Char) :
    ReadsFaithfully q (escape q.excluded text) := by
  induction text with
  | nil => exact readsFaithfully_nil q
  | cons c text ih => exact (readsFaithfully_escapeChar q c).append ih

/-! ## The round trip -/

theorem backslash_notMem_excluded (q : Quote) : '\\' ∉ q.excluded := by
  cases q <;> decide

/-- The printed literal is read up to its own closing quote and decoded to the text. -/
theorem read_toLiteral_append (q : Quote) (text rest : List Char) :
    read (toLiteral q text ++ rest) = .ok ⟨toLiteral q text, rest, text, q⟩ := by
  obtain ⟨pieces, hreads, hsource, hkept⟩ := readsFaithfully_escape q text
  have hpieces := hreads.closed rest
  have hdecode : decode pieces = text := by
    rw [decode, hkept, unescape_escape_eq (backslash_notMem_excluded q)]
  have hinput : toLiteral q text ++ rest =
      q.char :: (escape q.excluded text ++ q.char :: rest) := by
    simp [toLiteral]
  rw [hinput, read, Quote.ofChar?_char]
  dsimp only
  rw [hpieces]
  dsimp only
  rw [hsource, hdecode]
  rfl

/-- **Printed strings read back in context.** Behind any blanks, and before anything that may follow
an expression, the literal printed for a text is found with that text as its value, its own quotes,
and exactly its own characters as its source: it does not close early, does not run past its closing
quote and meets no line break it may not hold. -/
theorem token?_toLiteral (q : Quote) (text blanks rest : List Char)
    (hblank : ∀ c ∈ blanks, isBlank c = true) (hrest : Boundary.expression.accepts rest = true) :
    token? (blanks ++ toLiteral q text ++ rest) =
      some ⟨toLiteral q text, blanks.length, byteCount blanks, text, q⟩ := by
  have hstart : EndsRun isBlank (toLiteral q text ++ rest) :=
    endsRun_cons.mpr (by cases q <;> decide)
  rw [token?, found?_eq_some_iff, List.append_assoc]
  exact Recognizer.scan_blanks_append (r := recognizer) hblank hstart
    (read_toLiteral_append q text rest) hrest

/-- A text that mixes quotes, line breaks, a control character, a line separator and what looks like
an escape sequence, between wide blanks and a separator. -/
theorem token?_toLiteral_mixed :
    let text := ['\\', 'u', '\x22', '\'', '\r', '\n', '\x01', '\u2028', '\\']
    (∀ c ∈ ['\u2028', ' '], isBlank c = true) ∧
      Boundary.expression.accepts ['\n', ':', '\x22'] = true ∧
      token? (['\u2028', ' '] ++ toLiteral .double text ++ ['\n', ':', '\x22']) =
        some ⟨toLiteral .double text, 2, 4, text, .double⟩ :=
  ⟨List.all_eq_true.mp rfl, by decide,
    token?_toLiteral .double _ _ _ (List.all_eq_true.mp rfl) (by decide)⟩

end ScriptLiterals.Quoted
