import ScriptLiterals.Quoted.Scan

/-!
# Reading pieces

`readPieces?` walks a text piece by piece up to the closing quote. `ReadsAs q text pieces` says that
it passes `text` as `pieces` whatever comes behind, and carries on from there; such texts can be put
one behind another (`ReadsAs.append`), so a statement about a long text is a statement about its
parts.

A character that may stand for itself between the quotes (`Quote.Ordinary`) reads as a piece of its
own, a backslash and a character other than the carriage return as a pair. The carriage return is
left out because it is the one character whose pair depends on what comes behind: a line feed joins
it.
-/

set_option autoImplicit false

namespace ScriptLiterals

/-- Whether `c` may stand for itself between these quotes: it is neither the closing quote nor a
backslash, and it breaks the line only where lines may break. -/
def Quote.Ordinary (q : Quote) (c : Char) : Prop :=
  c ≠ '\\' ∧ c ≠ q.char ∧ ((c = '\n' ∨ c = '\r') → q.allowsLineBreaks = true)

namespace Quoted

variable {q : Quote} {text more : List Char} {pieces others : List Piece} {c : Char}

/-! ## One step -/

/-- The head of a text that is no backslash closes the literal, breaks it off or is a piece. -/
theorem readPieces?_of_ne (h : c ≠ '\\') (cs : List Char) :
    readPieces? q (c :: cs) =
      if c = q.char then some ([], cs)
      else if (c = '\n' ∨ c = '\r') ∧ !q.allowsLineBreaks then none
      else (readPieces? q cs).map fun found => (.plain c :: found.1, found.2) := by
  rw [readPieces?]
  · exact fun hc => absurd hc h
  · exact fun _ hc => absurd hc h
  · exact fun _ _ hc => absurd hc h

theorem readPieces?_quote (q : Quote) (cs : List Char) :
    readPieces? q (q.char :: cs) = some ([], cs) := by
  rw [readPieces?_of_ne (by cases q <;> decide), if_pos rfl]

theorem readPieces?_ordinary (h : q.Ordinary c) (cs : List Char) :
    readPieces? q (c :: cs) =
      (readPieces? q cs).map fun found => (.plain c :: found.1, found.2) := by
  obtain ⟨hback, hquote, hbreak⟩ := h
  have hraw : ¬((c = '\n' ∨ c = '\r') ∧ !q.allowsLineBreaks) := by
    intro hparts
    obtain ⟨hc, hnot⟩ := hparts
    rw [hbreak hc] at hnot
    exact absurd hnot (by simp)
  rw [readPieces?_of_ne hback, if_neg hquote, if_neg hraw]

/-- A backslash takes the character behind it, and a carriage return only if no line feed joins
it. -/
theorem readPieces?_pair {cs : List Char} (h : c = '\r' → cs.head? ≠ some '\n') :
    readPieces? q ('\\' :: c :: cs) =
      (readPieces? q cs).map fun found => (.pair c :: found.1, found.2) := by
  rw [readPieces?]
  rintro cs' hc rfl
  exact h hc rfl

theorem readPieces?_brokenLine (q : Quote) (cs : List Char) :
    readPieces? q ('\\' :: '\r' :: '\n' :: cs) =
      (readPieces? q cs).map fun found => (.brokenLine :: found.1, found.2) := by
  rw [readPieces?]

/-! ## Texts that read on their own -/

/-- The text is passed as these pieces, whatever comes behind it. -/
def ReadsAs (q : Quote) (text : List Char) (pieces : List Piece) : Prop :=
  ∀ cs, readPieces? q (text ++ cs) =
    (readPieces? q cs).map fun found => (pieces ++ found.1, found.2)

theorem readsAs_nil (q : Quote) : ReadsAs q [] [] := by
  intro cs
  simp

theorem readsAs_ordinary (h : q.Ordinary c) : ReadsAs q [c] [.plain c] :=
  fun cs => readPieces?_ordinary h cs

theorem readsAs_pair (h : c ≠ '\r') : ReadsAs q ['\\', c] [.pair c] :=
  fun _ => readPieces?_pair fun hc => absurd hc h

theorem ReadsAs.append (h : ReadsAs q text pieces) (hmore : ReadsAs q more others) :
    ReadsAs q (text ++ more) (pieces ++ others) := by
  intro cs
  rw [List.append_assoc, h, hmore, Option.map_map]
  congr 1
  funext found
  simp

/-- Ordinary characters read one by one. -/
theorem readsAs_map_plain (h : ∀ c ∈ text, q.Ordinary c) : ReadsAs q text (text.map .plain) := by
  induction text with
  | nil => exact readsAs_nil q
  | cons c text ih =>
    have hhead : q.Ordinary c := h c List.mem_cons_self
    have htail := ih fun d hd => h d (List.mem_cons_of_mem c hd)
    exact (readsAs_ordinary hhead).append htail

/-- A text that reads on its own is closed by the quote behind it. -/
theorem ReadsAs.closed (h : ReadsAs q text pieces) (cs : List Char) :
    readPieces? q (text ++ q.char :: cs) = some (pieces, cs) := by
  rw [h, readPieces?_quote]
  simp

end Quoted

end ScriptLiterals
