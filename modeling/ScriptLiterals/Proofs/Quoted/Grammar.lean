import ScriptLiterals.Proofs.Readers

/-!
# The grammar of strings

A string literal is a quote, elements, and the quote again. `IsElement` and `IsLiteral` say so about
plain texts: they know nothing of the reader and of the pieces it makes. The reader agrees with them
in both directions. What it takes consists of elements (`areElements_of_readPieces?`), and elements
up to a quote are taken one by one (`exists_readPieces?_of_areElements`). Because the reader is a
function, the second direction also says that no text consists of elements in two ways
(`IsLiteral.unique`).

What makes this more than a regular expression is the carriage return behind a backslash. It is an
element of its own unless a line feed follows, and that line feed may be the first character of the
next element; so whether a text is an element is asked in front of what follows it.
-/

set_option autoImplicit false

namespace ScriptLiterals

namespace Quoted

open Text

variable {q : Quote} {cs rest following : List Char} {pieces : List Piece}
  {elements : List (List Char)}

/-! ## Elements -/

/-- What may stand between quotes in front of `following`: an ordinary character, an escaped line
break of two characters, or a backslash and any one character. A carriage return is such a character
only if no line feed follows. -/
inductive IsElement (q : Quote) (following : List Char) : List Char → Prop where
  | plain {c : Char} (h : q.Ordinary c) : IsElement q following [c]
  | brokenLine : IsElement q following ['\\', '\r', '\n']
  | pair {c : Char} (h : c = '\r' → following.head? ≠ some '\n') : IsElement q following ['\\', c]

/-- Each of the texts is an element in front of the later ones and of `behind`. -/
def AreElements (q : Quote) (behind : List Char) : List (List Char) → Prop
  | [] => True
  | element :: later =>
    IsElement q (later.flatten ++ behind) element ∧ AreElements q behind later

/-- **The literals of strings.** The text is a quote, elements, the same quote and a rest. -/
structure IsLiteral (q : Quote) (cs : List Char) (elements : List (List Char)) (rest : List Char) :
    Prop where
  split : cs = q.char :: (elements.flatten ++ q.char :: rest)
  areElements : AreElements q (q.char :: rest) elements

/-! ## The reader takes elements -/

theorem flatten_map_source (pieces : List Piece) :
    (pieces.map Piece.source).flatten = sourceOf pieces := by
  rw [sourceOf, List.flatMap_def]

theorem areElements_cons_of_map {piece : Piece} {found : Option (List Piece × List Char)}
    (ih : ∀ {others}, found = some (others, rest) →
      AreElements q (q.char :: rest) (others.map Piece.source))
    (hpiece : ∀ others, found = some (others, rest) →
      IsElement q (sourceOf others ++ q.char :: rest) piece.source)
    (h : (found.map fun found => (piece :: found.1, found.2)) = some (pieces, rest)) :
    AreElements q (q.char :: rest) (pieces.map Piece.source) := by
  obtain ⟨⟨others, rest'⟩, hfound, heq⟩ := Option.map_eq_some_iff.mp h
  obtain ⟨rfl, rfl⟩ := Prod.mk.inj heq
  refine ⟨?_, ih hfound⟩
  rw [flatten_map_source]
  exact hpiece others hfound

/-- **What the reader takes consists of elements.** -/
theorem areElements_of_readPieces? (h : readPieces? q cs = some (pieces, rest)) :
    AreElements q (q.char :: rest) (pieces.map Piece.source) := by
  fun_induction readPieces? q cs generalizing pieces with
  | case1 => exact absurd h (by simp)
  | case2 => exact absurd h (by simp)
  | case3 cs ih => exact areElements_cons_of_map ih (fun _ _ => .brokenLine) h
  | case4 c cs hbreak ih =>
    refine areElements_cons_of_map ih (fun others hfound => .pair ?_) h
    rintro rfl hhead
    -- what follows is what is still to be read, and a line feed there would have joined the piece
    rw [← sourceOf_append_of_readPieces? hfound] at hhead
    obtain ⟨cs', hcs⟩ := List.head?_eq_some_iff.mp hhead
    exact hbreak cs' rfl hcs
  | case5 cs =>
    obtain ⟨rfl, rfl⟩ := Prod.mk.inj (Option.some.inj h)
    trivial
  | case6 => exact absurd h (by simp)
  | case7 c cs hback _ hpair hquote hraw ih =>
    have hne := ne_backslash_of_unpaired hback hpair
    refine areElements_cons_of_map ih (fun others hfound => .plain ⟨hne, hquote, ?_⟩) h
    intro hc
    by_contra hnot
    exact hraw ⟨hc, by simpa using hnot⟩

/-! ## Elements are taken by the reader -/

/-- **Elements up to a quote are read one by one.** -/
theorem exists_readPieces?_of_areElements (h : AreElements q (q.char :: rest) elements) :
    ∃ pieces, elements = pieces.map Piece.source ∧
      readPieces? q (elements.flatten ++ q.char :: rest) = some (pieces, rest) := by
  induction elements with
  | nil => exact ⟨[], rfl, readPieces?_quote q rest⟩
  | cons element later ih =>
    obtain ⟨helement, hlater⟩ := h
    obtain ⟨others, hothers, hread⟩ := ih hlater
    rw [List.flatten_cons, List.append_assoc]
    cases helement with
    | @plain c hordinary =>
      refine ⟨.plain c :: others, by rw [hothers]; rfl, ?_⟩
      rw [List.singleton_append, readPieces?_ordinary hordinary, hread]
      rfl
    | brokenLine =>
      refine ⟨.brokenLine :: others, by rw [hothers]; rfl, ?_⟩
      have hstep := readPieces?_brokenLine q (later.flatten ++ q.char :: rest)
      rw [hread] at hstep
      exact hstep
    | @pair c hjoin =>
      refine ⟨.pair c :: others, by rw [hothers]; rfl, ?_⟩
      have hstep := readPieces?_pair (q := q) hjoin
      rw [hread] at hstep
      exact hstep

/-! ## Literals -/

theorem isLiteral_of_readPieces? (h : readPieces? q cs = some (pieces, rest)) :
    IsLiteral q (q.char :: cs) (pieces.map Piece.source) rest := by
  refine ⟨?_, areElements_of_readPieces? h⟩
  rw [flatten_map_source, ← sourceOf_append_of_readPieces? h]

theorem IsLiteral.exists_readPieces? (h : IsLiteral q (q.char :: cs) elements rest) :
    ∃ pieces, elements = pieces.map Piece.source ∧ readPieces? q cs = some (pieces, rest) := by
  obtain ⟨hsplit, helements⟩ := h
  rw [(List.cons.inj hsplit).2]
  exact exists_readPieces?_of_areElements helements

/-- **A text is a literal in one way only.** -/
theorem IsLiteral.unique {elements' : List (List Char)} {rest' : List Char}
    (h : IsLiteral q cs elements rest) (h' : IsLiteral q cs elements' rest') :
    elements' = elements ∧ rest' = rest := by
  obtain rfl := h.split
  obtain ⟨pieces, rfl, hread⟩ := h.exists_readPieces?
  obtain ⟨pieces', rfl, hread'⟩ := h'.exists_readPieces?
  obtain ⟨rfl, rfl⟩ := Prod.mk.inj (Option.some.inj (hread.symm.trans hread'))
  exact ⟨rfl, rfl⟩

/-! ## The scan -/

/-- Without a quote at its head a text is no string, and with one it is not taken for anything
else. -/
theorem read_eq_noMatch_iff : read cs = .error .noMatch ↔ ∀ q : Quote, cs.head? ≠ some q.char := by
  constructor
  · intro h q hhead
    obtain ⟨cs', rfl⟩ := List.head?_eq_some_iff.mp hhead
    rw [read_quote] at h
    split at h <;> exact absurd h (by simp)
  · intro h
    cases cs with
    | nil => rfl
    | cons c cs =>
      cases hquote : Quote.ofChar? c with
      | none => rw [read, hquote]
      | some q => exact absurd (congrArg some (Quote.ofChar?_eq_some_iff.mp hquote)) (h q)

/-- A literal is read, whole. -/
theorem exists_read_of_isLiteral (h : IsLiteral q cs elements rest) :
    ∃ found, read cs = .ok found ∧ found.source = q.char :: elements.flatten ++ [q.char] ∧
      found.detail = q := by
  obtain rfl := h.split
  obtain ⟨pieces, rfl, hread⟩ := h.exists_readPieces?
  rw [read_quote, hread]
  exact ⟨_, rfl, by rw [flatten_map_source], rfl⟩

/-- A quote that no literal begins with is never closed. -/
theorem read_eq_unterminated (hhead : cs.head? = some q.char)
    (hnone : ¬∃ elements rest, IsLiteral q cs elements rest) : read cs = .error .unterminated := by
  obtain ⟨cs', rfl⟩ := List.head?_eq_some_iff.mp hhead
  rw [read_quote]
  cases hread : readPieces? q cs' with
  | none => rfl
  | some found => exact absurd ⟨_, _, isLiteral_of_readPieces? hread⟩ hnone

/-- **The scan for a string accepts exactly the literals.** It finds none if and only if the text
behind the blanks begins with no quote. Behind a quote it succeeds if and only if the text is a
literal with that quote; the literal's elements are then the only ones, and the source is all of
them between the two quotes. Otherwise the literal is unterminated, at the place of its quote. -/
theorem scanHead_isLiteral (input : List Char) :
    (recognizer.scanHead input = .error (.noMatch .string (leadingBlank input).length) ↔
      ∀ q : Quote, (skipBlank input).head? ≠ some q.char) ∧
    ∀ q : Quote, (skipBlank input).head? = some q.char →
      ((∃ t, recognizer.scanHead input = .ok t) ↔
        ∃ elements rest, IsLiteral q (skipBlank input) elements rest) ∧
      (∀ elements rest, IsLiteral q (skipBlank input) elements rest →
        (∀ elements' rest', IsLiteral q (skipBlank input) elements' rest' →
          elements' = elements ∧ rest' = rest) ∧
        ∃ t, recognizer.scanHead input = .ok t ∧
          t.source = q.char :: elements.flatten ++ [q.char] ∧ t.detail = q) ∧
      ((¬∃ elements rest, IsLiteral q (skipBlank input) elements rest) →
        recognizer.scanHead input =
          .error (.unterminated .string (leadingBlank input).length)) := by
  have hmiss : ∀ miss : Miss,
      recognizer.scanHead input = .error (miss.toError .string (leadingBlank input).length) ↔
        read (skipBlank input) = .error miss :=
    fun _ => Recognizer.scanHead_eq_toError_iff
  have hliteral : ∀ {q elements rest}, IsLiteral q (skipBlank input) elements rest →
      ∃ t, recognizer.scanHead input = .ok t ∧
        t.source = q.char :: elements.flatten ++ [q.char] ∧ t.detail = q := by
    intro q elements rest h
    obtain ⟨found, hread, hsource, hquote⟩ := exists_read_of_isLiteral h
    exact ⟨_, Recognizer.scanHead_eq_ok_iff.mpr ⟨found, hread, rfl⟩, hsource, hquote⟩
  have hnone : ∀ {q : Quote}, (skipBlank input).head? = some q.char →
      (¬∃ elements rest, IsLiteral q (skipBlank input) elements rest) →
      recognizer.scanHead input = .error (.unterminated .string (leadingBlank input).length) :=
    fun hhead hnone => (hmiss .unterminated).mpr (read_eq_unterminated hhead hnone)
  refine ⟨(hmiss .noMatch).trans read_eq_noMatch_iff, fun q hhead => ⟨⟨?_, ?_⟩, ?_, hnone hhead⟩⟩
  · intro h
    obtain ⟨t, ht⟩ := h
    by_contra hnot
    rw [hnone hhead hnot] at ht
    exact absurd ht (by simp)
  · intro h
    obtain ⟨elements, rest, h⟩ := h
    obtain ⟨t, ht, -⟩ := hliteral h
    exact ⟨t, ht⟩
  · intro elements rest h
    exact ⟨fun _ _ h' => h.unique h', hliteral h⟩

/-- A line feed behind an escaped carriage return belongs to it, so the text is one literal between
single quotes, where no line feed may stand alone. -/
theorem scanHead_isLiteral_brokenLine :
    IsLiteral .single ['\'', '\\', '\r', '\n', '\''] [['\\', '\r', '\n']] [] ∧
      ∃ t, recognizer.scanHead ['\'', '\\', '\r', '\n', '\''] = .ok t ∧
        t.source = ['\'', '\\', '\r', '\n', '\''] ∧ t.detail = .single := by
  have hliteral : IsLiteral .single ['\'', '\\', '\r', '\n', '\''] [['\\', '\r', '\n']] [] :=
    ⟨rfl, .brokenLine, trivial⟩
  have hscan := (scanHead_isLiteral ['\'', '\\', '\r', '\n', '\'']).2 .single rfl
  exact ⟨hliteral, (hscan.2.1 _ _ hliteral).2⟩

end Quoted

end ScriptLiterals
