import ScriptLiterals.Proofs.Number.Readers
import ScriptLiterals.Proofs.Readers

/-!
# Where a literal stands

A token says where its literal stands twice over: as a range of bytes and as a range of characters.
`AnyToken.StandsIn` is all that can be said about these numbers: they are the measures of the
leading blanks and of the literal behind them, each range cuts exactly the literal out of the text,
and the bytes are never cut inside a character.

None of it depends on what the literal means. A reader is exact (`Recognizer.Exact`) if what it
reads is the head of the text and not empty, and the tokens of an exact reader stand where they say
(`Token.LeadsIn.standsIn`). So each kind of literal owes one lemma, that its reader is exact; it
follows from what the reader's parts are, put together again.
-/

set_option autoImplicit false

namespace ScriptLiterals

open Text

variable {α δ : Type} {input : List Char}

/-! ## Places -/

/-- The literal stands where the token says. -/
structure AnyToken.StandsIn (t : AnyToken) (input : List Char) : Prop where
  /-- The characters before the literal are the leading blanks, and no others. -/
  offset_eq : t.offset = (leadingBlank input).length
  /-- So are the bytes. -/
  start_eq : t.span.start = byteCount (leadingBlank input)
  start_lt_stop : t.span.start < t.span.stop
  stop_le : t.span.stop ≤ byteCount input
  start_boundary : IsCharBoundary input t.span.start
  stop_boundary : IsCharBoundary input t.span.stop
  /-- The range of bytes of the encoded text is the encoded literal. -/
  extract_eq : input.utf8Encode.extract t.span.start t.span.stop = t.source.utf8Encode
  /-- The range of characters of the text is the literal. -/
  take_drop_eq : (input.drop t.offset).take t.length = t.source
  finish_eq : t.finish = t.offset + t.length
  /-- The end counts the characters up to the last byte of the range. -/
  length_takeBytes : (takeBytes t.span.stop input).length = t.finish
  source_ne_nil : t.source ≠ []
  source_head : ∀ c ∈ t.source.head?, isBlank c = false

/-- The token's literal is what follows the leading blanks. -/
structure Token.LeadsIn (t : Token α δ) (input : List Char) : Prop where
  split : ∃ rest, skipBlank input = t.source ++ rest
  source_ne_nil : t.source ≠ []
  offset_eq : t.offset = (leadingBlank input).length
  start_eq : t.start = byteCount (leadingBlank input)

/-- The text is the leading blanks, the literal, and what follows it. -/
theorem Token.LeadsIn.exists_rest {t : Token α δ} (h : t.LeadsIn input) :
    ∃ rest, input = leadingBlank input ++ t.source ++ rest := by
  obtain ⟨rest, hrest⟩ := h.split
  exact ⟨rest, by rw [List.append_assoc, ← hrest, leadingBlank_append_skipBlank]⟩

theorem Token.LeadsIn.stop_eq {t : Token α δ} (h : t.LeadsIn input) :
    t.span.stop = byteCount (leadingBlank input ++ t.source) := by
  rw [byteCount_append, ← h.start_eq]
  rfl

/-- Cut off behind the literal, the text is the leading blanks and the literal. -/
theorem Token.LeadsIn.takeBytes_stop {t : Token α δ} (h : t.LeadsIn input) :
    takeBytes t.span.stop input = leadingBlank input ++ t.source := by
  obtain ⟨rest, hinput⟩ := h.exists_rest
  have htake := takeBytes_append (leadingBlank input ++ t.source) rest
  rwa [← h.stop_eq, ← hinput] at htake

/-- And what is cut off is what follows the literal. -/
theorem Token.LeadsIn.append_dropBytes_stop {t : Token α δ} (h : t.LeadsIn input) :
    leadingBlank input ++ t.source ++ dropBytes t.span.stop input = input := by
  obtain ⟨rest, hinput⟩ := h.exists_rest
  have hdrop := dropBytes_append (leadingBlank input ++ t.source) rest
  rw [← h.stop_eq, ← hinput] at hdrop
  rw [hdrop, ← hinput]

/-- The literal does not begin with a blank. -/
theorem Token.LeadsIn.endsRun {t : Token α δ} (h : t.LeadsIn input) (more : List Char) :
    EndsRun isBlank (t.source ++ more) := by
  obtain ⟨rest, hrest⟩ := h.split
  have hend := endsRun_dropWhile isBlank input
  rw [show input.dropWhile isBlank = t.source ++ rest from hrest] at hend
  cases hsource : t.source with
  | nil => exact absurd hsource h.source_ne_nil
  | cons c cs =>
    rw [hsource] at hend
    exact endsRun_cons.mpr (endsRun_cons.mp hend)

/-- **What follows the leading blanks stands where its token says**, whatever its kind. -/
theorem Token.LeadsIn.standsIn {token : Token α δ} {t : AnyToken} (h : token.LeadsIn input)
    (hsource : t.source = token.source) (hoffset : t.offset = token.offset)
    (hspan : t.span = token.span) : t.StandsIn input := by
  have hhead : ∀ c ∈ t.source.head?, isBlank c = false := by
    intro c hc
    refine h.endsRun [] c ?_
    rw [← hsource, List.append_nil]
    exact hc
  have htake := h.takeBytes_stop
  obtain ⟨⟨rest, hrest⟩, hne, hchars, hbytes⟩ := h
  rw [← hspan, ← hsource] at htake
  rw [← hsource] at hrest hne
  have hinput : input = leadingBlank input ++ (t.source ++ rest) := by
    rw [← hrest, leadingBlank_append_skipBlank]
  have hoff : t.offset = (leadingBlank input).length := hoffset.trans hchars
  have hstart : t.span.start = byteCount (leadingBlank input) := by
    rw [hspan, ← hbytes]
    rfl
  have hstop : t.span.stop = byteCount (leadingBlank input) + byteCount t.source := by
    rw [hspan, hsource, ← hbytes]
    rfl
  have hpos := byteCount_pos hne
  -- from here on the blanks are just the first part of the text
  generalize hblanks : leadingBlank input = blanks at hinput hoff hstart hstop htake
  have hcut : t.span.stop = byteCount (blanks ++ t.source) := by rw [hstop, byteCount_append]
  subst hinput
  refine ⟨by rw [hoff, hblanks], by rw [hstart, hblanks], by omega, ?_,
    ⟨blanks, _, rfl, hstart.symm⟩, ⟨blanks ++ t.source, rest, by simp, hcut.symm⟩, ?_, ?_, rfl, ?_,
    hne, hhead⟩
  · rw [hstop, byteCount_append, byteCount_append]
    omega
  · rw [hstart, hstop]
    exact extract_utf8Encode blanks t.source rest
  · rw [hoff, List.drop_left]
    exact List.take_left
  · rw [htake, List.length_append, ← hoff]
    rfl

/-! ## Exact readers -/

namespace Recognizer

variable {r : Recognizer α δ}

/-- What the reader reads is the head of the text, and not empty. -/
def Exact (r : Recognizer α δ) : Prop :=
  ∀ cs found, r.read cs = .ok found → cs = found.source ++ found.rest ∧ found.source ≠ []

theorem Exact.leadsIn {found : Lexeme α δ} (hr : r.Exact)
    (hread : r.read (skipBlank input) = .ok found) :
    (found.behind (leadingBlank input)).LeadsIn input := by
  obtain ⟨hsplit, hne⟩ := hr _ _ hread
  exact ⟨⟨found.rest, hsplit⟩, hne, rfl, rfl⟩

theorem Exact.leadsIn_of_scan {t : Token α δ} (hr : r.Exact) (h : r.scan input = .ok t) :
    t.LeadsIn input := by
  obtain ⟨found, hread, -, rfl⟩ := scan_eq_ok_iff.mp h
  exact hr.leadsIn hread

theorem Exact.leadsIn_of_scanHead {t : Token α δ} (hr : r.Exact) (h : r.scanHead input = .ok t) :
    t.LeadsIn input := by
  obtain ⟨found, hread, rfl⟩ := scanHead_eq_ok_iff.mp h
  exact hr.leadsIn hread

end Recognizer

theorem Number.recognizer_exact : Number.recognizer.Exact := by
  intro cs found h
  obtain ⟨m, value, hm, -, rfl⟩ := Number.read_eq_ok_iff.mp h
  obtain ⟨hsplit, hne⟩ := Magnitude.source_append_of_read? hm
  refine ⟨?_, by simp [hne]⟩
  rw [List.append_assoc, ← hsplit, Magnitude.readSign_append]

theorem Keyword.recognizer_exact : Keyword.recognizer.Exact := by
  intro cs found h
  obtain ⟨k, rest, hcs, -, rfl⟩ := Keyword.read_eq_ok_iff.mp h
  exact ⟨hcs, k.word_ne_nil⟩

theorem Quoted.recognizer_exact : Quoted.recognizer.Exact := by
  intro cs found h
  obtain ⟨q, behind, pieces, rest, rfl, hpieces, rfl⟩ := Quoted.read_eq_ok_iff.mp h
  refine ⟨?_, by simp⟩
  rw [Quoted.sourceOf_append_of_readPieces? hpieces]
  simp

theorem Regexp.recognizer_exact : Regexp.recognizer.Exact := by
  intro cs found h
  obtain ⟨text, body, behind, value, rfl, -, hbody, -, rfl⟩ := Regexp.read_eq_ok_iff.mp h
  refine ⟨?_, by simp [Regexp.lexemeOf]⟩
  have hflags := RegexpFlags.readRun_append .none behind
  rw [Regexp.append_of_splitBody? hbody]
  conv_lhs => rw [← hflags]
  simp [Regexp.lexemeOf]

theorem Comment.recognizer_exact : Comment.recognizer.Exact := by
  intro cs found h
  rcases Comment.read_eq_ok_iff.mp h with ⟨text, rfl, rfl⟩ | ⟨text, inner, rest, rfl, hinner, rfl⟩
  · refine ⟨?_, by simp [Comment.lexemeOf]⟩
    simp [Comment.lexemeOf, List.takeWhile_append_dropWhile]
  · refine ⟨?_, by simp [Comment.lexemeOf]⟩
    rw [Comment.append_of_splitAtCloser? hinner]
    simp [Comment.lexemeOf]

/-! ## All kinds -/

theorem standsIn_of_scanKind {kind : Kind} {allowTrailing : Bool} {t : AnyToken}
    (h : scanKind kind allowTrailing input = .ok t) : t.StandsIn input := by
  cases kind with
  | comment =>
    obtain ⟨token, htoken, rfl⟩ := except_map_eq_ok_iff.mp h
    exact (Comment.recognizer_exact.leadsIn_of_scan htoken).standsIn rfl rfl rfl
  | regexp =>
    obtain ⟨token, htoken, rfl⟩ := except_map_eq_ok_iff.mp h
    exact (Regexp.recognizer_exact.leadsIn_of_scan htoken).standsIn rfl rfl rfl
  | string =>
    obtain ⟨token, htoken, rfl⟩ := except_map_eq_ok_iff.mp h
    exact (Quoted.recognizer_exact.leadsIn_of_scan htoken).standsIn rfl rfl rfl
  | keyword =>
    obtain ⟨token, htoken, rfl⟩ := except_map_eq_ok_iff.mp h
    exact (Keyword.recognizer_exact.leadsIn_of_scan htoken).standsIn rfl rfl rfl
  | number =>
    obtain ⟨token, htoken, rfl⟩ := except_map_eq_ok_iff.mp h
    have hleads : token.LeadsIn input := by
      cases allowTrailing with
      | false => exact Number.recognizer_exact.leadsIn_of_scan htoken
      | true => exact Number.recognizer_exact.leadsIn_of_scanHead htoken
    exact hleads.standsIn rfl rfl rfl

/-- **Every token stands where it says**, whichever kind was asked for and with which options, and
also if the kind was left open. -/
theorem AnyToken.standsIn_of_found (input : List Char) (t : AnyToken)
    (h : (∃ kind options, scanAs kind options input = .ok (some t)) ∨ detect input = some t) :
    t.StandsIn input := by
  rcases h with ⟨kind, options, hscan⟩ | hdetect
  · exact standsIn_of_scanKind (settle_eq_ok_some_iff.mp hscan)
  · obtain ⟨kind, -, hfound⟩ := List.exists_of_findSome?_eq_some hdetect
    exact standsIn_of_scanKind (found?_eq_some_iff.mp hfound)

/-- A comment of wide characters behind a blank of three bytes and one of two, and a number whose
exponent has no digits and is left alone. -/
theorem AnyToken.standsIn_wide :
    AnyToken.StandsIn (.comment ⟨['/', '/', 'é', '€', '\n'], 2, 5, ['/', '/', 'é', '€', '\n'], .line⟩)
        ['\u3000', '\u00a0', '/', '/', 'é', '€', '\n', 'x'] ∧
      AnyToken.StandsIn (.number ⟨['-', '1', '2'], 1, 3, .integer (-12), .decimal⟩)
        ['\u2028', '-', '1', '2', 'e', '+', '€'] :=
  ⟨standsIn_of_found _ _ (Or.inr rfl),
    standsIn_of_found _ _ (Or.inl ⟨.number, { allowTrailing := true }, rfl⟩)⟩

end ScriptLiterals
