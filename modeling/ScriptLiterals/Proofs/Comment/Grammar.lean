import ScriptLiterals.Proofs.Comment.Paragraphs

/-!
# The grammar of comments

Where a comment ends is said here about plain texts, by places and without the reader. A line
comment ends with the line breaks behind its line (`LineParts`); a block comment ends with the first
closer that stands behind its opener (`IsFirstCloser`), and if there is none, it is no comment.

The two delimiters of a block comment share their characters, and a doc comment is recognized by a
longer opener than the one that is looked for. So short texts overlap: in `/*/` the star belongs to
the opener and closes nothing, in `/**/` the second star belongs to the closer and makes no doc
comment, and `/***/` is the shortest doc comment. Both questions are settled by what stands between
`/*` and the closer: the form asks for a star there, and a star that is there is not the one of the
closer (`blockForm_eq_doc_iff`, `exists_append_closer`). Hence the opener that `strip` takes off is
always there to be taken.
-/

set_option autoImplicit false

namespace ScriptLiterals.Comment

open Text

variable {cs inner rest input : List Char} {i : Nat} {t : Token (List Char) CommentForm}

/-! ## Lines -/

/-- The text is a line, all the line breaks that follow it, and the rest. -/
structure LineParts (text line breaks rest : List Char) : Prop where
  split : text = line ++ breaks ++ rest
  line_unbroken : ∀ c ∈ line, c ≠ '\n' ∧ c ≠ '\r'
  breaks_only : ∀ c ∈ breaks, c = '\n' ∨ c = '\r'
  /-- Nothing but a line break ends the line. -/
  rest_of_breaks : breaks = [] → rest = []
  breaks_ended : ∀ c ∈ rest.head?, c ≠ '\n' ∧ c ≠ '\r'

theorem isLineBreak_eq_true_iff {c : Char} : isLineBreak c = true ↔ c = '\n' ∨ c = '\r' := by
  simp [isLineBreak]

theorem isLineBreak_eq_false_iff {c : Char} : isLineBreak c = false ↔ c ≠ '\n' ∧ c ≠ '\r' := by
  simp [isLineBreak]

/-- The reader of line comments cuts a text into these parts. -/
theorem lineParts_runs (text : List Char) :
    LineParts text (text.takeWhile fun c => !isLineBreak c)
      ((text.dropWhile fun c => !isLineBreak c).takeWhile isLineBreak)
      ((text.dropWhile fun c => !isLineBreak c).dropWhile isLineBreak) where
  split := by
    rw [List.append_assoc, List.takeWhile_append_dropWhile, List.takeWhile_append_dropWhile]
  line_unbroken := by
    intro c hc
    have hline := List.mem_takeWhile_imp hc
    exact isLineBreak_eq_false_iff.mp (by simpa using hline)
  breaks_only := fun c hc => isLineBreak_eq_true_iff.mp (List.mem_takeWhile_imp hc)
  rest_of_breaks := by
    intro hbreaks
    have hend := endsRun_dropWhile (fun c => !isLineBreak c) text
    cases htail : text.dropWhile fun c => !isLineBreak c with
    | nil => rfl
    | cons c tail =>
      -- what ends the line is a line break, so there is one
      rw [htail] at hend hbreaks
      have hbreak : isLineBreak c = true := by simpa using endsRun_cons.mp hend
      rw [List.takeWhile_cons_of_pos hbreak] at hbreaks
      exact absurd hbreaks (by simp)
  breaks_ended := fun c hc => isLineBreak_eq_false_iff.mp (endsRun_dropWhile isLineBreak _ c hc)

/-! ## Places of closers -/

/-- A closer stands behind the first `i` characters of the text. -/
def ClosesAt (cs : List Char) (i : Nat) : Prop := closer <+: cs.drop i

/-- Behind the first `i` characters stands the first closer of those that have at least `start`
characters before them. -/
structure IsFirstCloser (start : Nat) (cs : List Char) (i : Nat) : Prop where
  start_le : start ≤ i
  closes : ClosesAt cs i
  first : ∀ j, start ≤ j → j < i → ¬ClosesAt cs j

/-- Of the closers behind a place one is the first. -/
theorem exists_isFirstCloser {start : Nat} (h : ∃ i, start ≤ i ∧ ClosesAt cs i) :
    ∃ i, IsFirstCloser start cs i := by
  classical
  have hfound := Nat.find_spec h
  exact ⟨Nat.find h, hfound.1, hfound.2,
    fun j hj hlt hcloses => Nat.find_min h hlt ⟨hj, hcloses⟩⟩

theorem exists_closesAt_iff : (∃ i, ClosesAt cs i) ↔ closer <:+: cs := by
  constructor
  · intro h
    obtain ⟨i, hi⟩ := h
    exact hi.isInfix.trans (List.drop_suffix i cs).isInfix
  · intro h
    obtain ⟨before, after, rfl⟩ := h
    refine ⟨before.length, after, ?_⟩
    rw [List.append_assoc, List.drop_left]

/-- A text is cut at a closer if it has one. -/
theorem splitAtCloser?_eq_none_iff : splitAtCloser? cs = none ↔ NoCloser cs := by
  fun_induction splitAtCloser? cs with
  | case1 => exact iff_of_true rfl noCloser_nil
  | case2 cs => exact iff_of_false (by simp) fun h => h ⟨[], cs, rfl⟩
  | case3 c cs hopen ih =>
    rw [Option.map_eq_none_iff, ih, noCloser_cons_iff]
    refine ⟨fun h => ⟨fun hc hhead => ?_, h⟩, And.right⟩
    obtain ⟨cs', rfl⟩ := List.head?_eq_some_iff.mp hhead
    exact hopen cs' hc rfl

/-- **It is cut at the first closer.** -/
theorem IsFirstCloser.splitAtCloser?_eq (h : IsFirstCloser 0 cs i) :
    splitAtCloser? cs = some (cs.take i, cs.drop (i + 2)) := by
  induction i generalizing cs with
  | zero =>
    obtain ⟨rest, rfl⟩ := h.closes
    rfl
  | succ i ih =>
    cases cs with
    | nil => exact absurd h.closes (by simp [ClosesAt, closer])
    | cons c cs =>
      have hlater : IsFirstCloser 0 cs i :=
        ⟨Nat.zero_le i, h.closes, fun j _ hj => h.first (j + 1) (Nat.zero_le _) (by omega)⟩
      rw [splitAtCloser?, ih hlater]
      · rfl
      · rintro rest rfl rfl
        exact h.first 0 (Nat.le_refl 0) (by omega) ⟨rest, rfl⟩

/-- Places behind an opener are places of the text behind it. -/
theorem IsFirstCloser.of_opener {a b : Char} (h : IsFirstCloser 2 (a :: b :: cs) i) :
    ∃ j, i = j + 2 ∧ IsFirstCloser 0 cs j := by
  obtain ⟨j, rfl⟩ : ∃ j, i = j + 2 := ⟨i - 2, by have := h.start_le; omega⟩
  exact ⟨j, rfl, Nat.zero_le j, h.closes,
    fun k _ hk => h.first (k + 2) (by omega) (by omega)⟩

theorem exists_closesAt_opener_iff {a b : Char} :
    (∃ i, 2 ≤ i ∧ ClosesAt (a :: b :: cs) i) ↔ closer <:+: cs := by
  rw [← exists_closesAt_iff]
  constructor
  · intro h
    obtain ⟨i, hi, hcloses⟩ := h
    obtain ⟨j, rfl⟩ : ∃ j, i = j + 2 := ⟨i - 2, by omega⟩
    exact ⟨j, hcloses⟩
  · intro h
    obtain ⟨j, hcloses⟩ := h
    exact ⟨j + 2, by omega, hcloses⟩

/-- Up to the end of a closer the text is what stands before it, and the closer. -/
theorem ClosesAt.take_eq (h : ClosesAt cs i) : cs.take (i + 2) = cs.take i ++ closer := by
  obtain ⟨rest, hrest⟩ := h
  rw [List.take_add, ← hrest]
  rfl

/-! ## What the reader takes -/

theorem read_block (text : List Char) : read ('/' :: '*' :: text) =
    match splitAtCloser? text with
    | none => .error .unterminated
    | some (inner, rest) =>
      .ok (lexemeOf ('/' :: '*' :: inner ++ closer) rest (blockForm inner)) := by
  rw [read]
  rfl

/-- A block comment that is never closed is not read, and no other is missed. -/
theorem read_block_eq_unterminated_iff {text : List Char} :
    read ('/' :: '*' :: text) = .error .unterminated ↔ NoCloser text := by
  rw [read_block, ← splitAtCloser?_eq_none_iff]
  cases splitAtCloser? text <;> simp

/-! ## Forms -/

/-- **A comment is a doc comment if it begins as one and is longer than the shortest comment**,
whose second star closes it. -/
theorem blockForm_eq_doc_iff (inner : List Char) : blockForm inner = .doc ↔
    CommentForm.doc.opener <+: '/' :: '*' :: inner ++ closer ∧
      ['/', '*', '*', '/'].length < ('/' :: '*' :: inner ++ closer).length := by
  cases inner with
  | nil => exact iff_of_false (by simp [blockForm]) (by simp [closer])
  | cons c inner =>
    have hform : blockForm (c :: inner) = .doc ↔ c = '*' := by
      by_cases hc : c = '*'
      · subst hc
        exact iff_of_true rfl rfl
      · refine iff_of_false ?_ hc
        rw [blockForm]
        · simp
        · exact fun _ heq => hc (List.cons.inj heq).1
    rw [hform]
    simp [CommentForm.opener, closer, eq_comm]

/-- What has a closer is no line comment. -/
theorem blockForm_ne_line (inner : List Char) : blockForm inner ≠ .line := by
  fun_cases blockForm inner with
  | case1 => decide
  | case2 => decide

/-- **A block comment begins with the opener of its form and ends with a closer of its own.** -/
theorem exists_append_closer (inner : List Char) :
    ∃ text, '/' :: '*' :: inner ++ closer = (blockForm inner).opener ++ text ++ closer := by
  fun_cases blockForm inner with
  | case1 text => exact ⟨text, rfl⟩
  | case2 => exact ⟨inner, rfl⟩

/-! ## The scan -/

/-- Anything may follow a comment, so what is read is found. -/
theorem scan_eq_ok_iff : recognizer.scan input = .ok t ↔
    ∃ found, read (skipBlank input) = .ok found ∧ t = found.behind (leadingBlank input) := by
  rw [Recognizer.scan_eq_ok_iff]
  exact exists_congr fun found => and_congr_right fun _ => and_iff_right rfl

theorem scan_line {text : List Char} (h : skipBlank input = '/' :: '/' :: text) :
    ∃ t line breaks rest, recognizer.scan input = .ok t ∧ LineParts text line breaks rest ∧
      t.source = '/' :: '/' :: (line ++ breaks) ∧ t.detail = .line := by
  have hread := read_eq_ok_iff.mpr (Or.inl ⟨text, h, rfl⟩)
  exact ⟨_, _, _, _, scan_eq_ok_iff.mpr ⟨_, hread, rfl⟩, lineParts_runs text, rfl, rfl⟩

/-- A block comment ends with the first closer behind its opener. -/
theorem IsFirstCloser.exists_scan (hopener : ['/', '*'] <+: skipBlank input)
    (h : IsFirstCloser 2 (skipBlank input) i) :
    ∃ t, recognizer.scan input = .ok t ∧ t.source = (skipBlank input).take (i + 2) := by
  obtain ⟨text, htext⟩ := hopener
  rw [← htext] at h ⊢
  obtain ⟨j, rfl, hj⟩ := h.of_opener
  have hread := read_eq_ok_iff.mpr (Or.inr ⟨text, _, _, htext.symm, hj.splitAtCloser?_eq, rfl⟩)
  refine ⟨_, scan_eq_ok_iff.mpr ⟨_, hread, rfl⟩, ?_⟩
  rw [h.closes.take_eq]
  rfl

/-- And without one it is unterminated. -/
theorem scan_eq_unterminated (hopener : ['/', '*'] <+: skipBlank input)
    (h : ¬∃ i, 2 ≤ i ∧ ClosesAt (skipBlank input) i) :
    recognizer.scan input = .error (.unterminated .comment (leadingBlank input).length) := by
  obtain ⟨text, htext⟩ := hopener
  rw [← htext] at h
  have hread : recognizer.read (skipBlank input) = .error .unterminated := by
    rw [← htext]
    exact read_block_eq_unterminated_iff.mpr (mt exists_closesAt_opener_iff.mpr h)
  exact Recognizer.scan_of_read_eq_error hread

theorem exists_scan_iff (hopener : ['/', '*'] <+: skipBlank input) :
    (∃ t, recognizer.scan input = .ok t) ↔ ∃ i, 2 ≤ i ∧ ClosesAt (skipBlank input) i := by
  constructor
  · intro h
    obtain ⟨t, ht⟩ := h
    by_contra hcloser
    rw [scan_eq_unterminated hopener hcloser] at ht
    exact absurd ht (by simp)
  · intro h
    obtain ⟨i, hi⟩ := exists_isFirstCloser h
    obtain ⟨t, ht, -⟩ := hi.exists_scan hopener
    exact ⟨t, ht⟩

/-- What is found is a line comment behind `//`, or one with a closer of its own behind `/*`. -/
theorem scan_cases (h : recognizer.scan input = .ok t) :
    (∃ text taken, skipBlank input = '/' :: '/' :: text ∧ t.source = '/' :: '/' :: taken ∧
      t.detail = .line) ∨
    ∃ text inner, skipBlank input = '/' :: '*' :: text ∧ t.source = '/' :: '*' :: inner ++ closer ∧
      t.detail = blockForm inner := by
  obtain ⟨found, hread, rfl⟩ := scan_eq_ok_iff.mp h
  rcases read_eq_ok_iff.mp hread with ⟨text, htext, rfl⟩ | ⟨text, inner, rest, htext, -, rfl⟩
  · exact Or.inl ⟨text, _, htext, rfl, rfl⟩
  · exact Or.inr ⟨text, inner, htext, rfl, rfl⟩

/-- Line comments are those that `//` begins. -/
theorem detail_eq_line_iff (h : recognizer.scan input = .ok t) :
    t.detail = .line ↔ ['/', '/'] <+: skipBlank input := by
  rcases scan_cases h with ⟨text, _, htext, -, hline⟩ | ⟨text, inner, htext, -, hform⟩
  · exact iff_of_true hline ⟨text, htext.symm⟩
  · rw [hform, htext]
    exact iff_of_false (blockForm_ne_line inner) (by simp)

/-- Behind `/*` there is no third form. -/
theorem detail_eq_block_iff (h : recognizer.scan input = .ok t) :
    t.detail = .block ↔ ['/', '*'] <+: skipBlank input ∧ t.detail ≠ .doc := by
  rcases scan_cases h with ⟨text, _, htext, -, hline⟩ | ⟨text, inner, htext, -, hform⟩
  · rw [hline, htext]
    simp
  · have hopener : ['/', '*'] <+: skipBlank input := ⟨text, htext.symm⟩
    rw [hform, and_iff_right hopener]
    cases hinner : blockForm inner with
    | line => exact absurd hinner (blockForm_ne_line inner)
    | block => simp
    | doc => simp

/-- The form that is reported is the one the source has, and `strip` can take its delimiters off. -/
theorem form_of_scan (h : recognizer.scan input = .ok t) :
    (t.detail = .doc ↔ CommentForm.doc.opener <+: t.source ∧
      ['/', '*', '*', '/'].length < t.source.length) ∧
    (t.detail ≠ .line → ∃ inner, t.source = t.detail.opener ++ inner ++ closer ∧
      inner? t.detail t.source = some inner) := by
  rcases scan_cases h with ⟨_, taken, -, hsource, hline⟩ | ⟨_, inner, -, hsource, hform⟩
  · rw [hline, hsource]
    exact ⟨iff_of_false (by simp) (by simp [CommentForm.opener]), fun hne => absurd rfl hne⟩
  · rw [hform, hsource]
    refine ⟨blockForm_eq_doc_iff inner, fun _ => ?_⟩
    obtain ⟨inner', hinner⟩ := exists_append_closer inner
    exact ⟨inner', hinner, by rw [hinner, inner?_append]⟩

/-- **The scan for a comment takes exactly the comment.** Behind `//` it takes the line and all the
line breaks that follow it. Behind `/*` it succeeds if and only if a closer stands behind the
opener; then the comment ends with the first such closer, and otherwise it is unterminated, at the
place of its opener. Line comments are those behind `//`. Behind `/*` the form is that of a doc comment
exactly if the comment begins with `/**` and is longer than the shortest comment, and otherwise it is
that of a block comment. `strip` finds the opener of the form and the closer around both. -/
theorem scan_isComment (input : List Char) :
    (∀ text, skipBlank input = '/' :: '/' :: text →
      ∃ t line breaks rest, recognizer.scan input = .ok t ∧ LineParts text line breaks rest ∧
        t.source = '/' :: '/' :: (line ++ breaks) ∧ t.detail = .line) ∧
    (['/', '*'] <+: skipBlank input →
      ((∃ t, recognizer.scan input = .ok t) ↔ ∃ i, 2 ≤ i ∧ ClosesAt (skipBlank input) i) ∧
      (∀ i, IsFirstCloser 2 (skipBlank input) i →
        ∃ t, recognizer.scan input = .ok t ∧ t.source = (skipBlank input).take (i + 2)) ∧
      ((¬∃ i, 2 ≤ i ∧ ClosesAt (skipBlank input) i) →
        recognizer.scan input =
          .error (.unterminated .comment (leadingBlank input).length))) ∧
    ∀ t, recognizer.scan input = .ok t →
      (t.detail = .line ↔ ['/', '/'] <+: skipBlank input) ∧
      (t.detail = .block ↔ ['/', '*'] <+: skipBlank input ∧ t.detail ≠ .doc) ∧
      (t.detail = .doc ↔ CommentForm.doc.opener <+: t.source ∧
        ['/', '*', '*', '/'].length < t.source.length) ∧
      (t.detail ≠ .line → ∃ inner, t.source = t.detail.opener ++ inner ++ closer ∧
        inner? t.detail t.source = some inner) := by
  refine ⟨fun text htext => scan_line htext, fun hopener => ?_, fun t ht => ?_⟩
  · exact ⟨exists_scan_iff hopener, fun i hi => hi.exists_scan hopener,
      scan_eq_unterminated hopener⟩
  · exact ⟨detail_eq_line_iff ht, detail_eq_block_iff ht, form_of_scan ht⟩

/-- The shortest doc comment is closed by its third star, and what looks like another closer behind
it is not looked at. With one star less the comment is a block comment. With two less, the text has the
characters of a closer and no closer. -/
theorem scan_isComment_overlap :
    IsFirstCloser 2 ['/', '*', '*', '*', '/', '*', '/'] 3 ∧
      (∃ t, recognizer.scan ['/', '*', '*', '*', '/', '*', '/'] = .ok t ∧
        t.source = ['/', '*', '*', '*', '/'] ∧ t.detail = .doc ∧
        ∃ inner, inner? t.detail t.source = some inner) ∧
      (∃ t, recognizer.scan ['/', '*', '*', '/', '*', '/'] = .ok t ∧
        t.source = ['/', '*', '*', '/'] ∧ t.detail = .block) ∧
      recognizer.scan [' ', '/', '*', '/', ' '] = .error (.unterminated .comment 1) := by
  have hfirst : IsFirstCloser 2 ['/', '*', '*', '*', '/', '*', '/'] 3 := by
    refine ⟨by decide, ⟨['*', '/'], rfl⟩, fun j hstart hj => ?_⟩
    obtain rfl : j = 2 := by omega
    simp [ClosesAt, closer]
  obtain ⟨-, hblock, hall⟩ := scan_isComment ['/', '*', '*', '*', '/', '*', '/']
  obtain ⟨-, hends, -⟩ := hblock ⟨['*', '*', '/', '*', '/'], rfl⟩
  obtain ⟨t, ht, hsource⟩ := hends 3 hfirst
  obtain ⟨-, -, hform, hstrip⟩ := hall t ht
  have hdoc : t.detail = .doc := hform.mpr (by rw [hsource]; decide)
  obtain ⟨inner, -, hinner⟩ := hstrip (by rw [hdoc]; decide)
  refine ⟨hfirst, ⟨t, ht, hsource, hdoc, inner, hinner⟩, ?_, ?_⟩
  · have hshort : IsFirstCloser 2 ['/', '*', '*', '/', '*', '/'] 2 :=
      ⟨Nat.le_refl 2, ⟨['*', '/'], rfl⟩, fun j hstart hj => by omega⟩
    obtain ⟨-, hblock, hall⟩ := scan_isComment ['/', '*', '*', '/', '*', '/']
    have hopener : ['/', '*'] <+: skipBlank ['/', '*', '*', '/', '*', '/'] :=
      ⟨['*', '/', '*', '/'], rfl⟩
    obtain ⟨t, ht, hsource⟩ := (hblock hopener).2.1 2 hshort
    obtain ⟨-, hplain, hform, -⟩ := hall t ht
    refine ⟨t, ht, hsource, hplain.mpr ⟨hopener, fun hdoc => ?_⟩⟩
    exact absurd (hform.mp hdoc).2 (by rw [hsource]; decide)
  · obtain ⟨-, hopen, -⟩ := scan_isComment [' ', '/', '*', '/', ' ']
    refine (hopen ⟨['/', ' '], rfl⟩).2.2 fun h => ?_
    have hcloser := exists_closesAt_opener_iff.mp h
    exact absurd hcloser (by decide)

end ScriptLiterals.Comment
