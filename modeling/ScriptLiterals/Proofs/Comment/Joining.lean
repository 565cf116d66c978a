import ScriptLiterals.Proofs.Comment.Paragraphs

/-!
# What stands between the lines of a paragraph

The lines of a comment are joined without loss: each line that is not empty is there, once and in its
place. What stands between two of them can be told from their numbers (`joined_eq_glued`). If they
follow one another it is a blank, and else, with nothing but empty lines between them, a line feed,
however many these are.

Nothing stands in front of the first line or behind the last. So where lines are trimmed the result is
trimmed as well, as a whole and in each of its lines, which are the paragraphs (`lines_joined`).
-/

set_option autoImplicit false

namespace ScriptLiterals

open Text

variable {line next sep : List Char} {ls paragraph : List (List Char)}

/-! ## Separators -/

namespace Text

/-- What stands between two trimmed texts does not matter, unless one of them is empty. -/
theorem IsTrimmed.append {first last : List Char} (hfirst : IsTrimmed first) (hne : first ≠ [])
    (hlast : IsTrimmed last) (hne' : last ≠ []) (sep : List Char) :
    IsTrimmed (first ++ (sep ++ last)) where
  head := by
    obtain ⟨c, cs, rfl⟩ := List.exists_cons_of_ne_nil hne
    exact endsRun_cons.mpr (endsRun_cons.mp hfirst.head)
  last := by
    obtain ⟨cs, c, rfl⟩ := (List.eq_nil_or_concat last).resolve_left hne'
    intro d hd
    refine hlast.last d ?_
    simpa [← List.append_assoc] using hd

theorem intercalate_ne_nil (hls : ls ≠ []) (h : ∀ line ∈ ls, line ≠ []) :
    sep.intercalate ls ≠ [] := by
  cases ls with
  | nil => exact absurd rfl hls
  | cons line later =>
    have hline := h line List.mem_cons_self
    cases later with
    | nil => simpa using hline
    | cons next later => simp [List.intercalate_cons_cons, hline]

theorem notMem_intercalate {c : Char} (hsep : c ∉ sep) (h : ∀ line ∈ ls, c ∉ line) :
    c ∉ sep.intercalate ls := by
  induction ls with
  | nil => simp
  | cons line later ih =>
    have hline : c ∉ line := h line List.mem_cons_self
    have hlater : c ∉ sep.intercalate later :=
      ih fun line hmem => h line (List.mem_cons_of_mem _ hmem)
    cases later with
    | nil => simpa using hline
    | cons next later =>
      rw [List.intercalate_cons_cons, List.mem_append, List.mem_append]
      rintro ((hmem | hmem) | hmem)
      · exact hline hmem
      · exact hsep hmem
      · exact hlater hmem

/-- Trimmed lines are trimmed together, since none of them is empty. -/
theorem isTrimmed_intercalate (h : ∀ line ∈ ls, line ≠ [] ∧ IsTrimmed line) :
    IsTrimmed (sep.intercalate ls) := by
  induction ls with
  | nil => exact isTrimmed_nil
  | cons line later ih =>
    obtain ⟨hne, hline⟩ := h line List.mem_cons_self
    have hlater : ∀ line ∈ later, line ≠ [] ∧ IsTrimmed line :=
      fun line hmem => h line (List.mem_cons_of_mem _ hmem)
    cases later with
    | nil => simpa using hline
    | cons next later =>
      rw [List.intercalate_cons_cons, List.append_assoc]
      refine hline.append hne (ih hlater) ?_ sep
      exact intercalate_ne_nil (by simp) fun line hmem => (hlater line hmem).1

/-- **Lines are read back from a text in which a line feed stands between each two of them**, if none
of them is empty. -/
theorem lines_intercalate (h : ∀ line ∈ ls, line ≠ [] ∧ IsLine line) :
    lines (['\n'].intercalate ls) = ls := by
  induction ls with
  | nil => rfl
  | cons line later ih =>
    obtain ⟨hne, hline⟩ := h line List.mem_cons_self
    cases later with
    | nil => rw [List.intercalate_singleton, lines_singleton hline.one_line hne]
    | cons next later =>
      rw [List.intercalate_cons_cons, List.append_assoc, List.singleton_append, lines_append hline,
        ih fun line hmem => h line (List.mem_cons_of_mem _ hmem)]

/-- A trimmed text on one line is a line. -/
theorem IsTrimmed.isLine (h : IsTrimmed line) (hfeed : '\n' ∉ line) : IsLine line where
  one_line := hfeed
  no_return := fun hreturn => absurd (h.last '\r' hreturn) (by decide)

end Text

namespace Comment

/-! ## Paragraphs from their first line -/

/-- **The lines of the paragraphs are the lines that are not empty**, each once and in its place. -/
theorem flatten_paragraphs (ls : List (List Char)) :
    (paragraphs ls).flatten = ls.filter fun line => !line.isEmpty := by
  induction ls using paragraphs.induct with
  | case1 => rfl
  | case2 ls ih => rw [paragraphs, ih]; rfl
  | case3 c cs d ds ls run others hrun ih =>
    rw [hrun] at ih
    rw [paragraphs.eq_3 _ _ _ _ _ _ _ hrun, List.filter_cons_of_pos rfl, ← ih]
    rfl
  | case4 c cs ls hnone ih =>
    rw [paragraphs.eq_4 _ _ _ hnone, List.filter_cons_of_pos rfl, ← ih]
    rfl

theorem of_mem_paragraphs (h : paragraph ∈ paragraphs ls) :
    paragraph ≠ [] ∧ ∀ line ∈ paragraph, line ≠ [] ∧ line ∈ ls := by
  constructor
  · rw [paragraphs_eq] at h
    simpa using (List.mem_filter.mp h).2
  · intro line hline
    have hmem : line ∈ (paragraphs ls).flatten := List.mem_flatten_of_mem h hline
    rw [flatten_paragraphs] at hmem
    obtain ⟨hls, hne⟩ := List.mem_filter.mp hmem
    exact ⟨by simpa using hne, hls⟩

theorem intercalate_paragraph_ne_nil (h : paragraph ∈ paragraphs ls) :
    [' '].intercalate paragraph ≠ [] :=
  intercalate_ne_nil (of_mem_paragraphs h).1 fun line hline =>
    ((of_mem_paragraphs h).2 line hline).1

/-- The first paragraph begins with the first line that is not empty. -/
theorem exists_paragraphs_cons (hline : line ≠ []) (ls : List (List Char)) :
    ∃ run others, paragraphs (line :: ls) = (line :: run) :: others := by
  obtain ⟨c, cs, rfl⟩ := List.exists_cons_of_ne_nil hline
  rw [paragraphs.eq_def]
  dsimp only
  split
  · exact ⟨_, _, rfl⟩
  · exact ⟨_, _, rfl⟩

theorem paragraphs_cons_empty (hline : line ≠ []) (ls : List (List Char)) :
    paragraphs (line :: [] :: ls) = [line] :: paragraphs ls := by
  obtain ⟨c, cs, rfl⟩ := List.exists_cons_of_ne_nil hline
  rw [paragraphs]
  · rw [paragraphs]
  · intro d ds later run others heq
    simp at heq

/-- A line joins the paragraph of the next one by a blank. -/
theorem joined_cons_cons (hline : line ≠ []) (hnext : next ≠ []) (ls : List (List Char)) :
    joined (line :: next :: ls) = line ++ ' ' :: joined (next :: ls) := by
  obtain ⟨run, others, hnextRun⟩ := exists_paragraphs_cons hnext ls
  obtain ⟨c, cs, rfl⟩ := List.exists_cons_of_ne_nil hline
  obtain ⟨d, ds, rfl⟩ := List.exists_cons_of_ne_nil hnext
  rw [joined, joined, paragraphs.eq_3 _ _ _ _ _ _ _ hnextRun, hnextRun, List.map_cons, List.map_cons,
    List.intercalate_cons_cons]
  cases others.map [' '].intercalate with
  | nil => simp
  | cons other others => simp [List.intercalate_cons_cons]

/-- In front of an empty line a paragraph ends, and a line feed ends it if there is another. -/
theorem joined_cons_empty (hline : line ≠ []) (ls : List (List Char)) :
    joined (line :: [] :: ls) = if joined ls = [] then line else line ++ '\n' :: joined ls := by
  have hne : paragraphs ls ≠ [] → joined ls ≠ [] := by
    intro hls
    refine intercalate_ne_nil (by simpa using hls) fun text htext => ?_
    obtain ⟨paragraph, hmem, rfl⟩ := List.mem_map.mp htext
    exact intercalate_paragraph_ne_nil hmem
  rw [joined, paragraphs_cons_empty hline]
  cases hls : paragraphs ls with
  | nil => simp [joined, hls]
  | cons paragraph later =>
    rw [if_neg (hne (by simp [hls])), joined, hls]
    simp [List.intercalate_cons_cons]

/-! ## Lines with their numbers -/

/-- The lines that are not empty, each with its number; the first line of all has number `n`. -/
def numbered (n : Nat) (ls : List (List Char)) : List (List Char × Nat) :=
  (ls.zipIdx n).filter fun item => !item.1.isEmpty

/-- Numbered lines as one text: a blank stands between two that follow one another, and a line feed
between two with others between them. -/
def glued : List (List Char × Nat) → List Char
  | [] => []
  | [item] => item.1
  | item :: next :: later =>
    item.1 ++ (if next.2 = item.2 + 1 then ' ' else '\n') :: glued (next :: later)

theorem numbered_cons_nil (n : Nat) (ls : List (List Char)) :
    numbered n ([] :: ls) = numbered (n + 1) ls := rfl

theorem numbered_cons (hline : line ≠ []) (n : Nat) (ls : List (List Char)) :
    numbered n (line :: ls) = (line, n) :: numbered (n + 1) ls := by
  simp [numbered, hline]

theorem of_mem_numbered {n : Nat} {item : List Char × Nat} (h : item ∈ numbered n ls) :
    item.1 ≠ [] ∧ n ≤ item.2 := by
  obtain ⟨hmem, hne⟩ := List.mem_filter.mp h
  exact ⟨by simpa using hne, List.le_snd_of_mem_zipIdx hmem⟩

/-- **Which separator stands between two lines is told by their numbers.** -/
theorem joined_eq_glued (n : Nat) (ls : List (List Char)) : joined ls = glued (numbered n ls) := by
  induction ls generalizing n with
  | nil => rfl
  | cons line ls ih =>
    by_cases hline : line = []
    · rw [hline, joined_cons_nil, numbered_cons_nil, ih]
    · rw [numbered_cons hline]
      cases ls with
      | nil => exact joined_singleton line
      | cons next ls =>
        by_cases hnext : next = []
        · have hlater : joined ls = glued (numbered (n + 2) ls) := by
            rw [← joined_cons_nil, ← hnext, ih (n + 1), hnext, numbered_cons_nil]
          rw [hnext, joined_cons_empty hline, hlater, numbered_cons_nil]
          cases hnumbered : numbered (n + 2) ls with
          | nil => rfl
          | cons item later =>
            -- the next line that is not empty has at least one empty line in front of it
            obtain ⟨hitem, hle⟩ := of_mem_numbered (hnumbered ▸ List.mem_cons_self)
            have hapart : item.2 ≠ n + 1 := Nat.ne_of_gt hle
            have hsome : glued (item :: later) ≠ [] := by
              cases later <;> simp [glued, hitem]
            rw [if_neg hsome, glued, if_neg hapart]
        · rw [joined_cons_cons hline hnext, ih (n + 1), numbered_cons hnext, glued, if_pos rfl]

/-! ## The lines of the result -/

/-- A paragraph of trimmed lines is trimmed. -/
theorem isTrimmed_paragraph (hls : ∀ line ∈ ls, IsTrimmed line) (h : paragraph ∈ paragraphs ls) :
    IsTrimmed ([' '].intercalate paragraph) :=
  isTrimmed_intercalate fun line hline =>
    ((of_mem_paragraphs h).2 line hline).imp id (hls line)

/-- **Each line of the result is a paragraph.** -/
theorem lines_joined (hls : ∀ line ∈ ls, IsTrimmed line ∧ '\n' ∉ line) :
    lines (joined ls) = (paragraphs ls).map [' '].intercalate := by
  refine lines_intercalate fun text htext => ?_
  obtain ⟨paragraph, hmem, rfl⟩ := List.mem_map.mp htext
  have htrimmed := isTrimmed_paragraph (fun line hline => (hls line hline).1) hmem
  refine ⟨intercalate_paragraph_ne_nil hmem, htrimmed.isLine ?_⟩
  refine notMem_intercalate (by decide) fun line hline => ?_
  exact (hls line ((of_mem_paragraphs hmem).2 line hline).2).2

/-- Trimmed lines make paragraphs that are trimmed, each of them and all together. -/
theorem isTrimmed_joined (hls : ∀ line ∈ ls, IsTrimmed line ∧ '\n' ∉ line) :
    IsTrimmed (joined ls) ∧ ∀ line ∈ lines (joined ls), line ≠ [] ∧ IsTrimmed line := by
  have hparagraphs : ∀ text ∈ (paragraphs ls).map [' '].intercalate, text ≠ [] ∧ IsTrimmed text := by
    intro text htext
    obtain ⟨paragraph, hmem, rfl⟩ := List.mem_map.mp htext
    exact ⟨intercalate_paragraph_ne_nil hmem,
      isTrimmed_paragraph (fun line hline => (hls line hline).1) hmem⟩
  refine ⟨isTrimmed_intercalate hparagraphs, ?_⟩
  rw [lines_joined hls]
  exact hparagraphs

/-! ## The text between opener and closer -/

theorem stripMargin_suffix (line : List Char) : stripMargin line <:+ line := by
  have hskip : skipBlank line <:+ line := List.dropWhile_suffix isBlank
  rw [stripMargin_eq]
  split_ifs
  · exact (List.tail_suffix _).trans hskip
  · exact hskip

/-- A line of a comment without its margin, trimmed, is part of that line. -/
theorem trim_stripMargin_isInfix (line : List Char) : trim (stripMargin line) <:+: line :=
  (trim_isInfix _).trans (stripMargin_suffix line).isInfix

/-- **The text between the markers of a comment is joined without loss.** Its lines, without margins
and trimmed, stand in the result one behind the other unless they are empty, with a blank between two
that follow one another and a line feed between two with empty lines between them. Neither the result
nor one of its lines begins or ends with a blank, and none of its lines is empty. -/
theorem joinParagraphs_eq_glued (inner : List Char) :
    joinParagraphs inner =
      glued (numbered 0 ((lines inner).map fun line => trim (stripMargin line))) ∧
    IsTrimmed (joinParagraphs inner) ∧
    ∀ line ∈ lines (joinParagraphs inner), line ≠ [] ∧ IsTrimmed line := by
  refine ⟨joined_eq_glued 0 _, isTrimmed_joined fun line hline => ?_⟩
  obtain ⟨written, hwritten, rfl⟩ := List.mem_map.mp hline
  refine ⟨isTrimmed_trim _, fun hfeed => lineFeed_notMem_of_mem_lines hwritten ?_⟩
  exact (trim_stripMargin_isInfix written).subset hfeed

/-- Margins, a star of the text behind one, one empty line and several. -/
theorem joinParagraphs_eq_glued_margins :
    joinParagraphs ['\n', ' ', '*', ' ', 'a', ' ', '\r', '\n', ' ', '*', ' ', '*', '\n', ' ', '*',
      '\n', ' ', '*', ' ', 'b', '\n', '\n', '\t', '\n', ' ', 'c', '\n', '*', ' '] =
        ['a', ' ', '*', '\n', 'b', '\n', 'c'] :=
  (joinParagraphs_eq_glued _).1.trans (by decide)

end Comment

end ScriptLiterals
