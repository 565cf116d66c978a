import ScriptLiterals.Proofs.Text
import ScriptLiterals.Text.Lines

/-!
# Trimmed texts and lines

`trim` takes the blanks off both ends of a text. What it leaves is a text with no blank at either end
(`IsTrimmed`). Such a text is what is left of itself (`IsTrimmed.trim_eq`), whatever blanks are put in
front of it or behind (`trim_blanks_append`, `trim_append_blanks`).

`lines` is the inverse of writing lines one behind the other with line feeds between them, for lines
that hold no line feed and do not end with a carriage return, which would be taken for a part of the
line break (`lines_append`).
-/

set_option autoImplicit false

namespace ScriptLiterals.Text

variable {cs line rest text blanks : List Char} {c : Char}

/-! ## Trimmed texts -/

/-- No blank stands at either end of the text. -/
structure IsTrimmed (cs : List Char) : Prop where
  head : EndsRun isBlank cs
  last : ∀ c ∈ cs.getLast?, isBlank c = false

theorem isTrimmed_nil : IsTrimmed [] := ⟨by simp [EndsRun], by simp⟩

theorem trimEnd_append_blanks (h : ∀ c ∈ blanks, isBlank c = true) (cs : List Char) :
    trimEnd (cs ++ blanks) = trimEnd cs := by
  have hreverse : ∀ c ∈ blanks.reverse, isBlank c = true := fun c hc => h c (List.mem_reverse.mp hc)
  rw [trimEnd, List.reverse_append, List.dropWhile_append_of_pos hreverse, trimEnd]

theorem trimEnd_eq_self (h : ∀ c ∈ cs.getLast?, isBlank c = false) : trimEnd cs = cs := by
  have hends : EndsRun isBlank cs.reverse := by
    rw [EndsRun, List.head?_reverse]
    exact h
  rw [trimEnd, dropWhile_of_endsRun hends, List.reverse_reverse]

theorem exists_trimEnd_append (cs : List Char) :
    ∃ blanks, (∀ c ∈ blanks, isBlank c = true) ∧ cs = trimEnd cs ++ blanks := by
  refine ⟨(cs.reverse.takeWhile isBlank).reverse, ?_, ?_⟩
  · intro c hc
    exact List.mem_takeWhile_imp (List.mem_reverse.mp hc)
  · rw [trimEnd, ← List.reverse_append, List.takeWhile_append_dropWhile, List.reverse_reverse]

/-- **What is trimmed off a text are blanks at its ends.** -/
theorem exists_trim_append (cs : List Char) : ∃ blanks, (∀ c ∈ blanks, isBlank c = true) ∧
    cs = leadingBlank cs ++ trim cs ++ blanks := by
  obtain ⟨blanks, hblank, heq⟩ := exists_trimEnd_append (skipBlank cs)
  refine ⟨blanks, hblank, ?_⟩
  rw [List.append_assoc, trim, ← heq, leadingBlank_append_skipBlank]

theorem trim_isInfix (cs : List Char) : trim cs <:+: cs := by
  obtain ⟨blanks, -, heq⟩ := exists_trim_append cs
  exact ⟨_, _, heq.symm⟩

theorem isTrimmed_trim (cs : List Char) : IsTrimmed (trim cs) where
  head := by
    intro c hc
    -- the first character that is left is the first one behind the leading blanks
    obtain ⟨blanks, -, heq⟩ := exists_trimEnd_append (skipBlank cs)
    refine endsRun_dropWhile isBlank cs c ?_
    change (skipBlank cs).head? = some c
    rw [heq, List.head?_append]
    rw [trim] at hc
    rw [Option.mem_def.mp hc]
    rfl
  last := by
    rw [trim, trimEnd, List.getLast?_reverse]
    exact endsRun_dropWhile isBlank _

/-- The end of a trimmed text, from its next character on that is not blank, is trimmed. -/
theorem IsTrimmed.skipBlank_of_suffix (h : IsTrimmed cs) (hrest : rest <:+ cs) :
    IsTrimmed (skipBlank rest) where
  head := endsRun_dropWhile isBlank rest
  last := by
    intro c hc
    obtain ⟨before, hbefore⟩ := (List.dropWhile_suffix isBlank).trans hrest
    refine h.last c ?_
    rw [← hbefore, List.getLast?_append, Option.mem_def]
    exact Option.or_eq_some_iff.mpr (Or.inl hc)

theorem IsTrimmed.trim_eq (h : IsTrimmed cs) : trim cs = cs := by
  rw [trim, skipBlank, dropWhile_of_endsRun h.head, trimEnd_eq_self h.last]

theorem trim_blanks_append (h : ∀ c ∈ blanks, isBlank c = true) (cs : List Char) :
    trim (blanks ++ cs) = trim cs := by
  rw [trim, skipBlank, List.dropWhile_append_of_pos h, trim, skipBlank]

theorem trim_append_blanks (h : ∀ c ∈ blanks, isBlank c = true) (cs : List Char) :
    trim (cs ++ blanks) = trim cs := by
  rw [trim, trim, skipBlank, skipBlank, List.dropWhile_append]
  split_ifs with hempty
  · rw [List.dropWhile_eq_nil_iff.mpr h, List.isEmpty_iff.mp hempty]
  · exact trimEnd_append_blanks h _

/-! ## Lines -/

theorem lines_cons (hc : c ≠ '\n') (hbreak : c = '\r' → rest.head? ≠ some '\n') :
    lines (c :: rest) = match lines rest with
      | [] => [[c]]
      | line :: later => (c :: line) :: later := by
  have hfeed : ∀ rest', c = '\r' → rest = '\n' :: rest' → False := by
    intro rest' hreturn heq
    exact hbreak hreturn (by rw [heq]; rfl)
  exact lines.eq_4 c rest hc hfeed

/-- The text is a line as it is written in front of a line feed. -/
structure IsLine (line : List Char) : Prop where
  one_line : '\n' ∉ line
  no_return : line.getLast? ≠ some '\r'

theorem IsLine.tail {c : Char} (h : IsLine (c :: line)) : IsLine line where
  one_line := fun hmem => h.one_line (List.mem_cons_of_mem c hmem)
  no_return := by
    intro hlast
    refine h.no_return ?_
    rw [List.getLast?_cons, hlast]
    rfl

/-- **A line ends at the line feed behind it.** -/
theorem lines_append (h : IsLine line) (rest : List Char) :
    lines (line ++ '\n' :: rest) = line :: lines rest := by
  induction line with
  | nil => rw [List.nil_append, lines]
  | cons c line ih =>
    have hc : c ≠ '\n' := fun heq => h.one_line (by simp [heq])
    have hbreak : c = '\r' → (line ++ '\n' :: rest).head? ≠ some '\n' := by
      rintro rfl hhead
      cases line with
      | nil => exact h.no_return rfl
      | cons d line => exact h.one_line (by simp_all)
    rw [List.cons_append, lines_cons hc hbreak, ih h.tail]

/-- What stands behind the last line feed is the last line, if it is not empty. -/
theorem lines_singleton (h : '\n' ∉ line) (hne : line ≠ []) : lines line = [line] := by
  induction line with
  | nil => exact absurd rfl hne
  | cons c line ih =>
    have hc : c ≠ '\n' := fun heq => h (by simp [heq])
    have htail : '\n' ∉ line := fun hmem => h (List.mem_cons_of_mem c hmem)
    have hbreak : c = '\r' → line.head? ≠ some '\n' :=
      fun _ hhead => htail (List.mem_of_mem_head? hhead)
    rw [lines_cons hc hbreak]
    cases line with
    | nil => rfl
    | cons d line => rw [ih htail (by simp)]

/-- **Lines are read back from a text in which a line feed stands between each two of them.** -/
theorem lines_append_flatMap {α : Type} {f : α → List Char} {items : List α} {first last : List Char}
    (hfirst : IsLine first) (hitems : ∀ item ∈ items, IsLine (f item)) (hlast : '\n' ∉ last)
    (hne : last ≠ []) :
    lines (first ++ (items.flatMap (fun item => '\n' :: f item) ++ '\n' :: last)) =
      first :: (items.map f ++ [last]) := by
  induction items generalizing first with
  | nil => exact (lines_append hfirst last).trans (by rw [lines_singleton hlast hne]; rfl)
  | cons item items ih =>
    have hlater := ih (hitems item (by simp)) fun item' hitem' => hitems item' (by simp [hitem'])
    rw [List.flatMap_cons, List.append_assoc, List.cons_append, lines_append hfirst, hlater]
    rfl

/-- The first line is what the text begins with. -/
theorem prefix_of_lines {first : List Char} {later : List (List Char)}
    (h : lines text = first :: later) : first <+: text := by
  fun_induction lines text generalizing first later with
  | case1 => exact absurd h (by simp)
  | case2 rest ih =>
    rw [(List.cons.inj h).1.symm]
    exact List.nil_prefix
  | case3 rest ih =>
    rw [(List.cons.inj h).1.symm]
    exact List.nil_prefix
  | case4 c rest hc hbreak hnone ih =>
    rw [(List.cons.inj h).1.symm]
    exact List.cons_prefix_cons.mpr ⟨rfl, List.nil_prefix⟩
  | case5 c rest hc hbreak line later' hlines ih =>
    rw [(List.cons.inj h).1.symm]
    exact List.cons_prefix_cons.mpr ⟨rfl, ih hlines⟩

/-- The lines are parts of the text. -/
theorem infix_of_mem_lines (h : line ∈ lines text) : line <:+: text := by
  fun_induction lines text generalizing line with
  | case1 => exact absurd h (by simp)
  | case2 rest ih =>
    rcases List.mem_cons.mp h with rfl | hmem
    · exact List.nil_infix
    · exact (ih hmem).trans (List.suffix_cons _ _).isInfix
  | case3 rest ih =>
    rcases List.mem_cons.mp h with rfl | hmem
    · exact List.nil_infix
    · exact (ih hmem).trans ((List.suffix_cons _ _).trans (List.suffix_cons _ _)).isInfix
  | case4 c rest hc hbreak hnone ih =>
    rw [List.mem_singleton.mp h]
    exact (List.cons_prefix_cons.mpr ⟨rfl, List.nil_prefix⟩).isInfix
  | case5 c rest hc hbreak first later hlines ih =>
    rcases List.mem_cons.mp h with rfl | hmem
    · exact (List.cons_prefix_cons.mpr ⟨rfl, prefix_of_lines hlines⟩).isInfix
    · have hrest : line ∈ lines rest := by rw [hlines]; exact List.mem_cons_of_mem _ hmem
      exact (ih hrest).trans (List.suffix_cons _ _).isInfix

/-- No line holds a line feed. -/
theorem lineFeed_notMem_of_mem_lines (h : line ∈ lines text) : '\n' ∉ line := by
  fun_induction lines text generalizing line with
  | case1 => exact absurd h (by simp)
  | case2 rest ih =>
    rcases List.mem_cons.mp h with rfl | hmem
    · simp
    · exact ih hmem
  | case3 rest ih =>
    rcases List.mem_cons.mp h with rfl | hmem
    · simp
    · exact ih hmem
  | case4 c rest hc hbreak hnone ih =>
    rw [List.mem_singleton.mp h]
    simpa [eq_comm] using hc
  | case5 c rest hc hbreak first later hlines ih =>
    rcases List.mem_cons.mp h with rfl | hmem
    · have hfirst : '\n' ∉ first := ih (by rw [hlines]; exact List.mem_cons_self)
      simp [hfirst, Ne.symm hc]
    · exact ih (by rw [hlines]; exact List.mem_cons_of_mem _ hmem)

end ScriptLiterals.Text
