import ScriptLiterals.Proofs.Comment.Closers

/-!
# The text that a block comment gives back

A text that is printed as a block comment and stripped again comes back as paragraphs (`normalText`):
what the printer does to single lines is undone, and which line breaks stood in a paragraph is lost.

Two things meet on the way. Closers are broken up line by line, before the lines are laid out, and put
together in the whole text; since nothing but blanks and line feeds stands between the lines, this can
be done line by line as well (`restoreClosers_joined`). And there are two layouts, but one rule for
margins. With several lines each stands behind a star, which is the margin, and a star of its own is
left alone (`trim_stripMargin_margin`). A single line is printed without a margin, so that a star it
begins with is taken for one (`trim_stripMargin_line`); this is where the round trip fails, and the
only place (`looksLikeMargin`).
-/

set_option autoImplicit false

namespace ScriptLiterals.Comment

open Text

variable {form : CommentForm} {cs ds indent line text : List Char} {ls : List (List Char)} {c : Char}

/-! ## Paragraphs -/

/-- Lines as paragraphs: the lines of each joined by blanks, and the paragraphs by line feeds. -/
def joined (ls : List (List Char)) : List Char :=
  ['\n'].intercalate ((paragraphs ls).map [' '].intercalate)

/-- What a text is as paragraphs. Its lines are trimmed; each longest run of lines that are not blank
is joined by blanks, and the runs are joined by line feeds. -/
def normalText (text : List Char) : List Char :=
  let runs := (((lines text).map trim).splitOnP List.isEmpty).filter (!·.isEmpty)
  ['\n'].intercalate (runs.map [' '].intercalate)

theorem splitOnP_isEmpty_nil (ls : List (List Char)) :
    ([] :: ls).splitOnP List.isEmpty = [] :: ls.splitOnP List.isEmpty := by
  rw [List.splitOnP_cons_eq_if_modifyHead]
  rfl

theorem splitOnP_isEmpty_cons (c : Char) (cs : List Char) (ls : List (List Char)) :
    ((c :: cs) :: ls).splitOnP List.isEmpty =
      (ls.splitOnP List.isEmpty).modifyHead ((c :: cs) :: ·) := by
  rw [List.splitOnP_cons_eq_if_modifyHead]
  rfl

/-- **A paragraph is a longest run of lines that are not empty.** -/
theorem paragraphs_eq (ls : List (List Char)) :
    paragraphs ls = (ls.splitOnP List.isEmpty).filter (!·.isEmpty) := by
  induction ls with
  | nil => rfl
  | cons line ls ih =>
    cases line with
    | nil =>
      rw [paragraphs, ih, splitOnP_isEmpty_nil]
      rfl
    | cons c cs =>
      rw [splitOnP_isEmpty_cons]
      cases ls with
      | nil => rfl
      | cons next ls =>
        cases next with
        | nil =>
          rw [splitOnP_isEmpty_nil] at ih ⊢
          rw [paragraphs, ih]
          · rfl
          · simp
        | cons d ds =>
          -- the next line begins a run, and this one joins it
          obtain ⟨run, later, hrun⟩ :=
            List.exists_cons_of_ne_nil (List.splitOnP_ne_nil List.isEmpty ls)
          rw [splitOnP_isEmpty_cons, hrun] at ih ⊢
          rw [paragraphs]
          · rfl
          · exact ih

theorem normalText_eq (text : List Char) : normalText text = joined ((lines text).map trim) := by
  rw [joined, paragraphs_eq]
  rfl

theorem joined_cons_nil (ls : List (List Char)) : joined ([] :: ls) = joined ls := by
  rw [joined, paragraphs, joined]

theorem joined_append_nil (ls : List (List Char)) : joined (ls ++ [[]]) = joined ls := by
  have hparagraphs : paragraphs (ls ++ [[]]) = paragraphs ls := by
    rw [paragraphs_eq, paragraphs_eq, List.splitOnP_append_cons ls [] rfl, List.filter_append,
      List.splitOnP_nil]
    simp
  rw [joined, hparagraphs, joined]

theorem joined_singleton (line : List Char) : joined [line] = line := by
  cases line with
  | nil => rfl
  | cons c cs => simp [joined, paragraphs]

theorem splitOnP_map (f : List Char → List Char) (p : List Char → Bool) (ls : List (List Char)) :
    (ls.map f).splitOnP p = (ls.splitOnP (p ∘ f)).map (List.map f) := by
  induction ls with
  | nil => rfl
  | cons line ls ih =>
    rw [List.map_cons, List.splitOnP_cons_eq_if_modifyHead, List.splitOnP_cons_eq_if_modifyHead, ih]
    by_cases hline : p (f line) = true
    · rw [if_pos hline, if_pos (show (p ∘ f) line = true from hline)]
      rfl
    · rw [if_neg hline, if_neg (show ¬(p ∘ f) line = true from hline)]
      cases ls.splitOnP (p ∘ f) <;> rfl

/-- What is done to each line is done to the lines of the paragraphs, if it keeps empty lines and makes
no others. -/
theorem paragraphs_map {f : List Char → List Char} (hf : ∀ line, f line = [] ↔ line = [])
    (ls : List (List Char)) : paragraphs (ls.map f) = (paragraphs ls).map (List.map f) := by
  have hsame : List.isEmpty ∘ f = List.isEmpty := by
    funext line
    rw [Function.comp_apply, Bool.eq_iff_iff, List.isEmpty_iff, List.isEmpty_iff, hf]
  rw [paragraphs_eq, paragraphs_eq, splitOnP_map, hsame, List.filter_map]
  congr 2
  funext run
  simp

/-! ## Broken up closers in paragraphs -/

/-- **Closers are put together line by line.** -/
theorem restoreClosers_joined (ls : List (List Char)) :
    restoreClosers (joined ls) = joined (ls.map restoreClosers) := by
  rw [joined, joined, restoreClosers_intercalate (by decide) (by decide) (by decide),
    paragraphs_map restoreClosers_eq_nil_iff, List.map_map, List.map_map]
  congr 2
  funext run
  exact restoreClosers_intercalate (by decide) (by decide) (by decide) run

theorem restoreClosers_joined_disarmClosers (ls : List (List Char)) :
    restoreClosers (joined (ls.map disarmClosers)) = restoreClosers (joined ls) := by
  rw [restoreClosers_joined, restoreClosers_joined, List.map_map]
  congr 2
  funext line
  exact restoreClosers_disarmClosers line

/-! ## Margins -/

/-- Whether the line begins as a margin does: with a star that a blank or nothing follows. -/
def hasMargin : List Char → Bool
  | '*' :: rest => rest.head?.all isBlank
  | _ => false

theorem stripMargin_eq (line : List Char) : stripMargin line =
    if hasMargin (skipBlank line) then (skipBlank line).tail else skipBlank line := by
  unfold stripMargin hasMargin
  split <;> split_ifs <;> simp_all

theorem stripMargin_blanks_append {blanks : List Char} (h : ∀ c ∈ blanks, isBlank c = true)
    (cs : List Char) : stripMargin (blanks ++ cs) = stripMargin cs := by
  rw [stripMargin_eq, stripMargin_eq, skipBlank, List.dropWhile_append_of_pos h]
  rfl

theorem hasMargin_of_ne (hc : c ≠ '*') (cs : List Char) : hasMargin (c :: cs) = false := by
  unfold hasMargin
  split
  · rename_i heq
    exact absurd (List.cons.inj heq).1 hc
  · rfl

theorem hasMargin_disarmClosers (line : List Char) :
    hasMargin (disarmClosers line) = hasMargin line := by
  fun_cases disarmClosers line with
  | case1 => rfl
  | case2 cs => rfl
  | case3 c cs hopen =>
    by_cases hstar : c = '*'
    · rw [hstar, hasMargin, hasMargin, head?_disarmClosers]
    · rw [hasMargin_of_ne hstar, hasMargin_of_ne hstar]

theorem exists_of_hasMargin (h : hasMargin line = true) :
    ∃ rest, line = '*' :: rest ∧ rest.head? ≠ some '/' := by
  unfold hasMargin at h
  split at h
  · rename_i rest
    refine ⟨rest, rfl, fun hslash => ?_⟩
    rw [hslash] at h
    exact absurd h (by decide)
  · exact absurd h (by decide)

/-- A margin is taken off a line and its broken up closers alike: the star of a margin begins no
closer. -/
theorem trim_tail_disarmClosers (h : IsTrimmed line) (hmargin : hasMargin line = true) :
    trim (disarmClosers line).tail = disarmClosers (trim line.tail) := by
  obtain ⟨rest, rfl, hopen⟩ := exists_of_hasMargin hmargin
  have hblank : ∀ c ∈ leadingBlank rest, isBlank c = true := fun c hc => List.mem_takeWhile_imp hc
  have hbehind : IsTrimmed (skipBlank rest) := h.skipBlank_of_suffix (List.suffix_cons _ _)
  have hrest : trim rest = skipBlank rest := by
    rw [← leadingBlank_append_skipBlank rest, trim_blanks_append hblank, hbehind.trim_eq,
      leadingBlank_append_skipBlank]
  have hdisarmed : disarmClosers ('*' :: rest) = '*' :: disarmClosers rest := by
    rw [disarmClosers]
    rintro cs - rfl
    exact hopen rfl
  rw [hdisarmed, List.tail_cons, List.tail_cons, hrest]
  conv_lhs => rw [← leadingBlank_append_skipBlank rest]
  rw [disarmClosers_blanks_append hblank, trim_blanks_append hblank,
    (isTrimmed_disarmClosers hbehind).trim_eq]

/-- A blank behind a line makes it no margin, nor unmakes one. -/
theorem hasMargin_append_blank (hline : line ≠ []) (hc : isBlank c = true) :
    hasMargin (line ++ [c]) = hasMargin line := by
  cases line with
  | nil => exact absurd rfl hline
  | cons d line =>
    by_cases hstar : d = '*'
    · subst hstar
      cases line with
      | nil => simp [hasMargin, hc]
      | cons e line => rfl
    · rw [List.cons_append, hasMargin_of_ne hstar, hasMargin_of_ne hstar]

/-- **The margin of a printed line is taken off**, and nothing else, whatever the line begins with. -/
theorem trim_stripMargin_margin (hindent : ∀ c ∈ indent, isBlank c = true) (h : IsTrimmed line) :
    trim (stripMargin (indent ++ marked [' ', '*'] line)) = line := by
  have hspace : ∀ c ∈ [' '], isBlank c = true := fun _ => isBlank_of_mem_space
  have hmargin : hasMargin ('*' :: marked [] line) = true := by
    unfold marked
    split_ifs <;> rfl
  have hskip : skipBlank ('*' :: marked [] line) = '*' :: marked [] line :=
    dropWhile_of_endsRun (endsRun_cons.mpr (by decide))
  rw [stripMargin_blanks_append hindent, marked_eq]
  change trim (stripMargin ([' '] ++ '*' :: marked [] line)) = line
  rw [stripMargin_blanks_append hspace, stripMargin_eq, hskip, if_pos hmargin, List.tail_cons,
    trim_marked h]

/-- **A line that is printed without a margin** comes back as it is, unless it begins as a margin
does: then its star is taken for one. -/
theorem trim_stripMargin_line (h : IsTrimmed line) :
    trim (stripMargin (marked [] line ++ [' '])) =
      if hasMargin line then trim line.tail else line := by
  have hspace : ∀ c ∈ [' '], isBlank c = true := fun _ => isBlank_of_mem_space
  by_cases hempty : line = []
  · rw [hempty]
    rfl
  · have hmarked : marked [] line = [' '] ++ line := by simp [marked, hempty]
    have hskip : skipBlank (line ++ [' ']) = line ++ [' '] := by
      refine dropWhile_of_endsRun ?_
      obtain ⟨c, cs, rfl⟩ := List.exists_cons_of_ne_nil hempty
      exact endsRun_cons.mpr (endsRun_cons.mp h.head)
    rw [hmarked, List.append_assoc, stripMargin_blanks_append hspace, stripMargin_eq, hskip,
      hasMargin_append_blank hempty (by decide)]
    split_ifs with hmargin
    · rw [List.tail_append_of_ne_nil hempty, trim_append_blanks hspace]
    · rw [trim_append_blanks hspace, h.trim_eq]

/-! ## What a printed comment holds -/

/-- Lines as they come back from a comment: all of them, except that a single line loses a star that
looks like a margin. -/
def comeBack : List (List Char) → List (List Char)
  | [line] => [if hasMargin line then trim line.tail else line]
  | lines => lines

theorem comeBack_of_ne (h : ∀ line, ls ≠ [line]) : comeBack ls = ls := by
  unfold comeBack
  split
  · exact absurd rfl (h _)
  · rfl

/-- A line behind its margin is one line: it ends with its star, or as the line does. -/
theorem isLine_margin (hindent : '\n' ∉ indent) (h : IsTrimmed line) (hline : '\n' ∉ line) :
    IsLine (indent ++ marked [' ', '*'] line) where
  one_line := by
    unfold marked
    split_ifs <;> simp [hindent, hline]
  no_return := by
    unfold marked
    split_ifs with hempty
    · simp
    · have hne : line ≠ [] := fun hnil => hempty (by rw [hnil]; rfl)
      have hlast : (indent ++ ([' ', '*'] ++ ' ' :: line)).getLast? = line.getLast? := by
        obtain ⟨before, c, rfl⟩ := List.eq_nil_or_concat line |>.resolve_left hne
        simp [List.getLast?_append, List.getLast?_cons]
      intro hreturn
      rw [hlast] at hreturn
      exact absurd (h.last '\r' hreturn) (by decide)

/-- The lines that are printed for several lines: the rest of the opener's, a margin and a line for
each, and what stands in front of the closer. -/
theorem lines_margins (hindent : '\n' ∉ indent) (hls : ∀ line ∈ ls, IsTrimmed line ∧ '\n' ∉ line) :
    lines (ls.flatMap (fun line => '\n' :: indent ++ marked [' ', '*'] line) ++
      '\n' :: indent ++ [' ']) =
        [] :: (ls.map (fun line => indent ++ marked [' ', '*'] line) ++ [indent ++ [' ']]) := by
  have hnothing : IsLine [] := ⟨by simp, by simp⟩
  have hmargins : ∀ line ∈ ls, IsLine (indent ++ marked [' ', '*'] line) :=
    fun line hline => isLine_margin hindent (hls line hline).1 (hls line hline).2
  have hclosing : '\n' ∉ indent ++ [' '] := by simp [hindent]
  rw [List.append_assoc]
  exact lines_append_flatMap hnothing hmargins hclosing (by simp)

theorem joinParagraphs_eq (inner : List Char) :
    joinParagraphs inner = joined ((lines inner).map fun line => trim (stripMargin line)) := rfl

/-- **Lines come back from behind their margins.** The line of the opener and the one of the closer
are blank, and so belong to no paragraph. -/
theorem joinParagraphs_margins (hindent : ∀ c ∈ indent, isBlank c = true ∧ c ≠ '\n')
    (hls : ∀ line ∈ ls, IsTrimmed line ∧ '\n' ∉ line) :
    joinParagraphs (ls.flatMap (fun line => '\n' :: indent ++ marked [' ', '*'] line) ++
      '\n' :: indent ++ [' ']) = joined ls := by
  have hblank : ∀ c ∈ indent, isBlank c = true := fun c hc => (hindent c hc).1
  have hfeed : '\n' ∉ indent := fun hmem => (hindent '\n' hmem).2 rfl
  have hmargins : ls.map ((fun line => trim (stripMargin line)) ∘
      fun line => indent ++ marked [' ', '*'] line) = ls := by
    refine (List.map_congr_left fun line hline => ?_).trans (List.map_id ls)
    exact trim_stripMargin_margin hblank (hls line hline).1
  have hopening : trim (stripMargin []) = [] := rfl
  have hclosing : trim (stripMargin (indent ++ [' '])) = [] := by
    rw [stripMargin_blanks_append hblank]
    rfl
  rw [joinParagraphs_eq, lines_margins hfeed hls, List.map_cons, List.map_append, List.map_map,
    hmargins, List.map_singleton, hopening, hclosing, joined_cons_nil, joined_append_nil]

/-- **What is printed between opener and closer gives back the lines it was printed for**, or what is
left of the only one. -/
theorem joinParagraphs_interior (hindent : ∀ c ∈ indent, isBlank c = true ∧ c ≠ '\n')
    (hls : ∀ line ∈ ls, IsTrimmed line ∧ '\n' ∉ line) :
    joinParagraphs (interior indent ls) = joined (comeBack ls) := by
  unfold interior
  split
  · rename_i line
    obtain ⟨htrimmed, hfeed⟩ := hls line (by simp)
    have hline : lines (marked [] line ++ [' ']) = [marked [] line ++ [' ']] := by
      refine lines_singleton ?_ (by simp)
      unfold marked
      split_ifs <;> simp [hfeed]
    rw [joinParagraphs_eq, hline, List.map_singleton, trim_stripMargin_line htrimmed]
    rfl
  · rename_i hmany
    rw [joinParagraphs_margins hindent hls, comeBack_of_ne fun line heq => hmany line heq]

/-- Broken up closers change nothing about which lines come back. -/
theorem comeBack_map_disarmClosers (hls : ∀ line ∈ ls, IsTrimmed line) :
    comeBack (ls.map disarmClosers) = (comeBack ls).map disarmClosers := by
  by_cases hsingle : ∃ line, ls = [line]
  · obtain ⟨line, rfl⟩ := hsingle
    rw [List.map_singleton, comeBack, comeBack, List.map_singleton, hasMargin_disarmClosers]
    split_ifs with hmargin
    · rw [trim_tail_disarmClosers (hls line (by simp)) hmargin]
    · rfl
  · have hnone : ∀ line, ls ≠ [line] := fun line heq => hsingle ⟨line, heq⟩
    rw [comeBack_of_ne hnone, comeBack_of_ne]
    intro line heq
    obtain ⟨line', hline', -⟩ := List.map_eq_singleton_iff.mp heq
    exact hnone line' hline'

/-! ## The round trip -/

theorem inner?_append (form : CommentForm) (inner : List Char) :
    inner? form (form.opener ++ inner ++ closer) = some inner := by
  have hcloser : closer.isSuffixOf (inner ++ closer) = true :=
    List.isSuffixOf_iff_suffix.mpr (List.suffix_append _ _)
  simp [inner?, hcloser]

/-- Whether the text has just one line, and this begins as a margin does. -/
def looksLikeMargin (text : List Char) : Bool :=
  match lines text with
  | [line] => hasMargin (trim line)
  | _ => false

/-- The text that comes back from a comment for `text`. -/
theorem joined_comeBack_trimmedLines (text : List Char) : joined (comeBack (trimmedLines text)) =
    if looksLikeMargin text then trim (normalText text).tail else normalText text := by
  rw [normalText_eq, looksLikeMargin]
  cases hlines : lines text with
  | nil =>
    rw [trimmedLines, hlines]
    rfl
  | cons line later =>
    have htrimmed : trimmedLines text = (line :: later).map trim := by
      rw [trimmedLines_of_ne_nil (by rw [hlines]; simp), hlines]
    rw [htrimmed]
    cases later with
    | nil =>
      rw [List.map_singleton, comeBack, joined_singleton, joined_singleton]
    | cons next later => rfl

theorem strip_toLiteral (hform : form ≠ .line)
    (hindent : ∀ c ∈ indent, isBlank c = true ∧ c ≠ '\n') (text : List Char) :
    strip form (toLiteral form indent text) =
      restoreClosers (joined (comeBack (trimmedLines text))) := by
  have hinner : inner? form (toLiteral form indent text) =
      some (interior indent ((trimmedLines text).map disarmClosers)) := by
    have hliteral : toLiteral form indent text = form.opener ++
        interior indent ((trimmedLines text).map disarmClosers) ++ closer := by
      rw [toLiteral_eq hform, opener_eq hform]
      simp
    rw [hliteral, inner?_append]
  have hstrip : strip form (toLiteral form indent text) = restoreClosers
      (joinParagraphs (interior indent ((trimmedLines text).map disarmClosers))) := by
    cases form with
    | line => exact absurd rfl hform
    | block => rw [strip, hinner, Option.getD_some]
    | doc => rw [strip, hinner, Option.getD_some]
  have hlines : ∀ line ∈ (trimmedLines text).map disarmClosers, IsTrimmed line ∧ '\n' ∉ line := by
    intro line hline
    obtain ⟨line', hline', rfl⟩ := List.mem_map.mp hline
    exact ⟨isTrimmed_disarmClosers (isTrimmed_of_mem_trimmedLines hline'),
      lineFeed_notMem_disarmClosers (lineFeed_notMem_of_mem_trimmedLines hline')⟩
  rw [hstrip, joinParagraphs_interior hindent hlines,
    comeBack_map_disarmClosers fun line hline => isTrimmed_of_mem_trimmedLines hline,
    restoreClosers_joined_disarmClosers]

/-- **A text without a broken up closer has none as paragraphs.** -/
theorem restoreClosers_normalText (h : ¬['*', '\\', '/'] <:+: text) :
    restoreClosers (normalText text) = normalText text := by
  have hlines : ((lines text).map trim).map restoreClosers = (lines text).map trim := by
    refine (List.map_congr_left fun line hline => ?_).trans (List.map_id _)
    obtain ⟨line', hline', rfl⟩ := List.mem_map.mp hline
    exact restoreClosers_eq_self fun hpart =>
      h ((hpart.trans (trim_isInfix line')).trans (infix_of_mem_lines hline'))
  rw [normalText_eq, restoreClosers_joined, hlines]

theorem normalText_ne_nil (h : looksLikeMargin text = true) : normalText text ≠ [] := by
  unfold looksLikeMargin at h
  split at h
  · rename_i line hlines
    obtain ⟨rest, hrest, -⟩ := exists_of_hasMargin h
    rw [normalText_eq, hlines, List.map_singleton, joined_singleton, hrest]
    simp
  · exact absurd h (by decide)

/-- A text that lost its first character is not what it was, whatever closers are put together. -/
theorem restoreClosers_trim_tail_ne (hne : cs ≠ []) : restoreClosers (trim cs.tail) ≠ cs := by
  obtain ⟨c, rest, rfl⟩ := List.exists_cons_of_ne_nil hne
  have hlost : (restoreClosers (trim rest)).length < (c :: rest).length :=
    calc (restoreClosers (trim rest)).length
      _ ≤ (trim rest).length := length_restoreClosers_le _
      _ ≤ rest.length := (trim_isInfix rest).length_le
      _ < (c :: rest).length := Nat.lt_succ_self _
  intro heq
  exact absurd (congrArg List.length heq) (Nat.ne_of_lt hlost)

/-- **The round trip of a block comment.** The text comes back as paragraphs, with the closers put
together that stood in it broken up, and without the star of a single line that looks like a margin.
So a text without broken up closers comes back exactly if it is no such line. -/
theorem parse?_stripped_toLiteral (hform : form ≠ .line)
    (hindent : ∀ c ∈ indent, isBlank c = true ∧ c ≠ '\n') (text : List Char) :
    parse? true (toLiteral form indent text) = some (restoreClosers
      (if looksLikeMargin text then trim (normalText text).tail else normalText text)) ∧
    (¬['*', '\\', '/'] <:+: text →
      (parse? true (toLiteral form indent text) = some (normalText text) ↔
        looksLikeMargin text = false)) := by
  have hback : parse? true (toLiteral form indent text) = some (restoreClosers
      (if looksLikeMargin text then trim (normalText text).tail else normalText text)) := by
    have hnone : NoCloser indent := noCloser_of_blank fun c hc => (hindent c hc).1
    have htoken := token?_of_noCloser hform hnone text []
    rw [List.append_nil] at htoken
    rw [parse?, htoken, Option.map_some, if_pos rfl, strip_toLiteral hform hindent,
      joined_comeBack_trimmedLines]
  refine ⟨hback, fun hplain => ?_⟩
  rw [hback]
  cases hmargin : looksLikeMargin text with
  | false => simp [restoreClosers_normalText hplain]
  | true => simpa using restoreClosers_trim_tail_ne (normalText_ne_nil hmargin)

/-- Stars at the heads of lines, blank lines, a carriage return and a closer, behind tabs. -/
theorem parse?_stripped_toLiteral_stars :
    CommentForm.doc ≠ .line ∧ (∀ c ∈ ['\t'], isBlank c = true ∧ c ≠ '\n') ∧
      parse? true (toLiteral .doc ['\t']
        ['*', ' ', 'a', ' ', '\r', '\n', '*', '/', '\n', '\n', ' ', '\n', '*', '\n']) =
          some ['*', ' ', 'a', ' ', '*', '/', '\n', '*'] := by
  have hform : CommentForm.doc ≠ .line := by decide
  have hindent : ∀ c ∈ ['\t'], isBlank c = true ∧ c ≠ '\n' := by
    intro c hc
    rw [List.mem_singleton.mp hc]
    decide
  refine ⟨hform, hindent, ?_⟩
  exact ((parse?_stripped_toLiteral hform hindent _).2 (by simp [List.infix_cons_iff])).mpr rfl

/-- A text of one line that begins as a margin does loses its star. -/
theorem parse?_stripped_toLiteral_margin :
    ¬['*', '\\', '/'] <:+: ['*', ' ', 'a'] ∧ normalText ['*', ' ', 'a'] = ['*', ' ', 'a'] ∧
      toLiteral .block [] ['*', ' ', 'a'] =
        ['/', '*', ' ', '*', ' ', 'a', ' ', '*', '/'] ∧
      parse? true (toLiteral .block [] ['*', ' ', 'a']) = some ['a'] := by
  decide

end ScriptLiterals.Comment
