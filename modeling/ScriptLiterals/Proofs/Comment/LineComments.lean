import ScriptLiterals.Proofs.Comment.Printed
import ScriptLiterals.Proofs.Placement

/-!
# Line comments, one for each line

A text is printed as one line comment per line. Read one behind the other up to the end
(`comments?`), these comments give back the lines, if printer and reader agree on what a line is. They
do not quite. To the printer a carriage return ends a line only in front of a line feed, while to the
reader it ends a comment wherever it stands, and what follows it is outside. So the lines come back
exactly if none of them holds a carriage return (`comments?_toLiteral`).

Blanks may stand in front of each comment, and the induction over the lines needs them there: the
indentation of the next line is what is left when a comment has taken its line feed, and with it all
line breaks that the indentation begins with.
-/

set_option autoImplicit false

namespace ScriptLiterals.Comment

open Text

variable {blanks cs indent line text : List Char} {ls : List (List Char)}
  {t : Token (List Char) CommentForm} {ts : List (Token (List Char) CommentForm)}

/-! ## All comments of a text -/

/-- Less is left behind a comment than there was. -/
theorem length_dropBytes_stop_lt (h : token? text = some t) :
    (dropBytes t.span.stop text).length < text.length := by
  have hleads := recognizer_exact.leadsIn_of_scan (found?_eq_some_iff.mp h)
  have hlength := congrArg List.length hleads.append_dropBytes_stop
  have hsource := List.length_pos_iff.mpr hleads.source_ne_nil
  rw [List.length_append, List.length_append] at hlength
  omega

/-- The comments of a text: one is read at its head, the next one behind it, up to the end of the text.
Nothing is answered if the text holds anything else than comments and blanks in front of them. -/
def comments? (text : List Char) : Option (List (Token (List Char) CommentForm)) :=
  if text.isEmpty then some []
  else match _h : token? text with
    | none => none
    | some t => (comments? (dropBytes t.span.stop text)).map (t :: ·)
termination_by text.length
decreasing_by exact length_dropBytes_stop_lt _h

/-- The form of a comment and its text. -/
def content (t : Token (List Char) CommentForm) : CommentForm × List Char :=
  (t.detail, strip t.detail t.source)

/-- What the comments of a text say. -/
def contents? (text : List Char) : Option (List (CommentForm × List Char)) :=
  (comments? text).map (List.map content)

/-- The text consists of these comments, and of blanks in front of each. -/
def ConsistsOf : List (Token (List Char) CommentForm) → List Char → Prop
  | [], text => text = []
  | t :: ts, text => ∃ blanks rest, (∀ c ∈ blanks, isBlank c = true) ∧
      text = blanks ++ t.source ++ rest ∧ ConsistsOf ts rest

theorem comments?_nil : comments? [] = some [] := by
  rw [comments?]
  rfl

theorem comments?_of_token? (h : token? text = some t) :
    comments? text = (comments? (dropBytes t.span.stop text)).map (t :: ·) := by
  have hne : ¬text.isEmpty = true := by
    intro hempty
    have hnone : token? [] = none := rfl
    rw [List.isEmpty_iff.mp hempty, hnone] at h
    exact absurd h (by simp)
  rw [comments?, if_neg hne]
  split
  · rename_i hnone
    exact absurd (hnone.symm.trans h) (by simp)
  · rename_i t' ht'
    rw [Option.some.inj (ht'.symm.trans h)]

theorem comments?_of_eq_none (hne : text ≠ []) (h : token? text = none) : comments? text = none := by
  rw [comments?, if_neg fun hempty => hne (List.isEmpty_iff.mp hempty)]
  split
  · rfl
  · rename_i t ht
    exact absurd (ht.symm.trans h) (by simp)

/-- **Nothing but blanks stands outside the comments of a text.** -/
theorem consistsOf_of_comments? (h : comments? text = some ts) : ConsistsOf ts text := by
  fun_induction comments? text generalizing ts with
  | case1 text hempty =>
    obtain rfl := Option.some.inj h
    exact List.isEmpty_iff.mp hempty
  | case2 => exact absurd h (by simp)
  | case3 text hne t ht ih =>
    obtain ⟨later, hlater, rfl⟩ := Option.map_eq_some_iff.mp h
    have hleads := recognizer_exact.leadsIn_of_scan (found?_eq_some_iff.mp ht)
    exact ⟨leadingBlank text, _, fun c hc => List.mem_takeWhile_imp hc,
      hleads.append_dropBytes_stop.symm, ih hlater⟩

/-- What is read at the head of a text is its first comment. -/
theorem contents?_of_read (hblank : ∀ c ∈ blanks, isBlank c = true) (htext : EndsRun isBlank text)
    {found : Lexeme (List Char) CommentForm} (h : read text = .ok found) :
    contents? (blanks ++ text) =
      (contents? found.rest).map ((found.detail, strip found.detail found.source) :: ·) := by
  have htoken : token? (blanks ++ text) = some (found.behind blanks) :=
    found?_eq_some_iff.mpr (Recognizer.scan_blanks_append hblank htext h rfl)
  have hdrop : dropBytes (found.behind blanks).span.stop (blanks ++ text) = found.rest := by
    rw [(recognizer_exact text found h).1, ← List.append_assoc]
    exact (congrArg (dropBytes · _) (byteCount_append _ _).symm).trans (dropBytes_append _ _)
  rw [contents?, comments?_of_token? htoken, hdrop, contents?, Option.map_map, Option.map_map]
  rfl

/-! ## One line comment -/

theorem isBlank_of_isLineBreak {c : Char} (h : isLineBreak c = true) : isBlank c = true := by
  rw [isLineBreak, Bool.or_eq_true, beq_iff_eq, beq_iff_eq] at h
  rcases h with rfl | rfl <;> decide

theorem strip_slashes (hline : EndsRun (· == '/') line) {breaks : List Char}
    (hbreaks : ∀ c ∈ breaks, isLineBreak c = true) :
    strip .line ('/' :: '/' :: line ++ breaks) = trim line := by
  have hblank : ∀ c ∈ breaks, isBlank c = true := fun c hc => isBlank_of_isLineBreak (hbreaks c hc)
  have hend : EndsRun (· == '/') (line ++ breaks) := by
    cases line with
    | cons c line => simpa [EndsRun] using hline
    | nil =>
      intro c hc
      have hbreak := hbreaks c (List.mem_of_mem_head? hc)
      by_contra hslash
      rw [Bool.not_eq_false, beq_iff_eq] at hslash
      rw [hslash] at hbreak
      exact absurd hbreak (by decide)
  have hrun : (['/', '/'] ++ (line ++ breaks)).dropWhile (· == '/') = line ++ breaks :=
    dropWhile_run (by simp) hend
  change trim ((['/', '/'] ++ (line ++ breaks)).dropWhile (· == '/')) = trim line
  rw [hrun, trim_append_blanks hblank]

/-- **A line comment runs to the first line break**, and the next comment is looked for behind all of
those that stand there. -/
theorem contents?_slashes (hblank : ∀ c ∈ blanks, isBlank c = true) (hcs : EndsRun (· == '/') cs) :
    contents? (blanks ++ '/' :: '/' :: cs) =
      (contents? ((cs.dropWhile (!isLineBreak ·)).dropWhile isLineBreak)).map
        ((.line, trim (cs.takeWhile (!isLineBreak ·))) :: ·) := by
  have hslash : EndsRun isBlank ('/' :: '/' :: cs) := endsRun_cons.mpr (by decide)
  rw [contents?_of_read hblank hslash rfl, strip_slashes (endsRun_takeWhile hcs)]
  exact fun c hc => List.mem_takeWhile_imp hc

/-! ## The printed lines -/

theorem marked_opener_append (line rest : List Char) :
    marked CommentForm.line.opener line ++ rest = '/' :: '/' :: (marked [] line ++ rest) := by
  rw [marked_eq]
  rfl

/-- **A line without a line break is one comment.** -/
theorem contents?_marked (hblank : ∀ c ∈ blanks, isBlank c = true) (hline : IsTrimmed line)
    (hbreaks : ∀ c ∈ line, isLineBreak c = false) {rest : List Char}
    (hrest : EndsRun (!isLineBreak ·) rest) :
    contents? (blanks ++ (marked CommentForm.line.opener line ++ rest)) =
      (contents? (rest.dropWhile isLineBreak)).map ((.line, line) :: ·) := by
  have hrun : ∀ c ∈ marked [] line, (!isLineBreak c) = true := by
    intro c hc
    unfold marked at hc
    split_ifs at hc
    · exact absurd hc (by simp)
    · rcases List.mem_cons.mp hc with rfl | hmem
      · rfl
      · rw [hbreaks c hmem]
        rfl
  have hslash : EndsRun (· == '/') (marked [] line ++ rest) := by
    unfold marked
    split_ifs
    · refine hrest.mono fun c hc => ?_
      rw [beq_iff_eq.mp hc]
      rfl
    · simp [EndsRun]
  rw [marked_opener_append, contents?_slashes hblank hslash, takeWhile_run hrun hrest,
    dropWhile_run hrun hrest, trim_marked hline]

theorem length_takeWhile_lt (hreturn : '\r' ∈ line) (rest : List Char) :
    ((line ++ rest).takeWhile (!isLineBreak ·)).length < line.length := by
  obtain ⟨before, after, rfl⟩ := List.append_of_mem hreturn
  have hstop : (before ++ ('\r' :: (after ++ rest))).takeWhile (!isLineBreak ·) =
      before.takeWhile (!isLineBreak ·) := by
    rw [List.takeWhile_append, List.takeWhile_cons_of_neg (by decide), List.append_nil]
    split_ifs with hall
    · exact (List.takeWhile_prefix _).eq_of_length hall |>.symm
    · rfl
  have hbefore := (List.takeWhile_prefix (l := before) (!isLineBreak ·)).length_le
  rw [List.append_assoc, List.cons_append, hstop, List.length_append, List.length_cons]
  omega

/-- **A line with a carriage return is cut at the first**, and does not come back. -/
theorem exists_contents?_marked (hblank : ∀ c ∈ blanks, isBlank c = true) (hreturn : '\r' ∈ line)
    (rest : List Char) : ∃ cut rest', cut ≠ line ∧
      contents? (blanks ++ (marked CommentForm.line.opener line ++ rest)) =
        (contents? rest').map ((.line, cut) :: ·) := by
  have hmarked : marked [] line = ' ' :: line := by
    unfold marked
    rw [if_neg]
    · rfl
    · intro hempty
      rw [List.isEmpty_iff.mp hempty] at hreturn
      exact absurd hreturn (by simp)
  have hslash : EndsRun (· == '/') (marked [] line ++ rest) := by
    rw [hmarked]
    simp [EndsRun]
  have hcontents := contents?_slashes hblank hslash
  rw [← marked_opener_append] at hcontents
  refine ⟨_, _, ?_, hcontents⟩
  -- what stands in front of the carriage return is too short to be the line
  generalize hcut : (line ++ rest).takeWhile (!isLineBreak ·) = cut
  have hshort : cut.length < line.length := by
    rw [← hcut]
    exact length_takeWhile_lt hreturn rest
  have htrim : trim ((marked [] line ++ rest).takeWhile (!isLineBreak ·)) = trim cut := by
    rw [hmarked, List.cons_append, List.takeWhile_cons_of_pos (by decide), hcut]
    exact trim_blanks_append (fun _ => isBlank_of_mem_space) cut
  have hle : (trim cut).length ≤ cut.length := (trim_isInfix cut).length_le
  rw [htrim]
  intro heq
  rw [heq] at hle
  exact absurd hshort (Nat.not_lt.mpr hle)

theorem lineLiteral_cons_cons (indent line next : List Char) (later : List (List Char)) :
    lineLiteral indent (line :: next :: later) =
      marked CommentForm.line.opener line ++
        ('\n' :: indent ++ lineLiteral indent (next :: later)) := by
  simp [lineLiteral, List.intercalate_cons_cons]

theorem endsRun_lineLiteral (indent line : List Char) (later : List (List Char)) :
    EndsRun isLineBreak (lineLiteral indent (line :: later)) := by
  have hslash : (marked CommentForm.line.opener line).head? = some '/' := by
    rw [marked_eq]
    rfl
  obtain ⟨cs, hcs⟩ := List.head?_eq_some_iff.mp hslash
  cases later with
  | nil =>
    rw [lineLiteral, List.map_singleton, List.intercalate_singleton, hcs]
    exact endsRun_cons.mpr (by decide)
  | cons next later =>
    rw [lineLiteral_cons_cons, hcs]
    exact endsRun_cons.mpr (by decide)

/-- The line breaks that the indentation begins with go with the comment in front of them. -/
theorem dropWhile_indent_append {cs : List Char} (indent : List Char) (hcs : EndsRun isLineBreak cs) :
    ('\n' :: indent ++ cs).dropWhile isLineBreak = indent.dropWhile isLineBreak ++ cs := by
  rw [List.cons_append, List.dropWhile_cons_of_pos (by decide), List.dropWhile_append]
  split_ifs with hempty
  · rw [List.isEmpty_iff.mp hempty, dropWhile_of_endsRun hcs, List.nil_append]
  · rfl

theorem isLineBreak_eq_false_of_mem {c : Char} (hfeed : '\n' ∉ line) (hreturn : '\r' ∉ line)
    (hc : c ∈ line) : isLineBreak c = false := by
  rw [isLineBreak, Bool.or_eq_false_iff, beq_eq_false_iff_ne, beq_eq_false_iff_ne]
  exact ⟨fun heq => hfeed (heq ▸ hc), fun heq => hreturn (heq ▸ hc)⟩

theorem map_cons_eq_some_iff {α : Type} {a b : α} {found : Option (List α)} {as : List α} :
    found.map (a :: ·) = some (b :: as) ↔ a = b ∧ found = some as := by
  cases found <;> simp

/-- **The comments say the lines, exactly if no line holds a carriage return.** The induction is on the
lines, with whatever blanks in front of the first. -/
theorem contents?_lineLiteral_iff (hindent : ∀ c ∈ indent, isBlank c = true) (hne : ls ≠ [])
    (hls : ∀ line ∈ ls, IsTrimmed line ∧ '\n' ∉ line) (hblank : ∀ c ∈ blanks, isBlank c = true) :
    contents? (blanks ++ lineLiteral indent ls) = some (ls.map (Prod.mk .line)) ↔
      ∀ line ∈ ls, '\r' ∉ line := by
  induction ls generalizing blanks with
  | nil => exact absurd rfl hne
  | cons line later ih =>
    obtain ⟨htrimmed, hfeed⟩ := hls line (by simp)
    obtain ⟨rest, hliteral, hrest, hbehind⟩ : ∃ rest,
        lineLiteral indent (line :: later) = marked CommentForm.line.opener line ++ rest ∧
        EndsRun (!isLineBreak ·) rest ∧
        (contents? (rest.dropWhile isLineBreak) = some (later.map (Prod.mk .line)) ↔
          ∀ line ∈ later, '\r' ∉ line) := by
      cases later with
      | nil =>
        refine ⟨[], by simp [lineLiteral], by simp [EndsRun], ?_⟩
        simp [contents?, comments?_nil]
      | cons next later =>
        refine ⟨_, lineLiteral_cons_cons indent line next later, endsRun_cons.mpr (by decide), ?_⟩
        rw [dropWhile_indent_append indent (endsRun_lineLiteral indent next later)]
        exact ih (by simp) (fun line' hline' => hls line' (by simp [hline'])) fun c hc =>
          hindent c ((List.dropWhile_suffix _).subset hc)
    rw [hliteral, List.map_cons, List.forall_mem_cons]
    by_cases hreturn : '\r' ∈ line
    · obtain ⟨cut, rest', hcut, heq⟩ := exists_contents?_marked hblank hreturn rest
      rw [heq, map_cons_eq_some_iff]
      constructor
      · intro hall
        exact absurd (Prod.mk.inj hall.1).2 hcut
      · intro hall
        exact absurd hreturn hall.1
    · have hbreaks : ∀ c ∈ line, isLineBreak c = false :=
        fun c hc => isLineBreak_eq_false_of_mem hfeed hreturn hc
      rw [contents?_marked hblank htrimmed hbreaks hrest, map_cons_eq_some_iff, hbehind]
      simp [hreturn]

/-! ## The round trip -/

/-- **The round trip of line comments.** Behind each other the printed comments are read up to the end,
and what they say are the lines of the text in order, one comment for each; nothing of the text stands
outside. This holds exactly if no line of the text holds a carriage return: there the comment ends. -/
theorem comments?_toLiteral (hindent : ∀ c ∈ indent, isBlank c = true) (text : List Char) :
    (∃ ts, comments? (toLiteral .line indent text) = some ts ∧
      ConsistsOf ts (toLiteral .line indent text) ∧
      ts.map content = (trimmedLines text).map (Prod.mk .line)) ↔
    ∀ line ∈ trimmedLines text, '\r' ∉ line := by
  have hnone : ∀ c ∈ ([] : List Char), isBlank c = true := by simp
  have hls : ∀ line ∈ trimmedLines text, IsTrimmed line ∧ '\n' ∉ line := fun line hline =>
    ⟨isTrimmed_of_mem_trimmedLines hline, lineFeed_notMem_of_mem_trimmedLines hline⟩
  rw [← contents?_lineLiteral_iff hindent (trimmedLines_ne_nil text) hls hnone]
  change _ ↔ contents? (toLiteral .line indent text) = _
  rw [contents?, Option.map_eq_some_iff]
  constructor
  · intro hparts
    obtain ⟨ts, hts, -, hcontent⟩ := hparts
    exact ⟨ts, hts, hcontent⟩
  · intro hparts
    obtain ⟨ts, hts, hcontent⟩ := hparts
    exact ⟨ts, hts, consistsOf_of_comments? hts, hcontent⟩

/-- A line that begins with a slash and ends with a return of its own, a blank one, and an
indentation. -/
theorem comments?_toLiteral_blankLine :
    (∀ c ∈ ['\t'], isBlank c = true) ∧
      toLiteral .line ['\t'] ['/', 'a', '\r', '\r', '\n', '\n', ' ', 'b'] =
        ['/', '/', ' ', '/', 'a', '\n', '\t', '/', '/', '\n', '\t', '/', '/', ' ', 'b'] ∧
      ∃ ts, comments? (toLiteral .line ['\t'] ['/', 'a', '\r', '\r', '\n', '\n', ' ', 'b']) =
          some ts ∧
        ConsistsOf ts (toLiteral .line ['\t'] ['/', 'a', '\r', '\r', '\n', '\n', ' ', 'b']) ∧
        ts.map content = [(.line, ['/', 'a']), (.line, []), (.line, ['b'])] := by
  have hindent : ∀ c ∈ ['\t'], isBlank c = true := by
    intro c hc
    rw [List.mem_singleton.mp hc]
    decide
  have hlines : trimmedLines ['/', 'a', '\r', '\r', '\n', '\n', ' ', 'b'] =
      [['/', 'a'], [], ['b']] := rfl
  exact ⟨hindent, rfl, (comments?_toLiteral hindent _).mpr (by rw [hlines]; simp)⟩

/-- Behind a carriage return in a line of the text the rest of this line is outside the comment. -/
theorem comments?_toLiteral_return :
    lines ['a', '\r', 'b'] = [['a', '\r', 'b']] ∧
      (token? (toLiteral .line [] ['a', '\r', 'b'])).map content = some (.line, ['a']) ∧
      comments? (toLiteral .line [] ['a', '\r', 'b']) = none := by
  have htoken : token? (toLiteral .line [] ['a', '\r', 'b']) =
      some ⟨['/', '/', ' ', 'a', '\r'], 0, 0, ['/', '/', ' ', 'a', '\r'], .line⟩ := by decide
  have hrest : comments? ['b'] = none := comments?_of_eq_none (by simp) (by decide)
  refine ⟨by decide, by rw [htoken]; decide, ?_⟩
  rw [comments?_of_token? htoken]
  change (comments? ['b']).map _ = none
  rw [hrest]
  rfl

end ScriptLiterals.Comment
