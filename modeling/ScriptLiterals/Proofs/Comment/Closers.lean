import ScriptLiterals.Proofs.Comment.Printed
import ScriptLiterals.Proofs.Readers

/-!
# Where a printed block comment ends

A block comment ends at its first closer, so a text can be put into one only if none of its own
characters make a closer, alone or together with what the printer writes around them. `NoCloser` is
the property, and a closer has two characters, so the seam of two texts matters only where the second
begins with a slash (`NoCloser.append`).

The printer breaks up the closers of each line (`noCloser_disarmClosers`) and puts a blank or a line
feed in front of everything else it writes behind a star. What is left is the indentation, which is
written as it is given: it may hold no closer, and this is all that is asked of it.

Reading a text back from a comment puts its closers together again. A text with broken up closers
gives back what the text itself does (`restoreClosers_disarmClosers`), which is the text unless it held
broken up closers before.
-/

set_option autoImplicit false

namespace ScriptLiterals.Comment

open Text

variable {form : CommentForm} {cs ds indent line : List Char} {lines : List (List Char)} {c : Char}

/-! ## Texts without a closer -/

/-- No closer stands in the text. -/
def NoCloser (cs : List Char) : Prop := ¬closer <:+: cs

theorem noCloser_nil : NoCloser [] := by
  simp [NoCloser, closer]

theorem pair_prefix_cons_iff {a b : Char} : [a, b] <+: c :: cs ↔ c = a ∧ cs.head? = some b := by
  cases cs <;> simp [@eq_comm _ a, @eq_comm _ b]

theorem noCloser_cons_iff :
    NoCloser (c :: cs) ↔ (c = '*' → cs.head? ≠ some '/') ∧ NoCloser cs := by
  rw [NoCloser, List.infix_cons_iff, closer, pair_prefix_cons_iff, not_or, not_and]
  rfl

/-- A character that is no star begins no closer. -/
theorem NoCloser.cons (h : NoCloser cs) (hc : c ≠ '*') : NoCloser (c :: cs) :=
  noCloser_cons_iff.mpr ⟨fun hstar => absurd hstar hc, h⟩

/-- **Two texts make a closer together only if the second begins with a slash.** -/
theorem NoCloser.append (h : NoCloser cs) (h' : NoCloser ds) (hhead : ds.head? ≠ some '/') :
    NoCloser (cs ++ ds) := by
  induction cs with
  | nil => exact h'
  | cons c cs ih =>
    obtain ⟨hstar, hrest⟩ := noCloser_cons_iff.mp h
    refine noCloser_cons_iff.mpr ⟨fun hc => ?_, ih hrest⟩
    cases cs with
    | nil => exact hhead
    | cons d cs => exact hstar hc

theorem noCloser_of_blank (h : ∀ c ∈ cs, isBlank c = true) : NoCloser cs := by
  intro hcloser
  exact absurd (h '*' (hcloser.subset (by decide))) (by decide)

theorem disarmClosers_cons_of_ne (hc : c ≠ '*') (cs : List Char) :
    disarmClosers (c :: cs) = c :: disarmClosers cs := by
  rw [disarmClosers]
  exact fun _ hstar => absurd hstar hc

/-- What is written for a text begins as the text does. -/
theorem head?_disarmClosers (cs : List Char) : (disarmClosers cs).head? = cs.head? := by
  fun_cases disarmClosers cs <;> rfl

/-- **The closers of a text are broken up.** -/
theorem noCloser_disarmClosers (cs : List Char) : NoCloser (disarmClosers cs) := by
  fun_induction disarmClosers cs with
  | case1 => exact noCloser_nil
  | case2 cs ih =>
    exact noCloser_cons_iff.mpr ⟨fun _ => by simp, (ih.cons (by decide)).cons (by decide)⟩
  | case3 c cs hopen ih =>
    refine noCloser_cons_iff.mpr ⟨fun hc hhead => ?_, ih⟩
    rw [head?_disarmClosers] at hhead
    obtain ⟨cs', rfl⟩ := List.head?_eq_some_iff.mp hhead
    exact hopen cs' hc rfl

/-! ## What a text and its broken up closers share -/

theorem disarmClosers_blanks_append {blanks : List Char} (h : ∀ c ∈ blanks, isBlank c = true)
    (cs : List Char) : disarmClosers (blanks ++ cs) = blanks ++ disarmClosers cs := by
  induction blanks with
  | nil => rfl
  | cons c blanks ih =>
    have hstar : c ≠ '*' := by
      rintro rfl
      exact absurd (h '*' (by simp)) (by decide)
    rw [List.cons_append, disarmClosers_cons_of_ne hstar, ih fun d hd => h d (by simp [hd])]
    rfl

theorem getLast?_disarmClosers (cs : List Char) : (disarmClosers cs).getLast? = cs.getLast? := by
  fun_induction disarmClosers cs with
  | case1 => rfl
  | case2 cs ih => simp [List.getLast?_cons, ih]
  | case3 c cs _ ih => simp [List.getLast?_cons, ih]

theorem isTrimmed_disarmClosers (h : IsTrimmed line) : IsTrimmed (disarmClosers line) where
  head := by
    rw [EndsRun, head?_disarmClosers]
    exact h.head
  last := by
    rw [getLast?_disarmClosers]
    exact h.last

theorem lineFeed_notMem_disarmClosers (h : '\n' ∉ line) : '\n' ∉ disarmClosers line := by
  fun_induction disarmClosers line with
  | case1 => exact h
  | case2 cs ih => simp_all
  | case3 c cs _ ih => simp_all

/-! ## Broken up closers are put together -/

theorem restoreClosers_cons_of_ne (hc : c ≠ '*') (cs : List Char) :
    restoreClosers (c :: cs) = c :: restoreClosers cs := by
  rw [restoreClosers]
  exact fun _ hstar => absurd hstar hc

/-- Behind a star a backslash is dropped if a slash follows it. -/
theorem restoreClosers_star (cs : List Char) : restoreClosers ('*' :: cs) =
    '*' :: if ['\\', '/'] <+: cs then (restoreClosers cs).tail else restoreClosers cs := by
  split_ifs with hslash
  · obtain ⟨rest, rfl⟩ := hslash
    have hrest : restoreClosers (['\\', '/'] ++ rest) = '\\' :: '/' :: restoreClosers rest :=
      (restoreClosers_cons_of_ne (by decide) _).trans
        (congrArg _ (restoreClosers_cons_of_ne (by decide) _))
    change restoreClosers ('*' :: '\\' :: '/' :: rest) = _
    rw [hrest, restoreClosers]
    rfl
  · rw [restoreClosers]
    rintro rest - rfl
    exact hslash ⟨rest, rfl⟩

theorem prefix_disarmClosers (cs : List Char) :
    ['\\', '/'] <+: disarmClosers cs ↔ ['\\', '/'] <+: cs := by
  cases cs with
  | nil => rfl
  | cons c cs =>
    by_cases hstar : c = '*'
    · have hhead : (disarmClosers (c :: cs)).head? = some '*' := by
        rw [head?_disarmClosers, hstar]
        rfl
      obtain ⟨ds, hds⟩ := List.head?_eq_some_iff.mp hhead
      rw [hds, hstar, pair_prefix_cons_iff, pair_prefix_cons_iff]
      simp
    · rw [disarmClosers_cons_of_ne hstar, pair_prefix_cons_iff, pair_prefix_cons_iff,
        head?_disarmClosers]

/-- **A text whose closers were broken up gives back what the text itself does.** -/
theorem restoreClosers_disarmClosers (cs : List Char) :
    restoreClosers (disarmClosers cs) = restoreClosers cs := by
  fun_induction disarmClosers cs with
  | case1 => rfl
  | case2 cs ih =>
    rw [restoreClosers, ih, restoreClosers_star, if_neg (by simp),
      restoreClosers_cons_of_ne (by decide)]
  | case3 c cs _ ih =>
    by_cases hstar : c = '*'
    · rw [hstar, restoreClosers_star, restoreClosers_star, ih]
      simp only [prefix_disarmClosers]
    · rw [restoreClosers_cons_of_ne hstar, restoreClosers_cons_of_ne hstar, ih]

theorem restoreClosers_eq_self (h : ¬['*', '\\', '/'] <:+: cs) : restoreClosers cs = cs := by
  fun_induction restoreClosers cs with
  | case1 => rfl
  | case2 cs => exact absurd (List.prefix_append _ cs).isInfix h
  | case3 c cs _ ih => rw [ih fun hpart => h (List.infix_cons hpart)]

theorem restoreClosers_eq_nil_iff (cs : List Char) : restoreClosers cs = [] ↔ cs = [] := by
  fun_cases restoreClosers cs <;> simp

theorem length_restoreClosers_le (cs : List Char) : (restoreClosers cs).length ≤ cs.length := by
  fun_induction restoreClosers cs with
  | case1 => exact Nat.le_refl _
  | case2 cs ih =>
    simp only [List.length_cons]
    omega
  | case3 c cs _ ih => simpa using ih

/-- A text falls into two at a character that belongs to no broken closer. -/
theorem restoreClosers_append_cons (hback : c ≠ '\\') (hslash : c ≠ '/') (hstar : c ≠ '*')
    (cs ds : List Char) :
    restoreClosers (cs ++ c :: ds) = restoreClosers cs ++ c :: restoreClosers ds := by
  fun_induction restoreClosers cs with
  | case1 => exact restoreClosers_cons_of_ne hstar ds
  | case2 cs ih =>
    change restoreClosers ('*' :: '\\' :: '/' :: (cs ++ c :: ds)) = _
    rw [restoreClosers, ih]
    rfl
  | case3 d cs hopen ih =>
    rw [List.cons_append, restoreClosers, ih, List.cons_append]
    intro rest hd heq
    rcases cs with _ | ⟨e, _ | ⟨f, cs⟩⟩
    · exact hback (List.cons.inj heq).1
    · exact hslash (List.cons.inj (List.cons.inj heq).2).1
    · have hslashes : e = '\\' ∧ f = '/' := by
        simp only [List.cons_append, List.cons.injEq] at heq
        exact ⟨heq.1, heq.2.1⟩
      exact hopen cs hd (by rw [hslashes.1, hslashes.2])

/-- So what is put together with such a character between the parts can be taken part by part. -/
theorem restoreClosers_intercalate (hback : c ≠ '\\') (hslash : c ≠ '/') (hstar : c ≠ '*')
    (ls : List (List Char)) :
    restoreClosers ([c].intercalate ls) = [c].intercalate (ls.map restoreClosers) := by
  induction ls with
  | nil => rfl
  | cons line ls ih =>
    cases ls with
    | nil => simp
    | cons next ls =>
      rw [List.map_cons, List.map_cons, List.intercalate_cons_cons, List.intercalate_cons_cons,
        List.append_assoc, List.append_assoc, List.singleton_append, List.singleton_append,
        restoreClosers_append_cons hback hslash hstar, ih]
      rfl

/-! ## The first closer -/

/-- **A comment ends at a closer if none ends before it.** The star of the closer belongs to the text
that is looked at, since it could be the end of an earlier one. -/
theorem splitAtCloser?_of_noCloser {inner : List Char} (h : NoCloser (inner ++ ['*']))
    (rest : List Char) : splitAtCloser? (inner ++ closer ++ rest) = some (inner, rest) := by
  induction inner with
  | nil => rfl
  | cons c inner ih =>
    obtain ⟨hstar, hinner⟩ := noCloser_cons_iff.mp h
    rw [List.cons_append, List.cons_append, splitAtCloser?, ih hinner]
    · rfl
    · intro cs hc hslash
      refine hstar hc ?_
      cases inner with
      | nil => exact absurd hslash (by simp [closer])
      | cons d inner => simpa using congrArg List.head? hslash

/-! ## What is printed -/

/-- What stands behind `/*` in the opener of a block comment: nothing, or the second star of a doc
comment. -/
def stars : CommentForm → List Char
  | .doc => ['*']
  | .line | .block => []

theorem opener_eq (hform : form ≠ .line) : form.opener = '/' :: '*' :: stars form := by
  cases form with
  | line => exact absurd rfl hform
  | block => rfl
  | doc => rfl

/-- What is printed between the opener of a block comment and its closer. -/
def interior (indent : List Char) : List (List Char) → List Char
  | [line] => marked [] line ++ [' ']
  | lines =>
    lines.flatMap (fun line => '\n' :: indent ++ marked [' ', '*'] line) ++ '\n' :: indent ++ [' ']

theorem blockLiteral_eq (opener indent : List Char) (lines : List (List Char)) :
    blockLiteral opener indent lines = opener ++ interior indent lines ++ closer := by
  unfold blockLiteral interior
  split
  · rw [marked_eq]
    simp
  · simp

/-- What is printed behind the opener begins with a blank or a line feed. -/
theorem exists_interior_eq_cons (indent : List Char) (lines : List (List Char)) :
    ∃ c rest, interior indent lines = c :: rest ∧ (c = ' ' ∨ c = '\n') := by
  unfold interior
  split
  · unfold marked
    split_ifs
    · exact ⟨_, _, rfl, Or.inl rfl⟩
    · exact ⟨_, _, rfl, Or.inl rfl⟩
  · cases lines with
    | nil => exact ⟨_, _, rfl, Or.inr rfl⟩
    | cons line lines => exact ⟨_, _, rfl, Or.inr rfl⟩

theorem noCloser_marked (h : NoCloser line) : NoCloser (marked [] line) := by
  unfold marked
  split_ifs
  · exact noCloser_nil
  · exact h.cons (by decide)

theorem head?_marked_ne (line : List Char) : (marked [] line).head? ≠ some '/' := by
  intro hslash
  exact absurd (head?_marked line '/' hslash) (by decide)

/-- A line behind its margin. The indentation may begin with a slash, and the line may: neither
stands right behind a star. -/
theorem noCloser_margin (hindent : NoCloser indent) (hline : NoCloser line) :
    NoCloser ('\n' :: indent ++ marked [' ', '*'] line) := by
  have hmargin : NoCloser [' ', '*'] := by
    unfold NoCloser
    decide
  rw [marked_eq]
  exact (hindent.cons (by decide)).append
    (hmargin.append (noCloser_marked hline) (head?_marked_ne line)) (by simp)

/-- **No closer stands between the opener and the closer that is printed**, nor one that ends with the
first character of the printed one. -/
theorem noCloser_interior (hindent : NoCloser indent) (hlines : ∀ line ∈ lines, NoCloser line) :
    NoCloser (interior indent lines ++ ['*']) := by
  have hend : NoCloser [' ', '*'] := by
    unfold NoCloser
    decide
  unfold interior
  split
  · rename_i line
    rw [List.append_assoc]
    exact (noCloser_marked (hlines line (by simp))).append hend (by simp)
  · simp only [List.append_assoc]
    have hlast : NoCloser ('\n' :: indent ++ [' ', '*']) :=
      (hindent.cons (by decide)).append hend (by simp)
    clear * - hindent hlines hlast
    induction lines with
    | nil => exact hlast
    | cons line lines ih =>
      rw [List.flatMap_cons, List.append_assoc]
      refine (noCloser_margin hindent (hlines line (by simp))).append
        (ih fun line' hline' => hlines line' (by simp [hline'])) ?_
      cases lines <;> simp

/-! ## Printed comments are read back -/

/-- The form that a comment is printed in is the one that its text shows. -/
theorem blockForm_stars_append (hform : form ≠ .line) (indent : List Char)
    (lines : List (List Char)) : blockForm (stars form ++ interior indent lines) = form := by
  obtain ⟨c, rest, heq, hc⟩ := exists_interior_eq_cons indent lines
  cases form with
  | line => exact absurd rfl hform
  | block =>
    rw [heq]
    rcases hc with rfl | rfl <;> rfl
  | doc => rfl

/-- The printed comment, with the lines of the text as they are written in it. -/
theorem toLiteral_eq (hform : form ≠ .line) (indent text : List Char) :
    toLiteral form indent text =
      '/' :: '*' :: (stars form ++ interior indent ((trimmedLines text).map disarmClosers)) ++
        closer := by
  have hblock : toLiteral form indent text =
      blockLiteral form.opener indent ((trimmedLines text).map disarmClosers) := by
    cases form with
    | line => exact absurd rfl hform
    | block => rfl
    | doc => rfl
  rw [hblock, blockLiteral_eq, opener_eq hform]
  rfl

theorem noCloser_stars_append (form : CommentForm) (hindent : NoCloser indent)
    (text : List Char) : NoCloser
      (stars form ++ interior indent ((trimmedLines text).map disarmClosers) ++ ['*']) := by
  have hstars : NoCloser (stars form) := by
    unfold NoCloser
    cases form <;> decide
  rw [List.append_assoc]
  refine hstars.append (noCloser_interior hindent ?_) ?_
  · intro line hline
    obtain ⟨line', -, rfl⟩ := List.mem_map.mp hline
    exact noCloser_disarmClosers line'
  · obtain ⟨c, rest, heq, hc⟩ :=
      exists_interior_eq_cons indent ((trimmedLines text).map disarmClosers)
    rw [heq]
    rcases hc with rfl | rfl <;> simp

/-- A printed block comment is read up to its own closer, whatever follows it. -/
theorem read_toLiteral_append (hform : form ≠ .line) (hindent : NoCloser indent)
    (text rest : List Char) : read (toLiteral form indent text ++ rest) =
      .ok (lexemeOf (toLiteral form indent text) rest form) := by
  have hclosed := splitAtCloser?_of_noCloser (noCloser_stars_append form hindent text) rest
  refine read_eq_ok_iff.mpr (Or.inr ⟨_, _, rest, ?_, hclosed, ?_⟩)
  · rw [toLiteral_eq hform]
    simp
  · rw [blockForm_stars_append hform, toLiteral_eq hform]

theorem token?_of_noCloser (hform : form ≠ .line) (hindent : NoCloser indent)
    (text rest : List Char) : token? (toLiteral form indent text ++ rest) =
      some ⟨toLiteral form indent text, 0, 0, toLiteral form indent text, form⟩ := by
  have hread := read_toLiteral_append hform hindent text rest
  have hhead : EndsRun isBlank (toLiteral form indent text ++ rest) := by
    rw [toLiteral_eq hform]
    exact endsRun_cons.mpr (by decide)
  have hblank : ∀ c ∈ ([] : List Char), isBlank c = true := by simp
  have hscan : recognizer.scan ([] ++ (toLiteral form indent text ++ rest)) = _ :=
    Recognizer.scan_blanks_append hblank hhead hread rfl
  exact found?_eq_some_iff.mpr hscan

/-- **A printed block comment cannot be broken out of.** Whatever the text, and whatever follows the
comment, what is read at its head is the comment as it was printed, in the form that was asked for:
the first closer behind the opener is the one that the printer wrote last. -/
theorem token?_toLiteral_append (hform : form ≠ .line) (hindent : NoCloser indent)
    (text rest : List Char) :
    (∃ inner, toLiteral form indent text = ['/', '*'] ++ inner ++ closer ∧
      NoCloser (inner ++ ['*'])) ∧
    token? (toLiteral form indent text ++ rest) =
      some ⟨toLiteral form indent text, 0, 0, toLiteral form indent text, form⟩ :=
  ⟨⟨_, toLiteral_eq hform indent text, noCloser_stars_append form hindent text⟩,
    token?_of_noCloser hform hindent text rest⟩

/-- Closers in the text, lines that begin with a slash, and an indentation that does. -/
theorem token?_toLiteral_append_slashes :
    CommentForm.doc ≠ .line ∧ NoCloser ['/'] ∧
      token? (toLiteral .doc ['/'] ['*', '\n', '/', '*', '*', '/'] ++ ['*', '/']) =
        some ⟨toLiteral .doc ['/'] ['*', '\n', '/', '*', '*', '/'], 0, 0,
          ['/', '*', '*', '\n', '/', ' ', '*', ' ', '*', '\n',
            '/', ' ', '*', ' ', '/', '*', '*', '\\', '/', '\n', '/', ' ', '*', '/'], .doc⟩ := by
  have hform : CommentForm.doc ≠ .line := by decide
  have hindent : NoCloser ['/'] := by
    unfold NoCloser
    decide
  exact ⟨hform, hindent, (token?_toLiteral_append hform hindent _ _).2⟩

end ScriptLiterals.Comment
