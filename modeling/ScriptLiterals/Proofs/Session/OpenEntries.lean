import ScriptLiterals.Proofs.Comment.Grammar
import ScriptLiterals.Proofs.Context
import ScriptLiterals.Proofs.Lines
import ScriptLiterals.Proofs.Quoted.Grammar
import ScriptLiterals.Session.Editing

/-!
# Entries of several lines

More lines belong to an entry if it ends in a backslash, and if it begins with a block comment or a
string between backticks that is never closed (`isOpen_eq_true_iff`). The two are one thing here, an
`Enclosure` with an opener and a closer.

An enclosure that is unclosed in a text is unclosed in every beginning of it (`Unclosed.of_append`),
so one that is closed stays closed, whatever is typed behind it. And its closer on a line of its own
closes it, whatever the lines before say (`not_unclosed_append`). The line feed in front of the
closer is what a backslash at the end of these lines would hide otherwise.
-/

set_option autoImplicit false

namespace ScriptLiterals

open Text

variable {α δ : Type} {cs text more entry : List Char}

/-! ## Backslashes at the end -/

namespace Text

/-- The last character that is not blank is a backslash. -/
def EndsInBackslash (cs : List Char) : Prop :=
  ∃ before blanks, cs = before ++ '\\' :: blanks ∧ ∀ c ∈ blanks, isBlank c = true

theorem endsInBackslash_iff : EndsInBackslash cs ↔ (trimEnd cs).getLast? = some '\\' := by
  constructor
  · intro h
    obtain ⟨before, blanks, rfl, hblank⟩ := h
    have hlast : ∀ c ∈ (before ++ ['\\']).getLast?, isBlank c = false := by
      rw [List.getLast?_concat]
      rintro c ⟨⟩
      decide
    rw [← List.singleton_append, ← List.append_assoc, trimEnd_append_blanks hblank,
      trimEnd_eq_self hlast, List.getLast?_concat]
  · intro h
    obtain ⟨blanks, hblank, heq⟩ := exists_trimEnd_append cs
    obtain ⟨before, hbefore⟩ := List.getLast?_eq_some_iff.mp h
    rw [hbefore, List.append_assoc, List.singleton_append] at heq
    exact ⟨before, blanks, heq, hblank⟩

/-- **The end of two texts is that of the second**, unless it is blank. -/
theorem endsInBackslash_append_iff : EndsInBackslash (text ++ more) ↔
    EndsInBackslash more ∨ ((∀ c ∈ more, isBlank c = true) ∧ EndsInBackslash text) := by
  constructor
  · intro h
    obtain ⟨before, blanks, heq, hblank⟩ := h
    rcases List.append_eq_append_iff.mp heq with ⟨middle, rfl, rfl⟩ | ⟨middle, rfl, hmiddle⟩
    · exact Or.inl ⟨middle, blanks, rfl, hblank⟩
    · cases middle with
      | nil => exact Or.inl ⟨[], blanks, hmiddle.symm, hblank⟩
      | cons c middle =>
        obtain ⟨rfl, rfl⟩ := List.cons.inj hmiddle
        refine Or.inr ⟨fun d hd => hblank d (List.mem_append_right _ hd), before, middle, rfl, ?_⟩
        exact fun d hd => hblank d (List.mem_append_left _ hd)
  · rintro (⟨before, blanks, rfl, hblank⟩ | ⟨hmore, before, blanks, rfl, hblank⟩)
    · exact ⟨text ++ before, blanks, by rw [List.append_assoc], hblank⟩
    · refine ⟨before, blanks ++ more, by rw [List.append_assoc, List.cons_append], ?_⟩
      intro c hc
      exact (List.mem_append.mp hc).elim (hblank c) (hmore c)

theorem not_endsInBackslash (h : '\\' ∉ cs) : ¬EndsInBackslash cs := by
  rintro ⟨before, blanks, rfl, -⟩
  exact h (by simp)

/-- A text does not end in a backslash if it ends in one without, which is not blank. -/
theorem not_endsInBackslash_append {c : Char} (text : List Char) (h : '\\' ∉ more)
    (hc : c ∈ more) (hvisible : isBlank c = false) : ¬EndsInBackslash (text ++ more) := by
  intro hends
  rcases endsInBackslash_append_iff.mp hends with hmore | ⟨hmore, -⟩
  · exact not_endsInBackslash h hmore
  · rw [hmore c hc] at hvisible
    exact absurd hvisible (by simp)

end Text

/-! ## Strings between backticks -/

namespace Quoted

theorem readPieces?_eq_none_iff {q : Quote} : readPieces? q text = none ↔
    ¬∃ elements rest, IsLiteral q (q.char :: text) elements rest := by
  constructor
  · rintro hnone ⟨elements, rest, hliteral⟩
    obtain ⟨pieces, -, hread⟩ := hliteral.exists_readPieces?
    rw [hnone] at hread
    exact absurd hread (by simp)
  · intro hnone
    cases hread : readPieces? q text with
    | none => rfl
    | some found => exact absurd ⟨_, _, isLiteral_of_readPieces? hread⟩ hnone

theorem read_eq_unterminated_iff {q : Quote} :
    read (q.char :: text) = .error .unterminated ↔ readPieces? q text = none := by
  rw [read_quote]
  cases readPieces? q text <;> simp

/-- What closes a string closes it whatever follows. -/
theorem readPieces?_eq_none_of_append {q : Quote} (h : readPieces? q (text ++ more) = none) :
    readPieces? q text = none := by
  cases hread : readPieces? q text with
  | none => rfl
  | some found =>
    have hlonger := readPieces?_sourceOf_append hread (found.2 ++ more)
    rw [← List.cons_append, ← List.append_assoc, ← sourceOf_append_of_readPieces? hread, h]
      at hlonger
    exact absurd hlonger (by simp)

/-- **A backtick behind a line feed closes a string**, at the latest: the line feed is the one
character that a backslash before it can take. -/
theorem isSome_readPieces?_append (text : List Char) :
    (readPieces? .backtick (text ++ ['\n', Quote.backtick.char])).isSome = true := by
  fun_induction readPieces? .backtick text with
  | case1 => rfl
  | case2 => rfl
  | case3 cs ih =>
    have hstep := readPieces?_brokenLine .backtick (cs ++ ['\n', Quote.backtick.char])
    rw [List.cons_append, List.cons_append, List.cons_append, hstep, Option.isSome_map]
    exact ih
  | case4 c cs hbreak ih =>
    by_cases hc : c = '\r' ∧ cs = []
    · -- here the line feed joins the carriage return before it
      obtain ⟨rfl, rfl⟩ := hc
      rfl
    · have hpair : c = '\r' → (cs ++ ['\n', Quote.backtick.char]).head? ≠ some '\n' := by
        intro hreturn hhead
        cases cs with
        | nil => exact hc ⟨hreturn, rfl⟩
        | cons d cs =>
          obtain rfl : d = '\n' := Option.some.inj hhead
          exact hbreak cs hreturn rfl
      rw [List.cons_append, List.cons_append, readPieces?_pair hpair, Option.isSome_map]
      exact ih
  | case5 cs =>
    rw [List.cons_append, readPieces?_quote]
    rfl
  | case6 c cs hback _ hpair hquote hraw => exact absurd hraw (by simp [Quote.allowsLineBreaks])
  | case7 c cs hback _ hpair hquote hraw ih =>
    rw [List.cons_append, readPieces?_of_ne (ne_backslash_of_unpaired hback hpair), if_neg hquote,
      if_neg hraw, Option.isSome_map]
    exact ih

end Quoted

namespace Session

/-! ## Enclosures -/

/-- What can hold several lines of an entry. -/
inductive Enclosure where
  | comment
  | string

namespace Enclosure

def opener : Enclosure → List Char
  | .comment => CommentForm.block.opener
  | .string => [Quote.backtick.char]

def closer : Enclosure → List Char
  | .comment => Comment.closer
  | .string => [Quote.backtick.char]

theorem exists_mem_closer (e : Enclosure) : ∃ c ∈ e.closer, isBlank c = false := by
  cases e with
  | comment => exact ⟨'/', by decide, by decide⟩
  | string => exact ⟨Quote.backtick.char, by decide, by decide⟩

/-- The text, which stands behind the opener, does not close the enclosure. -/
def Unclosed : Enclosure → List Char → Prop
  | .comment, text => Comment.NoCloser text
  | .string, text =>
    ¬∃ elements rest, Quoted.IsLiteral .backtick (Quote.backtick.char :: text) elements rest

variable {e : Enclosure}

/-- **What closes an enclosure closes it whatever follows.** -/
theorem Unclosed.of_append (h : e.Unclosed (text ++ more)) : e.Unclosed text := by
  cases e with
  | comment => exact fun hcloser => h (hcloser.trans (List.prefix_append text more).isInfix)
  | string =>
    rw [Unclosed, ← Quoted.readPieces?_eq_none_iff] at h ⊢
    exact Quoted.readPieces?_eq_none_of_append h

/-- **Its closer on a line of its own closes an enclosure.** -/
theorem not_unclosed_append (e : Enclosure) (text : List Char) :
    ¬e.Unclosed (text ++ '\n' :: e.closer) := by
  cases e with
  | comment =>
    refine not_not_intro ⟨text ++ ['\n'], [], ?_⟩
    rw [List.append_nil, List.append_assoc]
    rfl
  | string =>
    rw [Unclosed, closer, ← Quoted.readPieces?_eq_none_iff]
    intro hnone
    have hsome := Quoted.isSome_readPieces?_append text
    rw [hnone] at hsome
    exact absurd hsome (by simp)

theorem skipBlank_append (h : skipBlank entry = e.opener ++ text) (more : List Char) :
    skipBlank (entry ++ more) = e.opener ++ (text ++ more) := by
  have hne : (entry.dropWhile isBlank).isEmpty = false := by
    rw [show entry.dropWhile isBlank = _ from h]
    cases e <;> rfl
  rw [skipBlank, List.dropWhile_append, hne, if_neg (by simp),
    show entry.dropWhile isBlank = _ from h, List.append_assoc]

end Enclosure

/-! ## Open entries -/

variable {e : Enclosure}

theorem isUnterminated_scan_iff {r : Recognizer α δ} :
    isUnterminated (r.scan entry) = true ↔ r.read (skipBlank entry) = .error .unterminated := by
  rw [Recognizer.scan, Recognizer.locate_eq]
  cases hread : r.read (skipBlank entry) with
  | error miss => cases miss <;> simp [Miss.toError, isUnterminated]
  | ok found =>
    dsimp only
    split <;> simp [isUnterminated]

/-- An entry that begins with an opener is open if it ends in a backslash or nothing closes it. -/
theorem isOpen_of_opener (h : skipBlank entry = e.opener ++ text) :
    isOpen entry = true ↔ EndsInBackslash entry ∨ e.Unclosed text := by
  rw [isOpen, endsInBackslash_iff]
  split
  · rename_i hend
    exact iff_of_true rfl (Or.inl hend)
  · rename_i hend
    rw [or_iff_right hend]
    cases e with
    | comment =>
      rw [h]
      change isUnterminated (Comment.recognizer.scan entry) = true ↔ _
      rw [isUnterminated_scan_iff, h]
      exact Comment.read_block_eq_unterminated_iff
    | string =>
      rw [h]
      change isUnterminated (Quoted.recognizer.scan entry) = true ↔ _
      rw [isUnterminated_scan_iff, h, Enclosure.Unclosed, ← Quoted.readPieces?_eq_none_iff]
      exact Quoted.read_eq_unterminated_iff (q := .backtick)

/-- **An entry is open** if it ends in a backslash or begins with an enclosure that is unclosed. -/
theorem isOpen_eq_true_iff : isOpen entry = true ↔ EndsInBackslash entry ∨
    ∃ e text, skipBlank entry = Enclosure.opener e ++ text ∧ e.Unclosed text := by
  constructor
  · intro hopen
    by_cases hend : EndsInBackslash entry
    · exact Or.inl hend
    · refine Or.inr ?_
      have hopener := hopen
      rw [isOpen, if_neg (mt endsInBackslash_iff.mpr hend)] at hopener
      split at hopener
      · rename_i text htext
        have htext' : skipBlank entry = Enclosure.comment.opener ++ text := htext
        exact ⟨_, text, htext', ((isOpen_of_opener htext').mp hopen).resolve_left hend⟩
      · rename_i text htext
        have htext' : skipBlank entry = Enclosure.string.opener ++ text := htext
        exact ⟨_, text, htext', ((isOpen_of_opener htext').mp hopen).resolve_left hend⟩
      · exact absurd hopener (by simp)
  · rintro (hend | ⟨e, text, htext, hunclosed⟩)
    · rw [isOpen, if_pos (endsInBackslash_iff.mp hend)]
    · exact (isOpen_of_opener htext).mpr (Or.inr hunclosed)

/-- **An entry is closed once and for good, and can always be closed.** If it begins with a block
comment or a string between backticks and is not open, no text behind it opens it again, except that
a backslash at the end does. And open or not, the closer on a line of its own closes it. -/
theorem isOpen_append_eq_false (e : Enclosure) (entry : List Char)
    (h : e.opener <+: skipBlank entry) :
    (isOpen entry = false → ∀ more, ¬EndsInBackslash (entry ++ more) →
      isOpen (entry ++ more) = false) ∧
    isOpen (entry ++ '\n' :: e.closer) = false := by
  obtain ⟨text, htext⟩ := h
  have happend := Enclosure.skipBlank_append htext.symm
  constructor
  · intro hclosed more hend
    rw [Bool.eq_false_iff, ne_eq, isOpen_of_opener htext.symm] at hclosed
    rw [Bool.eq_false_iff, ne_eq, isOpen_of_opener (happend more)]
    rintro (hback | hunclosed)
    · exact hend hback
    · exact hclosed (Or.inr hunclosed.of_append)
  · rw [Bool.eq_false_iff, ne_eq, isOpen_of_opener (happend _)]
    rintro (hback | hunclosed)
    · obtain ⟨c, hc, hvisible⟩ := e.exists_mem_closer
      exact not_endsInBackslash_append entry (by cases e <;> decide) (List.mem_cons_of_mem _ hc)
        hvisible hback
    · exact e.not_unclosed_append text hunclosed

/-- What is typed behind a string does not open it again, even if it looks like an opener. And where
a backslash alone keeps a comment open, a second closer will do. -/
theorem isOpen_append_eq_false_backslash :
    isOpen ['\x60', 'a', '\x60'] = false ∧ ¬EndsInBackslash ['\x60', 'a', '\x60', '+', '\x60'] ∧
      isOpen ['\x60', 'a', '\x60', '+', '\x60'] = false ∧
      isOpen [' ', '/', '*', '*', '/', '\\'] = true ∧
      isOpen [' ', '/', '*', '*', '/', '\\', '\n', '*', '/'] = false := by
  have hends : ¬EndsInBackslash ['\x60', 'a', '\x60', '+', '\x60'] :=
    not_endsInBackslash (by decide)
  have hstring := isOpen_append_eq_false .string ['\x60', 'a', '\x60'] ⟨['a', '\x60'], rfl⟩
  have hcomment := isOpen_append_eq_false .comment [' ', '/', '*', '*', '/', '\\']
    ⟨['*', '/', '\\'], rfl⟩
  exact ⟨rfl, hends, hstring.1 rfl ['+', '\x60'] hends, rfl, hcomment.2⟩

end Session

end ScriptLiterals
