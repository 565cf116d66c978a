import ScriptLiterals.Proofs.Number.Longest
import ScriptLiterals.Proofs.Regexp.Flags
import ScriptLiterals.Proofs.Session.OpenEntries
import ScriptLiterals.Proofs.Unambiguous

/-!
# Entries that are literals already

A session does not wait for more lines of an enclosure once the enclosure is a literal: what is
unclosed is not detected (`detect_eq_none_of_unclosed`). A backslash at the end of an entry is
another matter, because it is looked for in the entry and not in the literal. It may stand behind a
literal, and it may be the last character of one.

Only a line comment ends in a backslash (`not_endsInBackslash_of_tokenOf?`). The other literals end
in a delimiter or in characters of a small set; for numbers the set is read off their grammar.
-/

set_option autoImplicit false

namespace ScriptLiterals

open Text

variable {input : List Char} {t : AnyToken}

/-! ## The characters of a grammar -/

namespace Number.Grammar

/-- The characters that occur in an expression. -/
def alphabet : RegularExpression Char → List Char
  | .zero => []
  | .epsilon => []
  | .char c => [c]
  | .plus e f => alphabet e ++ alphabet f
  | .comp e f => alphabet e ++ alphabet f
  | .star e => alphabet e

/-- **The words of an expression consist of its characters.** -/
theorem mem_alphabet {e : RegularExpression Char} {text : List Char} (h : text ∈ e.matches') :
    ∀ c ∈ text, c ∈ alphabet e := by
  induction e generalizing text with
  | zero => exact absurd h (Language.notMem_zero text)
  | epsilon =>
    rw [(Language.mem_one text).mp h]
    simp
  | char c =>
    rw [mem_char.mp h]
    simp [alphabet]
  | plus e f ihe ihf =>
    intro c hc
    rcases mem_add.mp h with hleft | hright
    · exact List.mem_append_left _ (ihe hleft c hc)
    · exact List.mem_append_right _ (ihf hright c hc)
  | comp e f ihe ihf =>
    obtain ⟨a, b, ha, hb, rfl⟩ := mem_mul.mp h
    intro c hc
    rcases List.mem_append.mp hc with hc | hc
    · exact List.mem_append_left _ (ihe ha c hc)
    · exact List.mem_append_right _ (ihf hb c hc)
  | star e ih =>
    obtain ⟨words, rfl, hwords⟩ := Language.mem_kstar.mp h
    intro c hc
    obtain ⟨word, hword, hc⟩ := List.mem_flatten.mp hc
    exact ih (hwords word hword) c hc

theorem Counts.backslash_notMem {text following : List Char} (h : Counts text following) :
    '\\' ∉ text := by
  intro hmem
  rcases h with hunsigned | ⟨hconstant, -⟩
  · exact absurd (mem_alphabet hunsigned _ hmem) (by decide)
  · exact absurd (mem_alphabet hconstant _ hmem) (by decide)

end Number.Grammar

/-! ## How literals end -/

theorem RegexpFlags.backslash_notMem_readRun (flags : RegexpFlags) (cs : List Char) :
    '\\' ∉ (flags.readRun cs).1 := by
  obtain ⟨run, hrun, -⟩ := addLetters?_eq_some_iff.mp (addLetters?_readRun flags cs)
  rw [hrun]
  intro hmem
  obtain ⟨flag, -, hletter⟩ := List.mem_map.mp hmem
  exact absurd hletter (by cases flag <;> decide)

/-- The token is a comment that ends with its line. -/
def AnyToken.IsLineComment : AnyToken → Prop
  | .comment token => token.detail = .line
  | _ => False

/-- **Only line comments end in a backslash.** -/
theorem not_endsInBackslash_of_tokenOf? {kind : Kind} (h : tokenOf? kind input = some t)
    (hline : ¬t.IsLineComment) : ¬EndsInBackslash t.source := by
  cases kind with
  | comment =>
    obtain ⟨found, hread, rfl⟩ := Recognizer.exists_read_of_map_scan h
    rcases Comment.read_eq_ok_iff.mp hread with ⟨text, -, rfl⟩ | ⟨text, inner, rest, -, -, rfl⟩
    · exact absurd rfl hline
    · have hback : '\\' ∉ Comment.closer := by decide
      have hslash : '/' ∈ Comment.closer := by decide
      exact not_endsInBackslash_append ('/' :: '*' :: inner) hback hslash (by decide)
  | regexp =>
    obtain ⟨found, hread, rfl⟩ := Recognizer.exists_read_of_map_scan h
    obtain ⟨text, body, behind, value, -, -, -, -, rfl⟩ := Regexp.read_eq_ok_iff.mp hread
    have hback : '\\' ∉ '/' :: (RegexpFlags.none.readRun behind).1 :=
      List.not_mem_cons_of_ne_of_not_mem (by decide)
        (RegexpFlags.none.backslash_notMem_readRun behind)
    exact not_endsInBackslash_append ('/' :: body) hback List.mem_cons_self (by decide)
  | string =>
    obtain ⟨found, hread, rfl⟩ := Recognizer.exists_read_of_map_scan h
    obtain ⟨q, behind, pieces, rest, -, -, rfl⟩ := Quoted.read_eq_ok_iff.mp hread
    have hback : '\\' ∉ [q.char] := by cases q <;> decide
    exact not_endsInBackslash_append (q.char :: Quoted.sourceOf pieces) hback List.mem_cons_self
      (by cases q <;> decide)
  | keyword =>
    obtain ⟨found, hread, rfl⟩ := Recognizer.exists_read_of_map_scan h
    obtain ⟨k, rest, -, -, rfl⟩ := Keyword.read_eq_ok_iff.mp hread
    have hback : '\\' ∉ k.word := fun hmem =>
      absurd (Keyword.isIdContinue_of_mem_word hmem) (by decide)
    exact not_endsInBackslash hback
  | number =>
    obtain ⟨found, hread, rfl⟩ := Recognizer.exists_read_of_map_scan h
    exact not_endsInBackslash (Number.isLongest_of_read hread).counts.backslash_notMem

/-- A text ends as what follows its literal does, or, if that is blank, as the literal does. -/
theorem AnyToken.StandsIn.endsInBackslash_iff (h : t.StandsIn input) : EndsInBackslash input ↔
    EndsInBackslash (input.drop t.finish) ∨
      ((∀ c ∈ input.drop t.finish, isBlank c = true) ∧ EndsInBackslash t.source) := by
  have hsplit : input = input.take t.offset ++ (t.source ++ input.drop t.finish) := by
    rw [← h.take_drop_eq, h.finish_eq, ← List.drop_drop, List.take_append_drop,
      List.take_append_drop]
  rw [← endsInBackslash_append_iff]
  conv_lhs => rw [hsplit]
  rw [endsInBackslash_append_iff]
  refine or_iff_left fun hblank => ?_
  -- the literal begins with a character that is not blank
  cases hsource : t.source with
  | nil => exact h.source_ne_nil hsource
  | cons c cs =>
    have hhead := h.source_head c (by rw [hsource]; rfl)
    rw [hblank.1 c (by rw [hsource]; simp)] at hhead
    exact absurd hhead (by simp)

/-! ## What is open is not detected -/

namespace Session

variable {entry text : List Char} {e : Enclosure}

/-- **An enclosure that is unclosed is no literal of any kind.** -/
theorem detect_eq_none_of_unclosed (h : skipBlank entry = e.opener ++ text)
    (hunclosed : e.Unclosed text) : detect entry = none := by
  cases hdetect : detect entry with
  | none => rfl
  | some t =>
    have htoken := tokenOf?_of_detectAmong hdetect
    obtain ⟨c, hc, hmem⟩ := exists_head_of_tokenOf? htoken
    rw [h] at hc
    cases e with
    | comment =>
      obtain rfl : '/' = c := Option.some.inj hc
      cases hkind : t.kind with
      | comment =>
        rw [hkind] at htoken
        obtain ⟨found, hread, -⟩ := Recognizer.exists_read_of_map_scan htoken
        rw [h] at hread
        have hmiss := Comment.read_block_eq_unterminated_iff.mpr hunclosed
        exact absurd (hmiss.symm.trans hread) (by simp)
      | regexp =>
        rw [hkind] at htoken
        obtain ⟨found, hread, -⟩ := Recognizer.exists_read_of_map_scan htoken
        obtain ⟨text', -, -, -, hcs, hopens, -⟩ := Regexp.read_eq_ok_iff.mp hread
        obtain ⟨-, rfl⟩ := List.cons.inj (h.symm.trans hcs)
        exact absurd hopens (by simp [Regexp.opensComment])
      | string | keyword | number => exact absurd hmem (by rw [hkind]; decide)
    | string =>
      obtain rfl : Quote.backtick.char = c := Option.some.inj hc
      cases hkind : t.kind with
      | string =>
        rw [hkind] at htoken
        obtain ⟨found, hread, -⟩ := Recognizer.exists_read_of_map_scan htoken
        rw [h] at hread
        have hmiss := Quoted.read_eq_unterminated_iff.mpr
          (Quoted.readPieces?_eq_none_iff.mpr hunclosed)
        exact absurd (hmiss.symm.trans hread) (by simp)
      | comment | regexp | keyword | number => exact absurd hmem (by rw [hkind]; decide)

/-- **When a session waits although it has a literal.** An entry that is open and does not end in a
backslash is no literal. One that is a literal is open if and only if a backslash ends what follows
the literal, or the literal is a line comment that ends in a backslash and nothing but blanks follow
it. -/
theorem isOpen_of_detect (entry : List Char) :
    (isOpen entry = true → ¬EndsInBackslash entry → detect entry = none) ∧
    ∀ t, detect entry = some t → (isOpen entry = true ↔ EndsInBackslash (entry.drop t.finish) ∨
      (t.IsLineComment ∧ EndsInBackslash t.source ∧
        ∀ c ∈ entry.drop t.finish, isBlank c = true)) := by
  have hnone : isOpen entry = true → ¬EndsInBackslash entry → detect entry = none := by
    intro hopen hend
    obtain ⟨e, text, htext, hunclosed⟩ := (isOpen_eq_true_iff.mp hopen).resolve_left hend
    exact detect_eq_none_of_unclosed htext hunclosed
  refine ⟨hnone, fun t ht => ?_⟩
  have htoken := tokenOf?_of_detectAmong ht
  have hstands : t.StandsIn entry := by
    rw [← found?_scanKind] at htoken
    exact standsIn_of_scanKind (found?_eq_some_iff.mp htoken)
  have hopen : isOpen entry = true ↔ EndsInBackslash entry := by
    refine ⟨fun hopen => ?_, fun hend => isOpen_eq_true_iff.mpr (Or.inl hend)⟩
    by_contra hend
    rw [hnone hopen hend] at ht
    exact absurd ht (by simp)
  rw [hopen, hstands.endsInBackslash_iff]
  refine or_congr_right ⟨?_, fun h => ⟨h.2.2, h.2.1⟩⟩
  rintro ⟨hblank, hend⟩
  refine ⟨?_, hend, hblank⟩
  by_contra hline
  exact not_endsInBackslash_of_tokenOf? htoken hline hend

/-- An unclosed comment is nothing yet. A number in front of a comma and a backslash is a literal
and open. -/
theorem isOpen_of_detect_number :
    detect ['/', '*', '\\', 'n'] = none ∧
      detect ['4', ',', '\\'] = some (.number ⟨['4'], 0, 0, .integer 4, .decimal⟩) ∧
      isOpen ['4', ',', '\\'] = true := by
  have hcomment : ¬EndsInBackslash ['/', '*', '\\', 'n'] := by
    rw [endsInBackslash_iff]
    decide
  have hnumber : detect ['4', ',', '\\'] =
      some (.number ⟨['4'], 0, 0, .integer 4, .decimal⟩) := rfl
  have hbehind : EndsInBackslash [',', '\\'] := ⟨[','], [], rfl, by simp⟩
  exact ⟨(isOpen_of_detect _).1 rfl hcomment, hnumber,
    ((isOpen_of_detect _).2 _ hnumber).mpr (Or.inl hbehind)⟩

/-- A line comment that ends in a backslash is a literal and open, and a further line does not
belong to it. -/
theorem isOpen_lineComment :
    isOpen ['/', '/', ' ', 'a', ' ', '\\'] = true ∧
      ∃ t, detect ['/', '/', ' ', 'a', ' ', '\\'] = some t ∧ t.IsLineComment :=
  ⟨rfl, _, rfl, rfl⟩

end Session

end ScriptLiterals
