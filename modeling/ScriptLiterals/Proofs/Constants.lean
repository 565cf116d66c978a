import ScriptLiterals.Proofs.Unambiguous

/-!
# Which kind a constant is

`NaN` and `Infinity` are read as keywords and as numbers, and `detect` asks for keywords first. That
alone does not make every constant a keyword: a keyword is refused in front of some of what may
follow a number, and then the number is asked for.

Both readers read the constants alike (`ReadsConstants`), so the two kinds differ in their
boundaries only, and the boundary of a number is that of a keyword and two characters more
(`expression_accepts_iff`).
-/

set_option autoImplicit false

namespace ScriptLiterals

open Text

variable {α δ : Type} {input cs word leftover : List Char} {t : AnyToken}

/-! ## Constants -/

/-- The words that are keywords and numbers. -/
def IsConstant (word : List Char) : Prop :=
  word = NumberValue.nanText ∨ word = NumberValue.infinityText

/-- Of the two constants a text begins with one at most. -/
theorem IsConstant.unique {word' leftover' : List Char} (h : IsConstant word)
    (h' : IsConstant word') (hsplit : word ++ leftover = word' ++ leftover') :
    word = word' ∧ leftover = leftover' := by
  rcases h with rfl | rfl <;> rcases h' with rfl | rfl
  · exact ⟨rfl, List.append_cancel_left hsplit⟩
  · exact absurd hsplit (by simp [NumberValue.nanText, NumberValue.infinityText])
  · exact absurd hsplit (by simp [NumberValue.nanText, NumberValue.infinityText])
  · exact ⟨rfl, List.append_cancel_left hsplit⟩

/-- A reader takes a constant exactly where it stands as a word. -/
def ReadsConstants (read : List Char → Except Miss (Lexeme α δ)) : Prop :=
  ∀ cs word leftover, IsConstant word →
    ((∃ found, read cs = .ok found ∧ found.source = word ∧ found.rest = leftover) ↔
      cs = word ++ leftover ∧ EndsRun isIdContinue leftover)

theorem Keyword.readsConstants : ReadsConstants read := by
  intro cs word leftover hword
  constructor
  · intro h
    obtain ⟨found, hread, rfl, rfl⟩ := h
    obtain ⟨k, rest, hcs, hend, rfl⟩ := read_eq_ok_iff.mp hread
    exact ⟨hcs, hend⟩
  · intro h
    obtain ⟨rfl, hend⟩ := h
    rcases hword with rfl | rfl
    · exact ⟨_, read_eq_ok_iff.mpr ⟨.nan, leftover, rfl, hend, rfl⟩, rfl, rfl⟩
    · exact ⟨_, read_eq_ok_iff.mpr ⟨.infinity, leftover, rfl, hend, rfl⟩, rfl, rfl⟩

/-- A magnitude with the characters of a constant is that constant, which ends as a word. -/
theorem Magnitude.endsRun_of_isConstant {m : Magnitude} (h : read? cs = some m)
    (hconstant : IsConstant m.source) : EndsRun isIdContinue m.rest := by
  obtain ⟨hcs, -⟩ := source_append_of_read? h
  have hhead : cs.head? = some 'N' ∨ cs.head? = some 'I' := by
    rw [hcs]
    rcases hconstant with hsource | hsource <;> rw [hsource]
    · exact Or.inl rfl
    · exact Or.inr rfl
  cases form_of_read? h with
  | infinity hend => exact hend
  | nan hend => exact hend
  | marked hletter hne hdigits hend => exact absurd hhead (by simp)
  | @plain whole tail m hwhole hend hform =>
    cases whole with
    | nil =>
      rw [List.nil_append, hform.head?_of_nil] at hhead
      exact absurd hhead (by simp)
    | cons d whole =>
      have hd : isDecimalDigit d = true := hwhole d List.mem_cons_self
      have hletter : d = 'N' ∨ d = 'I' := by simpa using hhead
      rcases hletter with rfl | rfl <;> exact absurd hd (by decide)

theorem Number.readsConstants : ReadsConstants read := by
  intro cs word leftover hword
  constructor
  · intro h
    obtain ⟨found, hread, rfl, rfl⟩ := h
    obtain ⟨m, value, hm, -, rfl⟩ := read_eq_ok_iff.mp hread
    have happend := Magnitude.readSign_append cs
    dsimp only at hword ⊢
    rcases Magnitude.isSign_readSign cs with hsign | hsign | hsign
    · rw [hsign, List.nil_append] at happend hword ⊢
      refine ⟨?_, Magnitude.endsRun_of_isConstant hm hword⟩
      rw [← (Magnitude.source_append_of_read? hm).1, happend]
    -- a constant begins with a letter, not with a sign
    · rw [hsign] at hword
      exact absurd hword (by simp [IsConstant, NumberValue.nanText, NumberValue.infinityText])
    · rw [hsign] at hword
      exact absurd hword (by simp [IsConstant, NumberValue.nanText, NumberValue.infinityText])
  · intro h
    obtain ⟨rfl, hend⟩ := h
    rcases hword with rfl | rfl
    · have hread := Magnitude.read?_of_readConstant?
        (Magnitude.readConstant?_eq_some_iff.mpr ⟨leftover, hend, Or.inr ⟨rfl, rfl⟩⟩)
      exact ⟨_, read_eq_ok_iff.mpr ⟨_, _, hread, rfl, rfl⟩, rfl, rfl⟩
    · have hread := Magnitude.read?_of_readConstant?
        (Magnitude.readConstant?_eq_some_iff.mpr ⟨leftover, hend, Or.inl ⟨rfl, rfl⟩⟩)
      exact ⟨_, read_eq_ok_iff.mpr ⟨_, _, hread, rfl, rfl⟩, rfl, rfl⟩

/-! ## What follows them -/

/-- **A number may stand before what a keyword may stand before, and before a colon or a slash.** -/
theorem Boundary.expression_accepts_iff : expression.accepts leftover = true ↔
    statement.accepts leftover = true ∨ ∃ c ∈ (skipBlank leftover).head?, c = ':' ∨ c = '/' := by
  unfold accepts
  cases skipBlank leftover with
  | nil => simp
  | cons c rest => simp [expression, statement, or_assoc]

theorem Boundary.statement_accepts_eq_false {c : Char} (hc : c ∈ (skipBlank leftover).head?)
    (h : c = ':' ∨ c = '/') : statement.accepts leftover = false := by
  obtain ⟨rest, hrest⟩ := List.head?_eq_some_iff.mp hc
  rw [accepts, hrest]
  rcases h with rfl | rfl <;> rfl

/-- What a recognizer of constants finds of them, if nothing that it lets follow goes on with a
word. -/
theorem ReadsConstants.exists_scan_iff {r : Recognizer α δ} {b : Boundary}
    (h : ReadsConstants r.read) (hboundary : r.boundary = some b)
    (hchars : b.chars ⊆ Boundary.expression.chars) :
    (∃ t, r.scan input = .ok t ∧ IsConstant t.source) ↔
      ∃ word leftover, IsConstant word ∧ skipBlank input = word ++ leftover ∧
        b.accepts leftover = true := by
  constructor
  · intro hfound
    obtain ⟨t, ht, hconstant⟩ := hfound
    obtain ⟨found, hread, haccepts, rfl⟩ := Recognizer.scan_eq_ok_iff.mp ht
    rw [hboundary] at haccepts
    obtain ⟨hsplit, -⟩ := (h _ found.source found.rest hconstant).mp ⟨found, hread, rfl, rfl⟩
    exact ⟨_, _, hconstant, hsplit, haccepts⟩
  · intro hstands
    obtain ⟨word, leftover, hconstant, hsplit, haccepts⟩ := hstands
    have hend := (Boundary.endsRun_of_accepts (Boundary.accepts_mono hchars haccepts)).mono
      (q := isIdContinue) fun c hc => by rw [Boundary.extendsNumber, hc, Bool.true_or]
    obtain ⟨found, hread, rfl, rfl⟩ := (h _ word leftover hconstant).mpr ⟨hsplit, hend⟩
    refine ⟨found.behind (leadingBlank input), ?_, hconstant⟩
    refine Recognizer.scan_eq_ok_iff.mpr ⟨found, hread, ?_, rfl⟩
    rw [hboundary]
    exact haccepts

/-! ## Which kind is detected -/

theorem tokenOf?_keyword_iff {t : Token Keyword Unit} :
    tokenOf? .keyword input = some (.keyword t) ↔ Keyword.recognizer.scan input = .ok t := by
  rw [← found?_eq_some_iff]
  simp [tokenOf?, Keyword.token?]

theorem tokenOf?_number_iff {t : Token NumberValue Radix} :
    tokenOf? .number input = some (.number t) ↔ Number.recognizer.scan input = .ok t := by
  rw [← found?_eq_some_iff]
  simp [tokenOf?, Number.token?, Number.scan]

/-- What a kind finds is detected, unless it is a number and a keyword is. -/
theorem detect_of_tokenOf? {kind : Kind} (h : tokenOf? kind input = some t) :
    detect input = some t ∨
      kind = .number ∧ ∃ t', detect input = some t' ∧ t'.kind = .keyword := by
  obtain ⟨t', hdetect⟩ := Option.isSome_iff_exists.mp
    ((isSome_detectAmong_iff Kind.mem_all).mpr ⟨kind, by rw [h]; rfl⟩)
  have htoken' := tokenOf?_of_detectAmong hdetect
  by_cases hkind : t'.kind = kind
  · rw [hkind, h] at htoken'
    rw [Option.some.inj htoken']
    exact Or.inl hdetect
  · rcases (sameConstant_of_ne hkind htoken' h).kinds with ⟨hkeyword, hnumber⟩ | ⟨hnumber, hkeyword⟩
    · exact Or.inr ⟨(kind_of_tokenOf? h).symm.trans hnumber, t', hdetect, hkeyword⟩
    · have hnone := tokenOf?_keyword_eq_none (by decide) (by decide) hdetect hnumber
      rw [← kind_of_tokenOf? h, hkeyword, hnone] at h
      exact absurd h (by simp)

/-- Every keyword that is found is detected. -/
theorem detect_eq_keyword_iff {t : Token Keyword Unit} :
    detect input = some (.keyword t) ↔ Keyword.recognizer.scan input = .ok t := by
  rw [← tokenOf?_keyword_iff]
  constructor
  · exact tokenOf?_of_detectAmong
  · intro h
    exact (detect_of_tokenOf? h).resolve_right fun hnumber => absurd hnumber.1 (by decide)

/-- A number that is found is detected unless there is a keyword. -/
theorem detect_eq_number_iff {t : Token NumberValue Radix} :
    detect input = some (.number t) ↔
      Number.recognizer.scan input = .ok t ∧ ∀ t', Keyword.recognizer.scan input ≠ .ok t' := by
  rw [← tokenOf?_number_iff]
  constructor
  · intro h
    refine ⟨tokenOf?_of_detectAmong h, fun t' hkeyword => ?_⟩
    rw [detect_eq_keyword_iff.mpr hkeyword] at h
    exact absurd h (by simp)
  · intro h
    obtain ⟨hnumber, hkeyword⟩ := h
    rcases detect_of_tokenOf? hnumber with hdetect | ⟨-, t', hdetect, hkind⟩
    · exact hdetect
    · cases t' with
      | keyword t' => exact absurd (detect_eq_keyword_iff.mp hdetect) (hkeyword t')
      | comment | regexp | string | number => exact absurd hkind (by simp [AnyToken.kind])

/-- **What follows a constant decides which kind it is.** It is detected as a number if, blanks
aside, a colon or a slash follows, and as a keyword if it is followed by what may follow a keyword.
Behind anything else it is neither. -/
theorem detect_constant (input : List Char) :
    ((∃ t, detect input = some (.number t) ∧ IsConstant t.source) ↔
      ∃ word leftover, IsConstant word ∧ skipBlank input = word ++ leftover ∧
        ∃ c ∈ (skipBlank leftover).head?, c = ':' ∨ c = '/') ∧
    ((∃ t, detect input = some (.keyword t) ∧ IsConstant t.source) ↔
      ∃ word leftover, IsConstant word ∧ skipBlank input = word ++ leftover ∧
        Boundary.statement.accepts leftover = true) := by
  have hkeywords : (∃ t, Keyword.recognizer.scan input = .ok t ∧ IsConstant t.source) ↔ _ :=
    Keyword.readsConstants.exists_scan_iff rfl (by decide)
  have hnumbers : (∃ t, Number.recognizer.scan input = .ok t ∧ IsConstant t.source) ↔ _ :=
    Number.readsConstants.exists_scan_iff rfl (by decide)
  simp only [detect_eq_keyword_iff]
  refine ⟨⟨?_, ?_⟩, hkeywords⟩
  · intro h
    obtain ⟨t, ht, hconstant⟩ := h
    obtain ⟨hnumber, hkeyword⟩ := detect_eq_number_iff.mp ht
    obtain ⟨word, leftover, hword, hsplit, haccepts⟩ := hnumbers.mp ⟨t, hnumber, hconstant⟩
    refine ⟨word, leftover, hword, hsplit, ?_⟩
    refine (Boundary.expression_accepts_iff.mp haccepts).resolve_left fun hstatement => ?_
    obtain ⟨t', ht', -⟩ := hkeywords.mpr ⟨word, leftover, hword, hsplit, hstatement⟩
    exact hkeyword t' ht'
  · intro h
    obtain ⟨word, leftover, hword, hsplit, c, hc, hmark⟩ := h
    have haccepts := Boundary.expression_accepts_iff.mpr (Or.inr ⟨c, hc, hmark⟩)
    obtain ⟨t, ht, hconstant⟩ := hnumbers.mpr ⟨word, leftover, hword, hsplit, haccepts⟩
    refine ⟨t, detect_eq_number_iff.mpr ⟨ht, fun t' ht' => ?_⟩, hconstant⟩
    -- a keyword here would be the same constant, in front of the same text
    have hsame := sameConstant_of_keyword_number (tokenOf?_keyword_iff.mpr ht')
      (tokenOf?_number_iff.mpr ht)
    obtain ⟨word', leftover', hword', hsplit', hstatement⟩ :=
      hkeywords.mp ⟨t', ht', hsame.constant⟩
    obtain ⟨-, rfl⟩ := hword.unique hword' (hsplit.symm.trans hsplit')
    rw [Boundary.statement_accepts_eq_false hc hmark] at hstatement
    exact absurd hstatement (by simp)

/-- A constant in front of a colon is a number. -/
theorem detect_constant_colon :
    ∃ t, detect ['N', 'a', 'N', ':'] = some (.number t) ∧ t.source = NumberValue.nanText :=
  ⟨⟨NumberValue.nanText, 0, 0, .nan, .decimal⟩, rfl, rfl⟩

end ScriptLiterals
