import ScriptLiterals.Proofs.Regexp.Grammar
import ScriptLiterals.Proofs.Regexp.RoundTrip

/-!
# What can stand between slashes

Normalizing a pattern and reading a literal are two walks over a text, each with its own idea of
what a backslash, a bracket, a slash and the end of a line do. `Fits` says what both come to without
walking: the text is of one line, no backslash is left over at its end, and every slash in it is the
second half of a pair or stands where a class is open. Its two step lemmas (`fits_pair_iff`,
`fits_char_iff`) take one pair or one character off the head, as both walks do.

The three statements that matter are then one induction each. What normalizing writes fits, what
fits is left as it is, and what the reader takes for a body fits. So normalizing is a projection,
its fixed points are the texts that fit (`normalize_eq_self_iff`), and the source of a regular
expression that was read is one of them. Nothing here asks whether a pattern has a meaning.
-/

set_option autoImplicit false

namespace ScriptLiterals.Regexp

open Text

variable {inClass : Bool} {c : Char} {cs text pattern body behind : List Char}

/-! ## Texts that fit -/

/-- The text ends with a backslash that is not the second half of a pair: whatever is written behind
the text is paired with it. -/
def dangles : List Char → Bool
  | [] => false
  | ['\\'] => true
  | '\\' :: _ :: cs => dangles cs
  | _ :: cs => dangles cs

theorem dangles_of_ne (h : c ≠ '\\') (cs : List Char) : dangles (c :: cs) = dangles cs := by
  rw [dangles]
  · exact fun hc => absurd hc h
  · exact fun _ _ hc => absurd hc h

/-- The text can stand between slashes, behind a place that is in a class or not. -/
structure Fits (inClass : Bool) (text : List Char) : Prop where
  one_line : ∀ c ∈ text, isLineTerminator c = false
  paired : dangles text = false
  guarded : ∀ before behind, text = before ++ '/' :: behind →
    dangles before = true ∨ openAfter inClass before = true

theorem fits_nil (inClass : Bool) : Fits inClass [] where
  one_line := by simp
  paired := rfl
  guarded := by simp

/-- A backslash alone is never enough. -/
theorem not_fits_backslash (inClass : Bool) : ¬Fits inClass ['\\'] :=
  fun h => absurd h.paired (by decide)

/-- **A pair is taken off the head**, whatever its second half is: a slash there is guarded by the
backslash, and a bracket changes nothing. -/
theorem fits_pair_iff :
    Fits inClass ('\\' :: c :: cs) ↔ isLineTerminator c = false ∧ Fits inClass cs := by
  constructor
  · intro h
    refine ⟨h.one_line c (by simp), fun d hd => h.one_line d (by simp [hd]), h.paired, ?_⟩
    rintro before behind rfl
    exact h.guarded ('\\' :: c :: before) behind rfl
  · intro h
    obtain ⟨hline, hcs⟩ := h
    refine ⟨?_, hcs.paired, ?_⟩
    · intro d hd
      simp only [List.mem_cons] at hd
      rcases hd with rfl | rfl | hd
      · decide
      · exact hline
      · exact hcs.one_line d hd
    · intro before behind hsplit
      match before with
      | [] => exact absurd (List.cons.inj hsplit).1 (by decide)
      | [d] =>
        obtain ⟨rfl, -⟩ := List.cons.inj hsplit
        exact Or.inl rfl
      | d :: e :: before =>
        obtain ⟨rfl, htail⟩ := List.cons.inj hsplit
        obtain ⟨rfl, rfl⟩ := List.cons.inj htail
        exact hcs.guarded before behind rfl

/-- **Any other character is taken off the head** with what it does to the class. A slash must stand
in one. -/
theorem fits_char_iff (hback : c ≠ '\\') : Fits inClass (c :: cs) ↔
    isLineTerminator c = false ∧ ¬(c = '/' ∧ !inClass) ∧ Fits (classAfter inClass c) cs := by
  constructor
  · intro h
    refine ⟨h.one_line c (by simp), ?_, fun d hd => h.one_line d (by simp [hd]), ?_, ?_⟩
    · rintro ⟨rfl, hout⟩
      rcases h.guarded [] cs rfl with hdangles | hopen
      · exact absurd hdangles (by decide)
      · rw [show inClass = true from hopen] at hout
        exact absurd hout (by decide)
    · rw [← dangles_of_ne hback]
      exact h.paired
    · rintro before behind rfl
      rw [← dangles_of_ne hback, ← openAfter_of_ne hback]
      exact h.guarded (c :: before) behind rfl
  · intro h
    obtain ⟨hline, hslash, hcs⟩ := h
    refine ⟨?_, ?_, ?_⟩
    · intro d hd
      rcases List.mem_cons.mp hd with rfl | hd
      · exact hline
      · exact hcs.one_line d hd
    · rw [dangles_of_ne hback]
      exact hcs.paired
    · intro before behind hsplit
      cases before with
      | nil =>
        obtain ⟨rfl, -⟩ := List.cons.inj hsplit
        exact Or.inr (by simpa [openAfter] using hslash)
      | cons d before =>
        obtain ⟨rfl, rfl⟩ := List.cons.inj hsplit
        rw [dangles_of_ne hback, openAfter_of_ne hback]
        exact hcs.guarded before behind rfl

/-! ## What normalizing writes fits -/

theorem fits_digit_cons (hc : c = '0' ∨ c = '2' ∨ c = '8' ∨ c = '9') (h : Fits inClass cs) :
    Fits inClass (c :: cs) := by
  rcases hc with rfl | rfl | rfl | rfl <;>
    exact (fits_char_iff (by decide)).mpr ⟨by decide, by simp, h⟩

/-- What is written for a line terminator fits in front of what fits. -/
theorem fits_lineTerminatorLetters_append (c : Char) (h : Fits inClass cs) :
    Fits inClass ('\\' :: lineTerminatorLetters c ++ cs) := by
  have hcode : ∀ {d}, d = '8' ∨ d = '9' →
      Fits inClass ('\\' :: 'u' :: '2' :: '0' :: '2' :: d :: cs) := by
    intro d hd
    refine fits_pair_iff.mpr ⟨by decide, ?_⟩
    refine fits_digit_cons (by simp) (fits_digit_cons (by simp) (fits_digit_cons (by simp) ?_))
    exact fits_digit_cons (Or.inr (Or.inr hd)) h
  unfold lineTerminatorLetters
  split_ifs
  · exact fits_pair_iff.mpr ⟨by decide, h⟩
  · exact fits_pair_iff.mpr ⟨by decide, h⟩
  · exact hcode (Or.inl rfl)
  · exact hcode (Or.inr rfl)

/-- **A normalized pattern fits.** -/
theorem fits_normalizeFrom (inClass : Bool) (pattern : List Char) :
    Fits inClass (normalizeFrom inClass pattern) := by
  fun_induction normalizeFrom inClass pattern with
  | case1 inClass => exact fits_nil inClass
  | case2 inClass => exact fits_pair_iff.mpr ⟨by decide, fits_nil inClass⟩
  | case3 inClass c cs ih =>
    split
    · exact fits_lineTerminatorLetters_append c ih
    · rename_i hline
      exact fits_pair_iff.mpr ⟨Bool.eq_false_iff.mpr hline, ih⟩
  | case4 inClass c cs hback hpair ih =>
    have hne := ne_backslash_of_unpaired hback hpair
    split
    · rename_i hslash
      obtain ⟨rfl, -⟩ := hslash
      exact fits_pair_iff.mpr ⟨by decide, ih⟩
    · rename_i hslash
      split
      · rename_i hline
        rw [classAfter_of_isLineTerminator hline] at ih ⊢
        exact fits_lineTerminatorLetters_append c ih
      · rename_i hline
        exact (fits_char_iff hne).mpr ⟨Bool.eq_false_iff.mpr hline, hslash, ih⟩

theorem fits_normalize (pattern : List Char) : Fits false (normalize pattern) := by
  cases pattern with
  | nil =>
    -- the group without text is its own normal form
    exact fits_normalizeFrom false ['(', '?', ':', ')']
  | cons c pattern => exact fits_normalizeFrom false (c :: pattern)

/-! ## What fits is left as it is -/

theorem Fits.normalizeFrom_eq (h : Fits inClass text) : normalizeFrom inClass text = text := by
  fun_induction normalizeFrom inClass text with
  | case1 => rfl
  | case2 inClass => exact absurd h (not_fits_backslash inClass)
  | case3 inClass c cs ih =>
    obtain ⟨hline, hcs⟩ := fits_pair_iff.mp h
    rw [ih hcs, hline]
    rfl
  | case4 inClass c cs hback hpair ih =>
    obtain ⟨hline, hslash, hcs⟩ := (fits_char_iff (ne_backslash_of_unpaired hback hpair)).mp h
    rw [ih hcs, if_neg hslash, hline]
    rfl

theorem Fits.normalize_eq (h : Fits false text) (hne : text ≠ []) : normalize text = text := by
  rw [normalize, if_neg (by simpa using hne)]
  exact h.normalizeFrom_eq

theorem normalize_ne_nil (pattern : List Char) : normalize pattern ≠ [] := by
  obtain ⟨c, rest, hnormal, -⟩ := exists_head_normalize pattern
  simp [hnormal]

/-- **Normalizing leaves a text as it is exactly if it fits** and is a text at all. -/
theorem normalize_eq_self_iff : normalize text = text ↔ text ≠ [] ∧ Fits false text := by
  constructor
  · intro h
    rw [← h]
    exact ⟨normalize_ne_nil text, fits_normalize text⟩
  · intro h
    exact h.2.normalize_eq h.1

/-! ## What is read fits -/

/-- **A body that the reader finds fits.** -/
theorem fits_of_splitBody? (h : splitBody? inClass cs = some (body, behind)) :
    Fits inClass body := by
  fun_induction splitBody? inClass cs generalizing body with
  | case1 => exact absurd h (by simp)
  | case2 => exact absurd h (by simp)
  | case3 => exact absurd h (by simp)
  | case4 inClass c cs hline ih =>
    obtain ⟨⟨later, behind'⟩, hlater, heq⟩ := Option.map_eq_some_iff.mp h
    obtain ⟨rfl, rfl⟩ := Prod.mk.inj heq
    exact fits_pair_iff.mpr ⟨Bool.eq_false_iff.mpr hline, ih hlater⟩
  | case5 => exact absurd h (by simp)
  | case6 inClass c cs _ _ _ hslash =>
    obtain ⟨rfl, rfl⟩ := Prod.mk.inj (Option.some.inj h)
    exact fits_nil inClass
  | case7 inClass c cs hback hpair hline hslash ih =>
    obtain ⟨⟨later, behind'⟩, hlater, heq⟩ := Option.map_eq_some_iff.mp h
    obtain ⟨rfl, rfl⟩ := Prod.mk.inj heq
    exact (fits_char_iff (ne_backslash_of_unpaired hback hpair)).mpr
      ⟨Bool.eq_false_iff.mpr hline, hslash, ih hlater⟩

/-- Items leave no class open. -/
theorem AreItems.openAfter_eq (h : AreItems body) : openAfter false body = false := by
  obtain ⟨items, hitems, rfl⟩ := h
  simpa [openAfter] using (passes_flatten fun item hitem => (hitems item hitem).passes).tracked []

/-- A regular expression that was read has a source that fits and leaves no class open, and it is
the regular expression with this source and these flags. -/
theorem source_of_read {found : Lexeme Regexp Unit} (h : read cs = .ok found) :
    found.value.source ≠ [] ∧ Fits false found.value.source ∧
      openAfter false found.value.source = false ∧
      ofSource found.value.source found.value.flags = .ok found.value := by
  obtain ⟨text, body, behind, value, rfl, hopens, hsplit, hvalue, rfl⟩ := read_eq_ok_iff.mp h
  obtain ⟨hsource, hflags⟩ := source_of_ofSource hvalue
  obtain ⟨hne, hitems⟩ := isBody_iff.mp (isLiteral_of_splitBody? hopens hsplit).isBody
  change value.source ≠ [] ∧ Fits false value.source ∧ openAfter false value.source = false ∧
    ofSource value.source value.flags = .ok value
  rw [hsource, hflags]
  exact ⟨hne, fits_of_splitBody? hsplit, hitems.openAfter_eq, hvalue⟩

/-! ## The projection -/

/-- A literal that is read to its end is found in a text of its own. -/
theorem parse?_toLiteral_of_read {value : Regexp}
    (h : read value.toLiteral = .ok ⟨value.toLiteral, [], value, ()⟩) :
    parse? value.toLiteral = some value := by
  have hskip : skipBlank value.toLiteral = value.toLiteral :=
    dropWhile_of_endsRun value.endsRun_toLiteral
  have hread : recognizer.read (skipBlank value.toLiteral) = _ := (congrArg read hskip).trans h
  have hscan := Recognizer.scan_eq_ok_iff.mpr ⟨_, hread, rfl, rfl⟩
  rw [parse?, token?, hscan]
  rfl

/-- **Normalizing is a projection onto what can stand between slashes.** Done twice it is the same
as once. The result is not empty, is of one line, leaves no backslash over and has no slash outside of
a pair unless a class is open there; the reader passes all of it with the same idea of which classes
are open. The source of a regular expression that was read anywhere is such a text, so making the
regular expression with this source and these flags gives the same one again, and so does reading its
literal. -/
theorem normalize_normalize (pattern input : List Char) :
    normalize (normalize pattern) = normalize pattern ∧ normalize pattern ≠ [] ∧
      Fits false (normalize pattern) ∧
      Passes false (normalize pattern) (openAfter false (normalize pattern)) ∧
      ∀ t, recognizer.scanHead input = .ok t →
        normalize t.value.source = t.value.source ∧
        make t.value.source t.value.flags = .ok t.value ∧
        parse? t.value.toLiteral = some t.value := by
  have hne := normalize_ne_nil pattern
  have hfits := fits_normalize pattern
  have hpasses := passes_normalize pattern
  rw [← openAfter_normalize] at hpasses
  refine ⟨hfits.normalize_eq hne, hne, hfits, hpasses, ?_⟩
  intro t ht
  obtain ⟨found, hread, rfl⟩ := Recognizer.scanHead_eq_ok_iff.mp ht
  obtain ⟨hsource, hsourceFits, hclosed, hvalue⟩ := source_of_read hread
  have hnormal := hsourceFits.normalize_eq hsource
  have hmake : make found.value.source found.value.flags = .ok found.value := by
    rw [make, hnormal, hvalue]
  exact ⟨hnormal, hmake, parse?_toLiteral_of_read (read_toLiteral hmake hclosed)⟩

/-- A slash in a class is left alone, one outside is escaped, and so are a line feed and the
backslash that nothing follows. A literal with its flags out of order is printed with them in order,
and read again. -/
theorem normalize_normalize_slashes :
    normalize ['[', '/', ']', '/', '\n', '\\'] =
        ['[', '/', ']', '\\', '/', '\\', 'n', '\\', '\\'] ∧
      ∃ t, recognizer.scanHead [' ', '/', '[', '/', ']', '/', 'y', 'g', 'x'] = .ok t ∧
        t.value.source = ['[', '/', ']'] ∧
        make t.value.source t.value.flags = .ok t.value ∧
        parse? ['/', '[', '/', ']', '/', 'g', 'y'] = some t.value := by
  have hscan : recognizer.scanHead [' ', '/', '[', '/', ']', '/', 'y', 'g', 'x'] =
      .ok ⟨['/', '[', '/', ']', '/', 'y', 'g'], 1, 1,
        ⟨['[', '/', ']'], { global := true, sticky := true }, .literal ['/']⟩, ()⟩ := rfl
  have hagain := (normalize_normalize ['[', '/', ']', '/', '\n', '\\']
    [' ', '/', '[', '/', ']', '/', 'y', 'g', 'x']).2.2.2.2 _ hscan
  exact ⟨rfl, _, hscan, rfl, hagain.2.1, hagain.2.2⟩

end ScriptLiterals.Regexp
