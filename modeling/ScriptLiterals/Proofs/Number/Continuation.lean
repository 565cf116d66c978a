import ScriptLiterals.Proofs.Number.Readers

/-!
# Numbers in front of something else

The reader of numbers looks past the number it takes: for more digits, for a point, for an exponent
and its sign, for the suffix, for the rest of a word. Here it is shown that none of this looking
changes what it takes if what it sees goes on with neither a word nor a number
(`Boundary.extendsNumber`): cut off behind the number and put in front of such a text, the number is
read again (`read_source_append`).

The proof is by cases on the form of what was read. In each form the parts are the same as before
and only the last run of digits is ended by something else, so the equivalences of
`ScriptLiterals.Proofs.Number.Readers` apply from right to left.
-/

set_option autoImplicit false

namespace ScriptLiterals

open Text

namespace Magnitude

variable {cs more : List Char} {m : Magnitude}

/-- A fraction is found again where its digits end. -/
theorem readFraction?_append {hasWhole : Bool} {tail digits rest : List Char}
    (h : readFraction? hasWhole tail = some (digits, rest)) (hend : EndsRun isDecimalDigit more) :
    readFraction? hasWhole ('.' :: (digits ++ more)) = some (digits, more) := by
  obtain ⟨-, hdigits, -, hsome⟩ := readFraction?_eq_some_iff.mp h
  exact readFraction?_eq_some_iff.mpr ⟨rfl, hdigits, hend, hsome⟩

/-- So is an exponent, which begins with a letter and so with neither a digit nor a point. -/
theorem readExponent?_append {tail marks rest : List Char} {value : Int}
    (h : readExponent? tail = some (marks, value, rest)) (hend : EndsRun isDecimalDigit more) :
    readExponent? (marks ++ more) = some (marks, value, more) ∧
      EndsRun isDecimalDigit (marks ++ more) ∧ (marks ++ more).head? ≠ some '.' ∧
      ∀ c ∈ (marks ++ more).head?, Radix.ofLetter? c = none := by
  obtain ⟨e, sign, digits, -, he, hsign, hne, hdigits, -, rfl, rfl⟩ :=
    readExponent?_eq_some_iff.mp h
  refine ⟨readExponent?_eq_some_iff.mpr ⟨e, sign, digits, by simp, he, hsign, hne, hdigits, hend,
    rfl, rfl⟩, endsRun_cons.mpr ?_, ?_, ?_⟩
  · rcases he with rfl | rfl <;> decide
  · rcases he with rfl | rfl <;> simp
  · rcases he with rfl | rfl <;> simp [Radix.ofLetter?]

/-- A form of plain digits is there again in front of another text. -/
theorem PlainForm.exists_append {whole tail : List Char} (h : PlainForm whole tail m)
    (hmore : EndsRun Boundary.extendsNumber more) :
    ∃ tail', PlainForm whole tail' { m with rest := more } ∧
      m.source ++ more = whole ++ tail' ∧ EndsRun isDecimalDigit tail' ∧
      ∀ c ∈ tail'.head?, Radix.ofLetter? c = none := by
  have hdigits : EndsRun isDecimalDigit more := Boundary.endsRun_isDigit .decimal hmore
  have hexponentMore := readExponent?_eq_none_of_endsRun hmore
  cases h with
  | @fraction _ digits _ hfraction hexponent =>
    exact ⟨'.' :: (digits ++ more),
      .fraction (readFraction?_append hfraction hdigits) hexponentMore, by simp,
      endsRun_cons.mpr (by decide), by simp [Radix.ofLetter?]⟩
  | @fractionExponent _ digits _ marks _ _ hfraction hexponent =>
    obtain ⟨hagain, hend, -⟩ := readExponent?_append hexponent hdigits
    exact ⟨'.' :: (digits ++ (marks ++ more)),
      .fractionExponent (readFraction?_append hfraction hend) hagain, by simp,
      endsRun_cons.mpr (by decide), by simp [Radix.ofLetter?]⟩
  | @exponent _ marks _ _ hne hfraction hexponent =>
    obtain ⟨hagain, hend, hpoint, hletter⟩ := readExponent?_append hexponent hdigits
    exact ⟨marks ++ more, .exponent hne (readFraction?_eq_none_of_head? hpoint) hagain, by simp,
      hend, hletter⟩
  | big hne hzero =>
    exact ⟨'n' :: more, .big hne hzero, by simp, endsRun_cons.mpr (by decide),
      by simp [Radix.ofLetter?]⟩
  | digits hne =>
    have hsuffix : more.head? ≠ some 'n' := Boundary.head?_ne_of_endsRun (by decide) hmore
    exact ⟨more,
      .digits hne (readFraction?_eq_none_of_endsRun hmore) hexponentMore (Or.inr hsuffix), rfl,
      hdigits, Boundary.ofLetter?_eq_none_of_endsRun hmore⟩

/-- A marked radix is there again in front of another text, with its suffix if it had one. -/
theorem readMarked?_ofMarked_append {letter : Char} {radix : Radix} {digits rest : List Char}
    (hletter : Radix.ofLetter? letter = some radix) (hne : digits ≠ [])
    (hdigits : ∀ c ∈ digits, radix.isDigit c = true)
    (hmore : EndsRun Boundary.extendsNumber more) :
    readMarked? ((ofMarked letter radix digits rest).source ++ more) =
      some { ofMarked letter radix digits rest with rest := more } := by
  have hsuffix : more.head? ≠ some 'n' := Boundary.head?_ne_of_endsRun (by decide) hmore
  unfold ofMarked
  split
  · have hend : EndsRun radix.isDigit ('n' :: more) :=
      endsRun_cons.mpr (by cases radix <;> decide)
    have hagain := readMarked?_append hletter hne hdigits hend
    simpa [ofMarked] using hagain
  · have hagain := readMarked?_append hletter hne hdigits (Boundary.endsRun_isDigit radix hmore)
    rw [ofMarked_of_head?_ne hsuffix] at hagain
    simpa using hagain

/-- **A magnitude is read again in front of what goes on with neither a word nor a number.** -/
theorem read?_source_append (h : read? cs = some m) (hmore : EndsRun Boundary.extendsNumber more) :
    read? (m.source ++ more) = some { m with rest := more } := by
  have hword := Boundary.endsRun_isIdContinue hmore
  cases form_of_read? h with
  | infinity hend =>
    exact read?_of_readConstant? (readConstant?_eq_some_iff.mpr
      ⟨more, hword, Or.inl ⟨rfl, rfl⟩⟩)
  | nan hend =>
    exact read?_of_readConstant? (readConstant?_eq_some_iff.mpr
      ⟨more, hword, Or.inr ⟨rfl, rfl⟩⟩)
  | marked hletter hne hdigits hend =>
    exact read?_of_readMarked? (readMarked?_ofMarked_append hletter hne hdigits hmore)
  | plain hwhole hend hform =>
    obtain ⟨tail', hform', hsource, hend', hletter⟩ := hform.exists_append hmore
    rw [hsource]
    exact read?_of_plainForm hform' hwhole hend' hletter

end Magnitude

namespace Number

variable {cs more : List Char} {found : Lexeme NumberValue Radix}

/-- **So is a number.** -/
theorem read_source_append (h : read cs = .ok found)
    (hmore : EndsRun Boundary.extendsNumber more) :
    read (found.source ++ more) = .ok { found with rest := more } := by
  obtain ⟨m, value, hm, hvalue, rfl⟩ := read_eq_ok_iff.mp h
  have hagain := Magnitude.read?_source_append hm hmore
  have hsign := Magnitude.readSign_append_of_read? (Magnitude.isSign_readSign cs) hagain
  refine read_eq_ok_iff.mpr ⟨{ m with rest := more }, value, ?_, hvalue, ?_⟩
  · rw [List.append_assoc, hsign]
    exact hagain
  · rw [List.append_assoc, hsign]

end Number

end ScriptLiterals
