import ScriptLiterals.Proofs.Number.Grammar

/-!
# The reader of numbers takes the longest literal

The reader knows nothing of the grammar: it takes runs of digits, looks one character ahead and goes
back where a mark or an exponent has no digits. Here it is measured against
`ScriptLiterals.Proofs.Number.Grammar`, in three parts.

* What it takes is a word of the grammar (`Magnitude.counts_of_read?`).
* It takes no less than any word the text begins with (`Magnitude.exists_read?_of_counts`). This is
  stated by what is left over, because that is what the readers hand on from one to the next. A word
  fixes the path of the reader except for its last run of digits, which the reader may carry on with.
* The radix it reports is the one whose form the word has (`Magnitude.mem_ofRadix_iff_of_read?`).

The main statement, which puts signs, blanks and what follows back, stands last.
-/

set_option autoImplicit false

namespace ScriptLiterals

open Text

namespace Number.Grammar

/-- A number without its sign, the constants only where the word ends with them. -/
def CountsUnsigned (text following : List Char) : Prop :=
  text ∈ unsigned.matches' ∨ (text ∈ constant.matches' ∧ EndsRun isIdContinue following)

/-- **The literals of numbers**: an optional sign and a number, where a constant counts only if the
word ends with it. -/
def Counts (text following : List Char) : Prop :=
  text ∈ (sign * unsigned).matches' ∨
    (text ∈ (sign * constant).matches' ∧ EndsRun isIdContinue following)

theorem counts_iff {text following : List Char} : Counts text following ↔
    ∃ s u, Magnitude.IsSign s ∧ CountsUnsigned u following ∧ text = s ++ u := by
  simp only [Counts, CountsUnsigned, mem_mul, mem_sign]
  constructor
  · intro h
    rcases h with ⟨s, u, hs, hu, htext⟩ | ⟨⟨s, u, hs, hu, htext⟩, hend⟩
    · exact ⟨s, u, hs, Or.inl hu, htext⟩
    · exact ⟨s, u, hs, Or.inr ⟨hu, hend⟩, htext⟩
  · intro h
    obtain ⟨s, u, hs, hu | ⟨hu, hend⟩, htext⟩ := h
    · exact Or.inl ⟨s, u, hs, hu, htext⟩
    · exact Or.inr ⟨⟨s, u, hs, hu, htext⟩, hend⟩

/-- The radix of a literal is the one whose form it has, and decimal if it has the form of none. -/
def WrittenIn (text : List Char) : Radix → Prop
  | .decimal => ∀ r, text ∉ (sign * ofRadix r).matches'
  | r => text ∈ (sign * ofRadix r).matches'

/-- `text` is the longest literal that `cs` begins with, and `following` is what follows it. -/
structure IsLongest (cs text following : List Char) : Prop where
  split : cs = text ++ following
  counts : Counts text following
  longest : ∀ text' following', cs = text' ++ following' → Counts text' following' →
    text'.length ≤ text.length

theorem IsLongest.unique {cs text following text' following' : List Char}
    (h : IsLongest cs text following) (h' : IsLongest cs text' following') :
    text = text' ∧ following = following' := by
  have hle := h.longest text' following' h'.split h'.counts
  have hge := h'.longest text following h.split h.counts
  exact List.append_inj (h.split.symm.trans h'.split) (Nat.le_antisymm hge hle)

end Number.Grammar

open Number.Grammar

namespace Magnitude

variable {cs whole tail run following text : List Char} {m : Magnitude}

/-! ## What is taken is a number -/

theorem mem_maybe_exponentPart_of_readExponent? {marks rest : List Char} {value : Int}
    (h : readExponent? cs = some (marks, value, rest)) :
    marks ∈ (maybe exponentPart).matches' := by
  obtain ⟨e, sign, run, -, he, hsign, hne, hrun, -, rfl, -⟩ := readExponent?_eq_some_iff.mp h
  exact mem_maybe.mpr (Or.inr (mem_exponentPart.mpr ⟨e, sign, run, he, hsign, hne, hrun, rfl⟩))

/-- Digits around a point are a number if there are digits on one side of it. -/
theorem mem_unsigned_point (hwhole : ∀ c ∈ whole, isDecimalDigit c = true)
    (hrun : ∀ c ∈ run, isDecimalDigit c = true) (hne : whole ≠ [] ∨ run ≠ [])
    (htail : tail ∈ (maybe exponentPart).matches') :
    whole ++ '.' :: (run ++ tail) ∈ unsigned.matches' := by
  cases whole with
  | nil =>
    have hrunne : run ≠ [] := hne.resolve_left fun hnil => hnil rfl
    exact mem_unsigned.mpr (Or.inr (Or.inr (Or.inr
      (mem_fraction.mpr ⟨run, tail, hrunne, hrun, htail, rfl⟩))))
  | cons d whole =>
    exact mem_unsigned.mpr (Or.inr (Or.inr (Or.inl
      (mem_decimal.mpr ⟨d :: whole, '.' :: run, tail, List.cons_ne_nil _ _, hwhole,
        Or.inr ⟨run, hrun, rfl⟩, htail, rfl⟩))))

theorem mem_unsigned_whole (hwhole : ∀ c ∈ whole, isDecimalDigit c = true) (hne : whole ≠ [])
    (htail : tail ∈ (maybe exponentPart).matches') : whole ++ tail ∈ unsigned.matches' :=
  mem_unsigned.mpr (Or.inr (Or.inr (Or.inl
    (mem_decimal.mpr ⟨whole, [], tail, hne, hwhole, Or.inl rfl, htail, rfl⟩))))

/-- A digit stands before the point or behind it. -/
theorem ne_nil_of_readFraction? {rest : List Char}
    (h : readFraction? (!whole.isEmpty) cs = some (run, rest)) : whole ≠ [] ∨ run ≠ [] := by
  obtain ⟨-, -, -, hsome⟩ := readFraction?_eq_some_iff.mp h
  simpa using hsome

theorem PlainForm.source_mem (h : PlainForm whole tail m)
    (hwhole : ∀ c ∈ whole, isDecimalDigit c = true) : m.source ∈ unsigned.matches' := by
  have hnil : [] ∈ (maybe exponentPart).matches' := mem_maybe.mpr (Or.inl rfl)
  cases h with
  | fraction hfraction hexponent =>
    obtain ⟨-, hrun, -⟩ := readFraction?_eq_some_iff.mp hfraction
    have hmem := mem_unsigned_point hwhole hrun (ne_nil_of_readFraction? hfraction) hnil
    rwa [List.append_nil] at hmem
  | fractionExponent hfraction hexponent =>
    obtain ⟨-, hrun, -⟩ := readFraction?_eq_some_iff.mp hfraction
    have hmem := mem_unsigned_point hwhole hrun (ne_nil_of_readFraction? hfraction)
      (mem_maybe_exponentPart_of_readExponent? hexponent)
    rwa [← List.cons_append, ← List.append_assoc] at hmem
  | exponent hne hfraction hexponent =>
    exact mem_unsigned_whole hwhole hne (mem_maybe_exponentPart_of_readExponent? hexponent)
  | big hne hzero =>
    exact mem_unsigned.mpr (Or.inr (Or.inl
      (mem_bigWhole.mpr ⟨whole, hne, hwhole, hzero, rfl⟩)))
  | digits hne hfraction hexponent hsuffix =>
    have hmem := mem_unsigned_whole hwhole hne hnil
    rwa [List.append_nil] at hmem

/-- The magnitude of a marked radix is a word of that radix. -/
theorem mem_marked_ofMarked {letter : Char} {radix : Radix} {rest : List Char}
    (hletter : Radix.ofLetter? letter = some radix) (hne : run ≠ [])
    (hrun : ∀ c ∈ run, radix.isDigit c = true) :
    (ofMarked letter radix run rest).source ∈ (marked radix).matches' := by
  rw [mem_marked]
  unfold ofMarked
  split
  · exact ⟨letter, run, ['n'], hletter, hne, hrun, Or.inr rfl, rfl⟩
  · exact ⟨letter, run, [], hletter, hne, hrun, Or.inl rfl, by rw [List.append_nil]⟩

/-- **What the reader takes is a number.** -/
theorem counts_of_read? (h : read? cs = some m) : CountsUnsigned m.source m.rest := by
  cases form_of_read? h with
  | infinity hend => exact Or.inr ⟨mem_constant.mpr (Or.inl rfl), hend⟩
  | nan hend => exact Or.inr ⟨mem_constant.mpr (Or.inr rfl), hend⟩
  | marked hletter hne hdigits hend =>
    exact Or.inl (mem_unsigned.mpr (Or.inl ⟨_, mem_marked_ofMarked hletter hne hdigits⟩))
  | plain hwhole hend hform => exact Or.inl (hform.source_mem hwhole)

/-! ## No number is longer -/

/-- What is left behind an exponent, if there is one. -/
def afterExponent (cs : List Char) : List Char :=
  match readExponent? cs with
  | some (_, _, rest) => rest
  | none => cs

theorem length_afterExponent_le (cs : List Char) : (afterExponent cs).length ≤ cs.length := by
  unfold afterExponent
  split
  · rename_i marks value rest hexponent
    obtain ⟨e, sign, run, rfl, -⟩ := readExponent?_eq_some_iff.mp hexponent
    simp only [List.length_cons, List.length_append]
    omega
  · exact Nat.le_refl _

/-- Digits and an exponent behind them are passed, with whatever digits follow. -/
theorem length_afterExponent_dropWhile_le (hrun : ∀ c ∈ run, isDecimalDigit c = true)
    (htail : tail ∈ (maybe exponentPart).matches') :
    (afterExponent ((run ++ (tail ++ following)).dropWhile isDecimalDigit)).length ≤
      following.length := by
  rw [List.dropWhile_append_of_pos hrun]
  rcases mem_maybe.mp htail with rfl | hexponent
  · exact (length_afterExponent_le _).trans (List.length_dropWhile_le _ _)
  · obtain ⟨e, sign, digits, he, hsign, hne, hdigits, rfl⟩ := mem_exponentPart.mp hexponent
    have hend : EndsRun isDecimalDigit (e :: (sign ++ digits) ++ following) := by
      refine endsRun_cons.mpr ?_
      rcases he with rfl | rfl <;> decide
    have hread : readExponent? (e :: (sign ++ digits) ++ following) =
        some (e :: (sign ++ (digits ++ following.takeWhile isDecimalDigit)),
          exponentValue sign (digits ++ following.takeWhile isDecimalDigit),
          following.dropWhile isDecimalDigit) :=
      readExponent?_eq_some_iff.mpr ⟨e, sign, digits ++ following.takeWhile isDecimalDigit,
        by simp [List.takeWhile_append_dropWhile], he, hsign, by simp [hne],
        mem_run_append_takeWhile following hdigits, endsRun_dropWhile _ _, rfl, rfl⟩
    rw [dropWhile_of_endsRun hend, afterExponent, hread]
    exact List.length_dropWhile_le _ _

/-- Plain digits leave no more than an exponent behind them would. -/
theorem PlainForm.length_rest_le (h : PlainForm whole tail m) :
    m.rest.length ≤ (afterExponent tail).length := by
  -- a point begins no exponent, so the forms with a point have the whole tail to stay below
  have hpoint : ∀ {cs : List Char}, afterExponent ('.' :: cs) = '.' :: cs := by
    intro cs
    rw [afterExponent, readExponent?_eq_none_of_head? (by simp) (by simp)]
  cases h with
  | fraction hfraction hexponent =>
    obtain ⟨rfl, -⟩ := readFraction?_eq_some_iff.mp hfraction
    rw [hpoint]
    simp only [List.length_cons, List.length_append]
    omega
  | fractionExponent hfraction hexponent =>
    obtain ⟨rfl, -⟩ := readFraction?_eq_some_iff.mp hfraction
    obtain ⟨e, sign, digits, rfl, -⟩ := readExponent?_eq_some_iff.mp hexponent
    rw [hpoint]
    simp only [List.length_cons, List.length_append]
    omega
  | exponent hne hfraction hexponent => rw [afterExponent, hexponent]
  | big hne hzero =>
    rw [afterExponent, readExponent?_eq_none_of_head? (by simp) (by simp)]
    exact Nat.le_succ _
  | digits hne hfraction hexponent hsuffix => rw [afterExponent, hexponent]

/-- Digits around a point leave what an exponent behind them leaves. -/
theorem PlainForm.rest_eq {middle : List Char} (h : PlainForm whole tail m)
    (hpoint : readFraction? (!whole.isEmpty) tail = some (run, middle)) :
    m.rest = afterExponent middle := by
  -- the other forms are those for which there is no fraction
  have hnone : whole ≠ [] → readFraction? true tail ≠ none := by
    intro hne hfraction
    have hempty : whole.isEmpty = false := by simpa using hne
    rw [hempty, Bool.not_false, hfraction] at hpoint
    exact absurd hpoint (by simp)
  cases h with
  | fraction hfraction hexponent =>
    rw [hfraction] at hpoint
    obtain ⟨rfl, rfl⟩ := Prod.mk.inj (Option.some.inj hpoint)
    rw [afterExponent, hexponent]
  | fractionExponent hfraction hexponent =>
    rw [hfraction] at hpoint
    obtain ⟨rfl, rfl⟩ := Prod.mk.inj (Option.some.inj hpoint)
    rw [afterExponent, hexponent]
  | exponent hne hfraction hexponent => exact absurd hfraction (hnone hne)
  | big hne hzero => exact absurd (readFraction?_eq_none_of_head? (by simp)) (hnone hne)
  | digits hne hfraction hexponent hsuffix => exact absurd hfraction (hnone hne)

/-- Digits, or a point with digits behind it, make a magnitude in one way or another. -/
theorem exists_plainForm
    (h : whole ≠ [] ∨ ∃ found, readFraction? (!whole.isEmpty) tail = some found) :
    ∃ m, PlainForm whole tail m := by
  cases hfraction : readFraction? (!whole.isEmpty) tail with
  | some found =>
    obtain ⟨run, middle⟩ := found
    cases hexponent : readExponent? middle with
    | some found => exact ⟨_, .fractionExponent hfraction hexponent⟩
    | none => exact ⟨_, .fraction hfraction hexponent⟩
  | none =>
    have hne : whole ≠ [] := h.resolve_right fun ⟨found, hfound⟩ => by
      rw [hfraction] at hfound
      exact absurd hfound (by simp)
    have hempty : whole.isEmpty = false := by simpa using hne
    rw [hempty, Bool.not_false] at hfraction
    cases hexponent : readExponent? tail with
    | some found => exact ⟨_, .exponent hne hfraction hexponent⟩
    | none =>
      by_cases hsuffix : hasLeadingZero whole = true ∨ tail.head? ≠ some 'n'
      · exact ⟨_, .digits hne hfraction hexponent hsuffix⟩
      · obtain ⟨hzero, hhead⟩ := not_or.mp hsuffix
        obtain ⟨rest, rfl⟩ := List.head?_eq_some_iff.mp (not_not.mp hhead)
        exact ⟨_, .big hne (Bool.eq_false_iff.mpr hzero)⟩

/-- Digits around a point are read, and an exponent behind them with them. -/
theorem exists_readPlain?_point (following : List Char)
    (hwhole : ∀ c ∈ whole, isDecimalDigit c = true)
    (hrun : ∀ c ∈ run, isDecimalDigit c = true) (hne : whole ≠ [] ∨ run ≠ [])
    (htail : tail ∈ (maybe exponentPart).matches') :
    ∃ m, readPlain? (whole ++ '.' :: (run ++ (tail ++ following))) = some m ∧
      m.rest.length ≤ following.length := by
  have hend : EndsRun isDecimalDigit ('.' :: (run ++ (tail ++ following))) :=
    endsRun_cons.mpr (by decide)
  have hfraction : readFraction? (!whole.isEmpty) ('.' :: (run ++ (tail ++ following))) =
      some ((run ++ (tail ++ following)).takeWhile isDecimalDigit,
        (run ++ (tail ++ following)).dropWhile isDecimalDigit) := by
    refine readFraction?_eq_some_iff.mpr ⟨by rw [List.takeWhile_append_dropWhile],
      fun c hc => List.mem_takeWhile_imp hc, endsRun_dropWhile _ _, ?_⟩
    rcases hne with hne | hne
    · exact Or.inl (by simpa using hne)
    · rw [List.takeWhile_append_of_pos hrun]
      exact Or.inr (by simp [hne])
  obtain ⟨m, hform⟩ := exists_plainForm (Or.inr ⟨_, hfraction⟩)
  refine ⟨m, hform.readPlain? hwhole hend, ?_⟩
  rw [hform.rest_eq hfraction]
  exact length_afterExponent_dropWhile_le hrun htail

/-- Digits are read, and an exponent behind them with them. What follows may make them more than
that, a big integer or digits around a point, so only the length of the leftover is known. -/
theorem exists_readPlain?_whole (following : List Char) (hne : whole ≠ [])
    (hwhole : ∀ c ∈ whole, isDecimalDigit c = true)
    (htail : tail ∈ (maybe exponentPart).matches') :
    ∃ m, readPlain? (whole ++ (tail ++ following)) = some m ∧
      m.rest.length ≤ following.length := by
  have htake : (whole ++ (tail ++ following)).takeWhile isDecimalDigit ≠ [] := by
    rw [List.takeWhile_append_of_pos hwhole]
    simp [hne]
  obtain ⟨m, hform⟩ := exists_plainForm (Or.inl htake)
  refine ⟨m, ?_, hform.length_rest_le.trans (length_afterExponent_dropWhile_le hwhole htail)⟩
  have hread := hform.readPlain? (fun c hc => List.mem_takeWhile_imp hc) (endsRun_dropWhile _ _)
  rwa [List.takeWhile_append_dropWhile] at hread

/-- A word of a marked radix is read in that radix, and no digit of it is left over. -/
theorem exists_readMarked? (following : List Char) {r : Radix} (h : text ∈ (marked r).matches') :
    ∃ m, readMarked? (text ++ following) = some m ∧ m.rest.length ≤ following.length ∧
      m.radix = r := by
  obtain ⟨letter, run, suffix, hletter, hne, hrun, hsuffix, rfl⟩ := mem_marked.mp h
  rcases hsuffix with rfl | rfl
  · -- the reader goes on with whatever digits follow the word
    have hread := readMarked?_append hletter (by simp [hne])
      (mem_run_append_takeWhile following hrun) (endsRun_dropWhile _ following)
    rw [List.append_assoc, List.takeWhile_append_dropWhile] at hread
    refine ⟨_, by simpa using hread, ?_, radix_ofMarked _ _ _ _⟩
    exact (length_rest_ofMarked_le _ _ _ _).trans (List.length_dropWhile_le _ _)
  · -- the suffix is no digit, so it ends the run where the word ends it
    have hend : EndsRun r.isDigit ('n' :: following) :=
      endsRun_cons.mpr (by cases r <;> decide)
    have hread := readMarked?_append hletter hne hrun hend
    exact ⟨_, by simpa using hread, Nat.le_refl _, rfl⟩

/-- What stands behind the digits of a decimal number selects no radix. -/
theorem ofLetter?_head_eq_none {point : List Char} (hpoint : IsPoint point)
    (htail : tail ∈ (maybe exponentPart).matches') :
    ∀ c ∈ (point ++ tail).head?, Radix.ofLetter? c = none := by
  intro c hc
  rcases hpoint with rfl | ⟨run, -, rfl⟩
  · rcases mem_maybe.mp htail with rfl | hexponent
    · exact absurd hc (by simp)
    · obtain ⟨e, sign, digits, he, -, -, -, rfl⟩ := mem_exponentPart.mp hexponent
      obtain rfl : e = c := Option.some.inj hc
      rcases he with rfl | rfl <;> decide
  · obtain rfl : '.' = c := Option.some.inj hc
    decide

/-- A marked radix is longer than the decimal number that begins it, which is its zero. -/
theorem length_rest_le_of_readMarked? (h : text ∈ decimal.matches')
    (hread : readMarked? (text ++ following) = some m) : m.rest.length ≤ following.length := by
  obtain ⟨whole, point, tail, hne, hwhole, hpoint, htail, rfl⟩ := mem_decimal.mp h
  rw [List.append_assoc] at hread
  by_cases hmore : point ++ tail = []
  · rw [hmore, List.nil_append] at hread
    obtain ⟨hsplit, hsource⟩ := source_append_of_read? (read?_of_readMarked? hread)
    have hlength := congrArg List.length hsplit
    simp only [List.length_append] at hlength
    have hpos := List.length_pos_iff.mpr hsource
    cases whole with
    | nil => exact absurd rfl hne
    | cons d whole =>
      cases whole with
      | nil =>
        rw [List.length_singleton] at hlength
        omega
      | cons d' whole =>
        -- a second digit stands where the letter would have to stand
        have hdigit := Radix.ofLetter?_eq_none_of_isDigit (hwhole d' (by simp))
        have hnone : readMarked? (d :: d' :: whole ++ following) = none :=
          readMarked?_cons_eq_none (by simpa using hdigit)
        rw [hnone] at hread
        exact absurd hread (by simp)
  · have hhead : ∀ c ∈ ((point ++ tail) ++ following).head?, Radix.ofLetter? c = none := by
      intro c hc
      rw [List.head?_append_of_ne_nil _ hmore] at hc
      exact ofLetter?_head_eq_none hpoint htail c hc
    rw [readMarked?_digits_append hne hwhole hhead] at hread
    exact absurd hread (by simp)

/-- The marked radices are tried first, and only where they fail are the digits read as plain. -/
theorem exists_read?_of_mem_decimal (h : text ∈ decimal.matches') :
    ∃ m, read? (text ++ following) = some m ∧ m.rest.length ≤ following.length := by
  cases hmarked : readMarked? (text ++ following) with
  | some m => exact ⟨m, read?_of_readMarked? hmarked, length_rest_le_of_readMarked? h hmarked⟩
  | none =>
    obtain ⟨whole, point, tail, hne, hwhole, hpoint, htail, rfl⟩ := mem_decimal.mp h
    have hplain : ∃ m, readPlain? (whole ++ (point ++ tail) ++ following) = some m ∧
        m.rest.length ≤ following.length := by
      rcases hpoint with rfl | ⟨run, hrun, rfl⟩
      · rw [List.nil_append, List.append_assoc]
        exact exists_readPlain?_whole following hne hwhole htail
      · have hread := exists_readPlain?_point following hwhole hrun (Or.inl hne) htail
        simpa only [List.append_assoc, List.cons_append] using hread
    obtain ⟨m, hread, hlength⟩ := hplain
    have hconstant : readConstant? (whole ++ (point ++ tail) ++ following) = none := by
      rw [List.append_assoc]
      exact readConstant?_digits_append (r := .decimal) hne hwhole
    refine ⟨m, ?_, hlength⟩
    rw [read?, hconstant, hmarked]
    exact hread

/-- **No number that the text begins with is longer than what the reader takes.** -/
theorem exists_read?_of_counts (h : CountsUnsigned text following) :
    ∃ m, read? (text ++ following) = some m ∧ m.rest.length ≤ following.length := by
  rcases h with hunsigned | ⟨hconstant, hend⟩
  · rcases mem_unsigned.mp hunsigned with ⟨r, hmarked⟩ | hbig | hdecimal | hfraction
    · obtain ⟨m, hread, hlength, -⟩ := exists_readMarked? following hmarked
      exact ⟨m, read?_of_readMarked? hread, hlength⟩
    · obtain ⟨run, hne, hrun, hzero, rfl⟩ := mem_bigWhole.mp hbig
      refine ⟨⟨run ++ ['n'], following, .decimal, .big run⟩, ?_, Nat.le_refl _⟩
      rw [List.append_assoc]
      exact read?_of_plainForm (.big hne hzero) hrun (endsRun_cons.mpr (by decide))
        (by simp [Radix.ofLetter?])
    · exact exists_read?_of_mem_decimal hdecimal
    · obtain ⟨run, tail, hne, hrun, htail, rfl⟩ := mem_fraction.mp hfraction
      have hnil : ∀ c ∈ [], isDecimalDigit c = true := by simp
      obtain ⟨m, hread, hlength⟩ := exists_readPlain?_point following hnil hrun (Or.inr hne) htail
      have htext : '.' :: (run ++ tail) ++ following = [] ++ '.' :: (run ++ (tail ++ following)) := by
        simp
      refine ⟨m, ?_, hlength⟩
      rw [htext, read?, readConstant?_eq_none (by simp) (by simp),
        readMarked?_eq_none_of_head? (by simp)]
      exact hread
  · rcases mem_constant.mp hconstant with rfl | rfl
    · exact ⟨_, read?_of_readConstant?
        (readConstant?_eq_some_iff.mpr ⟨following, hend, Or.inl ⟨rfl, rfl⟩⟩), Nat.le_refl _⟩
    · exact ⟨_, read?_of_readConstant?
        (readConstant?_eq_some_iff.mpr ⟨following, hend, Or.inr ⟨rfl, rfl⟩⟩), Nat.le_refl _⟩

/-! ## The radix -/

/-- The text that is taken is written in the radix that is reported. -/
theorem mem_ofRadix_of_read? (h : read? cs = some m) (hradix : m.radix ≠ .decimal) :
    m.source ∈ (ofRadix m.radix).matches' := by
  cases form_of_read? h with
  | infinity hend => exact absurd rfl hradix
  | nan hend => exact absurd rfl hradix
  | marked hletter hne hdigits hend =>
    rw [radix_ofMarked]
    exact mem_ofRadix.mpr (Or.inl (mem_marked_ofMarked hletter hne hdigits))
  | plain hwhole hend hform =>
    cases hform with
    | fraction | fractionExponent | exponent | big => exact absurd rfl hradix
    | digits hne hfraction hexponent hsuffix =>
      -- digits alone are reported as decimal unless they are of the legacy form
      dsimp only at hradix ⊢
      unfold plainRadix at hradix ⊢
      split
      · rename_i hoctal
        obtain ⟨hzero, hall⟩ := Bool.and_eq_true_iff.mp hoctal
        unfold hasLeadingZero at hzero
        split at hzero
        · rename_i d whole
          refine mem_ofRadix.mpr (Or.inr ⟨rfl, mem_legacyOctal.mpr ⟨d :: whole, by simp, ?_, rfl⟩⟩)
          intro c hc
          exact List.all_eq_true.mp hall c (List.mem_cons_of_mem _ hc)
        · exact absurd hzero (by simp)
      · rename_i hdecimal
        rw [if_neg hdecimal] at hradix
        exact absurd rfl hradix

/-- Octal digits behind a zero are read as octal, because every other form has a character that is no
octal digit. -/
theorem radix_of_mem_legacyOctal (h : read? cs = some m) (hmem : m.source ∈ legacyOctal.matches') :
    m.radix = .octal := by
  obtain ⟨run, hne, hrun, hsource⟩ := mem_legacyOctal.mp hmem
  have hall : ∀ c ∈ m.source, Radix.octal.isDigit c = true := by
    intro c hc
    rw [hsource] at hc
    rcases List.mem_cons.mp hc with rfl | hc
    · rfl
    · exact hrun c hc
  cases form_of_read? h with
  | infinity hend => exact absurd (hall 'I' (by simp [NumberValue.infinityText])) (by decide)
  | nan hend => exact absurd (hall 'N' (by simp [NumberValue.nanText])) (by decide)
  | @marked letter radix digits rest hletter =>
    have hdigit : Radix.octal.isDigit letter = true := by
      refine hall letter ?_
      unfold ofMarked
      split <;> simp
    rw [Radix.ofLetter?_eq_none_of_isDigit (Radix.isDigit_decimal_of_octal hdigit)] at hletter
    exact absurd hletter (by simp)
  | plain hwhole hend hform =>
    cases hform with
    | fraction => exact absurd (hall '.' (by simp)) (by decide)
    | fractionExponent => exact absurd (hall '.' (by simp)) (by decide)
    | exponent hne' hfraction hexponent =>
      obtain ⟨e, sign, digits, -, he, -, -, -, -, rfl, -⟩ := readExponent?_eq_some_iff.mp hexponent
      have hdigit := hall e (by simp)
      rcases he with rfl | rfl
      · exact absurd hdigit (by decide)
      · exact absurd hdigit (by decide)
    | big => exact absurd (hall 'n' (by simp)) (by decide)
    | digits =>
      dsimp only at hsource hall ⊢
      subst hsource
      cases run with
      | nil => exact absurd rfl hne
      | cons d run =>
        rw [plainRadix, hasLeadingZero, List.all_eq_true.mpr hall]
        rfl

/-- **The radix that is reported is the one the text is written in.** -/
theorem mem_ofRadix_iff_of_read? {r : Radix} (h : read? cs = some m) (hr : r ≠ .decimal) :
    m.source ∈ (ofRadix r).matches' ↔ m.radix = r := by
  constructor
  · intro hmem
    rcases mem_ofRadix.mp hmem with hmarked | ⟨rfl, hlegacy⟩
    · obtain ⟨m', hread, -, hradix⟩ := exists_readMarked? m.rest hmarked
      rw [← (source_append_of_read? h).1] at hread
      obtain rfl := Option.some.inj (h.symm.trans (read?_of_readMarked? hread))
      exact hradix
    · exact radix_of_mem_legacyOctal h hlegacy
  · rintro rfl
    exact mem_ofRadix_of_read? h hr

end Magnitude

/-! ## Signs, blanks and what follows -/

namespace Number

variable {cs text following : List Char} {found : Lexeme NumberValue Radix}

/-- **What is read is the longest literal the text begins with.** -/
theorem isLongest_of_read (h : read cs = .ok found) : IsLongest cs found.source found.rest := by
  obtain ⟨m, value, hm, -, rfl⟩ := read_eq_ok_iff.mp h
  have hsign := Magnitude.isSign_readSign cs
  have hcs : cs = (Magnitude.readSign cs).1 ++ m.source ++ m.rest := by
    rw [List.append_assoc, ← (Magnitude.source_append_of_read? hm).1, Magnitude.readSign_append]
  refine ⟨hcs, counts_iff.mpr ⟨_, _, hsign, Magnitude.counts_of_read? hm, rfl⟩, ?_⟩
  intro text' following' hsplit hcounts
  obtain ⟨s, u, hs, hu, rfl⟩ := counts_iff.mp hcounts
  obtain ⟨m', hm', hlength⟩ := Magnitude.exists_read?_of_counts hu
  -- the sign of the other literal is the sign the reader finds, so it reads the same magnitude
  rw [List.append_assoc] at hsplit
  have hread := Magnitude.readSign_append_of_read? hs hm'
  rw [← hsplit] at hread
  rw [hread, hm'] at hm
  obtain rfl := Option.some.inj hm
  have hwhole := congrArg List.length (Magnitude.source_append_of_read? hm').1
  rw [hread]
  simp only [List.length_append] at hwhole ⊢
  omega

/-- **A text that begins with a literal is read.** -/
theorem exists_read_of_counts (hsplit : cs = text ++ following) (h : Counts text following) :
    ∃ found, read cs = .ok found := by
  obtain ⟨s, u, hs, hu, rfl⟩ := counts_iff.mp h
  obtain ⟨m, hm, -⟩ := Magnitude.exists_read?_of_counts hu
  have hsign := Magnitude.readSign_append_of_read? hs hm
  rw [← List.append_assoc, ← hsplit] at hsign
  obtain ⟨value, hvalue⟩ := Magnitude.exists_value_of_read? hm
  exact ⟨_, read_eq_ok_iff.mpr ⟨m, value, by rw [hsign]; exact hm, hvalue, rfl⟩⟩

/-- A form of a radix begins with a zero, so the sign of a literal is not part of it. -/
theorem sign_append_mem_iff {m : Magnitude} {q : Radix}
    (hm : Magnitude.read? (Magnitude.readSign cs).2 = some m) :
    (Magnitude.readSign cs).1 ++ m.source ∈ (sign * ofRadix q).matches' ↔
      m.source ∈ (ofRadix q).matches' := by
  rw [mem_mul]
  constructor
  · intro h
    obtain ⟨s, u, hs, hu, heq⟩ := h
    obtain ⟨more, rfl⟩ := exists_zero_of_mem_ofRadix hu
    have hread : Magnitude.readSign (s ++ ('0' :: more ++ m.rest)) = (s, '0' :: more ++ m.rest) :=
      Magnitude.readSign_sign_append (mem_sign.mp hs) (by simp) (by simp)
    rw [← List.append_assoc, ← heq, List.append_assoc,
      ← (Magnitude.source_append_of_read? hm).1, Magnitude.readSign_append] at hread
    rw [hread] at heq
    rw [List.append_cancel_left heq]
    exact hu
  · intro hsource
    exact ⟨_, _, mem_sign.mpr (Magnitude.isSign_readSign cs), hsource, rfl⟩

theorem writtenIn_iff_of_read (h : read cs = .ok found) (r : Radix) :
    found.detail = r ↔ WrittenIn found.source r := by
  obtain ⟨m, value, hm, -, rfl⟩ := read_eq_ok_iff.mp h
  have hradix : ∀ {q}, q ≠ .decimal → (m.radix = q ↔
      (Magnitude.readSign cs).1 ++ m.source ∈ (sign * ofRadix q).matches') := by
    intro q hq
    rw [sign_append_mem_iff hm, Magnitude.mem_ofRadix_iff_of_read? hm hq]
  cases r with
  | binary => exact hradix (by simp)
  | octal => exact hradix (by simp)
  | hexadecimal => exact hradix (by simp)
  | decimal =>
    constructor
    · intro hdecimal q hq
      by_cases hne : q = .decimal
      · subst hne
        exact notMem_ofRadix_decimal ((sign_append_mem_iff hm).mp hq)
      · exact hne (((hradix hne).mpr hq).symm.trans hdecimal)
    · intro hnone
      by_contra hne
      exact hnone _ ((hradix hne).mp rfl)

/-- What a scan for a number at the head of `input` has to answer: the longest literal behind the
blanks and the radix it is written in, or that there is no literal. -/
def Answers (input : List Char) : Except ScanError (Token NumberValue Radix) → Prop
  | .ok t => ∃ following, IsLongest (skipBlank input) t.source following ∧
      ∀ r, t.detail = r ↔ WrittenIn t.source r
  | .error e => e = .noMatch .number (leadingBlank input).length ∧
      ¬∃ text following, skipBlank input = text ++ following ∧ Counts text following

theorem answers_scanHead (input : List Char) : Answers input (recognizer.scanHead input) := by
  cases hscan : recognizer.scanHead input with
  | ok t =>
    obtain ⟨found, hread, rfl⟩ := Recognizer.scanHead_eq_ok_iff.mp hscan
    exact ⟨found.rest, isLongest_of_read hread, writtenIn_iff_of_read hread⟩
  | error e =>
    obtain ⟨miss, hread, rfl⟩ := Recognizer.scanHead_eq_error_iff.mp hscan
    obtain ⟨rfl, hnone⟩ := read_eq_error_iff.mp hread
    refine ⟨rfl, ?_⟩
    intro h
    obtain ⟨text, following, hsplit, hcounts⟩ := h
    obtain ⟨found, hfound⟩ := exists_read_of_counts hsplit hcounts
    rw [show recognizer.read = read from rfl, hfound] at hread
    exact absurd hread (by simp)

/-- A strict parse takes the longest literal or none: a shorter one that something acceptable follows
does not help. -/
theorem parse?_strict_isSome_iff (input : List Char) : (parse? true input).isSome = true ↔
    ∃ text following, IsLongest (skipBlank input) text following ∧
      Boundary.expression.accepts following = true := by
  rw [parse?, Option.isSome_map, Option.isSome_iff_exists]
  constructor
  · intro h
    obtain ⟨t, ht⟩ := h
    obtain ⟨found, hread, hboundary, -⟩ :=
      Recognizer.scan_eq_ok_iff.mp (found?_eq_some_iff.mp ht)
    exact ⟨found.source, found.rest, isLongest_of_read hread, hboundary⟩
  · intro h
    obtain ⟨text, following, hlongest, hboundary⟩ := h
    obtain ⟨found, hread⟩ := exists_read_of_counts hlongest.split hlongest.counts
    obtain ⟨-, rfl⟩ := (isLongest_of_read hread).unique hlongest
    exact ⟨_, found?_eq_some_iff.mpr
      (Recognizer.scan_eq_ok_iff.mpr ⟨found, hread, hboundary, rfl⟩)⟩

theorem parse?_isSome_iff (input : List Char) :
    (parse? false input).isSome = true ↔ ∃ t, recognizer.scanHead input = .ok t := by
  rw [parse?, Option.isSome_map, Option.isSome_iff_exists]
  exact exists_congr fun t => found?_eq_some_iff

/-- **The reader of numbers accepts exactly its grammar, and greedily.** A scan succeeds if and only
if the text behind the blanks begins with a literal. It then takes the longest one and reports the
radix that is written in, and otherwise it finds no literal and no other fault. A strict parse needs
in addition that the text behind the longest literal may follow an expression. -/
theorem scanHead_longest (input : List Char) :
    Answers input (recognizer.scanHead input) ∧
    ((∃ t, recognizer.scanHead input = .ok t) ↔
      ∃ text following, skipBlank input = text ++ following ∧ Counts text following) ∧
    ((parse? true input).isSome = true ↔
      ∃ text following, IsLongest (skipBlank input) text following ∧
        Boundary.expression.accepts following = true) ∧
    ((parse? false input).isSome = true ↔ ∃ t, recognizer.scanHead input = .ok t) := by
  have hanswers := answers_scanHead input
  refine ⟨hanswers, ?_, parse?_strict_isSome_iff input, parse?_isSome_iff input⟩
  cases hscan : recognizer.scanHead input with
  | ok t =>
    rw [hscan] at hanswers
    obtain ⟨following, hlongest, -⟩ := hanswers
    constructor
    · intro _
      exact ⟨t.source, following, hlongest.split, hlongest.counts⟩
    · intro _
      exact ⟨t, rfl⟩
  | error e =>
    rw [hscan] at hanswers
    obtain ⟨-, hnone⟩ := hanswers
    constructor
    · intro h
      obtain ⟨t, ht⟩ := h
      exact absurd ht (by simp)
    · intro hsome
      exact absurd hsome hnone

end Number

end ScriptLiterals
