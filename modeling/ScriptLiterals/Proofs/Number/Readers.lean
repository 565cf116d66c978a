import ScriptLiterals.Number.Scan
import ScriptLiterals.Proofs.Number.Digits
import ScriptLiterals.Proofs.Recognizer

/-!
# What the readers of a number take

One statement for each reader of `ScriptLiterals.Number.Scan`, as an equivalence: the reader answers
with these parts if and only if the text is made of them and the run of digits ends where the answer
says it ends. The left-to-right direction is what soundness proofs use, the right-to-left direction
is what a printed literal needs. The readers themselves, with their `takeWhile` and `dropWhile`, are
opened in this file only.

Every run of digits is ended by the same few things, and all of them follow from `extendsNumber`:
whatever goes on with neither a word nor a number ends a run of digits in every radix, is no decimal
point, no exponent and no suffix.
-/

set_option autoImplicit false

namespace ScriptLiterals

open Text

/-! ## Digits are characters of words -/

namespace Radix

/-- The digits of a radix, in ascending order, letters of either case. -/
def digitChars : Radix → List Char
  | .binary => "01".toList
  | .octal => "01234567".toList
  | .decimal => "0123456789".toList
  | .hexadecimal => "0123456789abcdefABCDEF".toList

/-- The letters that select a radix behind a zero. -/
def letters : Radix → List Char
  | .binary => ['b', 'B']
  | .octal => ['o', 'O']
  | .decimal => []
  | .hexadecimal => ['x', 'X']

theorem digitValue?_eq_none_of_wide {c : Char} (h : 128 ≤ c.toNat) : digitValue? c = none := by
  have hupper : ∀ d : Char, d.toNat < 128 → decide (c ≤ d) = false := by
    intro d hd
    apply decide_eq_false
    intro hle
    have : c.toNat ≤ d.toNat := hle
    omega
  simp [digitValue?, hupper '9' (by decide), hupper 'f' (by decide), hupper 'F' (by decide)]

/-- The digits of a radix are those on its list. -/
theorem isDigit_iff_mem_digitChars {r : Radix} {c : Char} :
    r.isDigit c = true ↔ c ∈ r.digitChars := by
  by_cases hc : c.toNat < 128
  · -- no class of digits has a member above ASCII, so running through ASCII decides the question
    have hall : ∀ n < 128, (r.isDigit (Char.ofNat n) = true ↔ Char.ofNat n ∈ r.digitChars) := by
      cases r <;> decide +kernel
    rw [← Char.ofNat_toNat c]
    exact hall c.toNat hc
  · constructor
    · intro h
      rw [isDigit, digit?, digitValue?_eq_none_of_wide (Nat.le_of_not_lt hc)] at h
      exact absurd h (by simp)
    · intro h
      have hascii : r.digitChars.all (fun d => d.toNat < 128) = true := by cases r <;> decide
      exact absurd (of_decide_eq_true (List.all_eq_true.mp hascii c h)) hc

theorem isDigit_decimal_of_octal {c : Char} (h : octal.isDigit c = true) :
    decimal.isDigit c = true := by
  have hall : octal.digitChars.all decimal.isDigit = true := by decide
  exact List.all_eq_true.mp hall c (isDigit_iff_mem_digitChars.mp h)

theorem isIdContinue_of_isDigit {r : Radix} {c : Char} (h : r.isDigit c = true) :
    isIdContinue c = true := by
  have hall : r.digitChars.all isIdContinue = true := by cases r <;> decide
  exact List.all_eq_true.mp hall c (isDigit_iff_mem_digitChars.mp h)

theorem ofLetter?_eq_some_iff {r : Radix} {c : Char} :
    ofLetter? c = some r ↔ c ∈ r.letters := by
  unfold ofLetter?
  split_ifs with hb ho hx
  · rcases hb with rfl | rfl <;> cases r <;> decide
  · rcases ho with rfl | rfl <;> cases r <;> decide
  · rcases hx with rfl | rfl <;> cases r <;> decide
  · cases r <;> simp_all [letters]

theorem isDigit_of_mem_letters {r : Radix} {c : Char} (h : c ∈ r.letters) :
    decimal.isDigit c = false := by
  have hnone : r.letters.any decimal.isDigit = false := by cases r <;> decide
  exact Bool.eq_false_iff.mpr (List.any_eq_false.mp hnone c h)

/-- A decimal digit selects no radix. -/
theorem ofLetter?_eq_none_of_isDigit {c : Char} (h : decimal.isDigit c = true) :
    ofLetter? c = none := by
  rw [Option.eq_none_iff_forall_ne_some]
  intro r hr
  rw [isDigit_of_mem_letters (ofLetter?_eq_some_iff.mp hr)] at h
  exact absurd h (by simp)

end Radix

namespace Boundary

variable {cs : List Char}

theorem endsRun_isIdContinue (h : EndsRun extendsNumber cs) : EndsRun isIdContinue cs :=
  h.mono fun c hc => by simp [extendsNumber, hc]

theorem endsRun_isDigit (r : Radix) (h : EndsRun extendsNumber cs) : EndsRun r.isDigit cs :=
  h.mono fun c hc => by simp [extendsNumber, Radix.isIdContinue_of_isDigit hc]

/-- A character that goes on with a number is not what stands first. -/
theorem head?_ne_of_endsRun {c : Char} (hc : extendsNumber c = true)
    (h : EndsRun extendsNumber cs) : cs.head? ≠ some c := by
  intro hhead
  rw [h c hhead] at hc
  exact absurd hc (by simp)

/-- What goes on with no word selects no radix. -/
theorem ofLetter?_eq_none_of_endsRun (h : EndsRun extendsNumber cs) :
    ∀ c ∈ cs.head?, Radix.ofLetter? c = none := by
  intro c hc
  rw [Option.eq_none_iff_forall_ne_some]
  intro r hr
  have hletters : r.letters.all extendsNumber = true := by cases r <;> decide
  have hext := List.all_eq_true.mp hletters c (Radix.ofLetter?_eq_some_iff.mp hr)
  rw [h c hc] at hext
  exact absurd hext (by simp)

end Boundary

namespace Magnitude

variable {cs rest : List Char} {m : Magnitude}

/-! ## Signs -/

/-- A sign, or none. -/
def IsSign (sign : List Char) : Prop := sign = [] ∨ sign = ['+'] ∨ sign = ['-']

theorem isSign_readSign (cs : List Char) : IsSign (readSign cs).1 := by
  unfold readSign
  split
  · exact Or.inr (Or.inr rfl)
  · exact Or.inr (Or.inl rfl)
  · exact Or.inl rfl

theorem readSign_append (cs : List Char) : (readSign cs).1 ++ (readSign cs).2 = cs := by
  unfold readSign
  split <;> rfl

theorem readSign_sign_append {sign : List Char} (hsign : IsSign sign)
    (hplus : cs.head? ≠ some '+') (hminus : cs.head? ≠ some '-') :
    readSign (sign ++ cs) = (sign, cs) := by
  rcases hsign with rfl | rfl | rfl
  · cases cs with
    | nil => rfl
    | cons c cs =>
      rw [List.nil_append, readSign]
      · intro cs' hcs
        obtain ⟨rfl, -⟩ := List.cons.inj hcs
        exact hminus rfl
      · intro cs' hcs
        obtain ⟨rfl, -⟩ := List.cons.inj hcs
        exact hplus rfl
  · rfl
  · rfl

/-- A digit is no sign. -/
theorem readSign_sign_append_digits {sign digits : List Char} {r : Radix} (hsign : IsSign sign)
    (hne : digits ≠ []) (hdigits : ∀ c ∈ digits, r.isDigit c = true) :
    readSign (sign ++ (digits ++ rest)) = (sign, digits ++ rest) := by
  cases digits with
  | nil => exact absurd rfl hne
  | cons d digits =>
    have hd : r.isDigit d = true := hdigits d List.mem_cons_self
    refine readSign_sign_append hsign ?_ ?_
    · intro hhead
      obtain rfl : d = '+' := by simpa using hhead
      exact absurd hd (by cases r <;> decide)
    · intro hhead
      obtain rfl : d = '-' := by simpa using hhead
      exact absurd hd (by cases r <;> decide)

/-! ## Constants -/

theorem startsWithWord_eq_true_iff {word : List Char} : startsWithWord word cs = true ↔
    ∃ rest, cs = word ++ rest ∧ EndsRun isIdContinue rest := by
  unfold startsWithWord
  rw [Bool.and_eq_true, List.isPrefixOf_iff_prefix]
  constructor
  · intro h
    obtain ⟨⟨rest, rfl⟩, hend⟩ := h
    rw [List.drop_left] at hend
    refine ⟨rest, rfl, fun c hc => ?_⟩
    rw [Option.mem_def.mp hc] at hend
    simpa using hend
  · intro h
    obtain ⟨rest, rfl, hend⟩ := h
    refine ⟨List.prefix_append _ _, ?_⟩
    rw [List.drop_left]
    cases rest with
    | nil => rfl
    | cons c rest => simpa using endsRun_cons.mp hend

theorem readConstant?_eq_some_iff : readConstant? cs = some m ↔
    ∃ rest, EndsRun isIdContinue rest ∧
      ((cs = NumberValue.infinityText ++ rest ∧
          m = ⟨NumberValue.infinityText, rest, .decimal, .infinity⟩) ∨
        (cs = NumberValue.nanText ++ rest ∧ m = ⟨NumberValue.nanText, rest, .decimal, .nan⟩)) := by
  unfold readConstant?
  -- the two words begin with different letters, so at most one of the tests succeeds
  by_cases hinf : startsWithWord NumberValue.infinityText cs = true
  · obtain ⟨rest, rfl, hend⟩ := startsWithWord_eq_true_iff.mp hinf
    rw [if_pos hinf, List.drop_left]
    constructor
    · intro h
      exact ⟨rest, hend, Or.inl ⟨rfl, (Option.some.inj h).symm⟩⟩
    · intro hparts
      obtain ⟨rest', -, ⟨hcs, rfl⟩ | ⟨hcs, -⟩⟩ := hparts
      · rw [List.append_cancel_left hcs]
      · exact absurd hcs (by simp [NumberValue.infinityText, NumberValue.nanText])
  · rw [if_neg hinf]
    by_cases hnan : startsWithWord NumberValue.nanText cs = true
    · obtain ⟨rest, rfl, hend⟩ := startsWithWord_eq_true_iff.mp hnan
      rw [if_pos hnan, List.drop_left]
      constructor
      · intro h
        exact ⟨rest, hend, Or.inr ⟨rfl, (Option.some.inj h).symm⟩⟩
      · intro hparts
        obtain ⟨rest', -, ⟨hcs, -⟩ | ⟨hcs, rfl⟩⟩ := hparts
        · exact absurd hcs (by simp [NumberValue.infinityText, NumberValue.nanText])
        · rw [List.append_cancel_left hcs]
    · rw [if_neg hnan]
      constructor
      · intro h
        exact absurd h (by simp)
      · intro hparts
        obtain ⟨rest, hend, ⟨rfl, -⟩ | ⟨rfl, -⟩⟩ := hparts
        · exact absurd (startsWithWord_eq_true_iff.mpr ⟨rest, rfl, hend⟩) hinf
        · exact absurd (startsWithWord_eq_true_iff.mpr ⟨rest, rfl, hend⟩) hnan

/-- Only an `I` or an `N` begins a constant. -/
theorem readConstant?_eq_none (hi : cs.head? ≠ some 'I') (hn : cs.head? ≠ some 'N') :
    readConstant? cs = none := by
  rw [Option.eq_none_iff_forall_ne_some]
  intro m hm
  obtain ⟨rest, -, ⟨rfl, -⟩ | ⟨rfl, -⟩⟩ := readConstant?_eq_some_iff.mp hm
  · exact hi rfl
  · exact hn rfl

/-! ## Marked radices -/

/-- The magnitude of a zero, a letter and digits, which a suffix behind them joins. -/
def ofMarked (letter : Char) (radix : Radix) (digits : List Char) : List Char → Magnitude
  | 'n' :: rest => ⟨'0' :: letter :: digits ++ ['n'], rest, radix, .big digits⟩
  | rest => ⟨'0' :: letter :: digits, rest, radix, .whole digits⟩

theorem ofMarked_of_head?_ne {letter : Char} {radix : Radix} {digits : List Char}
    (h : rest.head? ≠ some 'n') :
    ofMarked letter radix digits rest = ⟨'0' :: letter :: digits, rest, radix, .whole digits⟩ := by
  unfold ofMarked
  split
  · exact absurd rfl h
  · rfl

theorem radix_ofMarked (letter : Char) (radix : Radix) (digits rest : List Char) :
    (ofMarked letter radix digits rest).radix = radix := by
  unfold ofMarked
  split <;> rfl

theorem length_rest_ofMarked_le (letter : Char) (radix : Radix) (digits rest : List Char) :
    (ofMarked letter radix digits rest).rest.length ≤ rest.length := by
  unfold ofMarked
  split
  · exact Nat.le_succ _
  · exact Nat.le_refl _

theorem ofMarked_source_append (letter : Char) (radix : Radix) (digits rest : List Char) :
    (ofMarked letter radix digits rest).source ++ (ofMarked letter radix digits rest).rest =
      '0' :: letter :: (digits ++ rest) := by
  unfold ofMarked
  split <;> simp

/-- A zero, a letter and a run of digits are a marked radix. -/
theorem readMarked?_append {letter : Char} {radix : Radix} {digits : List Char}
    (hletter : Radix.ofLetter? letter = some radix) (hne : digits ≠ [])
    (hdigits : ∀ c ∈ digits, radix.isDigit c = true) (hend : EndsRun radix.isDigit rest) :
    readMarked? ('0' :: letter :: (digits ++ rest)) = some (ofMarked letter radix digits rest) := by
  have hempty : digits.isEmpty = false := by simpa using hne
  unfold readMarked?
  simp only [hletter, takeWhile_run hdigits hend, dropWhile_run hdigits hend, hempty,
    Bool.false_eq_true, if_false]
  -- the suffix is looked for in the same place by both sides
  unfold ofMarked
  cases rest with
  | nil => rfl
  | cons c rest =>
    by_cases hc : c = 'n'
    · subst hc
      rfl
    · split <;> simp_all

/-- **A marked radix is a zero, a letter and the whole run of digits behind it.** -/
theorem readMarked?_eq_some_iff : readMarked? cs = some m ↔
    ∃ letter radix digits rest, cs = '0' :: letter :: (digits ++ rest) ∧
      Radix.ofLetter? letter = some radix ∧ digits ≠ [] ∧ (∀ c ∈ digits, radix.isDigit c = true) ∧
      EndsRun radix.isDigit rest ∧ m = ofMarked letter radix digits rest := by
  constructor
  · intro h
    have hread := h
    unfold readMarked? at h
    split at h
    · rename_i letter cs
      cases hletter : Radix.ofLetter? letter with
      | none => rw [hletter] at h; exact absurd h (by simp)
      | some radix =>
        by_cases hne : cs.takeWhile radix.isDigit = []
        · simp [hletter, hne] at h
        · have hdigits : ∀ c ∈ cs.takeWhile radix.isDigit, radix.isDigit c = true :=
            fun c hc => List.mem_takeWhile_imp hc
          have hend := endsRun_dropWhile radix.isDigit cs
          have happend := readMarked?_append hletter hne hdigits hend
          rw [List.takeWhile_append_dropWhile] at happend
          exact ⟨letter, radix, _, _, by rw [List.takeWhile_append_dropWhile], hletter, hne,
            hdigits, hend, Option.some.inj (hread.symm.trans happend)⟩
    · exact absurd h (by simp)
  · intro hparts
    obtain ⟨letter, radix, digits, rest, rfl, hletter, hne, hdigits, hend, rfl⟩ := hparts
    exact readMarked?_append hletter hne hdigits hend

/-- Only a letter behind the first character marks a radix. -/
theorem readMarked?_cons_eq_none {c : Char}
    (h : ∀ letter ∈ cs.head?, Radix.ofLetter? letter = none) : readMarked? (c :: cs) = none := by
  rw [Option.eq_none_iff_forall_ne_some]
  intro m hm
  obtain ⟨letter, radix, digits, rest, hcs, hletter, -⟩ := readMarked?_eq_some_iff.mp hm
  obtain ⟨-, rfl⟩ := List.cons.inj hcs
  rw [h letter rfl] at hletter
  exact absurd hletter (by simp)

theorem readMarked?_eq_none_of_head? (h : cs.head? ≠ some '0') : readMarked? cs = none := by
  unfold readMarked?
  split
  · exact absurd rfl h
  · rfl

/-! ## Fractions and exponents -/

/-- A text begins with a character of a class if its run of that class is not empty. -/
theorem any_head?_eq {p : Char → Bool} (cs : List Char) :
    cs.head?.any p = !(cs.takeWhile p).isEmpty := by
  cases cs with
  | nil => rfl
  | cons c cs => cases hc : p c <;> simp [hc]

theorem readFraction?_eq_some_iff {hasWhole : Bool} {digits : List Char} :
    readFraction? hasWhole cs = some (digits, rest) ↔
      cs = '.' :: (digits ++ rest) ∧ (∀ c ∈ digits, isDecimalDigit c = true) ∧
        EndsRun isDecimalDigit rest ∧ (hasWhole = true ∨ digits ≠ []) := by
  constructor
  · intro h
    unfold readFraction? at h
    split at h
    · rename_i cs
      rw [any_head?_eq] at h
      split at h
      · rename_i hdigit
        obtain ⟨rfl, rfl⟩ := Prod.mk.inj (Option.some.inj h)
        exact ⟨by rw [List.takeWhile_append_dropWhile], fun c hc => List.mem_takeWhile_imp hc,
          endsRun_dropWhile _ _, by simpa using hdigit⟩
      · exact absurd h (by simp)
    · exact absurd h (by simp)
  · intro hparts
    obtain ⟨rfl, hdigits, hend, hsome⟩ := hparts
    have hcond : (hasWhole || (digits ++ rest).head?.any isDecimalDigit) = true := by
      rw [any_head?_eq, takeWhile_run hdigits hend]
      simpa using hsome
    unfold readFraction?
    simp only [hcond, if_true, takeWhile_run hdigits hend, dropWhile_run hdigits hend]

theorem readFraction?_eq_none_of_head? {hasWhole : Bool} (h : cs.head? ≠ some '.') :
    readFraction? hasWhole cs = none := by
  unfold readFraction?
  split
  · exact absurd rfl h
  · rfl

theorem readFraction?_eq_none_of_endsRun {hasWhole : Bool}
    (h : EndsRun Boundary.extendsNumber cs) : readFraction? hasWhole cs = none :=
  readFraction?_eq_none_of_head? (Boundary.head?_ne_of_endsRun (by decide) h)

/-- What an exponent with this sign and these digits says. -/
def exponentValue (sign digits : List Char) : Int :=
  if sign = ['-'] then -(Radix.decimal.valueOf digits : Int) else Radix.decimal.valueOf digits

theorem readExponent?_eq_some_iff {marks : List Char} {value : Int} :
    readExponent? cs = some (marks, value, rest) ↔
      ∃ e sign digits, cs = e :: (sign ++ (digits ++ rest)) ∧ (e = 'e' ∨ e = 'E') ∧
        IsSign sign ∧ digits ≠ [] ∧ (∀ c ∈ digits, isDecimalDigit c = true) ∧
        EndsRun isDecimalDigit rest ∧ marks = e :: (sign ++ digits) ∧
        value = exponentValue sign digits := by
  constructor
  · intro h
    cases cs with
    | nil => exact absurd h (by simp [readExponent?])
    | cons e cs =>
      simp only [readExponent?] at h
      split at h
      · rename_i hcond
        obtain ⟨hmarks, hvalue, hrest⟩ := by simpa only [Option.some.injEq, Prod.mk.injEq] using h
        refine ⟨e, (readSign cs).1, (readSign cs).2.takeWhile isDecimalDigit, ?_, hcond.1,
          isSign_readSign cs, hcond.2, fun c hc => List.mem_takeWhile_imp hc, ?_, ?_, ?_⟩
        · rw [← hrest, List.takeWhile_append_dropWhile, readSign_append]
        · rw [← hrest]
          exact endsRun_dropWhile _ _
        · rw [← hmarks]
          rfl
        · rw [← hvalue]
          rfl
      · exact absurd h (by simp)
  · intro hparts
    obtain ⟨e, sign, digits, rfl, he, hsign, hne, hdigits, hend, rfl, rfl⟩ := hparts
    simp only [readExponent?, readSign_sign_append_digits hsign hne hdigits,
      takeWhile_run hdigits hend, dropWhile_run hdigits hend]
    rw [if_pos ⟨he, hne⟩]
    rfl

theorem readExponent?_eq_none_of_head? (he : cs.head? ≠ some 'e') (hE : cs.head? ≠ some 'E') :
    readExponent? cs = none := by
  rw [Option.eq_none_iff_forall_ne_some]
  rintro ⟨marks, value, rest⟩ h
  obtain ⟨e, sign, digits, rfl, rfl | rfl, -⟩ := readExponent?_eq_some_iff.mp h
  · exact he rfl
  · exact hE rfl

theorem readExponent?_eq_none_of_endsRun (h : EndsRun Boundary.extendsNumber cs) :
    readExponent? cs = none :=
  readExponent?_eq_none_of_head? (Boundary.head?_ne_of_endsRun (by decide) h)
    (Boundary.head?_ne_of_endsRun (by decide) h)

/-! ## Plain digits

What stands behind a run of digits decides what they are. `PlainForm` lists the five ways, and
`readPlain?_eq_some_iff` says that `readPlain?` knows no other. -/

/-- The digits `whole`, with `tail` behind them, make this magnitude. -/
inductive PlainForm (whole : List Char) : List Char → Magnitude → Prop where
  | fraction {tail digits rest : List Char}
      (hfraction : readFraction? (!whole.isEmpty) tail = some (digits, rest))
      (hexponent : readExponent? rest = none) :
      PlainForm whole tail ⟨whole ++ '.' :: digits, rest, .decimal, .real whole digits 0⟩
  | fractionExponent {tail digits middle marks rest : List Char} {value : Int}
      (hfraction : readFraction? (!whole.isEmpty) tail = some (digits, middle))
      (hexponent : readExponent? middle = some (marks, value, rest)) :
      PlainForm whole tail
        ⟨whole ++ '.' :: digits ++ marks, rest, .decimal, .real whole digits value⟩
  | exponent {tail marks rest : List Char} {value : Int} (hne : whole ≠ [])
      (hfraction : readFraction? true tail = none)
      (hexponent : readExponent? tail = some (marks, value, rest)) :
      PlainForm whole tail ⟨whole ++ marks, rest, .decimal, .real whole [] value⟩
  | big {rest : List Char} (hne : whole ≠ []) (hzero : hasLeadingZero whole = false) :
      PlainForm whole ('n' :: rest) ⟨whole ++ ['n'], rest, .decimal, .big whole⟩
  | digits {tail : List Char} (hne : whole ≠ [])
      (hfraction : readFraction? true tail = none)
      (hexponent : readExponent? tail = none)
      (hsuffix : hasLeadingZero whole = true ∨ tail.head? ≠ some 'n') :
      PlainForm whole tail ⟨whole, tail, plainRadix whole, .whole whole⟩

theorem plainForm_of_readPlain? (h : readPlain? cs = some m) :
    PlainForm (cs.takeWhile isDecimalDigit) (cs.dropWhile isDecimalDigit) m := by
  unfold readPlain? at h
  dsimp only at h
  -- from here on the reader looks at the digits and at what stands behind them, and at nothing else
  generalize cs.takeWhile isDecimalDigit = whole at h ⊢
  generalize cs.dropWhile isDecimalDigit = tail at h ⊢
  cases hfraction : readFraction? (!whole.isEmpty) tail with
  | some found =>
    obtain ⟨digits, middle⟩ := found
    simp only [hfraction] at h
    cases hexponent : readExponent? middle with
    | some found =>
      obtain ⟨marks, value, rest⟩ := found
      simp only [hexponent] at h
      obtain rfl := Option.some.inj h
      exact .fractionExponent hfraction hexponent
    | none =>
      simp only [hexponent] at h
      obtain rfl := Option.some.inj h
      exact .fraction hfraction hexponent
  | none =>
    simp only [hfraction] at h
    split at h
    · exact absurd h (by simp)
    · rename_i hempty
      have hne : whole ≠ [] := by simpa using hempty
      rw [Bool.eq_false_iff.mpr hempty, Bool.not_false] at hfraction
      cases hexponent : readExponent? tail with
      | some found =>
        obtain ⟨marks, value, rest⟩ := found
        simp only [hexponent] at h
        obtain rfl := Option.some.inj h
        exact .exponent hne hfraction hexponent
      | none =>
        simp only [hexponent] at h
        split at h
        · rename_i hzero
          obtain rfl := Option.some.inj h
          exact .big hne hzero
        · rename_i hnot
          obtain rfl := Option.some.inj h
          refine .digits hne hfraction hexponent ?_
          cases hzero : hasLeadingZero whole with
          | true => exact Or.inl rfl
          | false =>
            refine Or.inr fun hhead => ?_
            obtain ⟨rest, hrest⟩ := List.head?_eq_some_iff.mp hhead
            exact hnot rest hzero hrest

theorem PlainForm.readPlain? {whole tail : List Char} (h : PlainForm whole tail m)
    (hwhole : ∀ c ∈ whole, isDecimalDigit c = true) (hend : EndsRun isDecimalDigit tail) :
    readPlain? (whole ++ tail) = some m := by
  unfold Magnitude.readPlain?
  simp only [takeWhile_run hwhole hend, dropWhile_run hwhole hend]
  cases h with
  | fraction hfraction hexponent => simp only [hfraction, hexponent]
  | fractionExponent hfraction hexponent => simp only [hfraction, hexponent]
  | exponent hne hfraction hexponent =>
    have hempty : whole.isEmpty = false := by simpa using hne
    simp only [hempty, Bool.not_false, hfraction, hexponent, Bool.false_eq_true, if_false]
  | @big rest hne hzero =>
    have hempty : whole.isEmpty = false := by simpa using hne
    have hfraction : readFraction? true ('n' :: rest) = none :=
      readFraction?_eq_none_of_head? (by simp)
    have hexponent : readExponent? ('n' :: rest) = none :=
      readExponent?_eq_none_of_head? (by simp) (by simp)
    simp only [hempty, Bool.not_false, hfraction, hexponent, hzero, Bool.false_eq_true, if_false]
  | digits hne hfraction hexponent hsuffix =>
    have hempty : whole.isEmpty = false := by simpa using hne
    simp only [hempty, Bool.not_false, hfraction, hexponent, Bool.false_eq_true, if_false]
    split
    · rename_i hzero
      rcases hsuffix with htrue | hhead
      · rw [hzero] at htrue
        exact absurd htrue (by simp)
      · exact absurd rfl hhead
    · rfl

/-- **Plain digits are read in one of five ways.** -/
theorem readPlain?_eq_some_iff : readPlain? cs = some m ↔
    ∃ whole tail, cs = whole ++ tail ∧ (∀ c ∈ whole, isDecimalDigit c = true) ∧
      EndsRun isDecimalDigit tail ∧ PlainForm whole tail m := by
  constructor
  · intro h
    exact ⟨cs.takeWhile isDecimalDigit, cs.dropWhile isDecimalDigit,
      List.takeWhile_append_dropWhile.symm, fun c hc => List.mem_takeWhile_imp hc,
      endsRun_dropWhile _ _, plainForm_of_readPlain? h⟩
  · intro hparts
    obtain ⟨whole, tail, rfl, hwhole, hend, hform⟩ := hparts
    exact hform.readPlain? hwhole hend

/-- A form of plain digits takes the digits and a part of what stands behind them. -/
theorem PlainForm.source_append {whole tail : List Char} (h : PlainForm whole tail m) :
    m.source ++ m.rest = whole ++ tail := by
  cases h with
  | fraction hfraction hexponent =>
    obtain ⟨rfl, -⟩ := readFraction?_eq_some_iff.mp hfraction
    simp
  | fractionExponent hfraction hexponent =>
    obtain ⟨rfl, -⟩ := readFraction?_eq_some_iff.mp hfraction
    obtain ⟨e, sign, digits, rfl, -, -, -, -, -, rfl, -⟩ := readExponent?_eq_some_iff.mp hexponent
    simp
  | exponent hne hfraction hexponent =>
    obtain ⟨e, sign, digits, rfl, -, -, -, -, -, rfl, -⟩ := readExponent?_eq_some_iff.mp hexponent
    simp
  | big hne hzero => simp
  | digits hne hfraction hexponent hsuffix => rfl

theorem PlainForm.source_ne_nil {whole tail : List Char} (h : PlainForm whole tail m) :
    m.source ≠ [] := by
  cases h with
  | fraction hfraction hexponent => simp
  | fractionExponent hfraction hexponent => simp
  | exponent hne hfraction hexponent => simp [hne]
  | big hne hzero => simp
  | digits hne hfraction hexponent hsuffix => exact hne

/-- Without digits in front only the two forms with a point are left. -/
theorem PlainForm.head?_of_nil {tail : List Char} (h : PlainForm [] tail m) :
    tail.head? = some '.' := by
  cases h with
  | fraction hfraction hexponent =>
    obtain ⟨rfl, -⟩ := readFraction?_eq_some_iff.mp hfraction
    rfl
  | fractionExponent hfraction hexponent =>
    obtain ⟨rfl, -⟩ := readFraction?_eq_some_iff.mp hfraction
    rfl
  | exponent hne => exact absurd rfl hne
  | big hne => exact absurd rfl hne
  | digits hne => exact absurd rfl hne

/-! ## Whole magnitudes

The three readers of a magnitude are tried in turn. `Form` says what each of them finds, so that a
proof about what has been read is a proof by cases on it. -/

/-- A text that begins with a magnitude, in each of the ways it can. -/
inductive Form : List Char → Magnitude → Prop where
  | infinity {rest : List Char} (hend : EndsRun isIdContinue rest) :
      Form (NumberValue.infinityText ++ rest) ⟨NumberValue.infinityText, rest, .decimal, .infinity⟩
  | nan {rest : List Char} (hend : EndsRun isIdContinue rest) :
      Form (NumberValue.nanText ++ rest) ⟨NumberValue.nanText, rest, .decimal, .nan⟩
  | marked {letter : Char} {radix : Radix} {digits rest : List Char}
      (hletter : Radix.ofLetter? letter = some radix) (hne : digits ≠ [])
      (hdigits : ∀ c ∈ digits, radix.isDigit c = true) (hend : EndsRun radix.isDigit rest) :
      Form ('0' :: letter :: (digits ++ rest)) (ofMarked letter radix digits rest)
  | plain {whole tail : List Char} {m : Magnitude}
      (hwhole : ∀ c ∈ whole, isDecimalDigit c = true) (hend : EndsRun isDecimalDigit tail)
      (hform : PlainForm whole tail m) : Form (whole ++ tail) m

/-- **What is read has one of the forms.** -/
theorem form_of_read? (h : read? cs = some m) : Form cs m := by
  rw [read?, Option.or_eq_some_iff, Option.or_eq_some_iff] at h
  rcases h with (hconstant | ⟨-, hmarked⟩) | ⟨-, hplain⟩
  · obtain ⟨rest, hend, ⟨rfl, rfl⟩ | ⟨rfl, rfl⟩⟩ := readConstant?_eq_some_iff.mp hconstant
    · exact .infinity hend
    · exact .nan hend
  · obtain ⟨letter, radix, digits, rest, rfl, hletter, hne, hdigits, hend, rfl⟩ :=
      readMarked?_eq_some_iff.mp hmarked
    exact .marked hletter hne hdigits hend
  · obtain ⟨whole, tail, rfl, hwhole, hend, hform⟩ := readPlain?_eq_some_iff.mp hplain
    exact .plain hwhole hend hform

/-- Digits begin no constant. -/
theorem readConstant?_digits_append {digits : List Char} {r : Radix} (hne : digits ≠ [])
    (hdigits : ∀ c ∈ digits, r.isDigit c = true) : readConstant? (digits ++ rest) = none := by
  cases digits with
  | nil => exact absurd rfl hne
  | cons d digits =>
    have hd : r.isDigit d = true := hdigits d List.mem_cons_self
    refine readConstant?_eq_none ?_ ?_
    · intro hhead
      obtain rfl : d = 'I' := by simpa using hhead
      exact absurd hd (by cases r <;> decide)
    · intro hhead
      obtain rfl : d = 'N' := by simpa using hhead
      exact absurd hd (by cases r <;> decide)

/-- Decimal digits mark no radix, unless the letter that would do so stands behind them. -/
theorem readMarked?_digits_append {digits : List Char} (hne : digits ≠ [])
    (hdigits : ∀ c ∈ digits, isDecimalDigit c = true)
    (hrest : ∀ c ∈ rest.head?, Radix.ofLetter? c = none) :
    readMarked? (digits ++ rest) = none := by
  cases digits with
  | nil => exact absurd rfl hne
  | cons d digits =>
    refine readMarked?_cons_eq_none fun c hc => ?_
    cases digits with
    | nil => exact hrest c hc
    | cons d' digits =>
      obtain rfl : d' = c := Option.some.inj hc
      exact Radix.ofLetter?_eq_none_of_isDigit (hdigits d' (by simp))

theorem read?_of_readConstant? (h : readConstant? cs = some m) : read? cs = some m := by
  rw [read?, h]
  rfl

theorem read?_of_readMarked? (h : readMarked? cs = some m) : read? cs = some m := by
  have hconstant : readConstant? cs = none := by
    obtain ⟨letter, radix, digits, rest, rfl, -⟩ := readMarked?_eq_some_iff.mp h
    exact readConstant?_eq_none (by simp) (by simp)
  rw [read?, hconstant, h]
  rfl

/-- Plain digits whose end is known are read as their form says. -/
theorem read?_of_plainForm {whole tail : List Char} (hform : PlainForm whole tail m)
    (hwhole : ∀ c ∈ whole, isDecimalDigit c = true) (hend : EndsRun isDecimalDigit tail)
    (htail : ∀ c ∈ tail.head?, Radix.ofLetter? c = none) : read? (whole ++ tail) = some m := by
  have hothers : readConstant? (whole ++ tail) = none ∧ readMarked? (whole ++ tail) = none := by
    by_cases hne : whole = []
    · subst hne
      have hpoint := hform.head?_of_nil
      rw [List.nil_append]
      exact ⟨readConstant?_eq_none (by simp [hpoint]) (by simp [hpoint]),
        readMarked?_eq_none_of_head? (by simp [hpoint])⟩
    · exact ⟨readConstant?_digits_append (r := .decimal) hne hwhole,
        readMarked?_digits_append hne hwhole htail⟩
  rw [read?, hothers.1, hothers.2, hform.readPlain? hwhole hend]
  rfl

/-- **A magnitude is what stands first in the text, and it is not empty.** -/
theorem source_append_of_read? (h : read? cs = some m) :
    cs = m.source ++ m.rest ∧ m.source ≠ [] := by
  cases form_of_read? h with
  | infinity hend => exact ⟨rfl, by simp [NumberValue.infinityText]⟩
  | nan hend => exact ⟨rfl, by simp [NumberValue.nanText]⟩
  | marked hletter hne hdigits hend =>
    refine ⟨(ofMarked_source_append _ _ _ _).symm, ?_⟩
    unfold ofMarked
    split <;> simp
  | plain hwhole hend hform => exact ⟨hform.source_append.symm, hform.source_ne_nil⟩

/-- **A magnitude begins with a digit, a point or a constant**, so it begins with no sign. -/
theorem head?_of_read? (h : read? cs = some m) :
    ∃ c ∈ cs.head?, isDecimalDigit c = true ∨ c = '.' ∨ c = 'I' ∨ c = 'N' := by
  cases form_of_read? h with
  | infinity hend => exact ⟨'I', rfl, by simp⟩
  | nan hend => exact ⟨'N', rfl, by simp⟩
  | marked hletter hne hdigits hend => exact ⟨'0', rfl, Or.inl rfl⟩
  | @plain whole tail m hwhole hend hform =>
    cases whole with
    | cons d whole => exact ⟨d, rfl, Or.inl (hwhole d List.mem_cons_self)⟩
    | nil => exact ⟨'.', hform.head?_of_nil, by simp⟩

/-- A sign in front of a magnitude is read as that sign. -/
theorem readSign_append_of_read? {sign : List Char} (hsign : IsSign sign)
    (h : read? cs = some m) : readSign (sign ++ cs) = (sign, cs) := by
  obtain ⟨c, hc, hhead⟩ := head?_of_read? h
  refine readSign_sign_append hsign ?_ ?_
  · intro hplus
    obtain rfl : c = '+' := Option.some.inj (hc.symm.trans hplus)
    exact absurd hhead (by decide)
  · intro hminus
    obtain rfl : c = '-' := Option.some.inj (hc.symm.trans hminus)
    exact absurd hhead (by decide)

/-- Digits in front of the suffix of a big integer have a value. -/
theorem exists_value_big {r : Radix} {digits : List Char} (hne : digits ≠ [])
    (hdigits : ∀ c ∈ digits, r.isDigit c = true) :
    ∃ value, Numeral.value r (.big digits) = .ok value := by
  have hread : r.readDigits? digits = some (r.valueOf digits) :=
    Radix.readDigits?_eq_some_iff.mpr ⟨hne, hdigits, rfl⟩
  exact ⟨.bigint (r.valueOf digits), by rw [Numeral.value, hread]⟩

/-- **What is read has a value.** The reader knows an error for the digits of a big integer, but no
text leads to it. -/
theorem exists_value_of_read? (h : read? cs = some m) :
    ∃ value, m.numeral.value m.radix = .ok value := by
  cases form_of_read? h with
  | infinity hend => exact ⟨_, rfl⟩
  | nan hend => exact ⟨_, rfl⟩
  | marked hletter hne hdigits hend =>
    unfold ofMarked
    split
    · exact exists_value_big hne hdigits
    · exact ⟨_, rfl⟩
  | plain hwhole hend hform =>
    cases hform with
    | big hne => exact exists_value_big hne hwhole
    | fraction | fractionExponent | exponent | digits => exact ⟨_, rfl⟩

end Magnitude

namespace Number

variable {cs : List Char}

theorem read_eq_ok_iff {found : Lexeme NumberValue Radix} : read cs = .ok found ↔
    ∃ m value, Magnitude.read? (Magnitude.readSign cs).2 = some m ∧
      m.numeral.value m.radix = .ok value ∧
      found = ⟨(Magnitude.readSign cs).1 ++ m.source, m.rest,
        if (Magnitude.readSign cs).1 = ['-'] then value.neg else value, m.radix⟩ := by
  unfold read
  dsimp only
  cases hm : Magnitude.read? (Magnitude.readSign cs).2 with
  | none => simp
  | some m =>
    obtain ⟨value, hvalue⟩ := Magnitude.exists_value_of_read? hm
    simp only [hvalue, Except.ok.injEq]
    constructor
    · rintro rfl
      exact ⟨m, value, rfl, hvalue, rfl⟩
    · intro h
      obtain ⟨m', value', hm', hvalue', rfl⟩ := h
      obtain rfl := Option.some.inj hm'
      rw [hvalue] at hvalue'
      obtain rfl := Except.ok.inj hvalue'
      rfl

/-- A text that is no number is just that: the reader has no other fault to find. -/
theorem read_eq_error_iff {miss : Miss} : read cs = .error miss ↔
    miss = .noMatch ∧ Magnitude.read? (Magnitude.readSign cs).2 = none := by
  unfold read
  dsimp only
  cases hm : Magnitude.read? (Magnitude.readSign cs).2 with
  | none => simp [eq_comm]
  | some m =>
    obtain ⟨value, hvalue⟩ := Magnitude.exists_value_of_read? hm
    simp [hvalue]

end Number

end ScriptLiterals
