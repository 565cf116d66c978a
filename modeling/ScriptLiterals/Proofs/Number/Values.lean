import Mathlib.Data.List.Induction
import Mathlib.Data.Nat.Digits.Defs
import ScriptLiterals.Proofs.Number.Readers

/-!
# What number literals denote

`Denotes` gives the meaning of a number literal by rules on its text. It is independent of the
reader: the number that digits denote is `Nat.ofDigits` of their values, in the radix that is
reported, and which rule applies is decided by the marks around the digits, the sign, and whether
the number fits 64 bits. No two rules give one text different values (`Denotes.unique`).

The reader takes four decisions at four places (the form, the radix, the integer that fits or does
not, the sign that is applied last), and the main statement says that together they come to these
rules: a literal with digits, however many and with however many zeros in front, has exactly the
value that its digits denote.

The sign is applied to a value that is already there, so a minus could overflow. It cannot, because
digits are read as an integer only below 2^63 (`wholeValue_cases`).
-/

set_option autoImplicit false

namespace ScriptLiterals

open Text

variable {r : Radix} {digits text cs : List Char}

/-! ## Digits -/

namespace Radix

/-- The number that digits denote by their places. -/
def number (r : Radix) (digits : List Char) : Nat :=
  Nat.ofDigits r.base (digits.reverse.filterMap r.digit?)

theorem number_concat {c : Char} {d : Nat} (hc : r.digit? c = some d) (digits : List Char) :
    r.number (digits ++ [c]) = r.number digits * r.base + d := by
  unfold number
  rw [List.reverse_append, List.reverse_singleton, List.singleton_append,
    List.filterMap_cons_some hc, Nat.ofDigits_cons]
  ring

/-- **Reading digits from the left gives the number of their places.** -/
theorem valueOf_eq_number (h : ∀ c ∈ digits, r.isDigit c = true) :
    r.valueOf digits = r.number digits := by
  induction digits using List.reverseRecOn with
  | nil => rfl
  | append_singleton digits c ih =>
    obtain ⟨d, hd⟩ := Option.isSome_iff_exists.mp (h c (by simp))
    rw [valueOf_concat, number_concat hd, hd, ih fun c' hc' => h c' (by simp [hc'])]
    rfl

end Radix

namespace Number

open Magnitude

/-- The text of a whole number in a radix: its digits, behind a zero and a letter or alone. Digits
that stand alone are octal or decimal, which their first digit and the others decide. -/
structure IsWhole (r : Radix) (digits text : List Char) : Prop where
  ne_nil : digits ≠ []
  isDigit : ∀ c ∈ digits, r.isDigit c = true
  form : (∃ letter ∈ r.letters, text = '0' :: letter :: digits) ∨
    (text = digits ∧ plainRadix digits = r)

/-- The integer with the given sign and magnitude. -/
def signed (minus : Bool) (n : Nat) : Int := if minus then -n else n

/-- The value of a whole number without a suffix, behind a minus or not. -/
inductive IsWholeValue (minus : Bool) (n : Nat) : NumberValue → Prop where
  | integer {i : Int64} (hfits : n < 2 ^ 63) (hsign : minus = true → n ≠ 0)
      (hi : i.toInt = signed minus n) : IsWholeValue minus n (.integer i)
  | negativeZero (hminus : minus = true) (hzero : n = 0) :
      IsWholeValue minus n (.float (.signedZero true))
  | large {x : Double} (hlarge : 2 ^ 63 ≤ n) : IsWholeValue minus n (.float x)

/-- **The meaning of a literal with digits**, its sign taken off: `Denotes minus text r v` says that
`text`, behind a minus or not, is written in the radix `r` and stands for `v`. -/
inductive Denotes (minus : Bool) : List Char → Radix → NumberValue → Prop where
  | big {r : Radix} {digits text : List Char} (htext : IsWhole r digits text) :
      Denotes minus (text ++ ['n']) r (.bigint (signed minus (r.number digits)))
  | whole {r : Radix} {digits text : List Char} {v : NumberValue} (htext : IsWhole r digits text)
      (hvalue : IsWholeValue minus (r.number digits) v) : Denotes minus text r v
  | real {before tail : List Char} {c : Char} {x : Double}
      (hbefore : ∀ d ∈ before, isDecimalDigit d = true) (hc : c = '.' ∨ c = 'e' ∨ c = 'E')
      (hsuffix : 'n' ∉ tail) : Denotes minus (before ++ c :: tail) .decimal (.float x)

/-! ## The rules do not overlap -/

theorem isDecimalDigit_of_plain (htext : IsWhole r digits text) (hplain : plainRadix digits = r) :
    ∀ c ∈ digits, isDecimalDigit c = true := by
  have hdigits := htext.isDigit
  rw [← hplain] at hdigits
  unfold plainRadix at hdigits
  split at hdigits
  · exact fun c hc => Radix.isDigit_decimal_of_octal (hdigits c hc)
  · exact hdigits

theorem not_isDecimalDigit_of_letter {letter : Char} (h : letter ∈ r.letters) :
    isDecimalDigit letter = false := by
  have hall : r.letters.all (fun c => !isDecimalDigit c) = true := by cases r <;> decide
  exact (Bool.not_eq_true' _).mp (List.all_eq_true.mp hall letter h)

theorem isDecimalDigit_ne {c d : Char} (hc : isDecimalDigit c = true)
    (hd : isDecimalDigit d = false) : c ≠ d := by
  rintro rfl
  rw [hc] at hd
  exact absurd hd (by simp)

/-- The text of a whole number has one radix and one sequence of digits. -/
theorem IsWhole.unique {r' : Radix} {digits' : List Char} (h : IsWhole r digits text)
    (h' : IsWhole r' digits' text) : r = r' ∧ digits = digits' := by
  have hmixed : ∀ {s s' : Radix} {ds ds' : List Char} {letter : Char}, letter ∈ s.letters →
      IsWhole s' ds' text → text = '0' :: letter :: ds → ¬(text = ds' ∧ plainRadix ds' = s') := by
    rintro s s' ds ds' letter hletter hwhole rfl ⟨rfl, hplain⟩
    have hdigit := isDecimalDigit_of_plain hwhole hplain letter (by simp)
    exact isDecimalDigit_ne hdigit (not_isDecimalDigit_of_letter hletter) rfl
  rcases h.form with ⟨letter, hletter, hmarked⟩ | hplain
  · rcases h'.form with ⟨letter', hletter', hmarked'⟩ | hplain'
    · obtain ⟨-, hrest⟩ := List.cons.inj (hmarked.symm.trans hmarked')
      obtain ⟨rfl, rfl⟩ := List.cons.inj hrest
      have hr := Radix.ofLetter?_eq_some_iff.mpr hletter
      rw [Radix.ofLetter?_eq_some_iff.mpr hletter'] at hr
      exact ⟨(Option.some.inj hr).symm, rfl⟩
    · exact absurd hplain' (hmixed hletter h' hmarked)
  · rcases h'.form with ⟨letter', hletter', hmarked'⟩ | hplain'
    · exact absurd hplain (hmixed hletter' h hmarked')
    · obtain ⟨rfl, rfl⟩ := hplain
      obtain ⟨rfl, rfl⟩ := hplain'
      exact ⟨rfl, rfl⟩

theorem IsWhole.suffix_notMem (h : IsWhole r digits text) : 'n' ∉ text := by
  have hdigits : 'n' ∉ digits := by
    intro hmem
    have hdigit : r.isDigit 'n' = false := by cases r <;> decide
    rw [h.isDigit 'n' hmem] at hdigit
    exact absurd hdigit (by simp)
  rcases h.form with ⟨letter, hletter, rfl⟩ | ⟨rfl, -⟩
  · have hmark : 'n' ≠ letter := by
      rintro rfl
      cases r <;> exact absurd hletter (by decide)
    simp [hmark, hdigits]
  · exact hdigits

/-- A point or an exponent behind decimal digits is in no whole number. -/
theorem IsWhole.ne_real {before tail : List Char} {c : Char} (h : IsWhole r digits text)
    (hbefore : ∀ d ∈ before, isDecimalDigit d = true) (hc : c = '.' ∨ c = 'e' ∨ c = 'E') :
    text ≠ before ++ c :: tail := by
  rintro rfl
  have hnone : isDecimalDigit c = false := by
    rcases hc with rfl | rfl | rfl <;> decide
  rcases h.form with ⟨letter, hletter, hmarked⟩ | ⟨hplain, hradix⟩
  · have hletterNone := not_isDecimalDigit_of_letter hletter
    -- the point or the exponent would stand where the zero or the letter does, or behind the letter
    match before with
    | [] =>
      obtain ⟨hzero, -⟩ := List.cons.inj hmarked
      rw [hzero] at hnone
      exact absurd hnone (by decide)
    | [d] =>
      obtain ⟨-, hrest⟩ := List.cons.inj hmarked
      obtain ⟨rfl, -⟩ := List.cons.inj hrest
      have hmarks : r.letters.all (fun l => l != '.' && l != 'e' && l != 'E') = true := by
        cases r <;> decide
      have hother := List.all_eq_true.mp hmarks c hletter
      rcases hc with rfl | rfl | rfl <;> exact absurd hother (by decide)
    | d :: d' :: before =>
      obtain ⟨-, hrest⟩ := List.cons.inj hmarked
      obtain ⟨hsame, -⟩ := List.cons.inj hrest
      exact isDecimalDigit_ne (hbefore d' (by simp)) hletterNone hsame
  · rw [← hplain] at h hradix
    exact isDecimalDigit_ne (isDecimalDigit_of_plain h hradix c (by simp)) hnone rfl

theorem real_ne_suffixed {before tail body : List Char} {c : Char}
    (hc : c = '.' ∨ c = 'e' ∨ c = 'E') (hsuffix : 'n' ∉ tail) :
    before ++ c :: tail ≠ body ++ ['n'] := by
  intro h
  have hlast : (c :: tail).getLast? = some 'n' := by
    have := congrArg List.getLast? h
    simpa using this
  have hmem : 'n' ∈ c :: tail := List.mem_of_getLast? hlast
  rcases List.mem_cons.mp hmem with hmark | htail
  · rcases hc with rfl | rfl | rfl <;> exact absurd hmark (by decide)
  · exact hsuffix htail

theorem IsWholeValue.unique {minus : Bool} {n : Nat} {v v' : NumberValue}
    (h : IsWholeValue minus n v) (h' : IsWholeValue minus n v') :
    v = v' ∨ ∃ x y, v = .float x ∧ v' = .float y := by
  cases h with
  | integer hfits hsign hi =>
    cases h' with
    | integer _ _ hi' =>
      obtain rfl := Int64.toInt_inj.mp (hi.trans hi'.symm)
      exact Or.inl rfl
    | negativeZero hminus hzero => exact absurd hzero (hsign hminus)
    | large hlarge => exact absurd hfits (Nat.not_lt_of_le hlarge)
  | negativeZero hminus hzero =>
    cases h' with
    | integer _ hsign _ => exact absurd hzero (hsign hminus)
    | negativeZero => exact Or.inl rfl
    | large hlarge => exact Or.inr ⟨_, _, rfl, rfl⟩
  | large hlarge =>
    cases h' with
    | integer hfits _ _ => exact absurd hfits (Nat.not_lt_of_le hlarge)
    | negativeZero => exact Or.inr ⟨_, _, rfl, rfl⟩
    | large => exact Or.inr ⟨_, _, rfl, rfl⟩

/-- **A text has one radix and one value**, as far as values other than floats go. -/
theorem Denotes.unique {minus : Bool} {r' : Radix} {v v' : NumberValue}
    (h : Denotes minus text r v) (h' : Denotes minus text r' v') :
    r = r' ∧ (v = v' ∨ ∃ x y, v = .float x ∧ v' = .float y) := by
  cases h with
  | big htext =>
    generalize hsource : _ ++ ['n'] = source at h'
    cases h' with
    | big htext' =>
      obtain rfl := List.append_cancel_right hsource
      obtain ⟨rfl, rfl⟩ := htext.unique htext'
      exact ⟨rfl, Or.inl rfl⟩
    | whole htext' _ => exact absurd (by simp [← hsource]) htext'.suffix_notMem
    | real hbefore hc hsuffix => exact absurd hsource.symm (real_ne_suffixed hc hsuffix)
  | whole htext hvalue =>
    generalize hsource : text = source at h'
    cases h' with
    | big _ => exact absurd (by simp [hsource]) htext.suffix_notMem
    | whole htext' hvalue' =>
      subst hsource
      obtain ⟨rfl, rfl⟩ := htext.unique htext'
      exact ⟨rfl, hvalue.unique hvalue'⟩
    | real hbefore hc _ => exact absurd hsource (htext.ne_real hbefore hc)
  | real hbefore hc hsuffix =>
    generalize hsource : _ ++ _ :: _ = source at h'
    cases h' with
    | big _ => exact absurd hsource (real_ne_suffixed hc hsuffix)
    | whole htext' _ => exact absurd hsource.symm (htext'.ne_real hbefore hc)
    | real _ _ _ => exact ⟨rfl, Or.inr ⟨_, _, rfl, rfl⟩⟩

/-! ## Whole numbers -/

theorem toInt_neg_of_nonneg {n : Int64} (h : 0 ≤ n.toInt) : (-n).toInt = -n.toInt := by
  have hlt := n.toInt_lt
  rw [Int64.toInt_neg, Int.bmod]
  split <;> omega

/-- Digits are read as an integer below 2^63 and as a float from there on. -/
theorem wholeValue_cases (r : Radix) (digits : List Char) :
    (r.valueOf digits < 2 ^ 63 ∧
      ∃ n : Int64, Numeral.wholeValue r digits = .integer n ∧ n.toInt = r.valueOf digits) ∨
    (2 ^ 63 ≤ r.valueOf digits ∧ ∃ x, Numeral.wholeValue r digits = .float x) := by
  unfold Numeral.wholeValue
  dsimp only
  split_ifs with hfits hdecimal
  · exact Or.inl ⟨hfits, _, rfl, Int64.toInt_ofNat_of_lt hfits⟩
  · exact Or.inr ⟨Nat.le_of_not_lt hfits, _, rfl⟩
  · exact Or.inr ⟨Nat.le_of_not_lt hfits, _, rfl⟩

/-- **A whole number denotes what its digits do, whichever sign is put in front of it.** -/
theorem denotes_wholeValue (minus : Bool) (htext : IsWhole r digits text) :
    Denotes minus text r (if minus then (Numeral.wholeValue r digits).neg
      else Numeral.wholeValue r digits) := by
  have hcases := wholeValue_cases r digits
  rw [Radix.valueOf_eq_number htext.isDigit] at hcases
  rcases hcases with ⟨hfits, n, hvalue, hn⟩ | ⟨hlarge, x, hvalue⟩
  · rw [hvalue]
    cases minus with
    | false => exact .whole htext (.integer hfits (by simp) hn)
    | true =>
      show Denotes true text r (NumberValue.neg (.integer n))
      rw [NumberValue.neg]
      by_cases hzero : n = 0
      · subst hzero
        rw [if_pos rfl]
        exact .whole htext (.negativeZero rfl (Int.natCast_eq_zero.mp hn.symm))
      · rw [if_neg hzero]
        have hne : r.number digits ≠ 0 := by
          intro hnone
          rw [hnone] at hn
          exact hzero (Int64.toInt_inj.mp hn)
        refine .whole htext (.integer hfits (fun _ => hne) ?_)
        rw [toInt_neg_of_nonneg (by omega), hn]
        rfl
  · rw [hvalue]
    cases minus with
    | false => exact .whole htext (.large hlarge)
    | true => exact .whole htext (.large hlarge)

theorem value_big (htext : IsWhole r digits text) :
    Numeral.value r (.big digits) = .ok (.bigint (r.number digits)) := by
  have hread : r.readDigits? digits = some (r.number digits) :=
    Radix.readDigits?_eq_some_iff.mpr
      ⟨htext.ne_nil, htext.isDigit, Radix.valueOf_eq_number htext.isDigit⟩
  rw [Numeral.value, hread]

theorem denotes_big (minus : Bool) (htext : IsWhole r digits text) :
    Denotes minus (text ++ ['n']) r (if minus then (NumberValue.bigint (r.number digits)).neg
      else .bigint (r.number digits)) := by
  have hdenotes : Denotes minus (text ++ ['n']) r _ := .big htext
  cases minus with
  | false => exact hdenotes
  | true => exact hdenotes

/-! ## Magnitudes -/

/-- A marked radix that is read is a whole number, a big one if the suffix stands behind it. -/
theorem denotes_of_marked {letter : Char} {rest : List Char} {value : NumberValue} (minus : Bool)
    (hletter : Radix.ofLetter? letter = some r) (hne : digits ≠ [])
    (hdigits : ∀ c ∈ digits, r.isDigit c = true)
    (hvalue : (ofMarked letter r digits rest).numeral.value
      (ofMarked letter r digits rest).radix = .ok value) :
    Denotes minus (ofMarked letter r digits rest).source (ofMarked letter r digits rest).radix
      (if minus then value.neg else value) := by
  have htext : IsWhole r digits ('0' :: letter :: digits) :=
    ⟨hne, hdigits, Or.inl ⟨letter, Radix.ofLetter?_eq_some_iff.mp hletter, rfl⟩⟩
  unfold ofMarked at hvalue ⊢
  split at hvalue
  · dsimp only at hvalue ⊢
    rw [value_big htext] at hvalue
    obtain rfl := Except.ok.inj hvalue
    exact denotes_big minus htext
  · obtain rfl := Except.ok.inj hvalue
    exact denotes_wholeValue minus htext

/-- Alone, digits without a leading zero that belongs to them are decimal. -/
theorem isWhole_plain (hne : digits ≠ []) (hdigits : ∀ c ∈ digits, isDecimalDigit c = true) :
    IsWhole (plainRadix digits) digits digits := by
  refine ⟨hne, ?_, Or.inr ⟨rfl, rfl⟩⟩
  unfold plainRadix
  split
  · rename_i hoctal
    exact List.all_eq_true.mp (Bool.and_eq_true_iff.mp hoctal).2
  · exact hdigits

theorem suffix_notMem (hdigits : ∀ c ∈ digits, isDecimalDigit c = true) : 'n' ∉ digits := by
  intro hmem
  exact absurd (hdigits 'n' hmem) (by decide)

theorem suffix_notMem_of_readExponent? {marks rest : List Char} {value : Int}
    (h : readExponent? cs = some (marks, value, rest)) : 'n' ∉ marks := by
  obtain ⟨e, sign, run, -, he, hsign, -, hrun, -, rfl, -⟩ := readExponent?_eq_some_iff.mp h
  have hsignless : 'n' ∉ sign := by
    rcases hsign with rfl | rfl | rfl <;> simp
  have hmark : 'n' ≠ e := by
    rcases he with rfl | rfl <;> decide
  simp [hmark, hsignless, suffix_notMem hrun]

/-- A value with a fraction or an exponent is a float behind either sign. -/
theorem denotes_real {whole tail : List Char} {c : Char} (minus : Bool) (x : Double)
    (hwhole : ∀ d ∈ whole, isDecimalDigit d = true) (hc : c = '.' ∨ c = 'e' ∨ c = 'E')
    (hsuffix : 'n' ∉ tail) : Denotes minus (whole ++ c :: tail) .decimal
      (if minus then (NumberValue.float x).neg else .float x) := by
  cases minus with
  | false => exact .real hwhole hc hsuffix
  | true => exact .real hwhole hc hsuffix

theorem denotes_of_plainForm {tail : List Char} {m : Magnitude} {value : NumberValue} (minus : Bool)
    (hdigits : ∀ c ∈ digits, isDecimalDigit c = true) (hform : PlainForm digits tail m)
    (hvalue : m.numeral.value m.radix = .ok value) :
    Denotes minus m.source m.radix (if minus then value.neg else value) := by
  cases hform with
  | fraction hfraction hexponent =>
    obtain ⟨-, hbehind, -⟩ := readFraction?_eq_some_iff.mp hfraction
    obtain rfl := Except.ok.inj hvalue
    exact denotes_real minus _ hdigits (by simp) (suffix_notMem hbehind)
  | fractionExponent hfraction hexponent =>
    obtain ⟨-, hbehind, -⟩ := readFraction?_eq_some_iff.mp hfraction
    obtain rfl := Except.ok.inj hvalue
    rw [List.append_assoc, List.cons_append]
    apply denotes_real minus _ hdigits (by simp)
    simp [suffix_notMem hbehind, suffix_notMem_of_readExponent? hexponent]
  | exponent hne hfraction hexponent =>
    have hmarks := suffix_notMem_of_readExponent? hexponent
    obtain ⟨e, sign, run, -, he, -, -, -, -, rfl, -⟩ := readExponent?_eq_some_iff.mp hexponent
    obtain rfl := Except.ok.inj hvalue
    exact denotes_real minus _ hdigits (Or.inr he)
      (fun hmem => hmarks (List.mem_cons_of_mem e hmem))
  | big hne hzero =>
    have hplain : plainRadix digits = .decimal := by
      rw [plainRadix, hzero]
      rfl
    have htext := isWhole_plain hne hdigits
    rw [hplain] at htext
    rw [value_big htext] at hvalue
    obtain rfl := Except.ok.inj hvalue
    exact denotes_big minus htext
  | digits hne hfraction hexponent hsuffix =>
    obtain rfl := Except.ok.inj hvalue
    exact denotes_wholeValue minus (isWhole_plain hne hdigits)

/-- **What is read is a constant or denotes its value.** -/
theorem denotes_of_read? {m : Magnitude} {value : NumberValue} (minus : Bool)
    (h : read? cs = some m) (hvalue : m.numeral.value m.radix = .ok value) :
    (m.source = NumberValue.infinityText ∨ m.source = NumberValue.nanText) ∨
      Denotes minus m.source m.radix (if minus then value.neg else value) := by
  cases form_of_read? h with
  | infinity hend => exact Or.inl (Or.inl rfl)
  | nan hend => exact Or.inl (Or.inr rfl)
  | marked hletter hne hdigits hend =>
    exact Or.inr (denotes_of_marked minus hletter hne hdigits hvalue)
  | plain hwhole hend hform => exact Or.inr (denotes_of_plainForm minus hwhole hform hvalue)

/-- An integer comes from digits, so it is not negative before its sign is put to it. -/
theorem nonneg_of_value {numeral : Numeral} {n : Int64}
    (h : numeral.value r = .ok (.integer n)) : 0 ≤ n.toInt := by
  cases numeral with
  | whole digits =>
    have hvalue : Numeral.wholeValue r digits = .integer n := Except.ok.inj h
    rcases wholeValue_cases r digits with ⟨-, n', hvalue', hn'⟩ | ⟨-, x, hvalue'⟩
    · obtain rfl := NumberValue.integer.inj (hvalue.symm.trans hvalue')
      omega
    · exact absurd (hvalue.symm.trans hvalue') (by simp)
  | big digits =>
    rw [Numeral.value] at h
    split at h <;> exact absurd h (by simp)
  | nan | infinity | real => exact absurd h (by simp [Numeral.value])

/-- **Number literals are exact.** A text is never refused for the digits of a big integer, changing
the sign of an integer that was read never overflows, and a literal that is found is a constant or
denotes its value in its radix, behind its sign. -/
theorem scanHead_denotes (input : List Char) :
    (∀ feature, recognizer.scanHead input ≠ .error (.unsupported .number feature)) ∧
    (∀ m n, read? (readSign (skipBlank input)).2 = some m →
      m.numeral.value m.radix = .ok (.integer n) → (-n).toInt = -n.toInt) ∧
    ∀ t, recognizer.scanHead input = .ok t → ∃ sign text, IsSign sign ∧ t.source = sign ++ text ∧
      ((text = NumberValue.infinityText ∨ text = NumberValue.nanText) ∨
        Denotes (sign == ['-']) text t.detail t.value) := by
  refine ⟨?_, ?_, ?_⟩
  · intro feature herror
    obtain ⟨miss, hmiss, heq⟩ := Recognizer.scanHead_eq_error_iff.mp herror
    obtain ⟨rfl, -⟩ := read_eq_error_iff.mp hmiss
    exact absurd heq (by simp [Miss.toError])
  · intro m n _ hvalue
    exact toInt_neg_of_nonneg (nonneg_of_value hvalue)
  · intro t ht
    obtain ⟨found, hread, rfl⟩ := Recognizer.scanHead_eq_ok_iff.mp ht
    obtain ⟨m, value, hm, hvalue, rfl⟩ := read_eq_ok_iff.mp hread
    refine ⟨_, m.source, isSign_readSign (skipBlank input), rfl, ?_⟩
    have hdenotes := denotes_of_read? ((readSign (skipBlank input)).1 == ['-']) hm hvalue
    simp only [beq_iff_eq] at hdenotes
    exact hdenotes

/-- The magnitude of the least integer but one, in octal, behind a minus and a zero too many. -/
theorem scanHead_denotes_octal :
    read? (readSign (skipBlank " -0o0777777777777777777777,".toList)).2 =
        some ⟨"0o0777777777777777777777".toList, [','], .octal,
          .whole "0777777777777777777777".toList⟩ ∧
      Numeral.value .octal (.whole "0777777777777777777777".toList) =
        .ok (.integer Int64.maxValue) ∧
      (-Int64.maxValue).toInt = -Int64.maxValue.toInt ∧
      recognizer.scanHead " -0o0777777777777777777777,".toList =
        .ok ⟨"-0o0777777777777777777777".toList, 1, 1, .integer (-Int64.maxValue), .octal⟩ ∧
      ∃ sign text, IsSign sign ∧ "-0o0777777777777777777777".toList = sign ++ text ∧
        ((text = NumberValue.infinityText ∨ text = NumberValue.nanText) ∨
          Denotes (sign == ['-']) text .octal (.integer (-Int64.maxValue))) := by
  obtain ⟨-, hsign, hdenotes⟩ := scanHead_denotes " -0o0777777777777777777777,".toList
  have hread : read? (readSign (skipBlank " -0o0777777777777777777777,".toList)).2 =
      some ⟨"0o0777777777777777777777".toList, [','], .octal,
        .whole "0777777777777777777777".toList⟩ := rfl
  have hvalue : Numeral.value .octal (.whole "0777777777777777777777".toList) =
      .ok (.integer Int64.maxValue) := rfl
  have hscan : recognizer.scanHead " -0o0777777777777777777777,".toList =
      .ok ⟨"-0o0777777777777777777777".toList, 1, 1, .integer (-Int64.maxValue), .octal⟩ := rfl
  exact ⟨hread, hvalue, hsign _ _ hread hvalue, hscan, hdenotes _ hscan⟩

end Number

end ScriptLiterals
