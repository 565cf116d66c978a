import ScriptLiterals.Proofs.Number.Readers

/-!
# Printed numbers read back

A printed number is a sign, the mark of a radix, digits and, for a big integer, a suffix. Each of
these has a branch of the reader that must take it and others that must not: the constants, the
marked radices, and plain digits, which may turn out octal. `Magnitude.read?_whole` and
`Magnitude.read?_big` say which branch takes what, for numbers of any size; the digits themselves are
inverted by `Radix.valueOf_writeDigits`.

One value does not come back as itself. The magnitude of the least 64-bit integer does not fit 64
bits, so reading it gives a double (`NumberValue.reread`). The double is exact, which is why even
this value comes back numerically equal (`NumberValue.numEq_reread`).
-/

set_option autoImplicit false

namespace ScriptLiterals

open Text

variable {rest : List Char}

/-! ## The magnitudes of printed numbers -/

namespace Radix

/-- The part of the mark that is read as a digit, which is the legacy octal zero. -/
def legacyZero : Radix → List Char
  | .octal => ['0']
  | _ => []

/-- A zero in front of digits does not change their value. -/
theorem valueOf_zero_cons (r : Radix) (digits : List Char) :
    r.valueOf ('0' :: digits) = r.valueOf digits := valueOf_zeros_append 1 digits

theorem valueOf_legacyZero_append (r : Radix) (digits : List Char) :
    r.valueOf (r.legacyZero ++ digits) = r.valueOf digits := by
  cases r with
  | octal => exact valueOf_zero_cons _ digits
  | binary | decimal | hexadecimal => rfl

end Radix

namespace Magnitude

theorem hasLeadingZero_writeDigits (r : Radix) (n : Nat) :
    hasLeadingZero (r.writeDigits n) = false := by
  by_cases hn : n = 0
  · rw [hn, Radix.writeDigits_of_lt r.base_pos]
    rfl
  · have hhead := Radix.head?_writeDigits_ne_zero (r := r) hn
    unfold hasLeadingZero
    split
    · rename_i hdigits
      rw [hdigits] at hhead
      exact absurd rfl hhead
    · rfl

/-- Decimal digits that nothing goes on with are a whole number. -/
theorem read?_digits_append {whole : List Char} (hne : whole ≠ [])
    (hwhole : ∀ c ∈ whole, isDecimalDigit c = true) (hrest : EndsRun Boundary.extendsNumber rest) :
    read? (whole ++ rest) = some ⟨whole, rest, plainRadix whole, .whole whole⟩ := by
  have hsuffix := Boundary.head?_ne_of_endsRun (c := 'n') (by decide) hrest
  have hdigits : PlainForm whole rest ⟨whole, rest, plainRadix whole, .whole whole⟩ :=
    .digits hne (readFraction?_eq_none_of_endsRun hrest) (readExponent?_eq_none_of_endsRun hrest)
      (Or.inr hsuffix)
  exact read?_of_plainForm hdigits hwhole (Boundary.endsRun_isDigit .decimal hrest)
    (Boundary.ofLetter?_eq_none_of_endsRun hrest)

/-- So are the digits of a marked radix. -/
theorem read?_marked_append {letter : Char} {r : Radix} {digits : List Char}
    (hletter : Radix.ofLetter? letter = some r) (hne : digits ≠ [])
    (hdigits : ∀ c ∈ digits, r.isDigit c = true) (hrest : EndsRun Boundary.extendsNumber rest) :
    read? ('0' :: letter :: (digits ++ rest)) =
      some ⟨'0' :: letter :: digits, rest, r, .whole digits⟩ := by
  have hsuffix := Boundary.head?_ne_of_endsRun (c := 'n') (by decide) hrest
  rw [read?_of_readMarked? (readMarked?_append hletter hne hdigits
    (Boundary.endsRun_isDigit r hrest)), ofMarked_of_head?_ne hsuffix]

theorem plainRadix_writeDigits_decimal (n : Nat) :
    plainRadix (Radix.decimal.writeDigits n) = .decimal := by
  rw [plainRadix, hasLeadingZero_writeDigits]
  rfl

theorem plainRadix_zero_cons {digits : List Char} (hne : digits ≠ [])
    (hdigits : ∀ c ∈ digits, Radix.octal.isDigit c = true) :
    plainRadix ('0' :: digits) = .octal := by
  cases digits with
  | nil => exact absurd rfl hne
  | cons d digits =>
    have hzero : Radix.octal.isDigit '0' = true := rfl
    rw [plainRadix, hasLeadingZero, List.all_cons, hzero, List.all_eq_true.mpr hdigits]
    rfl

/-- The magnitude of a printed whole number, in any radix and before anything that does not go on
with it. -/
theorem read?_whole (r : Radix) (n : Nat) (hrest : EndsRun Boundary.extendsNumber rest) :
    read? (r.mark ++ r.writeDigits n ++ rest) =
      some ⟨r.mark ++ r.writeDigits n, rest, r, .whole (r.legacyZero ++ r.writeDigits n)⟩ := by
  have hne := Radix.writeDigits_ne_nil (r := r) n
  have hdigits := Radix.isDigit_of_mem_writeDigits (r := r) n
  cases r with
  | binary => exact read?_marked_append rfl hne hdigits hrest
  | hexadecimal => exact read?_marked_append rfl hne hdigits hrest
  | decimal =>
    have hread := read?_digits_append hne hdigits hrest
    rw [plainRadix_writeDigits_decimal] at hread
    exact hread
  | octal =>
    -- the legacy mark is read as a first digit, and all the digits are decimal ones at first
    have hwhole : ∀ c ∈ '0' :: Radix.octal.writeDigits n, isDecimalDigit c = true := by
      intro c hc
      rcases List.mem_cons.mp hc with rfl | hc
      · rfl
      · exact Radix.isDigit_decimal_of_octal (hdigits c hc)
    have hread := read?_digits_append (List.cons_ne_nil _ _) hwhole hrest
    rw [plainRadix_zero_cons hne hdigits] at hread
    exact hread

/-- The magnitude of a printed big integer. Its suffix ends it, so anything may stand behind. -/
theorem read?_big (r : Radix) (n : Nat) (rest : List Char) :
    read? (r.bigMark ++ r.writeDigits n ++ 'n' :: rest) =
      some ⟨r.bigMark ++ r.writeDigits n ++ ['n'], rest, r, .big (r.writeDigits n)⟩ := by
  have hne := Radix.writeDigits_ne_nil (r := r) n
  have hdigits := Radix.isDigit_of_mem_writeDigits (r := r) n
  have hend : EndsRun r.isDigit ('n' :: rest) := endsRun_cons.mpr (by cases r <;> decide)
  cases r with
  | binary => exact read?_of_readMarked? (readMarked?_append rfl hne hdigits hend)
  | octal => exact read?_of_readMarked? (readMarked?_append rfl hne hdigits hend)
  | hexadecimal => exact read?_of_readMarked? (readMarked?_append rfl hne hdigits hend)
  | decimal =>
    have hform : PlainForm (Radix.decimal.writeDigits n) ('n' :: rest) _ :=
      .big hne (hasLeadingZero_writeDigits _ n)
    exact read?_of_plainForm hform hdigits hend (by simp [Radix.ofLetter?])

end Magnitude

/-! ## The values of printed numbers -/

/-- The double -2^63, which is exact. -/
def Double.lowestInteger : Double := .finite true ⟨0x43e0000000000000, by decide⟩

namespace NumberValue

/-- What a printed value is read as: the least 64-bit integer as a double, every other value as
itself. -/
def reread : NumberValue → NumberValue
  | .integer n => if n = Int64.minValue then .float .lowestInteger else .integer n
  | v => v

/-- The radix a printed value is read in: the constants have none of their own. -/
def rereadRadix (radix : Radix) : NumberValue → Radix
  | .nan => .decimal
  | .infinity _ => .decimal
  | _ => radix

theorem numEq_reread {v : NumberValue} (hv : ∀ x, v ≠ .float x) : v.reread.numEq v = true := by
  cases v with
  | float x => exact absurd rfl (hv x)
  | integer n =>
    by_cases hn : n = Int64.minValue
    · subst hn
      decide +kernel
    · rw [reread, if_neg hn]
      exact beq_self_eq_true n
  | bigint n => exact beq_self_eq_true n
  | nan => rfl
  | infinity negative => cases negative <;> rfl

end NumberValue

namespace Numeral

theorem value_whole_legacyZero (r : Radix) (n : Nat) :
    value r (.whole (r.legacyZero ++ r.writeDigits n)) =
      .ok (wholeValue r (r.legacyZero ++ r.writeDigits n)) := rfl

theorem value_big_writeDigits (r : Radix) (n : Nat) :
    value r (.big (r.writeDigits n)) = .ok (.bigint n) := by
  rw [value, Radix.readDigits?_writeDigits]

/-- Digits of a number below the limit are that integer. -/
theorem wholeValue_of_lt {r : Radix} {n : Nat} (h : n < integerLimit) :
    wholeValue r (r.legacyZero ++ r.writeDigits n) = .integer (.ofNat n) := by
  rw [wholeValue, Radix.valueOf_legacyZero_append, Radix.valueOf_writeDigits]
  exact if_pos h

/-- The limit itself is read as the double 2^63 in every radix, without an error in any step. -/
theorem wholeValue_integerLimit (r : Radix) :
    (wholeValue r (r.legacyZero ++ r.writeDigits integerLimit)).neg =
      .float .lowestInteger := by
  cases r <;> decide +kernel

theorem ofNat_natAbs_of_neg {n : Int64} (h : n < 0) : Int64.ofNat n.toInt.natAbs = -n := by
  have hint : n.toInt < 0 := Int64.lt_iff_toInt_lt.mp h
  rw [← Int64.ofInt_eq_ofNat, ← Int64.ofInt_toInt n, ← Int64.ofInt_neg, Int64.ofInt_toInt]
  congr 1
  omega

theorem ofNat_natAbs_of_not_neg {n : Int64} (h : ¬n < 0) : Int64.ofNat n.toInt.natAbs = n := by
  have hint : 0 ≤ n.toInt := by
    have hnot := mt Int64.lt_iff_toInt_lt.mpr h
    have hzero : (0 : Int64).toInt = 0 := rfl
    omega
  rw [← Int64.ofInt_eq_ofNat, Int.natAbs_of_nonneg hint, Int64.ofInt_toInt]

/-- Only the magnitude of the least integer does not fit. -/
theorem natAbs_lt_integerLimit {n : Int64} (h : n ≠ Int64.minValue) :
    n.toInt.natAbs < integerLimit := by
  have hlow := n.le_toInt
  have hhigh := n.toInt_lt
  have hlimit : integerLimit = 2 ^ 63 := rfl
  have hne : n.toInt ≠ -2 ^ 63 := by
    intro hlowest
    exact h (Int64.toInt_inj.mp (hlowest.trans Int64.toInt_minValue.symm))
  omega

/-- The magnitude of an integer, with its sign put back. -/
theorem wholeValue_natAbs (r : Radix) (n : Int64) :
    (if n < 0 then
        (wholeValue r (r.legacyZero ++ r.writeDigits n.toInt.natAbs)).neg
      else wholeValue r (r.legacyZero ++ r.writeDigits n.toInt.natAbs)) =
      (NumberValue.integer n).reread := by
  by_cases hmin : n = Int64.minValue
  · subst hmin
    rw [if_pos (by decide)]
    exact wholeValue_integerLimit r
  · rw [wholeValue_of_lt (natAbs_lt_integerLimit hmin), NumberValue.reread, if_neg hmin]
    by_cases hneg : n < 0
    · -- negating a zero would make a double of it
      have hzero : -n ≠ 0 := by
        intro h
        obtain rfl : n = 0 := by rw [← Int64.neg_neg (a := n), h]; rfl
        exact absurd hneg (by decide)
      rw [if_pos hneg, ofNat_natAbs_of_neg hneg, NumberValue.neg, if_neg hzero, Int64.neg_neg]
    · rw [if_neg hneg, ofNat_natAbs_of_not_neg hneg]

end Numeral

namespace Number

open Magnitude NumberValue

theorem isSign_signText (negative : Bool) : IsSign (signText negative) := by
  cases negative
  · exact Or.inl rfl
  · exact Or.inr (Or.inr rfl)

/-- A sign, printed or left out, and a magnitude behind it. -/
theorem read_signText_append (negative : Bool) {cs : List Char} {m : Magnitude}
    {value : NumberValue} (hread : read? cs = some m)
    (hvalue : m.numeral.value m.radix = .ok value) :
    read (signText negative ++ cs) =
      .ok ⟨signText negative ++ m.source, m.rest, if negative then value.neg else value,
        m.radix⟩ := by
  have hsign := readSign_append_of_read? (isSign_signText negative) hread
  refine read_eq_ok_iff.mpr ⟨m, value, by rw [hsign]; exact hread, hvalue, ?_⟩
  rw [hsign]
  cases negative <;> rfl

theorem read_integer_append (n : Int64) (radix : Radix)
    (hrest : EndsRun Boundary.extendsNumber rest) :
    read ((integer n).toLiteral radix ++ rest) =
      .ok ⟨(integer n).toLiteral radix, rest, (integer n).reread, radix⟩ := by
  have hread := read_signText_append (n < 0) (read?_whole radix n.toInt.natAbs hrest)
    (Numeral.value_whole_legacyZero radix _)
  have htext : (integer n).toLiteral radix ++ rest = signText (n < 0) ++
      (radix.mark ++ radix.writeDigits n.toInt.natAbs ++ rest) := by
    simp [toLiteral, wholeText]
  rw [htext, hread, ← Numeral.wholeValue_natAbs radix n]
  simp only [toLiteral, wholeText, decide_eq_true_eq, List.append_assoc]

theorem read_bigint_append (n : Int) (radix : Radix) (rest : List Char) :
    read ((bigint n).toLiteral radix ++ rest) =
      .ok ⟨(bigint n).toLiteral radix, rest, bigint n, radix⟩ := by
  have hread := read_signText_append (n < 0) (read?_big radix n.natAbs rest)
    (Numeral.value_big_writeDigits radix n.natAbs)
  have htext : (bigint n).toLiteral radix ++ rest = signText (n < 0) ++
      (radix.bigMark ++ radix.writeDigits n.natAbs ++ 'n' :: rest) := by
    simp [toLiteral]
  have hvalue : (if n < 0 then (bigint n.natAbs).neg else bigint n.natAbs) = bigint n := by
    by_cases hneg : n < 0
    · rw [if_pos hneg, NumberValue.neg]
      congr 1
      omega
    · rw [if_neg hneg]
      congr 1
      omega
  rw [htext, hread]
  simp only [toLiteral, decide_eq_true_eq, hvalue, List.append_assoc]

/-- **The printed literal of every value but a float is read whole.** -/
theorem read_toLiteral_append {v : NumberValue} (hv : ∀ x, v ≠ .float x) (radix : Radix)
    (hrest : EndsRun Boundary.extendsNumber rest) :
    read (v.toLiteral radix ++ rest) =
      .ok ⟨v.toLiteral radix, rest, v.reread, v.rereadRadix radix⟩ := by
  have hend := Boundary.endsRun_isIdContinue hrest
  cases v with
  | float x => exact absurd rfl (hv x)
  | integer n => exact read_integer_append n radix hrest
  | bigint n => exact read_bigint_append n radix rest
  | nan =>
    have hread := read?_of_readConstant?
      (readConstant?_eq_some_iff.mpr ⟨rest, hend, Or.inr ⟨rfl, rfl⟩⟩)
    exact read_signText_append false hread rfl
  | infinity negative =>
    have hmagnitude := read?_of_readConstant?
      (readConstant?_eq_some_iff.mpr ⟨rest, hend, Or.inl ⟨rfl, rfl⟩⟩)
    have hread := read_signText_append negative hmagnitude rfl
    rw [toLiteral, List.append_assoc, hread]
    cases negative <;> rfl

/-- What is read as a number begins with no blank. -/
theorem endsRun_isBlank_of_read {text : List Char} {found : Lexeme NumberValue Radix}
    (h : read text = .ok found) : EndsRun isBlank text := by
  have hdigits : Radix.decimal.digitChars.any isBlank = false := by decide
  obtain ⟨m, -, hm, -⟩ := read_eq_ok_iff.mp h
  obtain ⟨c, hc, hhead⟩ := head?_of_read? hm
  have htext := readSign_append text
  intro d hd
  rw [← htext] at hd
  rcases isSign_readSign text with hsign | hsign | hsign
  · rw [hsign, List.nil_append] at hd
    obtain rfl : c = d := Option.some.inj (hc.symm.trans hd)
    rcases hhead with hdigit | rfl | rfl | rfl
    · have hmem := Radix.isDigit_iff_mem_digitChars.mp hdigit
      exact Bool.eq_false_iff.mpr (List.any_eq_false.mp hdigits c hmem)
    all_goals decide
  · rw [hsign] at hd
    obtain rfl : '+' = d := Option.some.inj hd
    decide
  · rw [hsign] at hd
    obtain rfl : '-' = d := Option.some.inj hd
    decide

/-- **Printed numbers read back in context.** Behind any blanks, before anything that may follow an
expression and in every radix, the literal printed for an integer, a big integer, not-a-number or an
infinity is found whole, and its value is numerically equal to the one printed. It is that very
value, except for the least 64-bit integer, which comes back as the double -2^63. -/
theorem token?_toLiteral_value (v : NumberValue) (hv : ∀ x, v ≠ .float x) (radix : Radix)
    (blanks rest : List Char) (hblank : ∀ c ∈ blanks, isBlank c = true)
    (hrest : Boundary.expression.accepts rest = true) :
    ∃ t, token? (blanks ++ v.toLiteral radix ++ rest) = some t ∧
      t.source = v.toLiteral radix ∧ t.value.numEq v = true ∧
      (v ≠ .integer Int64.minValue → t.value = v) ∧
      (v = .integer Int64.minValue → ∃ rank, t.value = .float (.finite true rank) ∧
        Double.units rank = 2 ^ 63 * Double.unitsInOne) := by
  have hread := read_toLiteral_append hv radix (Boundary.endsRun_of_accepts hrest)
  have hscan := Recognizer.scan_blanks_append (r := recognizer) hblank
    (endsRun_isBlank_of_read hread) hread hrest
  refine ⟨Lexeme.behind blanks ⟨v.toLiteral radix, rest, v.reread, v.rereadRadix radix⟩, ?_, rfl,
    numEq_reread hv, ?_, ?_⟩
  · rw [token?, found?_eq_some_iff, List.append_assoc]
    exact hscan
  · intro hne
    show v.reread = v
    cases v with
    | integer n => exact if_neg fun hn => hne (by rw [hn])
    | float x => exact absurd rfl (hv x)
    | bigint | nan | infinity => rfl
  · rintro rfl
    exact ⟨_, rfl, by decide +kernel⟩

/-- The least 64-bit integer in octal, behind a wide blank and in front of a slash. -/
theorem token?_toLiteral_minValue :
    (∀ x, NumberValue.integer Int64.minValue ≠ .float x) ∧ (∀ c ∈ ['\u3000'], isBlank c = true) ∧
      Boundary.expression.accepts ['/', '2'] = true ∧
      ∃ t, token? (['\u3000'] ++ (NumberValue.integer Int64.minValue).toLiteral .octal ++
          ['/', '2']) = some t ∧
        t.source = (NumberValue.integer Int64.minValue).toLiteral .octal ∧
        t.value.numEq (.integer Int64.minValue) = true ∧
        ∃ rank, t.value = .float (.finite true rank) ∧
          Double.units rank = 2 ^ 63 * Double.unitsInOne := by
  have hblank : ∀ c ∈ ['\u3000'], isBlank c = true := List.all_eq_true.mp rfl
  refine ⟨by simp, hblank, by decide, ?_⟩
  obtain ⟨t, htoken, hsource, hequal, -, hlowest⟩ :=
    token?_toLiteral_value (.integer Int64.minValue) (by simp) .octal ['\u3000'] ['/', '2']
      hblank (by decide)
  exact ⟨t, htoken, hsource, hequal, hlowest rfl⟩

end Number

end ScriptLiterals
