import ScriptLiterals.Proofs.Number.Equality
import ScriptLiterals.Proofs.Number.Folding

/-!
# Printed whole doubles read back

A double without a fraction that is below 2^128 has digits in every radix, and they are read as an
integer below 2^63 and folded into a double from there on. The integer is converted back without an
error because it is a magnitude. The fold is exact for the same reason: it ends at the nearest double
unless its digits hide a half, and the digits of a magnitude never do (`not_hidesHalf_of_units_eq`),
since what lies behind a half is not a magnitude any more.

The sign of a zero is not printed, so it does not come back; the zeros are numerically equal.
-/

set_option autoImplicit false

namespace ScriptLiterals

open Double Text

variable {r : Radix} {digits : List Char} {n rank : Nat}

/-! ## The digits of a magnitude -/

namespace Numeral

/-- The digits of a magnitude hide no half. -/
theorem not_hidesHalf_of_units_eq (hdigits : ∀ c ∈ digits, r.isDigit c = true)
    (hrank : units rank = r.number digits * unitsInOne) : ¬r.HidesHalf digits := by
  rw [Radix.hidesHalf_iff hdigits]
  rintro ⟨hr, kept, dropped, hsplit, hlarge, -, hhalf, hmore⟩
  obtain ⟨bits, hbase⟩ := Radix.exists_base_eq hr
  have hbelow := Radix.valueOf_lt (r := r) dropped
  rw [← Radix.valueOf_eq_number hdigits, hsplit, Radix.valueOf_append] at hrank
  rw [hbase, ← Nat.pow_mul] at hbelow hrank
  exact units_ne_of_isHalfway hlarge hhalf hmore hbelow rank hrank

/-- So a magnitude that is no integer is folded without an error. -/
theorem foldDigits_of_units_eq (hr : r ≠ .decimal) (hdigits : ∀ c ∈ digits, r.isDigit c = true)
    (hrank : units rank = r.number digits * unitsInOne) :
    foldDigits r digits = ofRank false rank := by
  obtain ⟨hnearest, -⟩ := foldDigits_nearestRank hr hdigits
  rw [hnearest (not_hidesHalf_of_units_eq hdigits hrank),
    nearestRank_of_units_eq Nat.zero_lt_one (by rw [hrank, Nat.mul_one])]

theorem isDigit_legacyZero_append (n : Nat) :
    ∀ c ∈ r.legacyZero ++ r.writeDigits n, r.isDigit c = true := by
  intro c hc
  rcases List.mem_append.mp hc with hzero | hdigit
  · cases r with
    | octal => rw [List.mem_singleton.mp hzero]; rfl
    | binary | decimal | hexadecimal => exact absurd hzero (by simp [Radix.legacyZero])
  · exact Radix.isDigit_of_mem_writeDigits n c hdigit

/-- The digits of an integer that is a magnitude, behind a sign. -/
theorem toDouble_wholeValue_of_lt (negative : Bool) (hn : n < integerLimit)
    (hrank : units rank = n * unitsInOne) (hsign : negative = true → n ≠ 0) :
    (if negative then (wholeValue r (r.legacyZero ++ r.writeDigits n)).neg
      else wholeValue r (r.legacyZero ++ r.writeDigits n)).toDouble = ofRank negative rank := by
  have hvalue : (Int64.ofNat n).toInt = n := Int64.toInt_ofNat_of_lt hn
  rw [wholeValue_of_lt hn]
  cases negative with
  | false =>
    show ofInt (Int64.ofNat n).toInt = ofRank false rank
    rw [hvalue, ofInt_of_units_eq (by rw [hrank, Int.natAbs_natCast]), decide_eq_false (by omega)]
  | true =>
    have hpositive := hsign rfl
    have hne : Int64.ofNat n ≠ 0 := by
      intro hzero
      rw [hzero] at hvalue
      exact hpositive (Int.natCast_eq_zero.mp hvalue.symm)
    rw [if_pos rfl, NumberValue.neg, if_neg hne]
    show ofInt (-Int64.ofNat n).toInt = ofRank true rank
    rw [Number.toInt_neg_of_nonneg (by omega), hvalue,
      ofInt_of_units_eq (by rw [hrank, Int.natAbs_neg, Int.natAbs_natCast]),
      decide_eq_true (by omega)]

/-- The digits of a magnitude that is no integer, behind a sign. -/
theorem toDouble_wholeValue_of_le (hr : r ≠ .decimal) (negative : Bool) (hn : integerLimit ≤ n)
    (hrank : units rank = n * unitsInOne) :
    (if negative then (wholeValue r (r.legacyZero ++ r.writeDigits n)).neg
      else wholeValue r (r.legacyZero ++ r.writeDigits n)).toDouble = ofRank negative rank := by
  have hdigits := isDigit_legacyZero_append (r := r) n
  have hnumber : r.valueOf (r.legacyZero ++ r.writeDigits n) = n := by
    rw [Radix.valueOf_legacyZero_append, Radix.valueOf_writeDigits]
  have hfold : foldDigits r (r.legacyZero ++ r.writeDigits n) = ofRank false rank := by
    apply foldDigits_of_units_eq hr hdigits
    rw [← Radix.valueOf_eq_number hdigits, hnumber, hrank]
  rw [wholeValue, hnumber, if_neg (Nat.not_lt_of_le hn), if_neg hr, hfold]
  cases negative with
  | false => rfl
  | true => exact neg_ofRank false rank

theorem not_isBig_wholeValue (r : Radix) (digits : List Char) (negative : Bool) :
    ¬(if negative then (wholeValue r digits).neg else wholeValue r digits).IsBig := by
  rintro ⟨i, hi⟩
  rcases Number.wholeValue_cases r digits with ⟨-, n, hvalue, -⟩ | ⟨-, x, hvalue⟩
  · rw [hvalue, NumberValue.neg] at hi
    split_ifs at hi
  · rw [hvalue, NumberValue.neg] at hi
    split_ifs at hi

end Numeral

/-! ## Printing and reading -/

namespace NumberValue

/-- A whole double is printed in the digits of its number; a zero loses its sign. -/
theorem toLiteral_whole {radix : Radix} (hradix : radix ≠ .decimal) (negative : Bool)
    (rank : Fin 0x7ff0000000000000) (hrank : units rank = n * unitsInOne) (hn : n < 2 ^ 128) :
    (float (.finite negative rank)).toLiteral radix =
      wholeText radix (negative && rank.val != 0) n := by
  have hquotient : units rank / unitsInOne = n := by
    rw [hrank, Nat.mul_div_cancel n unitsInOne_pos]
  have hlimit : wholeLimit = 2 ^ 128 := Nat.one_shiftLeft 128
  have hwhole : isWholeRank rank = true := by
    rw [isWholeRank, hquotient, hrank, Nat.mul_mod_left, hlimit, decide_eq_true hn]
    rfl
  rw [toLiteral, floatText, if_pos ⟨hradix, hwhole⟩, hquotient]

end NumberValue

namespace Number

open Magnitude NumberValue

/-- **Whole doubles below 2^128 survive printing in binary, octal and hexadecimal.** -/
theorem parse?_toLiteral_whole {radix : Radix} (hradix : radix ≠ .decimal) (negative : Bool)
    (rank : Fin 0x7ff0000000000000) {n : Nat} (hrank : units rank = n * unitsInOne)
    (hn : n < 2 ^ 128) :
    ∃ v, parse? true ((NumberValue.float (.finite negative rank)).toLiteral radix) = some v ∧
      v.numEq (.float (.finite negative rank)) = true := by
  have hend : EndsRun Boundary.extendsNumber [] := by simp [EndsRun]
  have hread := read?_whole radix n hend
  rw [List.append_nil] at hread
  have hparse := parse?_signText_append (negative && rank.val != 0) hread rfl
    (Numeral.value_whole_legacyZero radix n)
  rw [← List.append_assoc] at hparse
  rw [toLiteral_whole hradix negative rank hrank hn]
  refine ⟨_, hparse, ?_⟩
  have hsign : (negative && rank.val != 0) = true → n ≠ 0 := by
    rintro hnegative rfl
    have hne : rank.val ≠ 0 := bne_iff_ne.mp (Bool.and_eq_true_iff.mp hnegative).2
    rw [Nat.zero_mul, ← units_zero] at hrank
    exact hne (units_strictMono.injective hrank)
  refine (numEq_iff_toDouble (Numeral.not_isBig_wholeValue _ _ _) ?_ ?_).mpr ?_
  · rintro ⟨i, hi⟩
    exact absurd hi (by simp)
  · intro _ _ _ hfloat
    exact absurd hfloat (by simp)
  apply canonical_eq_of_eq
  show _ = finite (negative && rank.val != 0) rank
  rw [← ofRank_of_lt rank.isLt]
  rcases Nat.lt_or_ge n Numeral.integerLimit with hsmall | hlarge
  · exact Numeral.toDouble_wholeValue_of_lt _ hsmall hrank hsign
  · exact Numeral.toDouble_wholeValue_of_le hradix _ hlarge hrank

/-- Minus 2^63 + 2^11 in octal, which is folded. -/
theorem parse?_toLiteral_whole_octal :
    Radix.octal ≠ .decimal ∧
      units 0x43e0000000000001 = 9223372036854777856 * unitsInOne ∧
      9223372036854777856 < 2 ^ 128 ∧
      (NumberValue.float (.finite true ⟨0x43e0000000000001, by decide⟩)).toLiteral .octal =
        "-01000000000000000004000".toList ∧
      ∃ v, parse? true "-01000000000000000004000".toList = some v ∧
        v.numEq (.float (.finite true ⟨0x43e0000000000001, by decide⟩)) = true := by
  have hoctal : Radix.octal ≠ .decimal := by decide
  have hrank : units 0x43e0000000000001 = 9223372036854777856 * unitsInOne := by decide
  have hbelow : 9223372036854777856 < 2 ^ 128 := by decide
  have htext : (NumberValue.float (.finite true ⟨0x43e0000000000001, by decide⟩)).toLiteral .octal =
      "-01000000000000000004000".toList := by
    rw [toLiteral_whole hoctal true ⟨0x43e0000000000001, by decide⟩ hrank hbelow]
    decide
  have hparse := parse?_toLiteral_whole hoctal true ⟨0x43e0000000000001, by decide⟩ hrank hbelow
  rw [htext] at hparse
  exact ⟨hoctal, hrank, hbelow, htext, hparse⟩

end Number

end ScriptLiterals
