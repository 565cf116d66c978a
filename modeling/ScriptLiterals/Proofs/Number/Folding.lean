import ScriptLiterals.Proofs.Double.WholeNumbers
import ScriptLiterals.Proofs.Number.RoundTrip
import ScriptLiterals.Proofs.Number.Values

/-!
# Whole numbers too large for an integer

From 2^63 on the value of a whole number is a double. Decimal digits reach it in one rounding; the
digits of the other radices are folded into it one by one, and every step rounds a product and a sum.
What so many roundings come to is said here.

The other bases are powers of two, so no product is rounded. A sum is exact as long as the number is
below 2^53 and is rounded once when it no longer is. From there on a digit is less than half a step
of the scale: it is lost, and only the rank moves (`ofRank_mul_add`). So the fold cuts its digits in
two, rounds the number of the first part and takes the others for zeros (`foldDigits_eq`).

By `Double.nearestRank_grow` this is the double nearest to the whole number with one exception, which
`HidesHalf` names: the first part is just halfway between two doubles and is rounded down, although
some digit behind it is not zero. Then the fold ends one double below the nearest. No decimal number
has this flaw, so the same integer can come out as two doubles, depending on how it is written.
-/

set_option autoImplicit false

namespace ScriptLiterals

open Double Text

variable {r : Radix} {digits text : List Char} {bits : Nat}

/-- Every base but ten is a power of two. -/
theorem Radix.exists_base_eq (hr : r ≠ .decimal) : ∃ bits, r.base = 2 ^ bits := by
  cases r with
  | binary => exact ⟨1, rfl⟩
  | octal => exact ⟨3, rfl⟩
  | hexadecimal => exact ⟨4, rfl⟩
  | decimal => exact absurd rfl hr

namespace Numeral

/-! ## One digit -/

theorem foldDigits_concat (r : Radix) (digits : List Char) (c : Char) :
    foldDigits r (digits ++ [c]) =
      ((foldDigits r digits).mul (.ofNat r.base)).add (.ofNat ((r.digit? c).getD 0)) := by
  rw [foldDigits, List.foldl_append]
  rfl

/-- A number below 2^53 takes a digit with one rounding. -/
theorem ofNat_mul_add (hbase : r.base = 2 ^ bits) {n : Nat} (hn : n < 2 ^ 53) (c : Char) :
    ((Double.ofNat n).mul (.ofNat r.base)).add (.ofNat ((r.digit? c).getD 0)) =
      .ofNat (n * r.base + (r.digit? c).getD 0) := by
  have hdigit := Radix.digit?_getD_lt (r := r) c
  have hsmall := r.base_le_sixteen
  obtain ⟨p, hp⟩ := exists_units_whole (Nat.le_of_lt hn)
  obtain ⟨s, hs⟩ : ∃ s, units s = n * r.base * unitsInOne := by
    obtain ⟨s, hs⟩ := exists_units_eq (m := n) (Nat.le_of_lt hn) (bits + unitBits)
    refine ⟨s, ?_⟩
    rw [hs, hbase, unitsInOne_eq, Nat.pow_add, Nat.mul_assoc]
  have hproduct : units s = units p * r.base := by
    rw [hs, hp]
    ring
  rw [ofNat_of_units_eq hp, mul_ofNat (by omega) r.base_pos hproduct, add_ofNat (by omega), hs,
    ← Nat.add_mul]
  rfl

/-- From 2^53 on a digit is lost, and the rank moves by one scale for every bit. -/
theorem ofRank_mul_add (hbase : r.base = 2 ^ bits) {q : Nat} (hq : wholeRank ≤ q) (c : Char) :
    ((ofRank false q).mul (.ofNat r.base)).add (.ofNat ((r.digit? c).getD 0)) =
      ofRank false (q + bits * fullSignificand) := by
  have hdigit := Radix.digit?_getD_lt (r := r) c
  have hsmall := r.base_le_sixteen
  have hfull : fullSignificand ≤ q := by
    unfold wholeRank at hq
    omega
  have hproduct : units (q + bits * fullSignificand) = units q * r.base := by
    rw [units_add_mul bits hfull, hbase]
  have hstep : 2 * (r.base * unitsInOne) ≤ 2 ^ scale (q + bits * fullSignificand) := by
    have hpow : 2 * (r.base * unitsInOne) = 2 ^ (unitBits + 1 + bits) := by
      rw [hbase, unitsInOne_eq, Nat.pow_add, Nat.pow_succ]
      ring
    rw [hpow, scale_add_mul bits hfull]
    apply Nat.pow_le_pow_right Nat.zero_lt_two
    have := scale_of_wholeRank_le hq
    omega
  have hlost : (r.digit? c).getD 0 * unitsInOne < r.base * unitsInOne :=
    Nat.mul_lt_mul_of_pos_right hdigit unitsInOne_pos
  rw [mul_ofNat (by omega) r.base_pos hproduct, add_ofNat (by omega)]
  congr 1
  apply (isNearest_nearestRank _ Nat.zero_lt_one).unique _ Nat.zero_lt_one
  apply isNearest_of_lt_midpoint
  · rw [Nat.mul_one]
    exact Nat.le_add_right _ _
  · rw [Nat.mul_one, units_succ]
    omega

/-! ## All digits -/

/-- **What a fold comes to**: the first digits are rounded, the others are zeros. -/
theorem foldDigits_eq (hbase : r.base = 2 ^ bits) (digits : List Char) : ∃ kept dropped,
    digits = kept ++ dropped ∧ r.valueOf kept < 2 ^ 53 * r.base ∧
    (dropped = [] ∨ 2 ^ 53 ≤ r.valueOf kept) ∧
    foldDigits r digits = ofRank false
      (nearestRank (r.valueOf kept * unitsInOne) 1 + dropped.length * bits * fullSignificand) := by
  induction digits using List.reverseRecOn with
  | nil =>
    refine ⟨[], [], rfl, Nat.mul_pos (Nat.two_pow_pos _) r.base_pos, Or.inl rfl, ?_⟩
    have hzero : nearestRank (r.valueOf [] * unitsInOne) 1 = 0 := by
      apply nearestRank_of_units_eq Nat.zero_lt_one
      rw [units_zero]
      exact (Nat.zero_mul _).symm
    rw [hzero, List.length_nil, Nat.zero_mul, Nat.zero_mul]
    rfl
  | append_singleton digits c ih =>
    obtain ⟨kept, dropped, rfl, hkept, hdropped, hfold⟩ := ih
    have hdigit := Radix.digit?_getD_lt (r := r) c
    rw [foldDigits_concat, hfold]
    rcases Nat.lt_or_ge (r.valueOf kept) (2 ^ 53) with hsmall | hlarge
    · -- nothing was lost yet, and the digit is rounded in
      obtain rfl : dropped = [] := hdropped.resolve_right (Nat.not_le_of_lt hsmall)
      refine ⟨kept ++ [c], [], by simp, ?_, Or.inl rfl, ?_⟩
      · have hbelow : (r.valueOf kept + 1) * r.base ≤ 2 ^ 53 * r.base :=
          Nat.mul_le_mul_right _ hsmall
        rw [Radix.valueOf_concat]
        rw [Nat.succ_mul] at hbelow
        omega
      · rw [Radix.valueOf_concat, List.length_nil, Nat.zero_mul, Nat.zero_mul, Nat.add_zero,
          Nat.add_zero]
        exact ofNat_mul_add hbase hsmall c
    · refine ⟨kept, dropped ++ [c], by simp, hkept, Or.inr hlarge, ?_⟩
      have hrank := Nat.le_add_right_of_le (k := dropped.length * bits * fullSignificand)
        (wholeRank_le_nearestRank hlarge)
      rw [ofRank_mul_add hbase hrank c, List.length_append, List.length_singleton, Nat.add_assoc,
        Nat.succ_mul, Nat.add_mul]

end Numeral

/-! ## The digits that go wrong -/

/-- The first digits whose number has more than 53 bits lie just halfway between two doubles, the
lower one being even, and the digits behind them are not all zero. -/
def Radix.HidesHalf (r : Radix) (digits : List Char) : Prop :=
  r ≠ .decimal ∧ ∃ kept dropped, digits = kept ++ dropped ∧ 2 ^ 53 ≤ r.number kept ∧
    r.number kept < 2 ^ 53 * r.base ∧ IsHalfway (r.number kept) ∧ r.number dropped ≠ 0

namespace Radix

/-- There is one place at most where digits can be cut like this. -/
theorem prefix_of_append_eq {kept dropped kept' dropped' : List Char}
    (h : kept ++ dropped = kept' ++ dropped') (hkept : r.valueOf kept < 2 ^ 53 * r.base)
    (hkept' : 2 ^ 53 ≤ r.valueOf kept') : kept <+: kept' := by
  rcases List.append_eq_append_iff.mp h with ⟨more, hmore, -⟩ | ⟨more, hmore, -⟩
  · exact ⟨more, hmore.symm⟩
  · cases more with
    | nil => exact ⟨[], by rw [hmore, List.append_nil, List.append_nil]⟩
    | cons c more =>
      exfalso
      have hpow : r.base ≤ r.base ^ (c :: more).length :=
        Nat.le_self_pow (Nat.succ_ne_zero _) _
      have hlarge : 2 ^ 53 * r.base ≤ r.valueOf kept' * r.base ^ (c :: more).length :=
        Nat.mul_le_mul hkept' hpow
      rw [hmore, valueOf_append] at hkept
      omega

theorem hidesHalf_iff (hdigits : ∀ c ∈ digits, r.isDigit c = true) : r.HidesHalf digits ↔
    r ≠ .decimal ∧ ∃ kept dropped, digits = kept ++ dropped ∧ 2 ^ 53 ≤ r.valueOf kept ∧
      r.valueOf kept < 2 ^ 53 * r.base ∧ IsHalfway (r.valueOf kept) ∧ r.valueOf dropped ≠ 0 := by
  have hnumber : ∀ {kept dropped}, digits = kept ++ dropped →
      r.valueOf kept = r.number kept ∧ r.valueOf dropped = r.number dropped := by
    rintro kept dropped rfl
    exact ⟨valueOf_eq_number fun c hc => hdigits c (List.mem_append_left _ hc),
      valueOf_eq_number fun c hc => hdigits c (List.mem_append_right _ hc)⟩
  constructor
  · rintro ⟨hr, kept, dropped, hsplit, hcut⟩
    refine ⟨hr, kept, dropped, hsplit, ?_⟩
    rwa [(hnumber hsplit).1, (hnumber hsplit).2]
  · rintro ⟨hr, kept, dropped, hsplit, hcut⟩
    refine ⟨hr, kept, dropped, hsplit, ?_⟩
    rwa [← (hnumber hsplit).1, ← (hnumber hsplit).2]

/-- **The cut that the fold makes settles whether its digits hide a half.** -/
theorem hidesHalf_iff_of_cut {kept dropped : List Char} (hr : r ≠ .decimal)
    (hdigits : ∀ c ∈ digits, r.isDigit c = true) (hsplit : digits = kept ++ dropped)
    (hkept : r.valueOf kept < 2 ^ 53 * r.base) (hdropped : dropped = [] ∨ 2 ^ 53 ≤ r.valueOf kept) :
    r.HidesHalf digits ↔ IsHalfway (r.valueOf kept) ∧ r.valueOf dropped ≠ 0 := by
  rw [hidesHalf_iff hdigits]
  constructor
  · rintro ⟨-, kept', dropped', hsplit', hlarge', hkept', hhalf', hmore'⟩
    have hle := prefix_of_append_eq (hsplit.symm.trans hsplit') hkept hlarge'
    have hge : kept' <+: kept := by
      rcases hdropped with rfl | hlarge
      · rw [List.append_nil] at hsplit
        exact ⟨dropped', hsplit'.symm.trans hsplit⟩
      · exact prefix_of_append_eq (hsplit'.symm.trans hsplit) hkept' hlarge
    obtain rfl := hle.eq_of_length (Nat.le_antisymm hle.length_le hge.length_le)
    obtain rfl := List.append_cancel_left (hsplit.symm.trans hsplit')
    exact ⟨hhalf', hmore'⟩
  · rintro ⟨hhalf, hmore⟩
    have hlarge : 2 ^ 53 ≤ r.valueOf kept := by
      refine hdropped.resolve_left ?_
      rintro rfl
      exact hmore rfl
    exact ⟨hr, kept, dropped, hsplit, hlarge, hkept, hhalf, hmore⟩

end Radix

namespace Numeral

open Radix

/-- **The fold ends at the nearest double, or just below it if the digits hide a half.** -/
theorem foldDigits_nearestRank (hr : r ≠ .decimal) (hdigits : ∀ c ∈ digits, r.isDigit c = true) :
    (¬r.HidesHalf digits →
      foldDigits r digits = ofRank false (nearestRank (r.number digits * unitsInOne) 1)) ∧
    (r.HidesHalf digits →
      foldDigits r digits = ofRank false (nearestRank (r.number digits * unitsInOne) 1 - 1)) := by
  obtain ⟨bits, hbase⟩ := exists_base_eq hr
  obtain ⟨kept, dropped, hsplit, hkept, hdropped, hfold⟩ := foldDigits_eq hbase digits
  have hpow : r.base ^ dropped.length = 2 ^ (dropped.length * bits) := by
    rw [hbase, ← Nat.pow_mul, Nat.mul_comm]
  have hwhole : r.number digits =
      r.valueOf kept * 2 ^ (dropped.length * bits) + r.valueOf dropped := by
    rw [← valueOf_eq_number hdigits, hsplit, valueOf_append, hpow]
  have hbelow : r.valueOf dropped < 2 ^ (dropped.length * bits) := by
    rw [← hpow]
    exact valueOf_lt dropped
  rw [hfold, hwhole, hidesHalf_iff_of_cut hr hdigits hsplit hkept hdropped]
  rcases hdropped with rfl | hlarge
  · constructor
    · intro _
      simp [valueOf]
    · intro hhalf
      exact absurd rfl hhalf.2
  · classical
    rw [nearestRank_grow hlarge hbelow]
    constructor
    · intro hhalf
      rw [if_neg hhalf, Nat.add_zero]
    · intro hhalf
      rw [if_pos hhalf, Nat.add_sub_cancel]

end Numeral

/-! ## Literals -/

namespace Number

open Magnitude

/-- What is read to the end of a text, behind a sign that is printed or left out, is its value. -/
theorem parse?_signText_append (negative : Bool) {cs : List Char} {m : Magnitude}
    {value : NumberValue} (hread : read? cs = some m) (hrest : m.rest = [])
    (hvalue : m.numeral.value m.radix = .ok value) :
    parse? true (signText negative ++ cs) = some (if negative then value.neg else value) := by
  have hlexeme := read_signText_append negative hread hvalue
  have hblank : ∀ c ∈ ([] : List Char), isBlank c = true := by simp
  have hscan := Recognizer.scan_blanks_append (r := recognizer) hblank
    (endsRun_isBlank_of_read hlexeme) hlexeme (by rw [hrest]; rfl)
  rw [List.nil_append] at hscan
  simp only [parse?, scan, Bool.not_true, Bool.false_eq_true, if_false, hscan]
  rfl

/-- A whole number has the value of its digits, however it is marked. -/
theorem parse?_of_isWhole (htext : IsWhole r digits text) :
    parse? true text = some (Numeral.wholeValue r digits) := by
  have hend : EndsRun Boundary.extendsNumber [] := by simp [EndsRun]
  have hread : read? text = some ⟨text, [], r, .whole digits⟩ := by
    rcases htext.form with ⟨letter, hletter, rfl⟩ | ⟨rfl, hradix⟩
    · have hmarked := read?_marked_append (Radix.ofLetter?_eq_some_iff.mpr hletter) htext.ne_nil
        htext.isDigit hend
      rwa [List.append_nil] at hmarked
    · have hplain := read?_digits_append htext.ne_nil (isDecimalDigit_of_plain htext hradix) hend
      rwa [List.append_nil, hradix] at hplain
  exact parse?_signText_append false hread rfl rfl

/-- **Large whole numbers are rounded to the nearest double in decimal, and in the other radices
unless their digits hide a half.** The nearest double depends on the integer only, not on the way it
is written; where digits hide a half, the value is one rank below it. -/
theorem parse?_isWhole_nearest {n : Nat} (hlarge : 2 ^ 63 ≤ n) :
    ∃ rank, IsNearest (n * unitsInOne) 1 rank ∧
      ∀ r digits text, IsWhole r digits text → r.number digits = n →
        (¬r.HidesHalf digits →
          (r ≠ .decimal → Numeral.foldDigits r digits = ofRank false rank) ∧
          parse? true text = some (.float (ofRank false rank))) ∧
        (r.HidesHalf digits → 0 < rank ∧
          Numeral.foldDigits r digits = ofRank false (rank - 1) ∧
          parse? true text = some (.float (ofRank false (rank - 1)))) := by
  refine ⟨nearestRank (n * unitsInOne) 1, isNearest_nearestRank _ Nat.zero_lt_one, ?_⟩
  intro r digits text htext hnumber
  subst hnumber
  have hnot : ¬r.valueOf digits < Numeral.integerLimit := by
    rw [Radix.valueOf_eq_number htext.isDigit]
    exact Nat.not_lt_of_le hlarge
  have hpositive : 0 < nearestRank (r.number digits * unitsInOne) 1 := by
    have := wholeRank_le_nearestRank (n := r.number digits) (Nat.le_trans (by decide) hlarge)
    unfold wholeRank at this
    exact Nat.lt_of_lt_of_le (by decide) (Nat.le_trans (Nat.le_add_left _ _) this)
  rw [parse?_of_isWhole htext, Numeral.wholeValue, if_neg hnot]
  by_cases hr : r = .decimal
  · -- decimal digits are rounded once, so they hide nothing
    subst hr
    refine ⟨fun _ => ⟨fun h => absurd rfl h, ?_⟩, fun hides => absurd rfl hides.1⟩
    rw [if_pos rfl, ofDecimal_zero, Radix.valueOf_eq_number htext.isDigit]
    rfl
  · obtain ⟨hnearest, hbelow⟩ := Numeral.foldDigits_nearestRank hr htext.isDigit
    rw [if_neg hr]
    constructor
    · intro hides
      rw [hnearest hides]
      exact ⟨fun _ => rfl, rfl⟩
    · intro hides
      rw [hbelow hides]
      exact ⟨hpositive, rfl, rfl⟩

/-- 2^63 + 1025 in hexadecimal. The first digits are 2^55 + 4, halfway between 2^55 and 2^55 + 8. -/
theorem hidesHalf_hexadecimal : Radix.hexadecimal.HidesHalf "8000000000000401".toList := by
  have hkept : Radix.hexadecimal.number "80000000000004".toList = 2 ^ 55 + 4 := rfl
  have hdropped : Radix.hexadecimal.number "01".toList = 1 := rfl
  have hhalfway : IsHalfway (2 ^ 55 + 4) := ⟨0x4360000000000000, by decide⟩
  refine ⟨by decide, "80000000000004".toList, "01".toList, rfl, ?_⟩
  rw [hkept, hdropped]
  exact ⟨by decide, by decide, hhalfway, by decide⟩

/-- In decimal the same integer is rounded to the nearest double, one rank further up. -/
theorem parse?_isWhole_nearest_hexadecimal :
    2 ^ 63 ≤ 9223372036854776833 ∧
      Radix.hexadecimal.HidesHalf "8000000000000401".toList ∧
      ∃ rank, IsNearest (9223372036854776833 * unitsInOne) 1 rank ∧
        parse? true "0x8000000000000401".toList = some (.float (ofRank false (rank - 1))) ∧
        parse? true "9223372036854776833".toList = some (.float (ofRank false rank)) := by
  have hhexadecimal : IsWhole .hexadecimal "8000000000000401".toList "0x8000000000000401".toList :=
    ⟨by decide, List.all_eq_true.mp (by decide), Or.inl ⟨'x', by decide, rfl⟩⟩
  have hdecimal : IsWhole .decimal "9223372036854776833".toList "9223372036854776833".toList :=
    ⟨by decide, List.all_eq_true.mp (by decide), Or.inr ⟨rfl, by decide⟩⟩
  have hlarge : 2 ^ 63 ≤ 9223372036854776833 := by decide
  obtain ⟨rank, hnearest, hvalue⟩ := parse?_isWhole_nearest hlarge
  refine ⟨hlarge, hidesHalf_hexadecimal, rank, hnearest, ?_, ?_⟩
  · exact ((hvalue _ _ _ hhexadecimal rfl).2 hidesHalf_hexadecimal).2.2
  · exact ((hvalue _ _ _ hdecimal rfl).1 fun hides => absurd rfl hides.1).2

/-- So the digits of an integer that is far from overflow do not come to the nearest double. -/
theorem foldDigits_ne_nearest :
    (∀ c ∈ "8000000000000401".toList, Radix.hexadecimal.isDigit c = true) ∧
      Radix.hexadecimal.number "8000000000000401".toList = 9223372036854776833 ∧
      2 ^ 63 - 1 < 9223372036854776833 ∧
      ∃ rank < infinityRank, IsNearest (9223372036854776833 * unitsInOne) 1 rank ∧
        Numeral.foldDigits .hexadecimal "8000000000000401".toList ≠ ofRank false rank := by
  have hnumber : Radix.hexadecimal.number "8000000000000401".toList = 9223372036854776833 := rfl
  have hdigits : ∀ c ∈ "8000000000000401".toList, Radix.hexadecimal.isDigit c = true :=
    List.all_eq_true.mp (by decide)
  have hnearest : IsNearest (9223372036854776833 * unitsInOne) 1 0x43e0000000000001 :=
    isNearest_of_midpoint_lt (r := 0x43e0000000000000) Nat.zero_lt_one (by decide) (by decide)
  obtain ⟨-, hbelow⟩ := Numeral.foldDigits_nearestRank (r := .hexadecimal) (by decide) hdigits
  refine ⟨hdigits, hnumber, by decide, 0x43e0000000000001, by decide, hnearest, ?_⟩
  rw [hbelow hidesHalf_hexadecimal, hnumber,
    (isNearest_nearestRank _ Nat.zero_lt_one).unique hnearest Nat.zero_lt_one]
  decide

end Number

end ScriptLiterals
