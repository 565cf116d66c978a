import ScriptLiterals.Proofs.Number.WholeDoubles

/-!
# Printing what was read back

What is printed, read and printed again in the same radix is the same text wherever the value comes
back as itself, and only the least 64-bit integer does not: it comes back as the double -2^63
(`NumberValue.reread`). So what is left is to compare the two printers at that one number. In binary,
octal and hexadecimal a whole double has the digits of its number, as the integer has. In decimal it
has the shortest digits that identify it, with zeros up to the point, and the integer has all of its
own.
-/

set_option autoImplicit false

namespace ScriptLiterals

open Double Text

namespace NumberValue

theorem reread_of_ne {v : NumberValue} (h : v ≠ .integer Int64.minValue) : v.reread = v := by
  cases v with
  | integer n => exact if_neg fun hn => h (congrArg integer hn)
  | float | bigint | nan | infinity => rfl

theorem reread_minValue : (integer Int64.minValue).reread = .float .lowestInteger := by
  rw [reread, if_pos rfl]

/-- Outside decimal the double has the digits of the integer. -/
theorem toLiteral_lowestInteger {radix : Radix} (h : radix ≠ .decimal) :
    (float .lowestInteger).toLiteral radix = (integer Int64.minValue).toLiteral radix := by
  have hrank : units 0x43e0000000000000 = 2 ^ 63 * unitsInOne := by decide
  exact toLiteral_whole h true ⟨0x43e0000000000000, by decide⟩ hrank (by decide)

/-- Sixteen digits are enough to tell the double from its neighbours. -/
theorem toLiteral_lowestInteger_decimal :
    (float .lowestInteger).toLiteral .decimal = "-9223372036854776000".toList := by
  decide +kernel

theorem toLiteral_minValue_decimal :
    (integer Int64.minValue).toLiteral .decimal = "-9223372036854775808".toList := by
  decide

/-- **The two printers differ at one value and in one radix.** -/
theorem toLiteral_reread_iff (v : NumberValue) (radix : Radix) :
    v.reread.toLiteral radix = v.toLiteral radix ↔
      ¬(v = .integer Int64.minValue ∧ radix = .decimal) := by
  by_cases hv : v = .integer Int64.minValue
  · subst hv
    rw [reread_minValue]
    by_cases hradix : radix = .decimal
    · subst hradix
      rw [toLiteral_lowestInteger_decimal, toLiteral_minValue_decimal]
      decide
    · simp [toLiteral_lowestInteger hradix, hradix]
  · simp [reread_of_ne hv, hv]

end NumberValue

namespace Number

open NumberValue

/-- What is printed for a value stands alone as a token, with the value as it is read back. -/
theorem exists_token?_toLiteral {v : NumberValue} (hv : ∀ x, v ≠ .float x) (radix : Radix) :
    ∃ t, token? (v.toLiteral radix) = some t ∧ t.source = v.toLiteral radix ∧
      t.value = v.reread := by
  have hend : EndsRun Boundary.extendsNumber [] := by simp [EndsRun]
  have hread := read_toLiteral_append hv radix hend
  have hscan : recognizer.scan ([] ++ (v.toLiteral radix ++ [])) = .ok (Lexeme.behind [] _) :=
    Recognizer.scan_blanks_append (by simp) (endsRun_isBlank_of_read hread) hread rfl
  rw [List.nil_append, List.append_nil] at hscan
  exact ⟨_, found?_eq_some_iff.mpr hscan, rfl, rfl⟩

/-- **Printing is stable under reading.** For every integer, big integer or constant and every radix
the printed literal is a token of its own, and its value printed again in that radix is the same
text, with one exception: the least 64-bit integer in decimal. -/
theorem token?_toLiteral_again (v : NumberValue) (hv : ∀ x, v ≠ .float x) (radix : Radix) :
    ∃ t, token? (v.toLiteral radix) = some t ∧ t.source = v.toLiteral radix ∧
      (t.value.toLiteral radix = v.toLiteral radix ↔
        ¬(v = .integer Int64.minValue ∧ radix = .decimal)) := by
  obtain ⟨t, htoken, hsource, hvalue⟩ := exists_token?_toLiteral hv radix
  refine ⟨t, htoken, hsource, ?_⟩
  rw [hvalue]
  exact toLiteral_reread_iff v radix

/-- The least 64-bit integer in octal, which comes back as a double and is printed as before. -/
theorem token?_toLiteral_again_octal :
    (∀ x, NumberValue.integer Int64.minValue ≠ .float x) ∧
      (NumberValue.integer Int64.minValue).toLiteral .octal = "-01000000000000000000000".toList ∧
      ∃ t, token? "-01000000000000000000000".toList = some t ∧
        t.value.toLiteral .octal = "-01000000000000000000000".toList := by
  have hv : ∀ x, NumberValue.integer Int64.minValue ≠ .float x := by simp
  have htext : (NumberValue.integer Int64.minValue).toLiteral .octal =
      "-01000000000000000000000".toList := by decide
  obtain ⟨t, htoken, -, hagain⟩ := token?_toLiteral_again (.integer Int64.minValue) hv .octal
  rw [htext] at htoken hagain
  exact ⟨hv, htext, t, htoken, hagain.mpr (by decide)⟩

/-- In decimal the same integer loses its last digits when it is printed again. -/
theorem token?_toLiteral_again_decimal :
    (NumberValue.integer Int64.minValue).toLiteral .decimal = "-9223372036854775808".toList ∧
      ∃ t, token? "-9223372036854775808".toList = some t ∧
        t.value.toLiteral .decimal = "-9223372036854776000".toList ∧
        t.value.toLiteral .decimal ≠ "-9223372036854775808".toList := by
  obtain ⟨t, htoken, -, hvalue⟩ :=
    exists_token?_toLiteral (v := .integer Int64.minValue) (by simp) .decimal
  rw [toLiteral_minValue_decimal] at htoken
  refine ⟨toLiteral_minValue_decimal, t, htoken, ?_⟩
  rw [hvalue, reread_minValue, toLiteral_lowestInteger_decimal]
  exact ⟨rfl, by decide⟩

end Number

end ScriptLiterals
