import ScriptLiterals.Proofs.Number.Digits
import ScriptLiterals.Text.Hex

/-!
# Padded hexadecimal numbers

A number in hexadecimal with zeros in front of it: the digits are digits, they denote the number,
and where the number fits the width there are exactly as many as were asked for.
-/

set_option autoImplicit false

namespace ScriptLiterals.Text

theorem isDigit_of_mem_hexPadded {c : Char} {width n : Nat} (h : c ∈ hexPadded width n) :
    Radix.hexadecimal.isDigit c = true := by
  rcases List.mem_append.mp h with hzero | hdigit
  · rw [List.eq_of_mem_replicate hzero]
    rfl
  · exact Radix.isDigit_of_mem_writeDigits (r := .hexadecimal) n c hdigit

theorem valueOf_hexPadded (width n : Nat) : Radix.hexadecimal.valueOf (hexPadded width n) = n := by
  have hvalue := Radix.valueOf_writeDigits (r := .hexadecimal) n
  rw [← Radix.valueOf_zeros_append (width - (Nat.toDigits 16 n).length)] at hvalue
  exact hvalue

theorem readDigits?_hexPadded (width n : Nat) :
    Radix.hexadecimal.readDigits? (hexPadded width n) = some n := by
  have hne : hexPadded width n ≠ [] :=
    List.append_ne_nil_of_right_ne_nil _ (Radix.writeDigits_ne_nil (r := .hexadecimal) n)
  exact Radix.readDigits?_eq_some_iff.mpr
    ⟨hne, fun _ hc => isDigit_of_mem_hexPadded hc, valueOf_hexPadded width n⟩

theorem length_hexPadded {width n : Nat} (hwidth : 0 < width) (h : n < 16 ^ width) :
    (hexPadded width n).length = width := by
  have hle : (Nat.toDigits 16 n).length ≤ width :=
    Radix.length_writeDigits_le (r := .hexadecimal) hwidth h
  simp only [hexPadded, List.length_append, List.length_replicate]
  omega

end ScriptLiterals.Text
