import Mathlib.Data.List.Induction
import Mathlib.Tactic.IntervalCases
import Mathlib.Tactic.Ring
import ScriptLiterals.Number.Radix

/-!
# Writing and reading digits

`Radix.writeDigits` and `Radix.valueOf` are inverse to each other at unbounded size
(`valueOf_writeDigits`). Both go one digit at a time from the left, so the induction is along the
digits, last one split off first: all digits but the last are those of the quotient by the base.
`writeDigits_induction` packages that once.
-/

set_option autoImplicit false

namespace ScriptLiterals.Radix

variable {r : Radix}

theorem one_lt_base (r : Radix) : 1 < r.base := by
  cases r <;> decide

theorem base_pos (r : Radix) : 0 < r.base := Nat.lt_trans Nat.zero_lt_one r.one_lt_base

theorem base_le_sixteen (r : Radix) : r.base ≤ 16 := by
  cases r <;> decide

theorem digitValue?_digitChar {d : Nat} (h : d < 16) : digitValue? (Nat.digitChar d) = some d := by
  interval_cases d <;> rfl

/-- The character of a digit is a digit of that value in every radix that has it. -/
theorem digit?_digitChar {d : Nat} (h : d < r.base) : r.digit? (Nat.digitChar d) = some d := by
  rw [digit?, digitValue?_digitChar (Nat.lt_of_lt_of_le h r.base_le_sixteen)]
  simp [h]

theorem isDigit_digitChar {d : Nat} (h : d < r.base) : r.isDigit (Nat.digitChar d) = true := by
  rw [isDigit, digit?_digitChar h]
  rfl

/-- Digits are read from the left, so one more digit at the end is one more step. -/
theorem valueOf_concat (digits : List Char) (c : Char) :
    r.valueOf (digits ++ [c]) = r.valueOf digits * r.base + (r.digit? c).getD 0 := by
  simp [valueOf]

theorem valueOf_append (digits more : List Char) :
    r.valueOf (digits ++ more) = r.valueOf digits * r.base ^ more.length + r.valueOf more := by
  induction more using List.reverseRecOn with
  | nil => simp [valueOf]
  | append_singleton more c ih =>
    rw [← List.append_assoc, valueOf_concat, valueOf_concat, ih, List.length_append,
      List.length_singleton, Nat.pow_succ]
    ring

theorem valueOf_cons (c : Char) (digits : List Char) :
    r.valueOf (c :: digits) = (r.digit? c).getD 0 * r.base ^ digits.length + r.valueOf digits := by
  have hone : r.valueOf [c] = (r.digit? c).getD 0 := by simp [valueOf]
  rw [← hone]
  exact valueOf_append [c] digits

/-- Zeros in front of digits do not change their value. -/
theorem valueOf_zeros_append (count : Nat) (digits : List Char) :
    r.valueOf (List.replicate count '0' ++ digits) = r.valueOf digits := by
  have hzero : r.digit? '0' = some 0 := by cases r <;> rfl
  induction count with
  | zero => rfl
  | succ count ih =>
    rw [List.replicate_succ, List.cons_append, valueOf_cons, hzero, ih, Option.getD_some,
      Nat.zero_mul, Nat.zero_add]

theorem lt_base_of_digit? {c : Char} {d : Nat} (h : r.digit? c = some d) : d < r.base :=
  of_decide_eq_true (Option.filter_eq_some_iff.mp h).2

theorem digit?_getD_lt (c : Char) : (r.digit? c).getD 0 < r.base := by
  cases h : r.digit? c with
  | none => exact r.base_pos
  | some d => exact lt_base_of_digit? h

theorem valueOf_lt (digits : List Char) : r.valueOf digits < r.base ^ digits.length := by
  induction digits using List.reverseRecOn with
  | nil => exact Nat.zero_lt_one
  | append_singleton digits c ih =>
    have hdigit := digit?_getD_lt (r := r) c
    have hbelow : (r.valueOf digits + 1) * r.base ≤ r.base ^ digits.length * r.base :=
      Nat.mul_le_mul_right _ ih
    rw [valueOf_concat, List.length_append, List.length_singleton, Nat.pow_succ]
    rw [Nat.succ_mul] at hbelow
    omega

theorem writeDigits_ne_nil (n : Nat) : r.writeDigits n ≠ [] := Nat.toDigits_ne_nil

theorem writeDigits_of_lt {n : Nat} (h : n < r.base) : r.writeDigits n = [Nat.digitChar n] :=
  Nat.toDigits_of_lt_base h

theorem writeDigits_of_base_le {n : Nat} (h : r.base ≤ n) :
    r.writeDigits n = r.writeDigits (n / r.base) ++ [Nat.digitChar (n % r.base)] :=
  Nat.toDigits_of_base_le r.one_lt_base h

/-- **Induction along the digits of a number**: one digit, or the digits of the quotient by the base
and one more. -/
theorem writeDigits_induction {motive : Nat → List Char → Prop}
    (one : ∀ n, n < r.base → motive n [Nat.digitChar n])
    (more : ∀ n, r.base ≤ n → motive (n / r.base) (r.writeDigits (n / r.base)) →
      motive n (r.writeDigits (n / r.base) ++ [Nat.digitChar (n % r.base)])) (n : Nat) :
    motive n (r.writeDigits n) := by
  induction n using Nat.strongRecOn with
  | ind n ih =>
    by_cases h : n < r.base
    · rw [writeDigits_of_lt h]
      exact one n h
    · have hle : r.base ≤ n := Nat.le_of_not_lt h
      have hlt : n / r.base < n :=
        Nat.div_lt_self (Nat.lt_of_lt_of_le r.base_pos hle) r.one_lt_base
      rw [writeDigits_of_base_le hle]
      exact more n hle (ih _ hlt)

/-- What is written are digits. -/
theorem isDigit_of_mem_writeDigits (n : Nat) : ∀ c ∈ r.writeDigits n, r.isDigit c = true := by
  refine writeDigits_induction (motive := fun _ digits => ∀ c ∈ digits, r.isDigit c = true)
    (fun n hn c hc => ?_) (fun n hn ih c hc => ?_) n
  · rw [List.mem_singleton.mp hc]
    exact isDigit_digitChar hn
  · rcases List.mem_append.mp hc with hinit | hlast
    · exact ih c hinit
    · rw [List.mem_singleton.mp hlast]
      exact isDigit_digitChar (Nat.mod_lt n r.base_pos)

/-- **Reading the digits of a number gives the number.** -/
theorem valueOf_writeDigits (n : Nat) : r.valueOf (r.writeDigits n) = n := by
  refine writeDigits_induction (motive := fun n digits => r.valueOf digits = n)
    (fun n hn => ?_) (fun n hn ih => ?_) n
  · rw [← List.nil_append [_], valueOf_concat, digit?_digitChar hn]
    simp [valueOf]
  · rw [valueOf_concat, ih, digit?_digitChar (Nat.mod_lt n r.base_pos), Option.getD_some]
    exact Nat.div_add_mod' n r.base

theorem length_writeDigits_le {n width : Nat} (hwidth : 0 < width) (h : n < r.base ^ width) :
    (r.writeDigits n).length ≤ width := by
  refine writeDigits_induction
    (motive := fun n digits => ∀ width, 0 < width → n < r.base ^ width → digits.length ≤ width)
    (fun n hn width hwidth _ => hwidth) (fun n hn ih width hwidth h => ?_) n width hwidth h
  obtain ⟨width, rfl⟩ : ∃ w, width = w + 1 := ⟨width - 1, by omega⟩
  have hquot : n / r.base < r.base ^ width := by
    rw [Nat.div_lt_iff_lt_mul r.base_pos, ← Nat.pow_succ]
    exact h
  have hpos : 0 < width := by
    by_contra hzero
    obtain rfl : width = 0 := by omega
    rw [Nat.zero_add, Nat.pow_one] at h
    omega
  rw [List.length_append, List.length_singleton]
  exact Nat.succ_le_succ (ih width hpos hquot)

/-- What is read are digits, at least one, and the answer is their value. -/
theorem readDigits?_eq_some_iff {digits : List Char} {n : Nat} : r.readDigits? digits = some n ↔
    digits ≠ [] ∧ (∀ c ∈ digits, r.isDigit c = true) ∧ r.valueOf digits = n := by
  unfold readDigits?
  rw [Option.ite_none_right_eq_some]
  simp [and_assoc]

theorem readDigits?_writeDigits (n : Nat) : r.readDigits? (r.writeDigits n) = some n :=
  readDigits?_eq_some_iff.mpr
    ⟨writeDigits_ne_nil n, isDigit_of_mem_writeDigits n, valueOf_writeDigits n⟩

/-- The digits of a number other than zero do not begin with a zero. -/
theorem head?_writeDigits_ne_zero {n : Nat} (h : n ≠ 0) :
    (r.writeDigits n).head? ≠ some '0' := by
  refine writeDigits_induction (motive := fun n digits => n ≠ 0 → digits.head? ≠ some '0')
    (fun n hn hne => by simp [hne]) (fun n hn ih hne => ?_) n h
  have hquot : n / r.base ≠ 0 := by
    have := Nat.div_pos hn r.base_pos
    omega
  rw [List.head?_append, Option.or_of_isSome (by simp [writeDigits_ne_nil])]
  exact ih hquot

end ScriptLiterals.Radix
