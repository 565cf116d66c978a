import Mathlib.Algebra.Ring.Nat
import Mathlib.Order.Monotone.Basic
import ScriptLiterals.Double.Basic

/-!
# The order of the magnitudes

A rank is a scale and a significand (`rank_eq`), and everything about `units` follows from one
equation for ranks in that form, `units_scaled`. The equation also holds for the significand that
has just become too long, `2 * fullSignificand`, so no step from one magnitude to the next has to
treat the change of the scale apart: magnitudes grow by one step of their scale (`units_succ`), hence
strictly (`units_strictMono`), and from the first full significand on, adding `fullSignificand` to
the rank doubles them (`units_add_mul`).

Nothing here looks at `infinityRank`: ranks go on past the finite ones.
-/

set_option autoImplicit false

namespace ScriptLiterals.Double

variable {r : Nat}

/-! ## Ranks as scale and significand -/

theorem rank_eq (r : Nat) : r = scale r * fullSignificand + significand r := by
  unfold scale significand fullSignificand
  split <;> omega

theorem significand_lt (r : Nat) : significand r < 2 * fullSignificand := by
  unfold significand fullSignificand
  split <;> omega

theorem full_or_unscaled (r : Nat) : scale r = 0 ∨ fullSignificand ≤ significand r := by
  unfold scale significand fullSignificand
  split <;> omega

/-- A significand is even if its rank is: the weight of the scale in a rank is even. -/
theorem significand_mod_two (r : Nat) : significand r % 2 = r % 2 := by
  unfold significand fullSignificand
  split <;> omega

theorem scale_scaled {k m : Nat} (hm : m < 2 * fullSignificand)
    (hfull : k = 0 ∨ fullSignificand ≤ m) : scale (k * fullSignificand + m) = k := by
  unfold scale fullSignificand at *
  omega

theorem significand_scaled {k m : Nat} (hm : m < 2 * fullSignificand)
    (hfull : k = 0 ∨ fullSignificand ≤ m) : significand (k * fullSignificand + m) = m := by
  unfold significand fullSignificand at *
  split <;> omega

/-- **The magnitude of a rank put together from a scale and a significand.** -/
theorem units_scaled {k m : Nat} (hm : m ≤ 2 * fullSignificand)
    (hfull : k = 0 ∨ fullSignificand ≤ m) : units (k * fullSignificand + m) = m * 2 ^ k := by
  rw [units, Nat.shiftLeft_eq]
  rcases Nat.lt_or_eq_of_le hm with hlt | rfl
  · rw [scale_scaled hlt hfull, significand_scaled hlt hfull]
  · -- the significand has become too long, and the rank is the first one of the next scale
    have hrank : k * fullSignificand + 2 * fullSignificand =
        (k + 1) * fullSignificand + fullSignificand := by
      unfold fullSignificand
      omega
    have hlt : fullSignificand < 2 * fullSignificand := by decide
    rw [hrank, scale_scaled hlt (Or.inr (Nat.le_refl _)),
      significand_scaled hlt (Or.inr (Nat.le_refl _)), Nat.pow_succ, Nat.mul_comm (2 ^ k) 2,
      ← Nat.mul_assoc, Nat.mul_comm fullSignificand 2]

theorem units_eq (r : Nat) : units r = significand r * 2 ^ scale r :=
  Nat.shiftLeft_eq _ _

/-! ## Steps -/

/-- One rank further is one step of the scale further. -/
theorem units_succ (r : Nat) : units (r + 1) = units r + 2 ^ scale r := by
  have hlt := significand_lt r
  have hfull := full_or_unscaled r
  have hnext : r + 1 = scale r * fullSignificand + (significand r + 1) := by
    have := rank_eq r
    omega
  rw [hnext, units_scaled (by omega) (by omega), Nat.succ_mul, ← units_eq]

theorem units_strictMono : StrictMono units := by
  apply strictMono_nat_of_lt_succ
  intro r
  rw [units_succ]
  exact Nat.lt_add_of_pos_right (Nat.two_pow_pos _)

/-- What is not above a number is not above the last magnitude below it. -/
theorem le_of_units_le_of_lt {s x : Nat} (hs : units s ≤ x) (hx : x < units (r + 1)) : s ≤ r :=
  Nat.le_of_lt_succ (units_strictMono.lt_iff_lt.mp (Nat.lt_of_le_of_lt hs hx))

theorem units_zero : units 0 = 0 := by
  rw [units_eq]
  rfl

/-! ## Doubling -/

theorem scale_add_mul (k : Nat) (h : fullSignificand ≤ r) :
    scale (r + k * fullSignificand) = scale r + k := by
  unfold scale fullSignificand at *
  omega

/-- A rank with a full significand has room above it for every scale. -/
theorem units_add_mul (k : Nat) (h : fullSignificand ≤ r) :
    units (r + k * fullSignificand) = units r * 2 ^ k := by
  have hlt := significand_lt r
  have hfull : fullSignificand ≤ significand r := by
    unfold significand fullSignificand at *
    split <;> omega
  have hrank : r + k * fullSignificand = (scale r + k) * fullSignificand + significand r := by
    have := rank_eq r
    rw [Nat.add_mul]
    omega
  rw [hrank, units_scaled (by omega) (by omega), units_eq, Nat.pow_add, Nat.mul_assoc]

/-- Below the first full significand the magnitude is the rank. -/
theorem units_of_le (h : r ≤ 2 * fullSignificand) : units r = r := by
  have hscaled := units_scaled (k := 0) h (Or.inl rfl)
  rwa [Nat.zero_mul, Nat.zero_add, Nat.pow_zero, Nat.mul_one] at hscaled

/-- Twice a magnitude is a magnitude. -/
theorem exists_units_eq_two_mul (r : Nat) : ∃ s, units s = 2 * units r := by
  by_cases hfull : fullSignificand ≤ r
  · refine ⟨r + 1 * fullSignificand, ?_⟩
    rw [units_add_mul 1 hfull]
    omega
  · refine ⟨2 * r, ?_⟩
    rw [units_of_le (r := 2 * r) (by omega), units_of_le (r := r) (by omega)]

/-- **Whatever has at most 53 significant bits is a magnitude.** -/
theorem exists_units_eq {m : Nat} (hm : m ≤ 2 * fullSignificand) (k : Nat) :
    ∃ r, units r = m * 2 ^ k := by
  induction k with
  | zero => exact ⟨m, by rw [units_of_le hm, Nat.pow_zero, Nat.mul_one]⟩
  | succ k ih =>
    obtain ⟨r, hr⟩ := ih
    obtain ⟨s, hs⟩ := exists_units_eq_two_mul r
    refine ⟨s, ?_⟩
    rw [hs, hr, Nat.pow_succ, Nat.mul_comm (2 ^ k) 2, Nat.mul_left_comm]

end ScriptLiterals.Double
