import ScriptLiterals.Double.Decimal
import ScriptLiterals.Proofs.Double.Magnitudes

/-!
# The nearest magnitude

`IsNearest` says what rounding to nearest means without saying how it is done: no magnitude is nearer,
and one that has a rival just as near has an even significand. At most one rank is nearest
(`IsNearest.unique`), and `nearestRank` finds it (`isNearest_nearestRank`). This is the only place
where `nearestRank` is opened; everything that is said about rounding afterwards is said about
`IsNearest`, mostly by way of the point halfway between two neighbours.

Ranks are not bounded here. The rank of infinity is what a number too large is nearest to, and
`ofRank` is where it becomes infinite.
-/

set_option autoImplicit false

namespace ScriptLiterals.Double

variable {num den r s : Nat}

/-- How far the magnitude of rank `r` is from `num / den` units, in parts of one `den`th. -/
def distance (num den r : Nat) : Nat := ((num : Int) - (units r * den : Nat)).natAbs

/-- The magnitude of rank `r` is the one nearest to `num / den` units, a tie going to the even
significand. -/
structure IsNearest (num den r : Nat) : Prop where
  least : ∀ s, distance num den r ≤ distance num den s
  even : ∀ s, s ≠ r → distance num den s = distance num den r → significand r % 2 = 0

/-! ## Neighbours -/

theorem units_mul_le (den : Nat) (h : r ≤ s) : units r * den ≤ units s * den :=
  Nat.mul_le_mul_right den (units_strictMono.monotone h)

theorem units_mul_lt (hden : 0 < den) (h : r < s) : units r * den < units s * den :=
  Nat.mul_lt_mul_of_pos_right (units_strictMono h) hden

/-- Below the point halfway to the next magnitude the nearest one is the lower. -/
theorem isNearest_of_lt_midpoint (hlow : units r * den ≤ num)
    (hmid : 2 * num < (units r + units (r + 1)) * den) : IsNearest num den r := by
  have hden : 0 < den := Nat.pos_of_ne_zero (by rintro rfl; omega)
  rw [Nat.add_mul] at hmid
  constructor
  · intro s
    unfold distance
    rcases Nat.lt_or_ge r s with hlt | hge
    · have : units (r + 1) * den ≤ units s * den := units_mul_le den hlt
      omega
    · have := units_mul_le den hge
      omega
  · intro s hne heq
    exfalso
    unfold distance at heq
    rcases Nat.lt_or_gt_of_ne hne with hlt | hgt
    · have := units_mul_lt hden hlt
      omega
    · have : units (r + 1) * den ≤ units s * den := units_mul_le den hgt
      omega

/-- Above it the nearest one is the upper. -/
theorem isNearest_of_midpoint_lt (hden : 0 < den) (hhigh : num ≤ units (r + 1) * den)
    (hmid : (units r + units (r + 1)) * den < 2 * num) : IsNearest num den (r + 1) := by
  rw [Nat.add_mul] at hmid
  constructor
  · intro s
    unfold distance
    rcases Nat.lt_or_ge r s with hlt | hge
    · have : units (r + 1) * den ≤ units s * den := units_mul_le den hlt
      omega
    · have := units_mul_le den hge
      omega
  · intro s hne heq
    exfalso
    unfold distance at heq
    rcases Nat.lt_or_gt_of_ne hne with hlt | hgt
    · have := units_mul_le den (Nat.le_of_lt_succ hlt)
      omega
    · have := units_mul_lt hden hgt
      omega

/-- And at that point it is the even one of the two. -/
theorem isNearest_of_eq_midpoint (hden : 0 < den)
    (hmid : 2 * num = (units r + units (r + 1)) * den) : IsNearest num den (r + r % 2) := by
  have hstep : units r * den < units (r + 1) * den := units_mul_lt hden (Nat.lt_succ_self r)
  have hcases : r + r % 2 = r ∨ r + r % 2 = r + 1 := by omega
  rw [Nat.add_mul] at hmid
  constructor
  · intro s
    unfold distance
    rcases Nat.lt_or_ge r s with hlt | hge
    · have : units (r + 1) * den ≤ units s * den := units_mul_le den hlt
      rcases hcases with h | h <;> rw [h] <;> omega
    · have := units_mul_le den hge
      rcases hcases with h | h <;> rw [h] <;> omega
  · intro s _ _
    rw [significand_mod_two]
    omega

/-! ## One nearest magnitude -/

/-- A magnitude that is not above the number is not above the nearest one. -/
theorem IsNearest.le_of_units_le (h : IsNearest num den r) (hden : 0 < den)
    (hs : units s * den ≤ num) : s ≤ r := by
  by_contra hlt
  have hless := units_mul_lt hden (Nat.lt_of_not_le hlt)
  have hleast := h.least s
  unfold distance at hleast
  omega

/-- And one that is not below it is not below the nearest one. -/
theorem IsNearest.le_of_le_units (h : IsNearest num den r) (hden : 0 < den)
    (hs : num ≤ units s * den) : r ≤ s := by
  by_contra hlt
  have hless := units_mul_lt hden (Nat.lt_of_not_le hlt)
  have hleast := h.least s
  unfold distance at hleast
  omega

theorem IsNearest.unique (h : IsNearest num den r) (h' : IsNearest num den s) (hden : 0 < den) :
    r = s := by
  -- it is enough that the lower of two nearest ranks is not strictly lower
  have hnot : ∀ {p q}, IsNearest num den p → IsNearest num den q → ¬p < q := by
    intro p q hp hq hlt
    have hpq := units_mul_lt hden hlt
    have hequal : distance num den p = distance num den q :=
      Nat.le_antisymm (hp.least q) (hq.least p)
    have hnext : q = p + 1 := by
      by_contra hne
      have hnext := hp.least (p + 1)
      have hlow : units p * den < units (p + 1) * den := units_mul_lt hden (Nat.lt_succ_self p)
      have hhigh : units (p + 1) * den < units q * den := units_mul_lt hden (by omega)
      unfold distance at hnext hequal
      omega
    have hpeven := hp.even q (by omega) hequal.symm
    have hqeven := hq.even p (by omega) hequal
    rw [significand_mod_two] at hpeven hqeven
    omega
  have hrs := hnot h h'
  have hsr := hnot h' h
  omega

/-- The whole number that `roundHalfEven` finds is the lower one, the upper one or the even one. -/
theorem isNearest_roundHalfEven {k : Nat} (hden : 0 < den)
    (hquotient : num / (den * 2 ^ k) < 2 * fullSignificand)
    (hfull : k = 0 ∨ fullSignificand ≤ num / (den * 2 ^ k)) :
    IsNearest num den (k * fullSignificand + roundHalfEven num (den * 2 ^ k)) := by
  have hparts := Nat.div_add_mod num (den * 2 ^ k)
  have hmod := Nat.mod_lt num (Nat.mul_pos hden (Nat.two_pow_pos k))
  unfold roundHalfEven
  dsimp only
  generalize num / (den * 2 ^ k) = q at *
  generalize num % (den * 2 ^ k) = remainder at *
  have hlow : units (k * fullSignificand + q) * den = den * 2 ^ k * q := by
    rw [units_scaled (by omega) hfull, Nat.mul_comm q, Nat.mul_comm _ den, Nat.mul_assoc]
  have hhigh : units (k * fullSignificand + q + 1) * den = den * 2 ^ k * q + den * 2 ^ k := by
    rw [Nat.add_assoc, units_scaled (by omega) (by omega), Nat.mul_comm (q + 1), Nat.mul_comm _ den,
      ← Nat.mul_assoc, Nat.mul_succ]
  have heven : (k * fullSignificand + q) % 2 = q % 2 := by
    unfold fullSignificand
    omega
  have hsum : ∀ more, k * fullSignificand + (q + more) = k * fullSignificand + q + more :=
    fun more => (Nat.add_assoc _ _ _).symm
  generalize hrank : k * fullSignificand + q = low at *
  split_ifs with hbelow habove
  · rw [hrank]
    apply isNearest_of_lt_midpoint
    · omega
    · rw [Nat.add_mul]
      omega
  · rw [hsum]
    apply isNearest_of_midpoint_lt hden
    · omega
    · rw [Nat.add_mul]
      omega
  · rw [hsum, ← heven]
    apply isNearest_of_eq_midpoint hden
    rw [Nat.add_mul]
    omega

/-- **Rounding finds the nearest magnitude.** -/
theorem isNearest_nearestRank (num : Nat) (hden : 0 < den) :
    IsNearest num den (nearestRank num den) := by
  unfold nearestRank
  dsimp only
  rw [Nat.shiftLeft_eq]
  have hquotient : num / (den * 2 ^ ((num / den).log2 + 1 - 53)) =
      num / den / 2 ^ ((num / den).log2 + 1 - 53) := (Nat.div_div_eq_div_mul _ _ _).symm
  apply isNearest_roundHalfEven hden
  · -- the quotient has as many bits as its logarithm says, and all but 53 are shifted out
    rw [hquotient, Nat.div_lt_iff_lt_mul (Nat.two_pow_pos _)]
    have hlog : num / den < 2 ^ ((num / den).log2 + 1) := Nat.lt_log2_self
    have hfull : 2 * fullSignificand = 2 ^ 53 := rfl
    rw [hfull, ← Nat.pow_add]
    exact Nat.lt_of_lt_of_le hlog (Nat.pow_le_pow_right (by decide) (by omega))
  · rw [hquotient, Nat.le_div_iff_mul_le (Nat.two_pow_pos _)]
    by_cases hlog : (num / den).log2 + 1 - 53 = 0
    · exact Or.inl hlog
    · have hne : num / den ≠ 0 := by
        intro hzero
        rw [hzero] at hlog
        exact hlog rfl
      have hfull : fullSignificand = 2 ^ 52 := rfl
      have hsum : 52 + ((num / den).log2 + 1 - 53) = (num / den).log2 := by omega
      rw [hfull, ← Nat.pow_add, hsum]
      exact Or.inr (Nat.log2_self_le hne)

/-- A number that is a magnitude is rounded to it. -/
theorem nearestRank_of_units_eq (hden : 0 < den) (h : units r * den = num) :
    nearestRank num den = r := by
  have hnearest := isNearest_nearestRank num hden
  exact Nat.le_antisymm (hnearest.le_of_le_units hden (Nat.le_of_eq h.symm))
    (hnearest.le_of_units_le hden (Nat.le_of_eq h))

end ScriptLiterals.Double
