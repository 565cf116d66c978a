import Mathlib.Data.Nat.Digits.Defs
import ScriptLiterals.Proofs.Double.Nearest

/-!
# Whole numbers as doubles

What the arithmetic of `ScriptLiterals.Double.Rounding` does to whole numbers. Small ones are exact
(`exists_units_whole`), so a product with a small number that happens to be a magnitude is not rounded
(`mul_ofNat`) and a sum with one is rounded once (`add_ofNat`). Infinity needs no case of its own in
these: `ofRank` of a rank past the finite ones is infinity, and the ranks only grow.

From 2^53 on neighbouring magnitudes are whole numbers an even distance apart (`exists_halves`), so
the point halfway between them is a whole number too. Writing further binary digits behind such a
number moves the nearest magnitude along with it, with one exception, which `nearestRank_grow` names:
a number exactly halfway that was rounded down, and further digits that are not all zero.
-/

set_option autoImplicit false

namespace ScriptLiterals.Double

variable {n k r : Nat}

/-! ## Small numbers -/

/-- The exponent of the number of units in 1. It stays folded, so that no step of a proof computes
the power. -/
@[irreducible]
def unitBits : Nat := 1074

theorem unitBits_eq : unitBits = 1074 := by
  unfold unitBits
  rfl

theorem unitsInOne_eq : unitsInOne = 2 ^ unitBits := by
  rw [← Nat.one_shiftLeft, unitBits_eq, unitsInOne]

theorem unitsInOne_pos : 0 < unitsInOne := by
  rw [unitsInOne_eq]
  exact Nat.two_pow_pos _

/-- Whole numbers of 53 bits are magnitudes. -/
theorem exists_units_whole (hn : n ≤ 2 ^ 53) : ∃ r, units r = n * unitsInOne := by
  rw [unitsInOne_eq]
  exact exists_units_eq hn unitBits

theorem units_infinityRank : units infinityRank = 2 ^ (2098 - unitBits) * unitsInOne := by
  obtain ⟨k, hk⟩ : ∃ k, k = 2045 := ⟨2045, rfl⟩
  have hrank : infinityRank = k * fullSignificand + 2 * fullSignificand := by
    rw [hk]
    rfl
  have hfull : 2 * fullSignificand = 2 ^ 53 := rfl
  have hbits : 53 + k = 2098 - unitBits + unitBits := by rw [hk, unitBits_eq]
  rw [hrank, units_scaled (Nat.le_refl _) (Or.inr (by omega)), hfull, unitsInOne_eq, ← Nat.pow_add,
    hbits, Nat.pow_add]

/-- A whole number of at most 1024 bits is finite as a double. -/
theorem lt_infinityRank (hk : k ≤ 1024) (hn : n < 2 ^ k) (hr : units r = n * unitsInOne) :
    r < infinityRank := by
  rw [← units_strictMono.lt_iff_lt, hr, units_infinityRank]
  apply Nat.mul_lt_mul_of_pos_right _ unitsInOne_pos
  apply Nat.lt_of_lt_of_le hn
  apply Nat.pow_le_pow_right Nat.zero_lt_two
  rw [unitBits_eq]
  exact hk

theorem ofRank_of_lt {negative : Bool} (h : r < infinityRank) :
    ofRank negative r = .finite negative ⟨r, h⟩ :=
  dif_pos h

theorem ofRank_of_le {negative : Bool} (h : infinityRank ≤ r) :
    ofRank negative r = .infinity negative :=
  dif_neg (Nat.not_lt_of_le h)

theorem neg_ofRank (negative : Bool) (r : Nat) :
    (ofRank negative r).neg = ofRank (!negative) r := by
  rcases Nat.lt_or_ge r infinityRank with h | h
  · rw [ofRank_of_lt h, ofRank_of_lt h]
    rfl
  · rw [ofRank_of_le h, ofRank_of_le h]
    rfl

theorem ofNat_of_units_eq (h : units r = n * unitsInOne) : ofNat n = ofRank false r := by
  rw [ofNat, nearest, nearestRank_of_units_eq Nat.zero_lt_one (by rw [h, Nat.mul_one])]

theorem ofInt_of_isNearest {i : Int} (h : IsNearest (i.natAbs * unitsInOne) 1 r) :
    ofInt i = ofRank (i < 0) r := by
  rw [ofInt, nearest, (isNearest_nearestRank _ Nat.zero_lt_one).unique h Nat.zero_lt_one]

theorem ofInt_of_units_eq {i : Int} (h : units r = i.natAbs * unitsInOne) :
    ofInt i = ofRank (i < 0) r := by
  rw [ofInt, nearest, nearestRank_of_units_eq Nat.zero_lt_one (by rw [h, Nat.mul_one])]

/-- A small number, as the arithmetic sees it. -/
theorem exists_ofNat_eq (hn : n ≤ 2 ^ 53) :
    ∃ (r : Nat) (h : r < infinityRank), units r = n * unitsInOne ∧
      ofNat n = .finite false ⟨r, h⟩ := by
  obtain ⟨r, hr⟩ := exists_units_whole hn
  have hlt : r < infinityRank := lt_infinityRank (k := 54) (by decide) (by omega) hr
  refine ⟨r, hlt, hr, ?_⟩
  rw [ofNat_of_units_eq hr, ofRank_of_lt hlt]

/-- **A product that is a magnitude is exact.** -/
theorem mul_ofNat {s : Nat} (hn : n ≤ 2 ^ 53) (hpos : 0 < n) (hs : units s = units r * n) :
    (ofRank false r).mul (ofNat n) = ofRank false s := by
  obtain ⟨q, hq, hunits, hofNat⟩ := exists_ofNat_eq hn
  rw [hofNat]
  rcases Nat.lt_or_ge r infinityRank with hfinite | hinfinite
  · rw [ofRank_of_lt hfinite]
    show nearest false (units r * units q) unitsInOne = ofRank false s
    rw [nearest, nearestRank_of_units_eq unitsInOne_pos]
    rw [hunits, hs, Nat.mul_assoc]
  · have hle : r ≤ s := by
      rw [← units_strictMono.le_iff_le, hs]
      exact Nat.le_mul_of_pos_right _ hpos
    have hne : q ≠ 0 := by
      rintro rfl
      rw [units_zero] at hunits
      exact absurd hunits.symm (Nat.mul_ne_zero (Nat.pos_iff_ne_zero.mp hpos)
        (Nat.pos_iff_ne_zero.mp unitsInOne_pos))
    rw [ofRank_of_le hinfinite, ofRank_of_le (Nat.le_trans hinfinite hle)]
    exact if_neg hne

/-- **A sum is rounded once.** -/
theorem add_ofNat (hn : n ≤ 2 ^ 53) : (ofRank false r).add (ofNat n) =
    ofRank false (nearestRank (units r + n * unitsInOne) 1) := by
  obtain ⟨q, hq, hunits, hofNat⟩ := exists_ofNat_eq hn
  rw [hofNat, ← hunits]
  rcases Nat.lt_or_ge r infinityRank with hfinite | hinfinite
  · rw [ofRank_of_lt hfinite]
    have hsum : signedUnits false r + signedUnits false q = (units r + units q : Nat) := rfl
    show (if signedUnits false r + signedUnits false q = 0 then signedZero (false && false)
      else nearest (signedUnits false r + signedUnits false q < 0)
        (signedUnits false r + signedUnits false q).natAbs 1) = _
    rw [hsum]
    split_ifs with hzero
    · have hnone : units r + units q = 0 := Int.natCast_eq_zero.mp hzero
      rw [hnone, nearestRank_of_units_eq (r := 0) Nat.zero_lt_one (by rw [units_zero])]
      rfl
    · rw [decide_eq_false (by omega), Int.natAbs_natCast]
      rfl
  · have hle : r ≤ nearestRank (units r + units q) 1 :=
      (isNearest_nearestRank _ Nat.zero_lt_one).le_of_units_le Nat.zero_lt_one (by omega)
    rw [ofRank_of_le hinfinite, ofRank_of_le (Nat.le_trans hinfinite hle)]
    rfl

/-- A decimal number without a fraction is rounded once as well, however long it is. -/
theorem ofDecimal_zero (n : Nat) : ofDecimal n 0 = ofNat n := by
  unfold ofDecimal
  dsimp only
  split_ifs with hsmall hlarge
  · have hzero : n = 0 := by
      rcases hsmall with hzero | hsize
      · exact hzero
      · unfold lowestExponent at hsize
        omega
    rw [hzero, ofNat_of_units_eq (r := 0) (by rw [units_zero, Nat.zero_mul])]
    rfl
  · -- so many digits make a number beyond the rank of infinity
    have hlong : ¬n < 10 ^ (50 + 10 * 26) := by
      intro hlt
      have := Nat.toDigits_length 10 n (50 + 10 * 26) (by decide) hlt
      unfold highestExponent decimalDigits at hlarge
      omega
    -- in small powers, so that no step computes a large one
    have hpow : ∀ k, 2 ^ (166 + 33 * k) ≤ 10 ^ (50 + 10 * k) := by
      intro k
      rw [Nat.pow_add, Nat.pow_add, Nat.pow_mul, Nat.pow_mul]
      exact Nat.mul_le_mul (by decide) (Nat.pow_le_pow_left (by decide) k)
    have hbits : 2098 - unitBits = 166 + 33 * 26 := by rw [unitBits_eq]
    have hle : infinityRank ≤ nearestRank (n * unitsInOne) 1 := by
      apply (isNearest_nearestRank _ Nat.zero_lt_one).le_of_units_le Nat.zero_lt_one
      rw [Nat.mul_one, units_infinityRank, hbits]
      exact Nat.mul_le_mul_right _ (Nat.le_trans (hpow 26) (Nat.le_of_not_lt hlong))
    rw [ofNat, nearest, ofRank_of_le hle]
  · have htens : tenTo (Int.toNat 0) = 1 := rfl
    rw [htens, Nat.mul_one]
    rfl
  · omega

/-! ## Numbers from 2^53 on -/

/-- The number lies halfway between two neighbouring magnitudes and the lower one is even, so that it
is rounded down. -/
def IsHalfway (n : Nat) : Prop :=
  ∃ r, significand r % 2 = 0 ∧ 2 * (n * unitsInOne) = units r + units (r + 1)

theorem exists_neighbours (num : Nat) : ∃ r, units r ≤ num ∧ num < units (r + 1) := by
  have hnearest := isNearest_nearestRank num Nat.zero_lt_one
  generalize nearestRank num 1 = r at hnearest
  by_cases hle : units r ≤ num
  · refine ⟨r, hle, ?_⟩
    by_contra hnot
    have := hnearest.le_of_units_le (s := r + 1) Nat.zero_lt_one (by omega)
    omega
  · cases r with
    | zero => exact absurd (Nat.zero_le num) (by rwa [units_zero] at hle)
    | succ r =>
      refine ⟨r, ?_, by omega⟩
      by_contra hnot
      have := hnearest.le_of_le_units (s := r) Nat.zero_lt_one (by omega)
      omega

/-- The rank of 2^53. From it on a scale has more bits than a unit, and magnitudes are even. -/
def wholeRank : Nat := unitBits * fullSignificand + 2 * fullSignificand

theorem units_wholeRank : units wholeRank = 2 ^ 53 * unitsInOne := by
  have hfull : 2 * fullSignificand = 2 ^ 53 := rfl
  rw [wholeRank, units_scaled (Nat.le_refl _) (Or.inr (by omega)), hfull, unitsInOne_eq]

theorem scale_of_wholeRank_le (h : wholeRank ≤ r) : unitBits + 1 ≤ scale r := by
  unfold wholeRank at h
  unfold scale
  generalize unitBits = bits at *
  unfold fullSignificand at *
  omega

theorem wholeRank_le_nearestRank (hn : 2 ^ 53 ≤ n) :
    wholeRank ≤ nearestRank (n * unitsInOne) 1 := by
  apply (isNearest_nearestRank _ Nat.zero_lt_one).le_of_units_le Nat.zero_lt_one
  rw [Nat.mul_one, units_wholeRank]
  exact Nat.mul_le_mul_right _ hn

/-- **The neighbours of a number from 2^53 on are whole numbers an even distance apart.** -/
theorem exists_halves (hn : 2 ^ 53 ≤ n) : ∃ r a c, fullSignificand ≤ r ∧ 0 < c ∧
    units r = a * unitsInOne ∧ units (r + 1) = (a + 2 * c) * unitsInOne ∧
    a ≤ n ∧ n < a + 2 * c := by
  obtain ⟨r, hlow, hhigh⟩ := exists_neighbours (n * unitsInOne)
  have hrank : wholeRank ≤ r := by
    apply le_of_units_le_of_lt _ hhigh
    rw [units_wholeRank]
    exact Nat.mul_le_mul_right _ hn
  obtain ⟨e, he⟩ : ∃ e, scale r = unitBits + 1 + e :=
    Nat.exists_eq_add_of_le (scale_of_wholeRank_le hrank)
  have hstep : 2 ^ scale r = 2 * 2 ^ e * unitsInOne := by
    rw [he, unitsInOne_eq, Nat.pow_add, Nat.pow_succ]
    ring
  have hr : units r = significand r * (2 * 2 ^ e) * unitsInOne := by
    rw [units_eq, hstep, ← Nat.mul_assoc]
  have hnext : units (r + 1) = (significand r * (2 * 2 ^ e) + 2 * 2 ^ e) * unitsInOne := by
    rw [units_succ, hr, hstep, Nat.add_mul]
  refine ⟨r, _, _, ?_, Nat.two_pow_pos _, hr, hnext, ?_, ?_⟩
  · unfold wholeRank at hrank
    omega
  · rw [hr] at hlow
    exact Nat.le_of_mul_le_mul_right hlow unitsInOne_pos
  · rw [hnext] at hhigh
    exact Nat.lt_of_mul_lt_mul_right hhigh

section Halves

variable {a c x : Nat}

/-- Which of two neighbours is nearest, in whole numbers. -/
theorem nearestRank_of_halves (hr : units r = a * unitsInOne)
    (hnext : units (r + 1) = (a + 2 * c) * unitsInOne) (hlow : a ≤ x) (hhigh : x ≤ a + 2 * c) :
    nearestRank (x * unitsInOne) 1 =
      if x < a + c then r else if a + c < x then r + 1 else r + r % 2 := by
  have hsum : (units r + units (r + 1)) * 1 = 2 * ((a + c) * unitsInOne) := by
    rw [hr, hnext]
    ring
  have hnearest := isNearest_nearestRank (x * unitsInOne) Nat.zero_lt_one
  apply hnearest.unique _ Nat.zero_lt_one
  split_ifs with hbelow habove
  · apply isNearest_of_lt_midpoint
    · rw [hr, Nat.mul_one]
      exact Nat.mul_le_mul_right _ hlow
    · rw [hsum]
      exact Nat.mul_lt_mul_of_pos_left
        (Nat.mul_lt_mul_of_pos_right hbelow unitsInOne_pos) Nat.zero_lt_two
  · apply isNearest_of_midpoint_lt Nat.zero_lt_one
    · rw [hnext, Nat.mul_one]
      exact Nat.mul_le_mul_right _ hhigh
    · rw [hsum]
      exact Nat.mul_lt_mul_of_pos_left
        (Nat.mul_lt_mul_of_pos_right habove unitsInOne_pos) Nat.zero_lt_two
  · obtain rfl : x = a + c := by omega
    apply isNearest_of_eq_midpoint Nat.zero_lt_one
    rw [hsum]

/-- The neighbours of a number settle whether it is halfway. -/
theorem isHalfway_iff_of_halves (hr : units r = a * unitsInOne)
    (hnext : units (r + 1) = (a + 2 * c) * unitsInOne) (hlow : a ≤ n) (hhigh : n < a + 2 * c) :
    IsHalfway n ↔ n = a + c ∧ r % 2 = 0 := by
  have hsum : units r + units (r + 1) = 2 * ((a + c) * unitsInOne) := by
    rw [hr, hnext]
    ring
  have hpos := unitsInOne_pos
  constructor
  · intro hhalf
    obtain ⟨s, heven, hs⟩ := hhalf
    have hstep : units s < units (s + 1) := units_strictMono (Nat.lt_succ_self s)
    have hbelow : units r ≤ n * unitsInOne := by
      rw [hr]
      exact Nat.mul_le_mul_right _ hlow
    have habove : n * unitsInOne < units (r + 1) := by
      rw [hnext]
      exact Nat.mul_lt_mul_of_pos_right hhigh hpos
    -- both `r` and `s` are the last rank that is not above the number
    obtain rfl : s = r := Nat.le_antisymm (le_of_units_le_of_lt (by omega) habove)
      (le_of_units_le_of_lt hbelow (by omega))
    rw [hsum] at hs
    refine ⟨Nat.eq_of_mul_eq_mul_right hpos (by omega), ?_⟩
    rwa [significand_mod_two] at heven
  · rintro ⟨rfl, heven⟩
    refine ⟨r, ?_, hsum.symm⟩
    rwa [significand_mod_two]

end Halves

/-- Zeros behind a number move its rank by one scale for each. -/
theorem units_grow {a : Nat} (k : Nat) (hfull : fullSignificand ≤ r)
    (hr : units r = a * unitsInOne) :
    units (r + k * fullSignificand) = a * 2 ^ k * unitsInOne := by
  rw [units_add_mul k hfull, hr]
  ring

/-- **Digits behind a number move the nearest magnitude along, unless they follow a half that was
rounded down.** -/
theorem nearestRank_grow {more : Nat} [Decidable (IsHalfway n)] (hn : 2 ^ 53 ≤ n)
    (hmore : more < 2 ^ k) :
    nearestRank ((n * 2 ^ k + more) * unitsInOne) 1 =
      nearestRank (n * unitsInOne) 1 + k * fullSignificand +
        if IsHalfway n ∧ more ≠ 0 then 1 else 0 := by
  obtain ⟨r, a, c, hfull, hc, hr, hnext, hlow, hhigh⟩ := exists_halves hn
  have hr' := units_grow k hfull hr
  have hexpand : (a + 2 * c) * 2 ^ k = a * 2 ^ k + 2 * (c * 2 ^ k) := by ring
  have hnext' : units (r + k * fullSignificand + 1) =
      (a * 2 ^ k + 2 * (c * 2 ^ k)) * unitsInOne := by
    rw [Nat.add_right_comm, units_grow k (by omega) hnext, hexpand]
  have hparity : (r + k * fullSignificand) % 2 = r % 2 := by
    unfold fullSignificand
    omega
  have hlow' : a * 2 ^ k ≤ n * 2 ^ k := Nat.mul_le_mul_right _ hlow
  have hhigh' : (n + 1) * 2 ^ k ≤ (a + 2 * c) * 2 ^ k := Nat.mul_le_mul_right _ hhigh
  rw [Nat.succ_mul] at hhigh'
  rw [nearestRank_of_halves hr hnext hlow (by omega),
    nearestRank_of_halves hr' hnext' (by omega) (by omega), hparity]
  simp only [isHalfway_iff_of_halves hr hnext hlow hhigh]
  rcases Nat.lt_trichotomy n (a + c) with hlt | heq | hgt
  · have hbelow : (n + 1) * 2 ^ k ≤ (a + c) * 2 ^ k := Nat.mul_le_mul_right _ hlt
    rw [Nat.succ_mul, Nat.add_mul] at hbelow
    split_ifs <;> omega
  · have hmid : n * 2 ^ k = a * 2 ^ k + c * 2 ^ k := by rw [heq, Nat.add_mul]
    split_ifs <;> omega
  · have habove : (a + c + 1) * 2 ^ k ≤ n * 2 ^ k := Nat.mul_le_mul_right _ hgt
    rw [Nat.succ_mul, Nat.add_mul] at habove
    split_ifs <;> omega

/-- What such digits are written behind is not a magnitude any more. -/
theorem units_ne_of_isHalfway {more : Nat} (hn : 2 ^ 53 ≤ n) (hhalf : IsHalfway n)
    (hne : more ≠ 0) (hmore : more < 2 ^ k) (s : Nat) :
    units s ≠ (n * 2 ^ k + more) * unitsInOne := by
  obtain ⟨r, a, c, hfull, hc, hr, hnext, hlow, hhigh⟩ := exists_halves hn
  obtain ⟨rfl, -⟩ := (isHalfway_iff_of_halves hr hnext hlow hhigh).mp hhalf
  have hr' := units_grow k hfull hr
  have hnext' : units (r + k * fullSignificand + 1) = (a + 2 * c) * 2 ^ k * unitsInOne := by
    rw [Nat.add_right_comm, units_grow k (by omega) hnext]
  intro hs
  have hbelow : r + k * fullSignificand < s := by
    rw [← units_strictMono.lt_iff_lt, hs, hr']
    apply Nat.mul_lt_mul_of_pos_right _ unitsInOne_pos
    rw [Nat.add_mul]
    omega
  have habove : s < r + k * fullSignificand + 1 := by
    rw [← units_strictMono.lt_iff_lt, hs, hnext']
    apply Nat.mul_lt_mul_of_pos_right _ unitsInOne_pos
    have hnext : (a + c + 1) * 2 ^ k ≤ (a + 2 * c) * 2 ^ k := Nat.mul_le_mul_right _ (by omega)
    rw [Nat.succ_mul] at hnext
    omega
  omega

end ScriptLiterals.Double
