import ScriptLiterals.Number.Value
import ScriptLiterals.Proofs.Double.WholeNumbers

/-!
# Equality of number values

Doubles are equal if they stand for the same number, and `Double.canonical` picks one of those that
do. So wherever values are compared as doubles, equality is equality of canonical forms
(`numEq_iff_toDouble`), and nothing can go wrong.

Two integers, however, are compared as integers, and two big integers as big integers. The latter
does no harm, because a big integer equals nothing else. The former does: beyond 2^53 an integer is
rounded when it is compared with a float, so one float can equal two integers that differ (`Collide`).
Equality of number values is reflexive and symmetric, and these are the only values between which it
is not transitive.
-/

set_option autoImplicit false

namespace ScriptLiterals

/-! ## Doubles that stand for the same number -/

namespace Double

variable {x y : Double} {s t : Bool} {p q : Nat} {m n : Int}

/-- The double that stands for all that are equal to it: zero has no sign. -/
def canonical : Double → Double
  | .finite negative r => .finite (negative && r.val != 0) r
  | x => x

theorem numEq_iff_canonical :
    (x.numEq y || (x.isNaN && y.isNaN)) = true ↔ x.canonical = y.canonical := by
  cases x with
  | nan => cases y <;> simp [numEq, isNaN, canonical]
  | infinity s => cases y <;> simp [numEq, isNaN, canonical]
  | finite s p =>
    cases y with
    | nan => simp [numEq, isNaN, canonical]
    | infinity t => simp [numEq, isNaN, canonical]
    | finite t q =>
      simp only [numEq, isNaN, canonical, Bool.and_false, Bool.or_false, finite.injEq]
      by_cases hpq : p = q
      · subst hpq
        cases s <;> cases t <;> simp
      · simp [hpq]

theorem canonical_eq_of_eq (h : x = y.canonical) : x.canonical = y.canonical := by
  subst h
  cases y with
  | nan => rfl
  | infinity negative => rfl
  | finite negative r =>
    show finite ((negative && r.val != 0) && r.val != 0) r = finite (negative && r.val != 0) r
    rw [Bool.and_assoc, Bool.and_self]

/-- No integer becomes a negative zero. -/
theorem canonical_ofInt (n : Int) : (ofInt n).canonical = ofInt n := by
  have hnearest := isNearest_nearestRank (n.natAbs * unitsInOne) Nat.zero_lt_one
  unfold ofInt nearest
  generalize nearestRank (n.natAbs * unitsInOne) 1 = r at hnearest
  rcases Nat.lt_or_ge r infinityRank with hr | hr
  · rw [ofRank_of_lt hr]
    by_cases hneg : n < 0
    · have hpositive : 1 ≤ r := by
        apply hnearest.le_of_units_le Nat.zero_lt_one
        rw [units_of_le (by decide)]
        exact Nat.mul_pos (by omega) unitsInOne_pos
      have hne : (r != 0) = true := bne_iff_ne.mpr (by omega)
      rw [canonical, hne, Bool.and_true]
    · rw [decide_eq_false hneg]
      rfl
  · rw [ofRank_of_le hr]
    rfl

theorem eq_of_ofRank_eq (hp : p < infinityRank) (h : ofRank s p = ofRank t q) : s = t ∧ p = q := by
  rw [ofRank_of_lt hp] at h
  rcases Nat.lt_or_ge q infinityRank with hq | hq
  · rw [ofRank_of_lt hq] at h
    exact ⟨(finite.inj h).1, Fin.mk.inj (finite.inj h).2⟩
  · rw [ofRank_of_le hq] at h
    exact absurd h (by simp)

/-- **Integers of 53 bits are not confused with any other.** -/
theorem eq_of_ofInt_eq (hm : m.natAbs < 2 ^ 53) (h : ofInt m = ofInt n) : m = n := by
  obtain ⟨p, hp⟩ := exists_units_whole (Nat.le_of_lt hm)
  have hfinite : p < infinityRank := lt_infinityRank (k := 53) (by decide) hm hp
  have hbelow : p < wholeRank := by
    rw [← units_strictMono.lt_iff_lt, hp, units_wholeRank]
    exact Nat.mul_lt_mul_of_pos_right hm unitsInOne_pos
  unfold ofInt nearest at h
  rw [nearestRank_of_units_eq (r := p) Nat.zero_lt_one (by rw [hp, Nat.mul_one])] at h
  obtain ⟨hsign, hrank⟩ := eq_of_ofRank_eq hfinite h
  -- a larger integer is at least as far up as 2^53
  have hn : n.natAbs < 2 ^ 53 := by
    by_contra hlarge
    have hle := wholeRank_le_nearestRank (Nat.le_of_not_lt hlarge)
    rw [← hrank] at hle
    exact absurd hbelow (Nat.not_lt_of_le hle)
  obtain ⟨q, hq⟩ := exists_units_whole (Nat.le_of_lt hn)
  rw [nearestRank_of_units_eq (r := q) Nat.zero_lt_one (by rw [hq, Nat.mul_one])] at hrank
  subst hrank
  have habs : m.natAbs = n.natAbs := Nat.eq_of_mul_eq_mul_right unitsInOne_pos (hp.symm.trans hq)
  have hneg := decide_eq_decide.mp hsign
  omega

end Double

/-! ## Values that are equal -/

namespace NumberValue

variable {u v w : NumberValue}

/-- Whether the value is a big integer, which no other value is compared with. -/
def IsBig (v : NumberValue) : Prop := ∃ i, v = bigint i

/-- A big integer equals itself only. -/
theorem numEq_bigint_iff {i : Int} : (bigint i).numEq v = true ↔ v = bigint i := by
  cases v with
  | bigint j =>
    rw [numEq, beq_iff_eq, bigint.injEq]
    exact eq_comm
  | integer | float | nan | infinity => simp [numEq]

theorem numEq_integer_iff {m n : Int64} : (integer m).numEq (integer n) = true ↔ m = n :=
  beq_iff_eq

/-- **Values that are not different integers are equal if they are the same double.** -/
theorem numEq_iff_toDouble (hu : ¬u.IsBig) (hv : ¬v.IsBig)
    (hsame : ∀ m n, u = integer m → v = integer n → m = n) :
    u.numEq v = true ↔ u.toDouble.canonical = v.toDouble.canonical := by
  rw [← Double.numEq_iff_canonical]
  cases u with
  | bigint i => exact absurd ⟨i, rfl⟩ hu
  | integer m =>
    cases v with
    | bigint i => exact absurd ⟨i, rfl⟩ hv
    | integer n =>
      obtain rfl := hsame m n rfl rfl
      exact iff_of_true (numEq_integer_iff.mpr rfl) (Double.numEq_iff_canonical.mpr rfl)
    | float | nan | infinity => rfl
  | float | nan | infinity =>
    cases v with
    | bigint i => exact absurd ⟨i, rfl⟩ hv
    | integer | float | nan | infinity => rfl

theorem toDouble_of_numEq (hu : ¬u.IsBig) (hv : ¬v.IsBig) (h : u.numEq v = true) :
    u.toDouble.canonical = v.toDouble.canonical := by
  refine (numEq_iff_toDouble hu hv ?_).mp h
  rintro m n rfl rfl
  exact numEq_integer_iff.mp h

/-- What equals a big integer is one. -/
theorem isBig_of_numEq (h : u.numEq v = true) (hv : v.IsBig) : u.IsBig := by
  obtain ⟨i, rfl⟩ := hv
  cases u with
  | bigint j => exact ⟨j, rfl⟩
  | integer | float | nan | infinity => exact absurd h (by simp [numEq])

theorem numEq_refl (u : NumberValue) : u.numEq u = true := by
  by_cases hu : u.IsBig
  · obtain ⟨i, rfl⟩ := hu
    exact numEq_bigint_iff.mpr rfl
  · refine (numEq_iff_toDouble hu hu ?_).mpr rfl
    rintro m n rfl heq
    exact integer.inj heq

theorem numEq_symm (h : u.numEq v = true) : v.numEq u = true := by
  by_cases hu : u.IsBig
  · obtain ⟨i, rfl⟩ := hu
    rw [numEq_bigint_iff.mp h]
    exact numEq_refl _
  · have hv := mt (isBig_of_numEq h) hu
    refine (numEq_iff_toDouble hv hu ?_).mpr (toDouble_of_numEq hu hv h).symm
    rintro m n rfl rfl
    exact (numEq_integer_iff.mp h).symm

/-! ## Integers that are the same double -/

/-- Two integers that differ although they become the same double, so that they are too large for
one. -/
def Collide (u w : NumberValue) : Prop :=
  ∃ m n, u = integer m ∧ w = integer n ∧ m ≠ n ∧ Double.ofInt m.toInt = Double.ofInt n.toInt ∧
    2 ^ 53 ≤ m.toInt.natAbs ∧ 2 ^ 53 ≤ n.toInt.natAbs

theorem collide_integer {m n : Int64} (hne : m ≠ n)
    (hsame : Double.ofInt m.toInt = Double.ofInt n.toInt) : Collide (integer m) (integer n) := by
  refine ⟨m, n, rfl, rfl, hne, hsame, ?_, ?_⟩
  · by_contra hsmall
    exact hne (Int64.toInt_inj.mp (Double.eq_of_ofInt_eq (Nat.lt_of_not_le hsmall) hsame))
  · by_contra hsmall
    exact hne.symm (Int64.toInt_inj.mp (Double.eq_of_ofInt_eq (Nat.lt_of_not_le hsmall) hsame.symm))

/-- **Equality of number values** is reflexive and symmetric, and transitive but for two integers
that collide. -/
theorem numEq_equivalence (u v w : NumberValue) :
    u.numEq u = true ∧ (u.numEq v = true → v.numEq u = true) ∧
      (u.numEq v = true → v.numEq w = true → (u.numEq w = true ↔ ¬Collide u w)) := by
  refine ⟨numEq_refl u, numEq_symm, ?_⟩
  intro huv hvw
  constructor
  · rintro huw ⟨m, n, rfl, rfl, hne, -⟩
    exact hne (numEq_integer_iff.mp huw)
  · intro hcollide
    by_cases hu : u.IsBig
    · obtain ⟨i, rfl⟩ := hu
      rw [numEq_bigint_iff.mp huv] at hvw
      exact hvw
    · have hv := mt (isBig_of_numEq huv) hu
      have hw := mt (isBig_of_numEq hvw) hv
      have hsame := (toDouble_of_numEq hu hv huv).trans (toDouble_of_numEq hv hw hvw)
      refine (numEq_iff_toDouble hu hw ?_).mpr hsame
      rintro m n rfl rfl
      by_contra hne
      have hdouble : Double.ofInt m.toInt = Double.ofInt n.toInt := by
        rw [← Double.canonical_ofInt, ← Double.canonical_ofInt n.toInt]
        exact hsame
      exact hcollide (collide_integer hne hdouble)

/-- The double 2^53 stands for 2^53 and, by the tie, for 2^53 + 1. -/
theorem ofInt_two_pow_53 : Double.ofInt (2 ^ 53) = .ofBits 0x4340000000000000 ∧
    Double.ofInt (2 ^ 53 + 1) = .ofBits 0x4340000000000000 := by
  constructor
  · exact Double.ofInt_of_units_eq (r := 0x4340000000000000) (by decide)
  · exact Double.ofInt_of_isNearest
      (Double.isNearest_of_eq_midpoint (r := 0x4340000000000000) Nat.zero_lt_one (by decide))

theorem numEq_two_pow_53 :
    (float (.ofBits 0x4340000000000000)).numEq (integer 0x20000000000000) = true ∧
      (integer 0x20000000000001).numEq (float (.ofBits 0x4340000000000000)) = true := by
  obtain ⟨heven, hodd⟩ := ofInt_two_pow_53
  have hfloat : ¬(float (.ofBits 0x4340000000000000)).IsBig := by simp [IsBig]
  constructor
  · apply (numEq_iff_toDouble hfloat (by simp [IsBig]) (by simp)).mpr
    exact congrArg Double.canonical heven.symm
  · apply (numEq_iff_toDouble (by simp [IsBig]) hfloat (by simp)).mpr
    exact congrArg Double.canonical hodd

/-- The integers 2^53 + 1 and 2^53 collide at that double. -/
theorem numEq_equivalence_large :
    (integer 0x20000000000001).numEq (float (.ofBits 0x4340000000000000)) = true ∧
      (float (.ofBits 0x4340000000000000)).numEq (integer 0x20000000000000) = true ∧
      (float (.ofBits 0x4340000000000000)).numEq (integer 0x20000000000001) = true ∧
      Collide (integer 0x20000000000001) (integer 0x20000000000000) := by
  obtain ⟨hright, hleft⟩ := numEq_two_pow_53
  obtain ⟨-, hsymm, htrans⟩ := numEq_equivalence (integer 0x20000000000001)
    (float (.ofBits 0x4340000000000000)) (integer 0x20000000000000)
  refine ⟨hleft, hright, hsymm hleft, ?_⟩
  by_contra hcollide
  exact absurd ((htrans hleft hright).mpr hcollide) (by decide)

/-- So the float 2^53 equals both, and they are not equal. -/
theorem numEq_not_transitive :
    (integer 0x20000000000001).numEq (float (.ofBits 0x4340000000000000)) = true ∧
      (float (.ofBits 0x4340000000000000)).numEq (integer 0x20000000000000) = true ∧
      ¬(integer 0x20000000000001).numEq (integer 0x20000000000000) = true := by
  obtain ⟨hright, hleft⟩ := numEq_two_pow_53
  exact ⟨hleft, hright, by decide⟩

end NumberValue

end ScriptLiterals
