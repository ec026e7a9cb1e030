import Mathlib.Tactic.Ring
import SearchAnnotation.Number.Binary64

/-!
# Exact values of binary64 numbers

Every finite binary64 number is a whole multiple of the smallest positive one. How many of these
units its magnitude has determines its exponent and fraction fields, so numbers of one sign that
have the same value are the same. The whole number that a number equals, if there is one, is the
quotient of its units by those of one.
-/

namespace SearchAnnotation.Binary64

variable {x y : Binary64}

/-- The magnitude of a finite number as a multiple of the smallest positive one. -/
def units (x : Binary64) : Nat := x.significand * 2 ^ (x.exponent.val - 1)

/-- One as a multiple of the smallest positive number. -/
def unitsOfOne : Nat := 2 ^ 1074

theorem unitsOfOne_pos : 0 < unitsOfOne := pow_pos Nat.two_pos 1074

theorem significand_lt (x : Binary64) : x.significand < 2 * fractionValues := by
  have hf := x.fraction.isLt
  unfold significand
  split <;> omega

theorem le_significand (h : x.exponent.val ≠ 0) : fractionValues ≤ x.significand := by
  rw [significand, if_neg h]
  omega

/-- The units of a number stay below those of the next power of two. -/
theorem units_lt (x : Binary64) : x.units < fractionValues * 2 ^ x.exponent.val := by
  by_cases he : x.exponent.val = 0
  · rw [units, significand, if_pos he, he]
    exact Nat.mul_lt_mul_of_pos_right x.fraction.isLt (Nat.two_pow_pos _)
  · obtain ⟨n, hn⟩ := Nat.exists_eq_succ_of_ne_zero he
    calc x.units < 2 * fractionValues * 2 ^ n := by
          rw [units, hn]
          exact Nat.mul_lt_mul_of_pos_right x.significand_lt (Nat.two_pow_pos _)
      _ = fractionValues * 2 ^ x.exponent.val := by rw [hn, Nat.pow_succ]; ring

/-- The units of a number are not below those of its own power of two. -/
theorem le_units (h : x.exponent.val ≠ 0) :
    fractionValues * 2 ^ (x.exponent.val - 1) ≤ x.units :=
  Nat.mul_le_mul_right _ (le_significand h)

/-- A larger exponent field means more units. -/
theorem units_lt_of_exponent_lt (h : x.exponent.val < y.exponent.val) : x.units < y.units := by
  have hpow : 2 ^ x.exponent.val ≤ 2 ^ (y.exponent.val - 1) :=
    Nat.pow_le_pow_right (by decide) (by omega)
  calc x.units < fractionValues * 2 ^ x.exponent.val := x.units_lt
    _ ≤ fractionValues * 2 ^ (y.exponent.val - 1) := Nat.mul_le_mul_left _ hpow
    _ ≤ y.units := le_units (by omega)

/-- The units determine both fields. -/
theorem fields_of_units (h : x.units = y.units) :
    x.exponent = y.exponent ∧ x.fraction = y.fraction := by
  have he : x.exponent.val = y.exponent.val := by
    rcases Nat.lt_trichotomy x.exponent.val y.exponent.val with hlt | he | hlt
    · exact absurd h (units_lt_of_exponent_lt hlt).ne
    · exact he
    · exact absurd h (units_lt_of_exponent_lt hlt).ne'
  have hs : x.significand = y.significand := by
    rw [units, units, he] at h
    exact Nat.eq_of_mul_eq_mul_right (Nat.two_pow_pos _) h
  refine ⟨Fin.ext he, Fin.ext ?_⟩
  rw [significand, significand, he] at hs
  split at hs <;> omega

/-- Numbers of one sign with the same units are the same. -/
theorem eq_of_units (hsign : x.negative = y.negative) (h : x.units = y.units) : x = y := by
  obtain ⟨he, hf⟩ := fields_of_units h
  obtain ⟨negative, exponent, fraction⟩ := x
  cases hsign
  cases he
  cases hf
  rfl

theorem isZero_iff : x.isZero = true ↔ x.units = 0 := by
  simp only [isZero, Bool.and_eq_true, beq_iff_eq, units, Nat.mul_eq_zero, Nat.pow_eq_zero]
  constructor
  · rintro ⟨he, hf⟩
    rw [significand, if_pos he]
    exact .inl hf
  · rintro (hs | ⟨h2, -⟩)
    · have he : x.exponent.val = 0 := by
        by_contra he
        exact absurd (hs ▸ le_significand he) (by decide)
      rw [significand, if_pos he] at hs
      exact ⟨he, hs⟩
    · cases h2

theorem ratio_pos (x : Binary64) : 0 < x.ratio.2 := by
  unfold ratio
  split
  · exact Nat.one_pos
  · exact Nat.two_pow_pos _

/-- The quotient of a number is its units over those of one. -/
theorem ratio_units (x : Binary64) : x.ratio.1 * unitsOfOne = x.units * x.ratio.2 := by
  have hscale : x.scale = ((x.exponent.val - 1 : Nat) : Int) - 1074 := by
    unfold scale
    split <;> omega
  unfold ratio units unitsOfOne
  split
  · have hshift : x.exponent.val - 1 = x.scale.toNat + 1074 := by omega
    simp only [hshift, Nat.pow_add, Nat.mul_one, Nat.mul_assoc, Nat.pow_eq]
  · have hshift : 1074 = x.exponent.val - 1 + (-x.scale).toNat := by omega
    rw [congrArg (2 ^ ·) hshift, Nat.pow_add, ← Nat.mul_assoc]
    rfl

/-- The quotient of a number is a whole one just if its units are a multiple of those of one. -/
theorem ratio_eq_iff {m : Nat} : x.ratio.1 = m * x.ratio.2 ↔ x.units = m * unitsOfOne := by
  have hratio := x.ratio_units
  constructor
  · intro h
    refine Nat.eq_of_mul_eq_mul_right x.ratio_pos ?_
    rw [← hratio, h, Nat.mul_right_comm]
  · intro h
    refine Nat.eq_of_mul_eq_mul_right unitsOfOne_pos ?_
    rw [hratio, h, Nat.mul_right_comm]

/-- A finite number is whole just if its units are those of a whole number, which then is the
number's magnitude. -/
theorem toInt?_eq_some_iff {n : Int} : x.toInt? = some n ↔ x.isFinite = true ∧
    ∃ m : Nat, x.units = m * unitsOfOne ∧ n = if x.negative then -(m : Int) else (m : Int) := by
  simp only [toInt?]
  constructor
  · intro h
    split at h
    · next hwhole =>
      rw [Bool.and_eq_true, beq_iff_eq] at hwhole
      obtain ⟨hfinite, hmod⟩ := hwhole
      refine ⟨hfinite, x.ratio.1 / x.ratio.2, ratio_eq_iff.mp ?_, (Option.some.inj h).symm⟩
      exact (Nat.div_mul_cancel (Nat.dvd_of_mod_eq_zero hmod)).symm
    · cases h
  · rintro ⟨hfinite, m, hunits, rfl⟩
    have hratio := ratio_eq_iff.mpr hunits
    have hmod : x.ratio.1 % x.ratio.2 = 0 := by rw [hratio, Nat.mul_mod_left]
    have hdiv : x.ratio.1 / x.ratio.2 = m := by rw [hratio, Nat.mul_div_cancel _ x.ratio_pos]
    simp only [hfinite, hmod, hdiv, beq_self_eq_true, Bool.and_self, if_true]

/-- Numbers that equal one whole number are the same, unless they are the two zeros. -/
theorem eq_or_isZero_of_toInt? {n : Int} (hx : x.toInt? = some n) (hy : y.toInt? = some n) :
    x = y ∨ x.isZero = true ∧ y.isZero = true := by
  obtain ⟨-, k, hk, hn⟩ := toInt?_eq_some_iff.mp hx
  obtain ⟨-, m, hm, hn'⟩ := toInt?_eq_some_iff.mp hy
  have habs : k = m := by
    have h := congrArg Int.natAbs (hn.symm.trans hn')
    split at h <;> split at h <;> simpa only [Int.natAbs_neg, Int.natAbs_natCast] using h
  subst habs
  by_cases hzero : k = 0
  · rw [hzero, Nat.zero_mul] at hk hm
    exact .inr ⟨isZero_iff.mpr hk, isZero_iff.mpr hm⟩
  · have hsign : x.negative = y.negative := by
      rw [hn] at hn'
      cases hxs : x.negative <;> cases hys : y.negative <;> simp only [hxs, hys, if_true,
        Bool.false_eq_true, if_false] at hn' ⊢ <;> omega
    exact .inl (eq_of_units hsign (hk.trans hm.symm))

/-- Both zeros equal the whole number zero. -/
theorem toInt?_of_isZero (h : x.isZero = true) : x.toInt? = some 0 := by
  have hfinite : x.isFinite = true := by
    rw [isZero, Bool.and_eq_true, beq_iff_eq] at h
    rw [isFinite, h.1]
    rfl
  refine toInt?_eq_some_iff.mpr ⟨hfinite, 0, ?_, by split <;> rfl⟩
  rw [isZero_iff.mp h, Nat.zero_mul]

/-- Of the whole numbers only zero is equalled by the zeros. -/
theorem isZero_of_toInt? {n : Int} (h : x.toInt? = some n) : x.isZero = (n == 0) := by
  have hzero : (zero false).toInt? = some 0 := toInt?_of_isZero rfl
  rw [Bool.eq_iff_iff, beq_iff_eq]
  constructor
  · intro hx
    exact Option.some.inj (h.symm.trans (toInt?_of_isZero hx))
  · rintro rfl
    rcases eq_or_isZero_of_toInt? h hzero with rfl | hboth
    · rfl
    · exact hboth.1

/-- A number that equals a whole one is defined. -/
theorem isNaN_of_toInt? {n : Int} (h : x.toInt? = some n) : x.isNaN = false := by
  have hfinite := (toInt?_eq_some_iff.mp h).1
  rw [isFinite, bne_iff_ne] at hfinite
  rw [isNaN, beq_false_of_ne hfinite, Bool.false_and]

end SearchAnnotation.Binary64
