import Mathlib.Algebra.Order.Field.Power
import Mathlib.Data.Rat.Cast.Order
import Mathlib.Tactic.FieldSimp
import Mathlib.Tactic.Linarith
import Mathlib.Tactic.Positivity
import SearchAnnotation.Proofs.ExactValues

/-!
# Quotients near a binary64 number

Rounding a quotient chooses the power of two whose multiples are considered, and the nearest of
these multiples. Both depend on the value of the quotient alone, not on how it is written. A
quotient that differs from a positive finite number by less than the fifty-fourth part in binary
digits of it is rounded to that number.
-/

namespace SearchAnnotation.Binary64

variable {num den num' den' : Nat} {x : Binary64}

/-- Whether a power of two is the unit of a positive value: in these units the value has at most
fifty-three binary digits, and no fewer unless it is the smallest unit. -/
structure IsUnit (value : ℚ) (power : ℤ) : Prop where
  /-- The unit is not below the smallest one. -/
  least : -1074 ≤ power
  /-- The value has at most fifty-three digits. -/
  below : value < 2 * fractionValues * 2 ^ power
  /-- It has no fewer, or the unit is the smallest one. -/
  above : power = -1074 ∨ fractionValues * 2 ^ power ≤ value

/-- A value has one unit only. -/
theorem IsUnit.unique {value : ℚ} {p q : ℤ} (hp : IsUnit value p) (hq : IsUnit value q) :
    p = q := by
  have hle : ∀ {p q : ℤ}, IsUnit value p → IsUnit value q → q ≤ p := by
    intro p q hp hq
    by_contra hlt
    have habove := hq.above.resolve_left (by have := hp.least; omega)
    have hpow : (2 : ℚ) ^ (p + 1) ≤ 2 ^ q := zpow_le_zpow_right₀ (by norm_num) (by omega)
    rw [zpow_add_one₀ (by norm_num)] at hpow
    have hbelow := hp.below
    linarith [mul_le_mul_of_nonneg_left hpow (Nat.cast_nonneg (α := ℚ) fractionValues)]
  exact le_antisymm (hle hq hp) (hle hp hq)

/-- A quotient divided by a power of some base. -/
def shift (base num den : Nat) (power : ℤ) : Nat × Nat :=
  if 0 ≤ power then (num, den * base ^ power.toNat) else (num * base ^ (-power).toNat, den)

theorem shift_pos {base : Nat} (hbase : 0 < base) (num : Nat) (hden : 0 < den) (power : ℤ) :
    0 < (shift base num den power).2 := by
  unfold shift
  split
  · exact Nat.mul_pos hden (Nat.pow_pos hbase)
  · exact hden

theorem shift_ratio {base : Nat} (hbase : 0 < base) (num : Nat) (hden : 0 < den) (power : ℤ) :
    ((shift base num den power).1 : ℚ) / (shift base num den power).2 * base ^ power =
      num / den := by
  have hden' : (den : ℚ) ≠ 0 := Nat.cast_ne_zero.mpr hden.ne'
  have hbase' : (base : ℚ) ≠ 0 := Nat.cast_ne_zero.mpr hbase.ne'
  unfold shift
  split
  · next hpos =>
    obtain ⟨n, rfl⟩ := Int.eq_ofNat_of_zero_le hpos
    rw [Int.toNat_natCast, zpow_natCast, Nat.cast_mul, Nat.cast_pow]
    field_simp
  · next hneg =>
    obtain ⟨n, rfl⟩ : ∃ n : Nat, power = -(n : ℤ) := ⟨(-power).toNat, by omega⟩
    rw [neg_neg, Int.toNat_natCast, zpow_neg, zpow_natCast, Nat.cast_mul, Nat.cast_pow]
    field_simp

/-- A natural number times a power of some base, as a quotient. -/
def powerRatio (base factor : Nat) (power : ℤ) : Nat × Nat :=
  if 0 ≤ power then (factor * base ^ power.toNat, 1) else (factor, base ^ (-power).toNat)

theorem powerRatio_pos {base : Nat} (hbase : 0 < base) (factor : Nat) (power : ℤ) :
    0 < (powerRatio base factor power).2 := by
  unfold powerRatio
  split
  · exact Nat.one_pos
  · exact Nat.pow_pos hbase

theorem powerRatio_value (base factor : Nat) (power : ℤ) :
    ((powerRatio base factor power).1 : ℚ) / (powerRatio base factor power).2 =
      factor * base ^ power := by
  unfold powerRatio
  split
  · next hpos =>
    obtain ⟨n, rfl⟩ := Int.eq_ofNat_of_zero_le hpos
    rw [Int.toNat_natCast, zpow_natCast, Nat.cast_mul, Nat.cast_pow, Nat.cast_one, div_one]
  · next hneg =>
    obtain ⟨n, rfl⟩ : ∃ n : Nat, power = -(n : ℤ) := ⟨(-power).toNat, by omega⟩
    rw [neg_neg, Int.toNat_natCast, zpow_neg, zpow_natCast, Nat.cast_pow, div_eq_mul_inv]

theorem unscale_pos (hden : 0 < den) (power : ℤ) : 0 < (unscale num den power).2 :=
  shift_pos Nat.two_pos num hden power

/-- A quotient in units of a power of two. -/
theorem unscale_ratio (num : Nat) (hden : 0 < den) (power : ℤ) :
    ((unscale num den power).1 : ℚ) / (unscale num den power).2 * 2 ^ power = num / den :=
  shift_ratio Nat.two_pos num hden power

theorem fractionValues_eq : (fractionValues : ℚ) = 2 ^ (52 : ℤ) := by norm_num

/-- Quotients of one value have one value in each unit. -/
theorem unscale_congr (hden : 0 < den) (hden' : 0 < den') (power : ℤ)
    (h : (num : ℚ) / den = num' / den') :
    (unscale num den power).1 * (unscale num' den' power).2 =
      (unscale num' den' power).1 * (unscale num den power).2 := by
  rw [← unscale_ratio num hden power, ← unscale_ratio num' hden' power,
    mul_left_inj' (zpow_ne_zero power (by norm_num)),
    div_eq_div_iff (Nat.cast_ne_zero.mpr (unscale_pos hden power).ne')
      (Nat.cast_ne_zero.mpr (unscale_pos hden' power).ne')] at h
  exact_mod_cast h

/-- The binary logarithms of both parts bound a quotient. -/
theorem ratio_bounds (hnum : 0 < num) (hden : 0 < den) :
    (2 : ℚ) ^ ((num.log2 : ℤ) - den.log2 - 1) ≤ num / den ∧
      (num : ℚ) / den < 2 ^ ((num.log2 : ℤ) - den.log2 + 1) := by
  have hpos : (0 : ℚ) < den := Nat.cast_pos.mpr hden
  have hnumLow : (2 : ℚ) ^ num.log2 ≤ num := by exact_mod_cast Nat.log2_self_le hnum.ne'
  have hnumHigh : (num : ℚ) < 2 ^ (num.log2 + 1) := by exact_mod_cast Nat.lt_log2_self
  have hdenLow : (2 : ℚ) ^ den.log2 ≤ den := by exact_mod_cast Nat.log2_self_le hden.ne'
  have hdenHigh : (den : ℚ) ≤ 2 ^ (den.log2 + 1) := by exact_mod_cast Nat.lt_log2_self.le
  constructor
  · rw [le_div_iff₀ hpos]
    calc (2 : ℚ) ^ ((num.log2 : ℤ) - den.log2 - 1) * den
        ≤ 2 ^ ((num.log2 : ℤ) - den.log2 - 1) * 2 ^ (den.log2 + 1) :=
          mul_le_mul_of_nonneg_left hdenHigh (zpow_nonneg (by norm_num) _)
      _ = 2 ^ num.log2 := by
          rw [← zpow_natCast, ← zpow_natCast, ← zpow_add₀ (by norm_num)]
          congr 1
          push_cast
          ring
      _ ≤ num := hnumLow
  · rw [div_lt_iff₀ hpos]
    calc (num : ℚ) < 2 ^ (num.log2 + 1) := hnumHigh
      _ = 2 ^ ((num.log2 : ℤ) - den.log2 + 1) * 2 ^ den.log2 := by
          rw [← zpow_natCast, ← zpow_natCast, ← zpow_add₀ (by norm_num)]
          congr 1
          push_cast
          ring
      _ ≤ 2 ^ ((num.log2 : ℤ) - den.log2 + 1) * den :=
          mul_le_mul_of_nonneg_left hdenLow (zpow_nonneg (by norm_num) _)

/-- A value is compared in units of a power of two. -/
theorem unscale_lt_iff (hden : 0 < den) (power : ℤ) {bound : Nat} :
    (unscale num den power).1 < (unscale num den power).2 * bound ↔
      (num : ℚ) / den < bound * 2 ^ power := by
  have hpos : (0 : ℚ) < (unscale num den power).2 := Nat.cast_pos.mpr (unscale_pos hden power)
  rw [← unscale_ratio num hden power, mul_lt_mul_iff_left₀ (zpow_pos (by norm_num) _),
    div_lt_iff₀ hpos, mul_comm (bound : ℚ), ← Nat.cast_mul, Nat.cast_lt]

/-- The computed power is the unit of the quotient. -/
theorem isUnit_unitPower (hnum : 0 < num) (hden : 0 < den) :
    IsUnit ((num : ℚ) / den) (unitPower num den) := by
  obtain ⟨hlow, hhigh⟩ := ratio_bounds hnum hden
  have htwo : (2 : ℚ) ≠ 0 := by norm_num
  have hunit : ∀ {power : ℤ}, (num : ℚ) / den < 2 * fractionValues * 2 ^ power →
      fractionValues * 2 ^ power ≤ (num : ℚ) / den →
        IsUnit ((num : ℚ) / den) (max (-1074) power) := by
    intro power hbelow habove
    refine ⟨le_max_left _ _, hbelow.trans_le ?_, ?_⟩
    · exact mul_le_mul_of_nonneg_left (zpow_le_zpow_right₀ (by norm_num) (le_max_right _ _))
        (by positivity)
    · rcases le_total power (-1074) with h | h
      · exact .inl (max_eq_left h)
      · exact .inr (by rw [max_eq_right h]; exact habove)
  -- The logarithms leave two powers, one apart, of which a comparison picks the right one.
  unfold unitPower
  simp only [unscale_lt_iff hden]
  split
  · next hbelow =>
    refine hunit (by exact_mod_cast hbelow) (le_trans (le_of_eq ?_) hlow)
    rw [fractionValues_eq, ← zpow_add₀ htwo]
    congr 1
    ring
  · next habove =>
    have hnext : ((2 * fractionValues : Nat) : ℚ) * 2 ^ ((num.log2 : ℤ) - den.log2 - 53) =
        fractionValues * 2 ^ ((num.log2 : ℤ) - den.log2 - 53 + 1) := by
      rw [zpow_add_one₀ htwo, Nat.cast_mul, Nat.cast_ofNat]
      ring
    refine hunit (lt_of_lt_of_eq hhigh ?_) (hnext ▸ not_lt.mp habove)
    rw [fractionValues_eq, ← zpow_one_add₀ htwo, ← zpow_add₀ htwo]
    congr 1
    ring

theorem roundHalfEven_mul_right (num den : Nat) {c : Nat} (hc : 0 < c) :
    roundHalfEven (num * c) (den * c) = roundHalfEven num den := by
  have hlt : ∀ {a b : Nat}, a * c < b * c ↔ a < b := Nat.mul_lt_mul_right hc
  simp only [roundHalfEven, Nat.mul_div_mul_right num den hc, Nat.mul_mod_mul_right,
    ← Nat.mul_assoc, hlt]

/-- The nearest natural number is determined by the value. -/
theorem roundHalfEven_congr (hden : 0 < den) (hden' : 0 < den') (h : num * den' = num' * den) :
    roundHalfEven num den = roundHalfEven num' den' := by
  rw [← roundHalfEven_mul_right num den hden', h, Nat.mul_comm den den',
    roundHalfEven_mul_right num' den' hden]

/-- A quotient is its whole part and the rest. -/
theorem div_eq_whole_add_rest (num : Nat) (hden : 0 < den) :
    (num : ℚ) / den = (num / den : Nat) + ((num % den : Nat) : ℚ) / den := by
  have hpos : (den : ℚ) ≠ 0 := Nat.cast_ne_zero.mpr hden.ne'
  have hnum : (num : ℚ) = den * (num / den : Nat) + (num % den : Nat) := by
    exact_mod_cast (Nat.div_add_mod num den).symm
  rw [eq_comm, eq_div_iff hpos, add_mul, div_mul_cancel₀ _ hpos, mul_comm, ← hnum]

theorem twice_rest_lt_iff (hden : 0 < den) {m rest : Nat} :
    (rest : ℚ) / den * 2 < m ↔ 2 * rest < m * den := by
  rw [div_mul_eq_mul_div, div_lt_iff₀ (Nat.cast_pos.mpr hden), mul_comm]
  exact_mod_cast Iff.rfl

theorem lt_twice_rest_iff (hden : 0 < den) {m rest : Nat} :
    (m : ℚ) < (rest : ℚ) / den * 2 ↔ m * den < 2 * rest := by
  rw [div_mul_eq_mul_div, lt_div_iff₀ (Nat.cast_pos.mpr hden), mul_comm _ (2 : ℚ)]
  exact_mod_cast Iff.rfl

/-- The nearest natural number is off by a half at most. -/
theorem roundHalfEven_error (num : Nat) (hden : 0 < den) :
    |(roundHalfEven num den : ℚ) - num / den| ≤ 1 / 2 := by
  have hnonneg : 0 ≤ ((num % den : Nat) : ℚ) / den := by positivity
  have hrest : ((num % den : Nat) : ℚ) / den * 2 < (2 : Nat) :=
    (twice_rest_lt_iff hden).mpr (by have := Nat.mod_lt num hden; omega)
  have hone : ((num % den : Nat) : ℚ) / den * 2 < (1 : Nat) ↔ 2 * (num % den) < 1 * den :=
    twice_rest_lt_iff hden
  have hone' : ((1 : Nat) : ℚ) < ((num % den : Nat) : ℚ) / den * 2 ↔ 1 * den < 2 * (num % den) :=
    lt_twice_rest_iff hden
  rw [Nat.one_mul, Nat.cast_one] at hone hone'
  rw [Nat.cast_ofNat] at hrest
  rw [div_eq_whole_add_rest num hden, roundHalfEven]
  generalize ((num % den : Nat) : ℚ) / den = part at *
  split
  · next hlt =>
    have hpart := hone.mpr hlt
    rw [abs_le]
    constructor <;> linarith
  · next hge =>
    have hpart := not_lt.mp fun h => hge (hone.mp h)
    split
    · rw [Nat.cast_add, Nat.cast_one, abs_le]
      constructor <;> linarith
    · next hle =>
      have hpart' := not_lt.mp fun h => hle (hone'.mp h)
      have hodd : ((num / den % 2 : Nat) : ℚ) = 0 ∨ ((num / den % 2 : Nat) : ℚ) = 1 := by
        rcases Nat.mod_two_eq_zero_or_one (num / den) with h | h <;> simp [h]
      rw [Nat.cast_add, abs_le]
      rcases hodd with h | h <;> rw [h] <;> constructor <;> linarith

/-- Quotients of one value are rounded to one number. -/
theorem ofRatio_congr (negative : Bool) (hden : 0 < den) (hden' : 0 < den')
    (h : (num : ℚ) / den = num' / den') :
    ofRatio negative num den = ofRatio negative num' den' := by
  have hcast : (den : ℚ) ≠ 0 := Nat.cast_ne_zero.mpr hden.ne'
  have hcast' : (den' : ℚ) ≠ 0 := Nat.cast_ne_zero.mpr hden'.ne'
  have hzero : num = 0 ↔ num' = 0 := by
    have hiff : (num : ℚ) = 0 ↔ (num' : ℚ) = 0 := by
      rw [← div_left_inj' hcast, zero_div, h, div_eq_zero_iff, or_iff_left hcast']
    exact_mod_cast hiff
  by_cases hnum : num = 0
  · rw [ofRatio, ofRatio, if_pos hnum, if_pos (hzero.mp hnum)]
  · have hnum' := hnum ∘ hzero.mpr
    have hpower : unitPower num den = unitPower num' den' :=
      (isUnit_unitPower (Nat.pos_of_ne_zero hnum) hden).unique
        (h ▸ isUnit_unitPower (Nat.pos_of_ne_zero hnum') hden')
    rw [ofRatio, ofRatio, if_neg hnum, if_neg hnum', hpower]
    simp only
    rw [roundHalfEven_congr (unscale_pos hden _) (unscale_pos hden' _)
      (unscale_congr hden hden' _ h)]

/-- The magnitude of a finite number. -/
def magnitude (x : Binary64) : ℚ := x.significand * 2 ^ x.scale

/-- The quotient of a number has the value of its magnitude. -/
theorem ratio_magnitude (x : Binary64) : (x.ratio.1 : ℚ) / x.ratio.2 = x.magnitude := by
  have hratio := powerRatio_value 2 x.significand x.scale
  exact_mod_cast hratio

theorem scale_eq (x : Binary64) : x.scale = ((x.exponent.val - 1 : Nat) : ℤ) - 1074 := by
  unfold scale
  split <;> omega

/-- Exponent and fraction field together, counted from the significand. -/
theorem fields_eq (x : Binary64) : (x.exponent.val - 1) * fractionValues + x.significand =
    x.exponent.val * fractionValues + x.fraction.val := by
  by_cases he : x.exponent.val = 0
  · rw [significand, if_pos he, he]
  · obtain ⟨n, hn⟩ := Nat.exists_eq_succ_of_ne_zero he
    rw [significand, if_neg he, hn, Nat.succ_sub_one, Nat.succ_mul, Nat.add_assoc]

/-- Natural numbers less than one apart are the same. -/
theorem eq_of_lt_add_one {m n : Nat} (hlow : (m : ℚ) < n + 1) (hhigh : (n : ℚ) < m + 1) :
    m = n := by
  have hlow' : m < n + 1 := by exact_mod_cast hlow
  have hhigh' : n < m + 1 := by exact_mod_cast hhigh
  omega

theorem near_bounds {value target : ℚ} (near : |value - target| * 2 ^ 54 < target) :
    target - target / 2 ^ 54 < value ∧ value < target + target / 2 ^ 54 := by
  rw [← lt_div_iff₀ (by norm_num), abs_lt] at near
  exact ⟨by linarith [near.1], by linarith [near.2]⟩

theorem fractionValues_le_significand {power : ℤ} (least : -1074 ≤ power) (h : power < x.scale) :
    (fractionValues : ℚ) ≤ x.significand := by
  have hscale := x.scale_eq
  exact_mod_cast le_significand (x := x) (by omega)

/-- The unit of a value near a number is not a quarter of the number's or less. -/
theorem scale_le_of_near {value : ℚ} {power : ℤ} (least : -1074 ≤ power)
    (below : value < 2 * fractionValues)
    (near : |value - x.significand * 2 ^ (x.scale - power)| * 2 ^ 54 <
      x.significand * 2 ^ (x.scale - power)) : x.scale ≤ power + 1 := by
  by_contra hfar
  have hfull := fractionValues_le_significand least (by omega : power < x.scale)
  have hfour : (4 : ℚ) ≤ 2 ^ (x.scale - power) :=
    calc (4 : ℚ) = 2 ^ (2 : ℤ) := by norm_num
      _ ≤ 2 ^ (x.scale - power) := zpow_le_zpow_right₀ (by norm_num) (by omega)
  have hlarge : (4 * fractionValues : ℚ) ≤ x.significand * 2 ^ (x.scale - power) :=
    calc (4 * fractionValues : ℚ) = fractionValues * 4 := mul_comm _ _
      _ ≤ x.significand * 2 ^ (x.scale - power) :=
        mul_le_mul hfull hfour (by norm_num) (by positivity)
  have hpos : (0 : ℚ) < fractionValues := by norm_num
  linarith [(near_bounds near).1]

/-- Nor is it larger than the number's. -/
theorem le_scale_of_near {value : ℚ} {power : ℤ}
    (above : power = -1074 ∨ fractionValues ≤ value)
    (near : |value - x.significand * 2 ^ (x.scale - power)| * 2 ^ 54 <
      x.significand * 2 ^ (x.scale - power)) : power ≤ x.scale := by
  by_contra hmore
  have hscale := x.scale_eq
  have hvalue := above.resolve_left (by omega)
  have hcount : (fractionValues : ℚ) = 4503599627370496 := by norm_num
  have hlt : (x.significand : ℚ) + 1 ≤ 2 * fractionValues := by exact_mod_cast x.significand_lt
  have hhalf : (2 : ℚ) ^ (x.scale - power) ≤ 1 / 2 :=
    calc (2 : ℚ) ^ (x.scale - power) ≤ 2 ^ (-1 : ℤ) :=
          zpow_le_zpow_right₀ (by norm_num) (by omega)
      _ = 1 / 2 := by norm_num
  have hsmall : x.significand * 2 ^ (x.scale - power) ≤ (2 * fractionValues - 1 : ℚ) * (1 / 2) :=
    mul_le_mul (by linarith) hhalf (by positivity) (by linarith)
  linarith [(near_bounds near).2]

/-- In the number's own unit, a value near it is rounded to its significand. -/
theorem round_of_near {value : ℚ} {r : Nat} (error : |(r : ℚ) - value| ≤ 1 / 2)
    (near : |value - x.significand| * 2 ^ 54 < x.significand) : r = x.significand := by
  have hcount : (fractionValues : ℚ) = 4503599627370496 := by norm_num
  have hlt : (x.significand : ℚ) + 1 ≤ 2 * fractionValues := by exact_mod_cast x.significand_lt
  obtain ⟨herrorLow, herrorHigh⟩ := abs_le.mp error
  obtain ⟨hlow, hhigh⟩ := near_bounds near
  exact eq_of_lt_add_one (by linarith) (by linarith)

/-- In half this unit, a value near the number lies just below it, and the number is a power of two,
to which the value is rounded. -/
theorem round_of_near_half {value : ℚ} {r : Nat} (full : (fractionValues : ℚ) ≤ x.significand)
    (below : value < 2 * fractionValues) (error : |(r : ℚ) - value| ≤ 1 / 2)
    (near : |value - x.significand * 2| * 2 ^ 54 < x.significand * 2) :
    x.significand = fractionValues ∧ r = 2 * fractionValues := by
  have hcount : (fractionValues : ℚ) = 4503599627370496 := by norm_num
  have hlt : (x.significand : ℚ) + 1 ≤ 2 * fractionValues := by exact_mod_cast x.significand_lt
  obtain ⟨herrorLow, herrorHigh⟩ := abs_le.mp error
  obtain ⟨hlow, -⟩ := near_bounds near
  have hsignificand : x.significand = fractionValues :=
    eq_of_lt_add_one (by linarith) (by linarith)
  rw [hsignificand] at hlow
  refine ⟨hsignificand, eq_of_lt_add_one ?_ ?_⟩
  · push_cast
    linarith
  · push_cast
    linarith

/-- A value near a number, taken in its own unit and rounded there, gives the fields of that
number. -/
theorem fields_of_near {value : ℚ} {power : ℤ} {r : Nat} (least : -1074 ≤ power)
    (below : value < 2 * fractionValues) (above : power = -1074 ∨ fractionValues ≤ value)
    (error : |(r : ℚ) - value| ≤ 1 / 2)
    (near : |value - x.significand * 2 ^ (x.scale - power)| * 2 ^ 54 <
      x.significand * 2 ^ (x.scale - power)) :
    (power + 1074).toNat * fractionValues + r =
      x.exponent.val * fractionValues + x.fraction.val := by
  have hscale := x.scale_eq
  rw [← fields_eq]
  rcases eq_or_lt_of_le (le_scale_of_near above near) with rfl | hless
  · rw [sub_self, zpow_zero, mul_one] at near
    have hunit : x.exponent.val - 1 = (x.scale + 1074).toNat := by omega
    rw [round_of_near error near, hunit]
  · have hnext : x.scale = power + 1 :=
      le_antisymm (scale_le_of_near least below near) (Int.add_one_le_of_lt hless)
    rw [hnext, add_sub_cancel_left, zpow_one] at near
    obtain ⟨hsignificand, hr⟩ := round_of_near_half (fractionValues_le_significand least hless)
      below error near
    have hunit : x.exponent.val - 1 = (power + 1074).toNat + 1 := by omega
    rw [hr, hsignificand, hunit]
    ring

/-- The fields of a finite number make up the number. -/
theorem ofMagnitude_fields (finite : x.isFinite = true) :
    ofMagnitude x.negative (x.exponent.val * fractionValues + x.fraction.val) = x := by
  have he : x.exponent.val ≠ 2047 := bne_iff_ne.mp finite
  have hexponent := x.exponent.isLt
  have hfraction := x.fraction.isLt
  have hbits : x.exponent.val * fractionValues + x.fraction.val < 2047 * fractionValues :=
    calc x.exponent.val * fractionValues + x.fraction.val
        < x.exponent.val * fractionValues + fractionValues := Nat.add_lt_add_left hfraction _
      _ = (x.exponent.val + 1) * fractionValues := (Nat.succ_mul _ _).symm
      _ ≤ 2047 * fractionValues := Nat.mul_le_mul_right _ (by omega)
  have hdiv : (x.exponent.val * fractionValues + x.fraction.val) / fractionValues =
      x.exponent.val := by
    rw [Nat.mul_comm, Nat.mul_add_div (Nat.zero_lt_of_lt hfraction), Nat.div_eq_of_lt hfraction,
      Nat.add_zero]
  have hmod : (x.exponent.val * fractionValues + x.fraction.val) % fractionValues =
      x.fraction.val := by
    rw [Nat.mul_comm, Nat.mul_add_mod, Nat.mod_eq_of_lt hfraction]
  rw [ofMagnitude, dif_pos hbits]
  obtain ⟨negative, exponent, fraction⟩ := x
  simp only [hdiv, hmod]

/-- A quotient that differs from a finite number by less than this part of it is rounded to it. -/
theorem ofRatio_of_near (finite : x.isFinite = true) (hden : 0 < den)
    (near : |(num : ℚ) / den - x.magnitude| * 2 ^ 54 < x.magnitude) :
    ofRatio x.negative num den = x := by
  have hpos : 0 < x.magnitude := lt_of_le_of_lt (by positivity) near
  have hnum : 0 < num := by
    refine Nat.pos_of_ne_zero fun hzero => ?_
    rw [hzero, Nat.cast_zero, zero_div, zero_sub, abs_neg, abs_of_pos hpos] at near
    linarith
  have hunit := isUnit_unitPower hnum hden
  have hratio := unscale_ratio num hden (unitPower num den)
  have hscaled : 0 < (unscale num den (unitPower num den)).2 := unscale_pos hden _
  rw [ofRatio, if_neg hnum.ne']
  simp only
  generalize unscale num den (unitPower num den) = scaled at hratio hscaled ⊢
  generalize unitPower num den = power at hunit hratio ⊢
  have hpower : (0 : ℚ) < 2 ^ power := zpow_pos (by norm_num) _
  have hbelow := hunit.below
  have habove := hunit.above
  -- Everything is now said in units of the quotient.
  have hmagnitude : x.magnitude = x.significand * 2 ^ (x.scale - power) * 2 ^ power := by
    rw [magnitude, mul_assoc, ← zpow_add₀ (by norm_num), sub_add_cancel]
  rw [← hratio, hmagnitude, ← sub_mul, abs_mul, abs_of_pos hpower, mul_right_comm,
    mul_lt_mul_iff_left₀ hpower] at near
  rw [← hratio, mul_lt_mul_iff_left₀ hpower] at hbelow
  rw [← hratio, mul_le_mul_iff_left₀ hpower] at habove
  rw [fields_of_near hunit.least hbelow habove (roundHalfEven_error scaled.1 hscaled) near,
    ofMagnitude_fields finite]

end SearchAnnotation.Binary64
