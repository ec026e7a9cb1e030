import SearchAnnotation.Number.Shortest
import SearchAnnotation.Proofs.NearestNumbers

/-!
# Shortest decimals read back

Reading a decimal depends on its value alone, so zeros at its end do not matter. Of a finite number
that is not zero, the nearest decimal with seventeen digits is read back as the number. The search
for the shortest decimal therefore always finds one, and what it finds is read back.
-/

namespace SearchAnnotation

/-- The value of a decimal. -/
def Decimal.value (d : Decimal) : ℚ := d.digits * 10 ^ d.exponent

namespace Binary64

variable {x : Binary64} {digits num den : Nat}

theorem lt_length_toDigits {n k : Nat} (h : 10 ^ k ≤ n) : k < (Nat.toDigits 10 n).length := by
  rcases Nat.eq_zero_or_pos k with rfl | hk
  · exact Nat.length_toDigits_pos
  · exact Nat.lt_of_not_le fun hle =>
      absurd ((Nat.length_toDigits_le_iff (by decide) hk).mp hle) (Nat.not_lt.mpr h)

theorem length_toDigits_le {n k : Nat} (hk : 0 < k) (h : n < 10 ^ k) :
    (Nat.toDigits 10 n).length ≤ k :=
  (Nat.length_toDigits_le_iff (by decide) hk).mpr h

/-- A positive number lies between the powers of ten that its count of digits gives. -/
theorem length_toDigits_bounds {n : Nat} (hn : 0 < n) :
    10 ^ ((Nat.toDigits 10 n).length - 1) ≤ n ∧ n < 10 ^ (Nat.toDigits 10 n).length := by
  have hpos : 0 < (Nat.toDigits 10 n).length := Nat.length_toDigits_pos
  constructor
  · by_cases hone : (Nat.toDigits 10 n).length - 1 = 0
    · rw [hone, Nat.pow_zero]
      exact hn
    · by_contra hlt
      have hle := length_toDigits_le (Nat.pos_of_ne_zero hone) (Nat.not_le.mp hlt)
      omega
  · exact (Nat.length_toDigits_le_iff (by decide) hpos).mp le_rfl

/-- Zeros at the end are counted. -/
theorem length_toDigits_mul_pow (hdigits : 0 < digits) (zeros : Nat) :
    (Nat.toDigits 10 (digits * 10 ^ zeros)).length = (Nat.toDigits 10 digits).length + zeros := by
  have hpos : 0 < (Nat.toDigits 10 digits).length := Nat.length_toDigits_pos
  obtain ⟨hlow, hhigh⟩ := length_toDigits_bounds hdigits
  have hle : (Nat.toDigits 10 (digits * 10 ^ zeros)).length ≤
      (Nat.toDigits 10 digits).length + zeros := by
    refine length_toDigits_le (by omega) ?_
    rw [Nat.pow_add]
    exact Nat.mul_lt_mul_of_pos_right hhigh (Nat.pow_pos (by decide))
  have hlt : (Nat.toDigits 10 digits).length - 1 + zeros <
      (Nat.toDigits 10 (digits * 10 ^ zeros)).length := by
    refine lt_length_toDigits ?_
    rw [Nat.pow_add]
    exact Nat.mul_le_mul_right _ hlow
  omega

/-- How a decimal that is not zero is read. -/
theorem ofDecimal_eq (negative : Bool) (hdigits : 0 < digits) (exponent : ℤ) :
    ofDecimal negative digits exponent =
      if 310 < ((Nat.toDigits 10 digits).length : ℤ) + exponent then infinity negative
      else if ((Nat.toDigits 10 digits).length : ℤ) + exponent < -330 then zero negative
      else ofRatio negative (powerRatio 10 digits exponent).1
        (powerRatio 10 digits exponent).2 := by
  rw [ofDecimal, if_neg hdigits.ne']
  by_cases hexponent : 0 ≤ exponent
  · simp only [powerRatio, hexponent, if_true, Nat.pow_eq]
  · simp only [powerRatio, hexponent, if_false, Nat.pow_eq]

/-- Zeros at the end of a decimal do not matter. -/
theorem ofDecimal_mul_pow (negative : Bool) (hdigits : 0 < digits) (zeros : Nat) (exponent : ℤ) :
    ofDecimal negative (digits * 10 ^ zeros) exponent =
      ofDecimal negative digits (exponent + zeros) := by
  have hpos : 0 < digits * 10 ^ zeros := Nat.mul_pos hdigits (Nat.pow_pos (by decide))
  have hten : 0 < 10 := by decide
  have hsize : ((Nat.toDigits 10 (digits * 10 ^ zeros)).length : ℤ) + exponent =
      (Nat.toDigits 10 digits).length + (exponent + zeros) := by
    rw [length_toDigits_mul_pow hdigits]
    push_cast
    ring
  have hvalue : ((digits * 10 ^ zeros : Nat) : ℚ) * (10 : Nat) ^ exponent =
      digits * (10 : Nat) ^ (exponent + zeros) := by
    rw [zpow_add₀ (by norm_num), zpow_natCast]
    push_cast
    ring
  rw [ofDecimal_eq negative hpos, ofDecimal_eq negative hdigits, hsize,
    ofRatio_congr negative (powerRatio_pos hten _ _) (powerRatio_pos hten _ _)]
  rw [powerRatio_value, powerRatio_value, hvalue]

/-- Of two decimals of one value, that with the smaller exponent has zeros more. -/
theorem digits_eq_of_value {d d' : Decimal} (h : d.value = d'.value)
    (hle : d.exponent ≤ d'.exponent) :
    d.digits = d'.digits * 10 ^ (d'.exponent - d.exponent).toNat := by
  obtain ⟨zeros, hzeros⟩ := Int.eq_ofNat_of_zero_le (sub_nonneg.mpr hle)
  have hexponent : d'.exponent = d.exponent + zeros := by omega
  rw [hzeros, Int.toNat_natCast]
  rw [Decimal.value, Decimal.value, hexponent, zpow_add₀ (by norm_num), zpow_natCast, mul_left_comm,
    mul_comm, mul_right_inj' (zpow_ne_zero _ (by norm_num))] at h
  exact_mod_cast h

/-- Decimals of one value are read as one number. -/
theorem ofDecimal_congr (negative : Bool) {d d' : Decimal} (hd : 0 < d.digits)
    (hd' : 0 < d'.digits) (h : d.value = d'.value) :
    ofDecimal negative d.digits d.exponent = ofDecimal negative d'.digits d'.exponent := by
  have hread : ∀ {d d' : Decimal}, 0 < d'.digits → d.value = d'.value →
      d.exponent ≤ d'.exponent →
        ofDecimal negative d.digits d.exponent = ofDecimal negative d'.digits d'.exponent := by
    intro d d' hpos hvalue hle
    rw [digits_eq_of_value hvalue hle, ofDecimal_mul_pow negative hpos]
    congr 1
    omega
  rcases le_total d.exponent d'.exponent with hle | hle
  · exact hread hd' h hle
  · exact (hread hd h.symm hle).symm

/-- The powers of ten that the count of digits of the whole part gives bound a quotient. -/
theorem div_bounds (hden : 0 < den) (hle : den ≤ num) :
    (10 : ℚ) ^ ((Nat.toDigits 10 (num / den)).length - 1) ≤ num / den ∧
      (num : ℚ) / den < 10 ^ (Nat.toDigits 10 (num / den)).length := by
  have hpos : (0 : ℚ) < den := Nat.cast_pos.mpr hden
  obtain ⟨hlow, hhigh⟩ := length_toDigits_bounds (Nat.div_pos hle hden)
  constructor
  · rw [le_div_iff₀ hpos]
    exact_mod_cast (Nat.le_div_iff_mul_le hden).mp hlow
  · rw [div_lt_iff₀ hpos]
    exact_mod_cast (Nat.div_lt_iff_lt_mul hden).mp hhigh

/-- The leading power of a positive quotient bounds it. -/
theorem leadingPower_bounds (hnum : 0 < num) (hden : 0 < den) :
    (10 : ℚ) ^ leadingPower num den ≤ num / den ∧
      (num : ℚ) / den < 10 ^ (leadingPower num den + 1) := by
  have hten : (1 : ℚ) < 10 := by norm_num
  unfold leadingPower
  split
  · next hle =>
    obtain ⟨hlow, hhigh⟩ := div_bounds hden hle
    have hpos : 0 < (Nat.toDigits 10 (num / den)).length := Nat.length_toDigits_pos
    rw [sub_add_cancel, zpow_natCast, ← Nat.cast_pred hpos, zpow_natCast]
    exact ⟨hlow, hhigh⟩
  · next hlt =>
    have hle : num ≤ den := by omega
    obtain ⟨hlow, hhigh⟩ := div_bounds hnum hle
    have hpos : 0 < (Nat.toDigits 10 (den / num)).length := Nat.length_toDigits_pos
    generalize (Nat.toDigits 10 (den / num)).length = size at hlow hhigh hpos
    have hquotient : (0 : ℚ) < den / num := div_pos (Nat.cast_pos.mpr hden) (Nat.cast_pos.mpr hnum)
    have hhigh' : (10 : ℚ) ^ (-(size : ℤ)) < num / den := by
      rw [zpow_neg, zpow_natCast, ← inv_div, inv_lt_inv₀ (by positivity) hquotient]
      exact hhigh
    have hlow' : (num : ℚ) / den ≤ 10 ^ (-((size - 1 : Nat) : ℤ)) := by
      rw [zpow_neg, zpow_natCast, ← inv_div, inv_le_inv₀ hquotient (by positivity)]
      exact hlow
    have hcompare : den ≤ num * 10 ^ (size - 1) ↔
        (10 : ℚ) ^ (-((size - 1 : Nat) : ℤ)) ≤ num / den := by
      rw [zpow_neg, zpow_natCast, inv_le_iff_one_le_mul₀ (by positivity), div_mul_eq_mul_div,
        one_le_div (Nat.cast_pos.mpr hden)]
      exact_mod_cast Iff.rfl
    simp only [Nat.pow_eq]
    split
    · next hat =>
      refine ⟨hcompare.mp hat, lt_of_le_of_lt hlow' ?_⟩
      exact zpow_lt_zpow_right₀ hten (by omega)
    · next hbelow =>
      refine ⟨hhigh'.le, lt_of_lt_of_eq (not_le.mp fun h => hbelow (hcompare.mpr h)) ?_⟩
      congr 1
      omega

theorem inUnits_pos (num : Nat) (hden : 0 < den) (power : ℤ) : 0 < (inUnits num den power).2 :=
  shift_pos (by decide : 0 < 10) num hden power

theorem inUnits_ratio (num : Nat) (hden : 0 < den) (power : ℤ) :
    ((inUnits num den power).1 : ℚ) / (inUnits num den power).2 * 10 ^ power = num / den := by
  exact_mod_cast shift_ratio (by decide : 0 < 10) num hden power

/-- What is found on a grid is on the grid, and is read back. -/
theorem gridPoint?_eq_some {power : ℤ} {d : Decimal} (h : x.gridPoint? power = some d) :
    d.exponent = power ∧ ofDecimal x.negative d.digits d.exponent = x := by
  have hchoice : ∀ near far : Nat,
      (if (ofDecimal x.negative near power == x) = true then some (⟨near, power⟩ : Decimal)
        else if (ofDecimal x.negative far power == x) = true then some ⟨far, power⟩ else none) =
          some d → d.exponent = power ∧ ofDecimal x.negative d.digits d.exponent = x := by
    intro near far h
    split at h
    · next hback =>
      cases h
      exact ⟨rfl, beq_iff_eq.mp hback⟩
    · split at h
      · next hback =>
        cases h
        exact ⟨rfl, beq_iff_eq.mp hback⟩
      · cases h
  exact hchoice _ _ h

theorem significand_pos (nonzero : x.isZero = false) : 0 < x.significand := by
  refine Nat.pos_of_ne_zero fun hzero => ?_
  rw [isZero_iff.mpr (by rw [units, hzero, Nat.zero_mul])] at nonzero
  cases nonzero

theorem ratio_pos_of_nonzero (nonzero : x.isZero = false) : 0 < x.ratio.1 := by
  have hunits : 0 < x.units := Nat.mul_pos (significand_pos nonzero) (Nat.two_pow_pos _)
  refine Nat.pos_of_mul_pos_right (b := unitsOfOne) ?_
  rw [x.ratio_units]
  exact Nat.mul_pos hunits x.ratio_pos

/-- Finite numbers that are not zero lie between these powers of ten. -/
theorem magnitude_bounds (finite : x.isFinite = true) (nonzero : x.isZero = false) :
    (10 : ℚ) ^ (-324 : ℤ) ≤ x.magnitude ∧ x.magnitude < 10 ^ (309 : ℤ) := by
  have hexponent : x.exponent.val ≠ 2047 := bne_iff_ne.mp finite
  have hscale := x.scale_eq
  have hlt := x.exponent.isLt
  have hone : (1 : ℚ) ≤ x.significand := by exact_mod_cast significand_pos nonzero
  have hsignificand : (x.significand : ℚ) < 2 ^ (53 : ℤ) := by
    have h : (x.significand : ℚ) < 2 * fractionValues := by exact_mod_cast x.significand_lt
    exact lt_of_lt_of_eq h (by norm_num)
  have hleast : (10 : ℚ) ^ (-324 : ℤ) ≤ 2 ^ (-1074 : ℤ) := by
    have hpowers : 2 ^ 1074 ≤ 10 ^ 324 := by decide +kernel
    rw [zpow_neg, zpow_neg, inv_le_inv₀ (by positivity) (by positivity)]
    exact_mod_cast hpowers
  have hlargest : (2 : ℚ) ^ (1024 : ℤ) ≤ 10 ^ (309 : ℤ) := by
    have hpowers : 2 ^ 1024 ≤ 10 ^ 309 := by decide +kernel
    exact_mod_cast hpowers
  constructor
  · calc (10 : ℚ) ^ (-324 : ℤ) ≤ 2 ^ (-1074 : ℤ) := hleast
      _ ≤ 2 ^ x.scale := zpow_le_zpow_right₀ (by norm_num) (by omega)
      _ ≤ x.magnitude := le_mul_of_one_le_left (by positivity) hone
  · calc x.magnitude < 2 ^ (53 : ℤ) * 2 ^ x.scale :=
          mul_lt_mul_of_pos_right hsignificand (zpow_pos (by norm_num) _)
      _ = 2 ^ (53 + x.scale) := (zpow_add₀ (by norm_num) _ _).symm
      _ ≤ 2 ^ (1024 : ℤ) := zpow_le_zpow_right₀ (by norm_num) (by omega)
      _ ≤ 10 ^ (309 : ℤ) := hlargest

/-- A decimal with seventeen digits that is nearest to a number is read back. -/
theorem ofDecimal_of_nearest (finite : x.isFinite = true) (nonzero : x.isZero = false) {lead : ℤ}
    (leads : (10 : ℚ) ^ lead ≤ x.magnitude ∧ x.magnitude < 10 ^ (lead + 1))
    (nearest : |(digits : ℚ) - x.magnitude / 10 ^ (lead - 16)| ≤ 1 / 2) :
    ofDecimal x.negative digits (lead - 16) = x := by
  have hten : (1 : ℚ) < 10 := by norm_num
  obtain ⟨hleast, hlargest⟩ := magnitude_bounds finite nonzero
  have hlead : lead < 309 := (zpow_lt_zpow_iff_right₀ hten).mp (leads.1.trans_lt hlargest)
  have hlead' : -324 < lead + 1 := (zpow_lt_zpow_iff_right₀ hten).mp (hleast.trans_lt leads.2)
  have hgrid : (0 : ℚ) < 10 ^ (lead - 16) := zpow_pos (by norm_num) _
  have hunits : x.magnitude = x.magnitude / 10 ^ (lead - 16) * 10 ^ (lead - 16) :=
    (div_mul_cancel₀ _ hgrid.ne').symm
  -- In units of the grid the number has seventeen digits before the point.
  have hlow : (10 : ℚ) ^ 16 ≤ x.magnitude / 10 ^ (lead - 16) := by
    rw [le_div_iff₀ hgrid, ← zpow_natCast, ← zpow_add₀ (by norm_num)]
    refine le_of_eq_of_le (congrArg _ ?_) leads.1
    push_cast
    ring
  have hhigh : x.magnitude / 10 ^ (lead - 16) < (10 : ℚ) ^ 17 := by
    rw [div_lt_iff₀ hgrid, ← zpow_natCast, ← zpow_add₀ (by norm_num)]
    refine lt_of_lt_of_eq leads.2 (congrArg _ ?_)
    push_cast
    ring
  generalize x.magnitude / 10 ^ (lead - 16) = scaled at nearest hunits hlow hhigh
  obtain ⟨hfloor, hceil⟩ := abs_le.mp nearest
  have hdigits : 10 ^ 16 ≤ digits := by
    have h : (10 : ℚ) ^ 16 < digits + 1 := by linarith
    have h' : 10 ^ 16 < digits + 1 := by exact_mod_cast h
    omega
  have hdigits' : digits < 10 ^ 18 := by
    have h : (digits : ℚ) < 10 ^ 18 := by linarith
    exact_mod_cast h
  have hmany : 16 < (Nat.toDigits 10 digits).length := lt_length_toDigits hdigits
  have hfew : (Nat.toDigits 10 digits).length ≤ 18 := length_toDigits_le (by decide) hdigits'
  rw [ofDecimal_eq x.negative (by omega), if_neg (by omega), if_neg (by omega)]
  refine ofRatio_of_near finite (powerRatio_pos (by decide) _ _) ?_
  rw [powerRatio_value, Nat.cast_ofNat, hunits, ← sub_mul, abs_mul, abs_of_pos hgrid,
    mul_right_comm, mul_lt_mul_iff_left₀ hgrid]
  linarith

/-- The nearest decimal with seventeen digits is read back. -/
theorem isSome_gridPoint? (finite : x.isFinite = true) (nonzero : x.isZero = false) :
    (x.gridPoint? (leadingPower x.ratio.1 x.ratio.2 - 16)).isSome = true := by
  have hleads := leadingPower_bounds (ratio_pos_of_nonzero nonzero) x.ratio_pos
  have hratio := inUnits_ratio x.ratio.1 x.ratio_pos (leadingPower x.ratio.1 x.ratio.2 - 16)
  rw [x.ratio_magnitude] at hleads hratio
  have herror := roundHalfEven_error
    (inUnits x.ratio.1 x.ratio.2 (leadingPower x.ratio.1 x.ratio.2 - 16)).1
    (inUnits_pos x.ratio.1 x.ratio_pos (leadingPower x.ratio.1 x.ratio.2 - 16))
  rw [← eq_div_iff (zpow_ne_zero _ (by norm_num))] at hratio
  rw [hratio] at herror
  have hback := ofDecimal_of_nearest finite nonzero hleads herror
  simp only [gridPoint?, hback, beq_self_eq_true, if_true, Option.isSome_some]

/-- The shortest decimal of a finite number that is not zero is read back as the number. -/
theorem shortest_reads_back (finite : x.isFinite = true) (nonzero : x.isZero = false) :
    ofDecimal x.negative x.shortest.digits x.shortest.exponent = x := by
  have hsearch : ((List.range 17).findSome? fun count =>
      x.gridPoint? (leadingPower x.ratio.1 x.ratio.2 - (count : Nat))).isSome = true :=
    List.findSome?_isSome_iff.mpr
      ⟨16, List.mem_range.mpr (by decide), isSome_gridPoint? finite nonzero⟩
  obtain ⟨d, hd⟩ := Option.isSome_iff_exists.mp hsearch
  obtain ⟨count, -, hcount⟩ := List.exists_of_findSome?_eq_some hd
  rw [shortest, hd, Option.getD_some]
  exact (gridPoint?_eq_some hcount).2

end Binary64

end SearchAnnotation
