import Mathlib.Data.List.TakeWhile
import SearchAnnotation.Proofs.ShortestDecimals

/-!
# Texts of numbers

The text of a decimal is read back as a decimal of the same value, whether it is written with a
point or with an exponent. As the shortest decimal of a number is itself read back as the number,
numbers with one text are the same, undefined ones aside.
-/

namespace SearchAnnotation

namespace Decimal

variable {d d' : Decimal} {style : Notation}

/-- The decimal that digits with a point among them write. -/
def ofMantissa (text : List Char) : Decimal :=
  let tail := (text.dropWhile (· != '.')).drop 1
  ⟨Nat.ofDigitChars 10 (text.takeWhile (· != '.') ++ tail) 0, -(tail.length : ℤ)⟩

/-- The whole number that digits with a sign in front write. -/
def ofSigned : List Char → ℤ
  | '-' :: digits => -(Nat.ofDigitChars 10 digits 0 : ℤ)
  | '+' :: digits => Nat.ofDigitChars 10 digits 0
  | _ => 0

/-- The decimal that a text writes, with or without an exponent. -/
def ofText (text : List Char) : Decimal :=
  let mantissa := ofMantissa (text.takeWhile (· != 'e'))
  ⟨mantissa.digits, mantissa.exponent + ofSigned ((text.dropWhile (· != 'e')).drop 1)⟩

section Cut

variable {c : Char} {front back : List Char}

theorem takeWhile_cut (h : ∀ a ∈ front, a ≠ c) :
    (front ++ c :: back).takeWhile (· != c) = front := by
  rw [List.takeWhile_append_of_pos fun a ha => bne_iff_ne.mpr (h a ha), List.takeWhile_cons,
    bne_self_eq_false, if_neg Bool.false_ne_true, List.append_nil]

theorem dropWhile_cut (h : ∀ a ∈ front, a ≠ c) :
    (front ++ c :: back).dropWhile (· != c) = c :: back := by
  rw [List.dropWhile_append_of_pos fun a ha => bne_iff_ne.mpr (h a ha), List.dropWhile_cons,
    bne_self_eq_false, if_neg Bool.false_ne_true]

theorem takeWhile_whole (h : ∀ a ∈ front, a ≠ c) : front.takeWhile (· != c) = front :=
  List.takeWhile_eq_self_iff.mpr fun a ha => bne_iff_ne.mpr (h a ha)

theorem dropWhile_whole (h : ∀ a ∈ front, a ≠ c) : front.dropWhile (· != c) = [] :=
  List.dropWhile_eq_nil_iff.mpr fun a ha => bne_iff_ne.mpr (h a ha)

end Cut

theorem ofMantissa_point {whole tail : List Char} (h : ∀ c ∈ whole, c ≠ '.') :
    ofMantissa (whole ++ '.' :: tail) = ⟨Nat.ofDigitChars 10 (whole ++ tail) 0, -tail.length⟩ := by
  simp only [ofMantissa, takeWhile_cut h, dropWhile_cut h, List.drop_succ_cons, List.drop_zero]

theorem ofMantissa_whole {whole : List Char} (h : ∀ c ∈ whole, c ≠ '.') :
    ofMantissa whole = ⟨Nat.ofDigitChars 10 whole 0, 0⟩ := by
  simp only [ofMantissa, takeWhile_whole h, dropWhile_whole h, List.drop_nil, List.append_nil,
    List.length_nil, Nat.cast_zero, neg_zero]

theorem ofText_plain {text : List Char} (h : ∀ c ∈ text, c ≠ 'e') :
    ofText text = ofMantissa text := by
  simp only [ofText, takeWhile_whole h, dropWhile_whole h, List.drop_nil, ofSigned, add_zero]

theorem ofText_power {text power : List Char} (h : ∀ c ∈ text, c ≠ 'e') :
    ofText (text ++ 'e' :: power) =
      ⟨(ofMantissa text).digits, (ofMantissa text).exponent + ofSigned power⟩ := by
  simp only [ofText, takeWhile_cut h, dropWhile_cut h, List.drop_succ_cons, List.drop_zero]

/-- Whether a text has digits only. -/
def AllDigits (text : List Char) : Prop := ∀ c ∈ text, c.isDigit = true

section Digits

variable {whole tail : List Char}

theorem allDigits_append : AllDigits (whole ++ tail) ↔ AllDigits whole ∧ AllDigits tail :=
  List.forall_mem_append

theorem allDigits_zeros (zeros : Nat) : AllDigits (List.replicate zeros '0') := by
  intro c hc
  rw [(List.mem_replicate.mp hc).2]
  rfl

theorem allDigits_zero : AllDigits ['0'] := allDigits_zeros 1

theorem allDigits_toDigits (n : Nat) : AllDigits (Nat.toDigits 10 n) := fun _ hc =>
  Nat.isDigit_of_mem_toDigits (by decide) (by decide) hc

/-- Another character is none of the digits. -/
theorem AllDigits.ne (h : AllDigits whole) {other : Char} (hother : other.isDigit = false) :
    ∀ c ∈ whole, c ≠ other := by
  rintro c hc rfl
  rw [h c hc] at hother
  cases hother

/-- Digits with a point among them have no exponent. -/
theorem AllDigits.point_ne (hwhole : AllDigits whole) (htail : AllDigits tail) :
    ∀ c ∈ whole ++ '.' :: tail, c ≠ 'e' := by
  intro c hc
  rcases List.mem_append.mp hc with hc | hc
  · exact hwhole.ne rfl c hc
  · rcases List.mem_cons.mp hc with rfl | hc
    · decide
    · exact htail.ne rfl c hc

theorem ofText_point (hwhole : AllDigits whole) (htail : AllDigits tail) :
    ofText (whole ++ '.' :: tail) = ⟨Nat.ofDigitChars 10 (whole ++ tail) 0, -tail.length⟩ := by
  rw [ofText_plain (hwhole.point_ne htail), ofMantissa_point (hwhole.ne rfl)]

/-- Zeros in front of digits do not count. -/
theorem ofDigitChars_zeros (zeros : Nat) (digits : List Char) :
    Nat.ofDigitChars 10 (List.replicate zeros '0' ++ digits) 0 = Nat.ofDigitChars 10 digits 0 := by
  rw [Nat.ofDigitChars_append, Nat.ofDigitChars_replicate_zero, Nat.mul_zero]

/-- Zeros after digits count as powers of ten. -/
theorem ofDigitChars_append_zeros (digits : List Char) (zeros : Nat) :
    Nat.ofDigitChars 10 (digits ++ List.replicate zeros '0') 0 =
      Nat.ofDigitChars 10 digits 0 * 10 ^ zeros := by
  rw [Nat.ofDigitChars_append, Nat.ofDigitChars_replicate_zero, Nat.mul_comm]

end Digits

/-- Beyond the significant digits a decimal has zeros only. -/
theorem exists_zeros (d : Decimal) :
    ∃ zeros, Nat.toDigits 10 d.digits = d.significant ++ List.replicate zeros '0' := by
  refine ⟨((Nat.toDigits 10 d.digits).reverse.takeWhile (· == '0')).length, ?_⟩
  have hzeros : (Nat.toDigits 10 d.digits).reverse.takeWhile (· == '0') =
      List.replicate ((Nat.toDigits 10 d.digits).reverse.takeWhile (· == '0')).length '0' :=
    List.eq_replicate_iff.mpr ⟨rfl, fun c hc => by
      have hzero := List.mem_takeWhile_imp hc
      exact beq_iff_eq.mp hzero⟩
  rw [significant, ← List.reverse_replicate, ← hzeros, ← List.reverse_append,
    List.takeWhile_append_dropWhile, List.reverse_reverse]

theorem allDigits_significant (d : Decimal) : AllDigits d.significant := by
  obtain ⟨zeros, hzeros⟩ := d.exists_zeros
  exact (allDigits_append.mp (hzeros ▸ allDigits_toDigits d.digits)).1

/-- The digits of a decimal are the significant ones with zeros after them. -/
theorem digits_eq {zeros : Nat}
    (h : Nat.toDigits 10 d.digits = d.significant ++ List.replicate zeros '0') :
    d.digits = Nat.ofDigitChars 10 d.significant 0 * 10 ^ zeros := by
  calc d.digits = Nat.ofDigitChars 10 (Nat.toDigits 10 d.digits) 0 :=
        Nat.ofDigitChars_ten_toDigits.symm
    _ = Nat.ofDigitChars 10 d.significant 0 * 10 ^ zeros := by
        rw [h, ofDigitChars_append_zeros]

theorem significant_ne_nil (hd : 0 < d.digits) : d.significant ≠ [] := by
  intro hnil
  obtain ⟨zeros, hzeros⟩ := d.exists_zeros
  have hdigits := digits_eq hzeros
  rw [hnil, Nat.ofDigitChars_nil, Nat.zero_mul] at hdigits
  exact hd.ne' hdigits

/-- The value of a decimal in terms of its significant digits and its leading power. -/
theorem value_eq (d : Decimal) : d.value =
    Nat.ofDigitChars 10 d.significant 0 * 10 ^ (d.leading + 1 - d.significant.length) := by
  obtain ⟨zeros, hzeros⟩ := d.exists_zeros
  have hlength := congrArg List.length hzeros
  rw [List.length_append, List.length_replicate] at hlength
  have hpower : d.leading + 1 - d.significant.length = zeros + d.exponent := by
    rw [leading, hlength]
    push_cast
    ring
  rw [value, digits_eq hzeros, hpower, zpow_add₀ (by norm_num), zpow_natCast]
  push_cast
  ring

section Layouts

variable {digits : List Char} (allDigits : AllDigits digits)
include allDigits

/-- The text with a point of a number below one is read back. -/
theorem ofText_positional_below {leading : ℤ} (below : leading < 0) :
    (ofText (positional digits leading)).value =
      Nat.ofDigitChars 10 digits 0 * 10 ^ (leading + 1 - digits.length) := by
  have htext : positional digits leading =
      ['0'] ++ '.' :: (List.replicate (-leading - 1).toNat '0' ++ digits) := if_pos below
  have hzeros : ['0'] ++ (List.replicate (-leading - 1).toNat '0' ++ digits) =
      List.replicate ((-leading - 1).toNat + 1) '0' ++ digits := rfl
  have hpower : -((List.replicate (-leading - 1).toNat '0' ++ digits).length : ℤ) =
      leading + 1 - digits.length := by
    rw [List.length_append, List.length_replicate]
    omega
  rw [htext, ofText_point allDigits_zero (allDigits_append.mpr ⟨allDigits_zeros _, allDigits⟩),
    value, hzeros, ofDigitChars_zeros, hpower]

/-- The text with a point of any other number is read back. -/
theorem ofText_positional_above (whole : Nat) :
    (ofText (positional digits whole)).value =
      Nat.ofDigitChars 10 digits 0 * 10 ^ ((whole : ℤ) + 1 - digits.length) := by
  have htext : positional digits whole =
      (digits.take (whole + 1) ++ List.replicate (whole + 1 - digits.length) '0') ++
        '.' :: (if (digits.drop (whole + 1)).isEmpty then ['0'] else digits.drop (whole + 1)) := by
    rw [positional, if_neg (by omega), Int.toNat_natCast]
  have hfront : AllDigits
      (digits.take (whole + 1) ++ List.replicate (whole + 1 - digits.length) '0') :=
    allDigits_append.mpr ⟨fun c hc => allDigits c (List.mem_of_mem_take hc), allDigits_zeros _⟩
  rw [htext]
  by_cases hlength : digits.length ≤ whole + 1
  · obtain ⟨zeros, hzeros⟩ := Nat.exists_eq_add_of_le hlength
    have hpower : (whole : ℤ) + 1 - digits.length = zeros := by omega
    have hcount : whole + 1 - digits.length = zeros := by omega
    rw [List.drop_eq_nil_of_le hlength, List.isEmpty_nil, if_pos rfl,
      ofText_point hfront allDigits_zero, List.take_of_length_le hlength, hcount, hpower,
      List.append_assoc, ← List.replicate_succ', value, ofDigitChars_append_zeros,
      List.length_singleton]
    push_cast
    rw [zpow_natCast, pow_succ, zpow_neg, zpow_one]
    field_simp
  · have hdrop : (digits.drop (whole + 1)).isEmpty = false := by
      rw [List.isEmpty_eq_false_iff, List.ne_nil_iff_length_pos, List.length_drop]
      omega
    have hcount : whole + 1 - digits.length = 0 := by omega
    have hpower : -((digits.drop (whole + 1)).length : ℤ) = (whole : ℤ) + 1 - digits.length := by
      rw [List.length_drop]
      omega
    rw [hdrop, if_neg Bool.false_ne_true,
      ofText_point hfront fun c hc => allDigits c (List.mem_of_mem_drop hc), hcount,
      List.replicate_zero, List.append_nil, List.take_append_drop, value, hpower]

theorem ofText_positional (leading : ℤ) :
    (ofText (positional digits leading)).value =
      Nat.ofDigitChars 10 digits 0 * 10 ^ (leading + 1 - digits.length) := by
  by_cases hbelow : leading < 0
  · exact ofText_positional_below allDigits hbelow
  · obtain ⟨whole, rfl⟩ := Int.eq_ofNat_of_zero_le (not_lt.mp hbelow)
    exact ofText_positional_above allDigits whole

omit allDigits in
/-- A power with its sign is read back. -/
theorem ofSigned_power (leading : ℤ) (width : Nat) :
    ofSigned ((if leading < 0 then '-' else '+') :: (List.replicate
      (width - (Nat.toDigits 10 leading.natAbs).length) '0' ++ Nat.toDigits 10 leading.natAbs)) =
        leading := by
  split
  · rw [ofSigned, ofDigitChars_zeros, Nat.ofDigitChars_ten_toDigits]
    omega
  · rw [ofSigned, ofDigitChars_zeros, Nat.ofDigitChars_ten_toDigits]
    omega

/-- The text with an exponent is read back. -/
theorem ofText_scientific (filled : digits ≠ []) (leading : ℤ) (width : Nat) :
    (ofText (scientific digits leading width)).value =
      Nat.ofDigitChars 10 digits 0 * 10 ^ (leading + 1 - digits.length) := by
  obtain ⟨first, rest, rfl⟩ := List.exists_cons_of_ne_nil filled
  obtain ⟨hfirst, hrest⟩ := allDigits_append.mp (show AllDigits ([first] ++ rest) from allDigits)
  have htext : scientific (first :: rest) leading width =
      ([first] ++ if rest.length + 1 ≤ 1 then [] else '.' :: rest) ++
        'e' :: (if leading < 0 then '-' else '+') :: (List.replicate
          (width - (Nat.toDigits 10 leading.natAbs).length) '0' ++
            Nat.toDigits 10 leading.natAbs) := rfl
  rw [htext]
  cases rest with
  | nil =>
    have hplain : ∀ c ∈ [first] ++ [], c ≠ 'e' := by
      rw [List.append_nil]
      exact hfirst.ne rfl
    rw [List.length_nil, if_pos le_rfl, ofText_power hplain, ofSigned_power, List.append_nil,
      ofMantissa_whole (hfirst.ne rfl), value]
    have hpower : 0 + leading = leading + 1 - ([first].length : ℕ) := by
      rw [List.length_singleton]
      push_cast
      ring
    exact congrArg (_ * (10 : ℚ) ^ ·) hpower
  | cons second more =>
    rw [if_neg (by rw [List.length_cons]; omega), ofText_power (hfirst.point_ne hrest),
      ofSigned_power, ofMantissa_point (hfirst.ne rfl), value]
    have hpower : -((second :: more).length : ℤ) + leading =
        leading + 1 - ((first :: second :: more).length : ℕ) := by
      rw [List.length_cons (a := first)]
      push_cast
      ring
    exact congrArg (_ * (10 : ℚ) ^ ·) hpower

end Layouts

/-- The text of a decimal is read back with its value. -/
theorem value_ofText_render (style : Notation) (hd : 0 < d.digits) :
    (ofText (d.render style)).value = d.value := by
  rw [value_eq d, render]
  split
  · exact ofText_positional d.allDigits_significant _
  · exact ofText_scientific d.allDigits_significant (significant_ne_nil hd) _ _

/-- The text of a decimal begins with a digit. -/
theorem render_eq_cons (style : Notation) (hd : 0 < d.digits) :
    ∃ c rest, d.render style = c :: rest ∧ c.isDigit = true := by
  obtain ⟨c, more, hdigits⟩ := List.exists_cons_of_ne_nil (significant_ne_nil hd)
  have hdigit : c.isDigit = true := d.allDigits_significant c (hdigits ▸ List.mem_cons_self)
  rw [render, hdigits]
  split
  · unfold positional
    split
    · exact ⟨'0', _, rfl, rfl⟩
    · exact ⟨c, _, rfl, hdigit⟩
  · exact ⟨c, _, rfl, hdigit⟩

/-- Decimals with one text have one value. -/
theorem value_eq_of_render (hd : 0 < d.digits) (hd' : 0 < d'.digits)
    (h : d.render style = d'.render style) : d.value = d'.value := by
  rw [← value_ofText_render style hd, h, value_ofText_render style hd']

end Decimal

namespace Binary64

variable {x y : Binary64} {style : Notation}

theorem shortest_digits_pos (finite : x.isFinite = true) (nonzero : x.isZero = false) :
    0 < x.shortest.digits := by
  refine Nat.pos_of_ne_zero fun hzero => ?_
  have hback := shortest_reads_back finite nonzero
  rw [ofDecimal, if_pos hzero] at hback
  rw [← hback] at nonzero
  cases nonzero

/-- The text of a defined number without its sign. -/
def unsignedText (style : Notation) (x : Binary64) : List Char :=
  if !x.isFinite then "inf".toList
  else if x.isZero then "0.0".toList
  else (x.shortest).render style

theorem render_of_isNaN (style : Notation) (undefined : x.isNaN = true) :
    x.render style = "nan".toList := by
  rw [render, if_pos undefined]

theorem render_eq (style : Notation) (defined : x.isNaN = false) :
    x.render style = (if x.negative then ['-'] else []) ++ x.unsignedText style := by
  unfold render unsignedText
  simp only [defined, Bool.false_eq_true, if_false]
  split
  · rfl
  · split <;> rfl

/-- Besides its sign, the text of a number begins with a digit, or with a letter if it is infinite.
-/
theorem unsignedText_eq_cons (style : Notation) (x : Binary64) :
    ∃ c rest, x.unsignedText style = c :: rest ∧ c ≠ '-' ∧ c.isDigit = x.isFinite := by
  unfold unsignedText
  cases hfinite : x.isFinite with
  | false => exact ⟨'i', _, rfl, by decide, rfl⟩
  | true =>
    cases hzero : x.isZero with
    | true => exact ⟨'0', _, rfl, by decide, rfl⟩
    | false =>
      obtain ⟨c, rest, htext, hdigit⟩ :=
        Decimal.render_eq_cons style (shortest_digits_pos hfinite hzero)
      refine ⟨c, rest, htext, ?_, hdigit⟩
      rintro rfl
      cases hdigit

/-- Numbers with one text have one sign, and one text without it. -/
theorem negative_eq_of_render (hx : x.isNaN = false) (hy : y.isNaN = false)
    (h : x.render style = y.render style) :
    x.negative = y.negative ∧ x.unsignedText style = y.unsignedText style := by
  obtain ⟨c, rest, hxt, hxc, -⟩ := x.unsignedText_eq_cons style
  obtain ⟨c', rest', hyt, hyc, -⟩ := y.unsignedText_eq_cons style
  rw [render_eq style hx, render_eq style hy] at h
  cases hxs : x.negative <;> cases hys : y.negative <;> simp only [hxs, hys] at h
  · exact ⟨rfl, h⟩
  · rw [hxt] at h
    exact absurd (List.cons.inj h).1 hxc
  · rw [hyt] at h
    exact absurd (List.cons.inj h).1.symm hyc
  · exact ⟨rfl, (List.cons.inj h).2⟩

/-- The infinities differ by their signs. -/
theorem eq_of_infinite (hx : x.isNaN = false) (hy : y.isNaN = false) (hxi : x.isFinite = false)
    (hyi : y.isFinite = false) (hsign : x.negative = y.negative) : x = y := by
  have hfields : ∀ {z : Binary64}, z.isNaN = false → z.isFinite = false →
      z.exponent.val = 2047 ∧ z.fraction.val = 0 := by
    intro z hnan hinf
    have he : z.exponent.val = 2047 := by simpa only [isFinite, bne_eq_false_iff_eq] using hinf
    refine ⟨he, ?_⟩
    simpa only [isNaN, he, beq_self_eq_true, Bool.true_and, bne_eq_false_iff_eq] using hnan
  obtain ⟨hxe, hxf⟩ := hfields hx hxi
  obtain ⟨hye, hyf⟩ := hfields hy hyi
  obtain ⟨negative, exponent, fraction⟩ := x
  obtain ⟨negative', exponent', fraction'⟩ := y
  cases hsign
  cases Fin.ext (hxe.trans hye.symm)
  cases Fin.ext (hxf.trans hyf.symm)
  rfl

/-- The text of zero is that of no other number. -/
theorem zero_text_ne (finite : x.isFinite = true) (nonzero : x.isZero = false) :
    "0.0".toList ≠ x.shortest.render style := by
  intro h
  have hpos := shortest_digits_pos finite nonzero
  have hvalue := Decimal.value_ofText_render style hpos
  have hzero : (Decimal.ofText "0.0".toList).digits = 0 := rfl
  rw [← h, Decimal.value, hzero, Nat.cast_zero, zero_mul, Decimal.value] at hvalue
  have hpos' : (0 : ℚ) < x.shortest.digits * 10 ^ x.shortest.exponent :=
    mul_pos (Nat.cast_pos.mpr hpos) (zpow_pos (by norm_num) _)
  exact hpos'.ne hvalue

/-- Finite numbers of one sign with one text are the same. -/
theorem eq_of_unsignedText (hx : x.isFinite = true) (hy : y.isFinite = true)
    (hsign : x.negative = y.negative) (h : x.unsignedText style = y.unsignedText style) :
    x = y := by
  simp only [unsignedText, hx, hy, Bool.not_true, Bool.false_eq_true, if_false] at h
  cases hxz : x.isZero <;> cases hyz : y.isZero <;>
    simp only [hxz, hyz, if_true, Bool.false_eq_true, if_false] at h
  · have hvalue := Decimal.value_eq_of_render (shortest_digits_pos hx hxz)
      (shortest_digits_pos hy hyz) h
    rw [← shortest_reads_back hx hxz, ← shortest_reads_back hy hyz, hsign]
    exact ofDecimal_congr y.negative (shortest_digits_pos hx hxz) (shortest_digits_pos hy hyz)
      hvalue
  · exact absurd h.symm (zero_text_ne hx hxz)
  · exact absurd h (zero_text_ne hy hyz)
  · exact eq_of_units hsign ((isZero_iff.mp hxz).trans (isZero_iff.mp hyz).symm)

/-- Defined numbers with one text are the same. -/
theorem eq_of_render (hx : x.isNaN = false) (hy : y.isNaN = false)
    (h : x.render style = y.render style) : x = y := by
  obtain ⟨hsign, htext⟩ := negative_eq_of_render hx hy h
  obtain ⟨c, rest, hxt, -, hxc⟩ := x.unsignedText_eq_cons style
  obtain ⟨c', rest', hyt, -, hyc⟩ := y.unsignedText_eq_cons style
  have hfinite : x.isFinite = y.isFinite := by
    rw [hxt, hyt] at htext
    rw [← hxc, ← hyc, (List.cons.inj htext).1]
  cases hyf : y.isFinite with
  | false => exact eq_of_infinite hx hy (hfinite.trans hyf) hyf hsign
  | true => exact eq_of_unsignedText (hfinite.trans hyf) hyf hsign htext

end Binary64

end SearchAnnotation
