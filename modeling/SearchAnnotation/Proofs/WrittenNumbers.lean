import SearchAnnotation.Json.Printer
import SearchAnnotation.Proofs.DecimalTexts

/-!
# Numbers written and read back

A number is written as digits before a point, digits after it and a power of ten, of which parts may
be missing. What follows a number must not go on like one. Then it is read up to its end: a whole
number as itself, and a binary64 number as the number that its shortest decimal reads back as. Of
undefined numbers only the fact that they are undefined is written.
-/

namespace SearchAnnotation

namespace Json

variable {digits : List Char} {rest : List Sign}

/-- Whether a text does not go on with a digit. -/
def NoDigit (rest : List Sign) : Prop := ∀ s ∈ rest.head?, s.isDigit = false

/-- Whether a text does not go on like a number. -/
def EndsNumber (rest : List Sign) : Prop :=
  ∀ s ∈ rest.head?, s.isDigit = false ∧ s ≠ .char '.' ∧ s ≠ .char 'e' ∧ s ≠ .char 'E'

theorem EndsNumber.noDigit (h : EndsNumber rest) : NoDigit rest := fun s hs => (h s hs).1

theorem endsNumber_nil : EndsNumber [] := nofun

/-- A text goes on otherwise if its first sign does not belong to numbers. -/
theorem endsNumber_cons {s : Sign} (h : s.isDigit = false) (point : s ≠ .char '.')
    (power : s ≠ .char 'e') (power' : s ≠ .char 'E') : EndsNumber (s :: rest) := by
  rintro _ ⟨⟩
  exact ⟨h, point, power, power'⟩

theorem signs_append (front back : List Char) : signs (front ++ back) = signs front ++ signs back :=
  List.map_append

theorem signs_cons (c : Char) (cs : List Char) : signs (c :: cs) = .char c :: signs cs := rfl

theorem all_isDigit_signs (h : Decimal.AllDigits digits) :
    ∀ s ∈ signs digits, s.isDigit = true := by
  intro s hs
  obtain ⟨c, hc, rfl⟩ := List.mem_map.mp hs
  exact h c hc

/-- Digits are taken up to where no digit follows. -/
theorem takeWhile_digits (h : Decimal.AllDigits digits) (hrest : NoDigit rest) :
    (signs digits ++ rest).takeWhile Sign.isDigit = signs digits ∧
      (signs digits ++ rest).dropWhile Sign.isDigit = rest := by
  have hstop : rest.takeWhile Sign.isDigit = [] ∧ rest.dropWhile Sign.isDigit = rest := by
    cases rest with
    | nil => exact ⟨rfl, rfl⟩
    | cons s more =>
      have hs : s.isDigit = false := hrest s rfl
      simp only [List.takeWhile_cons, List.dropWhile_cons, hs, Bool.false_eq_true, if_false,
        and_self]
  rw [List.takeWhile_append_of_pos (all_isDigit_signs h),
    List.dropWhile_append_of_pos (all_isDigit_signs h), hstop.1, hstop.2, List.append_nil]
  exact ⟨rfl, rfl⟩

theorem natOfSigns_signs (digits : List Char) :
    natOfSigns (signs digits) = Nat.ofDigitChars 10 digits 0 := by
  have hchars : (signs digits).filterMap Sign.char? = digits := by
    rw [signs, List.filterMap_map]
    exact List.filterMap_some
  have hfold : ∀ (digits : List Char) (n : Nat), digits.foldl
      (fun n c => n * 10 + (c.toNat - '0'.toNat)) n = Nat.ofDigitChars 10 digits n := by
    intro digits
    induction digits with
    | nil => exact fun n => rfl
    | cons c more ih =>
      intro n
      rw [List.foldl_cons, ih, Nat.ofDigitChars_cons, Nat.mul_comm]
  rw [natOfSigns, hchars, natOf, hfold]

@[simp]
theorem isEmpty_signs (cs : List Char) : (signs cs).isEmpty = cs.isEmpty := List.isEmpty_map

@[simp]
theorem length_signs (cs : List Char) : (signs cs).length = cs.length := List.length_map ..

@[simp]
theorem drop_signs (cs : List Char) (rest : List Sign) :
    (signs cs ++ rest).drop cs.length = rest :=
  List.drop_left' (length_signs cs)

/-- Whether digits are those of a whole number: a zero stands alone. -/
structure IsWhole (whole : List Char) : Prop where
  /-- They are digits. -/
  allDigits : Decimal.AllDigits whole
  /-- There is one at least. -/
  filled : whole ≠ []
  /-- A zero in front is the only one. -/
  leading : whole = ['0'] ∨ whole.head? ≠ some '0'

/-- The digits of a whole number are taken up to their end. -/
theorem wholeDigits_eq {whole : List Char} (h : IsWhole whole) (hrest : NoDigit rest) :
    wholeDigits (signs whole ++ rest) = signs whole := by
  rcases h.leading with rfl | hleading
  · rfl
  · obtain ⟨c, more, rfl⟩ := List.exists_cons_of_ne_nil h.filled
    have hzero : c ≠ '0' := fun hc => hleading (congrArg some hc)
    have htake := (takeWhile_digits h.allDigits hrest).1
    rw [wholeDigits]
    · exact htake
    · intro _ hcons
      exact hzero (Sign.char.inj (List.cons.inj hcons).1)

/-- A positive number does not begin with a zero. -/
theorem head?_toDigits {n : Nat} (hn : 0 < n) : (Nat.toDigits 10 n).head? ≠ some '0' := by
  induction n using Nat.strongRecOn with
  | ind n ih =>
    by_cases hsmall : n < 10
    · have hdigit : ∀ d : Fin 10, 0 < d.val → d.val.digitChar ≠ '0' := by decide
      rw [Nat.toDigits_of_lt_base hsmall]
      exact fun hzero => hdigit ⟨n, hsmall⟩ hn (Option.some.inj hzero)
    · rw [Nat.toDigits_of_base_le (by decide) (Nat.not_lt.mp hsmall),
        List.head?_append_of_ne_nil _ Nat.toDigits_ne_nil]
      exact ih (n / 10) (by omega) (by omega)

theorem isWhole_toDigits (n : Nat) : IsWhole (Nat.toDigits 10 n) where
  allDigits := Decimal.allDigits_toDigits n
  filled := Nat.toDigits_ne_nil
  leading := by
    rcases Nat.eq_zero_or_pos n with rfl | hn
    · exact .inl rfl
    · exact .inr (head?_toDigits hn)

/-- A power that is missing is not read. -/
theorem readExponent_rest (hrest : EndsNumber rest) : readExponent rest = (none, rest) := by
  cases rest with
  | nil => rfl
  | cons s more =>
    obtain ⟨-, -, he, he'⟩ := hrest s rfl
    rw [readExponent, beq_false_of_ne he, beq_false_of_ne he', Bool.or_self,
      if_neg Bool.false_ne_true]

/-- Where no point is next there is no fraction. -/
theorem readFraction_rest (hrest : ∀ s ∈ rest.head?, s ≠ .char '.') :
    readFraction rest = ([], rest) := by
  cases rest with
  | nil => rfl
  | cons s more =>
    rw [readFraction]
    exact fun _ h => hrest s rfl (List.cons.inj h).1

/-- A whole number is read up to its end. -/
theorem readNumber_toDigits (negative : Bool) (n : Nat) (hrest : EndsNumber rest)
    (fits : (Nat.toDigits 10 n).length ≤ digitLimit) :
    readNumber negative (signs (Nat.toDigits 10 n) ++ rest) =
      .ok (.int (if negative then -(n : ℤ) else n), rest) := by
  have hwhole : wholeDigits (signs (Nat.toDigits 10 n) ++ rest) = signs (Nat.toDigits 10 n) :=
    wholeDigits_eq (isWhole_toDigits n) hrest.noDigit
  have hfilled : (signs (Nat.toDigits 10 n)).isEmpty = false := by
    rw [isEmpty_signs]
    exact List.isEmpty_eq_false_iff.mpr Nat.toDigits_ne_nil
  have hpoint : ∀ s ∈ rest.head?, s ≠ .char '.' := fun s hs => (hrest s hs).2.1
  have hshort : ¬digitLimit < (Nat.toDigits 10 n).length := Nat.not_lt.mpr fits
  simp only [readNumber, hwhole, hfilled, Bool.false_eq_true, if_false, length_signs,
    drop_signs, readFraction_rest hpoint, readExponent_rest hrest, List.isEmpty_nil,
    Option.isNone_none, Bool.and_self, if_true, hshort, natOfSigns_signs,
      Nat.ofDigitChars_ten_toDigits]

/-- A sign and digits. -/
def IsPower (power : List Char) : Prop :=
  ∃ sign digits, power = sign :: digits ∧ (sign = '-' ∨ sign = '+') ∧ digits ≠ [] ∧
    Decimal.AllDigits digits

/-- The digits before a point, those after it, and a power of ten. -/
def numeral (whole tail power : List Char) : List Char :=
  whole ++ ((if tail.isEmpty then [] else '.' :: tail) ++
    if power.isEmpty then [] else 'e' :: power)

/-- What the parts of a binary64 number are like: one of the last two is there. -/
structure IsNumeral (whole tail power : List Char) : Prop where
  /-- The digits before the point are those of a whole number. -/
  isWhole : IsWhole whole
  /-- After the point there are digits. -/
  allDigits : Decimal.AllDigits tail
  /-- The power is not there, or it has a sign and digits. -/
  isPower : power = [] ∨ IsPower power
  /-- It is not the text of a whole number. -/
  broken : tail ≠ [] ∨ power ≠ []

variable {whole tail power : List Char}

/-- A sign and digits are read up to their end. -/
theorem readExponent_power (h : IsPower power) (hrest : NoDigit rest) :
    readExponent (signs ('e' :: power) ++ rest) = (some (Decimal.ofSigned power), rest) := by
  obtain ⟨sign, digits, rfl, hsign, hfilled, hdigits⟩ := h
  obtain ⟨htake, hdrop⟩ := takeWhile_digits hdigits hrest
  have hempty : (signs digits).isEmpty = false := by
    rw [isEmpty_signs]
    exact List.isEmpty_eq_false_iff.mpr hfilled
  rcases hsign with rfl | rfl
  · have hread : readSign (signs ('-' :: digits) ++ rest) = (true, signs digits ++ rest) := rfl
    rw [signs_cons, List.cons_append, readExponent, hread]
    simp only [beq_self_eq_true, Bool.true_or, if_true, htake, hdrop, hempty, Bool.false_eq_true,
      if_false, natOfSigns_signs, Decimal.ofSigned]
  · have hread : readSign (signs ('+' :: digits) ++ rest) = (false, signs digits ++ rest) := rfl
    rw [signs_cons, List.cons_append, readExponent, hread]
    simp only [beq_self_eq_true, Bool.true_or, if_true, htake, hdrop, hempty, Bool.false_eq_true,
      if_false, natOfSigns_signs, Decimal.ofSigned]

/-- A point and digits are read up to their end. -/
theorem readFraction_tail (h : Decimal.AllDigits tail) (hfilled : tail ≠ [])
    (hrest : NoDigit rest) :
    readFraction (signs ('.' :: tail) ++ rest) = (signs tail, rest) := by
  obtain ⟨htake, hdrop⟩ := takeWhile_digits h hrest
  have hempty : (signs tail).isEmpty = false := by
    rw [isEmpty_signs]
    exact List.isEmpty_eq_false_iff.mpr hfilled
  rw [signs_cons, List.cons_append, readFraction]
  simp only [htake, hdrop, hempty, Bool.false_eq_true, if_false]

/-- The decimal that the parts of a number write. -/
theorem ofText_numeral (h : IsNumeral whole tail power) :
    Decimal.ofText (numeral whole tail power) =
      ⟨Nat.ofDigitChars 10 (whole ++ tail) 0, -(tail.length : ℤ) + Decimal.ofSigned power⟩ := by
  have hdigits := h.isWhole.allDigits
  have hmantissa : ∀ c ∈ whole ++ (if tail.isEmpty then [] else '.' :: tail), c ≠ 'e' := by
    cases tail with
    | nil => exact fun c hc => hdigits.ne rfl c (List.append_nil whole ▸ hc)
    | cons c more => exact hdigits.point_ne h.allDigits
  have hvalue : Decimal.ofMantissa (whole ++ (if tail.isEmpty then [] else '.' :: tail)) =
      ⟨Nat.ofDigitChars 10 (whole ++ tail) 0, -(tail.length : ℤ)⟩ := by
    cases tail with
    | nil =>
      rw [List.isEmpty_nil, if_pos rfl, List.append_nil, Decimal.ofMantissa_whole (hdigits.ne rfl)]
      rfl
    | cons c more => exact Decimal.ofMantissa_point (hdigits.ne rfl)
  unfold numeral
  cases power with
  | nil =>
    rw [List.isEmpty_nil, if_pos rfl, List.append_nil, Decimal.ofText_plain hmantissa, hvalue,
      Decimal.ofSigned, add_zero]
    · exact fun digits => (List.cons_ne_nil '-' digits).symm
    · exact fun digits => (List.cons_ne_nil '+' digits).symm
  | cons sign digits =>
    rw [List.isEmpty_cons, if_neg Bool.false_ne_true, ← List.append_assoc,
      Decimal.ofText_power hmantissa, hvalue]

/-- A number in parts is read up to its end. -/
theorem readNumber_numeral (negative : Bool) (h : IsNumeral whole tail power)
    (hrest : EndsNumber rest) :
    readNumber negative (signs (numeral whole tail power) ++ rest) =
      .ok (.float (Binary64.ofDecimal negative (Decimal.ofText (numeral whole tail power)).digits
        (Decimal.ofText (numeral whole tail power)).exponent), rest) := by
  have hempty : (signs whole).isEmpty = false := by
    rw [isEmpty_signs]
    exact List.isEmpty_eq_false_iff.mpr h.isWhole.filled
  -- After the point a power or the rest follows, after the whole number one of the three.
  have hexponent : ∃ exponent, readExponent
      (signs (if power.isEmpty then [] else 'e' :: power) ++ rest) = (exponent, rest) ∧
        exponent.getD 0 = Decimal.ofSigned power ∧ exponent.isNone = power.isEmpty := by
    rcases h.isPower with rfl | hpower
    · exact ⟨none, readExponent_rest hrest, rfl, rfl⟩
    · obtain ⟨sign, digits, rfl, -⟩ := id hpower
      exact ⟨_, readExponent_power hpower hrest.noDigit, rfl, rfl⟩
  have hafter : NoDigit (signs (if power.isEmpty then [] else 'e' :: power) ++ rest) ∧
      ∀ s ∈ (signs (if power.isEmpty then [] else 'e' :: power) ++ rest).head?, s ≠ .char '.' := by
    cases power with
    | nil => exact ⟨hrest.noDigit, fun s hs => (hrest s hs).2.1⟩
    | cons sign digits =>
      constructor
      · rintro _ ⟨⟩
        rfl
      · rintro _ ⟨⟩
        decide
  have hfraction : readFraction (signs (if tail.isEmpty then [] else '.' :: tail) ++
      (signs (if power.isEmpty then [] else 'e' :: power) ++ rest)) =
        (signs tail, signs (if power.isEmpty then [] else 'e' :: power) ++ rest) := by
    cases tail with
    | nil => exact readFraction_rest hafter.2
    | cons c more => exact readFraction_tail h.allDigits (List.cons_ne_nil c more) hafter.1
  have hnext : NoDigit (signs (if tail.isEmpty then [] else '.' :: tail) ++
      (signs (if power.isEmpty then [] else 'e' :: power) ++ rest)) := by
    cases tail with
    | nil => exact hafter.1
    | cons c more =>
      rintro _ ⟨⟩
      rfl
  have htext : signs (numeral whole tail power) ++ rest = signs whole ++
      (signs (if tail.isEmpty then [] else '.' :: tail) ++
        (signs (if power.isEmpty then [] else 'e' :: power) ++ rest)) := by
    rw [numeral, signs_append, signs_append, List.append_assoc, List.append_assoc]
  obtain ⟨exponent, hread, hpower, hnone⟩ := hexponent
  have hbroken : ((signs tail).isEmpty && exponent.isNone) = false := by
    rw [hnone, isEmpty_signs, Bool.and_eq_false_iff, List.isEmpty_eq_false_iff,
      List.isEmpty_eq_false_iff]
    exact h.broken
  rw [htext, ofText_numeral h]
  simp only [readNumber, wholeDigits_eq h.isWhole hnext, hempty, Bool.false_eq_true, if_false,
    length_signs, drop_signs, hfraction, hread, hbroken, ← signs_append, natOfSigns_signs, hpower]
  rw [sub_eq_add_neg, add_comm]

/-- A number that begins with a digit is read as such. -/
theorem readAtom_of_isDigit {c : Char} (h : c.isDigit = true) (cs : List Sign) :
    readAtom (.char c :: cs) = readNumber false (.char c :: cs) := by
  have hne : ∀ {d : Char} {more : List Sign}, d.isDigit = false →
      Sign.char c :: cs = .char d :: more → False := by
    intro d more hd heq
    have hc : c = d := Sign.char.inj (List.cons.inj heq).1
    rw [hc, hd] at h
    cases h
  rw [readAtom]
  all_goals exact fun _ heq => hne rfl heq

/-- A sign before a digit makes a number negative. -/
theorem readAtom_minus {c : Char} (h : c.isDigit = true) (cs : List Sign) :
    readAtom (.char '-' :: .char c :: cs) = readNumber true (.char c :: cs) := by
  have hword : word? "Infinity" (.char c :: cs) = none := by
    have hne : (Sign.char 'I' == .char c) = false := by
      rw [beq_eq_false_iff_ne]
      rintro ⟨⟩
      cases h
    have hfront : (signs "Infinity".toList).isPrefixOf (.char c :: cs) =
        (Sign.char 'I' == .char c && (signs "nfinity".toList).isPrefixOf cs) := rfl
    rw [word?, hfront, hne, Bool.false_and, if_neg Bool.false_ne_true]
  rw [readAtom, hword]

/-- A sign and a number in front of which it stands. -/
theorem readAtom_signed (negative : Bool) {c : Char} {text : List Char} (h : c.isDigit = true) :
    readAtom (signs ((if negative then ['-'] else []) ++ c :: text) ++ rest) =
      readNumber negative (signs (c :: text) ++ rest) := by
  cases negative with
  | false => exact readAtom_of_isDigit h _
  | true => exact readAtom_minus h _

/-- A whole number is read back. -/
theorem readAtom_intText {n : ℤ} (fits : fitsDigits n = true) (hrest : EndsNumber rest) :
    readAtom (signs (Value.intText n) ++ rest) = .ok (.int n, rest) := by
  have hfilled : Nat.toDigits 10 n.natAbs ≠ [] := Nat.toDigits_ne_nil
  obtain ⟨c, more, hdigits⟩ := List.exists_cons_of_ne_nil hfilled
  have hdigit : c.isDigit = true :=
    Decimal.allDigits_toDigits n.natAbs c (hdigits ▸ List.mem_cons_self)
  have hread := readNumber_toDigits (decide (n < 0)) n.natAbs hrest (of_decide_eq_true fits)
  have htext : Value.intText n = (if decide (n < 0) then ['-'] else []) ++ c :: more := by
    rw [Value.intText, hdigits]
    simp only [decide_eq_true_eq]
  rw [htext, readAtom_signed _ hdigit, ← hdigits, hread]
  by_cases hneg : n < 0
  · have hvalue : -(n.natAbs : ℤ) = n := by omega
    rw [decide_eq_true hneg, if_pos rfl, hvalue]
  · have hvalue : (n.natAbs : ℤ) = n := by omega
    rw [decide_eq_false hneg, if_neg Bool.false_ne_true, hvalue]

end Json

namespace Decimal

open Json

variable {d d' : Decimal}

/-- A decimal of positive value is positive. -/
theorem digits_pos_of_value (hd : 0 < d.digits) (h : d.value = d'.value) : 0 < d'.digits := by
  have hpos : (0 : ℚ) < d.value := mul_pos (Nat.cast_pos.mpr hd) (zpow_pos (by norm_num) _)
  refine Nat.pos_of_ne_zero fun hzero => ?_
  rw [h, value, hzero, Nat.cast_zero, zero_mul] at hpos
  exact lt_irrefl 0 hpos

/-- The significant digits of a positive decimal do not begin with a zero. -/
theorem head?_significant (hd : 0 < d.digits) : d.significant.head? ≠ some '0' := by
  obtain ⟨zeros, hzeros⟩ := d.exists_zeros
  have hhead := head?_toDigits hd
  rw [hzeros, List.head?_append_of_ne_nil _ (significant_ne_nil hd)] at hhead
  exact hhead

section Layouts

variable {digits : List Char} (allDigits : AllDigits digits) (filled : digits ≠ [])
  (positive : digits.head? ≠ some '0')
include allDigits filled positive

/-- A text with a point has the parts of a number. -/
theorem positional_eq_numeral (leading : ℤ) :
    ∃ whole tail power, positional digits leading = numeral whole tail power ∧
      IsNumeral whole tail power := by
  by_cases below : leading < 0
  · have htail : AllDigits (List.replicate (-leading - 1).toNat '0' ++ digits) :=
      allDigits_append.mpr ⟨allDigits_zeros _, allDigits⟩
    have hne : List.replicate (-leading - 1).toNat '0' ++ digits ≠ [] :=
      List.append_ne_nil_of_right_ne_nil _ filled
    refine ⟨['0'], _, [], ?_, ⟨allDigits_zero, List.cons_ne_nil _ _, .inl rfl⟩, htail, .inl rfl,
      .inl hne⟩
    rw [positional, if_pos below, numeral, List.isEmpty_eq_false_iff.mpr hne]
    simp
  · obtain ⟨c, more, rfl⟩ := List.exists_cons_of_ne_nil filled
    have hwhole : IsWhole ((c :: more).take (leading.toNat + 1) ++
        List.replicate (leading.toNat + 1 - (c :: more).length) '0') :=
      ⟨allDigits_append.mpr ⟨fun a ha => allDigits a (List.mem_of_mem_take ha), allDigits_zeros _⟩,
        List.cons_ne_nil _ _, .inr positive⟩
    have hpoint : ∀ tail, AllDigits tail → tail ≠ [] → ∃ whole tail' power,
        (c :: more).take (leading.toNat + 1) ++
          List.replicate (leading.toNat + 1 - (c :: more).length) '0' ++ '.' :: tail =
            numeral whole tail' power ∧ IsNumeral whole tail' power := by
      intro tail htail hne
      refine ⟨_, tail, [], ?_, hwhole, htail, .inl rfl, .inl hne⟩
      rw [numeral, List.isEmpty_eq_false_iff.mpr hne]
      simp
    rw [positional, if_neg below]
    dsimp only
    cases hdrop : (c :: more).drop (leading.toNat + 1) with
    | nil => exact hpoint ['0'] allDigits_zero (List.cons_ne_nil _ _)
    | cons first rest =>
      refine hpoint (first :: rest) (fun a ha => ?_) (List.cons_ne_nil _ _)
      exact allDigits a (List.mem_of_mem_drop (hdrop ▸ ha))

/-- A text with an exponent has the parts of a number. -/
theorem scientific_eq_numeral (leading : ℤ) (width : Nat) :
    ∃ whole tail power, scientific digits leading width = numeral whole tail power ∧
      IsNumeral whole tail power := by
  obtain ⟨c, more, rfl⟩ := List.exists_cons_of_ne_nil filled
  obtain ⟨hc, hmore⟩ := allDigits_append.mp (show AllDigits ([c] ++ more) from allDigits)
  have hpower : IsPower ((if leading < 0 then '-' else '+') :: (List.replicate
      (width - (Nat.toDigits 10 leading.natAbs).length) '0' ++
        Nat.toDigits 10 leading.natAbs)) := by
    refine ⟨_, _, rfl, ite_eq_or_eq .., ?_, ?_⟩
    · exact List.append_ne_nil_of_right_ne_nil _ Nat.toDigits_ne_nil
    · exact allDigits_append.mpr ⟨allDigits_zeros _, allDigits_toDigits _⟩
  refine ⟨[c], more, _, ?_, ⟨hc, List.cons_ne_nil _ _, .inr positive⟩, hmore, .inr hpower,
    .inr (List.cons_ne_nil _ _)⟩
  cases more with
  | nil => simp [scientific, numeral]
  | cons second rest => simp [scientific, numeral]

end Layouts

/-- The text of a positive decimal has the parts of a number. -/
theorem render_eq_numeral (style : Notation) (hd : 0 < d.digits) :
    ∃ whole tail power, d.render style = numeral whole tail power ∧ IsNumeral whole tail power := by
  have hfilled := significant_ne_nil hd
  have hhead := head?_significant hd
  unfold render
  split
  · exact positional_eq_numeral d.allDigits_significant hfilled hhead _
  · exact scientific_eq_numeral d.allDigits_significant hfilled hhead _ _

end Decimal

namespace Binary64

open Json

variable {x : Binary64} {rest : List Sign}

/-- The text of a finite number without its sign is read up to its end. -/
theorem readNumber_unsignedText (style : Notation) (finite : x.isFinite = true)
    (hrest : EndsNumber rest) :
    readNumber x.negative (signs (x.unsignedText style) ++ rest) = .ok (.float x, rest) := by
  have hinfinite : (!x.isFinite) = false := by rw [finite, Bool.not_true]
  rw [unsignedText, hinfinite, if_neg Bool.false_ne_true]
  cases hzero : x.isZero with
  | true =>
    have hnumeral : IsNumeral ['0'] ['0'] [] :=
      ⟨⟨Decimal.allDigits_zero, List.cons_ne_nil _ _, .inl rfl⟩, Decimal.allDigits_zero, .inl rfl,
        .inl (List.cons_ne_nil _ _)⟩
    have hx : zero x.negative = x :=
      eq_of_units rfl ((isZero_iff.mp rfl).trans (isZero_iff.mp hzero).symm)
    have hread := readNumber_numeral x.negative hnumeral hrest
    rw [ofText_numeral hnumeral] at hread
    exact hread.trans (congrArg (fun y => Except.ok (Value.float y, rest)) hx)
  | false =>
    have hpos := shortest_digits_pos finite hzero
    obtain ⟨whole, tail, power, htext, hnumeral⟩ := Decimal.render_eq_numeral style hpos
    have hvalue := Decimal.value_ofText_render style hpos
    have hread := readNumber_numeral x.negative hnumeral hrest
    rw [← htext] at hread
    have hpos' : 0 < (Decimal.ofText (x.shortest.render style)).digits :=
      Decimal.digits_pos_of_value hpos hvalue.symm
    rw [if_neg Bool.false_ne_true, hread, ofDecimal_congr x.negative hpos' hpos hvalue,
      shortest_reads_back finite hzero]

/-- A number is read back, an undefined one as the undefined number that has a name. -/
theorem readAtom_renderFloat (x : Binary64) (hrest : EndsNumber rest) :
    readAtom (signs (renderFloat x) ++ rest) =
      .ok (.float (if x.isNaN then nan else x), rest) := by
  unfold renderFloat
  cases hnan : x.isNaN with
  | true => rfl
  | false =>
    rw [if_neg Bool.false_ne_true, if_neg Bool.false_ne_true]
    cases hfinite : x.isFinite with
    | true =>
      obtain ⟨c, more, htext, -, hdigit⟩ := x.unsignedText_eq_cons Value.numberNotation
      rw [if_pos rfl, render_eq _ hnan, htext, readAtom_signed _ (hdigit.trans hfinite), ← htext,
        readNumber_unsignedText _ hfinite hrest]
    | false =>
      rw [if_neg Bool.false_ne_true]
      have hx : x = infinity x.negative := eq_of_infinite hnan (by cases x.negative <;> rfl) hfinite
        (by cases x.negative <;> rfl) rfl
      rw [hx]
      cases x.negative <;> rfl

end Binary64

end SearchAnnotation
