/-!
# Binary64 numbers and their exact values

A number is its sign, its exponent field and its fraction field, so two numbers are equal
exactly when all fields are. A finite number stands for an integer times a power of two, and
reading or comparing works on those integers. No machine arithmetic is used.
-/

namespace SearchAnnotation

/-- How many values the fraction field has, two to the power of fifty-two. -/
abbrev fractionValues : Nat := 4503599627370496

/-- A binary64 number, field by field. -/
structure Binary64 where
  /-- The sign bit. -/
  negative : Bool
  /-- The biased exponent field. -/
  exponent : Fin 2048
  /-- The fraction field. -/
  fraction : Fin fractionValues
deriving DecidableEq, Repr

namespace Binary64

/-- The zero of the given sign. -/
def zero (negative : Bool) : Binary64 := ⟨negative, ⟨0, by decide⟩, ⟨0, by decide⟩⟩

/-- The infinity of the given sign. -/
def infinity (negative : Bool) : Binary64 := ⟨negative, ⟨2047, by decide⟩, ⟨0, by decide⟩⟩

/-- The quiet number that is no number. -/
def nan : Binary64 := ⟨false, ⟨2047, by decide⟩, ⟨fractionValues / 2, by decide⟩⟩

/-- Neither infinite nor undefined. -/
def isFinite (x : Binary64) : Bool := x.exponent.val != 2047

/-- Undefined: the highest exponent field with a non-zero fraction. -/
def isNaN (x : Binary64) : Bool := x.exponent.val == 2047 && x.fraction.val != 0

/-- One of the two zeros. -/
def isZero (x : Binary64) : Bool := x.exponent.val == 0 && x.fraction.val == 0

/-- The integer factor of a finite number's magnitude. -/
def significand (x : Binary64) : Nat :=
  if x.exponent.val = 0 then x.fraction.val else fractionValues + x.fraction.val

/-- The power of two that goes with the significand. -/
def scale (x : Binary64) : Int :=
  if x.exponent.val = 0 then -1074 else (x.exponent.val : Int) - 1075

/-- The magnitude of a finite number as a quotient of naturals. -/
def ratio (x : Binary64) : Nat × Nat :=
  if 0 ≤ x.scale then (x.significand * Nat.pow 2 x.scale.toNat, 1)
  else (x.significand, Nat.pow 2 (-x.scale).toNat)

/-- The integer that a finite number equals, if it has no fractional part. -/
def toInt? (x : Binary64) : Option Int :=
  let (num, den) := x.ratio
  if x.isFinite && num % den == 0 then
    some (if x.negative then -((num / den : Nat) : Int) else ((num / den : Nat) : Int))
  else none

/-- Numeric equality: the zeros agree, and an undefined number agrees with nothing. -/
def agree (x y : Binary64) : Bool :=
  !x.isNaN && !y.isNaN && (x == y || x.isZero && y.isZero)

/-- The quotient rounded to a natural number, a half going to the even neighbour. -/
def roundHalfEven (num den : Nat) : Nat :=
  let q := num / den
  let r := num % den
  if 2 * r < den then q else if den < 2 * r then q + 1 else q + q % 2

/-- A quotient divided by a power of two. -/
def unscale (num den : Nat) (power : Int) : Nat × Nat :=
  if 0 ≤ power then (num, den * Nat.pow 2 power.toNat)
  else (num * Nat.pow 2 (-power).toNat, den)

/-- The least power of two, not below the smallest, in whose units the quotient has at most
fifty-three binary digits. -/
def unitPower (num den : Nat) : Int :=
  let low := (num.log2 : Int) - den.log2 - 53
  let scaled := unscale num den low
  max (-1074) (if scaled.1 < scaled.2 * (2 * fractionValues) then low else low + 1)

/-- Below the exponent field of infinity, the exponent field is one of its values. -/
theorem exponent_lt {bits : Nat} (h : bits < 2047 * fractionValues) :
    bits / fractionValues < 2048 := by
  unfold fractionValues at *
  omega

/-- Exponent and fraction fields together, as one natural; past the largest it is infinity. -/
def ofMagnitude (negative : Bool) (bits : Nat) : Binary64 :=
  if h : bits < 2047 * fractionValues then
    ⟨negative, ⟨bits / fractionValues, exponent_lt h⟩,
      ⟨bits % fractionValues, Nat.mod_lt _ (by decide)⟩⟩
  else infinity negative

/-- The number nearest to a quotient of naturals, a tie going to the even fraction. -/
def ofRatio (negative : Bool) (num den : Nat) : Binary64 :=
  if num = 0 then zero negative
  else
    let power := unitPower num den
    let scaled := unscale num den power
    ofMagnitude negative ((power + 1074).toNat * fractionValues + roundHalfEven scaled.1 scaled.2)

/-- The number nearest to `digits * 10 ^ exponent`. Exponents far outside the range are
answered without computing the power. -/
def ofDecimal (negative : Bool) (digits : Nat) (exponent : Int) : Binary64 :=
  if digits = 0 then zero negative
  else
    let size := ((Nat.toDigits 10 digits).length : Int) + exponent
    if 310 < size then infinity negative
    else if size < -330 then zero negative
    else if 0 ≤ exponent then ofRatio negative (digits * Nat.pow 10 exponent.toNat) 1
    else ofRatio negative digits (Nat.pow 10 (-exponent).toNat)

/-- The number nearest to an integer. -/
def ofInt (i : Int) : Binary64 := ofRatio (i < 0) i.natAbs 1

example : ofDecimal false 1 (-1) = ⟨false, ⟨1019, by decide⟩, ⟨0x999999999999a, by decide⟩⟩ := by
  decide +kernel

example : (ofDecimal true 25 (-1)).toInt? = none ∧ (ofDecimal true 20 (-1)).toInt? = some (-2) := by
  decide +kernel

end Binary64

end SearchAnnotation
