import SearchAnnotation.Number.Binary64

/-!
# The shortest decimal that reads back

Of all decimals that round to a given number, the one with the fewest digits is chosen, and of
those the nearest. For each count of digits only the two neighbours of the number on that
decimal grid can qualify. The notation decides separately where the point or exponent goes.
-/

namespace SearchAnnotation

/-- The decimal `digits * 10 ^ exponent`. -/
structure Decimal where
  /-- The digits, read as one natural number. -/
  digits : Nat
  /-- The power of ten. -/
  exponent : Int
deriving DecidableEq, Repr

/-- How a decimal is written. -/
structure Notation where
  /-- Leading digits at this power of ten or above stand before or after a plain point. -/
  firstPositional : Int
  /-- Leading digits at this power of ten or above are written with an exponent. -/
  firstScientific : Int
  /-- Exponents are padded to this many digits. -/
  exponentWidth : Nat

namespace Binary64

/-- A quotient divided by a power of ten. -/
def inUnits (num den : Nat) (power : Int) : Nat × Nat :=
  if 0 ≤ power then (num, den * Nat.pow 10 power.toNat)
  else (num * Nat.pow 10 (-power).toNat, den)

/-- The power of ten of a positive quotient's leading digit. -/
def leadingPower (num den : Nat) : Int :=
  if den ≤ num then ((Nat.toDigits 10 (num / den)).length : Int) - 1
  else
    let size := (Nat.toDigits 10 (den / num)).length
    if den ≤ num * Nat.pow 10 (size - 1) then -((size - 1 : Nat) : Int) else -(size : Int)

/-- The neighbour of a positive finite number on the grid of the given power of ten that reads
back as the number; of two, the nearer, and the even one of a tie. -/
def gridPoint? (x : Binary64) (power : Int) : Option Decimal :=
  let (num, den) := inUnits x.ratio.1 x.ratio.2 power
  let low := num / den
  let readsBack := fun digits => ofDecimal x.negative digits power == x
  let near := roundHalfEven num den
  let far := if near = low then low + 1 else low
  if readsBack near then some ⟨near, power⟩
  else if readsBack far then some ⟨far, power⟩
  else none

/-- The shortest decimal that reads back as a non-zero finite number. Seventeen digits always
do. -/
def shortest (x : Binary64) : Decimal :=
  let lead := leadingPower x.ratio.1 x.ratio.2
  ((List.range 17).findSome? fun count => x.gridPoint? (lead - (count : Nat))).getD
    ⟨x.significand, x.scale⟩

end Binary64

namespace Decimal

/-- The digits without trailing zeros. -/
def significant (d : Decimal) : List Char :=
  ((Nat.toDigits 10 d.digits).reverse.dropWhile (· == '0')).reverse

/-- The power of ten of the leading digit. -/
def leading (d : Decimal) : Int := ((Nat.toDigits 10 d.digits).length : Int) - 1 + d.exponent

/-- Digits with a point after the leading power's place, and at least one digit on each side. -/
def positional (digits : List Char) (leading : Int) : List Char :=
  if leading < 0 then '0' :: '.' :: (List.replicate (-leading - 1).toNat '0' ++ digits)
  else
    let whole := leading.toNat + 1
    let tail := digits.drop whole
    digits.take whole ++ List.replicate (whole - digits.length) '0' ++ '.' ::
      (if tail.isEmpty then ['0'] else tail)

/-- One digit, the rest after a point, and an exponent with its sign. -/
def scientific (digits : List Char) (leading : Int) (width : Nat) : List Char :=
  let power := Nat.toDigits 10 leading.natAbs
  digits.take 1 ++ (if digits.length ≤ 1 then [] else '.' :: digits.drop 1) ++
    'e' :: (if leading < 0 then '-' else '+') ::
      (List.replicate (width - power.length) '0' ++ power)

/-- A decimal in the given notation. -/
def render (style : Notation) (d : Decimal) : List Char :=
  if style.firstPositional ≤ d.leading && d.leading < style.firstScientific then
    positional d.significant d.leading
  else scientific d.significant d.leading style.exponentWidth

end Decimal

namespace Binary64

/-- A number in the given notation, with words for the numbers that have no digits. -/
def render (style : Notation) (x : Binary64) : List Char :=
  let sign := if x.negative then ['-'] else []
  if x.isNaN then "nan".toList
  else if !x.isFinite then sign ++ "inf".toList
  else if x.isZero then sign ++ "0.0".toList
  else sign ++ (x.shortest).render style

end Binary64

end SearchAnnotation
