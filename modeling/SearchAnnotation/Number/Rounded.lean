import SearchAnnotation.Number.Shortest

/-!
# Numbers with a given count of digits

A binary64 number is written with a given count of places after the point, or of digits in front
of an exponent. It is rounded once, from its exact value, and a half goes to the even neighbour.
A general form takes whichever of the two is shorter and may leave trailing zeros out.
-/

namespace SearchAnnotation.Binary64

/-- A whole number in decimal digits, padded with zeros to a width. -/
def paddedDigits (width n : Nat) : List Char :=
  let digits := Nat.toDigits 10 n
  List.replicate (width - digits.length) '0' ++ digits

/-- Digits before a point and after it. A point with nothing after it is left out unless it is
wanted. -/
def pointed (before after : List Char) (keepsPoint : Bool) : List Char :=
  before ++ (if after.isEmpty && !keepsPoint then [] else '.' :: after)

/-- The magnitude of a finite number with some places after the point. -/
def fixedParts (x : Binary64) (places : Nat) : List Char × List Char :=
  let (num, den) := inUnits x.ratio.1 x.ratio.2 (-places)
  let digits := paddedDigits (places + 1) (roundHalfEven num den)
  (digits.take (digits.length - places), digits.drop (digits.length - places))

/-- The digits of a finite number's magnitude, one in front of the point and some after it, and
the power of ten of the first. -/
def scientificParts (x : Binary64) (places : Nat) : List Char × Int :=
  if x.isZero then (List.replicate (places + 1) '0', 0)
  else
    let lead := leadingPower x.ratio.1 x.ratio.2
    let (num, den) := inUnits x.ratio.1 x.ratio.2 (lead - places)
    let n := roundHalfEven num den
    if n = Nat.pow 10 (places + 1) then (paddedDigits (places + 1) (n / 10), lead + 1)
    else (paddedDigits (places + 1) n, lead)

/-- An exponent of at least two digits. -/
def exponentText (power : Int) : List Char :=
  'e' :: (if power < 0 then '-' else '+') :: paddedDigits 2 power.natAbs

/-- Digits without the zeros at their end. -/
def trimZeros (cs : List Char) : List Char := (cs.reverse.dropWhile (· == '0')).reverse

/-- The three forms in which numbers are written. -/
inductive Form where
  /-- With places after the point. -/
  | fixed
  /-- With an exponent. -/
  | scientific
  /-- In either way, as the number demands. -/
  | general
deriving DecidableEq, Repr

/-- The magnitude of a finite number in a form. The alternate style keeps the point and all
zeros. -/
def magnitudeText (x : Binary64) (precision : Nat) (alternate : Bool) : Form → List Char
  | .fixed =>
    let (before, after) := x.fixedParts precision
    pointed before after alternate
  | .scientific =>
    let (digits, power) := x.scientificParts precision
    pointed (digits.take 1) (digits.drop 1) alternate ++ exponentText power
  | .general =>
    let count := max precision 1
    let kept := fun cs => if alternate then cs else trimZeros cs
    let (digits, power) := x.scientificParts (count - 1)
    if power < -4 || (count : Int) ≤ power then
      pointed (digits.take 1) (kept (digits.drop 1)) alternate ++ exponentText power
    else
      let (before, after) := x.fixedParts ((count : Int) - 1 - power).toNat
      pointed before (kept after) alternate

/-- A number's magnitude in a form, with words for the numbers that have no digits. -/
def formText (x : Binary64) (precision : Nat) (alternate : Bool) (form : Form) : List Char :=
  if x.isNaN then "nan".toList
  else if !x.isFinite then "inf".toList
  else x.magnitudeText precision alternate form

/-- A finite number without its fraction. -/
def truncated (x : Binary64) : Int :=
  let n : Int := (x.ratio.1 / x.ratio.2 : Nat)
  if x.negative then -n else n

example : String.ofList ((ofDecimal false 25 (-1)).formText 0 false .fixed) = "2" := by
  decide +kernel

end SearchAnnotation.Binary64
