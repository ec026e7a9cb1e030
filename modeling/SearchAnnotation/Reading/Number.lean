import SearchAnnotation.Json.Reader
import SearchAnnotation.Text.Blank

/-!
# Numbers in text

A text can stand for a number. A whole number may have blanks around it, a sign, zeros in front,
single underscores between its digits and a fraction of zeros. A binary64 number may also be
one of the words for infinity and for the undefined number. Neither rule looks at anything but
seven-bit digits.
-/

namespace SearchAnnotation.Reading

open Json (isDigit natOf)

/-- What the text of a whole number turns out to be. -/
inductive WholeText where
  /-- A number. -/
  | number (n : Int)
  /-- A number with more digits than are read. -/
  | tooLong
  /-- No number. -/
  | malformed
deriving DecidableEq, Repr

/-- Whether two underscores stand side by side. -/
def hasDoubleUnderscore : List Char → Bool
  | '_' :: '_' :: _ => true
  | _ :: rest => hasDoubleUnderscore rest
  | [] => false

/-- A text without its underscores, unless one is at an end or beside another. -/
def dropUnderscores (cs : List Char) : List Char :=
  if cs.head? == some '_' || cs.getLast? == some '_' || hasDoubleUnderscore cs then cs
  else cs.filter (· != '_')

/-- A text without its fraction, if that holds zeros and nothing else. -/
def dropZeroFraction (cs : List Char) : List Char :=
  let whole := cs.takeWhile (· != '.')
  match cs.drop whole.length with
  | _ :: zero :: more => if (zero :: more).all (· == '0') then whole else cs
  | _ => cs

/-- A text from its first significant digit on. Zeros in front may have underscores among them,
and one zero stays if no other digit is before the point. -/
def dropLeadingZeros : List Char → List Char
  | '0' :: rest =>
    let isZero := fun c => c == '0' || c == '_'
    match rest.dropWhile isZero with
    | [] => [(rest.takeWhile isZero).getLastD '0']
    | '.' :: fraction => (rest.takeWhile isZero).getLastD '0' :: '.' :: fraction
    | cs => cs
  | cs => cs

/-- A number from its digits in plain form: one zero alone, or no zero in front. -/
def ofPlainDigits (negative : Bool) (digits : List Char) : WholeText :=
  if digits.isEmpty || !digits.all isDigit then .malformed
  else if digits.head? == some '0' && digits.length != 1 then .malformed
  else if Json.digitLimit < digits.length then .tooLong
  else .number (if negative then -(natOf digits : Int) else natOf digits)

/-- The digits of a text that starts with one, in plain form. Zeros in front may hide a minus
sign. -/
def plainDigits (cs : List Char) : List Char :=
  if cs.head?.any isDigit then dropUnderscores (dropZeroFraction (dropLeadingZeros cs)) else []

/-- The whole number that a text stands for. -/
def whole (cs : List Char) : WholeText :=
  match Text.trim Text.isWhiteSpace cs with
  | '-' :: rest => ofPlainDigits true (plainDigits rest)
  | '+' :: rest => unsigned (plainDigits rest)
  | rest => unsigned (plainDigits rest)
where
  /-- The number of digits whose sign, if there is one, was found behind zeros. -/
  unsigned : List Char → WholeText
    | '-' :: digits => ofPlainDigits true digits
    | digits => ofPlainDigits false digits

/-- A sign in front of a text, and the rest. -/
def splitSign : List Char → Bool × List Char
  | '-' :: rest => (true, rest)
  | '+' :: rest => (false, rest)
  | rest => (false, rest)

/-- The digits before and after a point, and what follows. -/
def splitDecimal (cs : List Char) : List Char × List Char × List Char :=
  let whole := cs.takeWhile isDigit
  match cs.drop whole.length with
  | '.' :: rest => (whole, rest.takeWhile isDigit, rest.dropWhile isDigit)
  | rest => (whole, [], rest)

/-- The binary64 number of decimal text: digits on at least one side of a point, and possibly an
exponent. -/
def decimal? (negative : Bool) (cs : List Char) : Option Binary64 :=
  let (whole, fraction, rest) := splitDecimal cs
  if whole.isEmpty && fraction.isEmpty then none
  else
    let number := fun (exponent : Int) =>
      Binary64.ofDecimal negative (natOf (whole ++ fraction)) (exponent - fraction.length)
    if rest.isEmpty then some (number 0)
    else
      match Json.readExponent (Json.signs rest) with
      | (some exponent, []) => some (number exponent)
      | _ => none

/-- The binary64 number that a text without blanks and underscores stands for. -/
def strictFloat? (cs : List Char) : Option Binary64 :=
  let (negative, rest) := splitSign cs
  let word := rest.map Char.toLower
  if word == "inf".toList || word == "infinity".toList then some (.infinity negative)
  else if word == "nan".toList then some .nan
  else decimal? negative rest

/-- The binary64 number that a text stands for: with blanks around it, or with single
underscores in it. -/
def float? (cs : List Char) : Option Binary64 :=
  match strictFloat? (Text.trim Text.isWhiteSpace cs) with
  | some x => some x
  | none => if cs.contains '_' then strictFloat? (dropUnderscores cs) else none

example : whole " +1_000.00 ".toList = .number 1000 ∧ whole "1__0".toList = .malformed := by
  decide +kernel

example : whole "007".toList = .number 7 ∧ whole "-07".toList = .number (-7) ∧
    whole "0-7".toList = .number (-7) ∧ whole "7.".toList = .malformed := by decide +kernel

end SearchAnnotation.Reading
