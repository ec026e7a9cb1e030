import SearchAnnotation.Encoding.Utf8

/-!
# Units of two and four octets

Octets in fixed groups are units, in either order of significance. Two units of two octets that
form a surrogate pair stand for one code point. A surrogate without its partner is a code point
too, but no character.
-/

namespace SearchAnnotation.Encoding

/-- The number that octets spell, the most significant first. -/
def bigNumber (octets : List UInt8) : Nat := octets.foldl (fun n b => n * 256 + b.toNat) 0

/-- The number that octets spell in the given order. -/
def number (bigEndian : Bool) (octets : List UInt8) : Nat :=
  bigNumber (if bigEndian then octets else octets.reverse)

/-- Units of two octets; a single octet left over is malformed. -/
def units16 (bigEndian : Bool) : List UInt8 → List (Option Nat)
  | a :: b :: rest => some (number bigEndian [a, b]) :: units16 bigEndian rest
  | [_] => [none]
  | [] => []

/-- Units of four octets; octets left over are malformed together. -/
def units32 (bigEndian : Bool) : List UInt8 → List (Option Nat)
  | a :: b :: c :: d :: rest => some (number bigEndian [a, b, c, d]) :: units32 bigEndian rest
  | [] => []
  | _ => [none]

/-- A number in the range of leading surrogates. -/
def isHigh (n : Nat) : Bool := 0xd800 ≤ n && n < 0xdc00

/-- A number in the range of trailing surrogates. -/
def isLow (n : Nat) : Bool := 0xdc00 ≤ n && n < 0xe000

/-- The code point of a surrogate pair. -/
def pairCode (high low : Nat) : Nat := 0x10000 + (high - 0xd800) * 0x400 + (low - 0xdc00)

/-- The character of a code point, nothing for surrogates and numbers past the last. -/
def charOf? (n : Nat) : Option Char :=
  if n < 0x110000 && !isHigh n && !isLow n then some (Char.ofNat n) else none

/-- The code points of characters. -/
def codesOf (cs : List (Option Char)) : List (Option Nat) := cs.map (·.map Char.toNat)

/-- All code points, each malformed part shown as the replacement character. -/
def lossyCodes (codes : List (Option Nat)) : List Nat := codes.map (·.getD replacement.toNat)

/-- Code points of units with surrogate pairs joined. -/
def joinPairs : List Nat → List Nat
  | high :: low :: rest =>
    if isHigh high && isLow low then pairCode high low :: joinPairs rest
    else high :: joinPairs (low :: rest)
  | units => units

/-- Characters of two-octet units: surrogate pairs are joined and lone ones are malformed. A pair
cut off at the end is malformed as a whole. -/
def joinUnits : List (Option Nat) → List (Option Char)
  | [some high, none] => if isHigh high then [none] else [charOf? high, none]
  | some high :: some low :: rest =>
    if isHigh high && isLow low then charOf? (pairCode high low) :: joinUnits rest
    else charOf? high :: joinUnits (some low :: rest)
  | unit :: rest => unit.bind charOf? :: joinUnits rest
  | [] => []

end SearchAnnotation.Encoding
