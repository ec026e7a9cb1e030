import SearchAnnotation.Encoding.Escapes
import SearchAnnotation.Encoding.Punycode
import SearchAnnotation.Encoding.Switching
import SearchAnnotation.Encoding.Utf7

/-!
# Character sets

A character set decodes octets. Units of two or four octets are marked with their order at the
start of the text or else refused; a few sets that are known by name refuse all octets. Whatever
the set, no octets are no characters.
-/

namespace SearchAnnotation.Encoding

/-- Why octets are not decoded. -/
inductive Refusal where
  /-- Units of several octets without a mark of their order. -/
  | unmarked
  /-- The set decodes nothing that may be malformed. -/
  | undefined
  /-- The set turns text into text. -/
  | textOnly
  /-- The set turns octets into octets. -/
  | octetsOnly
  /-- There are octets beyond seven bits where none may be. -/
  | beyondSevenBits
  /-- The octets end within an escape sequence that has grown too long. -/
  | unfinished
  /-- The name of the set is in pieces without a common order. -/
  | unordered
  /-- The name of the set has a null character. -/
  | nullInName
deriving DecidableEq, Repr

/-- A character set by which texts are decoded. -/
inductive Charset where
  /-- One to four octets a character. -/
  | utf8
  /-- The same with an optional mark at the start. -/
  | utf8Marked
  /-- One or two units of two octets, in the given or the marked order. -/
  | utf16 (bigEndian : Option Bool)
  /-- One unit of four octets, in the given or the marked order. -/
  | utf32 (bigEndian : Option Bool)
  /-- Seven-bit text with shifts into groups of six bits. -/
  | utf7
  /-- One octet a character, as numbered. -/
  | latin1
  /-- One octet a character, the upper half undefined. -/
  | ascii
  /-- One octet a character, as numbered where a table does not say otherwise. -/
  | single (table : Table)
  /-- One to four octets a character, by tables. -/
  | wide (set : Wide)
  /-- Sets switched by escape sequences. -/
  | switching (encoding : Switching)
  /-- Chinese between tildes. -/
  | tilde
  /-- Escapes after a backslash, few or many kinds of them. -/
  | escaped (plain : Bool)
  /-- A label in seven-bit characters. -/
  | punycode
  /-- A set that decodes nothing. -/
  | refused (why : Refusal)

namespace Charset

/-- The mark of the first order, followed by that of the other. -/
def orderMarks (wide : Bool) : List UInt8 × List UInt8 :=
  if wide then ([0, 0, 0xfe, 0xff], [0xff, 0xfe, 0, 0]) else ([0xfe, 0xff], [0xff, 0xfe])

/-- The order that octets are marked with, and what follows the mark. -/
def marked? (wide : Bool) (octets : List UInt8) : Option (Bool × List UInt8) :=
  let (big, little) := orderMarks wide
  if big.isPrefixOf octets then some (true, octets.drop big.length)
  else if little.isPrefixOf octets then some (false, octets.drop little.length)
  else none

/-- The characters of units in an order. -/
def units (wide bigEndian : Bool) (octets : List UInt8) : List (Option Char) :=
  if wide then (units32 bigEndian octets).map (·.bind charOf?)
  else joinUnits (units16 bigEndian octets)

/-- The characters of units in the given or the marked order. Less than one unit is malformed,
whatever the order. -/
def ordered (wide : Bool) (order : Option Bool) (octets : List UInt8) :
    Except Refusal (List (Option Char)) :=
  match order with
  | some big => .ok (units wide big octets)
  | none =>
    match marked? wide octets with
    | some (big, rest) => .ok (units wide big rest)
    | none =>
      if octets.length < (if wide then 4 else 2) then .ok (units wide false octets)
      else .error .unmarked

/-- The character of one octet by a table. -/
def tabled (table : Table) (b : UInt8) : Option Char :=
  match table.find? b.toNat with
  | some c => if c == replacement then none else some c
  | none => some (Char.ofNat b.toNat)

/-- The code points of a label; a part that cannot be read is left out. -/
def label (octets : List UInt8) : Except Refusal (List (Option Nat)) :=
  let digits := (octets.reverse.takeWhile (· != 0x2d)).length
  if (octets.drop (octets.length - digits)).any (0x80 ≤ ·) then .error .beyondSevenBits
  else
    let shown := octets.map fun b => if b < 0x80 then Char.ofNat b.toNat else replacement
    .ok ((Punycode.decode shown).1.map some)

/-- How many octets of an escape sequence can wait for its end. -/
def pendingLimit : Nat := 8

/-- The code points of octets, with a mark for each malformed part. Only shifts, escapes and labels
can spell a surrogate. -/
def decode (charset : Charset) (octets : List UInt8) : Except Refusal (List (Option Nat)) :=
  if octets.isEmpty then .ok []
  else
    match charset with
    | utf8 => .ok (codesOf (Encoding.utf8 octets))
    | utf8Marked =>
      let mark := [0xef, 0xbb, 0xbf]
      if octets.isPrefixOf mark then .ok []
      else
        .ok (codesOf (Encoding.utf8 (if mark.isPrefixOf octets then octets.drop 3 else octets)))
    | utf16 order => (ordered false order octets).map codesOf
    | utf32 order => (ordered true order octets).map codesOf
    | utf7 => .ok (Utf7.decode octets)
    | latin1 => .ok (octets.map fun b => some b.toNat)
    | ascii => .ok (octets.map fun b => if b < 0x80 then some b.toNat else none)
    | single table => .ok (codesOf (octets.map (tabled table)))
    | wide set => .ok (codesOf (set.decode octets))
    | switching encoding =>
      let (cs, left) := encoding.decode octets
      if left ≤ pendingLimit then .ok (codesOf cs) else .error .unfinished
    | tilde => .ok (codesOf (scan tildeStep false octets).1)
    | escaped plain => .ok (Escapes.decode plain octets)
    | punycode => label octets
    | refused why => .error why

/-- The characters of octets, if they are well formed throughout. Units without a mark of their
order have the least octet first. -/
def decodeStrictly? (charset : Charset) (octets : List UInt8) : Option (List Char) :=
  match charset.decode octets with
  | .ok codes => codes.mapM (·.bind charOf?)
  | .error .unmarked =>
    match charset with
    | utf32 _ => strict (units true false octets)
    | _ => strict (units false false octets)
  | .error _ => none

end Charset

end SearchAnnotation.Encoding
