import SearchAnnotation.Json.Reader

/-!
# JSON octets

Octets are decoded before they are read. A mark at the start tells the encoding, and without one
the zeros among the first four octets do. Malformed octets spell no value, but a surrogate that
stands alone may be encoded like any other code point.
-/

namespace SearchAnnotation.Json

/-- The encodings of JSON text. -/
inductive Form where
  /-- One to four octets a character. -/
  | octets
  /-- One or two units of two octets. -/
  | pairs (bigEndian : Bool)
  /-- One unit of four octets. -/
  | quads (bigEndian : Bool)
deriving DecidableEq, Repr

/-- The encoding of JSON octets, and the octets after a mark. -/
def formOf (octets : List UInt8) : Form × List UInt8 :=
  if [0, 0, 0xfe, 0xff].isPrefixOf octets then (.quads true, octets.drop 4)
  else if [0xff, 0xfe, 0, 0].isPrefixOf octets then (.quads false, octets.drop 4)
  else if [0xfe, 0xff].isPrefixOf octets then (.pairs true, octets.drop 2)
  else if [0xff, 0xfe].isPrefixOf octets then (.pairs false, octets.drop 2)
  else if [0xef, 0xbb, 0xbf].isPrefixOf octets then (.octets, octets.drop 3)
  else
    let form : Form := match octets with
      | a :: b :: c :: d :: _ =>
        if a == 0 then if b == 0 then .quads true else .pairs true
        else if b == 0 then if c == 0 && d == 0 then .quads false else .pairs false
        else .octets
      | [a, b] => if a == 0 then .pairs true else if b == 0 then .pairs false else .octets
      | _ => .octets
    (form, octets)

/-- The sign of a code point. -/
def signOf (n : Nat) : Sign :=
  match Encoding.charOf? n with
  | some c => .char c
  | none => .surrogate n

/-- The signs of characters in one to four octets each, with surrogates encoded like any other code
point. The octets since the last surrogate are in reverse. -/
def signsOfUtf8 (since : List UInt8) : List UInt8 → Option (List Sign)
  | a :: b :: c :: rest =>
    if a == 0xed && 0xa0 ≤ b && b ≤ 0xbf && 0x80 ≤ c && c ≤ 0xbf then do
      let front ← Encoding.strict (Encoding.utf8 since.reverse)
      let back ← signsOfUtf8 [] rest
      return signs front ++ .surrogate (0xd000 + (b.toNat - 0x80) * 64 + (c.toNat - 0x80)) :: back
    else signsOfUtf8 (a :: since) (b :: c :: rest)
  | octets => (Encoding.strict (Encoding.utf8 (since.reverse ++ octets))).map signs

/-- The signs of code points that are all below the end of the code space. -/
def signsOfCodes (codes : List Nat) : Option (List Sign) :=
  if codes.all (· < 0x110000) then some (codes.map signOf) else none

/-- The signs of JSON octets. Units of two octets are joined before they are read. -/
def signsOfOctets (octets : List UInt8) : Option (List Sign) :=
  match formOf octets with
  | (.octets, octets) => signsOfUtf8 [] octets
  | (.pairs big, octets) =>
    ((Encoding.units16 big octets).mapM id).bind fun units =>
      signsOfCodes (Encoding.joinPairs units)
  | (.quads big, octets) => ((Encoding.units32 big octets).mapM id).bind signsOfCodes

/-- Why octets spell no value. -/
inductive OctetsFault where
  /-- The octets are no signs. -/
  | undecodable
  /-- The signs spell no value. -/
  | unreadable (why : Fault)
deriving DecidableEq, Repr

/-- The value that octets spell, with lists and objects nested at most so deeply. -/
def readOctets (nesting : Nat) (octets : List UInt8) : Except OctetsFault Value :=
  match signsOfOctets octets with
  | none => .error .undecodable
  | some cs => (readSigns nesting cs).mapError .unreadable

end SearchAnnotation.Json
