import SearchAnnotation.Encoding.Scan
import SearchAnnotation.Json.Reader

/-!
# Characters written as escapes

Octets stand for the characters with their numbers, but a backslash begins an escape: a number in
hexadecimal digits, and in the fuller form also a control character, an octal number or nothing
at all. In the plain form only the escapes by number with four and eight digits are known. The
names of characters are not known. A number may be that of a surrogate.
-/

namespace SearchAnnotation.Encoding.Escapes

/-- A code point by number, after so many octets. -/
def numbered (code octets : Nat) : Found Nat Unit :=
  if code < 0x110000 then .chars [code] octets () else .invalid octets

/-- Characters that so many octets stand for. -/
def chars (cs : List Char) (octets : Nat) : Found Nat Unit := .chars (cs.map Char.toNat) octets ()

/-- A number in so many hexadecimal digits, after the octets seen. -/
def hexadecimal : Nat → Nat → Nat → List UInt8 → Found Nat Unit
  | 0, seen, code, _ => numbered code seen
  | _ + 1, _, _, [] => .cutOff
  | left + 1, seen, code, b :: rest =>
    match Json.hexDigit? (Char.ofNat b.toNat) with
    | some n => hexadecimal left (seen + 1) (code * 16 + n) rest
    | none => .invalid seen

/-- An octal number in at most so many further digits, after the octets seen. -/
def octal : Nat → Nat → Nat → List UInt8 → Found Nat Unit
  | left + 1, seen, code, b :: rest =>
    if 0x30 ≤ b && b ≤ 0x37 then octal left (seen + 1) (code * 8 + (b.toNat - 0x30)) rest
    else numbered code seen
  | _, seen, code, _ => numbered code seen

/-- A character by name. -/
def named : List UInt8 → Found Nat Unit
  | [] => .cutOff
  | 0x7b :: rest =>
    match rest.findIdx? (· == 0x7d) with
    | some 0 => .invalid 3
    | some n => .invalid (n + 4)
    | none => .cutOff
  | _ => .invalid 2

/-- Escapes of one character after the backslash. -/
def short : List (Char × Char) := [
  ('\\', '\\'), ('\'', '\''), ('"', '"'), ('b', '\x08'), ('f', '\x0c'), ('t', '\t'),
  ('n', '\n'), ('r', '\r'), ('v', '\x0b'), ('a', '\x07')]

/-- What an escape turns out to be. The octet after the backslash is given, then the rest. -/
def escape (plain : Bool) (b : UInt8) (rest : List UInt8) : Found Nat Unit :=
  let c := Char.ofNat b.toNat
  if c == 'u' then hexadecimal 4 2 0 rest
  else if c == 'U' then hexadecimal 8 2 0 rest
  else if plain then chars ['\\', c] 2
  else if c == 'x' then hexadecimal 2 2 0 rest
  else if c == 'N' then named rest
  else if c == '\n' then chars [] 2
  else if 0x30 ≤ b && b ≤ 0x37 then octal 2 2 (b.toNat - 0x30) rest
  else
    match short.lookup c with
    | some c => chars [c] 2
    | none => chars ['\\', c] 2

/-- What the octets at the front turn out to be. -/
def step (plain : Bool) (_ : Unit) (octets : List UInt8) : Found Nat Unit :=
  match octets with
  | [] => .cutOff
  | 0x5c :: rest =>
    match rest with
    | b :: rest => escape plain b rest
    | [] => if plain then chars ['\\'] 1 else .cutOff
  | a :: _ => .chars [a.toNat] 1 ()

/-- The code points of octets, with a mark for each malformed part. -/
def decode (plain : Bool) (octets : List UInt8) : List (Option Nat) :=
  (scan (step plain) () octets).1

end SearchAnnotation.Encoding.Escapes
