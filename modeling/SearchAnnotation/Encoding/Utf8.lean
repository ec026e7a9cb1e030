/-!
# Characters from octets in one to four octets each

A decoder yields a character for each well-formed sequence and nothing for each longest
beginning of one that cannot be continued, so malformed input is marked once per such beginning.
The state between octets is how many continuation octets are owed and which values the next one
may have.
-/

namespace SearchAnnotation.Encoding

/-- The character shown in place of malformed input. -/
def replacement : Char := '\ufffd'

/-- A character begun but not finished. -/
structure Partial where
  /-- Continuation octets still owed, less one. -/
  owed : Nat
  /-- The least value of the next octet. -/
  low : Nat
  /-- The greatest value of the next octet. -/
  high : Nat
  /-- The bits read so far. -/
  bits : Nat

/-- What a leading octet begins: a whole character, a longer one, or nothing. -/
inductive Lead where
  /-- A character of one octet. -/
  | whole (c : Char)
  /-- The start of a longer character. -/
  | begun (p : Partial)
  /-- No character starts so. -/
  | invalid

/-- The reading of a leading octet. The bounds on the second octet leave out overlong forms,
surrogates and code points past the last. -/
def lead (b : Nat) : Lead :=
  if b < 0x80 then .whole (Char.ofNat b)
  else if b < 0xc2 then .invalid
  else if b < 0xe0 then .begun ⟨0, 0x80, 0xbf, b - 0xc0⟩
  else if b == 0xe0 then .begun ⟨1, 0xa0, 0xbf, 0⟩
  else if b == 0xed then .begun ⟨1, 0x80, 0x9f, 0xd⟩
  else if b < 0xf0 then .begun ⟨1, 0x80, 0xbf, b - 0xe0⟩
  else if b == 0xf0 then .begun ⟨2, 0x90, 0xbf, 0⟩
  else if b < 0xf4 then .begun ⟨2, 0x80, 0xbf, b - 0xf0⟩
  else if b == 0xf4 then .begun ⟨2, 0x80, 0x8f, 4⟩
  else .invalid

/-- The decoding of octets after an unfinished character, if any. -/
def utf8From : Option Partial → List UInt8 → List (Option Char)
  | none, [] => []
  | some _, [] => [none]
  | state, b :: rest =>
    let fresh := fun (_ : Unit) => match lead b.toNat with
      | .whole c => some c :: utf8From none rest
      | .begun p => utf8From (some p) rest
      | .invalid => none :: utf8From none rest
    match state with
    | none => fresh ()
    | some p =>
      if p.low ≤ b.toNat && b.toNat ≤ p.high then
        let bits := p.bits * 64 + (b.toNat - 0x80)
        match p.owed with
        | 0 => some (Char.ofNat bits) :: utf8From none rest
        | owed + 1 => utf8From (some ⟨owed, 0x80, 0xbf, bits⟩) rest
      else none :: fresh ()

/-- The characters of octets, with a mark for each malformed part. -/
def utf8 (octets : List UInt8) : List (Option Char) := utf8From none octets

/-- The octets of a text. -/
def toUtf8 (cs : List Char) : List UInt8 := cs.flatMap String.utf8EncodeChar

/-- All characters, if no part was malformed. -/
def strict (cs : List (Option Char)) : Option (List Char) := cs.mapM id

/-- All characters, each malformed part shown as the replacement character. -/
def lossy (cs : List (Option Char)) : List Char := cs.map (·.getD replacement)

example : lossy (utf8 [0xc3, 0xa9, 0xff, 0xe6, 0x97]) = ['é', replacement, replacement] := by
  decide +kernel

end SearchAnnotation.Encoding
