import SearchAnnotation.Encoding.Units

/-!
# Characters in groups of six bits

Text in seven bits in which a plus sign begins a shift: until the shift ends, letters and digits
stand for six bits each, and sixteen bits make a unit. A minus sign after a shift is part of it,
and a shift without any bits stands for the plus sign itself.
-/

namespace SearchAnnotation.Encoding.Utf7

/-- The six bits that an octet stands for within a shift. -/
def sixBits? (b : Nat) : Option Nat :=
  if 0x41 ≤ b && b ≤ 0x5a then some (b - 0x41)
  else if 0x61 ≤ b && b ≤ 0x7a then some (b - 0x61 + 26)
  else if 0x30 ≤ b && b ≤ 0x39 then some (b - 0x30 + 52)
  else if b = 0x2b then some 62
  else if b = 0x2f then some 63
  else none

/-- A shift in progress. -/
structure Shift where
  /-- How many bits wait for the next unit. -/
  count : Nat
  /-- Those bits. -/
  bits : Nat
  /-- A leading surrogate that waits for its partner. -/
  high : Option Nat

/-- The shift just after its plus sign. -/
def Shift.begun : Shift := ⟨0, 0, none⟩

/-- The code points that a further unit completes, and the surrogate that waits afterwards. -/
def complete (high : Option Nat) (unit : Nat) : List Nat × Option Nat :=
  match high with
  | some high =>
    if isLow unit then ([pairCode high unit], none)
    else if isHigh unit then ([high], some unit)
    else ([high, unit], none)
  | none => if isHigh unit then ([], some unit) else ([unit], none)

/-- Six more bits: the code points that they complete, and the shift afterwards. -/
def Shift.add (shift : Shift) (six : Nat) : List Nat × Shift :=
  let bits := shift.bits * 64 + six
  let count := shift.count + 6
  if 16 ≤ count then
    let left := count - 16
    let (codes, high) := complete shift.high (bits / Nat.pow 2 left)
    (codes, ⟨left, bits % Nat.pow 2 left, high⟩)
  else ([], ⟨count, bits, shift.high⟩)

/-- Whether a shift may not end: bits of a whole group are left over, or some that are not zero. -/
def Shift.isBroken (shift : Shift) : Bool := 6 ≤ shift.count || shift.bits != 0

/-- The code points of octets after a shift in progress, if any; nothing marks what is
malformed. -/
def codes : Option Shift → List UInt8 → List (Option Nat)
  | none, [] => []
  | some shift, [] =>
    if shift.high.isSome || shift.isBroken then [none] else []
  | none, b :: rest =>
    if b == 0x2b then
      match rest with
      | 0x2d :: rest => some 0x2b :: codes none rest
      | c :: more =>
        if (sixBits? c.toNat).isSome then codes (some .begun) (c :: more)
        else none :: codes none more
      | [] => []
    else if b < 0x80 then some b.toNat :: codes none rest
    else none :: codes none rest
  | some shift, b :: rest =>
    match sixBits? b.toNat with
    | some six =>
      let (done, shift) := shift.add six
      done.map some ++ codes (some shift) rest
    | none =>
      if shift.isBroken then none :: codes none rest
      else if b == 0x2d then shift.high.toList.map some ++ codes none rest
      else if b < 0x80 then shift.high.toList.map some ++ some b.toNat :: codes none rest
      else none :: codes none rest

/-- The code points of octets, with a mark for each malformed part. A surrogate may be alone. -/
def decode (octets : List UInt8) : List (Option Nat) := codes none octets

end SearchAnnotation.Encoding.Utf7
