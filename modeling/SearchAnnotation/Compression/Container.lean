import SearchAnnotation.Compression.Inflate

/-!
# Containers of compressed octets

Compressed blocks stand alone or in one of two containers. A container has a header, and after
the blocks a check sum of what they produce. Octets that end early produce what they can, and
octets after the end are left alone.
-/

namespace SearchAnnotation.Compression

/-- The check sum by two sums, modulo the greatest prime below two to the sixteenth. -/
def sums (octets : List UInt8) : Nat :=
  let (a, b) := octets.foldl
    (fun (a, b) octet => let a := (a + octet.toNat) % 65521; (a, (b + a) % 65521)) (1, 0)
  b * 65536 + a

/-- One bit of the check sum by division. -/
def divide (n : UInt32) : UInt32 := if n &&& 1 = 1 then (n >>> 1) ^^^ 0xedb88320 else n >>> 1

/-- The check sum by division. -/
def remainder (octets : List UInt8) : Nat :=
  let all : UInt32 := 0xffffffff
  let result := octets.foldl
    (fun n octet => (List.range 8).foldl (fun n _ => divide n) (n ^^^ octet.toUInt32)) all
  (result ^^^ all).toNat

/-- The number that octets spell, the least significant first. -/
def littleNumber (octets : List UInt8) : Nat := octets.foldr (fun b n => n * 256 + b.toNat) 0

/-- The number that octets spell, the most significant first. -/
def bigNumber (octets : List UInt8) : Nat := littleNumber octets.reverse

/-- What a container holds. The blocks must fit what follows them. -/
def unpack (trailer : List UInt8 → List UInt8 → Option Fault) (octets : List UInt8) :
    Except Fault (List UInt8) :=
  match inflate octets with
  | .part output => .ok output.toList
  | .broken why => .error why
  | .whole output rest =>
    match trailer output.toList (octets.drop (octets.length - rest.length / 8)) with
    | some why => .error why
    | none => .ok output.toList

/-- Blocks alone. -/
def unpackBare (octets : List UInt8) : Except Fault (List UInt8) := unpack (fun _ _ => none) octets

/-- The check of what follows the blocks of the lesser container. -/
def lesserTrailer (output rest : List UInt8) : Option Fault :=
  if rest.length < 4 || bigNumber (rest.take 4) = sums output then none else some .dataSum

/-- The lesser container: two octets of header, and a sum at the end. -/
def unpackLesser : List UInt8 → Except Fault (List UInt8)
  | a :: b :: rest =>
    if (a.toNat * 256 + b.toNat) % 31 ≠ 0 then .error .header
    else if a.toNat % 16 ≠ 8 then .error .method
    else if 7 < a.toNat / 16 then .error .window
    else if b.toNat / 32 % 2 = 1 then if rest.length < 4 then .ok [] else .error .dictionary
    else unpack lesserTrailer rest
  | _ => .ok []

/-- The check of what follows the blocks of the greater container. -/
def greaterTrailer (output rest : List UInt8) : Option Fault :=
  if rest.length < 4 then none
  else if littleNumber (rest.take 4) ≠ remainder output then some .dataSum
  else if rest.length < 8 || littleNumber ((rest.drop 4).take 4) = output.length then none
  else some .dataLength

/-- The octets after a text that a null octet ends, if it ends. -/
def afterText (octets : List UInt8) : Option (List UInt8) :=
  match octets.dropWhile (· != 0) with
  | [] => none
  | _ :: rest => some rest

/-- The octets after a part of the header that is there if a flag is set. -/
def skip (isThere : Bool) (after : List UInt8 → Option (List UInt8)) (octets : List UInt8) :
    Option (List UInt8) :=
  if isThere then after octets else some octets

/-- The octets after a field that begins with its length. -/
def afterField (octets : List UInt8) : Option (List UInt8) :=
  let length := littleNumber (octets.take 2) + 2
  if octets.length < 2 || octets.length < length then none else some (octets.drop length)

/-- The octets after the header of the greater container, nothing if they end before. -/
def afterHeader (octets : List UInt8) : Except Fault (Option (List UInt8)) :=
  let flags := (octets.getD 3 0).toNat
  let has := fun bit => flags / bit % 2 == 1
  if octets.length < 2 then .ok none
  else if octets.take 2 ≠ [0x1f, 0x8b] then .error .header
  else if octets.length < 4 then .ok none
  else if octets.getD 2 0 ≠ 8 then .error .method
  else if 32 ≤ flags then .error .flags
  else if octets.length < 10 then .ok none
  else
    let rest := (skip (has 4) afterField (octets.drop 10)).bind fun rest =>
      (skip (has 8) afterText rest).bind (skip (has 16) afterText)
    match rest with
    | none => .ok none
    | some rest =>
      if !has 2 then .ok (some rest)
      else if rest.length < 2 then .ok none
      else
        let header := octets.take (octets.length - rest.length)
        if littleNumber (rest.take 2) = remainder header % 65536 then .ok (some (rest.drop 2))
        else .error .headerSum

/-- The greater container: a header of several parts, and a sum and the length at the end. -/
def unpackGreater (octets : List UInt8) : Except Fault (List UInt8) :=
  match afterHeader octets with
  | .error why => .error why
  | .ok none => .ok []
  | .ok (some rest) => unpack greaterTrailer rest

example : remainder "123456789".toUTF8.toList = 0xcbf43926 := by decide +kernel

example : sums "Wikipedia".toUTF8.toList = 0x11e60398 := by decide +kernel

end SearchAnnotation.Compression
