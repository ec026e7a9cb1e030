import SearchAnnotation.Compression.Code

/-!
# Compressed blocks

Compressed octets are a sequence of blocks. A block holds octets as they are, or words of prefix
codes: literal octets, and copies of what came before, given by length and distance. The codes
are fixed, or described at the head of the block by the lengths of their words, which are
themselves written in a prefix code. The least significant bit of an octet comes first.
-/

namespace SearchAnnotation.Compression

/-- Why compressed octets cannot be read. -/
inductive Fault where
  /-- The header does not add up, or is of another format. -/
  | header
  /-- The method is not the known one. -/
  | method
  /-- The window is larger than allowed. -/
  | window
  /-- The header has flags that are not known. -/
  | flags
  /-- The header does not fit its check sum. -/
  | headerSum
  /-- A dictionary is needed. -/
  | dictionary
  /-- A block of no known kind. -/
  | blockKind
  /-- The two lengths of a stored block do not agree. -/
  | storedLengths
  /-- A block describes too many symbols. -/
  | tooManySymbols
  /-- The lengths of words are written in no code. -/
  | lengthCode
  /-- A length of words is repeated before the first or past the last one. -/
  | lengthRepeat
  /-- A block has no word for its end. -/
  | noEnd
  /-- The words for literals and lengths are no code. -/
  | literalCode
  /-- The words for distances are no code. -/
  | distanceCode
  /-- A word for no literal or length. -/
  | literal
  /-- A word for no distance. -/
  | distance
  /-- A distance beyond the beginning. -/
  | tooFarBack
  /-- The octets do not fit their check sum. -/
  | dataSum
  /-- The octets do not fit their length. -/
  | dataLength
deriving DecidableEq, Repr

namespace Fault

/-- What is wrong, in words. -/
def words : Fault → String
  | header => "incorrect header check"
  | method => "unknown compression method"
  | window => "invalid window size"
  | flags => "unknown header flags set"
  | headerSum => "header crc mismatch"
  | dictionary => "need dictionary"
  | blockKind => "invalid block type"
  | storedLengths => "invalid stored block lengths"
  | tooManySymbols => "too many length or distance symbols"
  | lengthCode => "invalid code lengths set"
  | lengthRepeat => "invalid bit length repeat"
  | noEnd => "invalid code -- missing end-of-block"
  | literalCode => "invalid literal/lengths set"
  | distanceCode => "invalid distances set"
  | literal => "invalid literal/length code"
  | distance => "invalid distance code"
  | tooFarBack => "invalid distance too far back"
  | dataSum => "incorrect data check"
  | dataLength => "incorrect length check"

/-- The explanation of a fault. -/
def message : Fault → String
  | dictionary => "Error 2 while decompressing data"
  | fault => "Error -3 while decompressing data: " ++ fault.words

end Fault

/-- What reading bits leads to. -/
inductive Step (α : Type) where
  /-- A value, and the bits after it. -/
  | value (a : α) (rest : List Bool)
  /-- The end of the bits. -/
  | cutOff
  /-- Something that cannot be. -/
  | broken (why : Fault)

namespace Step

/-- Goes on with a value. -/
def andThen {α β : Type} (step : Step α) (next : α → List Bool → Step β) : Step β :=
  match step with
  | value a rest => next a rest
  | cutOff => cutOff
  | broken why => broken why

end Step

/-- The bits of octets. -/
def bitsOf (octets : List UInt8) : List Bool :=
  octets.flatMap fun b => (List.range 8).map fun k => b.toNat / Nat.pow 2 k % 2 == 1

/-- The number that so many bits spell, the least significant first. -/
def number : Nat → List Bool → Step Nat
  | 0, bits => .value 0 bits
  | _ + 1, [] => .cutOff
  | count + 1, b :: bits => (number count bits).andThen fun n rest => .value (b.toNat + 2 * n) rest

/-- The symbol of the word at the front. -/
def symbol (code : Code) (why : Fault) (bits : List Bool) : Step Nat :=
  match code.read bits with
  | .symbol n rest => .value n rest
  | .unknown => .broken why
  | .cutOff => .cutOff

/-- The bits from the next whole octet on. -/
def aligned (bits : List Bool) : List Bool := bits.drop (bits.length % 8)

/-- What has been produced when the bits end or a block is finished. -/
inductive Produced where
  /-- The octets up to the end of the blocks, and the bits after it. -/
  | whole (output : Array UInt8) (rest : List Bool)
  /-- The octets up to where the bits end. -/
  | part (output : Array UInt8)
  /-- Something that cannot be. -/
  | broken (why : Fault)

/-- Copies octets from a distance back, one after the other. -/
def copy (distance : Nat) : Nat → Array UInt8 → Array UInt8
  | 0, output => output
  | count + 1, output => copy distance count (output.push (output.getD (output.size - distance) 0))

/-- The base of each group of lengths, and how many bits are added to it. -/
def lengthGroups : List (Nat × Nat) := [
  (3, 0), (4, 0), (5, 0), (6, 0), (7, 0), (8, 0), (9, 0), (10, 0), (11, 1), (13, 1), (15, 1),
  (17, 1), (19, 2), (23, 2), (27, 2), (31, 2), (35, 3), (43, 3), (51, 3), (59, 3), (67, 4),
  (83, 4), (99, 4), (115, 4), (131, 5), (163, 5), (195, 5), (227, 5), (258, 0)]

/-- The base of each group of distances, and how many bits are added to it. -/
def distanceGroups : List (Nat × Nat) := [
  (1, 0), (2, 0), (3, 0), (4, 0), (5, 1), (7, 1), (9, 2), (13, 2), (17, 3), (25, 3), (33, 4),
  (49, 4), (65, 5), (97, 5), (129, 6), (193, 6), (257, 7), (385, 7), (513, 8), (769, 8),
  (1025, 9), (1537, 9), (2049, 10), (3073, 10), (4097, 11), (6145, 11), (8193, 12), (12289, 12),
  (16385, 13), (24577, 13)]

/-- The value of a group with the bits that are added to it. -/
def grouped (groups : List (Nat × Nat)) (why : Fault) (n : Nat) (bits : List Bool) : Step Nat :=
  match groups[n]? with
  | some (base, extra) => (number extra bits).andThen fun more rest => .value (base + more) rest
  | none => .broken why

/-- A copy to be made, by length and distance. -/
def reference (distances : Code) (n : Nat) (bits : List Bool) : Step (Nat × Nat) :=
  (grouped lengthGroups .literal n bits).andThen fun length bits =>
    (symbol distances .distance bits).andThen fun n bits =>
      (grouped distanceGroups .distance n bits).andThen fun distance bits =>
        .value (length, distance) bits

/-- The words of a block up to the one for its end. The first argument bounds their count. -/
def words (literals distances : Code) : Nat → Array UInt8 → List Bool → Produced
  | 0, output, _ => .part output
  | fuel + 1, output, bits =>
    match symbol literals .literal bits with
    | .cutOff => .part output
    | .broken why => .broken why
    | .value n bits =>
      if n < 256 then words literals distances fuel (output.push (UInt8.ofNat n)) bits
      else if n = 256 then .whole output bits
      else
        match reference distances (n - 257) bits with
        | .cutOff => .part output
        | .broken why => .broken why
        | .value (length, distance) bits =>
          if output.size < distance then .broken .tooFarBack
          else words literals distances fuel (copy distance length output) bits

/-- Octets as they are, so many of them. -/
def stored : Nat → Array UInt8 → List Bool → Produced
  | 0, output, bits => .whole output bits
  | count + 1, output, bits =>
    match number 8 bits with
    | .value n bits => stored count (output.push (UInt8.ofNat n)) bits
    | _ => .part output

/-- The fixed code for literals and lengths, without the two words that mean nothing. -/
def fixedLiterals : Code :=
  let lengths :=
    List.replicate 144 8 ++ List.replicate 112 9 ++ List.replicate 24 7 ++ List.replicate 8 8
  (Code.ofLengths? false lengths).getD .empty

/-- The fixed code for distances. -/
def fixedDistances : Code := (Code.ofLengths? false (List.replicate 32 5)).getD .empty

/-- The order in which the lengths of the words for lengths are given. -/
def lengthOrder : List Nat := [16, 17, 18, 0, 8, 7, 9, 6, 10, 5, 11, 4, 12, 3, 13, 2, 14, 1, 15]

/-- So many numbers of three bits. -/
def triples : Nat → List Bool → Step (List Nat)
  | 0, bits => .value [] bits
  | count + 1, bits =>
    (number 3 bits).andThen fun n bits =>
      (triples count bits).andThen fun ns rest => .value (n :: ns) rest

/-- The code in which the lengths of words are written. Without any word each bit is a zero. -/
def lengthCode? (given : List Nat) : Option Code :=
  let entries := lengthOrder.zip given
  let lengths := (List.range 19).map fun n => (entries.lookup n).getD 0
  if lengths.all (· = 0) then some (.node (.leaf 0) (.leaf 0)) else Code.ofLengths? false lengths

/-- The lengths of words up to a total count, after those given in reverse. The first argument
bounds their count. -/
def wordLengths (code : Code) (total : Nat) : Nat → List Nat → List Bool → Step (List Nat)
  | 0, seen, bits => .value seen.reverse bits
  | fuel + 1, seen, bits =>
    if total ≤ seen.length then .value seen.reverse bits
    else
      (symbol code .lengthCode bits).andThen fun n bits =>
        if n < 16 then wordLengths code total fuel (n :: seen) bits
        else
          let (extra, base) := if n = 16 then (2, 3) else if n = 17 then (3, 3) else (7, 11)
          (number extra bits).andThen fun more bits =>
            let again := if n = 16 then seen.head? else some 0
            match again with
            | none => .broken .lengthRepeat
            | some length =>
              if total < seen.length + base + more then .broken .lengthRepeat
              else wordLengths code total fuel (List.replicate (base + more) length ++ seen) bits

/-- The codes of the lengths of their words. A block without distances may have no word for
them. -/
def codes (literals distances : List Nat) : Except Fault (Code × Code) :=
  if literals.getD 256 0 = 0 then .error .noEnd
  else
    match Code.ofLengths? true literals, Code.ofLengths? true distances with
    | none, _ => .error .literalCode
    | some _, none => .error .distanceCode
    | some literals, some distances => .ok (literals, distances)

/-- The codes described at the head of a block. -/
def described (bits : List Bool) : Step (Code × Code) :=
  (number 5 bits).andThen fun a bits =>
    (number 5 bits).andThen fun b bits =>
      (number 4 bits).andThen fun c bits =>
        let literals := a + 257
        let distances := b + 1
        if 286 < literals || 30 < distances then .broken .tooManySymbols
        else
          (triples (c + 4) bits).andThen fun given bits =>
            match lengthCode? given with
            | none => .broken .lengthCode
            | some code =>
              let total := literals + distances
              (wordLengths code total total [] bits).andThen fun lengths bits =>
                match codes (lengths.take literals) (lengths.drop literals) with
                | .ok both => .value both bits
                | .error why => .broken why

/-- A block of the given kind. -/
def block (kind : Nat) (output : Array UInt8) (bits : List Bool) : Produced :=
  match kind with
  | 0 =>
    match (number 16 (aligned bits)).andThen fun length bits =>
        (number 16 bits).andThen fun inverse bits => .value (length, inverse) bits with
    | .value (length, inverse) bits =>
      if length + inverse = 0xffff then stored length output bits else .broken .storedLengths
    | _ => .part output
  | 1 => words fixedLiterals fixedDistances (bits.length + 1) output bits
  | 2 =>
    match described bits with
    | .value (literals, distances) bits => words literals distances (bits.length + 1) output bits
    | .cutOff => .part output
    | .broken why => .broken why
  | _ => .broken .blockKind

/-- Blocks up to the last one. The first argument bounds their count. -/
def blocks : Nat → Array UInt8 → List Bool → Produced
  | 0, output, _ => .part output
  | fuel + 1, output, bits =>
    match (number 1 bits).andThen fun last bits =>
        (number 2 bits).andThen fun kind bits => .value (last, kind) bits with
    | .value (last, kind) bits =>
      match block kind output bits with
      | .whole output bits => if last = 1 then .whole output bits else blocks fuel output bits
      | other => other
    | _ => .part output

/-- What compressed octets produce. -/
def inflate (octets : List UInt8) : Produced :=
  let bits := bitsOf octets
  blocks (bits.length + 1) #[] bits

end SearchAnnotation.Compression
