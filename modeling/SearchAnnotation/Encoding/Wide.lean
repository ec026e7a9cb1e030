import SearchAnnotation.Encoding.Scan
import SearchAnnotation.Encoding.Table.Big5
import SearchAnnotation.Encoding.Table.Chinese
import SearchAnnotation.Encoding.Table.Japanese
import SearchAnnotation.Encoding.Table.Korean

/-!
# Characters in one to four octets by table

These character sets of East Asia write seven-bit characters in one octet and their own in two,
three or four. A pair of octets is looked up as one number, or as a row and a cell. An octet that
starts nothing is invalid alone, and what follows it is read afresh.
-/

namespace SearchAnnotation.Encoding

/-- The character sets in several octets. -/
inductive Wide where
  /-- Korean rows and cells. -/
  | korean
  /-- The same with all syllables. -/
  | koreanPairs
  /-- Korean with syllables composed of three groups of five bits. -/
  | johab
  /-- Chinese rows and cells. -/
  | chinese
  /-- The same with further pairs. -/
  | chinesePairs
  /-- The same with fours that cover all characters. -/
  | chineseFours
  /-- Pairs for the characters of Taiwan. -/
  | big5
  /-- The same with a few changes. -/
  | big5Changed
  /-- The same with the characters of Hong Kong. -/
  | hongKong
  /-- Japanese rows and cells, shifted around the narrow letters. -/
  | shifted
  /-- The same with further pairs. -/
  | shiftedPairs
  /-- The extended Japanese set, shifted, in its first or second edition. -/
  | shiftedExtended (second : Bool)
  /-- Japanese rows and cells. -/
  | japanese
  /-- The extended Japanese set by rows and cells, in its first or second edition. -/
  | japaneseExtended (second : Bool)
deriving DecidableEq, Repr

namespace Wide

/-- What a pair of octets that is or is not found turns out to be. -/
def pair (found : Option (List Char)) : Found Char Unit :=
  match found with
  | some cs => .chars cs 2 ()
  | none => .invalid 1

/-- One character. -/
def single (c : Option Char) : Option (List Char) := c.map fun c => [c]

/-- The row and the cell that two octets with their high bits set name, as one number. -/
def cellCode (a b : Nat) : Option Nat :=
  if 0x80 ≤ a && 0x80 ≤ b then some ((a - 0x80) * 256 + (b - 0x80)) else none

/-- The character at a row and a cell that two octets with their high bits set name. -/
def cell (table : Table) (a b : Nat) : Option Char := (cellCode a b).bind table.find?

/-- The place of an entry of a list. -/
def placeOf? (entries : List Nat) (n : Nat) : Option Nat := entries.findIdx? (· == n)

/-- The letters that can lead a syllable, by their numbers as single letters. -/
def leadLetters : List Nat :=
  [0, 1, 3, 6, 7, 8, 16, 17, 18, 20, 21, 22, 23, 24, 25, 26, 27, 28, 29]

/-- The letters that can close a syllable, by their numbers as single letters. -/
def closingLetters : List Nat :=
  [0, 1, 2, 3, 4, 5, 6, 8, 9, 10, 11, 12, 13, 14, 15, 16, 17, 19, 20, 21, 22, 23, 25, 26, 27, 28,
    29]

/-- The syllable of a leading letter, a vowel and a closing letter or none. -/
def syllable (lead vowel closing : Nat) : Char :=
  Char.ofNat (0xac00 + (lead * 21 + vowel) * 28 + closing)

/-- A syllable written as a filler and three letters, each as a pair. -/
def composed : List UInt8 → Found Char Unit
  | _ :: _ :: p :: a :: q :: b :: r :: c :: _ =>
    let vowel := if 0xbf ≤ b && b ≤ 0xd3 then some (b.toNat - 0xbf) else none
    let closing :=
      if c == 0xd4 then some 0
      else if c < 0xa1 then none
      else (placeOf? closingLetters (c.toNat - 0xa1)).map (· + 1)
    let lead := if a < 0xa1 then none else placeOf? leadLetters (a.toNat - 0xa1)
    match lead, vowel, closing with
    | some lead, some vowel, some closing =>
      if p == 0xa4 && q == 0xa4 && r == 0xa4 then .chars [syllable lead vowel closing] 8 ()
      else .invalid 1
    | _, _, _ => .invalid 1
  | _ => .cutOff

/-- One of the three groups of bits of a syllable. -/
inductive Group where
  /-- No letter. -/
  | filler
  /-- A letter by its place. -/
  | letter (place : Nat)

/-- The leading letter in five bits. -/
def leadGroup (n : Nat) : Option Group :=
  if n = 1 then some .filler else if 2 ≤ n && n ≤ 20 then some (.letter (n - 2)) else none

/-- The five bits of the vowels in order. -/
def vowelBits : List Nat :=
  [3, 4, 5, 6, 7, 10, 11, 12, 13, 14, 15, 18, 19, 20, 21, 22, 23, 26, 27, 28, 29]

/-- The vowel in five bits. -/
def vowelGroup (n : Nat) : Option Group :=
  if n = 2 then some .filler else (placeOf? vowelBits n).map .letter

/-- The closing letter in five bits. -/
def closingGroup (n : Nat) : Option Group :=
  if n = 1 then some .filler
  else if 2 ≤ n && n ≤ 17 then some (.letter (n - 1))
  else if 19 ≤ n && n ≤ 29 then some (.letter (n - 2))
  else none

/-- A single letter by its place among letters. -/
def looseLetter (places : List Nat) (place : Nat) : Option Char :=
  places[place]?.map fun n => Char.ofNat (0x3131 + n)

/-- The syllable or single letter of three groups of bits. -/
def grouped (bits : Nat) : Option Char :=
  match leadGroup (bits / 1024 % 32), vowelGroup (bits / 32 % 32), closingGroup (bits % 32) with
  | some .filler, some .filler, some .filler => some '\u3000'
  | some .filler, some .filler, some (.letter closing) => looseLetter closingLetters (closing - 1)
  | some .filler, some (.letter vowel), some .filler => some (Char.ofNat (0x314f + vowel))
  | some (.letter lead), some .filler, some .filler => looseLetter leadLetters lead
  | some (.letter lead), some (.letter vowel), some .filler => some (syllable lead vowel 0)
  | some (.letter lead), some (.letter vowel), some (.letter closing) =>
    some (syllable lead vowel closing)
  | _, _, _ => none

/-- The character of a pair of the composed Korean set that is no syllable. -/
def johabSign (a b : Nat) : Option Char :=
  if a == 0xdf || 0xf9 < a || b < 0x31 || (0x80 ≤ b && b < 0x91) || b % 128 == 0x7f ||
      (a == 0xda && 0xa1 ≤ b && b ≤ 0xd3) then none
  else
    let row := if a < 0xe0 then 2 * (a - 0xd9) else 2 * a - 0x197
    let place := if b < 0x91 then b - 0x31 else b - 0x43
    if a == 0xd8 then none
    else
      Table.ksBasic.find? ((row + place / 0x5e + 0x21) * 256 + place % 0x5e + 0x21)

/-- The character of a pair of the composed Korean set. -/
def johabPair (a b : Nat) : Option Char :=
  if a < 0xd8 then grouped (a * 256 + b) else johabSign a b

/-- The character of a Chinese pair. -/
def chinesePair (a b : Nat) : Option Char :=
  (Table.gbPairs.find? (a * 256 + b)).or (cell Table.gbBasic a b)

/-- The character of four octets, the second and fourth of them decimal digits. -/
def chineseFour (a b c d : Nat) : Option Char :=
  if a < 0x81 || 0xfe < a || c < 0x81 || 0xfe < c || d < 0x30 || 0x39 < d then none
  else
    let number := (((a - 0x81) * 10 + (b - 0x30)) * 126 + (c - 0x81)) * 10 + (d - 0x30)
    if a < 0x85 then Table.gbFour.find? number
    else if 189000 ≤ number && number < 189000 + 0x100000 then
      some (Char.ofNat (0x10000 + (number - 189000)))
    else none

/-- The row and the cell of a shifted pair, both from zero. -/
def unshift (a b : Nat) : Option (Nat × Nat) :=
  if b < 0x40 || b == 0x7f || 0xfc < b then none
  else
    let row := 2 * (if a < 0xe0 then a - 0x81 else a - 0xc1)
    let place := if b < 0x80 then b - 0x40 else b - 0x41
    some (row + place / 0x5e, place % 0x5e)

/-- The character of a shifted pair. -/
def shiftedPair (a b : Nat) : Option Char := do
  let (row, place) ← unshift a b
  Table.jisBasic.find? ((row + 0x21) * 256 + place + 0x21)

/-- Cells of the extended Japanese set that only the second edition fills. -/
def secondEdition : List Nat :=
  [0x2e21, 0x2f7e, 0x4f54, 0x4f7e, 0x7427, 0x7e7a, 0x7e7b, 0x7e7c, 0x7e7d, 0x7e7e]

/-- Whether a cell is empty because the edition is the first. -/
def isWithheld (second : Bool) (code : Nat) : Bool := !second && secondEdition.contains code

/-- The characters of a cell of the first plane. -/
def firstPlane (second : Bool) (code : Nat) : Option (List Char) :=
  if isWithheld second code then none
  else
    match (Table.jisFirst.find? code).or (Table.jisBasic.find? code) with
    | some c => some [c]
    | none => (Table.jisJoined.lookup code).map String.toList

/-- The character of a cell of the second plane. -/
def secondPlane (second : Bool) (code : Nat) : Option Char :=
  if !second && code == 0x7d3b then some '\u9b1d' else Table.jisSecond.find? code

/-- The row of the second plane that a shifted row past the first plane stands for. -/
def secondRow (row : Nat) : Nat :=
  if 0x67 ≤ row then row + 0x07
  else if 0x63 ≤ row || row == 0x5f then row - 0x37
  else row - 0x3d

/-- Cells of the first plane that the extended set has as narrow signs when it is shifted. -/
def narrowSigns : List (Nat × Char) := [(0x2140, '\\'), (0x2232, '~')]

/-- The characters of a shifted pair of the extended set. -/
def shiftedExtendedPair (second : Bool) (a b : Nat) : Option (List Char) := do
  let (row, place) ← unshift a b
  if row < 0x5e then
    let code := (row + 0x21) * 256 + place + 0x21
    (single (narrowSigns.lookup code)).or (firstPlane second code)
  else single (secondPlane second (secondRow row * 256 + place + 0x21))

/-- An octet that leads a shifted pair. -/
def isShiftedLead (a : Nat) : Bool := (0x81 ≤ a && a ≤ 0x9f) || (0xe0 ≤ a && a ≤ 0xfc)

/-- A narrow letter in one octet. -/
def narrow (a : Nat) : Option Char :=
  if 0xa1 ≤ a && a ≤ 0xdf then some (Char.ofNat (0xfec0 + a)) else none

/-- What a pair turns out to be, if there are two octets. -/
def looked (find : Nat → Nat → Option (List Char)) : List UInt8 → Found Char Unit
  | a :: b :: _ => pair (find a.toNat b.toNat)
  | _ => .cutOff

/-- What octets turn out to be where some pairs are invalid as a whole. -/
def withholding (isInvalid : Nat → Nat → Bool) (find : List UInt8 → Found Char Unit) :
    List UInt8 → Found Char Unit
  | a :: b :: rest => if isInvalid a.toNat b.toNat then .invalid 2 else find (a :: b :: rest)
  | octets => find octets

/-- What octets of rows and cells turn out to be: one octet announces a narrow letter, another a
third octet. -/
def rowsAndCells (find third : Nat → Nat → Option (List Char)) : List UInt8 → Found Char Unit
  | [] => .cutOff
  | 0x8e :: rest =>
    match rest with
    | b :: _ => pair (single (narrow b.toNat))
    | [] => .cutOff
  | 0x8f :: rest =>
    match rest with
    | b :: c :: _ =>
      match third b.toNat c.toNat with
      | some cs => .chars cs 3 ()
      | none => .invalid 1
    | _ => .cutOff
  | octets => looked find octets

/-- Pairs of the basic Taiwanese set that are not taken over for Hong Kong. -/
def hongKongGaps : List Nat := [0xc6cf, 0xc6d3, 0xc6d5, 0xc6d7, 0xc6de, 0xc6df]

/-- What octets turn out to be whose first one is beyond seven bits. -/
def beyond : Wide → List UInt8 → Found Char Unit
  | korean, octets =>
    if [0xa4, 0xd4].isPrefixOf octets then composed octets
    else looked (fun a b => single (cell Table.ksBasic a b)) octets
  | koreanPairs, octets =>
    looked (fun a b =>
      single ((cell Table.ksBasic a b).or (Table.ksPairs.find? (a * 256 + b)))) octets
  | johab, octets => looked (fun a b => single (johabPair a b)) octets
  | chinese, octets => looked (fun a b => single (cell Table.gbBasic a b)) octets
  | chinesePairs, octets => looked (fun a b => single (chinesePair a b)) octets
  | chineseFours, octets =>
    match octets with
    | a :: b :: rest =>
      if 0x30 ≤ b && b ≤ 0x39 then
        match rest with
        | c :: d :: _ =>
          match chineseFour a.toNat b.toNat c.toNat d.toNat with
          | some c => .chars [c] 4 ()
          | none => .invalid 1
        | _ => .cutOff
      else
        let code := a.toNat * 256 + b.toNat
        pair (single ((Table.gbFurtherPairs.find? code).or (chinesePair a.toNat b.toNat)))
    | _ => .cutOff
  | big5, octets => looked (fun a b => single (Table.bigBasic.find? (a * 256 + b))) octets
  | big5Changed, octets =>
    looked (fun a b =>
      let code := a * 256 + b
      single ((Table.bigChanges.find? code).or (Table.bigBasic.find? code))) octets
  | hongKong, octets =>
    looked (fun a b =>
      let code := a * 256 + b
      let basic := if hongKongGaps.contains code then none else Table.bigBasic.find? code
      (single ((Table.bigHongKong.find? code).or basic)).or
        (Table.bigJoined.lookup code |>.map String.toList)) octets
  | shifted, octets =>
    match octets with
    | a :: _ =>
      match narrow a.toNat with
      | some c => .chars [c] 1 ()
      | none =>
        if isShiftedLead a.toNat then looked (fun a b => single (shiftedPair a b)) octets
        else .invalid 1
    | [] => .cutOff
  | shiftedPairs, octets =>
    match octets with
    | a :: _ =>
      match narrow a.toNat with
      | some c => .chars [c] 1 ()
      | none =>
        if a == 0x80 then .chars ['\u0080'] 1 ()
        else if a == 0xa0 then .chars ['\uf8f0'] 1 ()
        else if 0xfd ≤ a then .chars [Char.ofNat (0xf8f1 + (a.toNat - 0xfd))] 1 ()
        else
          looked (fun a b =>
            single ((Table.jisPairs.find? (a * 256 + b)).or (shiftedPair a b))) octets
    | [] => .cutOff
  | shiftedExtended second, octets =>
    match octets with
    | a :: _ =>
      match narrow a.toNat with
      | some c => .chars [c] 1 ()
      | none =>
        if isShiftedLead a.toNat then
          withholding (fun a b => (unshift a b).any fun (row, place) =>
              isWithheld second ((row + 0x21) * 256 + place + 0x21))
            (looked (shiftedExtendedPair second)) octets
        else .invalid 1
    | [] => .cutOff
  | japanese, octets =>
    rowsAndCells (fun a b => single (cell Table.jisBasic a b))
      (fun a b => single (cell Table.jisSupplement a b)) octets
  | japaneseExtended second, octets =>
    withholding (fun a b => (cellCode a b).any (isWithheld second))
      (rowsAndCells
        (fun a b => (cellCode a b).bind (firstPlane second))
        (fun a b => (cellCode a b).bind fun code =>
          single ((secondPlane second code).or (Table.jisSupplement.find? code)))) octets

/-- The character of a seven-bit octet. The extended shifted set has two national signs. -/
def sevenBit : Wide → Nat → Char
  | shiftedExtended _, n => if n = 0x5c then '¥' else if n = 0x7e then '‾' else Char.ofNat n
  | _, n => Char.ofNat n

/-- What the octets at the front turn out to be. -/
def step (wide : Wide) (_ : Unit) (octets : List UInt8) : Found Char Unit :=
  match octets with
  | [] => .cutOff
  | a :: _ => if a < 0x80 then .chars [wide.sevenBit a.toNat] 1 () else wide.beyond octets

/-- The characters of octets, with a mark for each malformed part. -/
def decode (wide : Wide) (octets : List UInt8) : List (Option Char) := (scan wide.step () octets).1

end Wide

end SearchAnnotation.Encoding
