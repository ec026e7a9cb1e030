import SearchAnnotation.Encoding.Table.Iso
import SearchAnnotation.Encoding.Wide

/-!
# Character sets switched by escape sequences

These encodings are seven-bit throughout. An escape sequence designates the set in which the
following octets are to be read, one octet a character or rows and cells. Korean shifts in and
out of its set, and one of the Japanese forms takes single characters from a third set. In the
Chinese form a tilde takes the place of the escape.
-/

namespace SearchAnnotation.Encoding

/-- A set that an escape sequence can designate. -/
inductive Designated where
  /-- Seven-bit characters. -/
  | ascii
  /-- The upper half of the western eight-bit set. -/
  | western
  /-- The upper half of the Greek eight-bit set. -/
  | greek
  /-- Seven-bit characters with two Japanese signs. -/
  | roman
  /-- Narrow Japanese letters. -/
  | narrow
  /-- Chinese rows and cells. -/
  | chinese
  /-- Korean rows and cells. -/
  | korean
  /-- Japanese rows and cells, under either of two names. -/
  | japanese (older : Bool)
  /-- Supplementary Japanese rows and cells. -/
  | supplement
  /-- The first plane of the extended Japanese set. -/
  | first (revised : Bool)
  /-- The second plane of the extended Japanese set. -/
  | second
deriving DecidableEq, Repr

namespace Designated

/-- How many octets a character takes. -/
def width : Designated → Nat
  | ascii | western | greek | roman | narrow => 1
  | _ => 2

/-- The final octet of the sequence that designates a set. -/
def final : Designated → Char
  | ascii => 'B'
  | western => 'A'
  | greek => 'F'
  | roman => 'J'
  | narrow => 'I'
  | chinese => 'A'
  | korean => 'C'
  | japanese older => if older then '@' else 'B'
  | supplement => 'D'
  | first revised => if revised then 'Q' else 'O'
  | second => 'P'

/-- The characters that one or two octets stand for. -/
def find? (set : Designated) (a b : Nat) : Option (List Char) :=
  match set with
  | ascii => some [Char.ofNat a]
  | western => some [Char.ofNat (a + 0x80)]
  | greek => Wide.single ((Table.iso7.find? (a + 0x80)).or (some (Char.ofNat (a + 0x80))))
  | roman => some [if a = 0x5c then '¥' else if a = 0x7e then '‾' else Char.ofNat a]
  | narrow => Wide.single (Wide.narrow (a + 0x80))
  | chinese => Wide.single (Table.gbBasic.find? (a * 256 + b))
  | korean => Wide.single (Table.ksBasic.find? (a * 256 + b))
  | japanese _ => Wide.single (Table.jisBasic.find? (a * 256 + b))
  | supplement => Wide.single (Table.jisSupplement.find? (a * 256 + b))
  | first revised =>
    if a = 0x22 && b = 0x32 then some ['~'] else Wide.firstPlane revised (a * 256 + b)
  | second => Wide.single (Wide.secondPlane true (a * 256 + b))

end Designated

/-- The encodings with escape sequences. -/
inductive Switching where
  /-- Korean. -/
  | korean
  /-- Japanese with the basic set. -/
  | japanese
  /-- Japanese with the supplementary set. -/
  | japanese1
  /-- Japanese with sets of its neighbours. -/
  | japanese2
  /-- Japanese with the first edition of the extended set. -/
  | japanese3
  /-- Japanese with the second edition of the extended set. -/
  | japanese2004
  /-- Japanese with narrow letters. -/
  | japaneseNarrow
deriving DecidableEq, Repr

namespace Switching

/-- The sets that can be designated, besides seven-bit characters. -/
def sets : Switching → List Designated
  | korean => [.korean]
  | japanese => [.japanese false, .roman, .japanese true]
  | japanese1 => [.japanese false, .supplement, .roman, .japanese true]
  | japanese2 =>
    [.japanese false, .supplement, .korean, .chinese, .roman, .japanese true, .western, .greek]
  | japanese3 => [.japanese false, .first false, .second]
  | japanese2004 => [.japanese false, .first true, .second]
  | japaneseNarrow => [.japanese false, .supplement, .roman, .narrow, .japanese true]

/-- What is designated, and how octets are read next. -/
structure State where
  /-- The set in use. -/
  main : Designated
  /-- The set in use between shifts. -/
  other : Designated
  /-- The set for single characters. -/
  third : Designated
  /-- Between shifts. -/
  shifted : Bool
  /-- Inside an escape sequence of another kind, which is shown as it is. -/
  through : Bool

/-- The state at the start. -/
def State.initial : State := ⟨.ascii, .ascii, .ascii, false, false⟩

/-- An octet that ends an escape sequence. -/
def isFinal (b : UInt8) : Bool := (0x41 ≤ b && b ≤ 0x5a) || b == 0x40

/-- An octet after the escape that begins a designation. -/
def isDesignating (b : UInt8) : Bool := "()$.&".toList.any fun c => c.toNat == b.toNat

/-- The length of an escape sequence. A prefix for a later edition may stand in front. -/
inductive SequenceEnd where
  /-- The sequence ends after so many octets. -/
  | after (octets : Nat)
  /-- The octets end first. -/
  | cutOff
  /-- The sequence is too long. -/
  | never

/-- The end of the sequence that has gone on for so many octets. -/
def sequenceEnd (editions : Bool) : Nat → Nat → List UInt8 → SequenceEnd
  | 0, _, _ => .never
  | _ + 1, _, [] => .cutOff
  | fuel + 1, seen, b :: rest =>
    if isFinal b then .after (seen + 1)
    else
      match rest with
      | c :: more =>
        if editions && b == 0x26 && c == 0x40 then
          sequenceEnd editions (fuel - 2) (seen + 3) (more.drop 1)
        else sequenceEnd editions fuel (seen + 1) (c :: more)
      | [] => sequenceEnd editions fuel (seen + 1) []

/-- The set of a number of octets and a final octet, if the encoding has it. -/
def setOf? (encoding : Switching) (wide : Bool) (final : UInt8) : Option Designated :=
  (.ascii :: encoding.sets).find? fun set =>
    (set.width == 2) == wide && set.final.toNat == final.toNat

/-- The state after the octets of a designation, without the escape. -/
def designate (encoding : Switching) (state : State) : List UInt8 → Option State
  | [0x24, final] => (encoding.setOf? true final).map fun set => { state with main := set }
  | [0x28, final] => (encoding.setOf? false final).map fun set => { state with main := set }
  | [0x29, final] => (encoding.setOf? false final).map fun set => { state with other := set }
  | [0x2e, final] =>
    if encoding == .japanese2 then
      (encoding.setOf? false final).map fun set => { state with third := set }
    else none
  | [0x24, 0x28, final] => (encoding.setOf? true final).map fun set => { state with main := set }
  | [0x24, 0x29, final] => (encoding.setOf? true final).map fun set => { state with other := set }
  | [_, _, 0x1b, 0x24, 0x42] =>
    if encoding == .korean then none else some { state with main := .japanese false }
  | _ => none

/-- What an escape turns out to be. The octets are those after it. -/
def escape (encoding : Switching) (state : State) (octets : List UInt8) : Found Char State :=
  match octets with
  | [] => .cutOff
  | b :: rest =>
    if isDesignating b then
      match sequenceEnd (encoding != .korean) 15 0 octets with
      | .after n =>
        match designate encoding state (octets.take n) with
        | some state => .chars [] (n + 1) state
        | none => .invalid (n + 1)
      | .cutOff => .cutOff
      | .never => .invalid 1
    else if encoding == .japanese2 && b == 0x4e then
      match rest with
      | [] => .cutOff
      | c :: _ =>
        if 0x80 ≤ c then .invalid 3
        else
          match state.third.find? c.toNat 0 with
          | some cs => .chars cs 3 state
          | none => .invalid 3
    else .chars ['\x1b'] 1 { state with through := true }

/-- What an octet of text turns out to be, and the one after it where the set needs it. -/
def plain (state : State) (octets : List UInt8) : Found Char State :=
  let set := if state.shifted then state.other else state.main
  match octets with
  | [] => .cutOff
  | a :: rest =>
    if set.width = 1 then
      match set.find? a.toNat 0 with
      | some cs => .chars cs 1 state
      | none => .invalid 1
    else
      match rest with
      | [] => .cutOff
      | b :: _ =>
        match set.find? a.toNat b.toNat with
        | some cs => .chars cs 2 state
        | none => .invalid 2

/-- What the octets at the front turn out to be. -/
def step (encoding : Switching) (state : State) (octets : List UInt8) : Found Char State :=
  match octets with
  | [] => .cutOff
  | a :: rest =>
    let c := Char.ofNat a.toNat
    if state.through then .chars [c] 1 { state with through := !isFinal a }
    else if a == 0x1b then escape encoding state rest
    else if encoding == .korean && a == 0x0f then .chars [] 1 { state with shifted := false }
    else if encoding == .korean && a == 0x0e then .chars [] 1 { state with shifted := true }
    else if a == 0x0a then .chars [c] 1 { state with shifted := false }
    else if a < 0x20 then .chars [c] 1 state
    else if 0x80 ≤ a then .invalid 1
    else plain state octets

/-- The characters of octets, with a mark for each malformed part, and how many octets were cut
off at the end. -/
def decode (encoding : Switching) (octets : List UInt8) : List (Option Char) × Nat :=
  scan encoding.step State.initial octets

end Switching

/-- What octets turn out to be where a tilde switches between seven-bit characters and Chinese
rows and cells. -/
def tildeStep (chinese : Bool) (octets : List UInt8) : Found Char Bool :=
  match octets with
  | [] => .cutOff
  | [a] =>
    if 0x80 ≤ a then .invalid 1
    else if a == 0x7e || chinese then .cutOff
    else .chars [Char.ofNat a.toNat] 1 chinese
  | a :: b :: _ =>
    if a == 0x7e then
      match chinese, Char.ofNat b.toNat with
      | false, '~' => .chars ['~'] 2 false
      | false, '\x7b' => .chars [] 2 true
      | false, '\n' => .chars [] 2 false
      | true, '\x7d' => .chars [] 2 false
      | _, _ => .invalid 1
    else if 0x80 ≤ a then .invalid 1
    else if chinese then
      match Table.gbBasic.find? (a.toNat * 256 + b.toNat) with
      | some c => .chars [c] 2 true
      | none => .invalid 1
    else .chars [Char.ofNat a.toNat] 1 false

end SearchAnnotation.Encoding
