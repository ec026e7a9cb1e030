/-!
# Labels in seven-bit characters

A label with other characters is written as its seven-bit characters followed by the places of
the others, as differences in a variable-length number system whose digit thresholds adapt to
the differences written so far.
-/

namespace SearchAnnotation.Encoding.Punycode

/-- The letter or decimal digit for a number below thirty-six. -/
def digit (n : Nat) : Char :=
  if n < 26 then Char.ofNat ('a'.toNat + n) else Char.ofNat ('0'.toNat + n - 26)

/-- The threshold of the digit at a place. -/
def threshold (place bias : Nat) : Nat :=
  if place ≤ bias then 1 else if bias + 26 ≤ place then 26 else place - bias

/-- The digits of a difference; the first argument bounds their count. -/
def digits : Nat → Nat → Nat → Nat → List Char
  | 0, _, _, _ => []
  | fuel + 1, bias, place, n =>
    let t := threshold place bias
    if n < t then [digit n]
    else digit (t + (n - t) % (36 - t)) :: digits fuel bias (place + 36) ((n - t) / (36 - t))

/-- A difference scaled down until it is small, with the places skipped. -/
def scaleDown : Nat → Nat → Nat → Nat × Nat
  | 0, places, n => (places, n)
  | fuel + 1, places, n => if 455 < n then scaleDown fuel (places + 36) (n / 35) else (places, n)

/-- The bias after a difference. -/
def adapt (difference count : Nat) (first : Bool) : Nat :=
  let damped := if first then difference / 700 else difference / 2
  let (places, n) := scaleDown 64 0 (damped + damped / count)
  places + 36 * n / (n + 38)

/-- The state of writing: output in reverse, difference, bias and characters handled. -/
structure Progress where
  /-- The digits written, in reverse. -/
  output : List Char
  /-- The difference since the last digit group. -/
  difference : Nat
  /-- The current bias. -/
  bias : Nat
  /-- The characters placed so far. -/
  handled : Nat

/-- Writes the places of one code point, given the one handled before it. -/
def place (label : List Nat) (basic : Nat) (state : Progress × Nat) (code : Nat) :
    Progress × Nat :=
  let (p, previous) := state
  let start := { p with difference := p.difference + (code - previous) * (p.handled + 1) }
  let done := label.foldl (fun p c =>
    if c < code then { p with difference := p.difference + 1 }
    else if c = code then
      let written := digits (p.difference + 1) p.bias 36 p.difference
      { output := written.reverse ++ p.output
        difference := 0
        bias := adapt p.difference (p.handled + 1) (p.handled == basic)
        handled := p.handled + 1 }
    else p) start
  ({ done with difference := done.difference + 1 }, code + 1)

/-- The code points of a label that need coding, ascending and each once. -/
def codesOf (label : List Nat) : List Nat :=
  ((label.filter (128 ≤ ·)).mergeSort (· ≤ ·)).eraseReps

/-- A label in seven-bit characters, without its marker. -/
def encode (label : List Char) : List Char :=
  let basic := label.filter (·.toNat < 128)
  let codes := label.map Char.toNat
  let start : Progress := ⟨[], 0, 72, basic.length⟩
  let done := ((codesOf codes).foldl (place codes basic.length) (start, 128)).1
  basic ++ (if basic.isEmpty then [] else ['-']) ++ done.output.reverse

/-- The number that a letter or decimal digit stands for. -/
def digitValue? (c : Char) : Option Nat :=
  if 'a' ≤ c && c ≤ 'z' then some (c.toNat - 'a'.toNat)
  else if 'A' ≤ c && c ≤ 'Z' then some (c.toNat - 'A'.toNat)
  else if '0' ≤ c && c ≤ '9' then some (c.toNat - '0'.toNat + 26)
  else none

/-- The difference at the front and what follows it, from a place with a weight on. -/
def difference? (bias place weight sum : Nat) : List Char → Option (Nat × List Char)
  | [] => none
  | c :: rest =>
    match digitValue? c with
    | none => none
    | some n =>
      let t := threshold place bias
      if n < t then some (sum + n * weight, rest)
      else difference? bias (place + 36) (weight * (36 - t)) (sum + n * weight) rest

/-- The state of reading: the code points so far, the next place and code point, and the bias. -/
structure Reading where
  /-- The code points so far. -/
  codes : List Nat
  /-- The place before which the next one may stand at the earliest. -/
  next : Nat
  /-- The least code point that can come next. -/
  code : Nat
  /-- The current bias. -/
  bias : Nat
  /-- Whether every difference could be read. -/
  sound : Bool

/-- Puts in the code points of the differences, of which there are at most as many as given. A
code point past the last shows as a question mark. -/
def insert : Nat → Bool → Reading → List Char → Reading
  | 0, _, r, _ => r
  | _, _, r, [] => r
  | fuel + 1, first, r, digits =>
    match difference? r.bias 36 1 0 digits with
    | none => { r with sound := false }
    | some (difference, rest) =>
      let room := r.codes.length + 1
      let target := r.next + difference
      let code := r.code + target / room
      let known := code < 0x110000
      let code := if known then code else '?'.toNat
      let place := target % room
      insert fuel false
        { codes := r.codes.take place ++ code :: r.codes.drop place
          next := place + 1
          code := code
          bias := adapt difference room first
          sound := r.sound && known } rest

/-- The code points of a label without its marker, and whether all of it could be read. -/
def decode (label : List Char) : List Nat × Bool :=
  let digits := (label.reverse.takeWhile (· != '-')).reverse
  let basic := (label.take (label.length - digits.length)).dropLast
  let r := insert digits.length true ⟨basic.map Char.toNat, 0, 128, 72, true⟩ digits
  (r.codes, r.sound)

example : String.ofList (encode "bücher".toList) = "bcher-kva" := by decide +kernel

example : decode "bcher-kva".toList = ("bücher".toList.map Char.toNat, true) := by decide +kernel

end SearchAnnotation.Encoding.Punycode
