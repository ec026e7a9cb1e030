import SearchAnnotation.Value

/-!
# Reading JSON text

JSON text is a list of signs, which are characters or surrogates standing alone. The reader follows
the JSON grammar with three liberties: the words for the undefined number and the two infinities
are numbers, a surrogate may stand alone between quotes, and the last of several fields of one name
wins. Two surrogates are joined only if both are escaped by their digits. Control characters
between quotes and whole numbers of more than 4300 digits are refused, and so are lists and objects
that are nested more deeply than the caller allows.
-/

namespace SearchAnnotation.Json

/-- What JSON text consists of. -/
inductive Sign where
  /-- A character. -/
  | char (c : Char)
  /-- A surrogate that stands alone. -/
  | surrogate (n : Nat)
deriving DecidableEq, Repr

/-- Characters as signs. -/
def signs (cs : List Char) : List Sign := cs.map Sign.char

namespace Sign

/-- The code point of a sign. -/
def code : Sign → Nat
  | char c => c.toNat
  | surrogate n => n

/-- The character of a sign, if it is one. -/
def char? : Sign → Option Char
  | char c => some c
  | surrogate _ => none

end Sign

/-- Why a text spells no value. -/
inductive Fault where
  /-- The text does not follow the grammar. -/
  | malformed
  /-- A whole number has too many digits. -/
  | tooLong
  /-- Lists and objects are nested too deeply. -/
  | tooDeep
deriving DecidableEq, Repr

/-- The four characters that may stand between tokens. -/
def isSpace (c : Char) : Bool := c == ' ' || c == '\t' || c == '\n' || c == '\r'

/-- A text from its first token on. -/
def skip (cs : List Sign) : List Sign := cs.dropWhile fun s => s.char?.any isSpace

/-- A decimal digit. -/
def isDigit (c : Char) : Bool := '0' ≤ c && c ≤ '9'

/-- A sign that is a decimal digit. -/
def Sign.isDigit (s : Sign) : Bool := s.char?.any Json.isDigit

/-- The value of a hexadecimal digit. -/
def hexDigit? (c : Char) : Option Nat :=
  if '0' ≤ c && c ≤ '9' then some (c.toNat - '0'.toNat)
  else if 'a' ≤ c && c ≤ 'f' then some (c.toNat - 'a'.toNat + 10)
  else if 'A' ≤ c && c ≤ 'F' then some (c.toNat - 'A'.toNat + 10)
  else none

/-- The value of a sign that is a hexadecimal digit. -/
def Sign.hex? (s : Sign) : Option Nat := s.char?.bind hexDigit?

/-- The value of four hexadecimal digits. -/
def hexQuad? (a b c d : Sign) : Option Nat := do
  let a ← a.hex?
  let b ← b.hex?
  let c ← c.hex?
  let d ← d.hex?
  return ((a * 16 + b) * 16 + c) * 16 + d

/-- The character that a single-letter escape stands for. -/
def escaped? : Sign → Option Char
  | .char '"' => some '"'
  | .char '\\' => some '\\'
  | .char '/' => some '/'
  | .char 'b' => some '\x08'
  | .char 'f' => some '\x0c'
  | .char 'n' => some '\n'
  | .char 'r' => some '\r'
  | .char 't' => some '\t'
  | _ => none

/-- Adds an escaped code unit to code points in reverse, the first of which may be a leading
surrogate that waits for its partner. Answers whether the unit is such a surrogate. -/
def addUnit (waiting : Bool) (n : Nat) (codes : List Nat) : Bool × List Nat :=
  match codes with
  | high :: rest =>
    if waiting && Encoding.isLow n then (false, Encoding.pairCode high n :: rest)
    else (Encoding.isHigh n, n :: codes)
  | [] => (Encoding.isHigh n, [n])

/-- The code points of a text up to its closing quote, and what follows. Those already read are in
reverse, and the first may be an escaped leading surrogate that waits for its partner. -/
def readCodesFrom : List Sign → Bool → List Nat → Option (List Nat × List Sign)
  | .char '"' :: rest, _, codes => some (codes.reverse, rest)
  | .char '\\' :: .char 'u' :: a :: b :: c :: d :: rest, waiting, codes =>
    match hexQuad? a b c d with
    | some n => readCodesFrom rest (addUnit waiting n codes).1 (addUnit waiting n codes).2
    | none => none
  | .char '\\' :: c :: rest, _, codes =>
    match escaped? c with
    | some e => readCodesFrom rest false (e.toNat :: codes)
    | none => none
  | .char '\\' :: [], _, _ => none
  | s :: rest, _, codes =>
    if s.code < 0x20 then none else readCodesFrom rest false (s.code :: codes)
  | [], _, _ => none

/-- The code points of a text after its opening quote, and what follows. -/
def readCodes (cs : List Sign) : Option (List Nat × List Sign) := readCodesFrom cs false []

/-- The number that decimal digits spell. -/
def natOf (digits : List Char) : Nat :=
  digits.foldl (fun n c => n * 10 + (c.toNat - '0'.toNat)) 0

/-- The number that signs which are decimal digits spell. -/
def natOfSigns (digits : List Sign) : Nat := natOf (digits.filterMap Sign.char?)

/-- Whole numbers may not have more digits than this. -/
def digitLimit : Nat := 4300

/-- The fraction after a point, if at least one digit follows the point. -/
def readFraction : List Sign → List Sign × List Sign
  | .char '.' :: rest =>
    let digits := rest.takeWhile Sign.isDigit
    if digits.isEmpty then ([], .char '.' :: rest) else (digits, rest.dropWhile Sign.isDigit)
  | cs => ([], cs)

/-- A sign of a number, and what follows. Answers whether the sign is a minus. -/
def readSign : List Sign → Bool × List Sign
  | .char '-' :: rest => (true, rest)
  | .char '+' :: rest => (false, rest)
  | cs => (false, cs)

/-- The exponent, if a letter, an optional sign and at least one digit are next. -/
def readExponent : List Sign → Option Int × List Sign
  | e :: rest =>
    if e == .char 'e' || e == .char 'E' then
      let (negative, after) := readSign rest
      let digits := after.takeWhile Sign.isDigit
      if digits.isEmpty then (none, e :: rest)
      else
        let n : Int := natOfSigns digits
        (some (if negative then -n else n), after.dropWhile Sign.isDigit)
    else (none, e :: rest)
  | [] => (none, [])

/-- The digits of a number before its point. A leading zero stands alone. -/
def wholeDigits : List Sign → List Sign
  | .char '0' :: _ => [.char '0']
  | cs => cs.takeWhile Sign.isDigit

/-- A number without its sign, and what follows. A number with a fraction or an exponent is a
binary64 number. -/
def readNumber (negative : Bool) (cs : List Sign) : Except Fault (Value × List Sign) :=
  let digits := wholeDigits cs
  if digits.isEmpty then .error .malformed
  else
    let (fraction, afterFraction) := readFraction (cs.drop digits.length)
    let (exponent, rest) := readExponent afterFraction
    if fraction.isEmpty && exponent.isNone then
      if digitLimit < digits.length then .error .tooLong
      else .ok (.int (if negative then -(natOfSigns digits : Int) else natOfSigns digits), rest)
    else
      .ok (.float (Binary64.ofDecimal negative (natOfSigns (digits ++ fraction))
        (exponent.getD 0 - fraction.length)), rest)

/-- A word at the start of a text, and what follows it. -/
def word? (word : String) (cs : List Sign) : Option (List Sign) :=
  if (signs word.toList).isPrefixOf cs then some (cs.drop word.length) else none

/-- The value of a word, and what follows it. -/
def readWord (word : String) (v : Value) (cs : List Sign) : Except Fault (Value × List Sign) :=
  match word? word cs with
  | some rest => .ok (v, rest)
  | none => .error .malformed

/-- A number or one of the words, and what follows. -/
def readAtom (cs : List Sign) : Except Fault (Value × List Sign) :=
  match cs with
  | .char 'n' :: _ => readWord "null" .null cs
  | .char 't' :: _ => readWord "true" (.bool true) cs
  | .char 'f' :: _ => readWord "false" (.bool false) cs
  | .char 'N' :: _ => readWord "NaN" (.float Binary64.nan) cs
  | .char 'I' :: _ => readWord "Infinity" (.float (Binary64.infinity false)) cs
  | .char '-' :: rest =>
    match word? "Infinity" rest with
    | some after => .ok (.float (Binary64.infinity true), after)
    | none => readNumber true rest
  | _ => readNumber false cs

mutual

/-- A value at the start of a text, and what follows. The first argument bounds the work, the
second is how many lists and objects may still be entered. -/
def readValue : Nat → Nat → List Sign → Except Fault (Value × List Sign)
  | 0, _, _ => .error .malformed
  | fuel + 1, room, cs =>
    match cs, room with
    | .char '"' :: rest, _ =>
      match readCodes rest with
      | some (codes, rest) => .ok (.ofCodes codes, rest)
      | none => .error .malformed
    | .char '[' :: _, 0 => .error .tooDeep
    | .char '[' :: rest, room + 1 =>
      match skip rest with
      | .char ']' :: rest => .ok (.list [], rest)
      | rest => readItems fuel room [] rest
    | .char '\x7b' :: _, 0 => .error .tooDeep
    | .char '\x7b' :: rest, room + 1 =>
      match skip rest with
      | .char '\x7d' :: rest => .ok (.object [], rest)
      | rest => readFields fuel room [] rest
    | _, _ => readAtom cs

/-- The items of a list up to its closing bracket; those already read are in reverse. -/
def readItems : Nat → Nat → List Value → List Sign → Except Fault (Value × List Sign)
  | 0, _, _, _ => .error .malformed
  | fuel + 1, room, items, cs =>
    match readValue fuel room cs with
    | .error why => .error why
    | .ok (v, rest) =>
      match skip rest with
      | .char ',' :: rest => readItems fuel room (v :: items) (skip rest)
      | .char ']' :: rest => .ok (.list (v :: items).reverse, rest)
      | _ => .error .malformed

/-- The fields of an object up to its closing brace; those already read are in reverse. -/
def readFields : Nat → Nat → List (Name × Value) → List Sign →
    Except Fault (Value × List Sign)
  | 0, _, _, _ => .error .malformed
  | fuel + 1, room, fields, cs =>
    match cs with
    | .char '"' :: rest =>
      match readCodes rest with
      | none => .error .malformed
      | some (codes, rest) =>
        match skip rest with
        | .char ':' :: rest =>
          match readValue fuel room (skip rest) with
          | .error why => .error why
          | .ok (v, rest) =>
            let fields := (.ofCodes codes, v) :: fields
            match skip rest with
            | .char ',' :: rest => readFields fuel room fields (skip rest)
            | .char '\x7d' :: rest => .ok (.object (Fields.ofPairs fields.reverse), rest)
            | _ => .error .malformed
        | _ => .error .malformed
    | _ => .error .malformed

end

/-- The value that a whole text spells, with lists and objects nested at most so deeply. Every
sign takes two steps at most: one to read a value, one to go on to its items or fields. -/
def readSigns (nesting : Nat) (cs : List Sign) : Except Fault Value :=
  match readValue (2 * cs.length + 2) nesting (skip cs) with
  | .ok (v, rest) => if (skip rest).isEmpty then .ok v else .error .malformed
  | .error why => .error why

/-- The value that characters spell, with lists and objects nested at most so deeply. -/
def read (nesting : Nat) (cs : List Char) : Except Fault Value := readSigns nesting (signs cs)

/-- How deeply lists and objects may be nested where nothing else is said. -/
def usualNesting : Nat := 960

end SearchAnnotation.Json
