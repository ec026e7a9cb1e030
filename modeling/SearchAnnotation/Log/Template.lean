import SearchAnnotation.Number.Rounded
import SearchAnnotation.Value.Text

/-!
# Message templates

A template has places for values, each a percent sign, possibly a name in parentheses, flags, a
width and a precision, and a letter for the form; two percent signs stand for one. One value is
given: it fills a place without a name, and an object also the places that name its fields. A
value that fills no place is too many unless it is a list or an object.
-/

namespace SearchAnnotation.Template

/-- Why a template cannot be filled. -/
inductive Fault where
  /-- The template ends within a place. -/
  | incomplete
  /-- No form has the letter. -/
  | unknownForm
  /-- A width or a precision is too large. -/
  | tooWide
  /-- There are more places than values. -/
  | noValue
  /-- The value fills no place. -/
  | leftover
  /-- The value has no fields that could be named. -/
  | noFields
  /-- A value is of the wrong kind for its form. -/
  | wrongKind
  /-- A whole number is wanted of the undefined number. -/
  | undefinedNumber
  /-- The value has no field of a name. -/
  | missing (name : String)
  /-- A number is out of range. -/
  | outOfRange (explanation : String)
deriving DecidableEq, Repr

/-- What is left to fill places with. -/
structure Supply where
  /-- The value as a whole. -/
  whole : Value
  /-- The value for the next place without a name. -/
  next : Value
  /-- Whether that value was used. -/
  used : Bool

/-- The supply of one value. -/
def Supply.start (v : Value) : Supply := ⟨v, v, false⟩

/-- The value for the next place. -/
def Supply.take (supply : Supply) : Except Fault (Value × Supply) :=
  if supply.used then .error .noValue else .ok (supply.next, { supply with used := true })

/-- The supply for a place that names a field. -/
def Supply.named (supply : Supply) (name : List Char) : Except Fault Supply :=
  match supply.whole with
  | .object fields =>
    match Fields.get? fields (String.ofList name) with
    | some v => .ok { supply with next := v, used := false }
    | none => .error (.missing (String.ofList name))
  | _ => .error .wrongKind

/-- Whether a value has parts that places may name. -/
def hasParts : Value → Bool
  | .list _ | .object _ => true
  | _ => false

/-- How a place wants its value. -/
structure Place where
  /-- At the left of its width. -/
  left : Bool
  /-- With a plus sign if it is not negative. -/
  plus : Bool
  /-- With a space in place of the plus sign. -/
  space : Bool
  /-- In an alternate style. -/
  alternate : Bool
  /-- With zeros in front up to its width. -/
  zeros : Bool
  /-- The least width. -/
  width : Nat
  /-- The precision. -/
  precision : Option Nat
deriving DecidableEq, Repr

/-- A name up to the parenthesis that closes it, and what follows. -/
def readName : Nat → List Char → Option (List Char × List Char)
  | _, [] => none
  | depth, ')' :: rest =>
    match depth with
    | 0 => some ([], rest)
    | depth + 1 => (readName depth rest).map fun (name, rest) => (')' :: name, rest)
  | depth, '(' :: rest => (readName (depth + 1) rest).map fun (name, rest) => ('(' :: name, rest)
  | depth, c :: rest => (readName depth rest).map fun (name, rest) => (c :: name, rest)

/-- The name of a place, if it has one, put to use, and what follows. -/
def readField (cs : List Char) (supply : Supply) : Except Fault (List Char × Supply) :=
  match cs with
  | '(' :: rest =>
    if hasParts supply.whole then
      match readName 0 rest with
      | some (name, rest) => do return (rest, ← supply.named name)
      | none => .error .incomplete
    else .error .noFields
  | cs => .ok (cs, supply)

/-- A decimal digit. -/
def isDigit (c : Char) : Bool := '0' ≤ c && c ≤ '9'

/-- The number that decimal digits spell. -/
def natOf (digits : List Char) : Nat :=
  digits.foldl (fun n c => n * 10 + (c.toNat - '0'.toNat)) 0

/-- The largest width. -/
def widthLimit : Nat := 9223372036854775807

/-- The largest precision. -/
def precisionLimit : Nat := 2147483647

/-- The whole number of a truth value or a whole number. -/
def whole? : Value → Option Int
  | .int n => some n
  | .bool b => some (if b then 1 else 0)
  | _ => none

/-- A number in digits, or a star that takes it from the supply. Answers nothing if there is
neither. -/
def readCount (limit : Nat) (kind : String) (cs : List Char) (supply : Supply) :
    Except Fault (Option Int × List Char × Supply) :=
  match cs with
  | '*' :: rest => do
    let (v, supply) ← supply.take
    match whole? v with
    | none => throw .wrongKind
    | some n =>
      if (limit : Int) < n || n < -(limit : Int) - 1 then
        throw (.outOfRange ("Python int too large to convert to C " ++ kind))
      else return (some n, rest, supply)
  | cs =>
    let digits := cs.takeWhile isDigit
    if digits.isEmpty then .ok (none, cs, supply)
    else if limit < natOf digits then .error .tooWide
    else .ok (some (natOf digits), cs.drop digits.length, supply)

/-- How a place wants its value, and what follows. -/
def readPlace (cs : List Char) (supply : Supply) : Except Fault (Place × List Char × Supply) := do
  let (cs, supply) ← readField cs supply
  let flags := cs.takeWhile fun c => "-+ #0".toList.contains c
  let (width, cs, supply) ← readCount widthLimit "ssize_t" (cs.drop flags.length) supply
  let (precision, cs, supply) ← match cs with
    | '.' :: rest => do
      let (precision, rest, supply) ← readCount precisionLimit "int" rest supply
      pure (some (precision.getD 0).toNat, rest, supply)
    | cs => pure (none, cs, supply)
  let cs := match cs with
    | c :: rest => if c == 'h' || c == 'l' || c == 'L' then rest else cs
    | [] => []
  let width := width.getD 0
  let place : Place := {
    left := flags.contains '-' || width < 0
    plus := flags.contains '+'
    space := flags.contains ' '
    alternate := flags.contains '#'
    zeros := flags.contains '0'
    width := width.natAbs
    precision }
  return (place, cs, supply)

/-- A text within the width of a place. -/
def fillText (place : Place) (cs : List Char) : List Char :=
  let blanks := List.replicate (place.width - cs.length) ' '
  if place.left then cs ++ blanks else blanks ++ cs

/-- A number within the width of a place, with its sign and a mark in front of its digits. -/
def fillNumber (place : Place) (negative : Bool) (mark digits : List Char) : List Char :=
  let sign := if negative then ['-'] else if place.plus then ['+'] else if place.space then [' ']
    else []
  let size := sign.length + mark.length + digits.length
  if place.zeros && !place.left then
    sign ++ mark ++ List.replicate (place.width - size) '0' ++ digits
  else fillText place (sign ++ mark ++ digits)

/-- The whole number that a form of whole numbers shows. -/
def wholeOf : Value → Except Fault Int
  | .float x =>
    if x.isNaN then .error .undefinedNumber
    else if !x.isFinite then .error (.outOfRange "cannot convert float infinity to integer")
    else .ok x.truncated
  | v => (whole? v).elim (.error .wrongKind) .ok

/-- The binary64 number that a form of numbers shows. -/
def floatOf : Value → Except Fault Binary64
  | .float x => .ok x
  | v =>
    match whole? v with
    | none => .error .wrongKind
    | some n =>
      let x := Binary64.ofInt n
      if x.isFinite then .ok x else .error (.outOfRange "int too large to convert to float")

/-- The character that a form of characters shows. -/
def charOf : Value → Except Fault Char
  | .text s =>
    match s.toList with
    | [c] => .ok c
    | _ => .error .wrongKind
  | v =>
    match whole? v with
    | none => .error .wrongKind
    | some n =>
      if 0 ≤ n && n < 0x110000 then .ok (Char.ofNat n.toNat)
      else .error (.outOfRange "%c arg not in range(0x110000)")

/-- A literal text in seven bits. -/
def sevenBit (cs : List Char) : List Char :=
  cs.flatMap fun c => if c.toNat < 0x80 then [c] else Text.codeEscape c.toNat

/-- A whole number in a base, with at least as many digits as the precision says. -/
def fillWhole (place : Place) (base : Nat) (mark : List Char) (n : Int) : List Char :=
  let digits := Nat.toDigits base n.natAbs
  let zeros := List.replicate (place.precision.getD 0 - digits.length) '0'
  fillNumber place (n < 0) (if place.alternate then mark else []) (zeros ++ digits)

/-- A binary64 number in a form. -/
def fillFloat (place : Place) (form : Binary64.Form) (x : Binary64) : List Char :=
  fillNumber place (x.negative && !x.isNaN) []
    (x.formText (place.precision.getD 6) place.alternate form)

/-- Text cut to the precision. -/
def fillShown (place : Place) (cs : List Char) : List Char :=
  fillText place ((place.precision.map cs.take).getD cs)

/-- A value in a place, in the form of a letter. -/
def fillPlace (place : Place) (letter : Char) (v : Value) : Except Fault (List Char) :=
  match letter with
  | 's' => .ok (fillShown place v.display)
  | 'r' => .ok (fillShown place v.literal)
  | 'a' => .ok (fillShown place (sevenBit v.literal))
  | 'c' => (charOf v).map fun c => fillText place [c]
  | 'd' | 'i' | 'u' => (wholeOf v).map (fillWhole place 10 [])
  | 'o' => counted 8 ['0', 'o']
  | 'x' => counted 16 ['0', 'x']
  | 'X' => (counted 16 ['0', 'x']).map (List.map Char.toUpper)
  | 'e' => (floatOf v).map (fillFloat place .scientific)
  | 'f' => (floatOf v).map (fillFloat place .fixed)
  | 'g' => (floatOf v).map (fillFloat place .general)
  | 'E' => (floatOf v).map fun x => (fillFloat place .scientific x).map Char.toUpper
  | 'F' => (floatOf v).map fun x => (fillFloat place .fixed x).map Char.toUpper
  | 'G' => (floatOf v).map fun x => (fillFloat place .general x).map Char.toUpper
  | _ => .error .unknownForm
where
  /-- The value as a whole number in a base other than ten. -/
  counted (base : Nat) (mark : List Char) : Except Fault (List Char) :=
    match whole? v with
    | some n => .ok (fillWhole place base mark n)
    | none => .error .wrongKind

/-- What stands in a place, what follows it, and the supply afterwards. -/
def fillNext (cs : List Char) (supply : Supply) :
    Except Fault (List Char × List Char × Supply) := do
  let (place, cs, supply) ← readPlace cs supply
  match cs with
  | [] => throw .incomplete
  | letter :: rest =>
    let (v, supply) ← supply.take
    return (← fillPlace place letter v, rest, supply)

/-- The filled template and the supply afterwards. The first argument bounds the work. -/
def fillFrom : Nat → List Char → Supply → Except Fault (List Char × Supply)
  | 0, _, supply => .ok ([], supply)
  | _, [], supply => .ok ([], supply)
  | fuel + 1, '%' :: '%' :: rest, supply => do
    let (more, supply) ← fillFrom fuel rest supply
    return ('%' :: more, supply)
  | fuel + 1, '%' :: rest, supply => do
    let (shown, rest, supply) ← fillNext rest supply
    let (more, supply) ← fillFrom fuel rest supply
    return (shown ++ more, supply)
  | fuel + 1, c :: rest, supply => do
    let (more, supply) ← fillFrom fuel rest supply
    return (c :: more, supply)

/-- A template filled with a value. -/
def fill (template : List Char) (v : Value) : Except Fault (List Char) := do
  let (cs, supply) ← fillFrom (template.length + 1) template (.start v)
  if !supply.used && !hasParts v then throw .leftover
  return cs

example : (fill "%05.1f%%".toList (.int 7)).toOption = some "007.0%".toList := by decide +kernel

end SearchAnnotation.Template
