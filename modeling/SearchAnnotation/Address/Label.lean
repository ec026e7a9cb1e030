import SearchAnnotation.Address.LabelTable
import SearchAnnotation.Encoding.Punycode
import SearchAnnotation.Text.Composition
import SearchAnnotation.Text.LowerCase
import SearchAnnotation.Text.Pieces

/-!
# Labels of host names

A label with characters beyond seven bits is written in seven-bit characters behind a marker. It
must be in composed form, its hyphens and marks must stand where they may, each character must be
allowed there, and the writing directions must agree. A label behind the marker is held to the
same rules once it is read.
-/

namespace SearchAnnotation.Address

/-- Why a label cannot stand in a host name. -/
inductive LabelFault where
  /-- Its length, its hyphens, its first mark, or a form that is not composed or cannot be read. -/
  | form
  /-- A character that no label may have. -/
  | character
  /-- A character that may not stand where it does. -/
  | company
  /-- Writing directions that do not agree. -/
  | direction
deriving DecidableEq, Repr

namespace Label

open Text (isWithin)

/-- The writing direction of a character, as far as labels are concerned. -/
inductive Direction where
  /-- From left to right. -/
  | left
  /-- From right to left. -/
  | right
  /-- A digit that goes with Arabic letters. -/
  | arabicDigit
  /-- A digit that goes with all letters. -/
  | digit
  /-- A mark, which takes the direction of its letter. -/
  | mark
  /-- No direction. -/
  | neutral
deriving DecidableEq, Repr

/-- The direction of a character. -/
def direction (n : Nat) : Direction :=
  if isWithin LabelTable.digits n then .digit
  else if isWithin LabelTable.directionless n then .mark
  else if isWithin LabelTable.neutral n then .neutral
  else if isWithin LabelTable.arabicDigits n then .arabicDigit
  else if isWithin LabelTable.rightToLeft n || isWithin LabelTable.arabic n then .right
  else .left

/-- Whether a character may stand anywhere. -/
def isValid (n : Nat) : Bool :=
  LabelTable.valid.any fun (first, last, step) =>
    first ≤ n && n ≤ last && (n - first) % step == 0

/-- Whether the first character that is no joined mark is in some ranges. -/
def meets (ranges : List (Nat × Nat)) (ns : List Nat) : Bool :=
  match ns.find? fun n => !isWithin LabelTable.transparent n with
  | some n => isWithin ranges n
  | none => false

/-- Whether the character before is a mark that takes the vowel from its letter. -/
def followsVirama (before : List Nat) : Bool :=
  match before with
  | n :: _ => Text.place n == 9
  | [] => false

/-- Whether a character may stand after others, in reverse, and before the rest; nothing for
characters of which this is not a question. -/
def mayStand? (label before : List Nat) (n : Nat) (after : List Nat) : Option Bool :=
  if n = 0x200c then
    some (followsVirama before ||
      (meets LabelTable.joinsBefore before && meets LabelTable.joinsAfter after))
  else if n = 0x200d then some (followsVirama before)
  else if n = 0xb7 then some (before.head? == some 0x6c && after.head? == some 0x6c)
  else if n = 0x375 then some (after.head?.any (isWithin LabelTable.greek))
  else if n = 0x5f3 || n = 0x5f4 then some (before.head?.any (isWithin LabelTable.hebrew))
  else if n = 0x30fb then
    some (label.any fun m =>
      m != 0x30fb && (isWithin LabelTable.kana m || isWithin LabelTable.han m))
  else if 0x660 ≤ n && n ≤ 0x669 then some (!label.any fun m => 0x6f0 ≤ m && m ≤ 0x6f9)
  else if 0x6f0 ≤ n && n ≤ 0x6f9 then some (!label.any fun m => 0x660 ≤ m && m ≤ 0x669)
  else none

/-- Whether a character only joins others. -/
def isJoiner (n : Nat) : Bool := n == 0x200c || n == 0x200d

/-- The first fault among the characters of a label, after some of them in reverse. A joiner out
of place is a fault of form. -/
def characterFault? (label before : List Nat) : List Nat → Option LabelFault
  | [] => none
  | n :: rest =>
    if isValid n then characterFault? label (n :: before) rest
    else
      match mayStand? label before n rest with
      | some true => characterFault? label (n :: before) rest
      | some false => some (if isJoiner n then .form else .company)
      | none => some .character

/-- Whether the last character that is no mark may end a label. -/
def endsWith (mayEnd : Direction → Bool) (directions : List Direction) : Bool :=
  match directions.reverse.find? (· != .mark) with
  | some d => mayEnd d
  | none => false

/-- Whether the directions of a label agree. Only labels with a character from right to left are
asked; such a label has one main direction, and one kind of digits if that is from the right. No
direction may be unknown. -/
def directionsAgree (label : List Nat) : Bool :=
  let ds := label.map direction
  if label.any (isWithin LabelTable.unknown) then false
  else if !ds.any fun d => d == .right || d == .arabicDigit then true
  else
    match ds.head? with
    | some .right =>
      !ds.contains .left && !(ds.contains .digit && ds.contains .arabicDigit) &&
        endsWith (fun d => d == .right || d == .digit || d == .arabicDigit) ds
    | some .left =>
      !ds.contains .right && !ds.contains .arabicDigit &&
        endsWith (fun d => d == .left || d == .digit) ds
    | _ => false

/-- The longest host name, with a point at its end. -/
def nameLimit : Nat := 254

/-- The longest label in seven-bit characters. -/
def lengthLimit : Nat := 63

/-- Whether the hyphens of a label stand where they may. -/
def hyphensStand (label : List Nat) : Bool :=
  (label.drop 2).take 2 != [0x2d, 0x2d] && label.head? != some 0x2d &&
    label.getLast? != some 0x2d

/-- The check of a label. -/
def check (label : List Nat) : Except LabelFault Unit :=
  if label.isEmpty || nameLimit < label.length || Text.composed label != label ||
      !hyphensStand label || label.head?.any (isWithin LabelTable.marks) then .error .form
  else
    match characterFault? label [] label with
    | some why => .error why
    | none => if directionsAgree label then .ok () else .error .direction

/-- What a label behind the marker begins with. -/
def marker : List Char := "xn--".toList

/-- A label of seven-bit characters as it reads. -/
def toReadable (label : List Char) : Except LabelFault (List Char) :=
  let label := label.map Char.toLower
  if marker.isPrefixOf label then
    let coded := label.drop marker.length
    if coded.isEmpty || coded.getLast? == some '-' then .error .form
    else
      let (codes, sound) := Encoding.Punycode.decode coded
      if sound then (check codes).map fun _ => codes.map Char.ofNat else .error .form
  else (check (label.map Char.toNat)).map fun _ => label

/-- A label in seven-bit characters. -/
def toSevenBit (label : List Char) : Except LabelFault (List Char) :=
  let written :=
    if label.all (·.toNat < 128) then (toReadable label).map fun _ => label
    else (check (label.map Char.toNat)).map fun _ => marker ++ Encoding.Punycode.encode label
  match written with
  | .error why => .error why
  | .ok written => if written.length ≤ lengthLimit then .ok written else .error .form

/-- The points that separate labels. -/
def isPoint (c : Char) : Bool := c == '.' || c == '\u3002' || c == '\uff0e' || c == '\uff61'

/-- A host name with each label changed. A last empty label stands for a point at the end. -/
def mapLabels (change : List Char → Except LabelFault (List Char)) (name : List Char) :
    Except LabelFault (List Char) :=
  let labels := Text.pieces isPoint name
  let ended := labels.getLast? == some []
  let labels := if ended then labels.dropLast else labels
  if name.isEmpty || nameLimit < name.length then .error .form
  else
    match labels.mapM change with
    | .error why => .error why
    | .ok labels => .ok (['.'].intercalate (labels ++ if ended then [[]] else []))

/-- A host name in seven-bit characters. -/
def nameToSevenBit (name : List Char) : Except LabelFault (List Char) :=
  match mapLabels toSevenBit name with
  | .error why => .error why
  | .ok written =>
    if written.length ≤ (if written.getLast? == some '.' then nameLimit else nameLimit - 1) then
      .ok written
    else .error .form

/-- A host name as it reads. -/
def nameToReadable (name : List Char) : Except LabelFault (List Char) := mapLabels toReadable name

end Label

end SearchAnnotation.Address
