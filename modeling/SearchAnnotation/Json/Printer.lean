import SearchAnnotation.Json.Reader
import SearchAnnotation.Value.Text

/-!
# Writing JSON text

Text is written with the escapes of the format for the quote, the backslash and the common
controls, and every other character outside the printable seven-bit range by its sixteen-bit
units. Items and fields are separated by a comma and a blank.
-/

namespace SearchAnnotation.Json

/-- A sixteen-bit unit as an escape. -/
def unitEscape (n : Nat) : List Char := '\\' :: 'u' :: Text.hexPadded 4 n

/-- A code point outside the printable seven-bit range, by its units. -/
def codeEscape (n : Nat) : List Char :=
  if n < 0x10000 then unitEscape n
  else unitEscape (0xd800 + (n - 0x10000) / 0x400) ++ unitEscape (0xdc00 + (n - 0x10000) % 0x400)

/-- One character between quotes. -/
def escape (c : Char) : List Char :=
  if c = '"' || c = '\\' then ['\\', c]
  else if c = '\n' then ['\\', 'n']
  else if c = '\r' then ['\\', 'r']
  else if c = '\t' then ['\\', 't']
  else if c = '\x08' then ['\\', 'b']
  else if c = '\x0c' then ['\\', 'f']
  else if 0x20 ≤ c.toNat && c.toNat < 0x7f then [c]
  else codeEscape c.toNat

/-- A text in quotes. -/
def renderText (s : String) : List Char := '"' :: (s.toList.flatMap escape ++ ['"'])

/-- One code point between quotes. -/
def escapeCode (n : Nat) : List Char :=
  match Encoding.charOf? n with
  | some c => escape c
  | none => codeEscape n

/-- Code points in quotes. -/
def renderCodes (codes : List Nat) : List Char := '"' :: (codes.flatMap escapeCode ++ ['"'])

/-- A name in quotes. -/
def renderName : Name → List Char
  | .text s => renderText s
  | .unpaired u => renderCodes u.codes

/-- A binary64 number, with the format's words for those without digits. -/
def renderFloat (x : Binary64) : List Char :=
  if x.isNaN then "NaN".toList
  else if x.isFinite then x.render Value.numberNotation
  else (if x.negative then "-Infinity" else "Infinity").toList

mutual

/-- The JSON text of a value. -/
def render : Value → List Char
  | .null => "null".toList
  | .bool b => if b then "true".toList else "false".toList
  | .int n => Value.intText n
  | .float x => renderFloat x
  | .text s => renderText s
  | .unpaired u => renderCodes u.codes
  | .list items => '[' :: (renderItems items ++ [']'])
  | .object fields => '\x7b' :: (renderFields fields ++ ['\x7d'])

/-- The items of a list, separated. -/
def renderItems : List Value → List Char
  | [] => []
  | [v] => render v
  | v :: w :: rest => render v ++ ',' :: ' ' :: renderItems (w :: rest)

/-- The fields of an object, separated, each name before its value. -/
def renderFields : List (Name × Value) → List Char
  | [] => []
  | [(name, v)] => renderName name ++ ':' :: ' ' :: render v
  | (name, v) :: field :: rest =>
    renderName name ++ ':' :: ' ' :: (render v ++ ',' :: ' ' :: renderFields (field :: rest))

end

mutual

/-- Whether the strict format can write a value: every number is finite and no surrogate stands
alone. -/
def isStrict : Value → Bool
  | .float x => x.isFinite
  | .unpaired _ => false
  | .list items => isStrictItems items
  | .object fields => isStrictFields fields
  | _ => true

/-- Whether the strict format can write every item. -/
def isStrictItems : List Value → Bool
  | [] => true
  | v :: rest => isStrict v && isStrictItems rest

/-- Whether the strict format can write every field. -/
def isStrictFields : List (Name × Value) → Bool
  | [] => true
  | (name, v) :: rest => name.text?.isSome && isStrict v && isStrictFields rest

end

/-- Whether the digits of a whole number are not too many to be written. -/
def fitsDigits (n : Int) : Bool := (Nat.toDigits 10 n.natAbs).length ≤ digitLimit

/-- Whether code points are all below the end of the code space. -/
def inCodeSpace (codes : List Nat) : Bool := codes.all (· < 0x110000)

mutual

/-- Whether a value has a JSON text: no whole number in it has too many digits. -/
def isWritable : Value → Bool
  | .int n => fitsDigits n
  | .unpaired u => inCodeSpace u.codes
  | .list items => isWritableItems items
  | .object fields => isWritableFields fields
  | _ => true

/-- Whether every item has a JSON text. -/
def isWritableItems : List Value → Bool
  | [] => true
  | v :: rest => isWritable v && isWritableItems rest

/-- Whether every field has a JSON text. -/
def isWritableFields : List (Name × Value) → Bool
  | [] => true
  | (name, v) :: rest => inCodeSpace name.codes && isWritable v && isWritableFields rest

end

end SearchAnnotation.Json
