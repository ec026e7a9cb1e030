import SearchAnnotation.Number.Shortest
import SearchAnnotation.Text.Quoted
import SearchAnnotation.Value

/-!
# The text of a value

The literal text of a value quotes every text in it; the display text shows a text as itself and
everything else literally. Both are the forms in which ids, messages and log lines show values.
A surrogate that stands alone is escaped between quotes and shown as a replacement mark
otherwise.
-/

namespace SearchAnnotation.Value

/-- Numbers are positional from a ten-thousandth up to ten to the sixteenth, and exponents have
two digits at least. -/
def numberNotation : Notation := ⟨-4, 16, 2⟩

/-- The decimal text of a whole number. -/
def intText (n : Int) : List Char :=
  (if n < 0 then ['-'] else []) ++ Nat.toDigits 10 n.natAbs

/-- A name in quotes. -/
def literalName : Name → List Char
  | .text s => Text.quoted s.toList
  | .unpaired u => Text.quotedCodes u.codes

mutual

/-- The text of a value with every text in quotes. -/
def literal : Value → List Char
  | .null => "None".toList
  | .bool b => if b then "True".toList else "False".toList
  | .int n => intText n
  | .float x => x.render numberNotation
  | .text s => Text.quoted s.toList
  | .unpaired u => Text.quotedCodes u.codes
  | .list items => '[' :: (literalItems items ++ [']'])
  | .object fields => '\x7b' :: (literalFields fields ++ ['\x7d'])

/-- The items of a list, separated by commas. -/
def literalItems : List Value → List Char
  | [] => []
  | [v] => literal v
  | v :: w :: rest => literal v ++ ',' :: ' ' :: literalItems (w :: rest)

/-- The fields of an object, separated by commas, each name in quotes before its value. -/
def literalFields : List (Name × Value) → List Char
  | [] => []
  | [(name, v)] => literalName name ++ ':' :: ' ' :: literal v
  | (name, v) :: field :: rest =>
    literalName name ++ ':' :: ' ' ::
      (literal v ++ ',' :: ' ' :: literalFields (field :: rest))

end

/-- A text as itself, any other value literally. -/
def display : Value → List Char
  | .text s => s.toList
  | .unpaired u => Encoding.lossy (u.codes.map Encoding.charOf?)
  | v => literal v

/-- The display text as code points, where a surrogate that stands alone is kept. -/
def displayCodes : Value → List Nat
  | .unpaired u => u.codes
  | v => v.display.map Char.toNat

/-- The literal text as a string. -/
def literalString (v : Value) : String := String.ofList v.literal

/-- The display text as a string. -/
def displayString (v : Value) : String := String.ofList v.display

end SearchAnnotation.Value
