import SearchAnnotation.Encoding.Units
import SearchAnnotation.Text.Printable

/-!
# Quoted text

A quoted text shows every character on one line. Single quotes enclose it, or double quotes if
it holds a single quote and no double one. The enclosing quote, the backslash and the three
common controls are written with a backslash, other characters that are not printable by their
code point in two, four or eight hexadecimal digits, and all others as themselves.
-/

namespace SearchAnnotation.Text

/-- The lower-case hexadecimal digits of a code point, padded to a width. -/
def hexPadded (width : Nat) (n : Nat) : List Char :=
  let digits := Nat.toDigits 16 n
  List.replicate (width - digits.length) '0' ++ digits

/-- A code point that is no printable character, in the shortest of three forms. -/
def codeEscape (n : Nat) : List Char :=
  if n < 0x100 then '\\' :: 'x' :: hexPadded 2 n
  else if n < 0x10000 then '\\' :: 'u' :: hexPadded 4 n
  else '\\' :: 'U' :: hexPadded 8 n

/-- One character between quotes. -/
def quoteChar (quote : Char) (c : Char) : List Char :=
  if c = quote || c = '\\' then ['\\', c]
  else if c = '\n' then ['\\', 'n']
  else if c = '\r' then ['\\', 'r']
  else if c = '\t' then ['\\', 't']
  else if isPrintable c then [c]
  else codeEscape c.toNat

/-- The quote that encloses a text. -/
def enclosingQuote (cs : List Char) : Char :=
  if cs.contains '\'' && !cs.contains '"' then '"' else '\''

/-- A text in quotes. -/
def quoted (cs : List Char) : List Char :=
  let quote := enclosingQuote cs
  quote :: (cs.flatMap (quoteChar quote) ++ [quote])

/-- Code points in quotes, each surrogate by its code point. -/
def quotedCodes (codes : List Nat) : List Char :=
  let quote := enclosingQuote (codes.filterMap Encoding.charOf?)
  let shown := codes.flatMap fun n =>
    match Encoding.charOf? n with
    | some c => quoteChar quote c
    | none => codeEscape n
  quote :: (shown ++ [quote])

example : String.ofList (quoted "a\nb".toList) = "'a\\nb'" := by decide +kernel

example : String.ofList (quoted "it's".toList) = "\"it's\"" := by decide +kernel

end SearchAnnotation.Text
