import SearchAnnotation.Text.Blank

/-!
# Whole numbers in texts

A whole number is written in the decimal digits of any script, with single underscores between
them, a sign before them and blanks around them. A number of too many digits is none.
-/

namespace SearchAnnotation.Text

/-- The zeros of all scripts; the other nine digits follow each of them. -/
def zeros : List Nat := [
  0x30, 0x660, 0x6f0, 0x7c0, 0x966, 0x9e6, 0xa66, 0xae6, 0xb66, 0xbe6, 0xc66, 0xce6, 0xd66,
  0xde6, 0xe50, 0xed0, 0xf20, 0x1040, 0x1090, 0x17e0, 0x1810, 0x1946, 0x19d0, 0x1a80, 0x1a90,
  0x1b50, 0x1bb0, 0x1c40, 0x1c50, 0xa620, 0xa8d0, 0xa900, 0xa9d0, 0xa9f0, 0xaa50, 0xabf0,
  0xff10, 0x104a0, 0x10d30, 0x11066, 0x110f0, 0x11136, 0x111d0, 0x112f0, 0x11450, 0x114d0,
  0x11650, 0x116c0, 0x11730, 0x118e0, 0x11950, 0x11c50, 0x11d50, 0x11da0, 0x16a60, 0x16ac0,
  0x16b50, 0x1d7ce, 0x1d7d8, 0x1d7e2, 0x1d7ec, 0x1d7f6, 0x1e140, 0x1e2f0, 0x1e950, 0x1fbf0]

/-- The value of a decimal digit. -/
def digit? (c : Char) : Option Nat :=
  (zeros.find? fun first => first ≤ c.toNat && c.toNat < first + 10).map (c.toNat - ·)

/-- The values of digits with single underscores between them, of which there is at least one. -/
def digitValues? : List Char → Option (List Nat)
  | [] => none
  | [c] => (digit? c).map fun n => [n]
  | c :: '_' :: rest =>
    match digit? c, digitValues? rest with
    | some n, some ns => some (n :: ns)
    | _, _ => none
  | c :: rest =>
    match digit? c, digitValues? rest with
    | some n, some ns => some (n :: ns)
    | _, _ => none

/-- The most digits that a number may have. -/
def digitLimit : Nat := 4300

/-- The number of digits without a sign. -/
def natural? (cs : List Char) : Option Nat :=
  match digitValues? cs with
  | some ns =>
    if ns.length ≤ digitLimit then some (ns.foldl (fun n digit => n * 10 + digit) 0) else none
  | none => none

/-- The whole number that a text is, if it is one. -/
def integer? (text : List Char) : Option Int :=
  match trim isWhiteSpace text with
  | '-' :: rest => (natural? rest).map fun n => -(n : Int)
  | '+' :: rest => (natural? rest).map fun n => (n : Int)
  | rest => (natural? rest).map fun n => (n : Int)

example : integer? " -1_٣ ".toList = some (-13) := by decide +kernel

end SearchAnnotation.Text
