/-!
# Character tables

A table gives characters to numbers. A span is a row of numbers whose characters follow one
another in the character standard, and a run is a row of numbers with its characters in a text.
Spans come before runs, and a number in neither has no character.
-/

namespace SearchAnnotation.Encoding

/-- Characters by number. -/
structure Table where
  /-- First number, last number and first character of each span. -/
  spans : List (Nat × Nat × Nat)
  /-- First number and characters of each run, at most sixty-four. -/
  runs : List (Nat × String)

namespace Table

/-- The character of a number. -/
def find? (table : Table) (code : Nat) : Option Char :=
  match table.spans.find? fun span => span.1 ≤ code && code ≤ span.2.1 with
  | some (first, _, c) => some (Char.ofNat (c + (code - first)))
  | none => table.runs.findSome? fun run =>
      if run.1 ≤ code && code < run.1 + 64 then run.2.toList[code - run.1]? else none

end Table

end SearchAnnotation.Encoding
