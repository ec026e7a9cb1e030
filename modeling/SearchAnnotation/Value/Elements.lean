import SearchAnnotation.Value.Equality

/-!
# The elements of a value and the faults of its shape

A list gives its items, a text its characters and an object its names; other values have no
elements. Every rule that meets a value of the wrong shape answers with one of these faults.
-/

namespace SearchAnnotation

/-- Why a value does not have the shape that a rule needs. -/
inductive ShapeFault where
  /-- A required field is missing. -/
  | missing (name : String)
  /-- A value is of another kind than required. -/
  | wrongKind
  /-- A sequence has another length than required. -/
  | wrongLength
  /-- A stored text spells no value. -/
  | unreadable
deriving DecidableEq, Repr

namespace Value

/-- One code point as a value. -/
def ofCode (n : Nat) : Value := ofCodes [n]

/-- The elements of a value in order. -/
def elements? : Value → Option (List Value)
  | .list items => some items
  | .text s => some (s.toList.map fun c => .text (String.singleton c))
  | .unpaired u => some (u.codes.map ofCode)
  | .object fields => some (fields.map fun field => ofName field.1)
  | _ => none

/-- The elements of a value, or the fault of one that has none. -/
def elements (v : Value) : Except ShapeFault (List Value) :=
  match v.elements? with
  | some items => .ok items
  | none => .error .wrongKind

end Value

end SearchAnnotation
