import SearchAnnotation.Value.Elements
import SearchAnnotation.Value.Text

/-!
# Ranking signals

A provider's record is asked only for an object of signals; anything else counts as none. A
stored document is read more generously: a sequence of pairs also makes an object, its keys
compared by agreement and then named by their text.
-/

namespace SearchAnnotation.Signals

/-- The signals of a provider's record. -/
def ofRecord : Value → Fields
  | .object fields => fields
  | _ => []

/-- The two elements of a pair. -/
def pair (v : Value) : Except ShapeFault (Value × Value) := do
  match ← v.elements with
  | [key, value] => if key.isKey then .ok (key, value) else .error .wrongKind
  | _ => .error .wrongLength

/-- Sets a key among keyed values: a key that agrees with an earlier one replaces its value. -/
def putKey (key value : Value) : List (Value × Value) → List (Value × Value)
  | [] => [(key, value)]
  | (k, v) :: rest => if k.agree key then (k, value) :: rest else (k, v) :: putKey key value rest

/-- The keyed values of a sequence of pairs, the last value of a key winning. -/
def ofPairs : List (Value × Value) → List Value → Except ShapeFault (List (Value × Value))
  | entries, [] => .ok entries
  | entries, v :: rest => do
    let (key, value) ← pair v
    ofPairs (putKey key value entries) rest

/-- The name under which a key is stored. -/
def keyName : Value → Name
  | .text s => s
  | .unpaired u => .unpaired u
  | .null => "null"
  | .bool b => if b then "true" else "false"
  | v => v.literalString

/-- The signals of a stored document. A trivial value stands for none. -/
def ofDocument (v : Value) : Except ShapeFault Fields :=
  if v.isTrivial then .ok []
  else
    match v with
    | .object fields => .ok fields
    | v => do
      let items ← v.elements
      let entries ← ofPairs [] items
      return Fields.ofPairs (entries.map fun entry => (keyName entry.1, entry.2))

end SearchAnnotation.Signals
