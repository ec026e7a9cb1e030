import SearchAnnotation.Value

/-!
# Agreement of values

Two values agree when they cannot be told apart as keys or choices: numbers and truth values
agree by numeric value, texts by their characters, lists item by item, and objects name by name
in any order. Agreement is coarser than structural equality except on undefined numbers, which
agree with nothing.
-/

namespace SearchAnnotation.Value

/-- The whole number that a truth value stands for. -/
def ofBool (b : Bool) : Int := if b then 1 else 0

mutual

/-- Whether two values agree. -/
def agree : Value → Value → Bool
  | .null, .null => true
  | .bool a, .bool b => a == b
  | .bool a, .int n => ofBool a == n
  | .int n, .bool a => n == ofBool a
  | .bool a, .float x => x.toInt? == some (ofBool a)
  | .float x, .bool a => x.toInt? == some (ofBool a)
  | .int m, .int n => m == n
  | .int n, .float x => x.toInt? == some n
  | .float x, .int n => x.toInt? == some n
  | .float x, .float y => x.agree y
  | .text s, .text t => s == t
  | .unpaired a, .unpaired b => a == b
  | .list vs, .list ws => agreeItems vs ws
  | .object fs, .object gs => fs.length == gs.length && agreeFields fs gs
  | _, _ => false

/-- Whether two lists agree item by item. -/
def agreeItems : List Value → List Value → Bool
  | [], [] => true
  | v :: vs, w :: ws => agree v w && agreeItems vs ws
  | _, _ => false

/-- Whether every field of the first object agrees with the field of its name in the second. -/
def agreeFields : List (Name × Value) → List (Name × Value) → Bool
  | [], _ => true
  | (name, v) :: fs, gs =>
    (match gs.lookup name with
      | some w => agree v w
      | none => false) && agreeFields fs gs

end

mutual

/-- Whether two values cannot be told apart inside lists and objects: they agree, or they are one
and the same, as undefined numbers are. -/
def alike : Value → Value → Bool
  | .list vs, .list ws => alikeItems vs ws
  | .object fs, .object gs => fs.length == gs.length && alikeFields fs gs
  | v, w => v == w || v.agree w

/-- Whether two lists are alike item by item. -/
def alikeItems : List Value → List Value → Bool
  | [], [] => true
  | v :: vs, w :: ws => alike v w && alikeItems vs ws
  | _, _ => false

/-- Whether every field of the first object is like the field of its name in the second. -/
def alikeFields : List (Name × Value) → List (Name × Value) → Bool
  | [], _ => true
  | (name, v) :: fs, gs =>
    (match gs.lookup name with
      | some w => alike v w
      | none => false) && alikeFields fs gs

end

/-- Values that can serve as keys: all but lists and objects. -/
def isKey : Value → Bool
  | .list _ => false
  | .object _ => false
  | _ => true

end SearchAnnotation.Value
