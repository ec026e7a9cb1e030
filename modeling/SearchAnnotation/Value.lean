import SearchAnnotation.Encoding.Units
import SearchAnnotation.Number.Binary64

/-!
# Values of records and requests

Records of a search API, request bodies and stored documents are values: null, booleans, whole
and binary64 numbers, text, lists, and objects whose fields keep the order in which they were
first given. Whole and binary64 numbers are distinct values, and equality here is structural. Code
points of which some are surrogates make no text and are values of their own kind, for they can
neither be stored as text nor sent. The same goes for the names of fields.
-/

namespace SearchAnnotation

/-- Code points that make no text, for some of them are surrogates standing alone. -/
structure Unpaired where
  /-- The code points. -/
  codes : List Nat
  /-- They are not all characters. -/
  not_text : codes.mapM Encoding.charOf? = none
deriving DecidableEq, Repr

/-- The name of a field or a result. -/
inductive Name where
  /-- A text. -/
  | text (s : String)
  /-- Code points that make no text. -/
  | unpaired (u : Unpaired)
deriving DecidableEq, Repr

instance : Coe String Name := ⟨Name.text⟩

namespace Name

/-- The text of a name, if it is one. -/
def text? : Name → Option String
  | text s => some s
  | unpaired _ => none

/-- The code points of a name. -/
def codes : Name → List Nat
  | text s => s.toList.map Char.toNat
  | unpaired u => u.codes

/-- The name that code points make: a text, unless a surrogate stands alone. -/
def ofCodes (codes : List Nat) : Name :=
  match h : codes.mapM Encoding.charOf? with
  | some cs => .text (String.ofList cs)
  | none => .unpaired ⟨codes, h⟩

end Name

/-- A value without a fixed shape. -/
inductive Value where
  /-- The absent value. -/
  | null
  /-- A truth value. -/
  | bool (b : Bool)
  /-- A whole number of any size. -/
  | int (n : Int)
  /-- A binary64 number. -/
  | float (x : Binary64)
  /-- A text. -/
  | text (s : String)
  /-- Code points that make no text. -/
  | unpaired (u : Unpaired)
  /-- A list of values. -/
  | list (items : List Value)
  /-- Named values in the order in which the names were first given. -/
  | object (fields : List (Name × Value))
deriving Repr

/-- The fields of an object. -/
abbrev Fields := List (Name × Value)

namespace Value

mutual

/-- Structural equality of values is decidable. -/
def decEq (v w : Value) : Decidable (v = w) :=
  match v, w with
  | .null, .null => isTrue rfl
  | .bool a, .bool b => decidable_of_iff (a = b) (by simp)
  | .int a, .int b => decidable_of_iff (a = b) (by simp)
  | .float a, .float b => decidable_of_iff (a = b) (by simp)
  | .text a, .text b => decidable_of_iff (a = b) (by simp)
  | .unpaired a, .unpaired b => decidable_of_iff (a = b) (by simp)
  | .list a, .list b =>
    match decEqItems a b with
    | isTrue h => isTrue (by rw [h])
    | isFalse h => isFalse (fun e => h (Value.list.inj e))
  | .object a, .object b =>
    match decEqFields a b with
    | isTrue h => isTrue (by rw [h])
    | isFalse h => isFalse (fun e => h (Value.object.inj e))
  | .null, .bool _ | .null, .int _ | .null, .float _ | .null, .text _ | .null, .list _
  | .null, .object _ | .bool _, .null | .bool _, .int _ | .bool _, .float _ | .bool _, .text _
  | .bool _, .list _ | .bool _, .object _ | .int _, .null | .int _, .bool _ | .int _, .float _
  | .int _, .text _ | .int _, .list _ | .int _, .object _ | .float _, .null | .float _, .bool _
  | .float _, .int _ | .float _, .text _ | .float _, .list _ | .float _, .object _
  | .text _, .null | .text _, .bool _ | .text _, .int _ | .text _, .float _ | .text _, .list _
  | .text _, .object _ | .list _, .null | .list _, .bool _ | .list _, .int _ | .list _, .float _
  | .list _, .text _ | .list _, .object _ | .object _, .null | .object _, .bool _
  | .object _, .int _ | .object _, .float _ | .object _, .text _ | .object _, .list _
  | .unpaired _, .null | .unpaired _, .bool _ | .unpaired _, .int _ | .unpaired _, .float _
  | .unpaired _, .text _ | .unpaired _, .list _ | .unpaired _, .object _ | .null, .unpaired _
  | .bool _, .unpaired _ | .int _, .unpaired _ | .float _, .unpaired _ | .text _, .unpaired _
  | .list _, .unpaired _ | .object _, .unpaired _ => isFalse nofun

/-- Equality of the items of two lists is decidable. -/
def decEqItems (vs ws : List Value) : Decidable (vs = ws) :=
  match vs, ws with
  | [], [] => isTrue rfl
  | [], _ :: _ => isFalse nofun
  | _ :: _, [] => isFalse nofun
  | v :: vs, w :: ws =>
    match decEq v w, decEqItems vs ws with
    | isTrue h, isTrue k => isTrue (by rw [h, k])
    | isFalse h, _ => isFalse (fun e => h (List.cons.inj e).1)
    | _, isFalse k => isFalse (fun e => k (List.cons.inj e).2)

/-- Equality of the fields of two objects is decidable. -/
def decEqFields (fs gs : List (Name × Value)) : Decidable (fs = gs) :=
  match fs, gs with
  | [], [] => isTrue rfl
  | [], _ :: _ => isFalse nofun
  | _ :: _, [] => isFalse nofun
  | (a, v) :: fs, (b, w) :: gs =>
    match decEq v w, decEqFields fs gs with
    | isTrue h, isTrue k =>
      if e : a = b then isTrue (by rw [e, h, k])
      else isFalse (fun q => e (by injection q with q; injection q))
    | isFalse h, _ => isFalse (fun q => h (by injection q with q; injection q))
    | _, isFalse k => isFalse (fun q => k (List.cons.inj q).2)

end

instance : DecidableEq Value := decEq

instance : Inhabited Value := ⟨.null⟩

/-- A value that counts as not given: null, false, zero, and the empty text, list and object. -/
def isTrivial : Value → Bool
  | .null => true
  | .bool b => !b
  | .int n => n == 0
  | .float x => x.isZero
  | .text s => s.isEmpty
  | .unpaired u => u.codes.isEmpty
  | .list items => items.isEmpty
  | .object fields => fields.isEmpty

/-- A name as a value. -/
def ofName : Name → Value
  | .text s => .text s
  | .unpaired u => .unpaired u

/-- Code points as a value: a text, unless a surrogate stands alone. -/
def ofCodes (codes : List Nat) : Value := ofName (.ofCodes codes)

/-- A value, or another in place of a trivial one. -/
def orElse (v fallback : Value) : Value := if v.isTrivial then fallback else v

end Value

namespace Fields

/-- Sets a field: an existing name keeps its place, a new one goes to the end. -/
def put : Fields → Name → Value → Fields
  | [], name, v => [(name, v)]
  | (key, old) :: rest, name, v =>
    if key = name then (key, v) :: rest else (key, old) :: put rest name v

/-- Fields from pairs in order, a later pair of a name replacing the earlier value. -/
def ofPairs (pairs : List (Name × Value)) : Fields :=
  pairs.foldl (fun fields pair => put fields pair.1 pair.2) []

/-- The value of a field, if there is one. -/
def get? (fields : Fields) (name : String) : Option Value := fields.lookup (.text name)

/-- The value of a field, null if there is none. -/
def get (fields : Fields) (name : String) : Value := (get? fields name).getD .null

/-- The fields whose names are texts. -/
def texts (fields : Fields) : List (String × Value) :=
  fields.filterMap fun (name, v) => name.text?.map (·, v)

end Fields

end SearchAnnotation
