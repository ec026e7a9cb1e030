import SearchAnnotation.Value.Elements
import SearchAnnotation.Value.Text

/-!
# Flat snippets

A snippet is a text, or an object whose field holds a text or a further object with fragments.
A flat snippet joins the fragments in order: an object contributes its own text and anything
else its display text. Fragments are joined by code points, so that a surrogate that stands alone
in one of them stands in the whole. Snippets of other shapes flatten to nothing.
-/

namespace SearchAnnotation.Snippet

/-- The code points of a text, with or without surrogates that stand alone. -/
def textCodes? : Value → Option (List Nat)
  | .text s => some (s.toList.map Char.toNat)
  | .unpaired u => some u.codes
  | _ => none

/-- The code points that one fragment contributes. -/
def fragmentCodes : Value → Except ShapeFault (List Nat)
  | .object fields =>
    match Fields.get? fields "text" with
    | none => .ok []
    | some v =>
      match textCodes? v with
      | some codes => .ok codes
      | none => .error .wrongKind
  | v => .ok ((textCodes? v).getD (v.display.map Char.toNat))

/-- The code points of all fragments joined; the first fragment without a text is a fault. -/
def joinFragments : List Value → Except ShapeFault (List Nat)
  | [] => .ok []
  | v :: rest => do
    let head ← fragmentCodes v
    let tail ← joinFragments rest
    return head ++ tail

/-- The fragments of a structured snippet. A trivial value stands for none. -/
def fragments (v : Value) : Except ShapeFault (List Value) :=
  if v.isTrivial then .ok [] else v.elements

/-- The flat form of a snippet, null for nothing. -/
def flatten : Value → Except ShapeFault Value
  | .text s => .ok (.text s)
  | .unpaired u => .ok (.unpaired u)
  | .object fields =>
    match Fields.get? fields "text" with
    | some (.text s) => .ok (.text s)
    | some (.unpaired u) => .ok (.unpaired u)
    | some (.object inner) => do
      let parts ← fragments (Fields.get inner "fragments")
      let joined ← joinFragments parts
      return Value.ofCodes joined
    | _ => .ok .null
  | _ => .ok .null

end SearchAnnotation.Snippet
