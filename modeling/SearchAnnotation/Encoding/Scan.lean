import SearchAnnotation.Encoding.Utf8

/-!
# Decoding step by step

A decoder looks at the octets at the front and says what they are: characters, something invalid,
or the start of something that was cut off. What is invalid and what was cut off is marked once
each. A decoder may keep state from one step to the next. Where escapes can stand for surrogates,
code points take the place of characters.
-/

namespace SearchAnnotation.Encoding

/-- What the octets at the front turn out to be. -/
inductive Found (α σ : Type) where
  /-- Characters, in so many octets, and the state after them. -/
  | chars (cs : List α) (octets : Nat) (state : σ)
  /-- So many octets that stand for nothing. -/
  | invalid (octets : Nat)
  /-- The start of something longer. -/
  | cutOff

/-- The characters of octets, step by step, with a mark for each malformed part, and how many
octets were cut off at the end. -/
def scan {α σ : Type} (step : σ → List UInt8 → Found α σ) (state : σ) :
    List UInt8 → List (Option α) × Nat
  | [] => ([], 0)
  | b :: rest =>
    match step state (b :: rest) with
    | .chars cs octets state =>
      let (later, left) := scan step state (rest.drop (octets - 1))
      (cs.map some ++ later, left)
    | .invalid octets =>
      let (later, left) := scan step state (rest.drop (octets - 1))
      (none :: later, left)
    | .cutOff => ([none], rest.length + 1)
termination_by octets => octets.length
decreasing_by all_goals simp only [List.length_drop, List.length_cons]; omega

end SearchAnnotation.Encoding
