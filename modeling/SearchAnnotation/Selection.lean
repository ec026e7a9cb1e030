import SearchAnnotation.Value.Equality
import SearchAnnotation.Value.Text

/-!
# Selections

A selection holds one value out of a list of options. Choosing another option changes the value
first and then notifies a listener, which may return, fail or choose again from inside. The
options may be edited at any time, so the value need not be among them later. Values are compared
by agreement, and of several options that agree the first counts.
-/

namespace SearchAnnotation

/-- A value that can be chosen. -/
structure Choice where
  /-- The value. -/
  value : Value
  /-- How the value is shown. -/
  label : String
deriving DecidableEq, Repr

/-- A list of options with a current value. -/
structure Selection where
  /-- The options. -/
  options : List Choice
  /-- The current value; null if nothing was chosen. -/
  value : Value
  /-- What is shown while no option is selected. -/
  placeholder : String
  /-- The values that the listener was given, in order. -/
  fired : List Value
deriving DecidableEq, Repr

namespace Selection

/-- Why a selection refuses. -/
inductive Fault where
  /-- The initial value is no option. -/
  | initial (value : Value)
  /-- A value is no option. -/
  | notOption (value : Value)
  /-- The listener failed. -/
  | listener (explanation : String)
deriving DecidableEq, Repr

/-- The explanation of a fault. -/
def Fault.message : Fault → String
  | initial value => "Initial value " ++ value.literalString ++ " is not one of the options"
  | notOption value => value.literalString ++ " is not one of the options"
  | listener explanation => explanation

/-- Whether a value is among the options. -/
def offers (s : Selection) (v : Value) : Bool := s.options.any fun option => v.agree option.value

/-- A selection with an initial value, which must be an option unless it is null. -/
def make (options : List Choice) (value : Value) (placeholder : String) :
    Except Fault Selection :=
  let s : Selection := ⟨options, value, placeholder, []⟩
  if value = .null || s.offers value then .ok s else .error (.initial value)

/-- The values of the options. -/
def values (s : Selection) : List Value := s.options.map Choice.value

/-- The first option that agrees with the value. -/
def selected (s : Selection) : Option Choice :=
  s.options.find? fun option => option.value.agree s.value

/-- The label of the selected option, or the placeholder. -/
def label (s : Selection) : String := (s.selected.map Choice.label).getD s.placeholder

/-- What a listener does once it is notified. -/
inductive Reaction where
  /-- It returns. -/
  | done
  /-- It fails. -/
  | fail (why : Fault)
  /-- It chooses a value and goes on with the outcome. -/
  | choose (value : Value) (andThen : Except Fault Bool → Reaction)

/-- A listener reacts to everything that it was ever given, the newest value last. -/
abbrev Listener := List Value → Reaction

/-- A listener that does nothing more. -/
def Listener.quiet : Listener := fun _ => .done

/-- A listener that always fails. -/
def Listener.failing (explanation : String) : Listener := fun _ => .fail (.listener explanation)

/-- The value that a table names for another, by its first entry that agrees. -/
def following? (table : List (Value × Value)) (v : Value) : Option Value :=
  (table.find? fun entry => entry.1.agree v).map Prod.snd

/-- A listener that chooses what a table names for the newest value. -/
def Listener.chained (table : List (Value × Value)) : Listener := fun given =>
  match given.getLast?.bind (following? table) with
  | none => .done
  | some v => .choose v fun
    | .ok _ => .done
    | .error why => .fail why

/-- How a choice ended: whether it changed the value, and the selection afterwards. Nothing if it
does not end within the given depth. -/
abbrev Outcome := Option (Except Fault Bool × Selection)

/-- Carries out a reaction, given how values are chosen from inside. -/
def react (choose : Selection → Value → Outcome) : Reaction → Selection → Outcome
  | .done, s => some (.ok true, s)
  | .fail why, s => some (.error why, s)
  | .choose v andThen, s =>
    match choose s v with
    | none => none
    | some (outcome, s) => react choose (andThen outcome) s

/-- Chooses a value, with choices nested at most as deep as given. -/
def choose (listener : Option Listener) : Nat → Selection → Value → Outcome
  | 0, _, _ => none
  | depth + 1, s, v =>
    if !s.offers v then some (.error (.notOption v), s)
    else if v.agree s.value then some (.ok false, s)
    else
      match listener with
      | none => some (.ok true, { s with value := v })
      | some listener =>
        let fired := s.fired ++ [v]
        react (choose (some listener) depth) (listener fired) { s with value := v, fired }

/-- Choices that follow a table end at this depth or never. -/
def chainDepth (table : List (Value × Value)) : Nat := table.length + 2

/-- Adds an option at the end. -/
def append (s : Selection) (option : Choice) : Selection :=
  { s with options := s.options ++ [option] }

/-- A position from the front, or from the end if it is negative. -/
def position (size : Nat) (index : Int) : Int := if index < 0 then index + size else index

/-- Adds an option before a position; positions beyond an end mean that end. -/
def insert (s : Selection) (index : Int) (option : Choice) : Selection :=
  let i := (position s.options.length index).toNat
  { s with options := s.options.take i ++ option :: s.options.drop i }

/-- Takes the option at a position away, if there is one. -/
def remove (s : Selection) (index : Int) : Option Selection :=
  let i := position s.options.length index
  if 0 ≤ i && i < s.options.length then some { s with options := s.options.eraseIdx i.toNat }
  else none

/-- Takes all options away. -/
def clear (s : Selection) : Selection := { s with options := [] }

/-- Sets the value without asking whether it is an option, and without a notice. -/
def setValue (s : Selection) (value : Value) : Selection := { s with value }

/-- Sets what is shown while no option is selected. -/
def setPlaceholder (s : Selection) (placeholder : String) : Selection := { s with placeholder }

end Selection

end SearchAnnotation
