/-!
# Scripts and rehearsals

A script holds what is still to come, one entry at a time, and its last entry repeats. A
rehearsal has a script for every query text and counts how often each text was searched for, so
that a service can be tried without a network.
-/

namespace SearchAnnotation

/-- What is still to come. -/
abbrev Script (α : Type) := List α

/-- Takes the next entry. -/
def Script.next {α : Type} : Script α → Option α × Script α
  | [] => (none, [])
  | [entry] => (some entry, [entry])
  | entry :: rest => (some entry, rest)

/-- Scripts by query text, and the searches so far. -/
structure Rehearsal (α : Type) where
  /-- The scripts. -/
  scripts : List (String × Script α)
  /-- How often each text was searched for, in the order of the first searches. -/
  calls : List (String × Nat)

namespace Rehearsal

/-- The script of a query text, if it has one. -/
def script? {α : Type} (rehearsal : Rehearsal α) (text : String) : Option (Script α) :=
  rehearsal.scripts.lookup text

/-- Counts one more search for a text. -/
def count (text : String) : List (String × Nat) → List (String × Nat)
  | [] => [(text, 1)]
  | (other, n) :: rest =>
    if other = text then (other, n + 1) :: rest else (other, n) :: count text rest

/-- A rehearsal after a search for a text, which left a script. -/
def searched {α : Type} (rehearsal : Rehearsal α) (text : String) (script : Script α) :
    Rehearsal α where
  scripts := (text, script) :: rehearsal.scripts.filter fun entry => entry.1 != text
  calls := count text rehearsal.calls

end Rehearsal

end SearchAnnotation
