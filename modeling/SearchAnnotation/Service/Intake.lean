import SearchAnnotation.Store.Queries

/-!
# Imports side by side

Imports of batches run side by side. Each reads the names in use in one step and commits the queries
that are new by these names in a later one, and any order of the steps of all imports is possible. A
commit that meets a name stored in between is refused as a whole, and so is one with a query that
cannot be stored. Imports that go through are recorded in the order of their commits.
-/

namespace SearchAnnotation.Service

/-- Imports batches one after the other, and counts the new queries of each. -/
def importInTurn (store : Store) :
    List (List PostedQuery) → Except StoreFault (Store × List Nat)
  | [] => .ok (store, [])
  | batch :: rest => do
    let (store, count) ← store.addQueries batch
    let (store, counts) ← importInTurn store rest
    return (store, count :: counts)

/-- Where an import is. -/
inductive Importing where
  /-- The names in use are read next. -/
  | arrived
  /-- The names were read, and the new queries are committed next, if all can be stored. -/
  | read (fresh : Option (List Query))
  /-- The import went through and counted its new queries. -/
  | committed (count : Nat)
  /-- The import was refused. -/
  | refused

/-- One import among others. -/
@[ext]
structure Importer where
  /-- The posted queries. -/
  batch : List PostedQuery
  /-- Where the import is. -/
  stage : Importing

/-- An import that went through. -/
structure Acceptance where
  /-- The place of the import among all imports. -/
  index : Nat
  /-- Its queries. -/
  batch : List PostedQuery
  /-- How many of them were new. -/
  count : Nat

/-- The store that imports share, where each of them is, and which went through so far. -/
structure Intake where
  /-- The store. -/
  store : Store
  /-- The imports. -/
  importers : List Importer
  /-- The imports that went through, in the order of their commits. -/
  accepted : List Acceptance

namespace Intake

/-- Imports that have just arrived. -/
def opened (store : Store) (batches : List (List PostedQuery)) : Intake :=
  ⟨store, batches.map fun batch => ⟨batch, .arrived⟩, []⟩

/-- An intake with one import moved on. -/
def moved (intake : Intake) (index : Nat) (importer : Importer) (stage : Importing) : Intake :=
  { intake with importers := intake.importers.set index { importer with stage } }

/-- An intake with one import gone through, which leaves this store. -/
def passed (intake : Intake) (index : Nat) (importer : Importer) (store : Store) (count : Nat) :
    Intake :=
  { intake.moved index importer (.committed count) with
    store, accepted := intake.accepted ++ [⟨index, importer.batch, count⟩] }

/-- An intake after the next step of one import. -/
def step (intake : Intake) (index : Nat) : Intake :=
  match intake.importers[index]? with
  | none => intake
  | some importer =>
    match importer.stage with
    | .arrived =>
      intake.moved index importer
        (.read (Store.newQueries? intake.store.knownNames importer.batch))
    | .read fresh =>
      match intake.store.commitQueries fresh with
      | .error _ => intake.moved index importer .refused
      | .ok (store, count) => intake.passed index importer store count
    | _ => intake

/-- An intake after steps of its imports in some order. -/
def run (intake : Intake) (indices : List Nat) : Intake := indices.foldl step intake

end Intake

end SearchAnnotation.Service
