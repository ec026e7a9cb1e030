import SearchAnnotation.Store

/-!
# Experiments

An experiment gets the number after the largest in use, so the numbers start again at one after
all experiments are dropped. A trivial outcome is stored as an empty object.
-/

namespace SearchAnnotation

/-- The document that shows an experiment. Of the time of its creation it only says that there is
one. -/
def Experiment.toDocument (e : Experiment) : Value := .object [
  ("id", .int e.id),
  ("query", .text e.query),
  ("variant_a", .text e.variantA),
  ("variant_b", .text e.variantB),
  ("data", e.data),
  ("created_at", .bool true)]

namespace Store

/-- The number of the next experiment. -/
def nextExperiment (store : Store) : Nat :=
  store.experiments.foldl (fun n e => max n e.id) 0 + 1

/-- Stores an experiment, and answers it with its number. -/
def saveExperiment (store : Store) (query variantA variantB : String) (data : Value) :
    Store × Experiment :=
  let e : Experiment := ⟨store.nextExperiment, query, variantA, variantB, data.orElse (.object [])⟩
  ({ store with experiments := store.experiments ++ [e] }, e)

/-- Drops all experiments. -/
def clearExperiments (store : Store) : Store := { store with experiments := [] }

end Store

end SearchAnnotation
