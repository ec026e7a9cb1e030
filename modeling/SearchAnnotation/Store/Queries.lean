import SearchAnnotation.Store

/-!
# The chain of queries

Queries are looked up by name, and the links of the chain lead to the query imported just before
or after. An import reads the names already known and then commits the new queries in one step;
a commit with a query that cannot be stored is refused as a whole, and so is one that meets a name
stored in between.
-/

namespace SearchAnnotation

/-- A query as posted. -/
structure PostedQuery where
  /-- Its name, if that can be stored. -/
  qid : Option String
  /-- Its text, if that can be stored. -/
  text : Option String
deriving DecidableEq, Repr

namespace Store

/-- The query of a name. -/
def query? (store : Store) (qid : String) : Option Query :=
  store.queries.find? fun q => q.qid == qid

/-- The query before the first one of a name. -/
def before? (qid : String) : List Query → Option Query
  | a :: b :: rest =>
    if a.qid = qid then none else if b.qid = qid then some a else before? qid (b :: rest)
  | _ => none

/-- The query after the first one of a name. -/
def after? (qid : String) : List Query → Option Query
  | a :: rest => if a.qid = qid then rest.head? else after? qid rest
  | [] => none

/-- The query imported just before the one of this name. -/
def previous? (store : Store) (qid : String) : Option Query := before? qid store.queries

/-- The query imported just after the one of this name. -/
def next? (store : Store) (qid : String) : Option Query := after? qid store.queries

/-- The names in use. -/
def knownNames (store : Store) : List String := store.queries.map Query.qid

/-- The new queries of a posted batch, each name once, unless one of them cannot be stored. -/
def newQueries? (known : List String) : List PostedQuery → Option (List Query)
  | [] => some []
  | ⟨none, _⟩ :: _ => none
  | ⟨some qid, text⟩ :: rest =>
    if known.contains qid then newQueries? known rest
    else text.bind fun text => (newQueries? (qid :: known) rest).map (⟨qid, text⟩ :: ·)

/-- Appends new queries in one step and counts them, unless one cannot be stored or has a name in
use. -/
def commitQueries (store : Store) : Option (List Query) → Except StoreFault (Store × Nat)
  | none => .error .unencodable
  | some fresh =>
    match fresh.find? fun q => store.knownNames.contains q.qid with
    | some q => .error (.duplicate q.qid)
    | none => .ok ({ store with queries := store.queries ++ fresh }, fresh.length)

/-- Imports a batch, and counts the queries that were new. -/
def addQueries (store : Store) (batch : List PostedQuery) : Except StoreFault (Store × Nat) :=
  store.commitQueries (newQueries? store.knownNames batch)

end Store

end SearchAnnotation
