import SearchAnnotation.Result

/-!
# The store

The store holds the chain of queries, the cached results of all queries and the ranking
experiments. Queries keep the order of their import, results the order in which their ids were
first stored, and experiments the order of their ids. The webpage of a result is stored as the JSON
text of its document and read back from it, so reading can in principle fail.
-/

namespace SearchAnnotation

/-- A search query that is up for annotation. -/
structure Query where
  /-- The name of the query. -/
  qid : String
  /-- The text to search for. -/
  text : String
deriving DecidableEq, Repr

/-- A cached result as stored. -/
structure ResultRow where
  /-- The id, unique in the store. -/
  id : String
  /-- The query that owns the row. -/
  qid : String
  /-- The original rank. -/
  origRank : Int
  /-- The annotated rank. -/
  annotatedRank : Option Int
  /-- The JSON text of the webpage's document. -/
  document : List Char
deriving DecidableEq, Repr

/-- A stored comparison of two rankings. -/
structure Experiment where
  /-- The number of the experiment. -/
  id : Nat
  /-- The query that was tried. -/
  query : String
  /-- The first variant. -/
  variantA : String
  /-- The second variant. -/
  variantB : String
  /-- The outcome. -/
  data : Value
deriving DecidableEq, Repr

/-- Everything that is kept between requests. -/
structure Store where
  /-- The chain of queries. -/
  queries : List Query
  /-- All cached results. -/
  results : List ResultRow
  /-- All experiments. -/
  experiments : List Experiment
deriving DecidableEq, Repr

/-- Why the store refuses a write. -/
inductive StoreFault where
  /-- A rank does not fit into sixty-four bits. -/
  | outOfRange
  /-- A query of this name was stored in the meantime. -/
  | duplicate (qid : String)
  /-- A result of this id was stored in the meantime. -/
  | taken (id : String)
  /-- The result of this id is no longer stored. -/
  | vanished (id : String)
  /-- The id is no text, for a surrogate stands alone in it. -/
  | unencodable
  /-- The document has no JSON text, for it holds a number that is too long. -/
  | unwritable
deriving DecidableEq, Repr

/-- The document that shows a query. -/
def Query.toDocument (q : Query) : Value :=
  .object [("qid", .text q.qid), ("query", .text q.text)]

namespace Store

/-- The store before the first import. -/
def empty : Store := ⟨[], [], []⟩

/-- Whether a whole number fits into sixty-four bits with a sign. -/
def fits (n : Int) : Bool := -9223372036854775808 ≤ n && n ≤ 9223372036854775807

/-- Whether a rank can be stored. -/
def rankFits (rank : Option Int) : Bool := rank.all fits

end Store

end SearchAnnotation
