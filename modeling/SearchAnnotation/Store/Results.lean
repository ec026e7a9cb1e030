import SearchAnnotation.Json.Printer
import SearchAnnotation.Store

/-!
# Cached results

Rows are keyed by their id alone, and a query's results are the rows that carry its name. A row
holds the JSON text of a webpage. Saving writes row by row: an id already stored is taken over, with
every other field replaced and its place kept, but a text that spells a document like the new one
is left as it is written. Ranks are posted in two steps, the reading of the query's rows and the
commit of those whose rank differs from the one read. Every write is all or nothing.
-/

namespace SearchAnnotation

namespace ResultRow

/-- A row of its own for a result under a query. -/
def ofResult (qid : String) (result : SearchResult) : ResultRow :=
  ⟨result.key, qid, result.origRank, result.annotatedRank,
    Json.render result.webpage.toDocument⟩

/-- The document that the text of a row spells, however deeply it is nested. -/
def value (row : ResultRow) : Except ShapeFault Value :=
  (Json.read row.document.length row.document).mapError fun _ => .unreadable

/-- The result that a row stores. -/
def toResult (row : ResultRow) : Except ShapeFault SearchResult := do
  let document ← row.value
  let webpage ← Webpage.ofDocument document
  return ⟨row.id, row.origRank, row.annotatedRank, webpage⟩

/-- Whether a row spells a document that a given one is like. -/
def holds (row : ResultRow) (document : Value) : Bool :=
  match row.value with
  | .ok held => document.alike held
  | .error _ => false

end ResultRow

namespace SearchResult

/-- Whether both ranks of a result can be stored. -/
def ranksFit (result : SearchResult) : Bool :=
  Store.fits result.origRank && Store.rankFits result.annotatedRank

/-- Why a result cannot be stored, if it cannot: its row is looked for by its id, then its document
is written, and its ranks come last. -/
def refusal? (result : SearchResult) : Option StoreFault :=
  if !result.hasTextId then some .unencodable
  else if !Json.isWritable result.webpage.toDocument then some .unwritable
  else if !result.ranksFit then some .outOfRange
  else none

end SearchResult

namespace Store

/-- The rows of a query in stored order. -/
def rowsOf (store : Store) (qid : String) : List ResultRow :=
  store.results.filter fun row => row.qid == qid

/-- The cached results of a query by original rank; equal ranks keep the stored order. -/
def resultsOf (store : Store) (qid : String) : Except ShapeFault (List SearchResult) :=
  ((store.rowsOf qid).mergeSort fun a b => a.origRank ≤ b.origRank).mapM ResultRow.toResult

/-- Puts a row in the place of the one with its id, or at the end. -/
def upsert (row : ResultRow) : List ResultRow → List ResultRow
  | [] => [row]
  | old :: rest => if old.id = row.id then row :: rest else old :: upsert row rest

/-- The first row with an id. -/
def first? (rows : List ResultRow) (id : String) : Option ResultRow :=
  rows.find? fun row => row.id == id

/-- The row in which a result is stored among others. The text of the row with its id stays if it
spells a document that the result's is like. -/
def rowFor (rows : List ResultRow) (qid : String) (result : SearchResult) : ResultRow :=
  let row := ResultRow.ofResult qid result
  match first? rows row.id with
  | some old =>
    if old.holds result.webpage.toDocument then { row with document := old.document } else row
  | none => row

/-- Writes results one after the other. -/
def writeAll (rows : List ResultRow) (qid : String) (results : List SearchResult) :
    List ResultRow :=
  results.foldl (fun rows result => upsert (rowFor rows qid result) rows) rows

/-- Saves results under a query, all of them or none. -/
def saveResults (store : Store) (qid : String) (results : List SearchResult) :
    Except StoreFault Store :=
  match results.findSome? SearchResult.refusal? with
  | some why => .error why
  | none => .ok { store with results := writeAll store.results qid results }

/-- Ranks by result id; null takes a rank back. -/
abbrev Ranks := List (String × Option Int)

/-- The query's rows that ranks name, each with its new rank. -/
def ranked (store : Store) (qid : String) (ranks : Ranks) : List (ResultRow × Option Int) :=
  (store.rowsOf qid).filterMap fun row => (ranks.lookup row.id).map ((row, ·))

/-- The new ranks that differ from the ones read, by id. -/
def rankChanges (store : Store) (qid : String) (ranks : Ranks) : Ranks :=
  (store.ranked qid ranks).filterMap fun (row, rank) =>
    if rank = row.annotatedRank then none else some (row.id, rank)

/-- A row with its rank from the changes, if they name it. -/
def rerank (changes : Ranks) (row : ResultRow) : ResultRow :=
  match changes.lookup row.id with
  | some rank => { row with annotatedRank := rank }
  | none => row

/-- Writes changed ranks in one step. -/
def commitRanks (store : Store) (changes : Ranks) : Store :=
  { store with results := store.results.map (rerank changes) }

/-- Posts ranks for a query, and counts the rows that they name. -/
def saveAnnotations (store : Store) (qid : String) (ranks : Ranks) :
    Except StoreFault (Store × Nat) :=
  let named := store.ranked qid ranks
  if named.all fun entry => rankFits entry.2 then
    .ok (store.commitRanks (store.rankChanges qid ranks), named.length)
  else .error .outOfRange

end Store

end SearchAnnotation
