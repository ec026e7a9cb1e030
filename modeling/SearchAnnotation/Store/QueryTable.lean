import SearchAnnotation.Store.Queries

/-!
# The table of queries

The chain of queries is kept in a table. Each query has a row with a number, and a new row gets
the number after the largest in use. The chain lists the rows by number. The link back leads to the
row with the largest number below that of the query, and the link onwards to the row with the
smallest number above it.
-/

namespace SearchAnnotation

/-- A query and the number of its row. -/
structure QueryRow where
  /-- The number. -/
  number : Nat
  /-- The query. -/
  query : Query
deriving DecidableEq, Repr

/-- The rows of all stored queries. -/
structure QueryTable where
  /-- The rows. -/
  rows : List QueryRow
deriving DecidableEq, Repr

namespace QueryTable

/-- The table before the first import. -/
def empty : QueryTable := ⟨[]⟩

/-- The names in use. -/
def names (table : QueryTable) : List String := table.rows.map fun row => row.query.qid

/-- The number of the next row. -/
def nextNumber (table : QueryTable) : Nat :=
  table.rows.foldl (fun n row => max n row.number) 0 + 1

/-- Adds a row for a query. -/
def insert (table : QueryTable) (query : Query) : QueryTable :=
  ⟨table.rows ++ [⟨table.nextNumber, query⟩]⟩

/-- Imports a batch, and counts the queries that were new, unless one of them cannot be stored. -/
def addQueries (table : QueryTable) (batch : List PostedQuery) :
    Except StoreFault (QueryTable × Nat) :=
  match Store.newQueries? table.names batch with
  | none => .error .unencodable
  | some fresh => .ok (fresh.foldl insert table, fresh.length)

/-- The row of the query of a name. -/
def row? (table : QueryTable) (qid : String) : Option QueryRow :=
  table.rows.find? fun row => row.query.qid == qid

/-- The queries by the numbers of their rows. -/
def listed (table : QueryTable) : List Query :=
  (table.rows.mergeSort fun a b => a.number ≤ b.number).map QueryRow.query

/-- The rows with numbers below another one, the largest number first. -/
def below (table : QueryTable) (number : Nat) : List QueryRow :=
  (table.rows.filter fun row => row.number < number).mergeSort fun a b => b.number ≤ a.number

/-- The rows with numbers above another one, the smallest number first. -/
def above (table : QueryTable) (number : Nat) : List QueryRow :=
  (table.rows.filter fun row => number < row.number).mergeSort fun a b => a.number ≤ b.number

/-- The query of the row before that of a name. -/
def previous? (table : QueryTable) (qid : String) : Option Query :=
  (table.row? qid).bind fun row => (table.below row.number).head?.map QueryRow.query

/-- The query of the row after that of a name. -/
def next? (table : QueryTable) (qid : String) : Option Query :=
  (table.row? qid).bind fun row => (table.above row.number).head?.map QueryRow.query

end QueryTable

end SearchAnnotation
