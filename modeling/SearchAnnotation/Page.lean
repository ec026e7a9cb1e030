import SearchAnnotation.Store

/-!
# Annotation pages

A page shows a query, its results in display order and the links to its neighbours in the chain.
-/

namespace SearchAnnotation

/-- What an annotator sees of one query. -/
structure Page where
  /-- The query. -/
  query : Query
  /-- Its results in display order. -/
  results : List SearchResult
  /-- The query before it. -/
  previous : Option Query
  /-- The query after it. -/
  next : Option Query
deriving DecidableEq, Repr

/-- What looking for something by a query's name gives. -/
inductive Lookup (α : Type) where
  /-- It is there. -/
  | found (value : α)
  /-- No query has the name. -/
  | notFound (qid : String)
deriving DecidableEq, Repr

/-- The document of an optional query. -/
def Query.linkDocument (q : Option Query) : Value := (q.map Query.toDocument).getD .null

/-- The document that shows a page. -/
def Page.toDocument (page : Page) : Value := .object [
  ("query", page.query.toDocument),
  ("searchResults", .list (page.results.map SearchResult.toDocument)),
  ("previousQuery", Query.linkDocument page.previous),
  ("nextQuery", Query.linkDocument page.next)]

end SearchAnnotation
