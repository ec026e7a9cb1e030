import SearchAnnotation.Webpage

/-!
# Search results

A provider's answer becomes a list of results ranked by their order in the answer. An address
that agrees with an earlier one is dropped, but its record must still be well formed, and the
ranks count the kept results only.
-/

namespace SearchAnnotation

/-- One webpage of a query's result list with its ranks. -/
structure SearchResult where
  /-- The query and the address, joined. -/
  id : Name
  /-- The position in the provider's answer. -/
  origRank : Int
  /-- The rank given by an annotator. -/
  annotatedRank : Option Int
  /-- The page itself. -/
  webpage : Webpage
deriving DecidableEq, Repr

namespace SearchResult

/-- The id of a query's result at an address, joined by code points. -/
def resultId (qid : Name) (url : Value) : Name :=
  .ofCodes (qid.codes ++ '-'.toNat :: url.displayCodes)

/-- The webpage of a record whose address can be compared with others. -/
def pageOf (record : Value) : Except ShapeFault Webpage := do
  let page ← Webpage.ofRecord record
  if page.url.isKey then .ok page else .error .wrongKind

/-- Whether two addresses count as one: if they agree, or if they are one undefined number. -/
def sameAddress (a b : Value) : Bool := a == b || a.agree b

/-- The results of the remaining records, given the addresses seen and the next rank. -/
def buildFrom (qid : Name) (seen : List Value) (rank : Nat) :
    List Value → Except ShapeFault (List SearchResult)
  | [] => .ok []
  | record :: rest => do
    let page ← pageOf record
    if seen.any (sameAddress page.url) then buildFrom qid seen rank rest
    else
      let later ← buildFrom qid (page.url :: seen) (rank + 1) rest
      return ⟨resultId qid page.url, rank, none, page⟩ :: later

/-- Whether the id of a result is a text. -/
def hasTextId (result : SearchResult) : Bool := result.id.text?.isSome

/-- The id of a result as a text. -/
def key (result : SearchResult) : String := (Value.ofName result.id).displayString

/-- The results of a list of records. -/
def build (qid : Name) (records : List Value) : Except ShapeFault (List SearchResult) :=
  buildFrom qid [] 0 records

/-- The results of an answer of any shape: its elements are the records. -/
def ofAnswer (qid : Name) (answer : Value) : Except ShapeFault (List SearchResult) := do
  let records ← answer.elements
  build qid records

/-- An optional rank as a value. -/
def rankValue (rank : Option Int) : Value := (rank.map Value.int).getD .null

/-- The document that shows a result. -/
def toDocument (result : SearchResult) : Value := .object [
  ("id", .ofName result.id),
  ("origRank", .int result.origRank),
  ("annotatedRank", rankValue result.annotatedRank),
  ("webpage", result.webpage.toDocument)]

/-- Annotated results come first, by annotated rank; the others follow by original rank. -/
def precedes (a b : SearchResult) : Bool :=
  match a.annotatedRank, b.annotatedRank with
  | some x, some y => x ≤ y
  | some _, none => true
  | none, some _ => false
  | none, none => a.origRank ≤ b.origRank

/-- Results in display order; equal ranks keep their order. -/
def ordered (results : List SearchResult) : List SearchResult := results.mergeSort precedes

end SearchResult

end SearchAnnotation
