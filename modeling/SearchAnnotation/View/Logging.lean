import SearchAnnotation.Log
import SearchAnnotation.Provider.SearchApi
import SearchAnnotation.View

/-!
# What views log

A view of a query that nobody knows is logged. If a search is made, its beginning and its end are
logged, then each webpage that is dropped since its address was met before, and last how many
results were stored. A dropped webpage is named by its address as it is; everything else that comes
from the provider is logged as a number or as an extra attribute.
-/

namespace SearchAnnotation

/-- A record of the logger of searches. -/
def SearchApi.note (message : Name) : LogRecord :=
  ⟨"rankingtools.websearch.StractWebSearch", "INFO", message, []⟩

namespace View

/-- A whole number in a message. -/
def number (n : Int) : String := (Value.int n).displayString

/-- A record of the logger of views. -/
def note (level : String) (message : Name) : LogRecord :=
  ⟨"rankingtools.annotation.ResultLoader", level, message, []⟩

/-- The record about a webpage that is dropped. -/
def duplicateRecord (qid : Name) (url : Value) : LogRecord :=
  note "DEBUG" (.ofCodes (("Dropping duplicate result " : Name).codes ++ url.displayCodes ++
    (" for query '" : Name).codes ++ qid.codes ++ ("'" : Name).codes))

/-- The records about webpages that are dropped, given the addresses seen. Nothing is logged once a
record cannot become a result. -/
def dropped (qid : Name) (seen : List Value) : List Value → List LogRecord
  | [] => []
  | record :: rest =>
    match SearchResult.pageOf record with
    | .error _ => []
    | .ok page =>
      if seen.any (SearchResult.sameAddress page.url) then
        duplicateRecord qid page.url :: dropped qid seen rest
      else dropped qid (page.url :: seen) rest

/-- What is logged about the webpages that were found for a query. -/
def foundLogs (query : Query) (elapsed : Int) (store : Store) (records : List Value) :
    List LogRecord :=
  SearchApi.note ("Stract search completed: " ++ number records.length ++ " results in " ++
      number elapsed ++ "ms" : String) :: dropped query.qid [] records ++
    match SearchResult.build query.qid records with
    | .error _ => []
    | .ok results =>
      match save store query.qid results with
      | .error _ => []
      | .ok _ =>
        [note "INFO" ("Cached " ++ number results.length ++ " search results for query '" ++
          query.qid ++ "'" : String)]

/-- What is logged by a view of a query over a transport whose search takes so many
milliseconds. -/
def logs {σ : Type} (api : SearchApi) (transport : Exchange.Transport σ) (elapsed : Int)
    (qid : String) (store : Store) (session : Exchange.Session σ) : List LogRecord :=
  match store.query? qid with
  | none => [note "INFO" ("Unknown query id '" ++ qid ++ "'" : String)]
  | some query =>
    match cached store query.qid with
    | .ok [] =>
      let report := (api.search transport query.text session).1
      SearchApi.note ("Performing Stract API search for: '" ++ query.text ++ "'" : String) ::
        report.logs ++
        match report.result with
        | .ok (.list records) => foundLogs query elapsed store records
        | _ => []
    | _ => []

end View

end SearchAnnotation
