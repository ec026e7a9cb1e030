import SearchAnnotation.Provider
import SearchAnnotation.Settings

/-!
# The search API

A search posts the text of the query to the API's address, together with the number of webpages
and whether signals are wanted. The answer must be an object with a list of webpages, which is
handed on unchanged. An answer without such a list is logged once.
-/

namespace SearchAnnotation

open Exchange (Call CallFault Client Report Session Transport)

/-- A search API and how it is asked. -/
structure SearchApi where
  /-- The address. -/
  url : String
  /-- How many webpages are asked for. -/
  numResults : Int
  /-- Whether signals are asked for. -/
  returnRankingSignals : Bool
  /-- The client that makes the calls. -/
  client : Client

namespace SearchApi

/-- The headers of the API's own client. -/
def clientHeaders : Exchange.Headers := [("Content-Type", "application/json")]

/-- The headers of every search. -/
def searchHeaders : Exchange.Headers :=
  [("Content-Type", "application/json"), ("accept", "application/json")]

/-- The search API of the settings, except for what is given. An empty address counts as not
given. -/
def ofSettings (settings : Settings) (url : Option String) (numResults : Option Int)
    (returnRankingSignals : Option Bool) : Except CallFault SearchApi := do
  let client ← Client.make "" clientHeaders (.float settings.searchTimeoutSeconds)
    Json.usualNesting
  return {
    url := (url.filter fun s => !s.isEmpty).getD settings.searchApiUrl
    numResults := numResults.getD settings.searchNumResults
    returnRankingSignals := returnRankingSignals.getD settings.searchReturnRankingSignals
    client }

/-- What is posted for a query. -/
def payload (api : SearchApi) (query : String) : Value := .object [
  ("query", .text query),
  ("numResults", .int api.numResults),
  ("returnRankingSignals", .bool api.returnRankingSignals)]

/-- The call that a search makes. -/
def call (api : SearchApi) (query : String) : Call where
  method := .post
  url := api.url
  params := none
  body := some (api.payload query)
  headers := searchHeaders
  wantsJson := true

/-- The word for the kind of an answer in the log. -/
def kindWord : Value → String
  | .null => "NoneType"
  | .bool _ => "bool"
  | .int _ => "int"
  | .float _ => "float"
  | .text _ => "str"
  | .unpaired _ => "str"
  | .list _ => "list"
  | .object _ => "dict"

/-- The list of webpages in an answer. -/
def webpages? : Value → Option (List Value)
  | .object fields =>
    match Fields.get? fields "webpages" with
    | some (.list items) => some items
    | _ => none
  | _ => none

/-- The record about an answer without webpages. -/
def missingRecord (query : String) (answer : Value) : LogRecord :=
  ⟨"rankingtools.websearch.StractWebSearch", "ERROR",
    "Stract API response is missing 'webpages'",
    [("query", .text query), ("response_type", .text (kindWord answer))]⟩

/-- Searches over a transport. -/
def search {σ : Type} (api : SearchApi) (transport : Transport σ) (query : String)
    (session : Session σ) : Report SearchFault × Session σ :=
  let (report, session) := api.client.send transport (api.call query) session
  match report.result with
  | .error why => (⟨.error (.call why), report.requests, report.logs⟩, session)
  | .ok answer =>
    match webpages? answer with
    | some items => (⟨.ok (.list items), report.requests, report.logs⟩, session)
    | none =>
      (⟨.error (.noWebpages query), report.requests,
        report.logs ++ [missingRecord query answer]⟩, session)

/-- The provider that searches over a transport. -/
def provider {σ : Type} (api : SearchApi) (transport : Transport σ) : Provider (Session σ) where
  search query session :=
    let (report, session) := api.search transport query session
    (report.result, session)

end SearchApi

/-- The explanation of a search fault, where it has one. -/
def SearchFault.message : SearchFault → String
  | call why => why.message
  | noWebpages query => "Stract API response for query '" ++ query ++ "' has no 'webpages' list"
  | failed explanation => explanation
  | shape (.missing name) => (Value.text name).literalString
  | shape _ => "The answer has another shape"

end SearchAnnotation
