import SearchAnnotation.Service.Body
import SearchAnnotation.Service.Origin
import SearchAnnotation.Service.Route
import SearchAnnotation.Store.Experiments
import SearchAnnotation.View

/-!
# The service

A request is led to its action, and the action answers it from the store and, for a page whose
results are not cached, from the provider. The body is read before anything is looked up. Whatever
fails inside is answered as a failure of the service, and a request that fails changes nothing,
except that the results of a page are stored before the page is written.
-/

namespace SearchAnnotation.Service

/-- Whether a field is never shown, which depends on how its name begins. -/
def isHidden (name : Name) : Bool := ("_sa".toList.map Char.toNat).isPrefixOf name.codes

mutual

/-- A value without the fields that are never shown, at whatever depth they are. -/
def visible : Value → Value
  | .list items => .list (visibleItems items)
  | .object fields => .object (visibleFields fields)
  | v => v

/-- The items of a list without hidden fields. -/
def visibleItems : List Value → List Value
  | [] => []
  | v :: rest => visible v :: visibleItems rest

/-- The fields of an object that are shown. -/
def visibleFields : List (Name × Value) → List (Name × Value)
  | [] => []
  | (name, v) :: rest =>
    if isHidden name then visibleFields rest else (name, visible v) :: visibleFields rest

end

/-- An answer with what is visible of a value, which the strict format must be able to write. -/
def strictJson (v : Value) : Answer :=
  if Json.isStrict (visible v) then .json 200 (visible v) else .failure

mutual

/-- A value with null in place of every number that is not finite. -/
def finite : Value → Value
  | .float x => if x.isFinite then .float x else .null
  | .list items => .list (finiteItems items)
  | .object fields => .object (finiteFields fields)
  | v => v

/-- The items of a list with finite numbers only. -/
def finiteItems : List Value → List Value
  | [] => []
  | v :: rest => finite v :: finiteItems rest

/-- The fields of an object with finite numbers only. -/
def finiteFields : List (Name × Value) → List (Name × Value)
  | [] => []
  | (name, v) :: rest => (name, finite v) :: finiteFields rest

end

/-- The answer to a body that does not fit. It would show what is visible of every value that does
not fit, so the service fails on those that the strict format cannot write. -/
def unfit (complaints : List Reading.Complaint) : Answer :=
  if complaints.all fun complaint => Json.isStrict (visible complaint.found) then
    .json 422 (Reading.Complaint.listDocument complaints)
  else .failure

/-- The answer to a body that cannot be read. -/
def unreadable : Answer := .detail 400 "There was an error parsing the body"

/-- Shows the page of a query. An unknown query leads back to the start. -/
def showPage {σ : Type} (provider : Provider σ) (slug : String) (store : Store) (state : σ) :
    Answer × Store × σ :=
  match View.load provider slug store state with
  | (.error _, store, state) => (.failure, store, state)
  | (.ok (.notFound _), store, state) => (.redirect 301 "/", store, state)
  | (.ok (.found page), store, state) => (strictJson page.toDocument, store, state)

/-- Stores the ranks of a body for a query. -/
def postRanks (request : Request) (slug : String) (store : Store) : Answer × Store :=
  match readBody request ranksOf with
  | .unfit complaints => (unfit complaints, store)
  | .unreadable => (unreadable, store)
  | .done ranks =>
    match store.query? slug with
    | none => (.detail 404 ("Unknown query '" ++ slug ++ "'"), store)
    | some _ =>
      match store.saveAnnotations slug ranks with
      | .error _ => (.failure, store)
      | .ok (store, _) => (.done, store)

/-- Imports the queries of a body. -/
def importQueries (request : Request) (store : Store) : Answer × Store :=
  match readBody request (.list queryOf) with
  | .unfit complaints => (unfit complaints, store)
  | .unreadable => (unreadable, store)
  | .done batch =>
    match store.addQueries batch with
    | .error _ => (.failure, store)
    | .ok (store, added) => (.json 200 (.object [("added", .int added)]), store)

/-- Carries an action out. -/
def act {σ : Type} (provider : Provider σ) (request : Request) (slug : String) (store : Store)
    (state : σ) : Action → Answer × Store × σ
  | .showPage => showPage provider slug store state
  | .postRanks =>
    let (answer, store) := postRanks request slug store
    (answer, store, state)
  | .listQueries =>
    (.json 200 (.list (store.queries.map Query.toDocument)), store, state)
  | .importQueries =>
    let (answer, store) := importQueries request store
    (answer, store, state)
  | .listExperiments =>
    (.json 200 (finite (.list (store.experiments.map Experiment.toDocument))), store, state)
  | .clearExperiments => (.done, store.clearExperiments, state)

/-- The answer to a request that is led to no action. -/
def refusal (request : Request) : Routing → Answer
  | .otherMethod allow => { Answer.detail 405 "Method Not Allowed" with allow := some allow }
  | .withoutSlash path =>
    .redirect 307 (ownAddress request.scheme request.host path request.query)
  | _ => .detail 404 "Not Found"

/-- Answers a request whatever its origin. -/
def answer {σ : Type} (provider : Provider σ) (request : Request) (store : Store) (state : σ) :
    Answer × Store × σ :=
  match dispatch request.method request.path with
  | .action action slug => act provider request slug store state action
  | routing =>
    let answer := refusal request routing
    (if request.method == "HEAD" then answer.headOnly else answer, store, state)

/-- An answer that names the origin that may read it. A failure of the service names none. -/
def nameOrigin (origins : Origins) (request : Request) (answer : Answer) : Answer :=
  if answer.status == 500 then answer else { answer with allowOrigin := origins.named request }

/-- Answers a request. Also answers the store and the provider's state afterwards. -/
def respond {σ : Type} (origins : Origins) (provider : Provider σ) (request : Request)
    (store : Store) (state : σ) : Answer × Store × σ :=
  match Origins.question? request with
  | some question => (origins.answerBeforehand question, store, state)
  | none =>
    let (answer, store, state) := answer provider request store state
    (nameOrigin origins request answer, store, state)

end SearchAnnotation.Service
