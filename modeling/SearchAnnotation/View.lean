import SearchAnnotation.Page
import SearchAnnotation.Provider
import SearchAnnotation.Store.Queries
import SearchAnnotation.Store.Results

/-!
# Views

A view shows the page of a query. Its results come from the store if any are cached there;
otherwise the provider is searched once, and what it answers is stored and shown. A view that
fails leaves the store as it was. The first view of a query shows the results as they were
built, later ones as they are read back from the store.
-/

namespace SearchAnnotation

/-- Why a page cannot be shown. -/
inductive ViewFault where
  /-- The search failed. -/
  | search (why : SearchFault)
  /-- A record or a stored document has the wrong shape. -/
  | shape (why : ShapeFault)
  /-- The results cannot be stored. -/
  | store (why : StoreFault)
deriving DecidableEq, Repr

namespace View

/-- A page before its results are known. -/
structure Frame where
  /-- The query. -/
  query : Query
  /-- The query before it. -/
  previous : Option Query
  /-- The query after it. -/
  next : Option Query
deriving DecidableEq, Repr

/-- The page with its results in display order. -/
def Frame.page (frame : Frame) (results : List SearchResult) : Page :=
  ⟨frame.query, SearchResult.ordered results, frame.previous, frame.next⟩

/-- The frame of a query's page. -/
def frame? (store : Store) (qid : String) : Option Frame :=
  (store.query? qid).map fun query => ⟨query, store.previous? qid, store.next? qid⟩

/-- The cached results of a query; none at all if nothing is cached. -/
def cached (store : Store) (qid : String) : Except ViewFault (List SearchResult) :=
  (store.resultsOf qid).mapError .shape

/-- Searches for a query and builds its results. -/
def fetch {σ : Type} (provider : Provider σ) (query : Query) (state : σ) :
    Except ViewFault (List SearchResult) × σ :=
  let (answer, state) := provider.search query.text state
  match answer with
  | .error why => (.error (.search why), state)
  | .ok answer => ((SearchResult.ofAnswer query.qid answer).mapError .shape, state)

/-- Stores the results of a query. -/
def save (store : Store) (qid : String) (results : List SearchResult) : Except ViewFault Store :=
  (store.saveResults qid results).mapError .store

/-- The results of a query, searched for and stored if none are cached. Also answers the store
and the provider's state afterwards. -/
def results {σ : Type} (provider : Provider σ) (query : Query) (store : Store) (state : σ) :
    Except ViewFault (List SearchResult) × Store × σ :=
  match cached store query.qid with
  | .error why => (.error why, store, state)
  | .ok (first :: rest) => (.ok (first :: rest), store, state)
  | .ok [] =>
    match fetch provider query state with
    | (.error why, state) => (.error why, store, state)
    | (.ok results, state) =>
      match save store query.qid results with
      | .error why => (.error why, store, state)
      | .ok store => (.ok results, store, state)

/-- Shows the page of a query. Also answers the store and the provider's state afterwards. -/
def load {σ : Type} (provider : Provider σ) (qid : String) (store : Store) (state : σ) :
    Except ViewFault (Lookup Page) × Store × σ :=
  match frame? store qid with
  | none => (.ok (.notFound qid), store, state)
  | some frame =>
    let (results, store, state) := results provider frame.query store state
    (results.map fun results => .found (frame.page results), store, state)

end View

end SearchAnnotation
