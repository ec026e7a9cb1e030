import SearchAnnotation.Proofs.ChainLinks
import SearchAnnotation.Proofs.Journal
import SearchAnnotation.Proofs.SavedResults

/-!
# The courses of a view

A view of a query takes one of a few courses: no query has the name, its results are cached or
cannot be read, the search or the saving fails, or what was found is saved and shown. Each course
says what it asks of the store, what comes of the view and what it leaves behind. A view therefore
changes the store only by a saving under a query without rows, and searches only for such a query.
-/

namespace SearchAnnotation.View

variable {σ : Type} {provider : Provider σ} {qid : String} {store after : Store} {state later : σ}
  {outcome : Except ViewFault (Lookup Page)}

/-- The courses of a view, each with what comes of it and with the store and the provider's state
afterwards. -/
inductive Course (provider : Provider σ) (qid : String) (store : Store) (state : σ) :
    Except ViewFault (Lookup Page) → Store → σ → Prop where
  /-- No query has the name. -/
  | absent : store.query? qid = none →
      Course provider qid store state (.ok (.notFound qid)) store state
  /-- What is cached is shown. -/
  | cached {frame : Frame} {results : List SearchResult} : frame? store qid = some frame →
      store.resultsOf qid = .ok results → results ≠ [] →
      Course provider qid store state (.ok (.found (frame.page results))) store state
  /-- What is cached cannot be read. -/
  | unreadable {frame : Frame} {why : ShapeFault} : frame? store qid = some frame →
      store.resultsOf qid = .error why →
      Course provider qid store state (.error (.shape why)) store state
  /-- Nothing is cached, and the search gives no results. -/
  | lost {frame : Frame} {why : ViewFault} {later : σ} : frame? store qid = some frame →
      store.rowsOf qid = [] → fetch provider frame.query state = (.error why, later) →
      Course provider qid store state (.error why) store later
  /-- Nothing is cached, and what was found cannot be saved. -/
  | unsaved {frame : Frame} {results : List SearchResult} {why : ViewFault} {later : σ} :
      frame? store qid = some frame → store.rowsOf qid = [] →
      fetch provider frame.query state = (.ok results, later) →
      save store qid results = .error why →
      Course provider qid store state (.error why) store later
  /-- Nothing is cached, and what was found is saved and shown. -/
  | filled {frame : Frame} {results : List SearchResult} {saved : Store} {later : σ} :
      frame? store qid = some frame → store.rowsOf qid = [] →
      fetch provider frame.query state = (.ok results, later) →
      save store qid results = .ok saved →
      Course provider qid store state (.ok (.found (frame.page results))) saved later

theorem frame?_eq_none_iff : frame? store qid = none ↔ store.query? qid = none :=
  Option.map_eq_none_iff

/-- A frame is that of the stored query of its name. -/
theorem query?_of_frame? {frame : Frame} (h : frame? store qid = some frame) :
    store.query? qid = some frame.query ∧ frame.query.qid = qid := by
  obtain ⟨query, hquery, rfl⟩ := Option.map_eq_some_iff.mp h
  exact ⟨hquery, Store.qid_eq_of_query? hquery⟩

/-- Every view takes one of the courses. -/
theorem course_load (provider : Provider σ) (qid : String) (store : Store) (state : σ) :
    Course provider qid store state (load provider qid store state).1
      (load provider qid store state).2.1 (load provider qid store state).2.2 := by
  unfold load
  cases hframe : frame? store qid with
  | none => exact .absent (frame?_eq_none_iff.mp hframe)
  | some frame =>
    obtain ⟨-, hqid⟩ := query?_of_frame? hframe
    simp only [results, hqid, cached]
    cases hread : store.resultsOf qid with
    | error why => exact .unreadable hframe hread
    | ok cached =>
      rw [Outcome.mapError_ok]
      cases cached with
      | cons first rest => exact .cached hframe hread (List.cons_ne_nil first rest)
      | nil =>
        have hnone : store.rowsOf qid = [] := Store.resultsOf_eq_nil.mp hread
        obtain ⟨found, later, hfetch⟩ : ∃ found later,
            fetch provider frame.query state = (found, later) := ⟨_, _, rfl⟩
        simp only [hfetch]
        cases found with
        | error why => exact .lost hframe hnone hfetch
        | ok results =>
          dsimp only
          cases hsave : save store qid results with
          | error why => exact .unsaved hframe hnone hfetch hsave
          | ok saved => exact .filled hframe hnone hfetch hsave

/-- The first view of a query saves and shows what was found. -/
theorem load_of_fetch {frame : Frame} {results : List SearchResult} {saved : Store}
    (hframe : frame? store qid = some frame) (uncached : store.rowsOf qid = [])
    (found : fetch provider frame.query state = (.ok results, later))
    (h : save store qid results = .ok saved) :
    load provider qid store state = (.ok (.found (frame.page results)), saved, later) := by
  have hread : store.resultsOf qid = .ok [] := Store.resultsOf_eq_nil.mpr uncached
  simp only [load, hframe, View.results, (query?_of_frame? hframe).2, cached, hread,
    Outcome.mapError_ok, found, h, Except.map]

/-- A view of a query with cached results shows these. -/
theorem load_of_cached (provider : Provider σ) (state : σ) {frame : Frame}
    {results : List SearchResult} (hframe : frame? store qid = some frame)
    (hread : store.resultsOf qid = .ok results) (nonempty : results ≠ []) :
    load provider qid store state = (.ok (.found (frame.page results)), store, state) := by
  obtain ⟨first, rest, rfl⟩ := List.exists_cons_of_ne_nil nonempty
  simp only [load, hframe, View.results, (query?_of_frame? hframe).2, cached, hread,
    Outcome.mapError_ok, Except.map]

/-- Fetching searches for the text of the query, and builds results from what is answered. -/
theorem fetch_eq (provider : Provider σ) (query : Query) (state : σ) :
    (fetch provider query state).1 =
      ((provider.search query.text state).1.mapError .search).bind fun answer =>
        (SearchResult.ofAnswer query.qid answer).mapError .shape := by
  unfold fetch
  cases provider.search query.text state with
  | mk answer next => cases answer <;> rfl

/-- What was found under a query was built from an answer of the provider. -/
theorem built_of_fetch {query : Query} {results : List SearchResult}
    (h : fetch provider query state = (.ok results, later)) :
    ∃ answer, (provider.search query.text state).1 = .ok answer ∧
      SearchResult.ofAnswer query.qid answer = .ok results := by
  have hfound := (fetch_eq provider query state).symm.trans (congrArg Prod.fst h)
  obtain ⟨answer, hanswer, hbuilt⟩ := Outcome.bind_eq_ok.mp hfound
  exact ⟨answer, Outcome.mapError_eq_ok.mp hanswer, Outcome.mapError_eq_ok.mp hbuilt⟩

/-- Nothing was found under a query if the search failed or its answer has the wrong shape. -/
theorem unbuilt_of_fetch {query : Query} {why : ViewFault}
    (h : fetch provider query state = (.error why, later)) :
    (∃ fault, (provider.search query.text state).1 = .error fault ∧ why = .search fault) ∨
      ∃ answer fault, (provider.search query.text state).1 = .ok answer ∧
        SearchResult.ofAnswer query.qid answer = .error fault ∧ why = .shape fault := by
  have hlost := (fetch_eq provider query state).symm.trans (congrArg Prod.fst h)
  rcases Outcome.bind_eq_error.mp hlost with hsearch | ⟨answer, hanswer, hunbuilt⟩
  · exact .inl (Outcome.mapError_eq_error.mp hsearch)
  · obtain ⟨fault, hfault, hwhy⟩ := Outcome.mapError_eq_error.mp hunbuilt
    exact .inr ⟨answer, fault, Outcome.mapError_eq_ok.mp hanswer, hfault, hwhy⟩

/-- A view leaves the store as it was, or saves what it has built under a stored query without
rows. -/
theorem Course.store_eq (h : Course provider qid store state outcome after later) :
    after = store ∨ ∃ (frame : Frame) (answer : Value) (results : List SearchResult),
      frame? store qid = some frame ∧ store.rowsOf qid = [] ∧
        (provider.search frame.query.text state).1 = .ok answer ∧
        SearchResult.ofAnswer qid answer = .ok results ∧ save store qid results = .ok after ∧
        outcome = .ok (.found (frame.page results)) := by
  cases h with
  | filled hframe hnone hfetch hsave =>
    obtain ⟨answer, hanswer, hbuilt⟩ := built_of_fetch hfetch
    rw [(query?_of_frame? hframe).2] at hbuilt
    exact .inr ⟨_, answer, _, hframe, hnone, hanswer, hbuilt, hsave, rfl⟩
  | _ => exact .inl rfl

/-- A view that fails leaves the store as it was. -/
theorem Course.store_eq_of_error {why : ViewFault}
    (h : Course provider qid store state (.error why) after later) : after = store := by
  cases h <;> rfl

/-- A view leaves the chain of queries as it is. -/
theorem Course.queries_eq (h : Course provider qid store state outcome after later) :
    after.queries = store.queries := by
  rcases h.store_eq with rfl | ⟨frame, answer, results, -, -, -, -, hsave, -⟩
  · rfl
  · exact (Store.tables_of_save hsave).1

/-- A noted search is noted with its answer. -/
theorem fetch_noted {query : Query} {source : σ} {log : List Search}
    {found : Except ViewFault (List SearchResult)} {next : σ × List Search}
    (h : fetch provider.noted query (source, log) = (found, next)) :
    ∃ answer, next.2 = log ++ [⟨query.text, answer⟩] := by
  obtain ⟨answer, next', hsearch⟩ : ∃ answer next',
      provider.search query.text source = (answer, next') := ⟨_, _, rfl⟩
  simp only [fetch, Provider.noted, hsearch] at h
  refine ⟨answer, ?_⟩
  cases answer with
  | error why => rw [← (Prod.mk.inj h).2]
  | ok answer => rw [← (Prod.mk.inj h).2]

/-- A view searches at most once, for the text of a stored query without rows. -/
theorem Course.searches {source : σ} {next : σ × List Search}
    (h : Course provider.noted qid store (source, []) outcome after next) :
    next.2 = [] ∨ ∃ query answer, store.query? qid = some query ∧ store.rowsOf qid = [] ∧
      next.2 = [⟨query.text, answer⟩] := by
  have found : ∀ {frame : Frame} {found : Except ViewFault (List SearchResult)},
      frame? store qid = some frame → store.rowsOf qid = [] →
        fetch provider.noted frame.query (source, []) = (found, next) →
        ∃ query answer, store.query? qid = some query ∧ store.rowsOf qid = [] ∧
          next.2 = [⟨query.text, answer⟩] := by
    intro frame found hframe hnone hfetch
    obtain ⟨answer, hnoted⟩ := fetch_noted hfetch
    exact ⟨frame.query, answer, (query?_of_frame? hframe).1, hnone, hnoted⟩
  cases h with
  | lost hframe hnone hfetch => exact .inr (found hframe hnone hfetch)
  | unsaved hframe hnone hfetch => exact .inr (found hframe hnone hfetch)
  | filled hframe hnone hfetch => exact .inr (found hframe hnone hfetch)
  | _ => exact .inl rfl

end SearchAnnotation.View
