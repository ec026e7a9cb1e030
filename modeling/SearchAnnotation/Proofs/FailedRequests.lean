import SearchAnnotation.Proofs.ShownResults
import SearchAnnotation.Proofs.ViewCourses
import SearchAnnotation.Service

/-!
# Failed requests

A request that fails leaves the queries, the cached results and the experiments as they were, with
one exception: the results of a first view are kept before the page is written, and remain although
the strict format cannot write the page, which is answered as a failure of the service. The provider
is searched for the page of a stored query without rows, and for nothing else.
-/

namespace SearchAnnotation

namespace Text

variable {separator : Char}

theorem pieces_ne_nil (s : List Char) : pieces (· == separator) s ≠ [] := by
  cases s with
  | nil => exact List.cons_ne_nil _ _
  | cons c rest =>
    unfold pieces
    split
    · exact List.cons_ne_nil _ _
    · split <;> exact List.cons_ne_nil _ _

/-- Pieces with the separator between them give the text again. -/
theorem intercalate_pieces (s : List Char) :
    [separator].intercalate (pieces (· == separator) s) = s := by
  induction s with
  | nil => rfl
  | cons c rest ih =>
    unfold pieces
    obtain ⟨first, others, hrest⟩ := List.exists_cons_of_ne_nil (pieces_ne_nil rest)
    rw [hrest] at ih ⊢
    by_cases hc : c = separator
    · rw [if_pos (beq_iff_eq.mpr hc), List.intercalate_cons_cons, ih, hc]
      rfl
    · rw [if_neg (by rw [beq_iff_eq]; exact hc)]
      cases others with
      | nil => rw [← ih]; rfl
      | cons second more =>
        rw [List.intercalate_cons_cons] at ih ⊢
        rw [← ih]
        rfl

end Text

namespace Service

variable {σ : Type} {provider : Provider σ} {request : Request} {store after : Store}
  {slug : String}

/-- Whether a request asks for the page of a query. -/
def AsksFor (request : Request) (slug : String) : Prop :=
  request.method = "GET" ∧ request.path = "/annotate/".toList ++ slug.toList

/-- The template of pages matches two segments, the second of which is the slug. -/
theorem pieces_of_matchSegments {pieces : List (List Char)} {name : List Char}
    (h : matchSegments [.fixed "annotate", .slug] pieces = some name) :
    pieces = ["annotate".toList, name] := by
  match pieces with
  | [] => cases h
  | [piece] => simp only [matchSegments, ite_self, reduceCtorEq] at h
  | [piece, second] =>
    simp only [matchSegments, Option.map_some] at h
    split at h
    · next hpiece =>
      split at h
      · cases h
      · rw [hpiece, Option.some.inj h]
    · cases h
  | piece :: second :: third :: rest =>
    simp only [matchSegments, Option.map_none, ite_self, reduceCtorEq] at h

/-- The route that shows pages. -/
def pageRoute : Route := ⟨[.fixed "annotate", .slug], .get, .showPage⟩

theorem eq_pageRoute {route : Route} (h : route ∈ routes) (haction : route.action = .showPage) :
    route = pageRoute := by
  simp only [routes, List.mem_cons, List.not_mem_nil, or_false] at h
  rcases h with rfl | rfl | rfl | rfl | rfl | rfl
  · rfl
  all_goals cases haction

/-- A path that gives the route of pages a slug leads to the page of the slug. -/
theorem path_of_slug? {path : List Char} (h : pageRoute.slug? path = some slug) :
    path = "/annotate/".toList ++ slug.toList := by
  unfold Route.slug? at h
  split at h
  · next pieces hpieces =>
    obtain ⟨name, hname, rfl⟩ := Option.map_eq_some_iff.mp h
    have hpath : path = ['/'].intercalate ([] :: pieces) := by
      rw [← hpieces, Text.intercalate_pieces]
    have hname' : (String.ofList name).toList = name := String.toList_ofList
    rw [hpath, pieces_of_matchSegments hname, hname', List.intercalate_cons_cons,
      List.intercalate_cons_cons, List.intercalate_singleton]
    rfl
  · cases h

/-- A request that is led to an action has taken a route with its method and path. -/
theorem exists_route_of_dispatch {method : String} {path : List Char} {action : Action}
    (h : dispatch method path = .action action slug) :
    ∃ route ∈ routes, route.method.name = method ∧ route.action = action ∧
      route.slug? path = some slug := by
  unfold dispatch at h
  cases hmatching : matching path with
  | nil =>
    simp only [hmatching] at h
    split at h <;> cases h
  | cons first others =>
    simp only [hmatching] at h
    cases hfind : (first :: others).find? fun entry => entry.1.method.name == method with
    | none =>
      rw [hfind] at h
      cases h
    | some entry =>
      rw [hfind] at h
      obtain ⟨haction, hslug⟩ := Routing.action.inj h
      have hchosen := List.find?_some hfind
      have hentry : entry ∈ matching path := hmatching ▸ List.mem_of_find?_eq_some hfind
      obtain ⟨route, hroute, hmatch⟩ := List.mem_filterMap.mp hentry
      obtain ⟨name, hname, rfl⟩ := Option.map_eq_some_iff.mp hmatch
      exact ⟨route, hroute, beq_iff_eq.mp hchosen, haction, hslug ▸ hname⟩

/-- A request that is led to a page asks for it. -/
theorem asksFor_of_dispatch (h : dispatch request.method request.path = .action .showPage slug) :
    AsksFor request slug := by
  obtain ⟨route, hroute, hmethod, haction, hslug⟩ := exists_route_of_dispatch h
  rw [eq_pageRoute hroute haction] at hmethod hslug
  exact ⟨hmethod.symm, path_of_slug? hslug⟩

/-- A request asks for one page only. -/
theorem AsksFor.slug_eq {other : String} (h : AsksFor request slug) (h' : AsksFor request other) :
    slug = other :=
  String.toList_inj.mp (List.append_cancel_left (h.2.symm.trans h'.2))

/-- Whether the results of a query's first view are kept although the strict format cannot write
what is visible of the page that shows them. -/
def KeptUnwritten (provider : Provider σ) (slug : String) (store : Store) (source : σ)
    (after : Store) : Prop :=
  ∃ (frame : View.Frame) (value : Value) (results : List SearchResult),
    View.frame? store slug = some frame ∧ store.rowsOf slug = [] ∧
      (provider.search frame.query.text source).1 = .ok value ∧
      SearchResult.ofAnswer slug value = .ok results ∧
      View.save store slug results = .ok after ∧
      Json.isStrict (visible (frame.page results).toDocument) = false

/-- A page without results can be written. -/
theorem isStrict_page_nil (frame : View.Frame) :
    Json.isStrict (visible (frame.page []).toDocument) = true := by
  obtain ⟨query, previous, next⟩ := frame
  have hnone : SearchResult.ordered [] = [] := List.mergeSort_nil
  simp only [View.Frame.page, hnone]
  cases previous <;> cases next <;> rfl

/-- What is kept of a page that cannot be written are rows, and nothing else changes. -/
theorem KeptUnwritten.changes {source : σ} (h : KeptUnwritten provider slug store source after) :
    after.queries = store.queries ∧ after.experiments = store.experiments ∧
      after.results ≠ store.results := by
  obtain ⟨frame, value, results, -, hnone, -, -, hsave, hunwritten⟩ := h
  have hsome : results ≠ [] := by
    rintro rfl
    rw [isStrict_page_nil] at hunwritten
    cases hunwritten
  have hrows := Store.rowsOf_ne_nil_of_save hsome hsave
  refine ⟨?_, ?_, fun hsame => hrows ?_⟩
  · exact (Store.tables_of_save hsave).1
  · exact (Store.tables_of_save hsave).2
  · rw [Store.rowsOf, hsame]
    exact hnone

/-- A value is answered with success exactly if the strict format can write what is visible of
it. -/
theorem isSuccess_strictJson (v : Value) :
    (strictJson v).isSuccess = Json.isStrict (visible v) := by
  unfold strictJson
  cases Json.isStrict (visible v) with
  | true => rfl
  | false => rfl

/-- The view whose results are kept unwritten is answered as a failure of the service. -/
theorem KeptUnwritten.showPage {source : σ} (h : KeptUnwritten provider slug store source after) :
    (showPage provider.noted slug store (source, [])).1 = .failure := by
  obtain ⟨frame, value, results, hframe, hnone, hanswer, hbuilt, hsave, hunwritten⟩ := h
  have hqid : frame.query.qid = slug := (View.query?_of_frame? hframe).2
  have hsearch : (provider.noted.search frame.query.text (source, [])).1 = .ok value := hanswer
  have hfound : (View.fetch provider.noted frame.query (source, [])).1 = .ok results := by
    rw [View.fetch_eq, hsearch, hqid]
    exact Outcome.mapError_eq_ok.mpr hbuilt
  have hfetch : View.fetch provider.noted frame.query (source, []) =
      (.ok results, (View.fetch provider.noted frame.query (source, [])).2) :=
    Prod.ext hfound rfl
  unfold Service.showPage
  rw [View.load_of_fetch hframe hnone hfetch hsave]
  simp only [strictJson, hunwritten, Bool.false_eq_true, if_false]

/-- A page that is not shown leaves the store as it was, unless its results are kept unwritten,
which is a failure of the service. A search is made only for a query without rows. -/
theorem showPage_quiet (provider : Provider σ) (slug : String) (store : Store) (source : σ) :
    ∃ answer after later searches,
      showPage provider.noted slug store (source, []) = (answer, after, later, searches) ∧
        (answer.isSuccess = false →
          after = store ∨ KeptUnwritten provider slug store source after) ∧
        (∀ kept, KeptUnwritten provider slug store source kept → answer.status = 500) ∧
        (searches = [] ∨ ∃ query found, store.query? slug = some query ∧
          store.rowsOf slug = [] ∧ searches = [⟨query.text, found⟩]) := by
  obtain ⟨outcome, after, ⟨later, searches⟩, hload⟩ : ∃ outcome after later,
      View.load provider.noted slug store (source, []) = (outcome, after, later) := ⟨_, _, _, rfl⟩
  have hcourse := View.course_load provider.noted slug store (source, [])
  rw [hload] at hcourse
  have hkept : ∀ kept, KeptUnwritten provider slug store source kept →
      (showPage provider.noted slug store (source, [])).1.status = 500 := fun kept h => by
    rw [h.showPage]
    rfl
  unfold showPage at hkept ⊢
  rw [hload] at hkept ⊢
  cases outcome with
  | error why =>
    exact ⟨_, _, _, _, rfl, fun _ => .inl hcourse.store_eq_of_error, hkept, hcourse.searches⟩
  | ok looked =>
    cases looked with
    | notFound name =>
      refine ⟨_, _, _, _, rfl, fun _ => ?_, hkept, hcourse.searches⟩
      rcases hcourse.store_eq with hsame | ⟨frame, value, results, -, -, -, -, -, houtcome⟩
      · exact .inl hsame
      · cases houtcome
    | found page =>
      refine ⟨_, _, _, _, rfl, fun hfail => ?_, hkept, hcourse.searches⟩
      rw [isSuccess_strictJson] at hfail
      rcases hcourse.store_eq with
        hsame | ⟨frame, value, results, hframe, hnone, hanswer, hbuilt, hsave, houtcome⟩
      · exact .inl hsame
      · cases houtcome
        exact .inr ⟨frame, value, results, hframe, hnone, hanswer, hbuilt, hsave, hfail⟩

/-- A post of ranks that fails leaves the store as it was. -/
theorem postRanks_failed (request : Request) (slug : String) (store : Store) :
    (postRanks request slug store).1.isSuccess = false →
      (postRanks request slug store).2 = store := by
  unfold postRanks
  cases readBody request ranksOf with
  | unfit complaints => exact fun _ => rfl
  | unreadable => exact fun _ => rfl
  | done ranks =>
    dsimp only
    cases store.query? slug with
    | none => exact fun _ => rfl
    | some query =>
      dsimp only
      cases store.saveAnnotations slug ranks with
      | error why => exact fun _ => rfl
      | ok saved => exact fun hfail => nomatch hfail

/-- An import that fails leaves the store as it was. -/
theorem importQueries_failed (request : Request) (store : Store) :
    (importQueries request store).1.isSuccess = false →
      (importQueries request store).2 = store := by
  unfold importQueries
  cases readBody request (.list queryOf) with
  | unfit complaints => exact fun _ => rfl
  | unreadable => exact fun _ => rfl
  | done batch =>
    dsimp only
    cases store.addQueries batch with
    | error why => exact fun _ => rfl
    | ok saved => exact fun hfail => nomatch hfail

/-- An action other than showing a page searches for nothing, and leaves the store as it was if it
fails. -/
theorem act_quiet (provider : Provider σ) (request : Request) (slug : String) (store : Store)
    (state : σ) {action : Action} (h : action ≠ .showPage) :
    (act provider request slug store state action).2.2 = state ∧
      ((act provider request slug store state action).1.isSuccess = false →
        (act provider request slug store state action).2.1 = store) := by
  cases action with
  | showPage => exact absurd rfl h
  | postRanks => exact ⟨rfl, postRanks_failed request slug store⟩
  | listQueries => exact ⟨rfl, fun _ => rfl⟩
  | importQueries => exact ⟨rfl, importQueries_failed request store⟩
  | listExperiments => exact ⟨rfl, fun _ => rfl⟩
  | clearExperiments => exact ⟨rfl, fun hfail => nomatch hfail⟩

/-- A request for a page that is led to another action is one for a list, and changes nothing. -/
theorem act_of_asksFor (provider : Provider σ) (store : Store) (state : σ) {other : String}
    {action : Action} (asks : AsksFor request other)
    (routed : dispatch request.method request.path = .action action slug)
    (h : action ≠ .showPage) :
    (act provider request slug store state action).2.1 = store := by
  obtain ⟨route, hroute, hmethod, rfl, -⟩ := exists_route_of_dispatch routed
  rw [asks.1] at hmethod
  simp only [routes, List.mem_cons, List.not_mem_nil, or_false] at hroute
  rcases hroute with rfl | rfl | rfl | rfl | rfl | rfl
  · exact absurd rfl h
  · exact absurd hmethod (by decide)
  · rfl
  · exact absurd hmethod (by decide)
  · rfl
  · exact absurd hmethod (by decide)

/-- What is known of a request by its answer, the store afterwards and the searches made. -/
structure Quiet (provider : Provider σ) (request : Request) (store : Store) (source : σ)
    (answer : Answer) (after : Store) (searches : List Search) : Prop where
  /-- A failed request leaves the queries as they were. -/
  queries : answer.isSuccess = false → after.queries = store.queries
  /-- A failed request leaves the experiments as they were. -/
  experiments : answer.isSuccess = false → after.experiments = store.experiments
  /-- A failed request changes the cached results only by keeping those of a page unwritten. -/
  results : answer.isSuccess = false → (after.results ≠ store.results ↔
    ∃ slug, AsksFor request slug ∧ KeptUnwritten provider slug store source after)
  /-- A request for a page whose results are kept unwritten is answered as a failure of the
  service. -/
  unwritten : ∀ slug, AsksFor request slug → KeptUnwritten provider slug store source after →
    answer.status = 500
  /-- At most one search is made, and only for the page of a stored query without rows. -/
  searches : searches = [] ∨ ∃ slug query found, AsksFor request slug ∧
    store.query? slug = some query ∧ store.rowsOf slug = [] ∧ searches = [⟨query.text, found⟩]

section Quiet

variable {source : σ} {answer : Answer} {searches : List Search}

/-- A failure that keeps the store, or keeps the results of a page unwritten, is quiet. -/
theorem quiet_of_failed
    (failed : answer.isSuccess = false → after = store ∨
      ∃ slug, AsksFor request slug ∧ KeptUnwritten provider slug store source after)
    (unwritten : ∀ slug, AsksFor request slug → KeptUnwritten provider slug store source after →
      answer.status = 500)
    (searched : searches = [] ∨ ∃ slug query found, AsksFor request slug ∧
      store.query? slug = some query ∧ store.rowsOf slug = [] ∧
        searches = [⟨query.text, found⟩]) :
    Quiet provider request store source answer after searches := by
  refine ⟨fun hfail => ?_, fun hfail => ?_, fun hfail => ?_, unwritten, searched⟩
  · rcases failed hfail with rfl | ⟨slug, -, hkept⟩
    · rfl
    · exact hkept.changes.1
  · rcases failed hfail with rfl | ⟨slug, -, hkept⟩
    · rfl
    · exact hkept.changes.2.1
  · constructor
    · intro hne
      rcases failed hfail with hsame | hkept
      · exact absurd (congrArg Store.results hsame) hne
      · exact hkept
    · rintro ⟨slug, -, hkept⟩
      exact hkept.changes.2.2

/-- A failure that keeps the store, without a search, is quiet. -/
theorem quiet_of_refused : Quiet provider request store source answer store [] := by
  refine quiet_of_failed (fun _ => .inl rfl) (fun slug _ hkept => ?_) (.inl rfl)
  exact absurd rfl hkept.changes.2.2

/-- A request that is led anywhere is answered quietly. -/
theorem quiet_answer (provider : Provider σ) (request : Request) (store : Store) (source : σ) :
    ∃ answer after later searches,
      Service.answer provider.noted request store (source, []) =
          (answer, after, later, searches) ∧
        Quiet provider request store source answer after searches := by
  unfold Service.answer
  cases hrouting : dispatch request.method request.path with
  | action action slug =>
    by_cases hpage : action = .showPage
    · subst hpage
      have hasks := asksFor_of_dispatch hrouting
      obtain ⟨answer, after, later, searches, hshow, hfailed, hkept, hsearched⟩ :=
        showPage_quiet provider slug store source
      refine ⟨answer, after, later, searches, hshow,
        quiet_of_failed (fun hfail => ?_) (fun other hother h => ?_) ?_⟩
      · exact (hfailed hfail).imp_right fun hkept => ⟨slug, hasks, hkept⟩
      · exact hkept after (hother.slug_eq hasks ▸ h)
      · exact hsearched.imp_right fun ⟨query, found, h⟩ => ⟨slug, query, found, hasks, h⟩
    · obtain ⟨hstate, hfailed⟩ := act_quiet provider.noted request slug store (source, []) hpage
      obtain ⟨answer, after, state, hact⟩ : ∃ answer after state,
          act provider.noted request slug store (source, []) action = (answer, after, state) :=
        ⟨_, _, _, rfl⟩
      have hlisted : ∀ other, AsksFor request other → after = store := by
        intro other hother
        have hsame := act_of_asksFor provider.noted store (source, []) hother hrouting hpage
        rw [hact] at hsame
        exact hsame
      rw [hact] at hstate hfailed
      subst hstate
      refine ⟨answer, after, source, [], hact,
        quiet_of_failed (fun hfail => .inl (hfailed hfail)) (fun other hother hkept => ?_)
          (.inl rfl)⟩
      exact absurd (congrArg Store.results (hlisted other hother)) hkept.changes.2.2
  | otherMethod allow => exact ⟨_, store, source, [], rfl, quiet_of_refused⟩
  | withoutSlash path => exact ⟨_, store, source, [], rfl, quiet_of_refused⟩
  | unknown => exact ⟨_, store, source, [], rfl, quiet_of_refused⟩

theorem status_nameOrigin (origins : Origins) (request : Request) (answer : Answer) :
    (nameOrigin origins request answer).status = answer.status := by
  unfold nameOrigin
  split <;> rfl

theorem isSuccess_nameOrigin (origins : Origins) (request : Request) (answer : Answer) :
    (nameOrigin origins request answer).isSuccess = answer.isSuccess := by
  unfold nameOrigin
  split <;> rfl

/-- Every request is answered quietly, from whichever origin it comes: if it fails, all that can
have changed are the cached results of a page that was to be shown and cannot be written, which is
answered as a failure of the service. Whether or not a request fails, at most one search is made,
for a stored query without rows. -/
theorem quiet_respond (origins : Origins) (provider : Provider σ) (request : Request)
    (store : Store) (source : σ) :
    ∃ answer after later searches,
      respond origins provider.noted request store (source, []) =
          (answer, after, later, searches) ∧
        Quiet provider request store source answer after searches := by
  unfold respond
  cases Origins.question? request with
  | some question =>
    exact ⟨_, store, source, [], rfl, quiet_of_refused⟩
  | none =>
    obtain ⟨answer, after, later, searches, hanswer, hquiet⟩ :=
      quiet_answer provider request store source
    simp only [hanswer]
    refine ⟨_, after, later, searches, rfl, ?_⟩
    have hsame := isSuccess_nameOrigin origins request answer
    exact ⟨hsame ▸ hquiet.queries, hsame ▸ hquiet.experiments, hsame ▸ hquiet.results,
      status_nameOrigin origins request answer ▸ hquiet.unwritten, hquiet.searches⟩

end Quiet

/-- A provider that answers every text with one page whose title is no number. -/
def unwritableProvider : Provider Unit where
  search _ state :=
    (.ok (.list [.object [("url", .text "u"), ("title", .float Binary64.nan)]]), state)

/-- The only result of such an answer. -/
def unwritableResult : SearchResult :=
  ⟨"q-u", 0, none, ⟨.text "u", .float Binary64.nan, .null, .null, .null, .null, []⟩⟩

theorem load_unwritable :
    View.load unwritableProvider "q" ⟨[⟨"q", "x"⟩], [], []⟩ () =
      (.ok (.found (View.Frame.page ⟨⟨"q", "x"⟩, none, none⟩ [unwritableResult])),
        ⟨[⟨"q", "x"⟩], [ResultRow.ofResult "q" unwritableResult], []⟩, ()) := by
  with_unfolding_all rfl

/-- A failed request can change the cached results: the row of a first view's page is kept, though
the service fails on its title. -/
theorem failed_view_keeps_row :
    respond [] unwritableProvider
        ⟨"GET", "http", "/annotate/q".toList, [], [], [], Json.usualNesting⟩
        ⟨[⟨"q", "x"⟩], [], []⟩ () =
      (.failure, ⟨[⟨"q", "x"⟩], [ResultRow.ofResult "q" unwritableResult], []⟩, ()) ∧
    Answer.failure.isSuccess = false ∧ [ResultRow.ofResult "q" unwritableResult] ≠ [] := by
  have hrouting : dispatch "GET" "/annotate/q".toList = .action .showPage "q" := by
    decide +kernel
  have hpage : SearchResult.ordered [unwritableResult] = [unwritableResult] :=
    List.mergeSort_singleton _
  have hunwritten : strictJson (View.Frame.page ⟨⟨"q", "x"⟩, none, none⟩
      [unwritableResult]).toDocument = .failure := by
    rw [View.Frame.page, hpage]
    rfl
  have hquestion : Origins.question?
      ⟨"GET", "http", "/annotate/q".toList, [], [], [], Json.usualNesting⟩ = none := rfl
  refine ⟨?_, rfl, List.cons_ne_nil _ _⟩
  simp only [respond, hquestion, answer, hrouting, act, showPage, load_unwritable, hunwritten]
  rfl

end Service

end SearchAnnotation
