import SearchAnnotation.Proofs.ConsistentStores
import SearchAnnotation.Proofs.PageRoutes
import SearchAnnotation.Proofs.UpstreamFaults
import SearchAnnotation.Proofs.VisibleFields

/-!
# Pages that can be opened

A service that starts with an empty store and whose provider always finds something that can be
stored and shown is able to show the page of every stored query, whatever was requested of it
before. An import takes any text for a name, though, and routes lead to a page only if its name is a
segment of a path. So the pages that can be opened, and the queries that ranks can be posted for,
are those whose names are segments, and a link of a page may lead to one that cannot be opened.
-/

namespace SearchAnnotation

open Service (visible)

/-- Whether a result can be shown: its id is a text, and the strict format can write what is visible
of its webpage. -/
structure SearchResult.Showable (result : SearchResult) : Prop where
  /-- The id is a text. -/
  text : result.hasTextId = true
  /-- What is visible of the webpage can be written. -/
  strict : Json.isStrict (visible result.webpage.toDocument) = true

/-- Whether all stored results can be read and shown. -/
def Store.Showable (rows : List ResultRow) : Prop :=
  ∀ row ∈ rows, ∃ result, row.toResult = .ok result ∧ result.Showable

/-- Whether a provider always finds records whose results can be stored and shown. -/
def Provider.Works {σ : Type} (provider : Provider σ) : Prop :=
  ∀ text state, ∃ records, (provider.search text state).1 = .ok (.list records) ∧
    (∀ qid, SearchResult.Admissible qid records) ∧
    ∀ record ∈ records, ∀ page, Webpage.ofRecord record = .ok page →
      Json.isStrict (visible page.toDocument) = true

/-- The document of a result that can be shown can be written. -/
theorem SearchResult.Showable.isStrict {result : SearchResult} (h : result.Showable) :
    Json.isStrict (visible result.toDocument) = true := by
  have hid : Json.isStrict (visible (.ofName result.id)) = true := by
    have htext := h.text
    rw [hasTextId] at htext
    cases hname : result.id with
    | text s => rfl
    | unpaired u =>
      rw [hname] at htext
      cases htext
  have hrank : Json.isStrict (visible (rankValue result.annotatedRank)) = true := by
    cases result.annotatedRank <;> rfl
  refine Service.isStrict_visibleFields_iff.mpr ?_
  simp only [List.forall_mem_cons]
  exact ⟨fun _ => ⟨rfl, hid⟩, fun _ => ⟨rfl, rfl⟩, fun _ => ⟨rfl, hrank⟩, fun _ => ⟨rfl, h.strict⟩,
    List.forall_mem_nil _⟩

/-- A page can be shown if its results can. -/
theorem View.Frame.isStrict_page (frame : View.Frame) {results : List SearchResult}
    (h : ∀ result ∈ results, result.Showable) :
    Json.isStrict (visible (frame.page results).toDocument) = true := by
  have hlink : ∀ link : Option Query, Json.isStrict (visible (Query.linkDocument link)) = true := by
    intro link
    cases link <;> rfl
  have hitems : Json.isStrict (visible
      (.list ((SearchResult.ordered results).map SearchResult.toDocument))) = true := by
    refine Service.isStrict_visibleItems_iff.mpr fun v hm => ?_
    obtain ⟨result, hresult, rfl⟩ := List.mem_map.mp hm
    exact (h result ((List.mergeSort_perm _ _).mem_iff.mp hresult)).isStrict
  refine Service.isStrict_visibleFields_iff.mpr ?_
  simp only [List.forall_mem_cons]
  exact ⟨fun _ => ⟨rfl, rfl⟩, fun _ => ⟨rfl, hitems⟩, fun _ => ⟨rfl, hlink _⟩,
    fun _ => ⟨rfl, hlink _⟩, fun field hm => nomatch hm⟩

namespace Store

variable {rows : List ResultRow} {result : SearchResult} {qid : String}

/-- What is kept of a result has its page as it comes back, or the one of a row. -/
theorem kept_reread_or_held (rows : List ResultRow) (result : SearchResult) :
    (kept rows result).webpage = result.webpage.reread ∨
      ∃ row ∈ rows, ∃ held, row.toResult = .ok held ∧
        (kept rows result).webpage = held.webpage := by
  unfold kept
  cases hfirst : first? rows result.key with
  | none => exact .inl rfl
  | some row =>
    cases hheld : row.heldPage? result.webpage with
    | none =>
      left
      simp only [Option.bind_some, hheld, Option.getD_none]
    | some page =>
      refine .inr ⟨row, (mem_of_first? hfirst).1, ?_⟩
      have hpage : row.value.bind Webpage.ofDocument = .ok page := by
        unfold ResultRow.heldPage? at hheld
        split at hheld
        · cases hread : row.value.bind Webpage.ofDocument with
          | error why =>
            rw [hread] at hheld
            cases hheld
          | ok other =>
            rw [hread] at hheld
            exact congrArg Except.ok (Option.some.inj hheld)
        · cases hheld
      obtain ⟨document, hvalue, hdocument⟩ := Outcome.bind_eq_ok.mp hpage
      refine ⟨_, ResultRow.toResult_eq_ok.mpr ⟨document, page, hvalue, hdocument, rfl⟩, ?_⟩
      simp only [Option.bind_some, hheld, Option.getD_some]

/-- What is kept of a result that can be shown can be shown. -/
theorem Showable.kept (h : Showable rows) (result_showable : result.Showable) :
    (Store.kept rows result).Showable where
  text := result_showable.text
  strict := by
    rcases kept_reread_or_held rows result with hreread | ⟨row, hrow, held, hheld, hpage⟩
    · rw [hreread, ← Webpage.reread_toDocument]
      exact Service.isStrict_visible_reread _ result_showable.strict
    · obtain ⟨shown, hshown, hstrict⟩ := h row hrow
      rw [hpage, Except.ok.inj (hheld.symm.trans hshown)]
      exact hstrict.strict

/-- Writing results that can be shown leaves rows that can be shown. -/
theorem Showable.writeAll (h : Showable rows) {results : List SearchResult}
    (storable : ∀ result ∈ results, result.Storable)
    (settled : ∀ result ∈ results, result.webpage.Settled)
    (showable : ∀ result ∈ results, result.Showable) :
    Showable (Store.writeAll rows qid results) := by
  induction results generalizing rows with
  | nil => exact h
  | cons result rest ih =>
    obtain ⟨hstorable, hstorables⟩ := List.forall_mem_cons.mp storable
    obtain ⟨hsettled, hsettleds⟩ := List.forall_mem_cons.mp settled
    obtain ⟨hshowable, hshowables⟩ := List.forall_mem_cons.mp showable
    refine ih (fun row hm => ?_) hstorables hsettleds hshowables
    rcases eq_or_mem_of_mem_upsert hm with rfl | hold
    · exact ⟨_, toResult_rowFor hstorable hsettled, h.kept hshowable⟩
    · exact h row hold

/-- What a query has cached among rows that can be shown can be shown. -/
theorem Showable.of_mem_byRank {store : Store} (h : Showable store.results) {row : ResultRow}
    (hm : row ∈ byRank (store.rowsOf qid)) :
    ∃ result, row.toResult = .ok result ∧ result.Showable :=
  h row (mem_rowsOf.mp ((List.mergeSort_perm _ _).mem_iff.mp hm)).1

end Store

namespace View

variable {σ : Type} {provider : Provider σ} {qid : String} {store after : Store} {state later : σ}
  {outcome : Except ViewFault (Lookup Page)}

/-- What a working provider is found to answer are results that can be shown, once they can be
stored. -/
theorem showable_of_found (works : provider.Works) {text : String} {answer : Value}
    {results : List SearchResult} (found : (provider.search text state).1 = .ok answer)
    (built : SearchResult.ofAnswer qid answer = .ok results)
    (storable : ∀ result ∈ results, result.Storable) :
    ∀ result ∈ results, result.Showable ∧ result.webpage.Settled := by
  obtain ⟨records, hanswer, -, hstrict⟩ := works text state
  cases found.symm.trans hanswer
  obtain ⟨others, helements, hbuild⟩ := SearchResult.ofAnswer_eq_ok.mp built
  cases helements
  intro result hm
  have hresult := SearchResult.isBuilt_of_mem_buildFrom hbuild hm
  obtain ⟨record, hrecord, hpage⟩ := hresult.page_of
  exact ⟨⟨(storable result hm).text, hstrict record hrecord _ hpage⟩, hresult.settled⟩

/-- What a working provider answers can be built into results and saved. -/
theorem stored_of_works (works : provider.Works) (text : String) (state : σ) (qid : String)
    (store : Store) :
    ∃ answer results saved, (provider.search text state).1 = .ok answer ∧
      SearchResult.ofAnswer qid answer = .ok results ∧ save store qid results = .ok saved := by
  obtain ⟨records, hanswer, hadmissible, -⟩ := works text state
  obtain ⟨results, saved, hbuild, hsaved⟩ :=
    (SearchResult.admissible_iff store).mp (hadmissible qid)
  exact ⟨_, results, saved, hanswer, SearchResult.ofAnswer_eq_ok.mpr ⟨records, rfl, hbuild⟩, hsaved⟩

/-- With a working provider a view leaves rows that can be shown. -/
theorem Course.showable (h : Course provider qid store state outcome after later)
    (works : provider.Works) (showable : Store.Showable store.results) :
    Store.Showable after.results := by
  rcases h.store_eq with rfl | ⟨frame, answer, results, -, -, hanswer, hbuilt, hsave, -⟩
  · exact showable
  · obtain ⟨hstorable, rfl⟩ := Store.save_eq_ok.mp hsave
    have hfound := showable_of_found works hanswer hbuilt hstorable
    exact showable.writeAll hstorable (fun result hm => (hfound result hm).2)
      fun result hm => (hfound result hm).1

/-- With a working provider the view of a stored query shows its results. -/
theorem Course.found (h : Course provider qid store state outcome after later)
    (works : provider.Works) (showable : Store.Showable store.results) {frame : Frame}
    (hframe : frame? store qid = some frame) :
    ∃ results, outcome = .ok (.found (frame.page results)) ∧
      ∀ result ∈ results, result.Showable := by
  cases h with
  | absent hnone =>
    rw [frame?_eq_none_iff.mpr hnone] at hframe
    cases hframe
  | @cached other results hother hread =>
    cases hframe.symm.trans hother
    refine ⟨results, rfl, fun result hm => ?_⟩
    obtain ⟨row, hrow, hto⟩ := Outcome.exists_of_mem_mapM hread hm
    obtain ⟨stored, hread', hshowable⟩ := showable.of_mem_byRank hrow
    cases hto.symm.trans hread'
    exact hshowable
  | unreadable _ hread =>
    have hrows : ∀ row ∈ Store.byRank (store.rowsOf qid), ∃ result, row.toResult = .ok result := by
      intro row hrow
      obtain ⟨result, hto, -⟩ := showable.of_mem_byRank hrow
      exact ⟨result, hto⟩
    obtain ⟨results, hresults⟩ := Outcome.exists_mapM_eq_ok hrows
    cases hread.symm.trans hresults
  | @lost other why _ hother _ hfetch =>
    obtain ⟨answer, results, _, hanswer, hbuilt, -⟩ :=
      stored_of_works works other.query.text state other.query.qid store
    rcases unbuilt_of_fetch hfetch with ⟨fault, hfault, -⟩ | ⟨other', fault, hfound, hunbuilt, -⟩
    · cases hanswer.symm.trans hfault
    · cases hanswer.symm.trans hfound
      cases hbuilt.symm.trans hunbuilt
  | @unsaved other results why _ hother _ hfetch hsave =>
    obtain ⟨answer, _, saved, hanswer, hbuilt, hsaved⟩ :=
      stored_of_works works other.query.text state qid store
    obtain ⟨other', hfound, hbuilt'⟩ := built_of_fetch hfetch
    obtain ⟨-, hqid⟩ := query?_of_frame? hother
    rw [hqid] at hbuilt'
    cases hanswer.symm.trans hfound
    cases hbuilt.symm.trans hbuilt'
    cases hsaved.symm.trans hsave
  | @filled other results saved _ hother _ hfetch hsave =>
    cases hframe.symm.trans hother
    obtain ⟨answer, hanswer, hbuilt⟩ := built_of_fetch hfetch
    have hstorable := (Store.save_eq_ok.mp hsave).1
    rw [(query?_of_frame? hother).2] at hbuilt
    exact ⟨results, rfl, fun result hm =>
      (showable_of_found works hanswer hbuilt hstorable result hm).1⟩

end View

namespace Store

/-- Whether each query of a store can be told from the others and be shown. -/
structure Presentable (store : Store) : Prop where
  /-- No two queries share a name. -/
  names : store.knownNames.Nodup
  /-- All stored results can be read and shown. -/
  showable : Showable store.results

variable {store saved : Store} {qid : String}

theorem presentable_empty : empty.Presentable where
  names := .nil
  showable _ hm := nomatch hm

/-- Ranks that are posted leave all results as they can be shown. -/
theorem Presentable.saveAnnotations (h : store.Presentable) {ranks : Ranks} {count : Nat}
    (post : store.saveAnnotations qid ranks = .ok (saved, count)) : saved.Presentable := by
  unfold Store.saveAnnotations at post
  dsimp only at post
  split at post
  · cases post
    refine ⟨h.names, fun row hm => ?_⟩
    obtain ⟨old, hold, rfl⟩ := List.mem_map.mp hm
    obtain ⟨result, hread, hshowable⟩ := h.showable old hold
    obtain ⟨document, page, hvalue, hpage, rfl⟩ := ResultRow.toResult_eq_ok.mp hread
    refine ⟨_, ResultRow.toResult_eq_ok.mpr ⟨document, page, ?_, hpage, rfl⟩, rfl, hshowable.strict⟩
    rw [ResultRow.value, rerank_document]
    exact hvalue
  · cases post

/-- A query that is stored is found by its name. -/
theorem query?_of_mem (names : store.knownNames.Nodup) {query : Query}
    (hm : query ∈ store.queries) : store.query? query.qid = some query := by
  cases hfind : store.query? query.qid with
  | none =>
    have hnot := List.find?_eq_none.mp hfind query hm
    rw [beq_self_eq_true] at hnot
    exact absurd rfl hnot
  | some other =>
    have hname := List.find?_some hfind
    rw [List.inj_on_of_nodup_map names (List.mem_of_find?_eq_some hfind) hm (beq_iff_eq.mp hname)]

end Store

namespace Service

variable {σ : Type} {provider : Provider σ} {store : Store} {state : σ} {request : Request}
  {qid slug : String} {origins : Origins}

/-- The page of a view is answered, and the store that the view leaves is kept. -/
theorem store_showPage (provider : Provider σ) (slug : String) (store : Store) (state : σ) :
    (showPage provider slug store state).2.1 = (View.load provider slug store state).2.1 := by
  unfold showPage
  obtain ⟨outcome, after, later, hload⟩ : ∃ outcome after later,
      View.load provider slug store state = (outcome, after, later) := ⟨_, _, _, rfl⟩
  rw [hload]
  cases outcome with
  | error why => rfl
  | ok looked => cases looked <;> rfl

theorem presentable_postRanks (h : store.Presentable) (request : Request) (slug : String) :
    (postRanks request slug store).2.Presentable := by
  unfold postRanks
  cases readBody request ranksOf with
  | unfit complaints => exact h
  | unreadable => exact h
  | done ranks =>
    dsimp only
    cases store.query? slug with
    | none => exact h
    | some query =>
      dsimp only
      cases hpost : store.saveAnnotations slug ranks with
      | error why => exact h
      | ok saved => exact h.saveAnnotations hpost

theorem presentable_importQueries (h : store.Presentable) (request : Request) :
    (importQueries request store).2.Presentable := by
  unfold importQueries
  cases readBody request (.list queryOf) with
  | unfit complaints => exact h
  | unreadable => exact h
  | done batch =>
    dsimp only
    cases hadd : store.addQueries batch with
    | error why => exact h
    | ok saved =>
      have hnames := Store.nodup_names_addQueries h.names hadd
      obtain ⟨fresh, -, hsaved, -⟩ := Store.addQueries_eq_ok.mp hadd
      have hsame : saved.1.results = store.results := by rw [hsaved]
      exact ⟨hnames, show Store.Showable saved.1.results from hsame ▸ h.showable⟩

/-- With a working provider every request leaves a presentable store. -/
theorem presentable_respond (works : provider.Works) (h : store.Presentable) (origins : Origins)
    (request : Request) (state : σ) :
    (respond origins provider request store state).2.1.Presentable := by
  unfold respond
  cases Origins.question? request with
  | some question => exact h
  | none =>
    dsimp only [answer]
    cases dispatch request.method request.path with
    | action action slug =>
      cases action with
      | showPage =>
        have hcourse := View.course_load provider slug store state
        rw [show (act provider request slug store state .showPage).2.1 = _ from
          store_showPage provider slug store state]
        refine ⟨?_, hcourse.showable works h.showable⟩
        rw [Store.knownNames, hcourse.queries_eq]
        exact h.names
      | postRanks => exact presentable_postRanks h request slug
      | listQueries => exact h
      | importQueries => exact presentable_importQueries h request
      | listExperiments => exact h
      | clearExperiments => exact ⟨h.names, h.showable⟩
    | otherMethod allow => exact h
    | withoutSlash path => exact h
    | unknown => exact h

/-- What is kept after requests in order, the store and the provider's state. -/
def serve (origins : Origins) (provider : Provider σ) (store : Store) (state : σ)
    (requests : List Request) : Store × σ :=
  requests.foldl (fun kept request => (respond origins provider request kept.1 kept.2).2)
    (store, state)

/-- With a working provider requests in order leave a presentable store. -/
theorem presentable_serve (works : provider.Works) (h : store.Presentable) (origins : Origins)
    (requests : List Request) (state : σ) :
    (serve origins provider store state requests).1.Presentable := by
  induction requests generalizing store state with
  | nil => exact h
  | cons request rest ih => exact ih (presentable_respond works h origins request state) _

/-- Whether every request for the page of a query is answered with that page, whose links lead to
stored queries. -/
def ShowsPage (origins : Origins) (provider : Provider σ) (store : Store) (state : σ)
    (query : Query) : Prop :=
  ∀ request : Request, request.method = "GET" → request.path = pagePath query.qid →
    ∃ (page : Page) (after : Store) (later : σ), respond origins provider request store state =
        (nameOrigin origins request (.json 200 (visible page.toDocument)), after, later) ∧
      page.query = query ∧
      ∀ link, page.previous = some link ∨ page.next = some link → link ∈ store.queries

/-- Whether every post of ranks to the address of a query is taken as one for that query. -/
def TakesRanks (origins : Origins) (provider : Provider σ) (store : Store) (state : σ)
    (query : Query) : Prop :=
  ∀ request : Request, request.method = "POST" → request.path = ranksPath query.qid →
    respond origins provider request store state =
      (nameOrigin origins request (postRanks request query.qid store).1,
        (postRanks request query.qid store).2, state)

/-- A request that asks nothing beforehand is answered by where it is led. -/
theorem respond_of_answer {after : Store} {later : σ} {answer : Answer}
    (asks : request.method ≠ "OPTIONS")
    (h : Service.answer provider request store state = (answer, after, later)) :
    respond origins provider request store state =
      (nameOrigin origins request answer, after, later) := by
  have hquestion : Origins.question? request = none := by
    rw [Origins.question?, if_neg (by rw [beq_iff_eq]; exact asks)]
  simp only [respond, hquestion, h]

/-- A refusal leads to another address, finds nothing, or knows another method only. -/
theorem status_refusal (request : Request) (routing : Routing) :
    (refusal request routing).status ∈ [307, 404, 405] := by
  cases routing <;> simp [refusal, Answer.detail, Answer.json, Answer.redirect, Answer.text]

/-- A request that is led to no action is refused, and nothing changes. -/
theorem answer_of_unrouted (provider : Provider σ) (store : Store) (state : σ)
    (h : ∀ action slug, dispatch request.method request.path ≠ .action action slug) :
    ∃ refused, Service.answer provider request store state = (refused, store, state) ∧
      refused.status ∈ [307, 404, 405] := by
  have hrefused : ∀ routing, dispatch request.method request.path = routing →
      Service.answer provider request store state =
        (if request.method == "HEAD" then (refusal request routing).headOnly
          else refusal request routing, store, state) := by
    rintro routing rfl
    unfold Service.answer
    split
    · next action slug hrouting => exact absurd hrouting (h action slug)
    · rfl
  refine ⟨_, hrefused _ rfl, ?_⟩
  split
  · exact status_refusal request _
  · exact status_refusal request _

/-- What a request that is led to no action is answered is a refusal. -/
theorem status_of_unrouted (request : Request) {after : Store} {later : σ} {answer : Answer}
    (asks : request.method ≠ "OPTIONS")
    (unrouted : ∀ action slug, dispatch request.method request.path ≠ .action action slug)
    (h : respond origins provider request store state =
      (nameOrigin origins request answer, after, later)) : answer.status ∈ [307, 404, 405] := by
  obtain ⟨refused, hanswer, hstatus⟩ := answer_of_unrouted provider store state unrouted
  rw [respond_of_answer asks hanswer, Prod.mk.injEq] at h
  have hsame := congrArg Answer.status h.1
  rw [status_nameOrigin, status_nameOrigin] at hsame
  exact hsame ▸ hstatus

/-- With a working provider the page of a stored query with a segment for its name is shown. -/
theorem showsPage_of_isSegment (works : provider.Works) (h : store.Presentable) {query : Query}
    (hm : query ∈ store.queries) (segment : IsSegment query.qid) :
    ShowsPage origins provider store state query := by
  intro request hmethod hpath
  have hrouting : dispatch request.method request.path = .action .showPage query.qid := by
    rw [hmethod, hpath]
    exact dispatch_pagePath_iff.mpr ⟨segment, rfl, rfl⟩
  obtain ⟨frame, hframe, hquery⟩ : ∃ frame, View.frame? store query.qid = some frame ∧
      frame.query = query :=
    ⟨_, by rw [View.frame?, Store.query?_of_mem h.names hm, Option.map_some], rfl⟩
  obtain ⟨outcome, after, later, hload⟩ : ∃ outcome after later,
      View.load provider query.qid store state = (outcome, after, later) := ⟨_, _, _, rfl⟩
  have hcourse := View.course_load provider query.qid store state
  rw [hload] at hcourse
  obtain ⟨results, rfl, hshowable⟩ := hcourse.found works h.showable hframe
  refine ⟨frame.page results, after, later, respond_of_answer (by rw [hmethod]; decide) ?_,
    hquery, ?_⟩
  · simp only [Service.answer, hrouting, act, showPage, hload, strictJson,
      frame.isStrict_page hshowable, if_true]
  · obtain ⟨front, rest, hsplit, -, hprevious, hnext⟩ := Store.frame?_eq_some hframe
    rintro link (hlink | hlink)
    · have hfront : link ∈ front := List.mem_of_getLast? (hprevious.symm.trans hlink)
      exact hsplit ▸ List.mem_append_left _ hfront
    · have hrest : link ∈ rest := List.mem_of_head? (hnext.symm.trans hlink)
      exact hsplit ▸ List.mem_append_right _ (List.mem_cons_of_mem _ hrest)

/-- Ranks of a query with a segment for its name are taken. -/
theorem takesRanks_of_isSegment {query : Query} (segment : IsSegment query.qid) :
    TakesRanks origins provider store state query := by
  intro request hmethod hpath
  have hrouting : dispatch request.method request.path = .action .postRanks query.qid := by
    rw [hmethod, hpath]
    exact dispatch_ranksPath_iff.mpr ⟨segment, rfl, rfl⟩
  refine respond_of_answer (by rw [hmethod]; decide) ?_
  simp only [Service.answer, hrouting, act]

/-- A request whose name is no segment is not shown the page. -/
theorem isSegment_of_showsPage {query : Query}
    (h : ShowsPage origins provider store state query) : IsSegment query.qid := by
  by_contra hsegment
  let request : Request := ⟨"GET", "http", pagePath query.qid, [], [], [], Json.usualNesting⟩
  obtain ⟨page, after, later, hshown, -⟩ := h request rfl rfl
  have hstatus := status_of_unrouted request (show "GET" ≠ "OPTIONS" by decide)
    (fun action slug hrouting => hsegment (dispatch_pagePath_iff.mp hrouting).1) hshown
  exact absurd hstatus (show 200 ∉ [307, 404, 405] by decide)

/-- A post of ranks whose name is no segment is not taken: not even one without a body is told what
is missing. -/
theorem isSegment_of_takesRanks {query : Query}
    (h : TakesRanks origins provider store state query) : IsSegment query.qid := by
  by_contra hsegment
  let request : Request := ⟨"POST", "http", ranksPath query.qid, [], [], [], Json.usualNesting⟩
  have hstatus := status_of_unrouted request (show "POST" ≠ "OPTIONS" by decide)
    (fun action slug hrouting => hsegment (dispatch_ranksPath_iff.mp hrouting).1)
    (h request rfl rfl)
  exact absurd hstatus (show 422 ∉ [307, 404, 405] by decide)

/-- Whatever was requested before, the page of a stored query is shown to those who ask for it
exactly if the name of the query is a segment, and exactly then are ranks taken for it. The links of
the page lead to stored queries, of which the same holds. -/
theorem shown_iff_isSegment (works : provider.Works) (origins : Origins) (state : σ)
    (requests : List Request) (query : Query)
    (stored : query ∈ (serve origins provider Store.empty state requests).1.queries) :
    (dispatch "GET" (pagePath query.qid) = .action .showPage query.qid ↔ IsSegment query.qid) ∧
      (dispatch "POST" (ranksPath query.qid) = .action .postRanks query.qid ↔
        IsSegment query.qid) ∧
      (ShowsPage origins provider (serve origins provider Store.empty state requests).1
        (serve origins provider Store.empty state requests).2 query ↔ IsSegment query.qid) ∧
      (TakesRanks origins provider (serve origins provider Store.empty state requests).1
        (serve origins provider Store.empty state requests).2 query ↔ IsSegment query.qid) := by
  have hpresentable := presentable_serve works Store.presentable_empty origins requests state
  refine ⟨?_, ?_, ⟨isSegment_of_showsPage, showsPage_of_isSegment works hpresentable stored⟩,
    ⟨isSegment_of_takesRanks, takesRanks_of_isSegment⟩⟩
  · rw [dispatch_pagePath_iff]
    exact ⟨And.left, fun segment => ⟨segment, rfl, rfl⟩⟩
  · rw [dispatch_ranksPath_iff]
    exact ⟨And.left, fun segment => ⟨segment, rfl, rfl⟩⟩

/-- A provider that answers every text with one record. -/
def steadyProvider : Provider Unit where
  search _ state := (.ok (.list [SearchResult.soleRecord (.text "u")]), state)

/-- A request that imports one query. -/
def importOf (qid text : String) : Request where
  method := "POST"
  scheme := "http"
  path := "/api/queries".toList
  query := []
  headers := []
  body := Encoding.toUtf8
    (Json.render (.list [.object [("qid", .text qid), ("query", .text text)]]))
  nesting := Json.usualNesting

theorem works_steadyProvider : steadyProvider.Works := by
  refine fun text state => ⟨_, rfl, fun qid => ?_, ?_⟩
  · exact (SearchResult.admissible_iff Store.empty).mpr
      ⟨_, _, SearchResult.build_soleRecord qid "u", Store.save_eq_ok.mpr
        ⟨List.forall_mem_singleton.mpr (SearchResult.storable_soleResult qid "u"), rfl⟩⟩
  · intro record hm page hpage
    rw [List.mem_singleton.mp hm] at hpage
    cases hpage
    rfl

/-- A name with a blank in it is a segment, so its page is shown and its ranks are taken. -/
theorem name_with_blank_is_shown :
    ⟨"a b", "x"⟩ ∈ (serve [] steadyProvider Store.empty () [importOf "a b" "x"]).1.queries ∧
      ShowsPage [] steadyProvider
        (serve [] steadyProvider Store.empty () [importOf "a b" "x"]).1 () ⟨"a b", "x"⟩ ∧
      TakesRanks [] steadyProvider
        (serve [] steadyProvider Store.empty () [importOf "a b" "x"]).1 () ⟨"a b", "x"⟩ := by
  have hstored : ⟨"a b", "x"⟩ ∈
      (serve [] steadyProvider Store.empty () [importOf "a b" "x"]).1.queries := by
    decide +kernel
  have hsegment : IsSegment "a b" := by decide
  obtain ⟨-, -, hshows, htakes⟩ := shown_iff_isSegment works_steadyProvider [] ()
    [importOf "a b" "x"] ⟨"a b", "x"⟩ hstored
  exact ⟨hstored, hshows.mpr hsegment, htakes.mpr hsegment⟩

/-- A name with a slash in it is imported, but nothing is found at the address of its page or of its
ranks, though the page of the query before it links there. -/
theorem name_with_slash_is_not_found :
    respond [] steadyProvider (importOf "a/b" "x") ⟨[⟨"a", "x"⟩], [], []⟩ () =
        (.json 200 (.object [("added", .int 1)]), ⟨[⟨"a", "x"⟩, ⟨"a/b", "x"⟩], [], []⟩, ()) ∧
      Store.next? ⟨[⟨"a", "x"⟩, ⟨"a/b", "x"⟩], [], []⟩ "a" = some ⟨"a/b", "x"⟩ ∧
      respond [] steadyProvider ⟨"GET", "http", pagePath "a/b", [], [], [], Json.usualNesting⟩
          ⟨[⟨"a", "x"⟩, ⟨"a/b", "x"⟩], [], []⟩ () =
        (.detail 404 "Not Found", ⟨[⟨"a", "x"⟩, ⟨"a/b", "x"⟩], [], []⟩, ()) ∧
      respond [] steadyProvider ⟨"POST", "http", ranksPath "a/b", [], [], [], Json.usualNesting⟩
          ⟨[⟨"a", "x"⟩, ⟨"a/b", "x"⟩], [], []⟩ () =
        (.detail 404 "Not Found", ⟨[⟨"a", "x"⟩, ⟨"a/b", "x"⟩], [], []⟩, ()) ∧
      dispatch "GET" (pagePath "a/b") ≠ .action .showPage "a/b" ∧
      dispatch "POST" (ranksPath "a/b") ≠ .action .postRanks "a/b" := by
  decide +kernel

end Service

end SearchAnnotation
