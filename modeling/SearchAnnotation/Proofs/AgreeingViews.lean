import SearchAnnotation.Proofs.SharedSearch

/-!
# Views that agree

Once something is cached for a query, every view of it that ends shows the cached faces, in
whatever order views and posts go on. The view that has filled the cache shows what it has built;
this has the cached faces exactly if the built results have different ids and each is kept as it is.
Results from string addresses always have different ids. Two addresses that differ only in kind
share an id, and then the first view shows two results of which all later ones show one.
-/

namespace SearchAnnotation.View.Room

variable {σ : Type} {provider : Provider σ} {room start : Room σ} {qid : String}

/-- A view stays where it is unless it moves. -/
theorem visitor_step (provider : Provider σ) {i : Nat} {v : Visitor}
    (hv : room.visitors[i]? = some v) (event : Event) :
    ∃ w, (step provider room event).visitors[i]? = some w ∧
      (w = v ∨ ∃ after, Move provider room v.qid v.stage w.stage after) := by
  cases event with
  | visit index =>
    cases hm : room.visitors[index]? with
    | none =>
      rw [step_visit_of_none provider hm]
      exact ⟨v, hv, .inl rfl⟩
    | some moved =>
      obtain ⟨stage, after, hmove, hstep⟩ := step_visit provider hm
      rw [hstep]
      by_cases hi : index = i
      · subst hi
        cases hv.symm.trans hm
        refine ⟨{ v with stage }, ?_, .inr ⟨after, hmove⟩⟩
        exact List.getElem?_set_self (List.getElem?_eq_some_iff.mp hv).1
      · exact ⟨v, (List.getElem?_set_ne hi).trans hv, .inl rfl⟩
  | post index =>
    obtain ⟨store, posters, -, hstep⟩ := step_post provider room index
    rw [hstep]
    exact ⟨v, hv, .inl rfl⟩
  | forget other =>
    refine ⟨v, ?_, .inl rfl⟩
    simp only [step]
    split
    · exact hv
    · split
      · exact hv
      · exact hv

/-- A view that is over stays so. -/
theorem outcome_run (provider : Provider σ) {i : Nat} {v w : Visitor} {outcome}
    (hv : room.visitors[i]? = some v) (ended : v.stage.outcome? = some outcome)
    (events : List Event) (hw : (run provider room events).visitors[i]? = some w) :
    w.stage.outcome? = some outcome := by
  induction events generalizing room v with
  | nil =>
    cases hv.symm.trans hw
    exact ended
  | cons event rest ih =>
    obtain ⟨next, hnext, rfl | ⟨after, hmove⟩⟩ := visitor_step provider hv event
    · exact ih hnext ended hw
    · refine ih hnext ?_ hw
      exact hmove.ended ended

/-- Once something is cached, a view that ends with a page shows the cached faces. -/
theorem Orderly.shown_cached (o : Orderly provider qid room) (cache : room.store.rowsOf qid ≠ [])
    (events : List Event) {i : Nat} {v w : Visitor} {page : Page}
    (hv : room.visitors[i]? = some v) (unfinished : v.stage.outcome? = none)
    (hw : (run provider room events).visitors[i]? = some w)
    (finished : w.stage.outcome? = some (.ok (.found page))) :
    ∃ faces, room.store.facesOf qid = .ok faces ∧
      (page.results.map SearchResult.face).Perm faces := by
  -- The view moves at some event, the faces being the same then, and is over from there on.
  induction events generalizing room v with
  | nil =>
    cases hv.symm.trans hw
    rw [unfinished] at finished
    cases finished
  | cons event rest ih =>
    obtain ⟨hrows, -, hfaces⟩ := o.step_cached cache event
    rw [← hfaces]
    obtain ⟨next, hnext, rfl | ⟨after, hmove⟩⟩ := visitor_step provider hv event
    · exact ih (o.step_event event) hrows hnext unfinished hw
    · cases hout : next.stage.outcome? with
      | none => exact ih (o.step_event event) hrows hnext hout hw
      | some outcome =>
        have hover := outcome_run provider hnext hout rest hw
        rw [finished] at hover
        rw [← hover] at hout
        rw [o.qid_eq hv] at hmove
        rcases hmove.shown unfinished hout with hsearch | ⟨frame, results, hresults, rfl⟩
        · rw [o.not_searches cache hv] at hsearch
          cases hsearch
        · rw [hfaces, Store.facesOf, hresults]
          exact ⟨_, rfl, (List.mergeSort_perm results SearchResult.precedes).map _⟩

/-- Whether the ids of all rows differ and views of one query have just arrived. -/
structure Opens (qid : String) (room : Room σ) : Prop where
  /-- The ids of all rows differ. -/
  keyed : room.store.Keyed
  /-- All views are of the query and have just arrived. -/
  arrived : ∀ v ∈ room.visitors, v = ⟨qid, .arrived⟩

theorem Opens.orderly (opens : Opens qid start) : Orderly provider qid start := by
  have harrived : ∀ {i : Nat} {v : Visitor}, start.visitors[i]? = some v → v = ⟨qid, .arrived⟩ :=
    fun hv => opens.arrived _ (List.mem_of_getElem? hv)
  constructor
  case keyed => exact opens.keyed
  case qid_eq =>
    intro i v hv
    rw [harrived hv]
  case registered =>
    intro i v lock hv hlock
    rw [harrived hv] at hlock
    cases hlock
  case exclusive =>
    intro i j v w hv hw hheld
    rw [harrived hv] at hheld
    exact absurd rfl hheld
  case uncached =>
    intro i v hv hsearch
    rw [harrived hv] at hsearch
    cases hsearch
  case searched =>
    intro i v frame lock results hv hsaving
    rw [harrived hv] at hsaving
    cases hsaving

/-- Whether no two views hold a lock, as they do from the second look into the cache to the end
of the commit. -/
def Exclusive (room : Room σ) : Prop :=
  ∀ (i j : Nat) (v w : Visitor), room.visitors[i]? = some v → room.visitors[j]? = some w →
    v.stage.held? ≠ none → w.stage.held? ≠ none → i = j

/-- Whether a page shows the faces that are cached for a query. -/
def Agrees (page : Page) (store : Store) (qid : String) : Prop :=
  ∃ faces, store.facesOf qid = .ok faces ∧
    ∀ face, face ∈ page.results.map SearchResult.face ↔ face ∈ faces

/-- What holds of everything that follows on a room in which results are cached. -/
structure Served (provider : Provider σ) (qid : String) (room : Room σ) : Prop where
  /-- No view searches or commits. -/
  quiet : ∀ (events : List Event) (i : Nat) (v : Visitor),
    (run provider room events).visitors[i]? = some v → v.stage.searches = false
  /-- The provider is not called. -/
  uncalled : ∀ events : List Event, (run provider room events).source = room.source
  /-- No view writes to the store, so that no view resets a rank. -/
  unwritten : ∀ (events : List Event) (index : Nat),
    (step provider (run provider room events) (.visit index)).store =
      (run provider room events).store
  /-- The cached faces stay. -/
  faces : ∀ events : List Event,
    (run provider room events).store.facesOf qid = room.store.facesOf qid
  /-- Every view that ends with a page agrees with the cache. -/
  agrees : ∀ (events : List Event) (i : Nat) (v w : Visitor) (page : Page),
    room.visitors[i]? = some v → v.stage.outcome? = none →
      (run provider room events).visitors[i]? = some w →
        w.stage.outcome? = some (.ok (.found page)) → Agrees page room.store qid

theorem Orderly.served (o : Orderly provider qid room) (cache : room.store.rowsOf qid ≠ []) :
    Served provider qid room where
  quiet events _ _ hv := (o.run_events events).not_searches (o.run_cached cache events).1 hv
  uncalled events := (o.run_cached cache events).2.1
  unwritten events index :=
    ((o.run_events events).visit_cached (o.run_cached cache events).1 index).1
  faces events := (o.run_cached cache events).2.2
  agrees events _ _ _ _ hv unfinished hw finished := by
    obtain ⟨faces, hfaces, hperm⟩ := o.shown_cached cache events hv unfinished hw finished
    exact ⟨faces, hfaces, fun face => hperm.mem_iff⟩

/-- Whether a provider answers with records that have string addresses, or not with records. -/
def AnswersStrings (provider : Provider σ) : Prop :=
  ∀ text state answer records, (provider.search text state).1 = .ok answer →
    answer.elements = .ok records → ∀ record ∈ records, SearchResult.HasStringAddress record

theorem arranged_of_searched {results : List SearchResult} (h : Searched provider results) :
    SearchResult.Arranged results := by
  obtain ⟨text, state, answer, name, -, hbuilt⟩ := h
  obtain ⟨records, -, hbuild⟩ := SearchResult.ofAnswer_eq_ok.mp hbuilt
  exact SearchResult.arranged_of_build hbuild

/-- Results from string addresses have different ids. -/
theorem nodup_ids_of_searched {results : List SearchResult} (strings : AnswersStrings provider)
    (h : Searched provider results) : (results.map SearchResult.id).Nodup := by
  obtain ⟨text, state, answer, name, hanswer, hbuilt⟩ := h
  obtain ⟨records, helements, hbuild⟩ := SearchResult.ofAnswer_eq_ok.mp hbuilt
  exact SearchResult.nodup_ids_of_build (strings text state answer records hanswer helements)
    hbuild

/-- The view that fills the cache agrees with it exactly if the ids of what it saves differ and each
result is kept as it is. -/
theorem Orderly.commit_agrees_iff (o : Orderly provider qid room) {index : Nat} {v : Visitor}
    {frame : Frame} {lock : Nat} {results : List SearchResult} {saved : Store}
    (hv : room.visitors[index]? = some v) (saving : v.stage = .saving frame lock results)
    (save : save room.store qid results = .ok saved) :
    Agrees (frame.page results) saved qid ↔ (results.map SearchResult.id).Nodup ∧
      ∀ result ∈ results, Store.kept room.store.results result = result := by
  have hnone : room.store.rowsOf qid = [] := o.uncached hv (by rw [saving]; rfl)
  rw [← Store.facesOf_save_iff o.keyed hnone (arranged_of_searched (o.searched hv saving)) save]
  have hperm : ((frame.page results).results.map SearchResult.face).Perm
      (results.map SearchResult.face) :=
    (List.mergeSort_perm results SearchResult.precedes).map _
  simp only [Agrees, hperm.mem_iff]

/-- The commit of a view ends it with the page of what it has saved. -/
theorem step_commit (provider : Provider σ) {index : Nat} {v : Visitor} {frame : Frame}
    {lock : Nat} {results : List SearchResult} {saved : Store}
    (hv : room.visitors[index]? = some v) (saving : v.stage = .saving frame lock results)
    (save : save room.store v.qid results = .ok saved) :
    step provider room (.visit index) =
      { room with
        store := saved
        visitors := room.visitors.set index
          { v with stage := .finished (.ok (.found (frame.page results))) } } := by
  simp only [step, hv, advance, saving, save]

/-- In whatever order any number of views of a query and posts of ranks go on, no two views hold
a lock; once something is cached the provider is not called, no view writes, and every view that
ends shows the cached faces; and the view that has filled the cache shows them too exactly if the
results that it has saved have different ids, as they do if addresses are strings, and each of them
is kept as it is: where no stored row has the id of a result, this is so just if its document
survives as JSON text. -/
theorem served_and_agrees_iff (opens : Opens qid start) (events : List Event) :
    Exclusive (run provider start events) ∧
      ((run provider start events).store.rowsOf qid ≠ [] →
        Served provider qid (run provider start events)) ∧
      ∀ (index : Nat) (v : Visitor) (frame : Frame) (lock : Nat) (results : List SearchResult)
        (saved : Store), (run provider start events).visitors[index]? = some v →
        v.stage = .saving frame lock results → results ≠ [] →
        save (run provider start events).store qid results = .ok saved →
          Served provider qid (step provider (run provider start events) (.visit index)) ∧
          (step provider (run provider start events) (.visit index)).store = saved ∧
          (step provider (run provider start events) (.visit index)).visitors[index]? =
            some ⟨qid, .finished (.ok (.found (frame.page results)))⟩ ∧
          (Agrees (frame.page results) saved qid ↔ (results.map SearchResult.id).Nodup ∧
            ∀ result ∈ results,
              Store.kept (run provider start events).store.results result = result) ∧
          (AnswersStrings provider → (results.map SearchResult.id).Nodup) ∧
          ∀ result ∈ results,
            (∀ row ∈ (run provider start events).store.results, row.id ≠ result.key) →
              (Store.kept (run provider start events).store.results result = result ↔
                result.webpage.toDocument.survives = true) := by
  have o : Orderly provider qid (run provider start events) := opens.orderly.run_events events
  refine ⟨fun i j v w hv hw hheld hheld' => o.exclusive hv hw hheld hheld', o.served, ?_⟩
  intro index v frame lock results saved hv hsaving hsome hsave
  have hstep := step_commit provider hv hsaving (by rw [o.qid_eq hv]; exact hsave)
  have hcache :
      (step provider (run provider start events) (.visit index)).store.rowsOf qid ≠ [] := by
    rw [hstep]
    exact Store.rowsOf_ne_nil_of_save hsome hsave
  refine ⟨(o.visit index).served hcache, by rw [hstep], ?_, o.commit_agrees_iff hv hsaving hsave,
    fun strings => nodup_ids_of_searched strings (o.searched hv hsaving), ?_⟩
  · rw [hstep, ← o.qid_eq hv]
    exact List.getElem?_set_self (List.getElem?_eq_some_iff.mp hv).1
  · intro result _ new
    rw [Store.kept_of_new fun row hm he => absurd he (new row hm),
      SearchResult.reread_eq_self_iff, Webpage.reread_eq_self_iff]

/-- A provider that always answers two addresses, a number and the text that shows it. -/
def twins : Provider Unit where
  search _ _ :=
    (.ok (.list [SearchResult.soleRecord (.int 1), SearchResult.soleRecord (.text "1")]), ())

/-- Two views of a query of which nothing is cached. -/
def twoViews : Room Unit := enter ⟨[⟨"q", "x"⟩], [], []⟩ () ["q", "q"]

/-- A result of the twins. -/
def twin (url : Value) (rank : Int) : SearchResult :=
  { SearchResult.soleResult "q" url with origRank := rank }

/-- The frame of the only query. -/
def soleFrame : Frame := ⟨⟨"q", "x"⟩, none, none⟩

/-- The first view goes on until it has built its results. -/
def firstSearch : List Event := List.replicate 5 (.visit 0)

/-- The first view goes all the way to its commit. -/
def firstView : List Event := firstSearch ++ [.visit 0]

/-- The second view looks into the cache. -/
def secondView : List Event := List.replicate 2 (.visit 1)

theorem opens_twoViews : Opens "q" twoViews := by
  refine ⟨List.Pairwise.nil, fun v hm => ?_⟩
  simpa only [twoViews, enter, List.map_cons, List.map_nil, List.mem_cons, List.not_mem_nil,
    or_false, or_self] using hm

/-- What a view is about to commit. -/
def saving? : Stage → Option (Frame × Nat × List SearchResult)
  | .saving frame lock results => some (frame, lock, results)
  | _ => none

theorem saving?_eq_some {stage : Stage} {frame : Frame} {lock : Nat}
    {results : List SearchResult} (h : saving? stage = some (frame, lock, results)) :
    stage = .saving frame lock results := by
  cases stage <;> cases h
  rfl

/-- The first view is about to commit both results. -/
theorem saving_firstSearch : ∃ v, (run twins twoViews firstSearch).visitors[0]? = some v ∧
    v.stage = .saving soleFrame 0 [twin (.int 1) 0, twin (.text "1") 1] := by
  have hsaving : (run twins twoViews firstSearch).visitors[0]?.bind (fun v => saving? v.stage) =
      some (soleFrame, 0, [twin (.int 1) 0, twin (.text "1") 1]) := by decide +kernel
  obtain ⟨v, hv, hstage⟩ := Option.bind_eq_some_iff.mp hsaving
  exact ⟨v, hv, saving?_eq_some hstage⟩

/-- The second one of them is all that is cached then. -/
theorem results_firstView : (run twins twoViews firstView).store.results =
    [ResultRow.ofResult "q" (twin (.text "1") 1)] := by
  decide +kernel

/-- The first view ends with both results, and the cache does not agree with it. -/
theorem firstView_disagrees :
    (run twins twoViews firstView).visitors[0]?.bind (fun v => v.stage.outcome?) =
        some (.ok (.found (soleFrame.page [twin (.int 1) 0, twin (.text "1") 1]))) ∧
      ¬Agrees (soleFrame.page [twin (.int 1) 0, twin (.text "1") 1])
        (run twins twoViews firstView).store "q" := by
  have o : Orderly twins "q" (run twins twoViews firstSearch) :=
    opens_twoViews.orderly.run_events firstSearch
  obtain ⟨v, hv, hsaving⟩ := saving_firstSearch
  have hqid : v.qid = "q" := o.qid_eq hv
  obtain ⟨saved, hsave⟩ : ∃ saved, save (run twins twoViews firstSearch).store "q"
      [twin (.int 1) 0, twin (.text "1") 1] = .ok saved :=
    ⟨_, Store.save_eq_ok.mpr ⟨by decide +kernel, rfl⟩⟩
  have hstep := step_commit twins hv hsaving (by rw [hqid]; exact hsave)
  have hrun : run twins twoViews firstView =
      step twins (run twins twoViews firstSearch) (.visit 0) := List.foldl_append
  rw [hrun, hstep]
  constructor
  · rw [List.getElem?_set_self (List.getElem?_eq_some_iff.mp hv).1]
    rfl
  · intro hagrees
    exact absurd ((o.commit_agrees_iff hv hsaving hsave).mp hagrees).1 (by decide)

/-- Once the first view has filled the cache the room is served. -/
theorem served_firstView :
    Opens "q" twoViews ∧ Served twins "q" (run twins twoViews firstView) := by
  refine ⟨opens_twoViews, (served_and_agrees_iff opens_twoViews firstView).2.1 ?_⟩
  rw [Store.rowsOf, results_firstView]
  exact List.cons_ne_nil _ _

/-- The first view of two addresses with one id shows two results, and the second view, which
comes after the first one has filled the cache, shows only one of them. -/
theorem views_of_twins_disagree :
    Opens "q" twoViews ∧
      (run twins twoViews firstView).visitors[0]?.bind (fun v => v.stage.outcome?) =
        some (.ok (.found (soleFrame.page [twin (.int 1) 0, twin (.text "1") 1]))) ∧
      (run twins twoViews (firstView ++ secondView)).visitors[1]?.bind
          (fun v => v.stage.outcome?) =
        some (.ok (.found (soleFrame.page [twin (.text "1") 1]))) ∧
      (twin (.int 1) 0).face ∈ (soleFrame.page [twin (.int 1) 0,
        twin (.text "1") 1]).results.map SearchResult.face ∧
      (twin (.int 1) 0).face ∉
        (soleFrame.page [twin (.text "1") 1]).results.map SearchResult.face ∧
      ¬Agrees (soleFrame.page [twin (.int 1) 0, twin (.text "1") 1])
        (run twins twoViews firstView).store "q" := by
  have hfirst : (twin (.int 1) 0).face ∈ (soleFrame.page [twin (.int 1) 0,
      twin (.text "1") 1]).results.map SearchResult.face :=
    List.mem_map_of_mem ((List.mergeSort_perm _ _).mem_iff.mpr List.mem_cons_self)
  have hlater : (twin (.int 1) 0).face ∉ [twin (.text "1") 1].map SearchResult.face := by decide
  obtain ⟨hshown, hdisagrees⟩ := firstView_disagrees
  refine ⟨opens_twoViews, hshown, by decide +kernel, hfirst, fun hm => ?_, hdisagrees⟩
  exact hlater (((List.mergeSort_perm _ _).map _).mem_iff.mp hm)

end SearchAnnotation.View.Room
