import SearchAnnotation.Proofs.JournalFacts
import SearchAnnotation.Proofs.ReadValues
import SearchAnnotation.Proofs.RecordShapes
import SearchAnnotation.Proofs.SearchEndings
import SearchAnnotation.Proofs.ViewCourses

/-!
# Faults from upstream

The view of a query without rows is meant to show a page, or to end with a fault of its provider.
The last reply to its search and the records that were found decide whether it does. It ends
otherwise if that reply leaves the client with a fault that is none of the provider's, and if one
of the records cannot become a result or its result cannot be stored.
-/

namespace SearchAnnotation

open Exchange (Jar Request Response Session Transport scripted)
open Exchange.Client (Answered Escapes Sendable)

namespace SearchResult

variable {qid : String} {records : List Value}

/-- What is asked of records that were read so that their results can be stored. -/
structure Acceptable (qid : String) (records : List Value) : Prop where
  /-- Each record can become a result. -/
  usable : ∀ record ∈ records, Usable record
  /-- No address has surrogates that stand alone. -/
  paired : ∀ record ∈ records, ¬HasUnpairedAddress record
  /-- The ranks of the results fit into sixty-four bits. -/
  few : ∀ results, build qid records = .ok results → results.length ≤ 9223372036854775808

/-- What is asked of any records so that their results can be stored. -/
structure Admissible (qid : String) (records : List Value) : Prop
    extends Acceptable qid records where
  /-- The documents of the results have JSON texts. -/
  writable : ∀ results, build qid records = .ok results →
    ∀ result ∈ results, Json.isWritable result.webpage.toDocument = true

/-- Of records that can be written no more is asked. -/
theorem admissible_iff_acceptable (writable : ∀ record ∈ records, Json.isWritable record = true) :
    Admissible qid records ↔ Acceptable qid records := by
  refine ⟨Admissible.toAcceptable, fun h => ⟨h, fun results hbuild result hm => ?_⟩⟩
  obtain ⟨record, hrecord, hpage⟩ := (isBuilt_of_mem_buildFrom hbuild hm).page_of
  exact Webpage.isWritable_toDocument (writable record hrecord) hpage

/-- Just the records for which this holds have results that any store takes. -/
theorem admissible_iff (store : Store) : Admissible qid records ↔
    ∃ results saved, build qid records = .ok results ∧
      View.save store qid results = .ok saved := by
  constructor
  · intro h
    obtain ⟨results, hbuild⟩ : ∃ results, build qid records = .ok results :=
      buildFrom_ok_iff.mpr h.usable
    have htexts := (all_hasTextId_iff hbuild).mpr h.paired
    have hstorable := (storable_of_build hbuild).mpr
      ⟨List.all_eq_true.mp htexts, h.writable results hbuild, h.few results hbuild⟩
    exact ⟨results, _, hbuild, Store.save_eq_ok.mpr ⟨hstorable, rfl⟩⟩
  · rintro ⟨results, saved, hbuild, hsave⟩
    obtain ⟨htexts, hwritable, hfew⟩ := (storable_of_build hbuild).mp (Store.save_eq_ok.mp hsave).1
    have honly : ∀ {others}, build qid records = .ok others → others = results := fun hothers =>
      Except.ok.inj (hothers.symm.trans hbuild)
    have hacceptable : Acceptable qid records := ⟨buildFrom_ok_iff.mp ⟨results, hbuild⟩,
      (all_hasTextId_iff hbuild).mp (List.all_eq_true.mpr htexts),
      fun others hothers => honly hothers ▸ hfew⟩
    exact ⟨hacceptable, fun others hothers => honly hothers ▸ hwritable⟩

end SearchResult

/-- The webpages that a search gives were read, and so they can be written. -/
theorem SearchApi.writable_of_decided {api : SearchApi} {query : String} {exhausted : Prop}
    {now : Int} {jar : Jar} {last : Request} {reply : Exchange.Reply} {records : List Value}
    {result : Except SearchFault Value} {logs : List LogRecord}
    (h : api.SearchDecided query exhausted now jar last reply result logs)
    (hok : result = .ok (.list records)) : ∀ record ∈ records, Json.isWritable record = true := by
  subst hok
  cases h.searched_iff.mpr (h.listed rfl).1 with
  | webpages mapped hpages =>
    cases mapped with
    | text _ _ htext => cases htext
    | json _ _ _ hread =>
      have hanswer := Json.isWritable_of_readOctets hread
      unfold webpages? at hpages
      split at hpages
      · split at hpages
        · next fields items hget =>
          cases hpages
          rw [Json.isWritable] at hanswer
          have hlist := Fields.isWritable_get? hanswer hget
          rw [Json.isWritable] at hlist
          exact Json.isWritableItems_iff.mp hlist
        · cases hpages
      · cases hpages

namespace View

variable {σ : Type} {provider : Provider σ} {qid : String} {store after : Store} {state later : σ}
  {outcome : Except ViewFault (Lookup Page)} {query : Query}

/-- Whether a view ends as it is meant to: it shows a page, or its provider fails. -/
def EndsWell (outcome : Except ViewFault (Lookup Page)) : Prop :=
  (∃ page, outcome = .ok (.found page)) ∨
    ∃ why, outcome = .error (.search why) ∧ why.isMapped = true

/-- What comes of the view of a query without rows, by what was found for it. -/
inductive FirstView (qid : String) (found : Except SearchFault Value)
    (outcome : Except ViewFault (Lookup Page)) : Prop where
  /-- The search failed. -/
  | lost {why : SearchFault} : found = .error why → outcome = .error (.search why) →
      FirstView qid found outcome
  /-- One of the records cannot become a result. -/
  | unusable {records : List Value} {record : Value} {why : ShapeFault} :
      found = .ok (.list records) → record ∈ records → ¬SearchResult.Usable record →
      outcome = .error (.shape why) → FirstView qid found outcome
  /-- The results cannot be stored. -/
  | unstorable {records : List Value} {why : StoreFault} : found = .ok (.list records) →
      (∀ record ∈ records, SearchResult.Usable record) → ¬SearchResult.Admissible qid records →
      outcome = .error (.store why) → FirstView qid found outcome
  /-- The results are stored and shown. -/
  | shown {records : List Value} {page : Page} : found = .ok (.list records) →
      SearchResult.Admissible qid records → outcome = .ok (.found page) →
      FirstView qid found outcome

/-- A list of records gives no results if one of them cannot become a result. -/
theorem exists_unusable {records : List Value} {why : ShapeFault}
    (h : SearchResult.ofAnswer qid (.list records) = .error why) :
    ∃ record ∈ records, ¬SearchResult.Usable record := by
  by_contra hall
  have husable : ∀ record ∈ records, SearchResult.Usable record := by
    intro record hm
    by_contra hbad
    exact hall ⟨record, hm, hbad⟩
  obtain ⟨results, hbuild⟩ := SearchResult.buildFrom_ok_iff.mpr husable
  rw [SearchResult.ofAnswer_eq_ok.mpr ⟨records, rfl, hbuild⟩] at h
  cases h

/-- What cannot be saved is refused by the store. -/
theorem save_error_store {results : List SearchResult} {why : ViewFault}
    (h : save store qid results = .error why) : ∃ fault, why = .store fault := by
  obtain ⟨fault, -, rfl⟩ := Outcome.mapError_eq_error.mp h
  exact ⟨fault, rfl⟩

/-- The view of a query without rows ends by what is found for it, be it a list or a fault. -/
theorem Course.firstView (h : Course provider qid store state outcome after later)
    (stored : store.query? qid = some query) (uncached : store.rowsOf qid = [])
    (listed : ∀ answer, (provider.search query.text state).1 = .ok answer →
      ∃ records, answer = .list records) :
    FirstView qid (provider.search query.text state).1 outcome := by
  have framed : ∀ {frame : Frame}, frame? store qid = some frame →
      frame.query = query ∧ query.qid = qid := by
    intro frame hframe
    obtain ⟨hquery, hqid⟩ := query?_of_frame? hframe
    cases hquery.symm.trans stored
    exact ⟨rfl, hqid⟩
  have built : ∀ {frame : Frame} {results : List SearchResult} {next : σ},
      frame? store qid = some frame → fetch provider frame.query state = (.ok results, next) →
      ∃ records, (provider.search query.text state).1 = .ok (.list records) ∧
        SearchResult.build qid records = .ok results := by
    intro frame results next hframe hfetch
    obtain ⟨hquery, hqid⟩ := framed hframe
    obtain ⟨answer, hanswer, hbuilt⟩ := built_of_fetch hfetch
    rw [hquery] at hanswer hbuilt
    obtain ⟨records, rfl⟩ := listed answer hanswer
    obtain ⟨others, helements, hbuild⟩ := SearchResult.ofAnswer_eq_ok.mp hbuilt
    cases helements
    exact ⟨records, hanswer, hqid ▸ hbuild⟩
  cases h with
  | absent hnone =>
    rw [stored] at hnone
    cases hnone
  | cached _ hread hsome =>
    rw [Store.resultsOf_eq_nil.mpr uncached] at hread
    cases hread
    exact absurd rfl hsome
  | unreadable _ hread =>
    rw [Store.resultsOf_eq_nil.mpr uncached] at hread
    cases hread
  | lost hframe _ hfetch =>
    rw [(framed hframe).1] at hfetch
    rcases unbuilt_of_fetch hfetch with ⟨fault, hlost, rfl⟩ | ⟨answer, fault, hanswer, hbad, rfl⟩
    · exact .lost hlost rfl
    · obtain ⟨records, rfl⟩ := listed answer hanswer
      obtain ⟨record, hrecord, hunusable⟩ := exists_unusable hbad
      exact .unusable hanswer hrecord hunusable rfl
  | unsaved hframe _ hfetch hsave =>
    obtain ⟨records, hrecords, hbuild⟩ := built hframe hfetch
    obtain ⟨fault, rfl⟩ := save_error_store hsave
    refine .unstorable hrecords (SearchResult.buildFrom_ok_iff.mp ⟨_, hbuild⟩)
      (fun admissible => ?_) rfl
    obtain ⟨others, saved, hothers, hsaved⟩ := (SearchResult.admissible_iff store).mp admissible
    cases hbuild.symm.trans hothers
    cases hsave.symm.trans hsaved
  | filled hframe _ hfetch hsave =>
    obtain ⟨records, hrecords, hbuild⟩ := built hframe hfetch
    exact .shown hrecords ((SearchResult.admissible_iff store).mpr ⟨_, _, hbuild, hsave⟩) rfl

/-- A first view that has records ends well exactly if they can be stored. -/
theorem FirstView.endsWell_iff_admissible {records : List Value}
    (h : FirstView qid (.ok (.list records)) outcome) :
    EndsWell outcome ↔ SearchResult.Admissible qid records := by
  have apart : (∀ why, outcome ≠ .error (.search why)) → (∀ page, outcome ≠ .ok (.found page)) →
      ¬EndsWell outcome := by
    rintro hsearch hpage (⟨page, hshown⟩ | ⟨why, hlost, -⟩)
    · exact hpage page hshown
    · exact hsearch why hlost
  cases h with
  | lost hfound _ => cases hfound
  | unusable hfound hrecord hbad houtcome =>
    cases hfound
    refine iff_of_false (apart ?_ ?_) fun admissible => hbad (admissible.usable _ hrecord)
    all_goals rw [houtcome]; nofun
  | unstorable hfound _ hbad houtcome =>
    cases hfound
    refine iff_of_false (apart ?_ ?_) hbad
    all_goals rw [houtcome]; nofun
  | shown hfound hadmissible houtcome =>
    cases hfound
    exact iff_of_true (.inl ⟨_, houtcome⟩) hadmissible

/-- A first view that has a fault ends well exactly if a provider is meant to end with it. -/
theorem FirstView.endsWell_iff_isMapped {why : SearchFault}
    (h : FirstView qid (.error why) outcome) : EndsWell outcome ↔ why.isMapped = true := by
  cases h with
  | lost hfound houtcome =>
    cases hfound
    subst houtcome
    constructor
    · rintro (⟨page, hshown⟩ | ⟨other, hlost, hmapped⟩)
      · cases hshown
      · cases hlost
        exact hmapped
    · exact fun hmapped => .inr ⟨why, rfl, hmapped⟩
  | unusable hfound _ _ _ => cases hfound
  | unstorable hfound _ _ _ => cases hfound
  | shown hfound _ _ => cases hfound

/-- The last reply to its search and the records that were found decide the end of every first
view of a stored query: it shows a page, or ends with a fault of its provider, exactly if that
reply does not escape and all that was found can be stored. -/
theorem first_view_decided {σ : Type} (api : SearchApi) (transport : Transport σ) (store : Store)
    (qid : String) (query : Query) (jar : Jar) (now : Int) (source : σ) {request : Request}
    (stored : store.query? qid = some query) (uncached : store.rowsOf qid = [])
    (built : api.client.request jar (api.call query.text) = .ok request)
    (sendable : Sendable request) :
    ∃ report session last reply before,
      api.search transport.noted query.text ⟨jar, now, source, []⟩ = (report, session) ∧
        Answered report.requests session.transport.2 last reply ∧
        FirstView qid report.result
          (load (api.provider transport.noted) qid store ⟨jar, now, source, []⟩).1 ∧
        (EndsWell (load (api.provider transport.noted) qid store ⟨jar, now, source, []⟩).1 ↔
          ¬Escapes api.client (api.call query.text) now before last reply ∧
            ∀ records, report.result = .ok (.list records) →
              SearchResult.Acceptable qid records) := by
  obtain ⟨report, session, last, reply, before, hsearch, hanswered, hdecided⟩ :=
    api.decided_search transport query.text jar now source built sendable
  have hfound : ((api.provider transport.noted).search query.text ⟨jar, now, source, []⟩).1 =
      report.result := by
    simp only [SearchApi.provider, hsearch]
  have hview := (course_load (api.provider transport.noted) qid store
    ⟨jar, now, source, []⟩).firstView stored uncached fun _ hok =>
      (hdecided.listed (hfound.symm.trans hok)).2
  rw [hfound] at hview
  refine ⟨report, session, last, reply, before, hsearch, hanswered, hview, ?_⟩
  generalize (load (api.provider transport.noted) qid store ⟨jar, now, source, []⟩).1 = outcome
    at hview ⊢
  cases hresult : report.result with
  | error why =>
    rw [hresult] at hview
    rw [hview.endsWell_iff_isMapped, hdecided.isMapped_iff hresult]
    exact ⟨fun hfree => ⟨hfree, nofun⟩, And.left⟩
  | ok answer =>
    obtain ⟨hfree, records, rfl⟩ := hdecided.listed hresult
    have hwritable := SearchApi.writable_of_decided hdecided hresult
    rw [hresult] at hview
    rw [hview.endsWell_iff_admissible, SearchResult.admissible_iff_acceptable hwritable]
    refine ⟨fun hacceptable => ⟨hfree, fun others hothers => ?_⟩, fun h => h.2 records rfl⟩
    cases hothers
    exact hacceptable

/-- A search API at a fixed address. -/
def plainApi : SearchApi := ⟨"https://h.example", 100, true, Exchange.plainClient⟩

/-- The request that searches there for a text. -/
def plainSearch (text : String) : Request :=
  ⟨.post, ⟨"https".toList, [], "h.example".toList, none, [], none, none⟩,
    SearchApi.searchHeaders.normal, some (plainApi.payload text)⟩

theorem request_plainApi :
    plainApi.client.request [] (plainApi.call "x") = .ok (plainSearch "x") := rfl

/-- A store with one query and no rows. -/
def unviewed : Store := ⟨[⟨"q", "x"⟩], [], []⟩

/-- A success that has one record, an empty one. -/
def bareResponse : Response := ⟨200, [], Encoding.toUtf8 "\x7b\"webpages\":[\x7b\x7d]\x7d".toList⟩

/-- The only query is viewed for the first time, and the end of the view is decided. -/
theorem first_view_of_unviewed :
    unviewed.query? "q" = some ⟨"q", "x"⟩ ∧ unviewed.rowsOf "q" = [] ∧
      plainApi.client.request [] (plainApi.call "x") = .ok (plainSearch "x") ∧
      Sendable (plainSearch "x") ∧
      ∃ report session last reply before,
        plainApi.search (Transport.noted scripted) "x" ⟨[], 0, [.ok bareResponse], []⟩ =
            (report, session) ∧
          Answered report.requests session.transport.2 last reply ∧
          FirstView "q" report.result (load (plainApi.provider (Transport.noted scripted)) "q"
            unviewed ⟨[], 0, [.ok bareResponse], []⟩).1 ∧
          (EndsWell (load (plainApi.provider (Transport.noted scripted)) "q" unviewed
              ⟨[], 0, [.ok bareResponse], []⟩).1 ↔
            ¬Escapes plainApi.client (plainApi.call "x") 0 before last reply ∧
              ∀ records, report.result = .ok (.list records) →
                SearchResult.Acceptable "q" records) :=
  ⟨rfl, rfl, request_plainApi, ⟨_, rfl⟩,
    first_view_decided plainApi scripted unviewed "q" ⟨"q", "x"⟩ [] 0 [.ok bareResponse] rfl rfl
      request_plainApi ⟨_, rfl⟩⟩

theorem readOctets_bareResponse : Json.readOctets plainApi.client.nesting bareResponse.body =
    .ok (.object [("webpages", .list [.object []])]) := by
  have hread : (Json.readOctets plainApi.client.nesting bareResponse.body).toOption =
      some (.object [("webpages", .list [.object []])]) := by
    decide +kernel
  cases hvalue : Json.readOctets plainApi.client.nesting bareResponse.body with
  | error why =>
    rw [hvalue] at hread
    cases hread
  | ok value =>
    rw [hvalue] at hread
    exact congrArg Except.ok (Option.some.inj hread)

/-- A view can end with a fault that is none of its provider's: here the answer is a success whose
record has no address. -/
theorem bare_record_surfaces :
    (load (plainApi.provider scripted) "q" unviewed ⟨[], 0, [.ok bareResponse]⟩).1 =
        .error (.shape (.missing "url")) ∧
      ¬EndsWell (.error (.shape (.missing "url"))) := by
  have hstep : ∃ session, Exchange.Client.step scripted (plainSearch "x")
      ⟨[], 0, [.ok bareResponse]⟩ =
        (.error (.final (plainSearch "x") bareResponse), [plainSearch "x"], session) := ⟨_, rfl⟩
  obtain ⟨session, hstep⟩ := hstep
  have hconclude : plainApi.client.conclude (plainApi.call "x")
      (.final (plainSearch "x") bareResponse) =
        (.ok (.object [("webpages", .list [.object []])]), []) :=
    Exchange.Client.conclude_of_json rfl rfl readOctets_bareResponse
  have hsend : plainApi.client.send scripted (plainApi.call "x") ⟨[], 0, [.ok bareResponse]⟩ =
      (⟨.ok (.object [("webpages", .list [.object []])]), [plainSearch "x"], []⟩, session) := by
    rw [Exchange.Client.send_of_step request_plainApi hstep, hconclude]
  have hsearch : (plainApi.provider scripted).search "x" ⟨[], 0, [.ok bareResponse]⟩ =
      (.ok (.list [.object []]), session) := by
    simp only [SearchApi.provider, SearchApi.search_eq_judge hsend]
    rfl
  have hframe : frame? unviewed "q" = some ⟨⟨"q", "x"⟩, none, none⟩ := rfl
  have hcached : cached unviewed "q" = .ok [] := by
    rw [cached, Store.resultsOf_eq_nil.mpr rfl, Outcome.mapError_ok]
  constructor
  · simp only [load, hframe, results, hcached, fetch, hsearch]
    rfl
  · rintro (⟨page, hshown⟩ | ⟨why, hlost, -⟩)
    · cases hshown
    · cases hlost

end View

end SearchAnnotation
