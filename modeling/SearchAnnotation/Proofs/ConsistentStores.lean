import SearchAnnotation.Proofs.JournalFacts
import SearchAnnotation.Proofs.ViewCourses
import SearchAnnotation.Provider.Rehearsed

/-!
# Consistent stores

A store that starts empty stays consistent whatever is done with it, one call after the other.
Names of queries and ids of rows are keys, each row belongs to a stored query and is named after it
and after an address that counts as the one of the page it stores, and no two rows of a query share
an original rank. The last is owed to the fact that results are saved only under a query without
rows: a batch may repeat an id, and it may take over rows of other queries, but it meets no row of
its own query. A row that is taken over may keep a document that equals the new one, so the address
that it is named after may be spelled differently in its page.
-/

namespace SearchAnnotation

/-- What holds of each stored row on its own. -/
structure ResultRow.Wellformed (row : ResultRow) : Prop where
  /-- The row can be read, and its id joins its query's name and an address that counts as the one
  of its page. -/
  readable : ∃ result url, row.toResult = .ok result ∧
    SearchResult.sameAddress url result.webpage.url = true ∧
      (row.id : Name) = SearchResult.resultId row.qid url
  /-- The original rank is not negative. -/
  counted : 0 ≤ row.origRank
  /-- An annotated rank fits into sixty-four bits with a sign. -/
  fitting : ∀ rank, row.annotatedRank = some rank →
    -9223372036854775808 ≤ rank ∧ rank ≤ 9223372036854775807

namespace Store

/-- What holds of the store at all times. -/
structure Consistent (store : Store) : Prop where
  /-- No two queries share a name. -/
  names : store.knownNames.Nodup
  /-- No two rows share an id. -/
  keyed : store.Keyed
  /-- Each row belongs to a stored query. -/
  owned : ∀ row ∈ store.results, row.qid ∈ store.knownNames
  /-- Each row is well formed. -/
  wellformed : ∀ row ∈ store.results, row.Wellformed
  /-- No two rows of a query share an original rank. -/
  ranks : ∀ qid, ((store.rowsOf qid).map ResultRow.origRank).Nodup

variable {store saved : Store} {qid : String}

theorem consistent_empty : empty.Consistent where
  names := .nil
  keyed := .nil
  owned _ h := nomatch h
  wellformed _ h := nomatch h
  ranks _ := .nil

theorem rankFits_eq_true {rank : Option Int} : rankFits rank = true ↔
    ∀ value, rank = some value → -9223372036854775808 ≤ value ∧ value ≤ 9223372036854775807 := by
  simp only [rankFits, fits, Option.all_eq_true, Bool.and_eq_true, decide_eq_true_eq]

theorem Consistent.addQueries (c : store.Consistent) {batch : List PostedQuery} {count : Nat}
    (h : store.addQueries batch = .ok (saved, count)) : saved.Consistent := by
  have hnames := nodup_names_addQueries c.names h
  have hkept := queries_prefix_addQueries h
  obtain ⟨fresh, -, rfl, -⟩ := addQueries_eq_ok.mp h
  exact ⟨hnames, c.keyed, fun row hm => (hkept.map Query.qid).subset (c.owned row hm),
    c.wellformed, c.ranks⟩

/-- A row whose name, query and document stay and whose ranks fit is well formed still. -/
theorem wellformed_posted {ranks : Ranks} {row : ResultRow} (h : row.Wellformed)
    (fit : (posted qid ranks row).annotatedRank = row.annotatedRank ∨
      rankFits (posted qid ranks row).annotatedRank = true) :
    (posted qid ranks row).Wellformed := by
  obtain ⟨result, url, hread, hurl, hid⟩ := h.readable
  obtain ⟨document, page, hvalue, hpage, rfl⟩ := ResultRow.toResult_eq_ok.mp hread
  have hagain : (posted qid ranks row).value = .ok document := by
    rw [ResultRow.value, posted_document]
    exact hvalue
  refine ⟨⟨_, url, ResultRow.toResult_eq_ok.mpr ⟨document, page, hagain, hpage, rfl⟩, hurl, ?_⟩,
    ?_, ?_⟩
  · rw [posted_id, posted_qid]
    exact hid
  · rw [posted_origRank]
    exact h.counted
  · rcases fit with hsame | hfits
    · rw [hsame]
      exact h.fitting
    · exact rankFits_eq_true.mp hfits

theorem Consistent.saveAnnotations (c : store.Consistent) {ranks : Ranks} {count : Nat}
    (h : store.saveAnnotations qid ranks = .ok (saved, count)) : saved.Consistent := by
  obtain ⟨hfit, rfl, -⟩ := (saveAnnotations_eq_ok c.keyed).mp h
  refine ⟨c.names, keyed_rewritten c.keyed (posted_id qid ranks), ?_, ?_, fun other => ?_⟩
  · intro row hm
    obtain ⟨old, hold, rfl⟩ := List.mem_map.mp hm
    rw [posted_qid]
    exact c.owned old hold
  · intro row hm
    obtain ⟨old, hold, rfl⟩ := List.mem_map.mp hm
    exact wellformed_posted (c.wellformed old hold) (annotatedRank_posted hfit hold)
  · have hranks : ResultRow.origRank ∘ posted qid ranks = ResultRow.origRank :=
      funext (posted_origRank qid ranks)
    rw [rowsOf_rewritten (posted_qid qid ranks), List.map_map, hranks]
    exact c.ranks other

/-- A result that is kept has a page whose address counts as one that is shown like its own. -/
theorem exists_sameAddress_kept {records : List Value} {result : SearchResult}
    (rows : List ResultRow) (built : SearchResult.IsBuilt qid records result)
    (storable : result.Storable) :
    ∃ url, SearchResult.sameAddress url (kept rows result).webpage.url = true ∧
      result.id = SearchResult.resultId qid url := by
  rcases kept_reread_or_alike built.settled with hreread | halike
  · have hshown : (kept rows result).webpage.url = result.webpage.url.reread := by
      rw [hreread]
      rfl
    refine ⟨(kept rows result).webpage.url, ?_, ?_⟩
    · rw [SearchResult.sameAddress, beq_self_eq_true, Bool.true_or]
    · rw [built.id_eq, SearchResult.resultId, SearchResult.resultId, hshown,
        Value.displayCodes_reread built.key (built.hasTextId_iff.mp storable.text)]
  · refine ⟨result.webpage.url, ?_, built.id_eq⟩
    rw [SearchResult.sameAddress, ← Value.alike_of_isKey built.key]
    exact halike.url

/-- A row that is written for a built result is well formed. -/
theorem wellformed_rowFor {records : List Value} {results : List SearchResult}
    {result : SearchResult} (rows : List ResultRow)
    (built : SearchResult.build qid records = .ok results) (hm : result ∈ results)
    (storable : result.Storable) : (rowFor rows qid result).Wellformed := by
  have hresult := SearchResult.isBuilt_of_mem_buildFrom built hm
  obtain ⟨url, hurl, hid⟩ := exists_sameAddress_kept rows hresult storable
  have hread : (rowFor rows qid result).toResult = .ok (kept rows result) :=
    toResult_rowFor storable hresult.settled
  refine ⟨⟨kept rows result, url, hread, hurl, ?_⟩, ?_, ?_⟩
  · have hqid : (rowFor rows qid result).qid = qid := by
      rw [rowFor_eq]
      rfl
    rw [hqid, ← hid, id_rowFor, SearchResult.id_eq_key storable.text]
  · rw [origRank_rowFor]
    exact (SearchResult.rank_bounds_of_build built hm).1
  · have hrank : (rowFor rows qid result).annotatedRank = none := by
      rw [rowFor_eq]
      exact hresult.unranked
    rw [hrank]
    exact fun rank h => nomatch h

/-- The rows after a saving are those of the saved results and earlier ones. -/
theorem mem_results_of_save {results : List SearchResult} {row : ResultRow}
    (h : View.save store qid results = .ok saved) (hm : row ∈ saved.results) :
    (∃ result ∈ results, ∃ rows, row = rowFor rows qid result) ∨ row ∈ store.results := by
  rw [results_of_save h] at hm
  exact (mem_or_mem_of_mem_upsertAll _ hm).imp_left exists_of_mem_written

/-- Saved results give a query without rows different original ranks, even if they share ids. -/
theorem nodup_ranks_of_save {records : List Value} {results : List SearchResult}
    (keyed : store.Keyed) (uncached : store.rowsOf qid = [])
    (built : SearchResult.build qid records = .ok results)
    (h : View.save store qid results = .ok saved) :
    ((saved.rowsOf qid).map ResultRow.origRank).Nodup := by
  have hkeyed : saved.Keyed := keyed_of_save keyed h
  have hrows : (saved.rowsOf qid).Nodup := hkeyed.of_map.filter _
  have hwritten : ∀ row ∈ saved.rowsOf qid,
      ∃ result ∈ results, row.id = result.key ∧ row.origRank = result.origRank := by
    intro row hm
    obtain ⟨hrow, hqid⟩ := mem_rowsOf.mp hm
    rcases mem_results_of_save h hrow with ⟨result, hresult, rows, rfl⟩ | hold
    · exact ⟨result, hresult, id_rowFor rows qid result, origRank_rowFor rows qid result⟩
    · have hnone : row ∈ store.rowsOf qid := mem_rowsOf.mpr ⟨hold, hqid⟩
      rw [uncached] at hnone
      cases hnone
  have hapart : (results.map SearchResult.origRank).Nodup :=
    List.pairwise_map.mpr ((SearchResult.ranks_increase_of_build built).imp Int.ne_of_lt)
  -- Rows with one rank were written for one result, so they have one id and are one row.
  refine hrows.map_on fun a ha b hb he => ?_
  obtain ⟨first, hfirst, hida, hranka⟩ := hwritten a ha
  obtain ⟨second, hsecond, hidb, hrankb⟩ := hwritten b hb
  have hsame : first = second := List.inj_on_of_nodup_map hapart hfirst hsecond
    (hranka.symm.trans (he.trans hrankb))
  refine eq_of_id_eq hkeyed (mem_rowsOf.mp ha).1 (mem_rowsOf.mp hb).1 ?_
  rw [hida, hidb, hsame]

theorem Consistent.save (c : store.Consistent) {records : List Value}
    {results : List SearchResult} (known : qid ∈ store.knownNames)
    (uncached : store.rowsOf qid = []) (built : SearchResult.build qid records = .ok results)
    (h : View.save store qid results = .ok saved) : saved.Consistent := by
  have hstorable := (save_eq_ok.mp h).1
  have hqueries : saved.knownNames = store.knownNames := by
    rw [knownNames, (tables_of_save h).1, knownNames]
  refine ⟨hqueries ▸ c.names, keyed_of_save c.keyed h, ?_, ?_, fun other => ?_⟩
  · intro row hm
    rw [hqueries]
    rcases mem_results_of_save h hm with ⟨result, -, rows, rfl⟩ | hold
    · rw [rowFor_eq]
      exact known
    · exact c.owned row hold
  · intro row hm
    rcases mem_results_of_save h hm with ⟨result, hresult, rows, rfl⟩ | hold
    · exact wellformed_rowFor rows built hresult (hstorable result hresult)
    · exact c.wellformed row hold
  · by_cases hother : other = qid
    · rw [hother]
      exact nodup_ranks_of_save c.keyed uncached built h
    · rw [rowsOf_other_of_save c.keyed h hother]
      exact (c.ranks other).sublist (List.filter_sublist.map ResultRow.origRank)

/-- A view of a consistent store leaves a consistent store with the same queries. -/
theorem Consistent.load {σ : Type} {provider : Provider σ} {state later : σ}
    {outcome : Except ViewFault (Lookup Page)} (c : store.Consistent)
    (h : View.Course provider qid store state outcome saved later) :
    saved.Consistent ∧ saved.queries = store.queries := by
  rcases h.store_eq with rfl | ⟨frame, answer, results, hframe, hnone, -, hbuilt, hsave, -⟩
  · exact ⟨c, rfl⟩
  · obtain ⟨hquery, hqid⟩ := View.query?_of_frame? hframe
    have hknown : qid ∈ store.knownNames :=
      List.mem_map.mpr ⟨frame.query, List.mem_of_find?_eq_some hquery, hqid⟩
    obtain ⟨records, -, hbuild⟩ := SearchResult.ofAnswer_eq_ok.mp hbuilt
    exact ⟨c.save hknown hnone hbuild hsave, (tables_of_save hsave).1⟩

end Store

namespace Session

variable {σ : Type} {session : Session σ}

/-- Each call keeps the store consistent and each stored query in its place. -/
theorem consistent_step (provider : Provider σ) (c : session.store.Consistent) (call : Call) :
    (step provider session call).store.Consistent ∧
      session.store.queries <+: (step provider session call).store.queries := by
  cases call with
  | addQueries batch =>
    simp only [step]
    cases himport : session.store.addQueries batch with
    | error why => exact ⟨c, List.prefix_rfl⟩
    | ok imported =>
      obtain ⟨store, count⟩ := imported
      exact ⟨c.addQueries himport, Store.queries_prefix_addQueries himport⟩
  | loadPage qid =>
    obtain ⟨hlater, hqueries⟩ := c.load
      (View.course_load provider.noted qid session.store (session.source, []))
    exact ⟨hlater, hqueries ▸ List.prefix_rfl⟩
  | saveAnnotations qid ranks =>
    simp only [step]
    cases hpost : session.store.saveAnnotations qid ranks with
    | error why => exact ⟨c, List.prefix_rfl⟩
    | ok saved =>
      obtain ⟨store, count⟩ := saved
      obtain ⟨-, hstore, -⟩ := (Store.saveAnnotations_eq_ok c.keyed).mp hpost
      refine ⟨c.saveAnnotations hpost, ?_⟩
      rw [hstore]
      exact List.prefix_rfl
  | saveExperiment query variantA variantB data =>
    exact ⟨⟨c.names, c.keyed, c.owned, c.wellformed, c.ranks⟩, List.prefix_rfl⟩
  | clearExperiments =>
    exact ⟨⟨c.names, c.keyed, c.owned, c.wellformed, c.ranks⟩, List.prefix_rfl⟩

/-- Calls in a row keep the store consistent and each stored query in its place. -/
theorem consistent_run (provider : Provider σ) (c : session.store.Consistent)
    (calls : List Call) :
    (run provider session calls).store.Consistent ∧
      session.store.queries <+: (run provider session calls).store.queries := by
  induction calls generalizing session with
  | nil => exact ⟨c, List.prefix_rfl⟩
  | cons call rest ih =>
    obtain ⟨hstep, hkept⟩ := consistent_step provider c call
    obtain ⟨hrun, hrest⟩ := ih hstep
    exact ⟨hrun, hkept.trans hrest⟩

/-- Every session's store is consistent, and whatever is called later leaves the stored queries with
their texts at the head of the chain, each in its place. -/
theorem consistent_of_opened (provider : Provider σ) (source : σ) (calls more : List Call) :
    (run provider (opened source) calls).store.Consistent ∧
      (run provider (opened source) calls).store.queries <+:
        (run provider (opened source) (calls ++ more)).store.queries := by
  have hopened : (opened source).store.Consistent := Store.consistent_empty
  have hnow := (consistent_run provider hopened calls).1
  have happend : run provider (opened source) (calls ++ more) =
      run provider (run provider (opened source) calls) more := List.foldl_append
  rw [happend]
  exact ⟨hnow, (consistent_run provider hnow more).2⟩

/-- Two queries are viewed. The answers have the address zero, first without a sign and then with
one, so the names of the queries make up for the sign. -/
def zeros : Session (Rehearsal (Except SearchFault Value)) :=
  run Provider.rehearsed
    (opened ⟨[("first", [.ok (.list [SearchResult.soleRecord (.float (.zero false))])]),
      ("second", [.ok (.list [SearchResult.soleRecord (.float (.zero true))])])], []⟩)
    [.addQueries [⟨some "x-", some "first"⟩, ⟨some "x", some "second"⟩], .loadPage "x-",
      .loadPage "x"]

/-- The page with the address zero and nothing else. -/
def zeroPage : Webpage := ⟨.float (.zero false), .text "", .null, .null, .null, .null, []⟩

/-- The row that is taken over keeps its document, since the zeros are equal, and so the address of
its page does not give its id. -/
theorem taken_row_keeps_its_address :
    ∃ row ∈ zeros.store.results, ∃ result, row.toResult = .ok result ∧
      row.id = "x--0.0" ∧ row.qid = "x" ∧ result.webpage = zeroPage ∧
      (row.id : Name) ≠ SearchResult.resultId row.qid result.webpage.url := by
  refine ⟨⟨"x--0.0", "x", 0, none, Json.render zeroPage.toDocument⟩, ?_,
    ⟨"x--0.0", 0, none, zeroPage⟩, ?_, rfl, rfl, rfl, ?_⟩
  · decide +kernel
  · decide +kernel
  · decide +kernel

end Session

end SearchAnnotation
