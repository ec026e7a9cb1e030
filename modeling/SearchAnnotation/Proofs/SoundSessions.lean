import SearchAnnotation.Proofs.ChainLinks
import SearchAnnotation.Proofs.JournalFacts

/-!
# Sessions keep to their journals

In every session the store agrees with the journal: the chain is the imported one, and the rows of
each query are those of what was stored for it. Each call keeps this and adds an entry that says
what it has to say. A view is the only call that needs an argument: it shows what is cached, or it
stores and shows the first answer that can be stored, or it leaves the store alone.
-/

namespace SearchAnnotation.Session

open Journal

variable {σ : Type} {provider : Provider σ} {session : Session σ} {qid : String}

/-- Whether the store agrees with the journal, and the journal with itself. -/
structure Sound (session : Session σ) : Prop where
  /-- The chain was imported. -/
  queries : session.store.queries = chain session.journal
  /-- The ids of all rows differ. -/
  keyed : session.store.Keyed
  /-- The rows of each query are those of what was stored for it. -/
  rows : ∀ qid, (session.store.rowsOf qid).Perm
    ((stored qid session.journal).map (ResultRow.ofResult qid))
  /-- Each entry says what it has to say. -/
  lawful : ∀ {later past entry}, session.journal = later ++ entry :: past → EntryLawful past entry

theorem sound_opened (source : σ) : Sound (opened source) where
  queries := rfl
  keyed := .nil
  rows _ := .nil
  lawful h := absurd h (List.append_ne_nil_of_right_ne_nil _ (List.cons_ne_nil _ _)).symm

/-- A query's results are what is cached. -/
theorem Sound.resultsOf_eq (s : Sound session) (qid : String) :
    session.store.resultsOf qid = .ok (cached qid session.journal) := by
  have harranged := arranged_stored qid session.journal
  refine Store.resultsOf_of_perm (s.rows qid) harranged.increase fun result hm => ?_
  obtain ⟨htext, hwritable⟩ := writable_of_mem_stored hm
  exact ResultRow.toResult_ofResult htext hwritable (harranged.settled result hm)

/-- A new entry leaves the earlier ones as they are. -/
theorem Sound.lawful_cons (s : Sound session) {entry : Entry}
    (new : EntryLawful session.journal entry) {later past : Journal} {other : Entry}
    (h : entry :: session.journal = later ++ other :: past) : EntryLawful past other := by
  cases later with
  | nil =>
    obtain ⟨rfl, rfl⟩ := List.cons.inj h
    exact new
  | cons first rest => exact s.lawful (List.cons.inj h).2

theorem Sound.addQueries (s : Sound session) (batch : List PostedQuery) :
    Sound (step provider session (.addQueries batch)) := by
  simp only [step]
  cases himport : session.store.addQueries batch with
  | error why =>
    obtain ⟨hnone, -⟩ := Store.addQueries_eq_error.mp himport
    refine ⟨s.queries, s.keyed, s.rows, s.lawful_cons ?_⟩
    exact exists_of_newQueries?_eq_none hnone
  | ok imported =>
    obtain ⟨store, count⟩ := imported
    have hqueries := queries_addQueries himport
    obtain ⟨fresh, -, rfl, -⟩ := Store.addQueries_eq_ok.mp himport
    refine ⟨?_, s.keyed, s.rows, s.lawful_cons (by trivial)⟩
    rw [hqueries, s.queries]
    rfl

theorem Sound.saveExperiment (s : Sound session) (query variantA variantB : String)
    (data : Value) :
    Sound (step provider session (.saveExperiment query variantA variantB data)) where
  queries := s.queries
  keyed := s.keyed
  rows := s.rows
  lawful := s.lawful_cons (by trivial)

theorem Sound.clearExperiments (s : Sound session) :
    Sound (step provider session .clearExperiments) where
  queries := s.queries
  keyed := s.keyed
  rows := s.rows
  lawful := s.lawful_cons (by trivial)

theorem Sound.saveAnnotations (s : Sound session) (qid : String) (ranks : Store.Ranks) :
    Sound (step provider session (.saveAnnotations qid ranks)) := by
  simp only [step]
  cases hp : session.store.saveAnnotations qid ranks with
  | error why => exact ⟨s.queries, s.keyed, s.rows, s.lawful_cons (by trivial)⟩
  | ok saved =>
    obtain ⟨store, count⟩ := saved
    obtain ⟨-, hstore, -⟩ := (Store.saveAnnotations_eq_ok s.keyed).mp hp
    rw [hstore]
    refine ⟨s.queries, Store.keyed_rewritten s.keyed (Store.posted_id qid ranks), fun p => ?_,
      s.lawful_cons (by trivial)⟩
    have hrows := (s.rows p).map (Store.posted qid ranks)
    rw [Store.rowsOf_rewritten (Store.posted_qid qid ranks)]
    by_cases hq : qid = p
    · subst hq
      rw [stored_posted]
      exact hrows
    · rw [stored_posted_of_ne hq]
      have hother : ∀ row ∈ (stored p session.journal).map (ResultRow.ofResult p),
          Store.posted qid ranks row = id row := by
        intro row hm
        obtain ⟨result, -, rfl⟩ := List.mem_map.mp hm
        exact if_neg fun he => hq he.symm
      rwa [List.map_congr_left hother, List.map_id] at hrows

/-- What a view of a query does when the store agrees with the journal. -/
inductive Viewing (provider : Provider σ) (session : Session σ) (qid : String) :
    Session σ → Prop where
  /-- There is no such query. -/
  | absent : View.frame? session.store qid = none → Viewing provider session qid { session with
      journal := .viewed qid [] (.ok (.notFound qid)) :: session.journal }
  /-- What is cached is shown. -/
  | cached {frame : View.Frame} : View.frame? session.store qid = some frame →
      stored qid session.journal ≠ [] → Viewing provider session qid { session with
        journal := .viewed qid []
          (.ok (.found (frame.page (Journal.cached qid session.journal)))) :: session.journal }
  /-- The provider was searched, and nothing came of it that could be stored. -/
  | failed {source : σ} {search : Search} {why : ViewFault} : stored qid session.journal = [] →
      storable? qid search.answer = none → Viewing provider session qid { session with
        source
        journal := .viewed qid [search] (.error why) :: session.journal }
  /-- The provider was searched, and what came of it was stored and shown. -/
  | filled {frame : View.Frame} {source : σ} {value : Value} {results : List SearchResult}
      {store : Store} : View.frame? session.store qid = some frame →
      stored qid session.journal = [] → SearchResult.ofAnswer qid value = .ok results →
      View.save session.store qid results = .ok store → Viewing provider session qid {
        store
        source
        journal := .viewed qid [⟨frame.query.text, .ok value⟩]
          (.ok (.found (frame.page results))) :: session.journal }

/-- Results that are not saved cannot be stored. -/
theorem storable?_eq_none_of_save_error {store : Store} {value : Value}
    {results : List SearchResult} {why : ViewFault}
    (built : SearchResult.ofAnswer qid value = .ok results)
    (h : View.save store qid results = .error why) : storable? qid (.ok value) = none := by
  cases hk : storable? qid (.ok value) with
  | none => rfl
  | some results' =>
    obtain ⟨value', hv, hbuilt, -, hall⟩ := storable?_eq_some.mp hk
    cases hv
    cases built.symm.trans hbuilt
    have hsave : View.save store qid results = .ok _ := Store.save_eq_ok.mpr ⟨hall, rfl⟩
    rw [h] at hsave
    cases hsave

/-- Saved results are those that can be stored, be there any or none. -/
theorem storable?_of_save {store saved : Store} {value : Value} {results : List SearchResult}
    (built : SearchResult.ofAnswer qid value = .ok results)
    (h : View.save store qid results = .ok saved) :
    (storable? qid (.ok value)).getD [] = results := by
  by_cases hsome : results = []
  · have hnone : storable? qid (.ok value) = none := by
      simp only [storable?, built, hsome, ne_eq, not_true_eq_false, false_and, if_false]
    rw [hnone, hsome]
    rfl
  · have hall := (Store.save_eq_ok.mp h).1
    rw [storable?_eq_some.mpr ⟨value, rfl, built, hsome, hall⟩]
    rfl

/-- A view of a sound session is of one of these kinds. -/
theorem Sound.viewing_cases (provider : Provider σ) (s : Sound session) (qid : String) :
    Viewing provider session qid (step provider session (.loadPage qid)) := by
  simp only [step, View.load]
  cases hframe : View.frame? session.store qid with
  | none => exact .absent hframe
  | some frame =>
    obtain ⟨front, rest, -, hqid, -⟩ := Store.frame?_eq_some hframe
    have hcached : View.cached session.store frame.query.qid =
        .ok (Journal.cached qid session.journal) :=
      Outcome.mapError_eq_ok.mpr (hqid ▸ s.resultsOf_eq qid)
    simp only [View.results, hcached]
    cases hshown : Journal.cached qid session.journal with
    | cons first others =>
      have hsome : stored qid session.journal ≠ [] := by
        intro hnone
        rw [Journal.cached, hnone] at hshown
        cases hshown
      have h : Viewing provider session qid _ := .cached hframe hsome
      rw [hshown] at h
      exact h
    | nil =>
      have hnone : stored qid session.journal = [] := List.map_eq_nil_iff.mp hshown
      obtain ⟨answer, source, hsearch⟩ : ∃ answer source,
          provider.search frame.query.text session.source = (answer, source) := ⟨_, _, rfl⟩
      simp only [View.fetch, Provider.noted, hsearch, List.nil_append]
      cases answer with
      | error why => exact .failed hnone rfl
      | ok value =>
        dsimp only
        rw [hqid]
        cases hbuilt : SearchResult.ofAnswer qid value with
        | error why =>
          refine .failed hnone ?_
          simp only [storable?, hbuilt]
        | ok results =>
          rw [Outcome.mapError_ok]
          dsimp only
          cases hsave : View.save session.store qid results with
          | error why => exact .failed hnone (storable?_eq_none_of_save_error hbuilt hsave)
          | ok store => exact .filled hframe hnone hbuilt hsave

/-- The links of a frame are those of the imported chain. -/
theorem Sound.linked (s : Sound session) {frame : View.Frame}
    (h : View.frame? session.store qid = some frame) :
    ∃ before after, chain session.journal = before ++ frame.query :: after ∧
      frame.query.qid = qid ∧ frame.previous = before.getLast? ∧ frame.next = after.head? := by
  rw [← s.queries]
  exact Store.frame?_eq_some h

/-- What is stored after a first answer was saved are its results, be there any or none. -/
theorem stored_filled {past : Journal} {value : Value} {results : List SearchResult}
    {text : String} {store saved : Store} {outcome : Except ViewFault (Lookup Page)}
    (nothing : stored qid past = []) (built : SearchResult.ofAnswer qid value = .ok results)
    (h : View.save store qid results = .ok saved) :
    stored qid (.viewed qid [⟨text, .ok value⟩] outcome :: past) = results := by
  have hresults := storable?_of_save built h
  cases hk : storable? qid (.ok value) with
  | none =>
    rw [hk] at hresults
    rw [← hresults, Option.getD_none, ← nothing]
    apply stored_viewed_of_none
    intro search hm
    rw [List.mem_singleton.mp hm]
    exact hk
  | some others =>
    rw [hk, Option.getD_some] at hresults
    rw [← hresults]
    exact stored_viewed_of_storable (firstStored?_eq_none_of_stored_eq_nil nothing) hk

/-- No row has the id of a result that is fetched for a query without rows. -/
theorem Sound.id_ne_key (s : Sound session) {entry : Entry} {value : Value}
    {results : List SearchResult} (proper : Proper (entry :: session.journal))
    (fetched : Fetched (entry :: session.journal) qid value)
    (nothing : stored qid session.journal = [])
    (built : SearchResult.ofAnswer qid value = .ok results)
    (storable : ∀ result ∈ results, result.Storable) {row : ResultRow}
    (hrow : row ∈ session.store.results) {result : SearchResult} (hresult : result ∈ results) :
    row.id ≠ result.key := by
  intro hid
  have hrows := (s.rows row.qid).mem_iff.mp (Store.mem_rowsOf.mpr ⟨hrow, rfl⟩)
  obtain ⟨other, hstored, hother⟩ := List.mem_map.mp hrows
  have hapart : row.qid ≠ qid := by
    intro he
    rw [he, nothing] at hstored
    cases hstored
  obtain ⟨answer, others, hfetched, hothers, first, hfirst, hsame⟩ := exists_of_mem_stored hstored
  have htext := (writable_of_mem_stored hstored).1
  have hkey : other.key = row.id := congrArg ResultRow.id hother
  refine proper.apart hapart (hfetched.cons entry) fetched hothers built first hfirst result
    hresult ?_
  rw [hsame, SearchResult.id_eq_key htext, SearchResult.id_eq_key (storable result hresult).text,
    hkey, hid]

/-- A store that agrees with a journal agrees with it after a first answer was stored too. -/
theorem Sound.rows_filled (s : Sound session) {value : Value} {results : List SearchResult}
    {text : String} {saved : Store} {outcome : Except ViewFault (Lookup Page)}
    (proper : Proper (.viewed qid [⟨text, .ok value⟩] outcome :: session.journal))
    (nothing : stored qid session.journal = [])
    (built : SearchResult.ofAnswer qid value = .ok results)
    (h : View.save session.store qid results = .ok saved) (p : String) :
    (saved.rowsOf p).Perm
      ((stored p (.viewed qid [⟨text, .ok value⟩] outcome :: session.journal)).map
        (ResultRow.ofResult p)) := by
  have hfetched : Fetched (.viewed qid [⟨text, .ok value⟩] outcome :: session.journal) qid value :=
    ⟨_, outcome, List.mem_cons_self, _, List.mem_singleton_self _, rfl⟩
  have hstorable := (Store.save_eq_ok.mp h).1
  have hnew {row : ResultRow} (hrow : row ∈ session.store.results) {result : SearchResult}
      (hresult : result ∈ results) : row.id ≠ result.key :=
    s.id_ne_key proper hfetched nothing built hstorable hrow hresult
  by_cases hp : p = qid
  · subst hp
    obtain ⟨records, helements, hbuild⟩ := SearchResult.ofAnswer_eq_ok.mp built
    have hnone : session.store.rowsOf p = [] := by
      have hrows := s.rows p
      rw [nothing] at hrows
      exact hrows.eq_nil
    have hown : ∀ result ∈ results,
        Store.rowFor session.store.results p result = ResultRow.ofResult p result :=
      fun result hm => Store.rowFor_of_new fun row hrow he => absurd he (hnew hrow hm)
    rw [stored_filled nothing built h, ← List.map_congr_left hown]
    exact Store.rowsOf_of_save hnone h
      (SearchResult.nodup_ids_of_build (proper.strings hfetched helements) hbuild)
  · -- No row of another query has an id that is saved, so none is taken over.
    rw [Store.rowsOf_other_of_save s.keyed h hp, stored_viewed_of_ne fun he => hp he.symm]
    have hkeep : ∀ row ∈ session.store.rowsOf p,
        (!(results.map SearchResult.key).contains row.id) = true := by
      intro row hm
      rw [Bool.not_eq_true', ← Bool.not_eq_true, List.contains_iff_mem]
      intro hmem
      obtain ⟨result, hresult, he⟩ := List.mem_map.mp hmem
      exact hnew (Store.mem_rowsOf.mp hm).1 hresult he.symm
    rw [List.filter_eq_self.mpr hkeep]
    exact s.rows p

theorem Sound.loadPage (s : Sound session) (qid : String)
    (proper : Proper (step provider session (.loadPage qid)).journal) :
    Sound (step provider session (.loadPage qid)) := by
  have hcases := s.viewing_cases provider qid
  generalize step provider session (.loadPage qid) = later at hcases proper ⊢
  have hsame : ∀ (p : String) {searches : List Search} {outcome : Except ViewFault (Lookup Page)},
      (∀ search ∈ searches, storable? qid search.answer = none) → (session.store.rowsOf p).Perm
        ((stored p (.viewed qid searches outcome :: session.journal)).map
          (ResultRow.ofResult p)) := by
    intro p searches outcome hnone
    rw [stored_viewed_of_none hnone]
    exact s.rows p
  have hnosearch : ∀ search ∈ ([] : List Search), storable? qid search.answer = none :=
    fun _ hm => nomatch hm
  cases hcases with
  | absent hframe =>
    refine ⟨s.queries, s.keyed, fun p => hsame p hnosearch, s.lawful_cons ?_⟩
    refine ⟨rfl, rfl, ?_⟩
    rw [← s.queries]
    exact Store.notMem_of_frame?_eq_none hframe
  | failed hstored hnone =>
    refine ⟨s.queries, s.keyed, fun p => hsame p fun search hm => ?_, s.lawful_cons ?_⟩
    · rw [List.mem_singleton.mp hm]
      exact hnone
    · exact ⟨firstStored?_eq_none_of_stored_eq_nil hstored, _, rfl, hnone⟩
  | cached hframe hstored =>
    refine ⟨s.queries, s.keyed, fun p => hsame p hnosearch, s.lawful_cons ?_⟩
    refine ⟨s.linked hframe, fun _ => ⟨rfl, List.mergeSort_perm _ _⟩, fun hnone => ?_, ?_⟩
    · exact absurd (stored_eq_nil_of_firstStored?_eq_none hnone) hstored
    · refine SearchResult.ordered_pairwise_before ?_
      exact List.pairwise_map.mpr (arranged_stored qid session.journal).increase
  | filled hframe hstored hbuilt hsave =>
    obtain ⟨records, -, hbuild⟩ := SearchResult.ofAnswer_eq_ok.mp hbuilt
    refine ⟨?_, Store.keyed_of_save s.keyed hsave, s.rows_filled proper hstored hbuilt hsave,
      s.lawful_cons ?_⟩
    · exact (Store.tables_of_save hsave).1.trans s.queries
    · refine ⟨s.linked hframe, fun hsome => ?_, fun _ => ⟨_, rfl, ?_⟩, ?_⟩
      · rw [firstStored?_eq_none_of_stored_eq_nil hstored] at hsome
        cases hsome
      · rw [storable?_of_save hbuilt hsave]
        exact List.mergeSort_perm _ _
      · exact SearchResult.ordered_pairwise_before
          (SearchResult.ranks_increase_of_build hbuild)

end SearchAnnotation.Session
