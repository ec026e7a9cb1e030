import SearchAnnotation.Proofs.SavedResults

/-!
# Results through the store and back

Results with different ids and ranks and with pages made from records are saved under a query
without rows just if all ids are texts and all pages have a JSON text. They are read back sorted by
their original ranks, whatever else is stored and in whatever order they are given, and each has its
id, its ranks and the page that is kept for it. That is its own page as it comes back from JSON
text, unless a row with its id holds a document like its own already. Saving any of the results once
more changes nothing at all.
-/

namespace SearchAnnotation

namespace SearchResult

/-- Whether results can be stored side by side and read again. -/
structure Keepable (results : List SearchResult) : Prop where
  /-- No two share an id. -/
  ids : (results.map SearchResult.id).Nodup
  /-- No two share an original rank. -/
  ranks : (results.map SearchResult.origRank).Nodup
  /-- Each original rank fits into sixty-four bits. -/
  origFits : ∀ result ∈ results, Store.fits result.origRank = true
  /-- So does each annotated rank that there is. -/
  annotatedFits : ∀ result ∈ results, Store.rankFits result.annotatedRank = true
  /-- Each page was made from a record. -/
  pages : ∀ result ∈ results, ∃ record, Webpage.ofRecord record = .ok result.webpage

variable {results given : List SearchResult}

/-- The order of results does not matter. -/
theorem Keepable.of_perm (h : Keepable results) (perm : given.Perm results) : Keepable given where
  ids := (perm.map _).nodup_iff.mpr h.ids
  ranks := (perm.map _).nodup_iff.mpr h.ranks
  origFits result hm := h.origFits result (perm.mem_iff.mp hm)
  annotatedFits result hm := h.annotatedFits result (perm.mem_iff.mp hm)
  pages result hm := h.pages result (perm.mem_iff.mp hm)

/-- Results can be stored if their ids are texts and their documents have JSON texts. -/
theorem Keepable.storable_iff (h : Keepable results) {result : SearchResult}
    (hm : result ∈ results) :
    result.Storable ↔
      result.hasTextId = true ∧ Json.isWritable result.webpage.toDocument = true := by
  constructor
  · exact fun hs => ⟨hs.text, hs.writable⟩
  · rintro ⟨htext, hwritable⟩
    exact ⟨htext, hwritable, Bool.and_eq_true_iff.mpr
      ⟨h.origFits result hm, h.annotatedFits result hm⟩⟩

/-- The pages of the results are read back from their documents. -/
theorem Keepable.settled (h : Keepable results) {result : SearchResult} (hm : result ∈ results) :
    result.webpage.Settled := by
  obtain ⟨record, hrecord⟩ := h.pages result hm
  exact Webpage.settled_of_ofRecord hrecord

/-- Results by their original ranks. -/
def byOrigRank (results : List SearchResult) : List SearchResult :=
  results.mergeSort fun a b => a.origRank ≤ b.origRank

/-- Different original ranks increase along the sorted results. -/
theorem Keepable.increase (h : Keepable results) :
    (byOrigRank results).Pairwise fun a b => a.origRank < b.origRank := by
  have hperm : (byOrigRank results).Perm results := List.mergeSort_perm results _
  have hsorted : (byOrigRank results).Pairwise fun a b => a.origRank ≤ b.origRank := by
    refine (List.pairwise_mergeSort ?_ ?_ results).imp fun hle => of_decide_eq_true hle
    · intro a b c
      simp only [decide_eq_true_eq]
      exact Int.le_trans
    · intro a b
      simp only [Bool.or_eq_true, decide_eq_true_eq]
      exact Int.le_total a.origRank b.origRank
  have happart : (byOrigRank results).Pairwise fun a b => a.origRank ≠ b.origRank :=
    List.pairwise_map.mp ((hperm.map _).nodup_iff.mpr h.ranks)
  exact (hsorted.and happart).imp fun hab => Int.lt_iff_le_and_ne.mpr hab

end SearchResult

namespace Store

open SearchResult

variable {store saved : Store} {qid : String} {results again : List SearchResult}

/-- Saving some of the results again that were saved before changes nothing. -/
theorem saveResults_again (keepable : Keepable results)
    (h : store.saveResults qid results = .ok saved) (part : again ⊆ results) :
    saved.saveResults qid again = .ok saved := by
  obtain ⟨hstorable, rfl⟩ := saveResults_eq_ok.mp h
  have hkeys : (results.map SearchResult.key).Nodup := (nodup_keys_iff hstorable).mpr keepable.ids
  have hfirst : ∀ result ∈ results,
      first? (writeAll store.results qid results) result.key =
        some (rowFor store.results qid result) := by
    intro result hm
    have hput : rowFor store.results qid result ∈ written store.results qid results := by
      rw [written_of_nodup hkeys]
      exact List.mem_map_of_mem hm
    rw [writeAll_eq_upsertAll, ← id_rowFor store.results qid result]
    exact first?_upsertAll (by rw [idsOf_written]; exact hkeys) hput
  refine saveResults_eq_ok.mpr ⟨fun result hm => hstorable result (part hm), ?_⟩
  -- Each row that is put is there already, so the rows stay as they are through all of the writing.
  have hagain : ∀ rest : List SearchResult, rest ⊆ results →
      writeAll (writeAll store.results qid results) qid rest =
        writeAll store.results qid results := by
    intro rest hrest
    induction rest with
    | nil => rfl
    | cons result more ih =>
      have hresult := hfirst result (hrest List.mem_cons_self)
      have hrow := rowFor_of_first? hresult
      have hstay : upsert (rowFor (writeAll store.results qid results) qid result)
          (writeAll store.results qid results) = writeAll store.results qid results := by
        refine upsert_of_first? ?_
        rw [id_rowFor, hrow]
        exact hresult
      rw [writeAll, List.foldl_cons, hstay]
      exact ih fun other hm => hrest (List.mem_cons_of_mem result hm)
  rw [hagain again part]

/-- What is kept of a result that is stored among rows. -/
structure Faithful (rows : List ResultRow) (result kept : SearchResult) : Prop where
  /-- Its id is kept. -/
  id : kept.id = result.id
  /-- So is its original rank. -/
  origRank : kept.origRank = result.origRank
  /-- So is its annotated rank. -/
  annotatedRank : kept.annotatedRank = result.annotatedRank
  /-- Its page is the one that comes back from its text, or all its fields are alike. -/
  page : kept = result.reread ∨ result.webpage.Alike kept.webpage
  /-- If no row with its id holds a document like its own, its page comes back from its text, and is
  the page itself just if the document survives. -/
  own : (∀ row ∈ rows, row.id = result.key → row.holds result.webpage.toDocument = false) →
    kept = result.reread ∧ (kept = result ↔ result.webpage.toDocument.survives = true)

theorem faithful_kept (rows : List ResultRow) {result : SearchResult}
    (settled : result.webpage.Settled) : Faithful rows result (kept rows result) where
  id := rfl
  origRank := rfl
  annotatedRank := rfl
  page := kept_reread_or_alike settled
  own new := by
    rw [kept_of_new new, reread_eq_self_iff, Webpage.reread_eq_self_iff]
    exact ⟨rfl, Iff.rfl⟩

/-- Results are saved under a query without rows just if their ids are texts and their documents
have JSON texts. Then they are read back by their original ranks with the pages that are kept, in
whatever order they are given, and saving any of them again changes nothing. -/
theorem saved_results_come_back (uncached : store.rowsOf qid = []) (keepable : Keepable results) :
    ∃ shown : List SearchResult, shown.Perm results ∧
      (shown.Pairwise fun a b => a.origRank < b.origRank) ∧
      (∀ result ∈ results, Faithful store.results result (kept store.results result)) ∧
      ∀ given : List SearchResult, given.Perm results →
        ((∃ saved, store.saveResults qid given = .ok saved) ↔ ∀ result ∈ results,
          result.hasTextId = true ∧ Json.isWritable result.webpage.toDocument = true) ∧
        ∀ saved, store.saveResults qid given = .ok saved →
          saved.resultsOf qid = .ok (shown.map (kept store.results)) ∧
          ∀ again : List SearchResult, again ⊆ given → saved.saveResults qid again = .ok saved := by
  have hshown : (byOrigRank results).Perm results := List.mergeSort_perm results _
  refine ⟨byOrigRank results, hshown, keepable.increase,
    fun result hm => faithful_kept store.results (keepable.settled hm), fun given hgiven => ?_⟩
  have hkeepable : Keepable given := keepable.of_perm hgiven
  constructor
  · have hstorable : (∃ saved, store.saveResults qid given = .ok saved) ↔
        ∀ result ∈ given, result.Storable := by
      simp only [saveResults_eq_ok, exists_and_left, exists_eq, and_true]
    rw [hstorable]
    refine ⟨fun h result hm => ?_, fun h result hm => ?_⟩
    · exact (keepable.storable_iff hm).mp (h result (hgiven.mem_iff.mpr hm))
    · exact (hkeepable.storable_iff hm).mpr (h result (hgiven.mem_iff.mp hm))
  · intro saved hsave
    refine ⟨?_, fun again part => saveResults_again hkeepable hsave part⟩
    have hsaved : View.save store qid given = .ok saved :=
      save_eq_ok.mpr (saveResults_eq_ok.mp hsave)
    have hrows := rowsOf_of_save uncached hsaved hkeepable.ids
    have hperm := (hgiven.trans hshown.symm).map (rowFor store.results qid)
    refine resultsOf_of_perm (hrows.trans hperm) ?_ fun result hm => ?_
    · simp only [origRank_rowFor]
      exact keepable.increase
    · have hm' := hshown.mem_iff.mp hm
      exact toResult_rowFor ((save_eq_ok.mp hsaved).1 result (hgiven.mem_iff.mpr hm'))
        (keepable.settled hm')

/-- A page whose snippet was put together from two fragments. -/
def sharedPage : Webpage :=
  ⟨.text "a", .text "", .null, .text "d", .null, .text "ab", [("rank", .int 1)]⟩

/-- A record of this page. -/
def sharedRecord : Value := .object [
  ("url", .text "a"),
  ("domain", .text "d"),
  ("snippet", .object [("text", .object [("fragments", .list [
    .object [("text", .text "a")], .object [("text", .text "b")]])])]),
  ("rankingSignals", .object [("rank", .int 1)])]

/-- A store in which another query has the id of one of the results. -/
def sharedStore : Store := { Store.empty with results := [
  ⟨"q-b", "p", 0, some 3, Json.render (.object [])⟩,
  ⟨"p-a", "p", 1, none, Json.render sharedPage.toDocument⟩] }

/-- A result with an id that is taken, ranked first. -/
def sharedResult : SearchResult := ⟨"q-b", -1, none, sharedPage⟩

/-- A result ranked after it. -/
def laterResult : SearchResult := ⟨"q-a", 4, some 0, sharedPage⟩

theorem shared_results_come_back :
    sharedStore.rowsOf "q" = [] ∧ Keepable [laterResult, sharedResult] ∧
      ∃ saved, sharedStore.saveResults "q" [laterResult, sharedResult] = .ok saved ∧
        saved.resultsOf "q" = .ok [sharedResult, laterResult] ∧
        saved.saveResults "q" [laterResult, sharedResult] = .ok saved := by
  have uncached : sharedStore.rowsOf "q" = [] := by decide
  have hpage : Webpage.ofRecord sharedRecord = .ok sharedPage := by decide +kernel
  have keepable : Keepable [laterResult, sharedResult] := {
    ids := by decide
    ranks := by decide
    origFits := by decide
    annotatedFits := by decide
    pages := by
      refine List.forall_mem_cons.mpr ⟨⟨_, hpage⟩, List.forall_mem_cons.mpr ⟨⟨_, hpage⟩, ?_⟩⟩
      exact fun _ h => nomatch h }
  obtain ⟨shown, hshown, hincrease, -, hsave⟩ := saved_results_come_back uncached keepable
  have horder : shown = [sharedResult, laterResult] := by
    refine (hshown.trans (List.Perm.swap _ _ _)).eq_of_pairwise (fun a b _ _ hab hba => ?_)
      hincrease (by decide)
    exact absurd hba (Int.lt_asymm hab)
  have hkept : [sharedResult, laterResult].map (kept sharedStore.results) =
      [sharedResult, laterResult] := by decide +kernel
  obtain ⟨hstored, hread⟩ := hsave _ (List.Perm.refl _)
  obtain ⟨saved, hsaved⟩ := hstored.mpr (by decide)
  obtain ⟨hshow, hagain⟩ := hread saved hsaved
  rw [horder, hkept] at hshow
  exact ⟨uncached, keepable, saved, hsaved, hshow, hagain _ (List.Subset.refl _)⟩

/-- A page with nothing but an address and a title. -/
def titledPage (title : Value) : Webpage :=
  ⟨.text "a", title, .null, .null, .null, .null, []⟩

/-- A store in which another query has the id "x" for a page with the title 1. -/
def titledStore : Store := { Store.empty with results := [
  ⟨"x", "p", 0, none, Json.render (titledPage (.int 1)).toDocument⟩] }

/-- A result whose page has nothing but an address and a title. -/
def titled (id : Name) (title : Value) : SearchResult := ⟨id, 0, none, titledPage title⟩

theorem keepable_titled (id : Name) {title : Value}
    (h : Webpage.ofRecord (.object [("url", .text "a"), ("title", title)]) =
      .ok (titledPage title)) :
    Keepable [titled id title] where
  ids := List.nodup_singleton id
  ranks := List.nodup_singleton 0
  origFits := List.forall_mem_singleton.mpr rfl
  annotatedFits := List.forall_mem_singleton.mpr rfl
  pages := List.forall_mem_singleton.mpr ⟨_, h⟩

/-- The title true is read back as 1, which it equals and which is held there already. Two
surrogates are read back as the character that they make. And a result whose id has a surrogate that
stands alone is not saved at all. -/
theorem titles_come_back_changed :
    titledStore.rowsOf "q" = [] ∧
      Keepable [titled "x" (.bool true)] ∧
      Keepable [titled "y" (.ofCodes [0xD83D, 0xDE00])] ∧
      Keepable [titled (.ofCodes [0xD800]) (.text "b")] ∧
      (∃ saved, titledStore.saveResults "q" [titled "x" (.bool true)] = .ok saved ∧
        saved.resultsOf "q" = .ok [titled "x" (.int 1)] ∧
        saved.resultsOf "q" ≠ .ok [titled "x" (.bool true)]) ∧
      (∃ saved, titledStore.saveResults "q" [titled "y" (.ofCodes [0xD83D, 0xDE00])] = .ok saved ∧
        saved.resultsOf "q" = .ok [titled "y" (.ofCodes [0x1F600])] ∧
        saved.resultsOf "q" ≠ .ok [titled "y" (.ofCodes [0xD83D, 0xDE00])]) ∧
      titledStore.saveResults "q" [titled (.ofCodes [0xD800]) (.text "b")] =
        .error .unencodable := by
  have hheld : ({ titledStore with results := [⟨"x", "q", 0, none,
      Json.render (titledPage (.int 1)).toDocument⟩] } : Store).resultsOf "q" =
        .ok [titled "x" (.int 1)] := by decide +kernel
  have hjoined : ({ titledStore with results := titledStore.results ++ [⟨"y", "q", 0, none,
      Json.render (titledPage (.ofCodes [0xD83D, 0xDE00])).toDocument⟩] } : Store).resultsOf "q" =
        .ok [titled "y" (.ofCodes [0x1F600])] := by decide +kernel
  have huncached : titledStore.rowsOf "q" = [] := by decide
  refine ⟨huncached, keepable_titled _ (by decide +kernel), keepable_titled _ (by decide +kernel),
    keepable_titled _ (by decide +kernel), ⟨_, by decide +kernel, hheld, ?_⟩,
    ⟨_, by decide +kernel, hjoined, ?_⟩, by decide +kernel⟩
  · rw [hheld]
    decide +kernel
  · rw [hjoined]
    decide +kernel

end Store

end SearchAnnotation
