import SearchAnnotation.Proofs.RankPosts
import SearchAnnotation.Proofs.SavedResults

/-!
# What every view shows alike

Posted ranks change in which order results are shown, and nothing else. The id, the original rank
and the page of each cached result are its face; they stay as they are whatever is posted. The
faces that are read back after results are saved are those of the saved results exactly if the
results have different ids and each is kept as it is: of several results with one id only the last
one is stored, and a page may change on its way through the JSON column.
-/

namespace SearchAnnotation

/-- What of a result no post changes. -/
def SearchResult.face (result : SearchResult) : Name × Int × Webpage :=
  (result.id, result.origRank, result.webpage)

namespace Store

variable {store saved : Store} {qid : String} {results : List SearchResult}

/-- The faces of a query's cached results by original rank. -/
def facesOf (store : Store) (qid : String) : Except ShapeFault (List (Name × Int × Webpage)) :=
  (store.resultsOf qid).map (List.map SearchResult.face)

/-- A post leaves the face of a row. -/
theorem face_rerank (changes : Ranks) (row : ResultRow) :
    (rerank changes row).toResult.map SearchResult.face =
      row.toResult.map SearchResult.face := by
  have hvalue : (rerank changes row).value = row.value := by
    rw [ResultRow.value, ResultRow.value, rerank_document]
  unfold ResultRow.toResult
  rw [hvalue, rerank_id, rerank_origRank]
  cases row.value with
  | error why => rfl
  | ok document =>
    cases hpage : Webpage.ofDocument document with
    | error why => simp only [bind, Except.bind, hpage, Except.map]
    | ok page => simp only [bind, Except.bind, hpage, Except.map, pure, Except.pure,
        SearchResult.face]

/-- No post changes the faces of a query's results. -/
theorem facesOf_commitRanks (store : Store) (changes : Ranks) (qid : String) :
    (store.commitRanks changes).facesOf qid = store.facesOf qid := by
  have hsort : byRank ((store.rowsOf qid).map (rerank changes)) =
      (byRank (store.rowsOf qid)).map (rerank changes) := by
    refine (List.map_mergeSort fun a _ b _ => ?_).symm
    rw [rerank_origRank, rerank_origRank]
  rw [facesOf, facesOf, resultsOf_eq_byRank, resultsOf_eq_byRank, rowsOf_commitRanks, hsort,
    List.mapM_map, Outcome.map_mapM, Outcome.map_mapM]
  exact congrArg (fun f => List.mapM f _) (funext fun row => face_rerank changes row)

/-- After results are saved under a query the query has rows. -/
theorem rowsOf_ne_nil_of_save (nonempty : results ≠ [])
    (h : View.save store qid results = .ok saved) : saved.rowsOf qid ≠ [] := by
  have hwritten : written store.results qid results ≠ [] := by
    intro hnone
    have hids := idsOf_written store.results qid results
    rw [hnone, eq_comm, idsOf, List.map_nil, List.map_eq_nil_iff] at hids
    exact nonempty hids
  obtain ⟨front, last, hlast⟩ : ∃ front last, written store.results qid results = front ++ [last] :=
    ⟨_, _, (List.dropLast_append_getLast hwritten).symm⟩
  have hput : last ∈ saved.results := by
    rw [results_of_save h, hlast, upsertAll, List.foldl_append]
    exact mem_upsert_self _ _
  have hm : last ∈ written store.results qid results := by
    rw [hlast]
    exact List.mem_append_right front (List.mem_singleton_self last)
  exact List.ne_nil_of_mem (mem_rowsOf.mpr ⟨hput, qid_of_mem_written hm⟩)

/-- Each result whose face is read back has a row of the query with its id and original rank. -/
theorem exists_row_of_mem_facesOf {shown : List (Name × Int × Webpage)} {result : SearchResult}
    (hshown : store.facesOf qid = .ok shown) (hm : result.face ∈ shown) :
    ∃ row ∈ store.rowsOf qid, result.id = .text row.id ∧ result.origRank = row.origRank := by
  obtain ⟨read, hread, rfl⟩ := Outcome.map_eq_ok.mp hshown
  obtain ⟨twin, ht, hface⟩ := List.mem_map.mp hm
  obtain ⟨row, hrow, hto⟩ := Outcome.exists_of_mem_mapM hread ht
  obtain ⟨hid, horig, -⟩ := ResultRow.fields_of_toResult hto
  simp only [SearchResult.face, Prod.mk.injEq] at hface
  exact ⟨row, (List.mergeSort_perm _ _).mem_iff.mp hrow, hface.1.symm.trans hid,
    hface.2.1.symm.trans horig⟩

/-- If all faces of saved results are read back, then the results have different ids. -/
theorem nodup_ids_of_faces (keyed : store.Keyed) (arranged : SearchResult.Arranged results)
    (h : View.save store qid results = .ok saved) {shown : List (Name × Int × Webpage)}
    (hshown : saved.facesOf qid = .ok shown)
    (hfaces : ∀ result ∈ results, result.face ∈ shown) :
    (results.map SearchResult.id).Nodup := by
  refine List.pairwise_map.mpr (arranged.increase.imp_of_mem ?_)
  intro a b ha hb hlt hid
  obtain ⟨row, hra, hrid, hrorig⟩ := exists_row_of_mem_facesOf hshown (hfaces a ha)
  obtain ⟨twin, htb, htid, htorig⟩ := exists_row_of_mem_facesOf hshown (hfaces b hb)
  have hids : row.id = twin.id := Name.text.inj (hrid.symm.trans (hid.trans htid))
  have heq : row = twin :=
    eq_of_id_eq (keyed_of_save keyed h) (mem_rowsOf.mp hra).1 (mem_rowsOf.mp htb).1 hids
  rw [hrorig, htorig, heq] at hlt
  exact Int.lt_irrefl _ hlt

/-- What is read back after a saving has the faces of the saved results exactly if these have
different ids and each is kept as it is. -/
theorem facesOf_save_iff (keyed : store.Keyed) (uncached : store.rowsOf qid = [])
    (arranged : SearchResult.Arranged results) (h : View.save store qid results = .ok saved) :
    (∃ shown, saved.facesOf qid = .ok shown ∧
      ∀ face, face ∈ results.map SearchResult.face ↔ face ∈ shown) ↔
      (results.map SearchResult.id).Nodup ∧
        ∀ result ∈ results, kept store.results result = result := by
  have hread (distinct : (results.map SearchResult.id).Nodup) : saved.facesOf qid =
      .ok (results.map fun result => (kept store.results result).face) := by
    rw [facesOf, resultsOf_of_save uncached h distinct arranged, Except.map, List.map_map]
    rfl
  constructor
  · rintro ⟨shown, hshown, hfaces⟩
    have distinct : (results.map SearchResult.id).Nodup :=
      nodup_ids_of_faces keyed arranged h hshown fun result hm =>
        (hfaces _).mp (List.mem_map_of_mem hm)
    refine ⟨distinct, fun result hm => ?_⟩
    have hface := (hfaces result.face).mp (List.mem_map_of_mem hm)
    rw [hread distinct, Except.ok.injEq] at hshown
    rw [← hshown] at hface
    obtain ⟨twin, ht, hface⟩ := List.mem_map.mp hface
    simp only [SearchResult.face, Prod.mk.injEq] at hface
    -- The face that comes back is the one kept of the result itself, for no other has its id.
    have htwin : twin = result := List.inj_on_of_nodup_map distinct ht hm hface.1
    rw [htwin] at hface
    exact kept_eq_self_iff.mpr hface.2.2
  · rintro ⟨distinct, same⟩
    refine ⟨_, hread distinct, fun face => ?_⟩
    rw [List.map_congr_left fun result hm => congrArg SearchResult.face (same result hm)]

end Store

end SearchAnnotation
