import SearchAnnotation.Proofs.BuiltResults
import SearchAnnotation.Proofs.StableOrder
import SearchAnnotation.Proofs.StoredRows
import SearchAnnotation.View

/-!
# Saved results read back

Results that are saved under a query without cached rows are what is read back for it, each with the
page that is kept for it, in the order of their original ranks and whatever the store held for other
queries. This needs different ids, strictly increasing original ranks and pages that are read back
from their documents; results built from string addresses have all three.
-/

namespace SearchAnnotation

namespace SearchResult

variable {qid : Name} {records : List Value} {results : List SearchResult}

/-- The ranks of built results fit exactly if the results are not too many. -/
theorem ranksFit_of_build (h : build qid records = .ok results) :
    (∀ result ∈ results, result.ranksFit = true) ↔ results.length ≤ 9223372036854775808 := by
  constructor
  · intro hfit
    by_contra hlong
    have hrank : ((9223372036854775808 : Nat) : Int) ∈ results.map origRank := by
      rw [ranks_of_buildFrom h, List.mem_map]
      exact ⟨9223372036854775808, List.mem_range'_1.mpr (by omega), rfl⟩
    obtain ⟨result, hm, hr⟩ := List.mem_map.mp hrank
    have hf := hfit result hm
    simp only [ranksFit, hr, Bool.and_eq_true] at hf
    exact absurd hf.1 (by decide)
  · intro hshort result hm
    obtain ⟨hlow, hhigh⟩ := rank_bounds_of_build h hm
    have hunranked := (isBuilt_of_mem_buildFrom h hm).unranked
    simp only [ranksFit, hunranked, Store.rankFits, Option.all_none, Bool.and_true, Store.fits,
      Bool.and_eq_true, decide_eq_true_eq]
    omega

/-- Built results can be stored exactly if their ids are texts, their documents have JSON texts and
they are not too many. -/
theorem storable_of_build (h : build qid records = .ok results) :
    (∀ result ∈ results, result.Storable) ↔ (∀ result ∈ results, result.hasTextId = true) ∧
      (∀ result ∈ results, Json.isWritable result.webpage.toDocument = true) ∧
      results.length ≤ 9223372036854775808 := by
  rw [← ranksFit_of_build h]
  constructor
  · intro storable
    exact ⟨fun result hm => (storable result hm).text,
      fun result hm => (storable result hm).writable, fun result hm => (storable result hm).fit⟩
  · rintro ⟨texts, writable, fit⟩ result hm
    exact ⟨texts result hm, writable result hm, fit result hm⟩

theorem storable_soleResult (qid s : String) : (soleResult qid (.text s)).Storable where
  text := by
    rw [hasTextId, soleResult, resultId_text]
    rfl
  writable := rfl
  fit := rfl

end SearchResult

namespace Store

variable {store saved : Store} {qid : String} {results : List SearchResult}

/-- Rows by original rank. -/
def byRank (rows : List ResultRow) : List ResultRow :=
  rows.mergeSort fun a b => a.origRank ≤ b.origRank

theorem resultsOf_eq_byRank (store : Store) (qid : String) :
    store.resultsOf qid = (byRank (store.rowsOf qid)).mapM ResultRow.toResult := rfl

theorem rank_le_trans (a b c : ResultRow) : decide (a.origRank ≤ b.origRank) = true →
    decide (b.origRank ≤ c.origRank) = true → decide (a.origRank ≤ c.origRank) = true := by
  simp only [decide_eq_true_eq]
  exact Int.le_trans

theorem rank_le_total (a b : ResultRow) :
    (decide (a.origRank ≤ b.origRank) || decide (b.origRank ≤ a.origRank)) = true := by
  simp only [Bool.or_eq_true, decide_eq_true_eq]
  exact Int.le_total a.origRank b.origRank

theorem byRank_pairwise (rows : List ResultRow) :
    (byRank rows).Pairwise fun a b => a.origRank ≤ b.origRank :=
  (List.pairwise_mergeSort rank_le_trans rank_le_total rows).imp fun h => of_decide_eq_true h

theorem byRank_filter (keep : ResultRow → Bool) (rows : List ResultRow) :
    byRank (rows.filter keep) = (byRank rows).filter keep :=
  (StableOrder.filter_mergeSort rank_le_trans rank_le_total keep rows).symm

/-- Rows sort to any order of theirs in which the ranks increase strictly. -/
theorem byRank_eq_of_perm {rows sorted : List ResultRow} (perm : rows.Perm sorted)
    (increase : sorted.Pairwise fun a b => a.origRank < b.origRank) : byRank rows = sorted := by
  have hp : (byRank rows).Perm sorted := (List.mergeSort_perm rows _).trans perm
  have hn : (sorted.map ResultRow.origRank).Nodup :=
    List.pairwise_map.mpr (increase.imp fun h => Int.ne_of_lt h)
  have hw : sorted.Pairwise fun a b => a.origRank ≤ b.origRank :=
    increase.imp fun h => Int.le_of_lt h
  refine hp.eq_of_pairwise ?_ (byRank_pairwise rows) hw
  intro a b ha hb hab hba
  exact List.inj_on_of_nodup_map hn (hp.mem_iff.mp ha) hb (Int.le_antisymm hab hba)

/-- A query shows what its rows store, if their original ranks increase. -/
theorem resultsOf_of_perm {α : Type} {items : List α} {row : α → ResultRow}
    {result : α → SearchResult} (perm : (store.rowsOf qid).Perm (items.map row))
    (increase : items.Pairwise fun a b => (row a).origRank < (row b).origRank)
    (reads : ∀ a ∈ items, (row a).toResult = .ok (result a)) :
    store.resultsOf qid = .ok (items.map result) := by
  have hs : byRank (store.rowsOf qid) = items.map row :=
    byRank_eq_of_perm perm (List.pairwise_map.mpr increase)
  rw [resultsOf_eq_byRank, hs, List.mapM_map]
  exact Outcome.mapM_eq_ok reads

/-- A query without rows has no results, and no other query has none. -/
theorem resultsOf_eq_nil : store.resultsOf qid = .ok [] ↔ store.rowsOf qid = [] := by
  constructor
  · intro h
    have hl : (byRank (store.rowsOf qid)).length = 0 := by
      cases hb : byRank (store.rowsOf qid) with
      | nil => rfl
      | cons row rest =>
        rw [resultsOf_eq_byRank, hb, List.mapM_cons] at h
        obtain ⟨first, -, h⟩ := Outcome.bind_eq_ok.mp h
        obtain ⟨later, -, h⟩ := Outcome.bind_eq_ok.mp h
        cases h
    rw [byRank, List.length_mergeSort] at hl
    exact List.eq_nil_of_length_eq_zero hl
  · intro h
    rw [resultsOf_eq_byRank, h, byRank, List.mergeSort_nil]
    rfl

/-- Saving writes results that can all be stored. -/
theorem saveResults_eq_ok : store.saveResults qid results = .ok saved ↔
    (∀ result ∈ results, result.Storable) ∧
      saved = { store with results := writeAll store.results qid results } := by
  have hnone : results.findSome? SearchResult.refusal? = none ↔
      ∀ result ∈ results, result.Storable := by
    simp only [List.findSome?_eq_none_iff, SearchResult.refusal?_eq_none_iff]
  unfold saveResults
  rw [← hnone]
  cases results.findSome? SearchResult.refusal? with
  | none => simp only [Except.ok.injEq, true_and, eq_comm]
  | some why => simp only [reduceCtorEq, false_and]

/-- A view saves just as much. -/
theorem save_eq_ok : View.save store qid results = .ok saved ↔
    (∀ result ∈ results, result.Storable) ∧
      saved = { store with results := writeAll store.results qid results } := by
  rw [View.save, Outcome.mapError_eq_ok, saveResults_eq_ok]

/-- What is saved are rows that are put. -/
theorem results_of_save (h : View.save store qid results = .ok saved) :
    saved.results = upsertAll store.results (written store.results qid results) := by
  obtain ⟨-, rfl⟩ := save_eq_ok.mp h
  exact writeAll_eq_upsertAll store.results qid results

/-- Saving changes nothing but the rows. -/
theorem tables_of_save (h : View.save store qid results = .ok saved) :
    saved.queries = store.queries ∧ saved.experiments = store.experiments := by
  obtain ⟨-, rfl⟩ := save_eq_ok.mp h
  exact ⟨rfl, rfl⟩

/-- The ids of results that can be stored are the keys of their rows. -/
theorem map_id_eq (storable : ∀ result ∈ results, result.Storable) :
    results.map SearchResult.id = (results.map SearchResult.key).map Name.text := by
  rw [List.map_map]
  exact List.map_congr_left fun result hm => SearchResult.id_eq_key (storable result hm).text

theorem nodup_keys_iff (storable : ∀ result ∈ results, result.Storable) :
    (results.map SearchResult.key).Nodup ↔ (results.map SearchResult.id).Nodup := by
  rw [map_id_eq storable, List.nodup_map_iff fun s t h => Name.text.inj h]

theorem mem_keys_iff (storable : ∀ result ∈ results, result.Storable) {id : String} :
    id ∈ results.map SearchResult.key ↔ (id : Name) ∈ results.map SearchResult.id := by
  rw [map_id_eq storable, List.mem_map_of_injective fun s t h => Name.text.inj h]

theorem contains_keys (storable : ∀ result ∈ results, result.Storable) (id : String) :
    (results.map SearchResult.key).contains id =
      (results.map SearchResult.id).contains (id : Name) := by
  rw [Bool.eq_iff_iff, List.contains_iff_mem, List.contains_iff_mem, mem_keys_iff storable]

/-- Saving keeps the ids of all rows apart. -/
theorem keyed_of_save (keyed : store.Keyed) (h : View.save store qid results = .ok saved) :
    saved.Keyed := by
  rw [Keyed, results_of_save h]
  exact nodup_idsOf_upsertAll _ keyed

/-- Another query keeps just the rows whose ids are not among those of the saved results. -/
theorem rowsOf_other_of_save (keyed : store.Keyed) (h : View.save store qid results = .ok saved)
    {other : String} (apart : other ≠ qid) :
    saved.rowsOf other =
      (store.rowsOf other).filter fun row => !(results.map SearchResult.key).contains row.id := by
  have hn : ∀ row ∈ written store.results qid results, (row.qid == other) = false := by
    intro row hm
    rw [qid_of_mem_written hm]
    exact beq_false_of_ne apart.symm
  rw [rowsOf, results_of_save h, filter_upsertAll_of_not keyed hn, idsOf_written, rowsOf,
    List.filter_filter]
  exact List.filter_congr fun row _ => Bool.and_comm _ _

/-- A query without rows gets just the rows of the saved results, if their ids differ. -/
theorem rowsOf_of_save (uncached : store.rowsOf qid = [])
    (h : View.save store qid results = .ok saved) (distinct : (results.map SearchResult.id).Nodup) :
    (saved.rowsOf qid).Perm (results.map (rowFor store.results qid)) := by
  have hkeys : (results.map SearchResult.key).Nodup :=
    (nodup_keys_iff (save_eq_ok.mp h).1).mpr distinct
  have hown : ∀ row ∈ written store.results qid results, (row.qid == qid) = true := by
    intro row hm
    rw [qid_of_mem_written hm]
    exact beq_self_eq_true qid
  have hnone : store.results.filter (fun row => row.qid == qid) = [] := uncached
  have hnew : ∀ id ∈ idsOf (written store.results qid results),
      id ∉ idsOf (store.results.filter fun row => row.qid == qid) := by
    rw [hnone]
    exact fun _ _ => List.not_mem_nil
  have hp := filter_upsertAll_of_chosen hown (by rw [idsOf_written]; exact hkeys) hnew
  rwa [hnone, List.nil_append, ← results_of_save h, written_of_nodup hkeys] at hp

/-- What is saved under a query without rows is read back for it with the pages that are kept. -/
theorem resultsOf_of_save (uncached : store.rowsOf qid = [])
    (h : View.save store qid results = .ok saved) (distinct : (results.map SearchResult.id).Nodup)
    (arranged : SearchResult.Arranged results) :
    saved.resultsOf qid = .ok (results.map (kept store.results)) := by
  refine resultsOf_of_perm (rowsOf_of_save uncached h distinct) ?_ fun result hm => ?_
  · simp only [origRank_rowFor]
    exact arranged.increase
  · exact toResult_rowFor ((save_eq_ok.mp h).1 result hm) (arranged.settled result hm)

end Store

end SearchAnnotation
