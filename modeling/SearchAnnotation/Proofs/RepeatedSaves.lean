import SearchAnnotation.Proofs.QueryIsolation

/-!
# Results saved again

Results are saved row by row and rows are told apart by their ids, so saving results for a query
that already has some does not replace its set: the saved results come in, each in the place of an
earlier one with its id if there is one, and all other earlier results of the query stay among
them. What is saved last is hence what is read back exactly if it covers the ids of everything the
query had before and each of its pages is kept as it is.
-/

namespace SearchAnnotation.Store

variable {store saved : Store} {qid : String} {results cached : List SearchResult}

/-- Whether an id is one of the results. -/
def covers (results : List SearchResult) (id : Name) : Bool :=
  (results.map SearchResult.id).contains id

theorem covers_iff (storable : ∀ result ∈ results, result.Storable) {id : String} :
    covers results id = true ↔ id ∈ results.map SearchResult.key := by
  rw [covers, ← contains_keys storable, List.contains_iff_mem]

/-- The rows with ids of saved results are those that were written for them. -/
theorem covered_rowsOf_of_save (keyed : store.Keyed)
    (h : View.save store qid results = .ok saved)
    (distinct : (results.map SearchResult.id).Nodup) :
    ((saved.rowsOf qid).filter fun row => covers results row.id).Perm
      (results.map (rowFor store.results qid)) := by
  have hstorable := (save_eq_ok.mp h).1
  have hkeys : (results.map SearchResult.key).Nodup := (nodup_keys_iff hstorable).mpr distinct
  have hids : (idsOf (results.map (rowFor store.results qid))).Nodup := by
    rw [← written_of_nodup hkeys, idsOf_written]
    exact hkeys
  have hrows : saved.results = upsertAll store.results
      (results.map (rowFor store.results qid)) := by
    rw [results_of_save h, written_of_nodup hkeys]
  have hsaved : (saved.rowsOf qid).Nodup := (keyed_of_save keyed h).of_map.filter _
  refine (List.perm_ext_iff_of_nodup (hsaved.filter _) hids.of_map).mpr fun row => ?_
  have hcovers : covers results row.id = true ↔
      row.id ∈ idsOf (results.map (rowFor store.results qid)) := by
    rw [covers_iff hstorable, ← written_of_nodup hkeys, idsOf_written]
  rw [List.mem_filter, mem_rowsOf, hcovers, and_right_comm, hrows,
    mem_upsertAll_and_mem_idsOf_iff keyed hids, and_iff_left_iff_imp]
  intro hm
  obtain ⟨result, -, rfl⟩ := List.mem_map.mp hm
  rw [rowFor_eq]
  rfl

/-- All other rows of the query stay. -/
theorem uncovered_rowsOf_of_save (keyed : store.Keyed)
    (h : View.save store qid results = .ok saved) :
    ((saved.rowsOf qid).filter fun row => !covers results row.id) =
      (store.rowsOf qid).filter fun row => !covers results row.id := by
  have hstorable := (save_eq_ok.mp h).1
  have hids := idsOf_written store.results qid results
  have hnot : ∀ row ∈ written store.results qid results,
      (!covers results row.id && row.qid == qid) = false := by
    intro row hm
    have hid : row.id ∈ results.map SearchResult.key := hids ▸ mem_idsOf.mpr ⟨row, hm, rfl⟩
    rw [(covers_iff hstorable).mpr hid, Bool.not_true, Bool.false_and]
  rw [rowsOf, rowsOf, List.filter_filter, List.filter_filter, results_of_save h,
    filter_upsertAll_of_not keyed hnot, hids]
  refine List.filter_congr fun row _ => ?_
  rw [contains_keys hstorable, ← covers]
  cases covers results row.id <;> cases row.qid == qid <;> rfl

/-- The ids of a query's rows are those it had and those that were saved. -/
theorem mem_idsOf_rowsOf_of_save (keyed : store.Keyed)
    (h : View.save store qid results = .ok saved)
    (distinct : (results.map SearchResult.id).Nodup) {id : String} :
    id ∈ idsOf (saved.rowsOf qid) ↔
      id ∈ idsOf (store.rowsOf qid) ∨ id ∈ results.map SearchResult.key := by
  have hstorable := (save_eq_ok.mp h).1
  by_cases hid : id ∈ results.map SearchResult.key
  · refine iff_of_true ?_ (.inr hid)
    obtain ⟨result, hresult, rfl⟩ := List.mem_map.mp hid
    have hm := (covered_rowsOf_of_save keyed h distinct).mem_iff.mpr (List.mem_map_of_mem hresult)
    exact mem_idsOf.mpr ⟨_, (List.mem_filter.mp hm).1, id_rowFor store.results qid result⟩
  · have hside : ∀ rows : List ResultRow, id ∈ idsOf rows ↔
        id ∈ idsOf (rows.filter fun row => !covers results row.id) := by
      intro rows
      simp only [mem_idsOf, List.mem_filter, Bool.not_eq_true', ← Bool.not_eq_true,
        covers_iff hstorable]
      constructor
      · rintro ⟨row, hm, rfl⟩
        exact ⟨row, ⟨hm, hid⟩, rfl⟩
      · rintro ⟨row, ⟨hm, -⟩, rfl⟩
        exact ⟨row, hm, rfl⟩
    rw [or_iff_left hid, hside, uncovered_rowsOf_of_save keyed h, ← hside]

/-- What a query shows once results were saved over those that it had: it is sorted by original
rank, all that is kept of the saved results is in it, and the rest are the earlier ones that were
not saved. -/
structure Overlays (results kept cached shown : List SearchResult) : Prop where
  /-- Original ranks do not decrease. -/
  sorted : shown.Pairwise fun a b => a.origRank ≤ b.origRank
  /-- With the ids of saved results there is just what is kept of these. -/
  saved : (shown.filter fun result => covers results result.id) = kept
  /-- With other ids there is just what was there before. -/
  left : (shown.filter fun result => !covers results result.id) =
    cached.filter fun result => !covers results result.id

/-- Rows and the results that they store are covered alike. -/
theorem covers_of_toResult (results : List SearchResult) {row : ResultRow} {result : SearchResult}
    (h : row.toResult = .ok result) : covers results row.id = covers results result.id := by
  rw [(ResultRow.fields_of_toResult h).1]

/-- Saving results over readable ones leaves both readable, one laid over the other. -/
theorem overlays_of_save (keyed : store.Keyed) (h : View.save store qid results = .ok saved)
    (distinct : (results.map SearchResult.id).Nodup) (arranged : SearchResult.Arranged results)
    (readable : store.resultsOf qid = .ok cached) :
    ∃ shown, saved.resultsOf qid = .ok shown ∧
      Overlays results (results.map (kept store.results)) cached shown := by
  have hstorable := (save_eq_ok.mp h).1
  rw [resultsOf_eq_byRank] at readable ⊢
  have hfresh : ((byRank (saved.rowsOf qid)).filter fun row => covers results row.id) =
      results.map (rowFor store.results qid) := by
    rw [← byRank_filter]
    refine byRank_eq_of_perm (covered_rowsOf_of_save keyed h distinct) ?_
    rw [List.pairwise_map]
    simp only [origRank_rowFor]
    exact arranged.increase
  have hold : ((byRank (saved.rowsOf qid)).filter fun row => !covers results row.id) =
      (byRank (store.rowsOf qid)).filter fun row => !covers results row.id := by
    rw [← byRank_filter, uncovered_rowsOf_of_save keyed h, byRank_filter]
  have hreadFresh : ((byRank (saved.rowsOf qid)).filter fun row => covers results row.id).mapM
      ResultRow.toResult = .ok (results.map (kept store.results)) := by
    rw [hfresh, List.mapM_map]
    exact Outcome.mapM_eq_ok fun result hm =>
      toResult_rowFor (hstorable result hm) (arranged.settled result hm)
  have hreadOld : ((byRank (saved.rowsOf qid)).filter fun row => !covers results row.id).mapM
      ResultRow.toResult = .ok (cached.filter fun result => !covers results result.id) := by
    rw [hold]
    exact Outcome.mapM_filter readable fun row _ result hr => by
      rw [covers_of_toResult results hr]
  obtain ⟨shown, hshown⟩ := Outcome.exists_mapM_of_filter hreadFresh hreadOld
  refine ⟨shown, hshown, ?_, ?_, ?_⟩
  · refine Outcome.pairwise_of_mapM hshown (byRank_pairwise (saved.rowsOf qid)) ?_
    intro a b x y hx hy hab
    rw [(ResultRow.fields_of_toResult hx).2.1, (ResultRow.fields_of_toResult hy).2.1]
    exact hab
  · have hread := Outcome.mapM_filter (p := fun row => covers results row.id)
      (q := fun result => covers results result.id) hshown
      fun row _ result hr => covers_of_toResult results hr
    exact Except.ok.inj (hread.symm.trans hreadFresh)
  · have hread := Outcome.mapM_filter (p := fun row => !covers results row.id)
      (q := fun result => !covers results result.id) hshown fun row _ result hr => by
        rw [covers_of_toResult results hr]
    exact Except.ok.inj (hread.symm.trans hreadOld)

/-- If they cover the ids that the query had, just what is kept of the saved results is read back.
-/
theorem resultsOf_of_covering (keyed : store.Keyed) (h : View.save store qid results = .ok saved)
    (distinct : (results.map SearchResult.id).Nodup) (arranged : SearchResult.Arranged results)
    (covering : ∀ id ∈ idsOf (store.rowsOf qid), id ∈ results.map SearchResult.key) :
    saved.resultsOf qid = .ok (results.map (kept store.results)) := by
  have hstorable := (save_eq_ok.mp h).1
  have hall : (saved.rowsOf qid).filter (fun row => covers results row.id) = saved.rowsOf qid := by
    refine List.filter_eq_self.mpr fun row hm => (covers_iff hstorable).mpr ?_
    have hid : row.id ∈ idsOf (saved.rowsOf qid) := mem_idsOf.mpr ⟨row, hm, rfl⟩
    exact ((mem_idsOf_rowsOf_of_save keyed h distinct).mp hid).elim (covering _) id
  have hrows := covered_rowsOf_of_save keyed h distinct
  rw [hall] at hrows
  refine resultsOf_of_perm hrows ?_ fun result hm => ?_
  · simp only [origRank_rowFor]
    exact arranged.increase
  · exact toResult_rowFor (hstorable result hm) (arranged.settled result hm)

/-- Just the saved results are read back exactly if they cover the ids that the query had and each
of them is kept as it is. -/
theorem resultsOf_save_iff (keyed : store.Keyed) (h : View.save store qid results = .ok saved)
    (distinct : (results.map SearchResult.id).Nodup) (arranged : SearchResult.Arranged results) :
    saved.resultsOf qid = .ok results ↔
      (∀ id ∈ idsOf (store.rowsOf qid), id ∈ results.map SearchResult.key) ∧
        ∀ result ∈ results, kept store.results result = result := by
  have hread := resultsOf_of_covering keyed h distinct arranged
  constructor
  · intro hsame
    have hcovering : ∀ id ∈ idsOf (store.rowsOf qid), id ∈ results.map SearchResult.key := by
      intro id hid
      obtain ⟨row, hrow, rfl⟩ := mem_idsOf.mp
        ((mem_idsOf_rowsOf_of_save keyed h distinct).mpr (.inl hid))
      obtain ⟨result, hr, hto⟩ := Outcome.exists_mem_of_mapM hsame
        ((List.mergeSort_perm _ _).mem_iff.mpr hrow)
      rw [mem_keys_iff (save_eq_ok.mp h).1, ← (ResultRow.fields_of_toResult hto).1]
      exact List.mem_map_of_mem hr
    have hkept : results.map (kept store.results) = results.map id := by
      rw [List.map_id]
      exact Except.ok.inj ((hread hcovering).symm.trans hsame)
    exact ⟨hcovering, List.map_inj_left.mp hkept⟩
  · rintro ⟨hcovering, hkept⟩
    rw [hread hcovering, List.map_congr_left hkept]
    exact congrArg Except.ok (List.map_id results)

section Races

variable {records others : List Value} {earlier later : List SearchResult}

/-- Of two lists that are built for one query and saved one after the other, just the second one is
read back exactly if it covers the ids of the first one and of what was there before and each of its
pages is kept as it is. In any case all that is kept of it is read back, with ranks that count up
from zero, among what it does not cover. -/
theorem last_saved_read_back_iff (keyed : store.Keyed)
    (strings : ∀ record ∈ records, SearchResult.HasStringAddress record)
    (built : SearchResult.build qid records = .ok earlier)
    (storable : ∀ result ∈ earlier, result.Storable)
    (strings' : ∀ record ∈ others, SearchResult.HasStringAddress record)
    (built' : SearchResult.build qid others = .ok later)
    (storable' : ∀ result ∈ later, result.Storable) :
    ∃ first second, View.save store qid earlier = .ok first ∧
      View.save first qid later = .ok second ∧
      later.map SearchResult.origRank = (List.range later.length).map Int.ofNat ∧
      (second.resultsOf qid = .ok later ↔
        (∀ id ∈ idsOf (store.rowsOf qid), id ∈ later.map SearchResult.key) ∧
          (∀ id ∈ earlier.map SearchResult.key, id ∈ later.map SearchResult.key) ∧
          ∀ result ∈ later, kept first.results result = result) ∧
      ∀ cached, store.resultsOf qid = .ok cached →
        ∃ between shown, first.resultsOf qid = .ok between ∧ second.resultsOf qid = .ok shown ∧
          Overlays earlier (earlier.map (kept store.results)) cached between ∧
          Overlays later (later.map (kept first.results)) between shown := by
  obtain ⟨first, hfirst⟩ : ∃ first, View.save store qid earlier = .ok first :=
    ⟨_, save_eq_ok.mpr ⟨storable, rfl⟩⟩
  obtain ⟨second, hsecond⟩ : ∃ second, View.save first qid later = .ok second :=
    ⟨_, save_eq_ok.mpr ⟨storable', rfl⟩⟩
  have keyedFirst : first.Keyed := keyed_of_save keyed hfirst
  have distinct := SearchResult.nodup_ids_of_build strings built
  have distinct' := SearchResult.nodup_ids_of_build strings' built'
  refine ⟨first, second, hfirst, hsecond, ?_, ?_, ?_⟩
  · rw [SearchResult.ranks_of_buildFrom built', List.range_eq_range']
  · rw [resultsOf_save_iff keyedFirst hsecond distinct' (SearchResult.arranged_of_build built')]
    simp only [mem_idsOf_rowsOf_of_save keyed hfirst distinct, or_imp, forall_and, and_assoc]
  · intro cached readable
    obtain ⟨between, hbetween, hover⟩ := overlays_of_save keyed hfirst distinct
      (SearchResult.arranged_of_build built) readable
    obtain ⟨shown, hshown, hover'⟩ := overlays_of_save keyedFirst hsecond distinct'
      (SearchResult.arranged_of_build built') hbetween
    exact ⟨between, shown, hbetween, hshown, hover, hover'⟩

end Races

open SearchResult in
/-- A second answer that finds again what the first one found is what is read back. -/
theorem wider_answer_read_back :
    empty.Keyed ∧ build "q" [soleRecord (.text "a")] = .ok [soleResult "q" (.text "a")] ∧
      build "q" [soleRecord (.text "b"), soleRecord (.text "a")] =
        .ok [soleResult "q" (.text "b"), { soleResult "q" (.text "a") with origRank := 1 }] ∧
      ∃ first second, View.save empty "q" [soleResult "q" (.text "a")] = .ok first ∧
        View.save first "q" [soleResult "q" (.text "b"),
          { soleResult "q" (.text "a") with origRank := 1 }] = .ok second ∧
        second.resultsOf "q" = .ok [soleResult "q" (.text "b"),
          { soleResult "q" (.text "a") with origRank := 1 }] := by
  have keyed : empty.Keyed := List.nodup_nil
  have strings : ∀ record ∈ [soleRecord (.text "a")], HasStringAddress record :=
    List.forall_mem_singleton.mpr (hasStringAddress_soleRecord rfl)
  have strings' : ∀ record ∈ [soleRecord (.text "b"), soleRecord (.text "a")],
      HasStringAddress record :=
    List.forall_mem_cons.mpr ⟨hasStringAddress_soleRecord rfl,
      List.forall_mem_singleton.mpr (hasStringAddress_soleRecord rfl)⟩
  have built : build "q" [soleRecord (.text "b"), soleRecord (.text "a")] =
      .ok [soleResult "q" (.text "b"), { soleResult "q" (.text "a") with origRank := 1 }] := rfl
  have storable : ∀ result ∈ [soleResult "q" (.text "a")], result.Storable :=
    List.forall_mem_singleton.mpr (storable_soleResult "q" "a")
  have second : ({ soleResult "q" (.text "a") with origRank := 1 } : SearchResult).Storable :=
    { storable_soleResult "q" "a" with fit := rfl }
  have storable' : ∀ result ∈ [soleResult "q" (.text "b"),
      { soleResult "q" (.text "a") with origRank := 1 }], result.Storable :=
    List.forall_mem_cons.mpr ⟨storable_soleResult "q" "b", List.forall_mem_singleton.mpr second⟩
  obtain ⟨first, second, hfirst, hsecond, -, hiff, -⟩ := last_saved_read_back_iff keyed strings
    (build_soleRecord "q" "a") storable strings' built storable'
  refine ⟨keyed, build_soleRecord "q" "a", built, first, second, hfirst, hsecond, hiff.mpr ?_⟩
  obtain ⟨-, rfl⟩ := save_eq_ok.mp hfirst
  exact ⟨fun id hid => (nomatch hid), by decide, by decide +kernel⟩

/-- A store in which results are cached for a query, and nothing else. -/
def cachedStore (qid : String) (results : List SearchResult) : Store :=
  ⟨[], results.map (ResultRow.ofResult qid), []⟩

open SearchResult in
/-- Two answers that have nothing in common are both read back, with one rank for two results. -/
theorem separate_answers_are_mixed :
    empty.Keyed ∧ (∀ record ∈ [soleRecord (.text "a"), soleRecord (.text "b")],
        HasStringAddress record) ∧
      build "q" [soleRecord (.text "a")] = .ok [soleResult "q" (.text "a")] ∧
      build "q" [soleRecord (.text "b")] = .ok [soleResult "q" (.text "b")] ∧
      View.save empty "q" [soleResult "q" (.text "a")] =
        .ok (cachedStore "q" [soleResult "q" (.text "a")]) ∧
      View.save (cachedStore "q" [soleResult "q" (.text "a")]) "q" [soleResult "q" (.text "b")] =
        .ok (cachedStore "q" [soleResult "q" (.text "a"), soleResult "q" (.text "b")]) ∧
      (cachedStore "q" [soleResult "q" (.text "a"), soleResult "q" (.text "b")]).resultsOf "q" =
        .ok [soleResult "q" (.text "a"), soleResult "q" (.text "b")] ∧
      (cachedStore "q" [soleResult "q" (.text "a"), soleResult "q" (.text "b")]).resultsOf "q" ≠
        .ok [soleResult "q" (.text "b")] := by
  have hread :
      (cachedStore "q" [soleResult "q" (.text "a"), soleResult "q" (.text "b")]).resultsOf "q" =
        .ok [soleResult "q" (.text "a"), soleResult "q" (.text "b")] := by
    rw [resultsOf, List.mergeSort_of_pairwise (by decide)]
    decide +kernel
  have hstrings : ∀ record ∈ [soleRecord (.text "a"), soleRecord (.text "b")],
      HasStringAddress record :=
    List.forall_mem_cons.mpr ⟨hasStringAddress_soleRecord rfl,
      List.forall_mem_singleton.mpr (hasStringAddress_soleRecord rfl)⟩
  refine ⟨List.nodup_nil, hstrings, build_soleRecord "q" "a", build_soleRecord "q" "b",
    by decide +kernel, by decide +kernel, hread, ?_⟩
  rw [hread]
  intro h
  cases h

end SearchAnnotation.Store
