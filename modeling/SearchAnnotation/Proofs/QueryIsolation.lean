import SearchAnnotation.Proofs.SavedResults

/-!
# Queries beside each other

Rows are keyed by their id alone, and an id joins the name of its query and the address with a
dash. Saving results under one query therefore takes from another query just those cached results
whose ids are saved anew. Two queries are safe from each other, whatever is answered to them,
exactly when neither name is the other one with a dash and more after it. Without such a pair of
names a first view changes no page but its own.
-/

namespace SearchAnnotation.Store

open SearchResult

/-- Whether each row's id joins the name of its query and an address that counts as the one of the
page it stores. -/
def Named (store : Store) : Prop :=
  ∀ row ∈ store.results, ∃ result url, row.toResult = .ok result ∧
    sameAddress url result.webpage.url = true ∧ (row.id : Name) = resultId row.qid url

/-- Whether no results built from string addresses for the second query change, once they are
saved, what is cached for the first. -/
def Isolates (p q : String) : Prop :=
  ∀ (store saved : Store) (records : List Value) (results : List SearchResult),
    store.Keyed → store.Named → (∀ record ∈ records, HasStringAddress record) →
      build q records = .ok results → View.save store q results = .ok saved →
        saved.resultsOf p = store.resultsOf p

section Loss

variable {store saved : Store} {p q : String} {results cached : List SearchResult}

/-- What another query loses by a saving are the results whose ids are saved. -/
theorem resultsOf_other_of_save (keyed : store.Keyed) (apart : p ≠ q)
    (h : View.save store q results = .ok saved) (readable : store.resultsOf p = .ok cached) :
    saved.resultsOf p =
      .ok (cached.filter fun result => !(results.map SearchResult.id).contains result.id) := by
  have hstorable := (save_eq_ok.mp h).1
  rw [resultsOf_eq_byRank, rowsOf_other_of_save keyed h apart, byRank_filter]
  apply Outcome.mapM_filter readable
  intro row _ result hr
  rw [(ResultRow.fields_of_toResult hr).1, contains_keys hstorable]

/-- Another query keeps its results exactly when none of its ids is saved. -/
theorem resultsOf_other_of_save_eq_iff (keyed : store.Keyed) (apart : p ≠ q)
    (h : View.save store q results = .ok saved) (readable : store.resultsOf p = .ok cached) :
    saved.resultsOf p = store.resultsOf p ↔
      ∀ result ∈ cached, result.id ∉ results.map SearchResult.id := by
  rw [resultsOf_other_of_save keyed apart h readable, readable, Except.ok.injEq,
    List.filter_eq_self]
  simp only [List.contains_iff_mem, Bool.not_eq_true', ← Bool.not_eq_true]

/-- A query with none of the saved ids keeps its results, readable or not. -/
theorem resultsOf_other_of_save_eq (keyed : store.Keyed) (apart : p ≠ q)
    (h : View.save store q results = .ok saved)
    (new : ∀ row ∈ store.rowsOf p, (row.id : Name) ∉ results.map SearchResult.id) :
    saved.resultsOf p = store.resultsOf p := by
  have hr : saved.rowsOf p = store.rowsOf p := by
    rw [rowsOf_other_of_save keyed h apart]
    refine List.filter_eq_self.mpr fun row hm => ?_
    rw [contains_keys (save_eq_ok.mp h).1]
    simpa only [List.contains_iff_mem, Bool.not_eq_true', ← Bool.not_eq_true] using new row hm
  rw [resultsOf_eq_byRank, resultsOf_eq_byRank, hr]

end Loss

/-- A store in which the result of a single record is cached, and nothing else. -/
def soleStore (chain : List Query) (qid address : String) : Store :=
  ⟨chain, [ResultRow.ofResult qid (soleResult qid (.text address))], []⟩

section Sole

variable {chain : List Query} {p q s t : String}

theorem settled_soleResult (qid : Name) (s : String) :
    (soleResult qid (.text s)).webpage.Settled := rfl

theorem key_soleResult (qid s : String) :
    ((soleResult qid (.text s)).key : Name) = resultId qid (.text s) :=
  (id_eq_key (storable_soleResult qid s).text).symm

/-- The row for such a result reads back as the result. -/
theorem toResult_soleResult (qid s : String) :
    (ResultRow.ofResult qid (soleResult qid (.text s))).toResult = .ok (soleResult qid (.text s)) :=
  ResultRow.toResult_ofResult (storable_soleResult qid s).text (storable_soleResult qid s).writable
    (settled_soleResult qid s)

theorem keyed_soleStore : (soleStore chain p s).Keyed := List.pairwise_singleton _ _

theorem named_soleStore : (soleStore chain p s).Named := by
  intro row hm
  rw [List.mem_singleton.mp hm]
  refine ⟨_, _, toResult_soleResult p s, ?_, key_soleResult p s⟩
  rw [sameAddress, soleResult, beq_self_eq_true, Bool.true_or]

theorem resultsOf_soleStore_self :
    (soleStore chain p s).resultsOf p = .ok [soleResult p (.text s)] := by
  have hrows : (soleStore chain p s).rowsOf p =
      [()].map fun _ => ResultRow.ofResult p (soleResult p (.text s)) := by
    simp only [rowsOf, soleStore, List.filter_cons, ResultRow.qid_ofResult, beq_self_eq_true,
      if_true, List.filter_nil, List.map_cons, List.map_nil]
  exact resultsOf_of_perm (.of_eq hrows) (List.pairwise_singleton _ _)
    fun _ _ => toResult_soleResult p s

theorem resultsOf_soleStore_other (apart : p ≠ q) :
    (soleStore chain q t).resultsOf p = .ok [] := by
  rw [resultsOf_eq_nil]
  simp only [rowsOf, soleStore, List.filter_cons, ResultRow.qid_ofResult,
    beq_false_of_ne apart.symm, Bool.false_eq_true, if_false, List.filter_nil]

/-- If the ids meet, the row of the first query is taken over by the second. -/
theorem save_soleStore (apart : p ≠ q) (meet : resultId p (.text s) = resultId q (.text t)) :
    View.save (soleStore chain p s) q [soleResult q (.text t)] = .ok (soleStore chain q t) := by
  refine save_eq_ok.mpr ⟨List.forall_mem_singleton.mpr (storable_soleResult q t), ?_⟩
  -- The addresses differ, since the names do, so the document is replaced.
  have hne : t ≠ s := by
    rintro rfl
    rw [resultId_text, resultId_text, Name.text.injEq, String.append_left_inj,
      String.append_left_inj] at meet
    exact apart meet
  have hnew : ∀ row ∈ (soleStore chain p s).results, row.id = (soleResult q (.text t)).key →
      row.holds (soleResult q (.text t)).webpage.toDocument = false := by
    intro row hm _
    rw [List.mem_singleton.mp hm, Bool.eq_false_iff]
    intro hholds
    have halike := ResultRow.url_of_holds (settled_soleResult q t) hholds (toResult_soleResult p s)
    rw [soleResult, soleResult, Value.alike_of_isKey rfl, Value.agree, Bool.or_eq_true, beq_iff_eq,
      beq_iff_eq, Value.text.injEq, or_self] at halike
    exact hne halike
  have hid : (ResultRow.ofResult p (soleResult p (.text s))).id =
      (ResultRow.ofResult q (soleResult q (.text t))).id := by
    have hkeys := (key_soleResult p s).trans (meet.trans (key_soleResult q t).symm)
    exact Name.text.inj hkeys
  rw [writeAll, List.foldl_cons, List.foldl_nil, rowFor_of_new hnew]
  simp only [soleStore, upsert, hid, if_true]

/-- Two queries whose ids can meet are not safe from each other. -/
theorem not_isolates_of_meet (apart : p ≠ q)
    (meet : resultId p (.text s) = resultId q (.text t)) : ¬Isolates p q := by
  intro safe
  have hstrings : ∀ record ∈ [soleRecord (.text t)], HasStringAddress record := by
    intro record hm
    rw [List.mem_singleton.mp hm]
    exact hasStringAddress_soleRecord rfl
  have hs := safe (soleStore [] p s) (soleStore [] q t) _ _ keyed_soleStore named_soleStore
    hstrings (build_soleRecord q t) (save_soleStore apart meet)
  rw [resultsOf_soleStore_other apart, resultsOf_soleStore_self] at hs
  cases hs

end Sole

/-- Two queries of which neither name prolongs the other are safe from each other. -/
theorem isolates_of_not_prolongs {p q : String} (apart : p ≠ q) (hq : ¬Prolongs q p)
    (hp : ¬Prolongs p q) : Isolates p q := by
  intro store saved records results keyed named strings built save
  apply resultsOf_other_of_save_eq keyed apart save
  intro row hm hid
  obtain ⟨hrow, hqid⟩ := mem_rowsOf.mp hm
  obtain ⟨-, url, -, -, hname⟩ := named row hrow
  obtain ⟨result, hr, he⟩ := List.mem_map.mp hid
  have meet : resultId p url = resultId q result.webpage.url := by
    rw [← (isBuilt_of_mem_buildFrom built hr).id_eq, he, hname, hqid]
  exact (prolongs_of_meet apart meet).elim hq hp

/-- Saving under one query takes from another just the results whose ids it saves. Results built
from string addresses never do so, whatever is cached and answered, exactly when neither name
prolongs the other. -/
theorem isolates_iff_not_prolongs {p q : String} (apart : p ≠ q) :
    (∀ (store saved : Store) (results cached : List SearchResult), store.Keyed →
      View.save store q results = .ok saved → store.resultsOf p = .ok cached →
        saved.resultsOf p = .ok (cached.filter fun result =>
          !(results.map SearchResult.id).contains result.id) ∧
        (saved.resultsOf p = store.resultsOf p ↔
          ∀ result ∈ cached, result.id ∉ results.map SearchResult.id)) ∧
      (Isolates p q ↔ ¬Prolongs q p ∧ ¬Prolongs p q) := by
  refine ⟨?_, ?_, ?_⟩
  · intro store saved results cached keyed save readable
    exact ⟨resultsOf_other_of_save keyed apart save readable,
      resultsOf_other_of_save_eq_iff keyed apart save readable⟩
  · intro safe
    constructor
    · intro hq
      obtain ⟨s, t, meet⟩ := exists_meet_of_prolongs (.inl hq)
      exact not_isolates_of_meet apart meet safe
    · intro hp
      obtain ⟨s, t, meet⟩ := exists_meet_of_prolongs (.inr hp)
      exact not_isolates_of_meet apart meet safe
  · rintro ⟨hq, hp⟩
    exact isolates_of_not_prolongs apart hq hp

/-- Names with dashes are safe from each other as long as neither prolongs the other. -/
theorem isolates_with_dashes : "a-b" ≠ "a-c" ∧ Isolates "a-b" "a-c" := by
  refine ⟨by decide, (isolates_iff_not_prolongs (by decide)).2.mpr ⟨?_, ?_⟩⟩
  · rintro ⟨more, h⟩
    have hl := congrArg String.toList h
    simp only [String.toList_append] at hl
    cases hl
  · rintro ⟨more, h⟩
    have hl := congrArg String.toList h
    simp only [String.toList_append] at hl
    cases hl

/-- The first view of a query whose name prolongs another one takes over a row of that one: what
was cached under "a" is gone once the answer to "a-b" is saved. -/
theorem first_view_takes_over_row :
    (soleStore [⟨"a", "x"⟩, ⟨"a-b", "y"⟩] "a" "b-c").Keyed ∧
      (soleStore [⟨"a", "x"⟩, ⟨"a-b", "y"⟩] "a" "b-c").Named ∧
      HasStringAddress (soleRecord (.text "c")) ∧
      build "a-b" [soleRecord (.text "c")] = .ok [soleResult "a-b" (.text "c")] ∧
      View.save (soleStore [⟨"a", "x"⟩, ⟨"a-b", "y"⟩] "a" "b-c") "a-b"
          [soleResult "a-b" (.text "c")] =
        .ok (soleStore [⟨"a", "x"⟩, ⟨"a-b", "y"⟩] "a-b" "c") ∧
      (soleStore [⟨"a", "x"⟩, ⟨"a-b", "y"⟩] "a" "b-c").resultsOf "a" =
        .ok [soleResult "a" (.text "b-c")] ∧
      (soleStore [⟨"a", "x"⟩, ⟨"a-b", "y"⟩] "a-b" "c").resultsOf "a" = .ok [] ∧
      ¬Isolates "a" "a-b" := by
  have apart : "a" ≠ "a-b" := by decide
  have meet : resultId "a" (.text "b-c") = resultId "a-b" (.text "c") := by
    rw [resultId_text, resultId_text]
    rfl
  exact ⟨keyed_soleStore, named_soleStore, hasStringAddress_soleRecord rfl,
    build_soleRecord "a-b" "c", save_soleStore apart meet, resultsOf_soleStore_self,
    resultsOf_soleStore_other apart, not_isolates_of_meet apart meet⟩

end SearchAnnotation.Store
