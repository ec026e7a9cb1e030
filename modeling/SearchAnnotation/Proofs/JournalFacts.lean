import SearchAnnotation.Proofs.Journal
import SearchAnnotation.Proofs.NewQueries
import SearchAnnotation.Proofs.RankPosts
import SearchAnnotation.Proofs.SavedResults

/-!
# What journals imply

The lemmas here say how the chain, the results stored first and the ranks posted last change with
one more entry, and what is known of results that were stored.
-/

namespace SearchAnnotation.Journal

variable {past journal : Journal} {entry : Entry} {p q qid : String}

/-- The names in use tell which queries of a batch are new. -/
theorem foldl_link {batch : List PostedQuery} {fresh chain : List Query} {known : List String}
    (h : Store.newQueries? known batch = some fresh)
    (names : ∀ name, name ∈ known ↔ name ∈ chain.map Query.qid) :
    batch.foldl link chain = chain ++ fresh := by
  induction batch generalizing chain known fresh with
  | nil =>
    cases h
    exact (List.append_nil chain).symm
  | cons posted rest ih =>
    obtain ⟨_ | qid, text⟩ := posted
    · cases h
    rw [List.foldl_cons]
    rcases Store.newQueries?_cons_eq_some.mp h with ⟨hold, h⟩ | ⟨hnew, t, later, rfl, hlater, rfl⟩
    · -- A query with a known name is passed over, whether its text can be stored or not.
      have hlink : link chain ⟨some qid, text⟩ = chain := by
        cases text with
        | none => rfl
        | some text => exact if_pos ((names qid).mp hold)
      rw [hlink]
      exact ih h names
    · have hlink : link chain ⟨some qid, some t⟩ = chain ++ [⟨qid, t⟩] :=
        if_neg fun hm => hnew ((names qid).mpr hm)
      have hnames : ∀ name, name ∈ qid :: known ↔
          name ∈ (chain ++ [(⟨qid, t⟩ : Query)]).map Query.qid := by
        intro name
        rw [List.map_append, List.mem_append, List.mem_cons, names name, List.map_singleton,
          List.mem_singleton, or_comm]
      rw [hlink, ih hlater hnames, List.append_assoc, List.singleton_append]

/-- An import links its queries to the chain. -/
theorem queries_addQueries {store saved : Store} {batch : List PostedQuery} {count : Nat}
    (h : store.addQueries batch = .ok (saved, count)) :
    saved.queries = batch.foldl link store.queries := by
  obtain ⟨fresh, hnew, rfl, -⟩ := Store.addQueries_eq_ok.mp h
  exact (foldl_link hnew fun _ => Iff.rfl).symm

/-- A batch is refused only for a query that cannot be stored. -/
theorem exists_of_newQueries?_eq_none {known : List String} {batch : List PostedQuery}
    (h : Store.newQueries? known batch = none) :
    ∃ posted ∈ batch, posted.qid = none ∨ posted.text = none := by
  induction batch generalizing known with
  | nil => cases h
  | cons posted rest ih =>
    obtain ⟨_ | qid, _ | text⟩ := posted
    · exact ⟨_, List.mem_cons_self, .inl rfl⟩
    · exact ⟨_, List.mem_cons_self, .inl rfl⟩
    · exact ⟨_, List.mem_cons_self, .inr rfl⟩
    · have hrest : ∃ known', Store.newQueries? known' rest = none := by
        rw [Store.newQueries?] at h
        split at h
        · exact ⟨known, h⟩
        · exact ⟨qid :: known, Option.map_eq_none_iff.mp h⟩
      obtain ⟨known', hnone⟩ := hrest
      obtain ⟨other, hm, hother⟩ := ih hnone
      exact ⟨other, List.mem_cons_of_mem _ hm, hother⟩

theorem storable?_eq_some {answer : Except SearchFault Value} {results : List SearchResult} :
    storable? qid answer = some results ↔ ∃ value, answer = .ok value ∧
      SearchResult.ofAnswer qid value = .ok results ∧ results ≠ [] ∧
      ∀ result ∈ results, result.Storable := by
  have hstorable (results : List SearchResult) : results.findSome? SearchResult.refusal? = none ↔
      ∀ result ∈ results, result.Storable := by
    simp only [List.findSome?_eq_none_iff, SearchResult.refusal?_eq_none_iff]
  simp only [← hstorable]
  unfold storable?
  constructor
  · intro h
    cases answer with
    | error why => cases h
    | ok value =>
      cases hb : SearchResult.ofAnswer qid value with
      | error why =>
        simp only [hb, reduceCtorEq] at h
      | ok built =>
        simp only [hb] at h
        split at h
        · next hk =>
          cases h
          exact ⟨value, rfl, hb, hk⟩
        · cases h
  · rintro ⟨value, rfl, hb, hk⟩
    simp only [hb, if_pos hk]

theorem Fetched.cons {answer : Value} (h : Fetched past qid answer) (entry : Entry) :
    Fetched (entry :: past) qid answer := by
  obtain ⟨searches, outcome, hm, hs⟩ := h
  exact ⟨searches, outcome, List.mem_cons_of_mem entry hm, hs⟩

/-- What holds of a journal holds of what it was before. -/
theorem Proper.of_cons (o : Proper (entry :: past)) : Proper past where
  strings h := o.strings (h.cons entry)
  apart hne h h' := o.apart hne (h.cons entry) (h'.cons entry)

/-- The results stored first were built from an answer to their query. -/
theorem fetched_of_firstStored? {results : List SearchResult}
    (h : firstStored? qid journal = some results) :
    ∃ answer, Fetched journal qid answer ∧ storable? qid (.ok answer) = some results := by
  induction journal with
  | nil => cases h
  | cons entry past ih =>
    have hpast : firstStored? qid past = some results →
        ∃ answer, Fetched (entry :: past) qid answer ∧
          storable? qid (.ok answer) = some results := by
      intro hp
      obtain ⟨answer, hf, hk⟩ := ih hp
      exact ⟨answer, hf.cons entry, hk⟩
    cases entry with
    | viewed name searches outcome =>
      rcases Option.or_eq_some_iff.mp h with hp | ⟨-, hnow⟩
      · exact hpast hp
      · split at hnow
        · next hname =>
          obtain ⟨search, hm, hk⟩ := List.exists_of_findSome?_eq_some hnow
          obtain ⟨value, hv, -⟩ := storable?_eq_some.mp hk
          rw [hv] at hk
          refine ⟨value, ⟨searches, outcome, ?_, search, hm, hv⟩, hk⟩
          rw [hname]
          exact List.mem_cons_self
        · cases hnow
    | imported batch outcome =>
      cases outcome with
      | error why => exact hpast h
      | ok count => exact hpast h
    | posted name ranks outcome => exact hpast h
    | experimented => exact hpast h

/-- No rank was posted since results were stored as long as none were. -/
theorem lastRank_of_firstStored?_eq_none (h : firstStored? qid journal = none) (id : String) :
    lastRank qid id journal = none := by
  induction journal with
  | nil => rfl
  | cons entry past ih =>
    cases entry with
    | viewed name searches outcome => exact ih (Option.or_eq_none_iff.mp h).1
    | imported batch outcome =>
      cases outcome with
      | error why => exact ih h
      | ok count => exact ih h
    | posted name ranks outcome =>
      have hp : firstStored? qid past = none := h
      cases outcome with
      | error why => exact ih hp
      | ok count =>
        rw [lastRank, if_neg (by simp only [hp, Option.isSome_none, Bool.false_eq_true, and_false,
          not_false_eq_true])]
        exact ih hp
    | experimented => exact ih h

theorem stored_eq_nil_of_firstStored?_eq_none (h : firstStored? qid journal = none) :
    stored qid journal = [] := by
  rw [stored, h]
  rfl

theorem firstStored?_eq_none_of_stored_eq_nil (h : stored qid journal = []) :
    firstStored? qid journal = none := by
  cases hk : firstStored? qid journal with
  | none => rfl
  | some results =>
    obtain ⟨answer, -, hstorable⟩ := fetched_of_firstStored? hk
    obtain ⟨-, -, -, hsome, -⟩ := storable?_eq_some.mp hstorable
    rw [stored, hk] at h
    exact absurd (List.map_eq_nil_iff.mp h) hsome

/-- What is stored has increasing ranks and settled pages. -/
theorem arranged_stored (qid : String) (journal : Journal) :
    SearchResult.Arranged (stored qid journal) := by
  cases hk : firstStored? qid journal with
  | none =>
    rw [stored_eq_nil_of_firstStored?_eq_none hk]
    exact ⟨.nil, fun _ hm => nomatch hm⟩
  | some results =>
    obtain ⟨answer, -, hstorable⟩ := fetched_of_firstStored? hk
    obtain ⟨value, -, hbuilt, -⟩ := storable?_eq_some.mp hstorable
    obtain ⟨records, -, hbuild⟩ := SearchResult.ofAnswer_eq_ok.mp hbuilt
    have harranged := SearchResult.arranged_of_build hbuild
    rw [stored, hk]
    constructor
    · exact List.pairwise_map.mpr harranged.increase
    · intro result hm
      obtain ⟨built, hb, rfl⟩ := List.mem_map.mp hm
      exact harranged.settled built hb

/-- Results that are stored have texts for ids, and their documents have JSON texts. -/
theorem writable_of_mem_stored {result : SearchResult} (h : result ∈ stored qid journal) :
    result.hasTextId = true ∧ Json.isWritable result.webpage.toDocument = true := by
  cases hk : firstStored? qid journal with
  | none =>
    rw [stored_eq_nil_of_firstStored?_eq_none hk] at h
    cases h
  | some results =>
    obtain ⟨answer, -, hstorable⟩ := fetched_of_firstStored? hk
    obtain ⟨-, -, -, -, hall⟩ := storable?_eq_some.mp hstorable
    rw [stored, hk] at h
    obtain ⟨built, hb, rfl⟩ := List.mem_map.mp h
    exact ⟨(hall built hb).text, (hall built hb).writable⟩

/-- Results that are stored were built from an answer to their query. -/
theorem exists_of_mem_stored {result : SearchResult} (h : result ∈ stored qid journal) :
    ∃ answer results, Fetched journal qid answer ∧
      SearchResult.ofAnswer qid answer = .ok results ∧ ∃ built ∈ results, built.id = result.id := by
  cases hk : firstStored? qid journal with
  | none =>
    rw [stored_eq_nil_of_firstStored?_eq_none hk] at h
    cases h
  | some results =>
    obtain ⟨answer, hf, hstorable⟩ := fetched_of_firstStored? hk
    obtain ⟨value, hv, hbuilt, -⟩ := storable?_eq_some.mp hstorable
    cases hv
    rw [stored, hk] at h
    obtain ⟨built, hb, rfl⟩ := List.mem_map.mp h
    exact ⟨answer, results, hf, hbuilt, built, hb, rfl⟩

/-- A view of another query changes nothing of what is stored. -/
theorem stored_viewed_of_ne {searches : List Search} {outcome : Except ViewFault (Lookup Page)}
    (h : q ≠ p) : stored p (.viewed q searches outcome :: past) = stored p past := by
  have hk : firstStored? p (.viewed q searches outcome :: past) = firstStored? p past := by
    rw [firstStored?, if_neg h, Option.or_none]
  rw [stored, stored, hk]
  rfl

/-- A view without an answer that can be stored changes nothing of what is stored. -/
theorem stored_viewed_of_none {searches : List Search} {outcome : Except ViewFault (Lookup Page)}
    (h : ∀ search ∈ searches, storable? q search.answer = none) :
    stored p (.viewed q searches outcome :: past) = stored p past := by
  by_cases hq : q = p
  · subst hq
    have hk : firstStored? q (.viewed q searches outcome :: past) = firstStored? q past := by
      rw [firstStored?, if_pos rfl, List.findSome?_eq_none_iff.mpr h, Option.or_none]
    rw [stored, stored, hk]
    rfl
  · exact stored_viewed_of_ne hq

/-- The results of the first answer that can be stored are stored, without ranks. -/
theorem stored_viewed_of_storable {results : List SearchResult} {text : String}
    {answer : Except SearchFault Value} {outcome : Except ViewFault (Lookup Page)}
    (h : firstStored? q past = none) (hk : storable? q answer = some results) :
    stored q (.viewed q [⟨text, answer⟩] outcome :: past) = results := by
  have hfirst : firstStored? q (.viewed q [⟨text, answer⟩] outcome :: past) = some results := by
    rw [firstStored?, h, if_pos rfl, Option.none_or, List.findSome?_singleton, hk]
  obtain ⟨value, -, hbuilt, -⟩ := storable?_eq_some.mp hk
  obtain ⟨records, -, hbuild⟩ := SearchResult.ofAnswer_eq_ok.mp hbuilt
  have hsame : ∀ result ∈ results,
      withRank result (lastRank q result.key (.viewed q [⟨text, answer⟩] outcome :: past)) =
        id result := by
    intro result hm
    have hnone : lastRank q result.key (.viewed q [⟨text, answer⟩] outcome :: past) = none :=
      lastRank_of_firstStored?_eq_none h result.key
    rw [hnone, ← (SearchResult.isBuilt_of_mem_buildFrom hbuild hm).unranked]
    rfl
  rw [stored, hfirst, Option.getD_some, List.map_congr_left hsame, List.map_id]

/-- A post for another query changes nothing of what is stored. -/
theorem stored_posted_of_ne {ranks : Store.Ranks} {outcome : Except StoreFault Nat} (h : q ≠ p) :
    stored p (.posted q ranks outcome :: past) = stored p past := by
  have hr : ∀ id, lastRank p id (.posted q ranks outcome :: past) = lastRank p id past := by
    intro id
    cases outcome with
    | error why => rfl
    | ok count => rw [lastRank, if_neg fun hq => h hq.1]
  simp only [stored, hr]
  rfl

/-- A post gives the row of a result the rank that it names. -/
theorem posted_ofResult (q : String) (ranks : Store.Ranks) (result : SearchResult)
    (rank : Option Int) :
    Store.posted q ranks (ResultRow.ofResult q (withRank result rank)) =
      ResultRow.ofResult q (withRank result ((ranks.lookup result.key).getD rank)) := by
  have hid : (ResultRow.ofResult q (withRank result rank)).id = result.key := rfl
  rw [Store.posted, if_pos (ResultRow.qid_ofResult q _), Store.rerank, hid]
  cases ranks.lookup result.key with
  | none => rfl
  | some rank => rfl

/-- A post sets the ranks of the results that it names, once they are stored. -/
theorem stored_posted {ranks : Store.Ranks} {count : Nat} :
    (stored q (.posted q ranks (.ok count) :: past)).map (ResultRow.ofResult q) =
      ((stored q past).map (ResultRow.ofResult q)).map (Store.posted q ranks) := by
  cases hk : firstStored? q past with
  | none =>
    have hk' : firstStored? q (.posted q ranks (.ok count) :: past) = none := hk
    rw [stored_eq_nil_of_firstStored?_eq_none hk, stored_eq_nil_of_firstStored?_eq_none hk']
    rfl
  | some results =>
    have hk' : firstStored? q (.posted q ranks (.ok count) :: past) = some results := hk
    simp only [stored, hk, hk', Option.getD_some, List.map_map]
    apply List.map_congr_left
    intro result _
    simp only [Function.comp_apply, lastRank, hk, Option.isSome_some, and_self, if_true,
      posted_ofResult]

end SearchAnnotation.Journal
