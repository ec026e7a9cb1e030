import SearchAnnotation.Store.Queries

/-!
# Queries that are new

An import scans its batch for names that are neither known nor used earlier in it. It fails if it
meets a query that cannot be stored. What it finds new has new names, each just once, so a commit
that follows at once meets no name in use, and a scan that knew fewer names finds the same queries
as long as none of them was stored meanwhile.
-/

namespace SearchAnnotation.Store

section Scans

variable {known names : List String} {batch : List PostedQuery} {fresh : List Query}

/-- What is new in a batch that begins with a query. -/
theorem newQueries?_cons_eq_some {qid : String} {text : Option String} :
    newQueries? known (⟨some qid, text⟩ :: batch) = some fresh ↔
      (qid ∈ known ∧ newQueries? known batch = some fresh) ∨
        (qid ∉ known ∧ ∃ t later, text = some t ∧ newQueries? (qid :: known) batch = some later ∧
          fresh = ⟨qid, t⟩ :: later) := by
  rw [newQueries?, List.contains_eq_mem]
  by_cases hq : qid ∈ known
  · simp only [hq, decide_true, if_true, true_and, not_true_eq_false, false_and, or_false]
  · rw [decide_eq_false hq, if_neg Bool.false_ne_true, or_iff_right (fun h => hq h.1),
      and_iff_right hq, Option.bind_eq_some_iff]
    constructor
    · rintro ⟨t, ht, h⟩
      obtain ⟨later, hl, hf⟩ := Option.map_eq_some_iff.mp h
      exact ⟨t, later, ht, hl, hf.symm⟩
    · rintro ⟨t, later, ht, hl, rfl⟩
      exact ⟨t, ht, Option.map_eq_some_iff.mpr ⟨later, hl, rfl⟩⟩

/-- The names of new queries were not known, and differ from each other. -/
theorem names_of_newQueries? (h : newQueries? known batch = some fresh) :
    (∀ query ∈ fresh, query.qid ∉ known) ∧ (fresh.map Query.qid).Nodup := by
  induction batch generalizing known fresh with
  | nil =>
    cases h
    exact ⟨fun _ hm => (nomatch hm), .nil⟩
  | cons posted rest ih =>
    obtain ⟨_ | qid, text⟩ := posted
    · cases h
    rcases newQueries?_cons_eq_some.mp h with ⟨-, h⟩ | ⟨hnew, t, later, -, hlater, rfl⟩
    · exact ih h
    · obtain ⟨hnot, hnodup⟩ := ih hlater
      refine ⟨List.forall_mem_cons.mpr ⟨hnew, fun query hm hk => ?_⟩, ?_⟩
      · exact hnot query hm (List.mem_cons_of_mem qid hk)
      · refine List.nodup_cons.mpr ⟨fun hm => ?_, hnodup⟩
        obtain ⟨query, hquery, he⟩ := List.mem_map.mp hm
        exact hnot query hquery (List.mem_cons.mpr (.inl he))

/-- More names in use do not change what is new, as long as none of the new names is among
them. -/
theorem newQueries?_of_notMem (h : newQueries? known batch = some fresh) (more : known ⊆ names)
    (apart : ∀ query ∈ fresh, query.qid ∉ names) : newQueries? names batch = some fresh := by
  induction batch generalizing known names fresh with
  | nil => exact h
  | cons posted rest ih =>
    obtain ⟨_ | qid, text⟩ := posted
    · cases h
    refine newQueries?_cons_eq_some.mpr ?_
    rcases newQueries?_cons_eq_some.mp h with ⟨hold, h⟩ | ⟨hnew, t, later, ht, hlater, rfl⟩
    · exact .inl ⟨more hold, ih h more apart⟩
    · obtain ⟨hqid, hrest⟩ := List.forall_mem_cons.mp apart
      refine .inr ⟨hqid, t, later, ht, ih hlater (List.cons_subset_cons qid more) ?_, rfl⟩
      intro query hm hk
      rcases List.mem_cons.mp hk with he | hk
      · exact (names_of_newQueries? hlater).1 query hm (List.mem_cons.mpr (.inl he))
      · exact hrest query hm hk

end Scans

section Commits

variable {store saved : Store} {batch : List PostedQuery} {known : List String} {count : Nat}
  {fresh : Option (List Query)} {why : StoreFault}

/-- A commit of new queries appends them, if none of their names is in use. -/
theorem commitQueries_eq_ok : store.commitQueries fresh = .ok (saved, count) ↔
    ∃ queries, fresh = some queries ∧ (∀ query ∈ queries, query.qid ∉ store.knownNames) ∧
      saved = { store with queries := store.queries ++ queries } ∧ count = queries.length := by
  cases fresh with
  | none => simp only [commitQueries, reduceCtorEq, false_and, exists_false]
  | some queries =>
    simp only [Option.some.injEq, exists_eq_left']
    unfold commitQueries
    dsimp only
    cases hfind : queries.find? fun query => store.knownNames.contains query.qid with
    | some query =>
      have hused := List.find?_some hfind
      exact iff_of_false (fun h => nomatch h) fun h =>
        h.1 query (List.mem_of_find?_eq_some hfind) (List.contains_iff_mem.mp hused)
    | none =>
      have hnot : ∀ query ∈ queries, query.qid ∉ store.knownNames := by
        intro query hm hk
        exact List.find?_eq_none.mp hfind query hm (List.contains_iff_mem.mpr hk)
      rw [and_iff_right hnot, Except.ok.injEq, Prod.mk.injEq, eq_comm, eq_comm (a := count)]

/-- An import appends what it finds new. -/
theorem addQueries_eq_ok : store.addQueries batch = .ok (saved, count) ↔
    ∃ queries, newQueries? store.knownNames batch = some queries ∧
      saved = { store with queries := store.queries ++ queries } ∧ count = queries.length := by
  rw [addQueries, commitQueries_eq_ok]
  refine exists_congr fun queries => and_congr_right fun h => ?_
  rw [and_iff_right (names_of_newQueries? h).1]

/-- An import fails only because a query cannot be stored. -/
theorem addQueries_eq_error : store.addQueries batch = .error why ↔
    newQueries? store.knownNames batch = none ∧ why = .unencodable := by
  cases hnew : newQueries? store.knownNames batch with
  | none =>
    rw [addQueries, hnew, commitQueries, Except.error.injEq, eq_comm, and_iff_right rfl]
  | some queries =>
    have hok : store.addQueries batch = .ok _ := addQueries_eq_ok.mpr ⟨queries, hnew, rfl, rfl⟩
    simp only [hok, reduceCtorEq, false_and]

/-- A commit that goes through does what an import does that reads the names just then, though the
names that it goes by may be out of date. -/
theorem addQueries_of_commitQueries (stale : known ⊆ store.knownNames)
    (h : store.commitQueries (newQueries? known batch) = .ok (saved, count)) :
    store.addQueries batch = .ok (saved, count) := by
  obtain ⟨queries, hfresh, hnot, hsaved, hcount⟩ := commitQueries_eq_ok.mp h
  exact addQueries_eq_ok.mpr
    ⟨queries, newQueries?_of_notMem hfresh stale hnot, hsaved, hcount⟩

/-- An import leaves the stored queries where they are. -/
theorem queries_prefix_addQueries (h : store.addQueries batch = .ok (saved, count)) :
    store.queries <+: saved.queries := by
  obtain ⟨queries, -, rfl, -⟩ := addQueries_eq_ok.mp h
  exact List.prefix_append store.queries queries

/-- An import keeps the names of the chain apart. -/
theorem nodup_names_addQueries (names : store.knownNames.Nodup)
    (h : store.addQueries batch = .ok (saved, count)) : saved.knownNames.Nodup := by
  obtain ⟨queries, hnew, rfl, -⟩ := addQueries_eq_ok.mp h
  obtain ⟨hnot, hnodup⟩ := names_of_newQueries? hnew
  rw [knownNames, List.map_append, List.nodup_append]
  refine ⟨names, hnodup, fun name hname other hother he => ?_⟩
  obtain ⟨query, hquery, rfl⟩ := List.mem_map.mp hother
  exact hnot query hquery (he ▸ hname)

end Commits

end SearchAnnotation.Store
