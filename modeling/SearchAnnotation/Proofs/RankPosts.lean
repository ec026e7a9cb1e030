import SearchAnnotation.Proofs.RowKeys

/-!
# What a post of ranks changes

A post reads the rows of its query and then writes the ranks that differ from those it has read.
As ids are keys, a post that is carried out at once sets the ranks of just the rows that it names
and leaves every other row and every other field alone. A post that is refused writes nothing.
-/

namespace SearchAnnotation.Store

variable {store later : Store} {qid : String} {ranks : Ranks}

/-- A row after its query's post. -/
def posted (qid : String) (ranks : Ranks) (row : ResultRow) : ResultRow :=
  if row.qid = qid then rerank ranks row else row

/-- The rank that a post is going to write for a row that it has read. -/
def change (qid : String) (ranks : Ranks) (row : ResultRow) : Option (Option Int) :=
  if row.qid = qid then (ranks.lookup row.id).filter fun rank => rank ≠ row.annotatedRank
  else none

theorem rerank_id (ranks : Ranks) (row : ResultRow) : (rerank ranks row).id = row.id := by
  unfold rerank
  split <;> rfl

theorem rerank_qid (ranks : Ranks) (row : ResultRow) : (rerank ranks row).qid = row.qid := by
  unfold rerank
  split <;> rfl

theorem rerank_origRank (ranks : Ranks) (row : ResultRow) :
    (rerank ranks row).origRank = row.origRank := by
  unfold rerank
  split <;> rfl

theorem rerank_document (ranks : Ranks) (row : ResultRow) :
    (rerank ranks row).document = row.document := by
  unfold rerank
  split <;> rfl

theorem rerank_annotatedRank (ranks : Ranks) (row : ResultRow) :
    (rerank ranks row).annotatedRank = (ranks.lookup row.id).getD row.annotatedRank := by
  unfold rerank
  split
  · next rank h => rw [h, Option.getD_some]
  · next h => rw [h, Option.getD_none]

theorem posted_id (qid : String) (ranks : Ranks) (row : ResultRow) :
    (posted qid ranks row).id = row.id := by
  unfold posted
  split
  · exact rerank_id ranks row
  · rfl

theorem posted_qid (qid : String) (ranks : Ranks) (row : ResultRow) :
    (posted qid ranks row).qid = row.qid := by
  unfold posted
  split
  · exact rerank_qid ranks row
  · rfl

theorem posted_origRank (qid : String) (ranks : Ranks) (row : ResultRow) :
    (posted qid ranks row).origRank = row.origRank := by
  unfold posted
  split
  · exact rerank_origRank ranks row
  · rfl

theorem posted_document (qid : String) (ranks : Ranks) (row : ResultRow) :
    (posted qid ranks row).document = row.document := by
  unfold posted
  split
  · exact rerank_document ranks row
  · rfl

/-- Writing ranks keeps the ids apart. -/
theorem keyed_commitRanks (keyed : store.Keyed) (ranks : Ranks) :
    (store.commitRanks ranks).Keyed :=
  keyed_rewritten keyed (rerank_id ranks)

/-- Writing ranks writes those of a query's rows in their places. -/
theorem rowsOf_commitRanks (store : Store) (ranks : Ranks) (qid : String) :
    (store.commitRanks ranks).rowsOf qid = (store.rowsOf qid).map (rerank ranks) :=
  rowsOf_rewritten (rerank_qid ranks) qid

/-- Looking up an id among what rows give by their ids finds what its row gives. -/
theorem lookup_filterMap_id {rows : List ResultRow} (keyed : (idsOf rows).Nodup)
    (give : ResultRow → Option (Option Int)) {row : ResultRow} (hm : row ∈ rows) :
    (rows.filterMap fun r => (give r).map (r.id, ·)).lookup row.id = give row := by
  induction rows with
  | nil => cases hm
  | cons first rest ih =>
    obtain ⟨hfirst, hrest⟩ := List.nodup_cons.mp keyed
    rcases List.mem_cons.mp hm with rfl | hm
    · cases hg : give row with
      | some rank => rw [List.filterMap_cons_some (by rw [hg]; rfl), List.lookup_cons_self]
      | none =>
        rw [List.filterMap_cons_none (by rw [hg]; rfl), List.lookup_eq_none_iff]
        intro entry he
        obtain ⟨other, ho, hgo⟩ := List.mem_filterMap.mp he
        obtain ⟨rank, -, rfl⟩ := Option.map_eq_some_iff.mp hgo
        exact bne_iff_ne.mpr fun he => hfirst (mem_idsOf.mpr ⟨other, ho, he.symm⟩)
    · have hne : row.id ≠ first.id := fun he => hfirst (mem_idsOf.mpr ⟨row, hm, he⟩)
      cases hg : give first with
      | none =>
        rw [List.filterMap_cons_none (by rw [hg]; rfl)]
        exact ih hrest hm
      | some rank =>
        rw [List.filterMap_cons_some (by rw [hg]; rfl), List.lookup_cons,
          beq_false_of_ne hne]
        exact ih hrest hm

theorem rankChanges_eq (store : Store) (qid : String) (ranks : Ranks) :
    store.rankChanges qid ranks =
      store.results.filterMap fun row => (change qid ranks row).map (row.id, ·) := by
  unfold rankChanges ranked rowsOf
  rw [List.filterMap_filterMap, List.filterMap_filter]
  apply List.filterMap_congr
  intro row _
  by_cases hq : row.qid = qid
  · simp only [hq, beq_self_eq_true, if_true, change]
    cases ranks.lookup row.id with
    | none => rfl
    | some rank =>
      by_cases hr : rank = row.annotatedRank
      · simp [hr, Option.filter_some]
      · simp [hr, Option.filter_some]
  · simp only [beq_false_of_ne hq, Bool.false_eq_true, if_false, change, if_neg hq, Option.map_none]

/-- What a post has found to change is, for each row, the rank named for it if it is another. -/
theorem lookup_rankChanges (keyed : store.Keyed) {row : ResultRow} (hm : row ∈ store.results) :
    (store.rankChanges qid ranks).lookup row.id = change qid ranks row := by
  rw [rankChanges_eq]
  exact lookup_filterMap_id keyed (change qid ranks) hm

/-- Writing what was found to change gives a row the rank that the post names for it. -/
theorem rerank_rankChanges (keyed : store.Keyed) {row : ResultRow} (hm : row ∈ store.results) :
    rerank (store.rankChanges qid ranks) row = posted qid ranks row := by
  unfold rerank posted
  rw [lookup_rankChanges keyed hm, change]
  by_cases hq : row.qid = qid
  · rw [if_pos hq, if_pos hq, rerank]
    cases hl : ranks.lookup row.id with
    | none => rfl
    | some rank =>
      by_cases hr : rank = row.annotatedRank
      · simp only [hr, ne_eq, not_true_eq_false, decide_false, Option.filter_some,
          Bool.false_eq_true, if_false]
      · simp only [ne_eq, hr, not_false_eq_true, decide_true, Option.filter_some, if_true]
  · rw [if_neg hq, if_neg hq]

/-- A post's changes, once they were found, give each row its posted rank. -/
theorem commitRanks_rankChanges (keyed : store.Keyed) (ranks : Ranks) :
    store.commitRanks (store.rankChanges qid ranks) = store.rewritten (posted qid ranks) := by
  unfold commitRanks rewritten
  rw [List.map_congr_left fun row hm => rerank_rankChanges keyed hm]

/-- A post whose ranks fit sets the ranks of the rows that it names. -/
theorem saveAnnotations_eq_ok (keyed : store.Keyed) {count : Nat} :
    store.saveAnnotations qid ranks = .ok (later, count) ↔
      ((store.ranked qid ranks).all fun entry => rankFits entry.2) = true ∧
        later = store.rewritten (posted qid ranks) ∧ count = (store.ranked qid ranks).length := by
  unfold saveAnnotations
  rw [commitRanks_rankChanges keyed]
  by_cases hf : ((store.ranked qid ranks).all fun entry => rankFits entry.2) = true
  · simp only [hf, if_true, Except.ok.injEq, Prod.mk.injEq, true_and, eq_comm]
  · simp only [hf, Bool.false_eq_true, if_false, reduceCtorEq, false_and]

/-- After a post whose ranks fit, each row's annotated rank is its earlier one or one that fits. -/
theorem annotatedRank_posted
    (fit : ((store.ranked qid ranks).all fun entry => rankFits entry.2) = true)
    {row : ResultRow} (hm : row ∈ store.results) :
    (posted qid ranks row).annotatedRank = row.annotatedRank ∨
      rankFits (posted qid ranks row).annotatedRank = true := by
  unfold posted
  by_cases hq : row.qid = qid
  · rw [if_pos hq, rerank_annotatedRank]
    cases hl : ranks.lookup row.id with
    | none => exact .inl rfl
    | some rank =>
      have hnamed : (row, rank) ∈ store.ranked qid ranks :=
        List.mem_filterMap.mpr ⟨row, mem_rowsOf.mpr ⟨hm, hq⟩, by rw [hl]; rfl⟩
      exact .inr (List.all_eq_true.mp fit _ hnamed)
  · rw [if_neg hq]
    exact .inl rfl

end SearchAnnotation.Store
