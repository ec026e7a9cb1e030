import SearchAnnotation.Proofs.ConsistentStores
import SearchAnnotation.Proofs.Lookups
import SearchAnnotation.Store.RankWrites

/-!
# What a post of ranks does in all

A post is refused just if a row of its query is named with a rank that does not fit, and then the
store is as before, whichever rows were written by then. Any other post goes through. It sets the
rank of each row of its query that it names, counts these rows, and changes nothing else, so of two
posts in turn the later one has the last word on each row. The order in which the rows are written
does not matter, as ids are keys.
-/

namespace SearchAnnotation.Store

variable {store between later : Store} {qid : String} {ranks more both : Ranks}

/-- Whether a row of the query is named with a rank outside sixty-four bits. -/
def Overflows (store : Store) (qid : String) (ranks : Ranks) : Prop :=
  ∃ row ∈ store.results, row.qid = qid ∧ ∃ rank, ranks.lookup row.id = some (some rank) ∧
    ¬(-9223372036854775808 ≤ rank ∧ rank ≤ 9223372036854775807)

/-- What a post that goes through leaves and says. -/
structure Posts (store : Store) (qid : String) (ranks : Ranks) (later : Store) (count : Nat) :
    Prop where
  /-- It counts the rows of the query that are named. -/
  counted : count =
    store.results.countP fun row => row.qid = qid ∧ row.id ∈ ranks.map Prod.fst
  /-- A named row of the query gets its rank, or loses it to null, and keeps the rest. -/
  named : ∀ (i : Nat) (row : ResultRow) (rank : Option Int), store.results[i]? = some row →
    row.qid = qid → ranks.lookup row.id = some rank →
      later.results[i]? = some { row with annotatedRank := rank }
  /-- Every other row stays as it is. -/
  others : ∀ (i : Nat) (row : ResultRow), store.results[i]? = some row →
    (row.qid = qid → row.id ∉ ranks.map Prod.fst) → later.results[i]? = some row
  /-- No row comes or goes. -/
  rows : later.results.length = store.results.length
  /-- The queries stay. -/
  queries : later.queries = store.queries
  /-- The experiments stay. -/
  experiments : later.experiments = store.experiments

theorem length_ranked (store : Store) (qid : String) (ranks : Ranks) :
    (store.ranked qid ranks).length =
      store.results.countP fun row => row.qid = qid ∧ row.id ∈ ranks.map Prod.fst := by
  rw [ranked, List.length_filterMap_eq_countP, rowsOf, List.countP_filter]
  refine List.countP_congr fun row _ => ?_
  simp only [Option.isSome_map, Bool.and_eq_true, beq_iff_eq, Entries.isSome_lookup_iff,
    decide_eq_true_eq, and_comm]

/-- The ranks of the named rows fit unless the post overflows. -/
theorem all_ranked_fit_iff :
    ((store.ranked qid ranks).all fun entry => rankFits entry.2) = true ↔
      ¬store.Overflows qid ranks := by
  simp only [List.all_eq_true, Prod.forall, ranked, List.mem_filterMap, mem_rowsOf,
    Option.map_eq_some_iff, rankFits_eq_true]
  constructor
  · rintro hfit ⟨row, hm, hq, rank, hrank, hout⟩
    exact hout (hfit row _ ⟨row, ⟨hm, hq⟩, _, hrank, rfl⟩ rank rfl)
  · rintro hfit row named ⟨row, ⟨hm, hq⟩, rank, hrank, ⟨⟩⟩ value rfl
    exact not_not.mp fun hout => hfit ⟨row, hm, hq, value, hrank, hout⟩

theorem saveAnnotations_of_overflows (h : store.Overflows qid ranks) :
    store.saveAnnotations qid ranks = .error .outOfRange := by
  rw [saveAnnotations, if_neg fun hfit => all_ranked_fit_iff.mp hfit h]

/-- A named row of the query after its post. -/
theorem posted_of_named {row : ResultRow} {rank : Option Int} (hq : row.qid = qid)
    (hrank : ranks.lookup row.id = some rank) :
    posted qid ranks row = { row with annotatedRank := rank } := by
  rw [posted, if_pos hq, rerank, hrank]

/-- Any other row after a post. -/
theorem posted_of_not_named {row : ResultRow}
    (h : row.qid = qid → row.id ∉ ranks.map Prod.fst) : posted qid ranks row = row := by
  unfold posted
  split
  · next hq =>
    have hnone : ranks.lookup row.id = none := Entries.lookup_eq_none_iff.mpr (h hq)
    rw [rerank, hnone]
  · rfl

/-- Rewriting each row as a post does is what a post that goes through has to do. -/
theorem posts_rewritten (store : Store) (qid : String) (ranks : Ranks) :
    store.Posts qid ranks (store.rewritten (posted qid ranks)) (store.ranked qid ranks).length where
  counted := length_ranked store qid ranks
  named i row rank hrow hq hrank := by
    rw [rewritten, List.getElem?_map, hrow, Option.map_some, posted_of_named hq hrank]
  others i row hrow hother := by
    rw [rewritten, List.getElem?_map, hrow, Option.map_some, posted_of_not_named hother]
  rows := List.length_map _
  queries := rfl
  experiments := rfl

theorem saveAnnotations_of_not_overflows (keyed : store.Keyed)
    (h : ¬store.Overflows qid ranks) :
    store.saveAnnotations qid ranks =
      .ok (store.rewritten (posted qid ranks), (store.ranked qid ranks).length) :=
  (saveAnnotations_eq_ok keyed).mpr ⟨all_ranked_fit_iff.mpr h, rfl, rfl⟩

/-- A row after two posts in turn, if a third one overrides the ranks of the first by those of the
second. -/
theorem posted_comp_posted
    (override : ∀ id, both.lookup id = (more.lookup id).or (ranks.lookup id)) :
    posted qid more ∘ posted qid ranks = posted qid both := by
  funext row
  rw [Function.comp_apply]
  by_cases hq : row.qid = qid
  · rw [posted, posted_qid, if_pos hq, posted, if_pos hq, posted, if_pos hq, rerank, rerank_id,
      rerank, rerank, override]
    cases more.lookup row.id with
    | some rank => cases ranks.lookup row.id <;> rfl
    | none => cases ranks.lookup row.id <;> rfl
  · rw [posted, posted_qid, if_neg hq, posted, if_neg hq, posted, if_neg hq]

/-- An overriding post overflows only if one of the two posts does. -/
theorem not_overflows_both
    (override : ∀ id, both.lookup id = (more.lookup id).or (ranks.lookup id))
    (hfirst : ¬store.Overflows qid ranks)
    (hsecond : ¬(store.rewritten (posted qid ranks)).Overflows qid more) :
    ¬store.Overflows qid both := by
  rintro ⟨row, hm, hq, rank, hrank, hout⟩
  rw [override, Option.or_eq_some_iff] at hrank
  rcases hrank with hrank | ⟨-, hrank⟩
  · refine hsecond ⟨posted qid ranks row, List.mem_map_of_mem hm, ?_, rank, ?_, hout⟩
    · rw [posted_qid, hq]
    · rw [posted_id, hrank]
  · exact hfirst ⟨row, hm, hq, rank, hrank, hout⟩

/-- Two posts in turn are one post in which the later ranks override the earlier ones. -/
theorem saveAnnotations_in_turn (keyed : store.Keyed)
    (override : ∀ id, both.lookup id = (more.lookup id).or (ranks.lookup id)) {n m : Nat}
    (hfirst : store.saveAnnotations qid ranks = .ok (between, n))
    (hsecond : between.saveAnnotations qid more = .ok (later, m)) :
    ∃ count, store.saveAnnotations qid both = .ok (later, count) := by
  obtain ⟨hfit, rfl, -⟩ := (saveAnnotations_eq_ok keyed).mp hfirst
  obtain ⟨hfit', rfl, -⟩ :=
    (saveAnnotations_eq_ok (keyed_rewritten keyed (posted_id qid ranks))).mp hsecond
  have hboth := not_overflows_both override (all_ranked_fit_iff.mp hfit)
    (all_ranked_fit_iff.mp hfit')
  have htwice : (store.rewritten (posted qid ranks)).rewritten (posted qid more) =
      store.rewritten (posted qid both) := by
    simp only [rewritten, List.map_map, posted_comp_posted override]
  exact ⟨_, htwice ▸ saveAnnotations_of_not_overflows keyed hboth⟩

theorem commitRanks_perm (distinct : (ranks.map Prod.fst).Nodup) (order : more.Perm ranks) :
    store.commitRanks more = store.commitRanks ranks := by
  have hrow : rerank more = rerank ranks := funext fun row => by
    rw [rerank, rerank, Entries.lookup_perm distinct order]
  rw [commitRanks, commitRanks, hrow]

/-- Writing entries with distinct ids is writing the first one and then the others. -/
theorem commitRanks_cons {entry : String × Option Int}
    (distinct : ((entry :: ranks).map Prod.fst).Nodup) :
    (store.commitRanks [entry]).commitRanks ranks = store.commitRanks (entry :: ranks) := by
  obtain ⟨id, rank⟩ := entry
  have hnone : ranks.lookup id = none :=
    Entries.lookup_eq_none_iff.mpr (List.nodup_cons.mp distinct).1
  have hrow : rerank ranks ∘ rerank [(id, rank)] = rerank ((id, rank) :: ranks) := by
    funext row
    rw [Function.comp_apply, rerank, rerank_id, rerank, rerank]
    by_cases hid : row.id = id
    · rw [hid, hnone, List.lookup_cons_self, List.lookup_cons_self]
    · rw [List.lookup_cons, beq_false_of_ne hid, List.lookup_nil, List.lookup_cons,
        beq_false_of_ne hid]
  simp only [commitRanks, List.map_map, hrow]

theorem nodup_ids_rankChanges (keyed : store.Keyed) :
    ((store.rankChanges qid ranks).map Prod.fst).Nodup := by
  rw [rankChanges_eq, List.Nodup, List.pairwise_map, List.pairwise_filterMap]
  refine (List.pairwise_map.mp keyed).imp fun hne a ha b hb => ?_
  obtain ⟨_, -, rfl⟩ := Option.map_eq_some_iff.mp ha
  obtain ⟨_, -, rfl⟩ := Option.map_eq_some_iff.mp hb
  exact hne

/-- The changes of a post fit unless the post overflows, as the ranks in the store do. -/
theorem all_rankChanges_fit_iff
    (fitting : ∀ row ∈ store.results, rankFits row.annotatedRank = true) :
    (∀ entry ∈ store.rankChanges qid ranks, rankFits entry.2 = true) ↔
      ¬store.Overflows qid ranks := by
  rw [← all_ranked_fit_iff, List.all_eq_true]
  constructor
  · rintro hfit ⟨row, rank⟩ hm
    by_cases hsame : rank = row.annotatedRank
    · obtain ⟨_, hrow, h⟩ := List.mem_filterMap.mp hm
      obtain ⟨_, -, ⟨⟩⟩ := Option.map_eq_some_iff.mp h
      exact hsame ▸ fitting row (mem_rowsOf.mp hrow).1
    · exact hfit (row.id, rank) (List.mem_filterMap.mpr ⟨_, hm, if_neg hsame⟩)
  · rintro hfit entry hm
    obtain ⟨⟨row, rank⟩, hnamed, h⟩ := List.mem_filterMap.mp hm
    obtain ⟨-, h⟩ := Option.ite_none_left_eq_some.mp h
    cases h
    exact hfit _ hnamed

end SearchAnnotation.Store

namespace SearchAnnotation.RankPost

open Store (Ranks)

variable {post : RankPost} {ranks : Ranks}

/-- If every rank fits, all of them are written, as they would be in one step. -/
theorem writeAll_of_fit (distinct : (ranks.map Prod.fst).Nodup)
    (fit : ∀ entry ∈ ranks, Store.rankFits entry.2 = true) :
    post.writeAll ranks = (none, ⟨post.kept, post.pending.commitRanks ranks⟩) := by
  induction ranks generalizing post with
  | nil =>
    have hsame : post.pending.commitRanks [] = post.pending := by
      have hrow : Store.rerank [] = id := rfl
      rw [Store.commitRanks, hrow, List.map_id]
    rw [writeAll, hsame]
  | cons entry rest ih =>
    obtain ⟨-, hrest⟩ := List.nodup_cons.mp distinct
    rw [writeAll, write, if_pos (fit entry List.mem_cons_self)]
    simp only
    rw [ih hrest fun other hm => fit other (List.mem_cons_of_mem entry hm),
      Store.commitRanks_cons distinct]

/-- If some rank does not fit, the writing stops with a fault, and what is kept is untouched. -/
theorem writeAll_of_not_fit (unfit : ¬∀ entry ∈ ranks, Store.rankFits entry.2 = true) :
    ∃ pending, post.writeAll ranks = (some .outOfRange, ⟨post.kept, pending⟩) := by
  induction ranks generalizing post with
  | nil => exact absurd (fun _ h => nomatch h) unfit
  | cons entry rest ih =>
    by_cases hfit : Store.rankFits entry.2 = true
    · rw [writeAll, write, if_pos hfit]
      exact ih fun h => unfit (List.forall_mem_cons.mpr ⟨hfit, h⟩)
    · rw [writeAll, write, if_neg hfit]
      exact ⟨post.pending, rfl⟩

end SearchAnnotation.RankPost

namespace SearchAnnotation.Store

variable {store between later : Store} {qid : String}

/-- A post with a rank that does not fit fails in whatever order its changes are written, and leaves
the store as it was. -/
theorem run_of_overflows (fitting : ∀ row ∈ store.results, rankFits row.annotatedRank = true)
    {ranks order : Ranks} (h : store.Overflows qid ranks)
    (perm : order.Perm (store.rankChanges qid ranks)) :
    RankPost.run store order = (some .outOfRange, store) := by
  have hunfit : ¬∀ entry ∈ order, rankFits entry.2 = true := fun hall =>
    (all_rankChanges_fit_iff fitting).mp (fun entry hm => hall entry (perm.mem_iff.mpr hm)) h
  obtain ⟨pending, hstop⟩ :
      ∃ pending, (RankPost.opened store).writeAll order = (some .outOfRange, ⟨store, pending⟩) :=
    RankPost.writeAll_of_not_fit hunfit
  rw [RankPost.run, hstop]
  rfl

/-- A post whose ranks fit rewrites the rows that it names, in whatever order it writes. -/
theorem run_of_not_overflows (keyed : store.Keyed)
    (fitting : ∀ row ∈ store.results, rankFits row.annotatedRank = true)
    {ranks order : Ranks} (h : ¬store.Overflows qid ranks)
    (perm : order.Perm (store.rankChanges qid ranks)) :
    RankPost.run store order = (none, store.rewritten (posted qid ranks)) := by
  have hdistinct : ((store.rankChanges qid ranks).map Prod.fst).Nodup := nodup_ids_rankChanges keyed
  have hall : ∀ entry ∈ order, rankFits entry.2 = true := fun entry hm =>
    (all_rankChanges_fit_iff fitting).mpr h entry (perm.mem_iff.mp hm)
  rw [RankPost.run, RankPost.writeAll_of_fit ((perm.map Prod.fst).nodup_iff.mpr hdistinct) hall]
  exact congrArg (none, ·)
    ((commitRanks_perm hdistinct perm).trans (commitRanks_rankChanges keyed ranks))

/-- What a post does, whatever the store is and whichever ranks it names. -/
theorem post_effect (keyed : store.Keyed)
    (fitting : ∀ row ∈ store.results, rankFits row.annotatedRank = true) (qid : String)
    (ranks : Ranks) :
    (store.Overflows qid ranks → store.saveAnnotations qid ranks = .error .outOfRange ∧
      ∀ order, order.Perm (store.rankChanges qid ranks) →
        RankPost.run store order = (some .outOfRange, store)) ∧
    (¬store.Overflows qid ranks → ∃ later count,
      store.saveAnnotations qid ranks = .ok (later, count) ∧
        store.Posts qid ranks later count ∧
        ∀ order, order.Perm (store.rankChanges qid ranks) →
          RankPost.run store order = (none, later)) ∧
    ∀ more both between later n m, store.saveAnnotations qid ranks = .ok (between, n) →
      between.saveAnnotations qid more = .ok (later, m) →
        (∀ id, both.lookup id = (more.lookup id).or (ranks.lookup id)) →
          ∃ count, store.saveAnnotations qid both = .ok (later, count) := by
  refine ⟨fun hover => ⟨saveAnnotations_of_overflows hover, fun order hperm => ?_⟩,
    fun hfit => ⟨_, _, saveAnnotations_of_not_overflows keyed hfit, posts_rewritten store qid ranks,
      fun order hperm => ?_⟩,
    fun more both between later n m hfirst hsecond override =>
      saveAnnotations_in_turn keyed override hfirst hsecond⟩
  · exact run_of_overflows fitting hover hperm
  · exact run_of_not_overflows keyed fitting hfit hperm

/-- A store with two rows of one query and a row of another one. -/
def threeRows : Store where
  queries := [⟨"q", "tea"⟩, ⟨"p", "milk"⟩]
  results := [⟨"q-a", "q", 0, some 4, []⟩, ⟨"p-a", "p", 0, none, []⟩,
    ⟨"q-b", "q", 1, none, []⟩]
  experiments := []

/-- A rank of a later row is too large: the earlier row was written by then, and it is as before
after all. The same rank for a row of another query does no harm. -/
theorem post_effect_threeRows :
    threeRows.Keyed ∧ (∀ row ∈ threeRows.results, rankFits row.annotatedRank = true) ∧
      threeRows.Overflows "q" [("q-a", none), ("q-b", some 9223372036854775808)] ∧
      ((RankPost.opened threeRows).writeAll
        [("q-a", none), ("q-b", some 9223372036854775808)]).2.pending ≠ threeRows ∧
      RankPost.run threeRows [("q-a", none), ("q-b", some 9223372036854775808)] =
        (some .outOfRange, threeRows) ∧
      ¬threeRows.Overflows "q" [("q-a", none), ("p-a", some 9223372036854775808)] ∧
      ∃ later, threeRows.saveAnnotations "q" [("q-a", none), ("p-a", some 9223372036854775808)] =
        .ok (later, 1) := by
  have hkeyed : threeRows.Keyed := by decide
  have hfitting : ∀ row ∈ threeRows.results, rankFits row.annotatedRank = true := by decide
  have hsteep : threeRows.Overflows "q" [("q-a", none), ("q-b", some 9223372036854775808)] :=
    ⟨⟨"q-b", "q", 1, none, []⟩, by decide, rfl, 9223372036854775808, rfl, by decide⟩
  have hmild : ¬threeRows.Overflows "q" [("q-a", none), ("p-a", some 9223372036854775808)] :=
    all_ranked_fit_iff.mp (by decide)
  obtain ⟨later, count, hpost, hposts, -⟩ := (post_effect hkeyed hfitting "q" _).2.1 hmild
  have hcount : count = 1 := hposts.counted.trans (by decide)
  exact ⟨hkeyed, hfitting, hsteep, by decide, ((post_effect hkeyed hfitting "q" _).1 hsteep).2 _
    (.refl _), hmild, later, hcount ▸ hpost⟩

end SearchAnnotation.Store
