import SearchAnnotation.Proofs.RankPosts
import SearchAnnotation.View.Concurrent

/-!
# Two posts side by side

Two posts of ranks for one query read the query's rows and commit their changes in any order of
these four steps. If one post commits before the other one reads, the posts happen in turn. If
both read first, the post that commits last leaves out the ranks that it has found in place, even
where the other post has overwritten them meanwhile. Each row by itself then ends as it does after
one of the two turns, but the rows together need not.
-/

namespace SearchAnnotation.View

open Store (Ranks)

/-- Whether the last list holds the steps of the first two, each in their order. -/
inductive Interleaves {α : Type} : List α → List α → List α → Prop where
  /-- Nothing is left. -/
  | nil : Interleaves [] [] []
  /-- The next step is the first list's. -/
  | left {x : α} {xs ys zs : List α} : Interleaves xs ys zs → Interleaves (x :: xs) ys (x :: zs)
  /-- The next step is the second list's. -/
  | right {y : α} {xs ys zs : List α} : Interleaves xs ys zs → Interleaves xs (y :: ys) (y :: zs)

/-- Two steps and two steps can be interleaved in six ways. -/
theorem Interleaves.pairs {α : Type} {a b : α} {steps : List α}
    (h : Interleaves [a, a] [b, b] steps) :
    steps = [a, a, b, b] ∨ steps = [b, b, a, a] ∨ steps = [a, b, a, b] ∨ steps = [b, a, a, b] ∨
      steps = [a, b, b, a] ∨ steps = [b, a, b, a] := by
  rcases h with _ | h | h <;> rcases h with _ | h | h <;> rcases h with _ | h | h <;>
    rcases h with _ | h | h <;> cases h <;> simp only [true_or, or_true]

namespace Room

variable {σ : Type}

/-- A room with two posts for one query that have just arrived, and nothing else. -/
def twoPosts (store : Store) (source : σ) (qid : String) (first second : Ranks) : Room σ where
  store
  source
  visitors := []
  posters := [⟨qid, first, .arrived⟩, ⟨qid, second, .arrived⟩]
  registry := []
  made := 0

/-- The annotated ranks of a query's rows by their ids. -/
def ranksOf (store : Store) (qid : String) : Ranks :=
  (store.rowsOf qid).map fun row => (row.id, row.annotatedRank)

/-- Whether a store is what two posts leave if one is carried out after the other. -/
def InTurn (store : Store) (qid : String) (first second : Ranks) (served : Store) : Prop :=
  ∃ between n m, store.saveAnnotations qid first = .ok (between, n) ∧
    between.saveAnnotations qid second = .ok (served, m)

/-- Whether two posts name a row with different ranks. -/
def Disputed (first last : Ranks) (id : String) : Prop :=
  ∃ a b, first.lookup id = some a ∧ last.lookup id = some b ∧ a ≠ b

/-- Whether the post that commits last finds its rank in place at one disputed row of the query
and another rank at a second one. -/
def Torn (store : Store) (qid : String) (first last : Ranks) : Prop :=
  (∃ row ∈ store.rowsOf qid, Disputed first last row.id ∧
    last.lookup row.id = some row.annotatedRank) ∧
  ∃ row ∈ store.rowsOf qid, Disputed first last row.id ∧
    last.lookup row.id ≠ some row.annotatedRank

/-- Whether the first two steps are of different posts, so that both read before either
commits. -/
def ReadsFirst (events : List Event) : Prop := events[0]? ≠ events[1]?

/-- Whether both posts read first and the one that commits last is torn. -/
def Mixes (store : Store) (qid : String) (first second : Ranks) (events : List Event) : Prop :=
  ReadsFirst events ∧
    if events.getLast? = some (.post 1) then Torn store qid first second
    else Torn store qid second first

section Row

variable {qid : String} {first last : Ranks} {row : ResultRow}

/-- A row after two posts that have both read it before, the second one committing last. -/
def postedAcross (qid : String) (first last : Ranks) (row : ResultRow) : ResultRow :=
  match Store.change qid last row with
  | some rank => { row with annotatedRank := rank }
  | none => Store.posted qid first row

theorem postedAcross_id : (postedAcross qid first last row).id = row.id := by
  unfold postedAcross
  split
  · rfl
  · exact Store.posted_id qid first row

theorem postedAcross_qid : (postedAcross qid first last row).qid = row.qid := by
  unfold postedAcross
  split
  · rfl
  · exact Store.posted_qid qid first row

theorem posted_annotatedRank (h : row.qid = qid) :
    (Store.posted qid first row).annotatedRank =
      (first.lookup row.id).getD row.annotatedRank := by
  rw [Store.posted, if_pos h, Store.rerank_annotatedRank]

/-- A row after two posts in turn. -/
def postedInTurn (qid : String) (first last : Ranks) (row : ResultRow) : ResultRow :=
  Store.posted qid last (Store.posted qid first row)

theorem postedInTurn_id : (postedInTurn qid first last row).id = row.id :=
  (Store.posted_id qid last _).trans (Store.posted_id qid first row)

theorem postedInTurn_qid : (postedInTurn qid first last row).qid = row.qid :=
  (Store.posted_qid qid last _).trans (Store.posted_qid qid first row)

theorem postedInTurn_annotatedRank (h : row.qid = qid) :
    (postedInTurn qid first last row).annotatedRank =
      (last.lookup row.id).getD ((first.lookup row.id).getD row.annotatedRank) := by
  rw [postedInTurn, posted_annotatedRank ((Store.posted_qid qid first row).trans h),
    Store.posted_id, posted_annotatedRank h]

/-- A rank that was found in place is left out. -/
theorem postedAcross_of_found (h : row.qid = qid)
    (found : last.lookup row.id = some row.annotatedRank) :
    (postedAcross qid first last row).annotatedRank =
      (first.lookup row.id).getD row.annotatedRank := by
  have hc : Store.change qid last row = none := by
    rw [Store.change, if_pos h, found, Option.filter_some]
    simp only [ne_eq, not_true_eq_false, decide_false, Bool.false_eq_true, if_false]
  rw [postedAcross, hc]
  exact posted_annotatedRank h

/-- A rank that was not found in place is written, or the other post's if there is none. -/
theorem postedAcross_of_not_found (h : row.qid = qid)
    (new : last.lookup row.id ≠ some row.annotatedRank) :
    (postedAcross qid first last row).annotatedRank =
      (last.lookup row.id).getD ((first.lookup row.id).getD row.annotatedRank) := by
  cases hl : last.lookup row.id with
  | none =>
    have hc : Store.change qid last row = none := by
      rw [Store.change, if_pos h, hl, Option.filter_none]
    rw [postedAcross, hc, Option.getD_none]
    exact posted_annotatedRank h
  | some rank =>
    have hr : rank ≠ row.annotatedRank := fun he => new (by rw [hl, he])
    have hc : Store.change qid last row = some rank := by
      rw [Store.change, if_pos h, hl, Option.filter_some]
      simp only [ne_eq, hr, not_false_eq_true, decide_true, if_true]
    rw [postedAcross, hc, Option.getD_some]

/-- A row ends as if the posts had committed in turn, unless the last one found its rank in place
and the posts dispute it. -/
theorem postedAcross_eq_in_order_iff (h : row.qid = qid) :
    (postedAcross qid first last row).annotatedRank =
        (postedInTurn qid first last row).annotatedRank ↔
      ¬(Disputed first last row.id ∧ last.lookup row.id = some row.annotatedRank) := by
  rw [postedInTurn_annotatedRank h]
  by_cases hf : last.lookup row.id = some row.annotatedRank
  · rw [postedAcross_of_found h hf, hf, Option.getD_some]
    cases ha : first.lookup row.id with
    | none => simp only [Option.getD_none, Disputed, ha, reduceCtorEq, false_and, exists_false,
        not_false_eq_true]
    | some a => simp only [Option.getD_some, Disputed, ha, hf, Option.some.injEq, exists_and_left,
        exists_eq_left', and_true, ne_eq, Decidable.not_not]
  · simp only [postedAcross_of_not_found h hf, hf, and_false, not_false_eq_true]

/-- A row ends as if the posts had committed in the other turn, unless the last one found another
rank than its own in place and the posts dispute it. -/
theorem postedAcross_eq_reversed_iff (h : row.qid = qid) :
    (postedAcross qid first last row).annotatedRank =
        (postedInTurn qid last first row).annotatedRank ↔
      ¬(Disputed first last row.id ∧ last.lookup row.id ≠ some row.annotatedRank) := by
  rw [postedInTurn_annotatedRank h]
  by_cases hf : last.lookup row.id = some row.annotatedRank
  · simp only [postedAcross_of_found h hf, hf, Option.getD_some, ne_eq, not_true_eq_false,
      and_false, not_false_eq_true]
  · rw [postedAcross_of_not_found h hf]
    cases ha : first.lookup row.id with
    | none => simp only [Option.getD_none, Disputed, ha, reduceCtorEq, false_and, exists_false,
        not_false_eq_true]
    | some a =>
      cases hb : last.lookup row.id with
      | none => simp only [Option.getD_none, Option.getD_some, Disputed, hb, reduceCtorEq,
          false_and, and_false, exists_false, not_false_eq_true]
      | some b =>
        rw [hb] at hf
        simp only [Option.getD_some, Disputed, ha, hb, Option.some.injEq, exists_and_left,
          exists_eq_left', ne_eq, hf, not_false_eq_true, and_true, Decidable.not_not]
        exact eq_comm

/-- A row ends as it does after one of the two turns. -/
theorem postedAcross_eq_or (first last : Ranks) (h : row.qid = qid) :
    (postedAcross qid first last row).annotatedRank =
        (postedInTurn qid first last row).annotatedRank ∨
      (postedAcross qid first last row).annotatedRank =
        (postedInTurn qid last first row).annotatedRank := by
  rw [postedAcross_eq_in_order_iff h, postedAcross_eq_reversed_iff h]
  by_cases hf : last.lookup row.id = some row.annotatedRank
  · exact .inr fun hd => hd.2 hf
  · exact .inl fun hd => hf hd.2

end Row

section Rows

variable {store served : Store} {qid : String} {first last : Ranks}

/-- Rewriting rows that keep their ids and queries rewrites the ranks of a query's rows. -/
theorem ranksOf_rewritten {write : ResultRow → ResultRow} (keepsId : ∀ row, (write row).id = row.id)
    (keepsQid : ∀ row, (write row).qid = row.qid) :
    ranksOf (store.rewritten write) qid =
      (store.rowsOf qid).map fun row => (row.id, (write row).annotatedRank) := by
  rw [ranksOf, Store.rowsOf_rewritten keepsQid, List.map_map]
  exact List.map_congr_left fun row _ => Prod.ext (keepsId row) rfl

/-- Two ways of rewriting give the query the same ranks exactly if they agree on its rows. -/
theorem ranksOf_rewritten_eq_iff {write other : ResultRow → ResultRow}
    (keepsId : ∀ row, (write row).id = row.id) (keepsQid : ∀ row, (write row).qid = row.qid)
    (keepsId' : ∀ row, (other row).id = row.id) (keepsQid' : ∀ row, (other row).qid = row.qid) :
    ranksOf (store.rewritten write) qid = ranksOf (store.rewritten other) qid ↔
      ∀ row ∈ store.rowsOf qid, (write row).annotatedRank = (other row).annotatedRank := by
  rw [ranksOf_rewritten keepsId keepsQid, ranksOf_rewritten keepsId' keepsQid', List.map_inj_left]
  simp only [Prod.mk.injEq, true_and]

/-- Ranks that fit are fit for the rows that they name. -/
theorem ranked_fit {ranks : Ranks} (fit : ranks.all (fun entry => Store.rankFits entry.2) = true)
    (store : Store) (qid : String) :
    ((store.ranked qid ranks).all fun entry => Store.rankFits entry.2) = true := by
  rw [List.all_eq_true] at fit ⊢
  rintro ⟨row, rank⟩ hm
  obtain ⟨other, -, hl⟩ := List.mem_filterMap.mp hm
  obtain ⟨rank', hr, he⟩ := Option.map_eq_some_iff.mp hl
  cases he
  obtain ⟨before, after, rfl, -⟩ := List.lookup_eq_some_iff.mp hr
  exact fit (row.id, rank) (List.mem_append_right before List.mem_cons_self)

/-- Two posts in turn rewrite each row twice. -/
theorem commitRanks_in_turn (keyed : store.Keyed) (first last : Ranks) :
    (store.commitRanks (store.rankChanges qid first)).commitRanks
        ((store.commitRanks (store.rankChanges qid first)).rankChanges qid last) =
      store.rewritten (postedInTurn qid first last) := by
  rw [Store.commitRanks_rankChanges (Store.keyed_commitRanks keyed _),
    Store.commitRanks_rankChanges keyed, Store.rewritten, Store.rewritten, List.map_map]
  rfl

/-- Two posts that have both read first rewrite each row across. -/
theorem commitRanks_across (keyed : store.Keyed) (first last : Ranks) :
    (store.commitRanks (store.rankChanges qid first)).commitRanks (store.rankChanges qid last) =
      store.rewritten (postedAcross qid first last) := by
  rw [Store.commitRanks_rankChanges keyed, Store.commitRanks, Store.rewritten, Store.rewritten,
    List.map_map]
  congr 1
  apply List.map_congr_left
  intro row hm
  rw [Function.comp_apply, Store.rerank, Store.posted_id, Store.lookup_rankChanges keyed hm,
    postedAcross]
  cases Store.change qid last row with
  | none => rfl
  | some rank =>
    simp only [Store.posted, Store.rerank]
    repeat' split
    all_goals rfl

/-- Posts whose ranks fit leave just one store if they are carried out in turn. -/
theorem inTurn_iff (keyed : store.Keyed)
    (fit : first.all (fun entry => Store.rankFits entry.2) = true)
    (fit' : last.all (fun entry => Store.rankFits entry.2) = true) :
    InTurn store qid first last served ↔
      served = store.rewritten (postedInTurn qid first last) := by
  have hs : ∀ s : Store, s.saveAnnotations qid first =
      .ok (s.commitRanks (s.rankChanges qid first), (s.ranked qid first).length) :=
    fun s => if_pos (ranked_fit fit s qid)
  have hs' : ∀ s : Store, s.saveAnnotations qid last =
      .ok (s.commitRanks (s.rankChanges qid last), (s.ranked qid last).length) :=
    fun s => if_pos (ranked_fit fit' s qid)
  rw [← commitRanks_in_turn keyed]
  constructor
  · rintro ⟨between, n, m, hb, hserved⟩
    rw [hs] at hb
    cases hb
    rw [hs'] at hserved
    cases hserved
    rfl
  · rintro rfl
    exact ⟨_, _, _, hs store, hs' _⟩

/-- The ranks after two turns agree with the ranks across exactly if the last post is not torn. -/
theorem across_in_turn_iff (keyed : store.Keyed)
    (fit : first.all (fun entry => Store.rankFits entry.2) = true)
    (fit' : last.all (fun entry => Store.rankFits entry.2) = true) :
    (∃ served, (InTurn store qid first last served ∨ InTurn store qid last first served) ∧
      ranksOf (store.rewritten (postedAcross qid first last)) qid = ranksOf served qid) ↔
      ¬Torn store qid first last := by
  have hturn : ∀ a b : Ranks,
      ranksOf (store.rewritten (postedAcross qid first last)) qid =
        ranksOf (store.rewritten (postedInTurn qid a b)) qid ↔
      ∀ row ∈ store.rowsOf qid, (postedAcross qid first last row).annotatedRank =
        (postedInTurn qid a b row).annotatedRank := by
    intro a b
    exact ranksOf_rewritten_eq_iff (fun _ => postedAcross_id) (fun _ => postedAcross_qid)
      (fun _ => postedInTurn_id) fun _ => postedInTurn_qid
  have hown : ∀ row ∈ store.rowsOf qid, row.qid = qid := fun row hm => (Store.mem_rowsOf.mp hm).2
  have horder := (hturn first last).trans
    (forall₂_congr fun row hm => postedAcross_eq_in_order_iff (hown row hm))
  have hreversed := (hturn last first).trans
    (forall₂_congr fun row hm => postedAcross_eq_reversed_iff (hown row hm))
  simp only [inTurn_iff keyed fit fit', inTurn_iff keyed fit' fit, or_and_right, exists_or,
    exists_eq_left, horder, hreversed]
  rw [Torn, not_and_or]
  simp only [not_exists, not_and]

/-- Across, each row has the rank that one of the two turns gives it. -/
theorem mem_across (keyed : store.Keyed)
    (fit : first.all (fun entry => Store.rankFits entry.2) = true)
    (fit' : last.all (fun entry => Store.rankFits entry.2) = true) {entry : String × Option Int}
    (h : entry ∈ ranksOf (store.rewritten (postedAcross qid first last)) qid) :
    ∃ served, (InTurn store qid first last served ∨ InTurn store qid last first served) ∧
      entry ∈ ranksOf served qid := by
  rw [ranksOf_rewritten (fun row => postedAcross_id) fun row => postedAcross_qid] at h
  obtain ⟨row, hm, rfl⟩ := List.mem_map.mp h
  rcases postedAcross_eq_or first last (Store.mem_rowsOf.mp hm).2 with hr | hr
  · refine ⟨_, .inl ((inTurn_iff keyed fit fit').mpr rfl), ?_⟩
    rw [ranksOf_rewritten (fun _ => postedInTurn_id) fun _ => postedInTurn_qid, hr]
    exact List.mem_map_of_mem hm
  · refine ⟨_, .inr ((inTurn_iff keyed fit' fit).mpr rfl), ?_⟩
    rw [ranksOf_rewritten (fun _ => postedInTurn_id) fun _ => postedInTurn_qid, hr]
    exact List.mem_map_of_mem hm

end Rows

section Orders

variable {store : Store} {qid : String} {first second : Ranks} {events : List Event}

/-- A post that arrives with fitting ranks reads what it is going to change. -/
theorem postStep_arrived (qid : String) {ranks : Ranks}
    (fit : ranks.all (fun entry => Store.rankFits entry.2) = true) (store : Store) :
    postStep store ⟨qid, ranks, .arrived⟩ =
      (.read (store.rankChanges qid ranks) (store.ranked qid ranks).length, store) :=
  if_pos (ranked_fit fit store qid)

/-- A post that has read commits what it found to change. -/
theorem postStep_read {ranks changes : Ranks} {count : Nat} (store : Store) :
    postStep store ⟨qid, ranks, .read changes count⟩ =
      (.finished (.ok count), store.commitRanks changes) := rfl

/-- The orders of the steps of two posts, and the store that each of them leaves. -/
theorem store_of_interleaved (provider : Provider σ) (source : σ) (keyed : store.Keyed)
    (fit : first.all (fun entry => Store.rankFits entry.2) = true)
    (fit' : second.all (fun entry => Store.rankFits entry.2) = true)
    (h : Interleaves [.post 0, .post 0] [.post 1, .post 1] events) :
    (¬ReadsFirst events ∧
      (InTurn store qid first second
          (run provider (twoPosts store source qid first second) events).store ∨
        InTurn store qid second first
          (run provider (twoPosts store source qid first second) events).store)) ∨
    (ReadsFirst events ∧ events.getLast? = some (.post 1) ∧
      (run provider (twoPosts store source qid first second) events).store =
        store.rewritten (postedAcross qid first second)) ∨
    (ReadsFirst events ∧ events.getLast? ≠ some (.post 1) ∧
      (run provider (twoPosts store source qid first second) events).store =
        store.rewritten (postedAcross qid second first)) := by
  rw [inTurn_iff keyed fit fit', inTurn_iff keyed fit' fit, ← commitRanks_in_turn keyed,
    ← commitRanks_in_turn keyed, ← commitRanks_across keyed, ← commitRanks_across keyed]
  have hread := postStep_arrived qid fit
  have hread' := postStep_arrived qid fit'
  rcases h.pairs with rfl | rfl | rfl | rfl | rfl | rfl <;>
    simp [ReadsFirst, run, step, twoPosts, hread, hread', postStep_read]

end Orders

/-- Two posts of fitting ranks for one query give each of its rows, in whatever order their steps
come, the rank that it has after the posts in one of the two turns. The ranks of all its rows
together are those after one of the two turns exactly if the posts do not mix. -/
theorem ranksOf_posts_iff_not_mixes (provider : Provider σ) (source : σ) {store : Store}
    {qid : String} {first second : Ranks} {events : List Event} (keyed : store.Keyed)
    (fit : first.all (fun entry => Store.rankFits entry.2) = true)
    (fit' : second.all (fun entry => Store.rankFits entry.2) = true)
    (h : Interleaves [.post 0, .post 0] [.post 1, .post 1] events) :
    (∀ entry ∈ ranksOf (run provider (twoPosts store source qid first second) events).store qid,
      ∃ served, (InTurn store qid first second served ∨ InTurn store qid second first served) ∧
        entry ∈ ranksOf served qid) ∧
    ((∃ served, (InTurn store qid first second served ∨ InTurn store qid second first served) ∧
      ranksOf (run provider (twoPosts store source qid first second) events).store qid =
        ranksOf served qid) ↔
      ¬Mixes store qid first second events) := by
  rcases store_of_interleaved provider source keyed fit fit' h with
    ⟨hreads, hturn⟩ | ⟨hreads, hlast, hstore⟩ | ⟨hreads, hlast, hstore⟩
  · have hmixes : ¬Mixes store qid first second events := fun hm => hreads hm.1
    exact ⟨fun entry hm => ⟨_, hturn, hm⟩, iff_of_true ⟨_, hturn, rfl⟩ hmixes⟩
  · rw [hstore, Mixes, if_pos hlast]
    refine ⟨fun entry hm => mem_across keyed fit fit' hm, ?_⟩
    rw [across_in_turn_iff keyed fit fit']
    simp only [hreads, true_and]
  · rw [hstore, Mixes, if_neg hlast]
    simp only [Or.comm (a := InTurn store qid first second _)]
    refine ⟨fun entry hm => mem_across keyed fit' fit hm, ?_⟩
    rw [across_in_turn_iff keyed fit' fit]
    simp only [hreads, true_and]

/-- The store of a query with two results that nobody has ranked yet. -/
def unranked : Store where
  queries := [⟨"q", "x"⟩]
  results := [
    ⟨"q-a", "q", 0, none, Json.render (.object [("url", .text "a")])⟩,
    ⟨"q-b", "q", 1, none, Json.render (.object [("url", .text "b")])⟩]
  experiments := []

/-- A provider that never has anything. -/
def silent : Provider Unit where
  search _ _ := (.ok (.list []), ())

/-- Both results in one place. -/
def together : Ranks := [("q-a", some 1), ("q-b", some 1)]

/-- The second result alone in another place. -/
def alone : Ranks := [("q-a", none), ("q-b", some 2)]

/-- The posts do not mix if the one that commits last has found none of its ranks in place. -/
theorem ranksOf_posts_alone_together :
    unranked.Keyed ∧ Interleaves [.post 0, .post 0] [.post 1, .post 1]
        [Event.post 0, .post 1, .post 0, .post 1] ∧
      ∃ served, (InTurn unranked "q" alone together served ∨
          InTurn unranked "q" together alone served) ∧
        ranksOf (run silent (twoPosts unranked () "q" alone together)
          [.post 0, .post 1, .post 0, .post 1]).store "q" = ranksOf served "q" := by
  have hkeyed : unranked.Keyed := by decide
  have hevents : Interleaves [.post 0, .post 0] [.post 1, .post 1]
      [Event.post 0, .post 1, .post 0, .post 1] := .left (.right (.left (.right .nil)))
  have hnew : ∀ row ∈ unranked.rowsOf "q", together.lookup row.id ≠ some row.annotatedRank := by
    decide
  refine ⟨hkeyed, hevents, (ranksOf_posts_iff_not_mixes silent ()
    hkeyed (by decide) (by decide) hevents).2.mpr ?_⟩
  rintro ⟨-, hmixes⟩
  rw [if_pos (by decide)] at hmixes
  obtain ⟨⟨row, hm, -, hfound⟩, -⟩ := hmixes
  exact hnew row hm hfound

/-- Posts that mix leave ranks that no turn gives: the last post, having found no rank at the
first result, leaves there the rank that the other one has written, and writes its own at the
second result. -/
theorem posts_mix :
    unranked.Keyed ∧ Interleaves [.post 0, .post 0] [.post 1, .post 1]
        [Event.post 0, .post 1, .post 0, .post 1] ∧
      together.all (fun entry => Store.rankFits entry.2) = true ∧
      alone.all (fun entry => Store.rankFits entry.2) = true ∧
      ranksOf (run silent (twoPosts unranked () "q" together alone)
        [.post 0, .post 1, .post 0, .post 1]).store "q" = [("q-a", some 1), ("q-b", some 2)] ∧
      (∀ served, InTurn unranked "q" together alone served →
        ranksOf served "q" = [("q-a", none), ("q-b", some 2)]) ∧
      (∀ served, InTurn unranked "q" alone together served →
        ranksOf served "q" = [("q-a", some 1), ("q-b", some 1)]) ∧
      ¬∃ served, (InTurn unranked "q" together alone served ∨
          InTurn unranked "q" alone together served) ∧
        ranksOf (run silent (twoPosts unranked () "q" together alone)
          [.post 0, .post 1, .post 0, .post 1]).store "q" = ranksOf served "q" := by
  have horder : ∀ served, InTurn unranked "q" together alone served →
      ranksOf served "q" = [("q-a", none), ("q-b", some 2)] := by
    intro served h
    rw [(inTurn_iff (by decide) (by decide) (by decide)).mp h]
    decide
  have hreversed : ∀ served, InTurn unranked "q" alone together served →
      ranksOf served "q" = [("q-a", some 1), ("q-b", some 1)] := by
    intro served h
    rw [(inTurn_iff (by decide) (by decide) (by decide)).mp h]
    decide
  refine ⟨by decide, .left (.right (.left (.right .nil))), by decide, by decide, by decide,
    horder, hreversed, ?_⟩
  rintro ⟨served, h | h, heq⟩
  · rw [horder served h] at heq
    revert heq
    decide
  · rw [hreversed served h] at heq
    revert heq
    decide

end Room

end SearchAnnotation.View
