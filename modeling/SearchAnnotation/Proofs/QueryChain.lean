import Mathlib.Data.Finset.Card
import SearchAnnotation.Proofs.ConsistentStores
import SearchAnnotation.Proofs.FirstOccurrences
import SearchAnnotation.Proofs.QueryTables
import SearchAnnotation.Service.Body

/-!
# The chain of queries

An import appends the first occurrences of the names that are not stored yet, or is refused if one
of them cannot be stored. So what is stored of several batches is what would be stored of all of
them together, and a batch of stored names adds nothing. In every store that a session leads to, the
links of a query lead to its neighbours in the chain, whose ends have none, and going on from the
first query meets each query just once. A table with numbered rows that sees the same imports has
the same chain and the same links.
-/

namespace SearchAnnotation

open FirstOccurrences

/-- A posted query as it is stored, if it can be. -/
def PostedQuery.query? : PostedQuery → Option Query
  | ⟨some qid, some text⟩ => some ⟨qid, text⟩
  | _ => none

theorem PostedQuery.query?_eq_some {posted : PostedQuery} {query : Query} :
    posted.query? = some query ↔ posted = ⟨some query.qid, some query.text⟩ := by
  constructor
  · intro h
    match posted, h with
    | ⟨some qid, some text⟩, rfl => rfl
  · rintro rfl
    rfl

namespace Store

variable {store saved : Store} {batch : List PostedQuery} {count : Nat}

/-- The queries of a batch that are new to a store: the first ones with their names, as far as
these are not stored yet. -/
def newcomers (store : Store) (batch : List PostedQuery) : List PostedQuery :=
  (firsts (fun a b => a.qid == b.qid) batch).filter fun posted =>
    !(store.knownNames.map some).contains posted.qid

/-- What an import that goes through says and does. -/
structure Imported (store : Store) (batch : List PostedQuery) (saved : Store) (count : Nat) :
    Prop where
  /-- It counts the names of the batch that were not stored before. -/
  counted : count =
    ((batch.filterMap PostedQuery.qid).toFinset \ store.knownNames.toFinset).card
  /-- It puts the newcomers after the stored queries, and changes nothing else. -/
  appended : saved =
    { store with queries := store.queries ++ (store.newcomers batch).filterMap PostedQuery.query? }
  /-- The names of the batch are stored afterwards. -/
  named : ∀ name, name ∈ saved.knownNames ↔
    name ∈ store.knownNames ∨ some name ∈ batch.map PostedQuery.qid
  /-- Stored names add nothing, whatever the texts are. -/
  settled : ∀ again : List PostedQuery,
    (∀ posted ∈ again, ∃ name ∈ saved.knownNames, posted.qid = some name) →
      saved.addQueries again = .ok (saved, 0)

/-- What an import does. -/
structure Imports (store : Store) (batch : List PostedQuery) : Prop where
  /-- It is refused exactly if one of the newcomers cannot be stored. -/
  refused : store.addQueries batch = .error .unencodable ↔
    ∃ posted ∈ store.newcomers batch, posted.query? = none
  /-- Otherwise it goes through. -/
  goes : (∀ posted ∈ store.newcomers batch, posted.query? ≠ none) →
    ∃ saved count, store.addQueries batch = .ok (saved, count) ∧ Imported store batch saved count
  /-- An import of two batches is an import of the one and then of the other. -/
  inTurn : ∀ more, store.addQueries (batch ++ more) = do
    let (between, first) ← store.addQueries batch
    let (later, second) ← between.addQueries more
    return (later, first + second)

/-- A scan finds what a batch has new, and the new queries are those, if all of them can be
stored. -/
theorem newQueries?_eq_some {known : List String} {fresh : List Query} :
    newQueries? known batch = some fresh ↔
      (∀ posted ∈ scan PostedQuery.qid (known.map some) batch, posted.query? ≠ none) ∧
        fresh = (scan PostedQuery.qid (known.map some) batch).filterMap PostedQuery.query? := by
  induction batch generalizing known fresh with
  | nil =>
    simp only [newQueries?, scan, Option.some.injEq, List.not_mem_nil, false_implies,
      implies_true, List.filterMap_nil, true_and, eq_comm]
  | cons posted rest ih =>
    obtain ⟨_ | qid, text⟩ := posted
    · -- A query without a name is new, and cannot be stored.
      have hnew : ¬(known.map some).contains (none : Option String) = true := by
        simp only [List.contains_iff_mem, List.mem_map, reduceCtorEq, and_false, exists_false,
          not_false_eq_true]
      rw [newQueries?, scan, if_neg hnew]
      exact iff_of_false (Option.some_ne_none fresh).symm fun h => h.1 _ List.mem_cons_self rfl
    · have hname : (known.map some).contains (some qid) = true ↔ qid ∈ known := by
        rw [List.contains_iff_mem, List.mem_map_of_injective (Option.some_injective _)]
      rw [newQueries?_cons_eq_some, scan]
      by_cases hknown : qid ∈ known
      · rw [if_pos (hname.mpr hknown), ← ih]
        simp only [hknown, true_and, not_true_eq_false, false_and, or_false]
      · rw [if_neg (mt hname.mp hknown), List.forall_mem_cons]
        cases text with
        | none =>
          refine iff_of_false ?_ fun h => h.1.1 rfl
          rintro (⟨h, -⟩ | ⟨-, t, later, h, -⟩)
          · exact hknown h
          · cases h
        | some text =>
          have hstored : (⟨some qid, some text⟩ : PostedQuery).query? = some ⟨qid, text⟩ := rfl
          have hrest : ∀ later, newQueries? (qid :: known) rest = some later ↔
              (∀ posted ∈ scan PostedQuery.qid (some qid :: known.map some) rest,
                posted.query? ≠ none) ∧
              later = (scan PostedQuery.qid (some qid :: known.map some) rest).filterMap
                PostedQuery.query? := fun later => ih
          rw [List.filterMap_cons_some hstored, hstored]
          constructor
          · rintro (⟨h, -⟩ | ⟨-, t, later, ht, hlater, rfl⟩)
            · exact absurd h hknown
            · obtain ⟨hall, rfl⟩ := (hrest later).mp hlater
              cases ht
              exact ⟨⟨Option.some_ne_none _, hall⟩, rfl⟩
          · rintro ⟨⟨-, hall⟩, rfl⟩
            exact .inr ⟨hknown, text, _, rfl, (hrest _).mpr ⟨hall, rfl⟩, rfl⟩

/-- The queries that an import finds new are the newcomers. -/
theorem newQueries?_knownNames {fresh : List Query} :
    newQueries? store.knownNames batch = some fresh ↔
      (∀ posted ∈ store.newcomers batch, posted.query? ≠ none) ∧
        fresh = (store.newcomers batch).filterMap PostedQuery.query? := by
  rw [newQueries?_eq_some, scan_eq, newcomers]

/-- An import goes through if all newcomers can be stored, and then it stores them. -/
theorem addQueries_eq_ok_iff : store.addQueries batch = .ok (saved, count) ↔
    (∀ posted ∈ store.newcomers batch, posted.query? ≠ none) ∧
      saved = { store with
        queries := store.queries ++ (store.newcomers batch).filterMap PostedQuery.query? } ∧
      count = ((store.newcomers batch).filterMap PostedQuery.query?).length := by
  rw [addQueries_eq_ok]
  constructor
  · rintro ⟨fresh, hnew, hsaved, hcount⟩
    obtain ⟨hall, rfl⟩ := newQueries?_knownNames.mp hnew
    exact ⟨hall, hsaved, hcount⟩
  · rintro ⟨hall, hsaved, hcount⟩
    exact ⟨_, newQueries?_knownNames.mpr ⟨hall, rfl⟩, hsaved, hcount⟩

/-- A name is one of the newcomers' if it is in the batch and not stored. -/
theorem mem_names_newcomers {name : String} :
    some name ∈ (store.newcomers batch).map PostedQuery.qid ↔
      some name ∈ batch.map PostedQuery.qid ∧ name ∉ store.knownNames := by
  have hknown : (store.knownNames.map some).contains (some name) = true ↔
      name ∈ store.knownNames := by
    rw [List.contains_iff_mem, List.mem_map_of_injective (Option.some_injective _)]
  constructor
  · intro hm
    obtain ⟨posted, hposted, hname⟩ := List.mem_map.mp hm
    obtain ⟨hfirst, hnew⟩ := List.mem_filter.mp hposted
    rw [hname, Bool.not_eq_true', ← Bool.not_eq_true] at hnew
    exact ⟨hname ▸ List.mem_map_of_mem (mem_of_mem_firsts hfirst), mt hknown.mpr hnew⟩
  · rintro ⟨hm, hnew⟩
    obtain ⟨posted, hposted, hname⟩ := List.mem_map.mp hm
    obtain ⟨first, hfirst, hsame⟩ := exists_key_mem_firsts PostedQuery.qid hposted
    refine List.mem_map.mpr ⟨first, List.mem_filter.mpr ⟨hfirst, ?_⟩, hsame.trans hname⟩
    rw [hsame, hname, Bool.not_eq_true', ← Bool.not_eq_true]
    exact mt hknown.mp hnew

section Storable

variable (storable : ∀ posted ∈ store.newcomers batch, posted.query? ≠ none)
include storable

/-- If all newcomers can be stored, they are stored under their names. -/
theorem map_qid_newcomers : (((store.newcomers batch).filterMap PostedQuery.query?).map
    Query.qid).map some = (store.newcomers batch).map PostedQuery.qid := by
  generalize store.newcomers batch = newcomers at storable
  induction newcomers with
  | nil => rfl
  | cons posted rest ih =>
    obtain ⟨hposted, hrest⟩ := List.forall_mem_cons.mp storable
    obtain ⟨query, hquery⟩ := Option.ne_none_iff_exists'.mp hposted
    rw [List.filterMap_cons_some hquery, List.map_cons, List.map_cons, List.map_cons, ih hrest,
      PostedQuery.query?_eq_some.mp hquery]

/-- There are as many newcomers as new names. -/
theorem length_newcomers : ((store.newcomers batch).filterMap PostedQuery.query?).length =
    ((batch.filterMap PostedQuery.qid).toFinset \ store.knownNames.toFinset).card := by
  have hmap := map_qid_newcomers storable
  have hnodup : (((store.newcomers batch).filterMap PostedQuery.query?).map Query.qid).Nodup := by
    have hkeys : ((store.newcomers batch).map PostedQuery.qid).Nodup :=
      (nodup_key_firsts PostedQuery.qid batch).sublist
        (List.filter_sublist.map PostedQuery.qid)
    rw [← hmap] at hkeys
    exact hkeys.of_map
  have hnames : (((store.newcomers batch).filterMap PostedQuery.query?).map Query.qid).toFinset =
      (batch.filterMap PostedQuery.qid).toFinset \ store.knownNames.toFinset := by
    ext name
    rw [List.mem_toFinset, Finset.mem_sdiff, List.mem_toFinset, List.mem_toFinset,
      ← List.mem_map_of_injective (Option.some_injective _), hmap, mem_names_newcomers,
      List.mem_filterMap, List.mem_map]
  rw [← hnames, List.toFinset_card_of_nodup hnodup, List.length_map]

theorem mem_names_of_newcomers {name : String} :
    name ∈ Store.knownNames { store with
        queries := store.queries ++ (store.newcomers batch).filterMap PostedQuery.query? } ↔
      name ∈ store.knownNames ∨ some name ∈ batch.map PostedQuery.qid := by
  have hnew : name ∈ ((store.newcomers batch).filterMap PostedQuery.query?).map Query.qid ↔
      some name ∈ batch.map PostedQuery.qid ∧ name ∉ store.knownNames := by
    rw [← List.mem_map_of_injective (Option.some_injective _), map_qid_newcomers storable,
      mem_names_newcomers]
  rw [knownNames, List.map_append, List.mem_append, hnew]
  by_cases hstored : name ∈ store.knownNames
  · exact iff_of_true (.inl hstored) (.inl hstored)
  · rw [and_iff_left hstored]
    exact Iff.rfl

end Storable

/-- A batch of stored names adds nothing. -/
theorem addQueries_of_known
    (known : ∀ posted ∈ batch, ∃ name ∈ store.knownNames, posted.qid = some name) :
    store.addQueries batch = .ok (store, 0) := by
  have hnone : store.newcomers batch = [] := by
    refine List.filter_eq_nil_iff.mpr fun posted hm hnew => ?_
    obtain ⟨name, hname, hqid⟩ := known posted (mem_of_mem_firsts hm)
    rw [hqid, List.contains_iff_mem.mpr (List.mem_map_of_mem hname)] at hnew
    cases hnew
  refine addQueries_eq_ok_iff.mpr ?_
  rw [hnone, List.filterMap_nil, List.append_nil]
  exact ⟨fun _ hm => (nomatch hm), rfl, rfl⟩

/-- Names that are known alike lead to the same new queries. -/
theorem newQueries?_congr {known known' : List String}
    (h : ∀ name, name ∈ known ↔ name ∈ known') (batch : List PostedQuery) :
    newQueries? known batch = newQueries? known' batch := by
  induction batch generalizing known known' with
  | nil => rfl
  | cons posted rest ih =>
    obtain ⟨_ | qid, text⟩ := posted
    · rfl
    · have hcontains : known.contains qid = known'.contains qid := by
        rw [Bool.eq_iff_iff, List.contains_iff_mem, List.contains_iff_mem, h]
      have hmore : ∀ name, name ∈ qid :: known ↔ name ∈ qid :: known' := by
        intro name
        rw [List.mem_cons, List.mem_cons, h]
      rw [newQueries?, newQueries?, hcontains, ih h, ih hmore]

/-- What is new in two batches is what is new in the first one and then in the second. -/
theorem newQueries?_append (known : List String) (batch more : List PostedQuery) :
    newQueries? known (batch ++ more) = (newQueries? known batch).bind fun fresh =>
      (newQueries? (known ++ fresh.map Query.qid) more).map (fresh ++ ·) := by
  induction batch generalizing known with
  | nil =>
    rw [List.nil_append, newQueries?, Option.bind_some, List.map_nil, List.append_nil]
    have hid : (fun fresh : List Query => [] ++ fresh) = id := rfl
    rw [hid, Option.map_id, id]
  | cons posted rest ih =>
    obtain ⟨_ | qid, text⟩ := posted
    · rfl
    rw [List.cons_append, newQueries?, newQueries?]
    split
    · exact ih known
    · cases text with
      | none => rfl
      | some text =>
        rw [Option.bind_some, Option.bind_some, ih]
        cases newQueries? (qid :: known) rest with
        | none => rfl
        | some fresh =>
          have hnames : ∀ name, name ∈ qid :: known ++ fresh.map Query.qid ↔
              name ∈ known ++ (⟨qid, text⟩ :: fresh : List Query).map Query.qid := by
            intro name
            simp only [List.cons_append, List.mem_cons, List.mem_append, List.map_cons,
              or_left_comm]
          simp only [Option.bind_some, Option.map_some, Option.map_map]
          rw [newQueries?_congr hnames]
          rfl

/-- Two imports in turn are one import of both batches. -/
theorem addQueries_append (store : Store) (batch more : List PostedQuery) :
    store.addQueries (batch ++ more) = do
      let (between, first) ← store.addQueries batch
      let (later, second) ← between.addQueries more
      return (later, first + second) := by
  cases hfirst : newQueries? store.knownNames batch with
  | none =>
    rw [addQueries_eq_error.mpr ⟨hfirst, rfl⟩, addQueries_eq_error.mpr ⟨?_, rfl⟩]
    · rfl
    · rw [newQueries?_append, hfirst, Option.bind_none]
  | some fresh =>
    have hbatch : store.addQueries batch = .ok _ := addQueries_eq_ok.mpr ⟨fresh, hfirst, rfl, rfl⟩
    have hnames : Store.knownNames { store with queries := store.queries ++ fresh } =
        store.knownNames ++ fresh.map Query.qid := List.map_append
    have happend := newQueries?_append store.knownNames batch more
    rw [hfirst, Option.bind_some, ← hnames] at happend
    rw [hbatch]
    cases hmore : newQueries? (Store.knownNames { store with
        queries := store.queries ++ fresh }) more with
    | none =>
      rw [hmore] at happend
      rw [addQueries_eq_error.mpr ⟨happend, rfl⟩, Outcome.ok_bind]
      dsimp only
      rw [addQueries_eq_error.mpr ⟨hmore, rfl⟩]
      rfl
    | some later =>
      rw [hmore] at happend
      have hboth : store.addQueries (batch ++ more) = .ok _ :=
        addQueries_eq_ok.mpr ⟨fresh ++ later, happend, rfl, rfl⟩
      rw [hboth, Outcome.ok_bind]
      dsimp only
      rw [addQueries_eq_ok.mpr ⟨later, hmore, rfl, rfl⟩, List.length_append, List.append_assoc]
      rfl

theorem imports (store : Store) (batch : List PostedQuery) : store.Imports batch where
  refused := by
    rw [addQueries_eq_error, and_iff_left rfl]
    constructor
    · intro hnone
      by_contra hnot
      have hall : ∀ posted ∈ store.newcomers batch, posted.query? ≠ none :=
        fun posted hm hposted => hnot ⟨posted, hm, hposted⟩
      rw [newQueries?_knownNames.mpr ⟨hall, rfl⟩] at hnone
      cases hnone
    · rintro ⟨posted, hm, hposted⟩
      refine Option.eq_none_iff_forall_ne_some.mpr fun fresh h => ?_
      exact (newQueries?_knownNames.mp h).1 posted hm hposted
  goes storable := by
    refine ⟨_, _, addQueries_eq_ok_iff.mpr ⟨storable, rfl, rfl⟩, ?_⟩
    exact ⟨length_newcomers storable, rfl, fun _ => mem_names_of_newcomers storable,
      fun _ => addQueries_of_known⟩
  inTurn := addQueries_append store batch

/-- The query that so many links onwards lead to from the first one. -/
def followed (store : Store) : Nat → Option Query
  | 0 => store.queries.head?
  | n + 1 => (store.followed n).bind fun query => store.next? query.qid

/-- What the links of a chain say. -/
structure Linked (store : Store) : Prop where
  /-- Each link onwards leads to the next query, and there is none at the end. -/
  onwards : ∀ i query, store.queries[i]? = some query →
    store.next? query.qid = store.queries[i + 1]?
  /-- No link leads back from the first query. -/
  start : ∀ query, store.queries[0]? = some query → store.previous? query.qid = none
  /-- Each other link back leads to the query before. -/
  back : ∀ i query, store.queries[i + 1]? = some query →
    store.previous? query.qid = store.queries[i]?
  /-- An unknown name has no links. -/
  unknown : ∀ qid, qid ∉ store.knownNames → store.previous? qid = none ∧ store.next? qid = none
  /-- A link onwards is undone by one back, and the other way round. -/
  undone : ∀ a ∈ store.queries, ∀ b ∈ store.queries,
    store.next? a.qid = some b ↔ store.previous? b.qid = some a
  /-- Going on from the first query meets the queries in the order of the chain. -/
  visits : ∀ n, store.followed n = store.queries[n]?
  /-- Each query is met just once. -/
  once : ∀ query ∈ store.queries, ∃! n, store.followed n = some query
  /-- Going on ends after the last query. -/
  ends : ∀ n, store.followed n = none ↔ store.queries.length ≤ n

section Links

variable (names : store.knownNames.Nodup) {i j : Nat} {query other : Query}
include names

/-- A chain splits at each of its queries, whose name none of those before it has. -/
theorem split_of_getElem? (h : store.queries[i]? = some query) :
    store.queries = store.queries.take i ++ query :: store.queries.drop (i + 1) ∧
      ∀ before ∈ store.queries.take i, before.qid ≠ query.qid := by
  obtain ⟨hi, hquery⟩ := List.getElem?_eq_some_iff.mp h
  have hsplit : store.queries = store.queries.take i ++ query :: store.queries.drop (i + 1) := by
    rw [← hquery, List.cons_getElem_drop_succ, List.take_append_drop]
  refine ⟨hsplit, fun before hm he => ?_⟩
  have hnames := names
  rw [knownNames, hsplit, List.map_append, List.map_cons] at hnames
  exact (List.nodup_append.mp hnames).2.2 _ (List.mem_map_of_mem hm) _ List.mem_cons_self he

theorem next?_of_getElem? (h : store.queries[i]? = some query) :
    store.next? query.qid = store.queries[i + 1]? := by
  obtain ⟨hsplit, hothers⟩ := split_of_getElem? names h
  have hnext : after? query.qid (store.queries.take i ++ query :: store.queries.drop (i + 1)) =
      (store.queries.drop (i + 1)).head? := after?_append rfl hothers
  rw [← hsplit, List.head?_drop] at hnext
  exact hnext

theorem previous?_of_getElem? (h : store.queries[i]? = some query) :
    store.previous? query.qid = (store.queries.take i).getLast? := by
  obtain ⟨hsplit, hothers⟩ := split_of_getElem? names h
  have hprevious :
      before? query.qid (store.queries.take i ++ query :: store.queries.drop (i + 1)) =
        (store.queries.take i).getLast? := before?_append rfl hothers
  rw [← hsplit] at hprevious
  exact hprevious

theorem previous?_of_getElem?_succ (h : store.queries[i + 1]? = some query) :
    store.previous? query.qid = store.queries[i]? := by
  obtain ⟨hi, -⟩ := List.getElem?_eq_some_iff.mp h
  have hlt : i < store.queries.length := by omega
  rw [previous?_of_getElem? names h, List.take_succ_eq_append_getElem hlt,
    List.getLast?_append_of_ne_nil _ (List.cons_ne_nil _ _), List.getElem?_eq_getElem hlt]
  rfl

/-- A query stands at one place only. -/
theorem index_unique (hi : store.queries[i]? = some query) (hj : store.queries[j]? = some query) :
    i = j :=
  (List.getElem?_inj (List.getElem?_eq_some_iff.mp hi).1 names.of_map).mp (hi.trans hj.symm)

theorem next?_eq_some_iff (ha : query ∈ store.queries) (hb : other ∈ store.queries) :
    store.next? query.qid = some other ↔ store.previous? other.qid = some query := by
  obtain ⟨i, hi⟩ := List.mem_iff_getElem?.mp ha
  obtain ⟨j, hj⟩ := List.mem_iff_getElem?.mp hb
  rw [next?_of_getElem? names hi]
  constructor
  · intro h
    rw [previous?_of_getElem?_succ names h, hi]
  · intro h
    cases j with
    | zero =>
      rw [previous?_of_getElem? names hj] at h
      cases h
    | succ j =>
      rw [previous?_of_getElem?_succ names hj] at h
      rw [index_unique names hi h, hj]

theorem followed_eq_getElem? (n : Nat) : store.followed n = store.queries[n]? := by
  induction n with
  | zero => exact List.head?_eq_getElem?
  | succ n ih =>
    rw [followed, ih]
    cases hn : store.queries[n]? with
    | none =>
      have hlong := List.getElem?_eq_none_iff.mp hn
      exact (List.getElem?_eq_none (by omega)).symm
    | some query => exact next?_of_getElem? names hn

/-- A chain without repeated names is linked as it should be. -/
theorem linked_of_names : store.Linked where
  onwards _ _ h := next?_of_getElem? names h
  start _ h := previous?_of_getElem? names h
  back _ _ h := previous?_of_getElem?_succ names h
  unknown _ h := ⟨before?_of_notMem h, after?_of_notMem h⟩
  undone _ ha _ hb := next?_eq_some_iff names ha hb
  visits := followed_eq_getElem? names
  once query hm := by
    obtain ⟨n, hn⟩ := List.mem_iff_getElem?.mp hm
    refine ⟨n, (followed_eq_getElem? names n).trans hn, fun other hother => ?_⟩
    exact index_unique names ((followed_eq_getElem? names other).symm.trans hother) hn
  ends n := by rw [followed_eq_getElem? names, List.getElem?_eq_none_iff]

end Links

end Store

namespace QueryTable

/-- A table after one more call, of which it sees only imports. -/
def step (table : QueryTable) : Call → QueryTable
  | .addQueries batch =>
    match table.addQueries batch with
    | .error _ => table
    | .ok (grown, _) => grown
  | _ => table

/-- The table after calls in order. -/
def imported (calls : List Call) : QueryTable := calls.foldl step empty

/-- Whether a table answers as a store does, and goes on doing so after an import. -/
structure Represents (table : QueryTable) (store : Store) : Prop where
  /-- It lists the same chain. -/
  listed : table.listed = store.queries
  /-- Its links back are the same. -/
  previous : ∀ qid, table.previous? qid = store.previous? qid
  /-- Its links onwards are the same. -/
  next : ∀ qid, table.next? qid = store.next? qid
  /-- It is refused the same imports, counts the same new queries and lists the same chain after
  each batch. -/
  grown : ∀ batch, (table.addQueries batch).map (fun (grown, count) => (grown.listed, count)) =
    (store.addQueries batch).map fun (saved, count) => (saved.queries, count)

variable {table : QueryTable}

theorem Holds.represents {store : Store} (h : table.Holds store) : table.Represents store where
  listed := h.listed_eq
  previous := h.previous?_eq
  next := h.next?_eq
  grown batch := by
    rcases h.addQueries batch with ⟨grown, saved, count, htable, hstore, hholds⟩ | ⟨htable, hstore⟩
    · simp only [htable, hstore, Except.map, hholds.listed_eq]
    · simp only [htable, hstore, Except.map]

theorem Holds.of_queries_eq {store later : Store} (h : table.Holds store)
    (same : later.queries = store.queries) : table.Holds later :=
  ⟨h.increasing, h.queries.trans same.symm⟩

end QueryTable

namespace Session

variable {σ : Type} {session : Session σ} {table : QueryTable}

/-- Each call leaves a table that holds the chain. -/
theorem holds_step (provider : Provider σ) (keyed : session.store.Keyed)
    (h : table.Holds session.store) (call : Call) :
    (table.step call).Holds (step provider session call).store := by
  cases call with
  | addQueries batch =>
    simp only [step, QueryTable.step]
    rcases h.addQueries batch with ⟨grown, saved, count, htable, hstore, hholds⟩ | ⟨htable, hstore⟩
    · simp only [htable, hstore]
      exact hholds
    · simp only [htable, hstore]
      exact h
  | loadPage qid =>
    exact h.of_queries_eq
      (View.course_load provider.noted qid session.store (session.source, [])).queries_eq
  | saveAnnotations qid ranks =>
    simp only [step]
    cases hpost : session.store.saveAnnotations qid ranks with
    | error why => exact h
    | ok saved =>
      obtain ⟨store, count⟩ := saved
      obtain ⟨-, hstore, -⟩ := (Store.saveAnnotations_eq_ok keyed).mp hpost
      exact h.of_queries_eq (by rw [hstore]; rfl)
  | saveExperiment query variantA variantB data => exact h.of_queries_eq rfl
  | clearExperiments => exact h.of_queries_eq rfl

/-- Calls in a row leave a table that holds the chain. -/
theorem holds_run (provider : Provider σ) (c : session.store.Consistent)
    (h : table.Holds session.store) (calls : List Call) :
    (calls.foldl QueryTable.step table).Holds (run provider session calls).store := by
  induction calls generalizing session table with
  | nil => exact h
  | cons call rest ih =>
    exact ih (consistent_step provider c call).1 (holds_step provider c.keyed h call)

end Session

end SearchAnnotation
