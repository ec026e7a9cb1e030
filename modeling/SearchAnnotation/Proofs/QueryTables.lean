import Mathlib.Data.List.Nodup
import SearchAnnotation.Proofs.ChainLinks
import SearchAnnotation.Proofs.NewQueries
import SearchAnnotation.Store.QueryTable

/-!
# Tables of queries and their chains

Rows get larger and larger numbers in the order in which they are added. So the rows by number are
the rows in the order of their addition, those below a row are the ones added before it, and those
above it are the ones added later. A table whose rows hold the chain of a store in this order
therefore answers as the store does: it lists the same queries, has the same links and counts the
same new queries of a batch.
-/

namespace SearchAnnotation.QueryTable

variable {table : QueryTable}

/-- Whether the numbers of the rows increase in the order of their addition. -/
def Increasing (table : QueryTable) : Prop :=
  table.rows.Pairwise fun a b => a.number < b.number

theorem increasing_empty : empty.Increasing := .nil

theorem le_foldl_max (rows : List QueryRow) (n : Nat) :
    n ≤ rows.foldl (fun n row => max n row.number) n ∧
      ∀ row ∈ rows, row.number ≤ rows.foldl (fun n row => max n row.number) n := by
  induction rows generalizing n with
  | nil => exact ⟨Nat.le_refl n, fun row hm => nomatch hm⟩
  | cons first rest ih =>
    obtain ⟨hstart, hrest⟩ := ih (max n first.number)
    refine ⟨Nat.le_trans (Nat.le_max_left n first.number) hstart, fun row hm => ?_⟩
    rcases List.mem_cons.mp hm with rfl | hm
    · exact Nat.le_trans (Nat.le_max_right n row.number) hstart
    · exact hrest row hm

/-- The number of the next row is larger than all numbers in use. -/
theorem number_lt_nextNumber {row : QueryRow} (hm : row ∈ table.rows) :
    row.number < table.nextNumber :=
  Nat.lt_succ_of_le ((le_foldl_max table.rows 0).2 row hm)

/-- A new row gets a number that keeps the numbers increasing. -/
theorem Increasing.insert (h : table.Increasing) (query : Query) :
    (table.insert query).Increasing := by
  refine List.pairwise_append.mpr ⟨h, List.pairwise_singleton _ _, fun row hm next hnext => ?_⟩
  rw [List.mem_singleton.mp hnext]
  exact number_lt_nextNumber hm

/-- Rows whose numbers decrease strictly are what any order of them sorts to, the largest number
first. -/
theorem mergeSort_eq_reverse {rows : List QueryRow}
    (h : rows.Pairwise fun a b => a.number < b.number) :
    (rows.mergeSort fun a b => b.number ≤ a.number) = rows.reverse := by
  have hperm : (rows.mergeSort fun a b => b.number ≤ a.number).Perm rows.reverse :=
    (List.mergeSort_perm rows _).trans (List.reverse_perm rows).symm
  have hsorted : (rows.mergeSort fun a b => b.number ≤ a.number).Pairwise fun a b =>
      b.number ≤ a.number := by
    refine (List.pairwise_mergeSort (fun a b c hab hbc => ?_) (fun a b => ?_) rows).imp
      fun hab => of_decide_eq_true hab
    · simp only [decide_eq_true_eq] at hab hbc ⊢
      exact Nat.le_trans hbc hab
    · simp only [Bool.or_eq_true, decide_eq_true_eq]
      exact Nat.le_total b.number a.number
  have hreverse : rows.reverse.Pairwise fun a b => b.number ≤ a.number :=
    List.pairwise_reverse.mpr (h.imp Nat.le_of_lt)
  have hnumbers : (rows.map QueryRow.number).Nodup :=
    List.pairwise_map.mpr (h.imp Nat.ne_of_lt)
  refine hperm.eq_of_pairwise (fun a b ha hb hba hab => ?_) hsorted hreverse
  exact List.inj_on_of_nodup_map hnumbers (List.mem_mergeSort.mp ha) (List.mem_reverse.mp hb)
    (Nat.le_antisymm hab hba)

/-- Rows whose numbers increase strictly are sorted. -/
theorem mergeSort_eq_self {rows : List QueryRow}
    (h : rows.Pairwise fun a b => a.number < b.number) :
    (rows.mergeSort fun a b => a.number ≤ b.number) = rows :=
  List.mergeSort_of_pairwise (h.imp fun hab => decide_eq_true (Nat.le_of_lt hab))

section Split

variable {front back : List QueryRow} {row : QueryRow}

/-- The rows below a row are the ones added before it, the latest one first. -/
theorem below_of_split (h : table.Increasing) (split : table.rows = front ++ row :: back) :
    table.below row.number = front.reverse := by
  rw [Increasing, split] at h
  obtain ⟨hfront, hback, hcross⟩ := List.pairwise_append.mp h
  have hkept : front.filter (fun other => other.number < row.number) = front :=
    List.filter_eq_self.mpr fun other hm =>
      decide_eq_true (hcross other hm row List.mem_cons_self)
  have hdropped : (row :: back).filter (fun other => other.number < row.number) = [] := by
    refine List.filter_eq_nil_iff.mpr fun other hm hlt => ?_
    rcases List.mem_cons.mp hm with rfl | hm
    · exact Nat.lt_irrefl _ (of_decide_eq_true hlt)
    · exact Nat.lt_asymm (of_decide_eq_true hlt) ((List.pairwise_cons.mp hback).1 other hm)
  rw [below, split, List.filter_append, hkept, hdropped, List.append_nil,
    mergeSort_eq_reverse hfront]

/-- The rows above a row are the ones added after it. -/
theorem above_of_split (h : table.Increasing) (split : table.rows = front ++ row :: back) :
    table.above row.number = back := by
  rw [Increasing, split] at h
  obtain ⟨-, hback, hcross⟩ := List.pairwise_append.mp h
  obtain ⟨hlater, hrest⟩ := List.pairwise_cons.mp hback
  have hdropped : front.filter (fun other => row.number < other.number) = [] :=
    List.filter_eq_nil_iff.mpr fun other hm hlt =>
      Nat.lt_asymm (of_decide_eq_true hlt) (hcross other hm row List.mem_cons_self)
  have hkept : (row :: back).filter (fun other => row.number < other.number) = back := by
    rw [List.filter_cons_of_neg (by simp only [Nat.lt_irrefl, decide_false, Bool.false_eq_true,
      not_false_eq_true])]
    exact List.filter_eq_self.mpr fun other hm => decide_eq_true (hlater other hm)
  rw [above, split, List.filter_append, hdropped, hkept, List.nil_append, mergeSort_eq_self hrest]

end Split

/-- Whether a table holds the chain of a store in the order of its rows. -/
structure Holds (table : QueryTable) (store : Store) : Prop where
  /-- The numbers increase. -/
  increasing : table.Increasing
  /-- The rows are those of the chain. -/
  queries : table.rows.map QueryRow.query = store.queries

variable {store : Store}

theorem holds_empty : empty.Holds Store.empty := ⟨increasing_empty, rfl⟩

theorem Holds.names_eq (h : table.Holds store) : table.names = store.knownNames := by
  rw [Store.knownNames, ← h.queries, List.map_map]
  rfl

/-- The table lists the chain. -/
theorem Holds.listed_eq (h : table.Holds store) : table.listed = store.queries := by
  rw [listed, mergeSort_eq_self h.increasing, h.queries]

/-- One more row holds one more query. -/
theorem Holds.insert (h : table.Holds store) (query : Query) :
    (table.insert query).Holds { store with queries := store.queries ++ [query] } where
  increasing := h.increasing.insert query
  queries := by
    rw [QueryTable.insert, List.map_append, h.queries]
    rfl

/-- More rows hold more queries. -/
theorem Holds.insertAll (h : table.Holds store) (queries : List Query) :
    (queries.foldl QueryTable.insert table).Holds
      { store with queries := store.queries ++ queries } := by
  induction queries generalizing table store with
  | nil => exact ⟨h.increasing, h.queries.trans (List.append_nil _).symm⟩
  | cons query rest ih =>
    have hrest := ih (h.insert query)
    rw [List.append_assoc, List.singleton_append] at hrest
    exact hrest

/-- An import of the table is that of the store: it is refused when the other is, and else it counts
as many new queries and holds what the other stores. -/
theorem Holds.addQueries (h : table.Holds store) (batch : List PostedQuery) :
    (∃ grown saved count, table.addQueries batch = .ok (grown, count) ∧
        store.addQueries batch = .ok (saved, count) ∧ grown.Holds saved) ∨
      table.addQueries batch = .error .unencodable ∧
        store.addQueries batch = .error .unencodable := by
  unfold QueryTable.addQueries
  rw [h.names_eq]
  cases hnew : Store.newQueries? store.knownNames batch with
  | none => exact .inr ⟨rfl, Store.addQueries_eq_error.mpr ⟨hnew, rfl⟩⟩
  | some queries =>
    exact .inl ⟨_, _, queries.length, rfl, Store.addQueries_eq_ok.mpr ⟨queries, hnew, rfl, rfl⟩,
      h.insertAll queries⟩

/-- The row of a name splits the table and the chain at the first query of the name. -/
theorem Holds.split_of_row? (h : table.Holds store) {qid : String} {row : QueryRow}
    (found : table.row? qid = some row) :
    ∃ front back, table.rows = front ++ row :: back ∧ row.query.qid = qid ∧
      (∀ query ∈ front.map QueryRow.query, query.qid ≠ qid) ∧
      store.queries = front.map QueryRow.query ++ row.query :: back.map QueryRow.query := by
  obtain ⟨hname, front, back, hsplit, hothers⟩ := List.find?_eq_some_iff_append.mp found
  refine ⟨front, back, hsplit, beq_iff_eq.mp hname, fun query hm he => ?_, ?_⟩
  · obtain ⟨other, hother, rfl⟩ := List.mem_map.mp hm
    have hnot := hothers other hother
    rw [he, beq_self_eq_true] at hnot
    cases hnot
  · rw [← h.queries, hsplit, List.map_append, List.map_cons]

/-- Without a row of a name the chain has no query of the name. -/
theorem Holds.notMem_of_row? (h : table.Holds store) {qid : String}
    (none : table.row? qid = none) : qid ∉ store.knownNames := by
  intro hm
  rw [← h.names_eq] at hm
  obtain ⟨row, hrow, hname⟩ := List.mem_map.mp hm
  exact List.find?_eq_none.mp none row hrow (beq_iff_eq.mpr hname)

/-- The link back of the table is that of the store. -/
theorem Holds.previous?_eq (h : table.Holds store) (qid : String) :
    table.previous? qid = store.previous? qid := by
  cases hrow : table.row? qid with
  | none =>
    rw [previous?, hrow, Store.previous?, Store.before?_of_notMem (h.notMem_of_row? hrow)]
    rfl
  | some row =>
    obtain ⟨front, back, hsplit, hname, hothers, hchain⟩ := h.split_of_row? hrow
    rw [previous?, hrow, Option.bind_some, below_of_split h.increasing hsplit, Store.previous?,
      hchain, Store.before?_append hname hothers, List.head?_reverse, List.getLast?_map]

/-- The link onwards of the table is that of the store. -/
theorem Holds.next?_eq (h : table.Holds store) (qid : String) :
    table.next? qid = store.next? qid := by
  cases hrow : table.row? qid with
  | none =>
    rw [next?, hrow, Store.next?, Store.after?_of_notMem (h.notMem_of_row? hrow)]
    rfl
  | some row =>
    obtain ⟨front, back, hsplit, hname, hothers, hchain⟩ := h.split_of_row? hrow
    rw [next?, hrow, Option.bind_some, above_of_split h.increasing hsplit, Store.next?,
      hchain, Store.after?_append hname hothers, List.head?_map]

end SearchAnnotation.QueryTable
