import SearchAnnotation.View

/-!
# Neighbours in the chain

A query is found as the first one of its name, and the links of its page lead to the queries right
before and right after it.
-/

namespace SearchAnnotation.Store

variable {qid : String} {query : Query} {front rest : List Query}

/-- The link back leads to the last query before the first one of the name. -/
theorem before?_append (name : query.qid = qid) (others : ∀ q ∈ front, q.qid ≠ qid) :
    before? qid (front ++ query :: rest) = front.getLast? := by
  induction front with
  | nil =>
    cases rest with
    | nil => rfl
    | cons next later =>
      rw [List.nil_append, before?, if_pos name]
      rfl
  | cons first more ih =>
    have hfirst : first.qid ≠ qid := others first List.mem_cons_self
    cases more with
    | nil =>
      rw [List.singleton_append, before?, if_neg hfirst, if_pos name]
      rfl
    | cons second later =>
      have hsecond : second.qid ≠ qid := others second (List.mem_cons_of_mem _ List.mem_cons_self)
      have hrest := ih fun q hm => others q (List.mem_cons_of_mem first hm)
      rw [List.cons_append] at hrest
      rw [List.cons_append, List.cons_append, before?, if_neg hfirst, if_neg hsecond, hrest,
        List.getLast?_cons_cons]

/-- The link onwards leads to the query after the first one of the name. -/
theorem after?_append (name : query.qid = qid) (others : ∀ q ∈ front, q.qid ≠ qid) :
    after? qid (front ++ query :: rest) = rest.head? := by
  induction front with
  | nil => rw [List.nil_append, after?, if_pos name]
  | cons first more ih =>
    rw [List.cons_append, after?, if_neg (others first List.mem_cons_self)]
    exact ih fun q hm => others q (List.mem_cons_of_mem first hm)

/-- No link leads back from a name that no query has. -/
theorem before?_of_notMem {chain : List Query} (absent : qid ∉ chain.map Query.qid) :
    before? qid chain = none := by
  induction chain with
  | nil => rfl
  | cons first rest ih =>
    obtain ⟨hfirst, hrest⟩ := not_or.mp (mt List.mem_cons.mpr absent)
    cases rest with
    | nil => rfl
    | cons second later =>
      obtain ⟨hsecond, -⟩ := not_or.mp (mt List.mem_cons.mpr hrest)
      rw [before?, if_neg (Ne.symm hfirst), if_neg (Ne.symm hsecond)]
      exact ih hrest

/-- No link leads onwards from a name that no query has. -/
theorem after?_of_notMem {chain : List Query} (absent : qid ∉ chain.map Query.qid) :
    after? qid chain = none := by
  induction chain with
  | nil => rfl
  | cons first rest ih =>
    obtain ⟨hfirst, hrest⟩ := not_or.mp (mt List.mem_cons.mpr absent)
    rw [after?, if_neg (Ne.symm hfirst)]
    exact ih hrest

/-- A query that is found under a name has this name. -/
theorem qid_eq_of_query? {store : Store} (h : store.query? qid = some query) : query.qid = qid := by
  have hname := List.find?_some h
  exact beq_iff_eq.mp hname

/-- The frame of a page has the first query of the name and its neighbours. -/
theorem frame?_eq_some {store : Store} {frame : View.Frame}
    (h : View.frame? store qid = some frame) :
    ∃ front rest, store.queries = front ++ frame.query :: rest ∧ frame.query.qid = qid ∧
      frame.previous = front.getLast? ∧ frame.next = rest.head? := by
  obtain ⟨query, hquery, rfl⟩ := Option.map_eq_some_iff.mp h
  obtain ⟨hname, front, rest, hsplit, hothers⟩ := List.find?_eq_some_iff_append.mp hquery
  have name : query.qid = qid := beq_iff_eq.mp hname
  have others : ∀ q ∈ front, q.qid ≠ qid := by
    intro q hm he
    have hnot := hothers q hm
    rw [he, beq_self_eq_true] at hnot
    cases hnot
  refine ⟨front, rest, hsplit, name, ?_, ?_⟩
  · exact (congrArg (before? qid) hsplit).trans (before?_append name others)
  · exact (congrArg (after? qid) hsplit).trans (after?_append name others)

/-- A page has no frame only if no query has the name. -/
theorem notMem_of_frame?_eq_none {store : Store} (h : View.frame? store qid = none) :
    qid ∉ store.queries.map Query.qid := by
  intro hm
  obtain ⟨query, hq, hname⟩ := List.mem_map.mp hm
  have hnone := List.find?_eq_none.mp (Option.map_eq_none_iff.mp h) query hq
  rw [hname, beq_self_eq_true] at hnone
  exact hnone rfl

end SearchAnnotation.Store
