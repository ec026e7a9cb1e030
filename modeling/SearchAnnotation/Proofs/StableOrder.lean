/-!
# Stable sorting

Two facts about sorting by a transitive and total order that need not tell all items apart: sorting
and passing over items can be exchanged, and items that the order does not tell apart stay as they
stood before. The first one follows items through a table, the second one settles every tie.
-/

namespace SearchAnnotation.StableOrder

variable {α : Type} {le : α → α → Bool}

/-- Sorting a list puts its first item behind the items that come strictly before it, and in front
of all other ones. -/
theorem mergeSort_cons_split (trans : ∀ a b c, le a b → le b c → le a c)
    (total : ∀ a b, le a b || le b a) (a : α) (rest : List α) :
    ∃ front back, (a :: rest).mergeSort le = front ++ a :: back ∧
      rest.mergeSort le = front ++ back ∧ (∀ b ∈ front, le a b = false) ∧
        ∀ b ∈ back, le a b = true := by
  obtain ⟨front, back, hs, hr, hf⟩ := List.mergeSort_cons trans total a rest
  refine ⟨front, back, hs, hr, fun b hb => by simpa only [Bool.not_eq_true'] using hf b hb, ?_⟩
  have hp := List.pairwise_mergeSort trans total (a :: rest)
  rw [hs] at hp
  exact (List.pairwise_cons.mp (List.pairwise_append.mp hp).2.1).1

/-- The parts of a list that fail and then pass a test are the items that fail and those that
pass. -/
theorem filter_append_of_split {test : α → Bool} {front back : List α}
    (hf : ∀ b ∈ front, test b = false) (hb : ∀ b ∈ back, test b = true) :
    (front ++ back).filter (fun b => !test b) = front ∧ (front ++ back).filter test = back := by
  have hff : front.filter test = [] := List.filter_eq_nil_iff.mpr fun b hm => by
    simp only [hf b hm, Bool.false_eq_true, not_false_eq_true]
  have hbf : back.filter (fun b => !test b) = [] := List.filter_eq_nil_iff.mpr fun b hm => by
    simp only [hb b hm, Bool.not_true, Bool.false_eq_true, not_false_eq_true]
  have hft : front.filter (fun b => !test b) = front := List.filter_eq_self.mpr fun b hm => by
    simp only [hf b hm, Bool.not_false]
  have hbt : back.filter test = back := List.filter_eq_self.mpr hb
  rw [List.filter_append, List.filter_append, hff, hbf, hft, hbt]
  exact ⟨List.append_nil front, List.nil_append back⟩

/-- A list is split in one way only into items that fail a test and items that pass it. -/
theorem parts_eq_of_append_eq {test : α → Bool} {front back front' back' : List α}
    (hf : ∀ b ∈ front, test b = false) (hb : ∀ b ∈ back, test b = true)
    (hf' : ∀ b ∈ front', test b = false) (hb' : ∀ b ∈ back', test b = true)
    (h : front ++ back = front' ++ back') : front = front' ∧ back = back' := by
  have hs := filter_append_of_split hf hb
  have hs' := filter_append_of_split hf' hb'
  rw [h] at hs
  exact ⟨hs.1.symm.trans hs'.1, hs.2.symm.trans hs'.2⟩

/-- Passing over items of a sorted list is sorting the items that are left. -/
theorem filter_mergeSort (trans : ∀ a b c, le a b → le b c → le a c)
    (total : ∀ a b, le a b || le b a) (keep : α → Bool) (items : List α) :
    (items.mergeSort le).filter keep = (items.filter keep).mergeSort le := by
  induction items with
  | nil => simp only [List.mergeSort_nil, List.filter_nil]
  | cons a rest ih =>
    obtain ⟨front, back, hs, hr, hf, hb⟩ := mergeSort_cons_split trans total a rest
    rw [hr, List.filter_append] at ih
    rw [hs, List.filter_append]
    cases hk : keep a with
    | false =>
      have hn : ¬keep a = true := by simp only [hk, Bool.false_eq_true, not_false_eq_true]
      rw [List.filter_cons_of_neg hn, List.filter_cons_of_neg hn, ih]
    | true =>
      rw [List.filter_cons_of_pos hk, List.filter_cons_of_pos hk]
      obtain ⟨front', back', hs', hr', hf', hb'⟩ :=
        mergeSort_cons_split trans total a (rest.filter keep)
      rw [hr'] at ih
      have hfront : ∀ b ∈ front.filter keep, le a b = false :=
        fun b hm => hf b (List.mem_filter.mp hm).1
      have hback : ∀ b ∈ back.filter keep, le a b = true :=
        fun b hm => hb b (List.mem_filter.mp hm).1
      obtain ⟨hff, hbb⟩ := parts_eq_of_append_eq hfront hback hf' hb' ih
      rw [hs', hff, hbb]

/-- Items that stood in some order stand in it after sorting too, unless the sorting order tells
them apart. -/
theorem pairwise_mergeSort_or {r : α → α → Prop} (trans : ∀ a b c, le a b → le b c → le a c)
    (total : ∀ a b, le a b || le b a) {items : List α} (before : items.Pairwise r) :
    (items.mergeSort le).Pairwise fun a b => le b a = false ∨ r a b := by
  induction items with
  | nil =>
    rw [List.mergeSort_nil]
    exact .nil
  | cons a rest ih =>
    obtain ⟨ha, hrest⟩ := List.pairwise_cons.mp before
    obtain ⟨front, back, hs, hr, hf, -⟩ := mergeSort_cons_split trans total a rest
    have hi := ih hrest
    rw [hr] at hi
    obtain ⟨hfront, hback, hcross⟩ := List.pairwise_append.mp hi
    have hmem : ∀ b ∈ back, b ∈ rest := by
      intro b hb
      have hsorted : b ∈ rest.mergeSort le := by
        rw [hr]
        exact List.mem_append_right front hb
      exact List.mem_mergeSort.mp hsorted
    rw [hs]
    refine List.pairwise_append.mpr ⟨hfront, List.pairwise_cons.mpr ⟨?_, hback⟩, ?_⟩
    · exact fun b hb => .inr (ha b (hmem b hb))
    · intro b hb c hc
      rcases List.mem_cons.mp hc with rfl | hc
      · exact .inl (hf b hb)
      · exact hcross b hb c hc

end SearchAnnotation.StableOrder
