import SearchAnnotation.Proofs.StableOrder
import SearchAnnotation.Result

/-!
# The order of display

Results are sorted by their annotated ranks, and results without one follow by their original
ranks. As sorting is stable, results that come in the order of their original ranks are told apart
by these where annotated ranks agree, so that their order on a page is fixed.
-/

namespace SearchAnnotation.SearchResult

/-- Whether of two results the first one has its place before the second one: by annotated rank
if both have one, annotated before others, and by original rank where this leaves a tie. -/
def Before (a b : SearchResult) : Prop :=
  match a.annotatedRank, b.annotatedRank with
  | some x, some y => x < y ∨ x = y ∧ a.origRank < b.origRank
  | some _, none => True
  | none, some _ => False
  | none, none => a.origRank < b.origRank

theorem precedes_trans (a b c : SearchResult) (hab : precedes a b = true)
    (hbc : precedes b c = true) : precedes a c = true := by
  unfold precedes at *
  cases ha : a.annotatedRank <;> cases hb : b.annotatedRank <;> cases hc : c.annotatedRank <;>
    simp only [ha, hb, hc, decide_eq_true_eq, Bool.false_eq_true] at hab hbc ⊢
  · exact Int.le_trans hab hbc
  · exact Int.le_trans hab hbc

theorem precedes_total (a b : SearchResult) : (precedes a b || precedes b a) = true := by
  unfold precedes
  cases ha : a.annotatedRank <;> cases hb : b.annotatedRank <;>
    simp only [Bool.or_eq_true, decide_eq_true_eq, Bool.or_true, Bool.true_or]
  · exact Int.le_total a.origRank b.origRank
  · exact Int.le_total _ _

/-- A result that precedes another one has its place before it, if it has the smaller original
rank or is not preceded in turn. -/
theorem before_of_precedes {a b : SearchResult} (h : precedes a b = true)
    (tie : precedes b a = false ∨ a.origRank < b.origRank) : Before a b := by
  unfold precedes at h tie
  unfold Before
  cases ha : a.annotatedRank <;> cases hb : b.annotatedRank <;>
    simp only [ha, hb, decide_eq_true_eq, decide_eq_false_iff_not, Bool.false_eq_true] at h tie ⊢
  · omega
  · omega

/-- Results in the order of their original ranks are displayed in a fixed order. -/
theorem ordered_pairwise_before {results : List SearchResult}
    (increase : results.Pairwise fun a b => a.origRank < b.origRank) :
    (ordered results).Pairwise Before := by
  have hsorted : (ordered results).Pairwise fun a b => precedes a b = true :=
    List.pairwise_mergeSort precedes_trans precedes_total results
  have htie : (ordered results).Pairwise fun a b =>
      precedes b a = false ∨ a.origRank < b.origRank :=
    StableOrder.pairwise_mergeSort_or precedes_trans precedes_total increase
  exact (hsorted.and htie).imp fun h => before_of_precedes h.1 h.2

end SearchAnnotation.SearchResult
