import Mathlib.Data.List.Nodup
import Mathlib.Data.Prod.Lex
import SearchAnnotation.Proofs.DisplayOrder

/-!
# Places in the order of display

A result has a place of its own in the order of display: the group that it belongs to, annotated
results before the others, and in the group the rank that counts there. Sorting goes by this place
alone and keeps the given order of results with one place. These two facts leave just one list, so
sorting is determined by them; where no two results have one place, it does not even depend on the
order in which the results are given.
-/

namespace SearchAnnotation

namespace StableOrder

variable {α κ : Type} [LinearOrder κ] {key : α → κ} {a b : α} {rest rest' items items' : List α}

/-- The items with one key. -/
def withKey (key : α → κ) (k : κ) (items : List α) : List α := items.filter fun a => key a = k

theorem mem_withKey {k : κ} : a ∈ withKey key k items ↔ a ∈ items ∧ key a = k := by
  rw [withKey, List.mem_filter, decide_eq_true_eq]

theorem withKey_cons_self : withKey key (key a) (a :: rest) = a :: withKey key (key a) rest :=
  List.filter_cons_of_pos (decide_eq_true rfl)

theorem withKey_cons_of_ne {k : κ} (h : key a ≠ k) :
    withKey key k (a :: rest) = withKey key k rest :=
  List.filter_cons_of_neg (by rwa [decide_eq_true_eq])

/-- The first key of a sorted list is not above the key of any item with which another list, that
has the same items for every key, begins. -/
theorem key_head_le (sorted : (a :: rest).Pairwise fun x y => key x ≤ key y)
    (alike : ∀ k, withKey key k (a :: rest) = withKey key k (b :: rest')) : key a ≤ key b := by
  have hb : b ∈ withKey key (key b) (a :: rest) := by
    rw [alike]
    exact mem_withKey.mpr ⟨List.mem_cons_self, rfl⟩
  rcases List.mem_cons.mp (mem_withKey.mp hb).1 with rfl | hm
  · exact le_rfl
  · exact (List.pairwise_cons.mp sorted).1 b hm

/-- A list that is sorted by a key is determined by its items with each key. -/
theorem eq_of_withKey_eq (sorted : items.Pairwise fun x y => key x ≤ key y)
    (sorted' : items'.Pairwise fun x y => key x ≤ key y)
    (alike : ∀ k, withKey key k items = withKey key k items') : items = items' := by
  induction items generalizing items' with
  | nil =>
    cases items' with
    | nil => rfl
    | cons b rest' =>
      have hb := alike (key b)
      rw [withKey_cons_self] at hb
      cases hb
  | cons a rest ih =>
    cases items' with
    | nil =>
      have ha := alike (key a)
      rw [withKey_cons_self] at ha
      cases ha
    | cons b rest' =>
      -- Both lists begin with the first item of the least key.
      have hkey : key a = key b :=
        le_antisymm (key_head_le sorted alike) (key_head_le sorted' fun k => (alike k).symm)
      have hhead := alike (key a)
      rw [withKey_cons_self, hkey, withKey_cons_self] at hhead
      obtain ⟨rfl, htail⟩ := List.cons.inj hhead
      have hrest : ∀ k, withKey key k rest = withKey key k rest' := by
        intro k
        by_cases hk : key a = k
        · rw [← hk]
          exact htail
        · have hall := alike k
          rwa [withKey_cons_of_ne hk, withKey_cons_of_ne hk] at hall
      rw [ih (List.pairwise_cons.mp sorted).2 (List.pairwise_cons.mp sorted').2 hrest]

end StableOrder

namespace SearchResult

open StableOrder

variable {a b : SearchResult} {results shown : List SearchResult}

/-- The place of a result: annotated results are in the first group, each by its annotated rank,
and the others in the second one, each by its original rank. -/
def place (result : SearchResult) : ℕ ×ₗ ℤ :=
  match result.annotatedRank with
  | some rank => toLex (0, rank)
  | none => toLex (1, result.origRank)

/-- Results are compared by their places. -/
theorem precedes_iff : precedes a b = true ↔ place a ≤ place b := by
  unfold precedes place
  cases ha : a.annotatedRank <;> cases hb : b.annotatedRank <;>
    simp [Prod.Lex.toLex_le_toLex]

/-- Whether a list shows results as they are to be sorted. -/
structure StablySorted (results shown : List SearchResult) : Prop where
  /-- The given results are shown, each as often as it was given. -/
  perm : shown.Perm results
  /-- After a result that is not annotated there is none that is. -/
  annotatedFirst : shown.Pairwise fun a b => a.annotatedRank = none → b.annotatedRank = none
  /-- Annotated ranks do not decrease. -/
  annotatedRise : shown.Pairwise fun a b =>
    ∀ x y, a.annotatedRank = some x → b.annotatedRank = some y → x ≤ y
  /-- The original ranks of results that are not annotated do not decrease. -/
  othersRise : shown.Pairwise fun a b =>
    a.annotatedRank = none → b.annotatedRank = none → a.origRank ≤ b.origRank
  /-- Results with one place stand in the order in which they were given. -/
  stable : ∀ k, withKey place k shown = withKey place k results

/-- What is said of two results by the order of their places. -/
theorem place_le_iff : place a ≤ place b ↔
    (a.annotatedRank = none → b.annotatedRank = none) ∧
      (∀ x y, a.annotatedRank = some x → b.annotatedRank = some y → x ≤ y) ∧
      (a.annotatedRank = none → b.annotatedRank = none → a.origRank ≤ b.origRank) := by
  unfold place
  cases ha : a.annotatedRank <;> cases hb : b.annotatedRank <;>
    simp [Prod.Lex.toLex_le_toLex]

/-- Places do not decrease along a list just if its groups are in order, each by its ranks. -/
theorem pairwise_place_iff : (shown.Pairwise fun a b => place a ≤ place b) ↔
    (shown.Pairwise fun a b => a.annotatedRank = none → b.annotatedRank = none) ∧
      (shown.Pairwise fun a b =>
        ∀ x y, a.annotatedRank = some x → b.annotatedRank = some y → x ≤ y) ∧
      shown.Pairwise fun a b =>
        a.annotatedRank = none → b.annotatedRank = none → a.origRank ≤ b.origRank := by
  simp only [place_le_iff, List.pairwise_and_iff]

theorem StablySorted.places (h : StablySorted results shown) :
    shown.Pairwise fun a b => place a ≤ place b :=
  pairwise_place_iff.mpr ⟨h.annotatedFirst, h.annotatedRise, h.othersRise⟩

/-- Places do not decrease in display order. -/
theorem ordered_places (results : List SearchResult) :
    (ordered results).Pairwise fun a b => place a ≤ place b :=
  (List.pairwise_mergeSort precedes_trans precedes_total results).imp fun h => precedes_iff.mp h

/-- Results with one place are displayed in the order in which they are given. -/
theorem withKey_ordered (k : ℕ ×ₗ ℤ) (results : List SearchResult) :
    withKey place k (ordered results) = withKey place k results := by
  have hties : (withKey place k results).Pairwise fun a b => precedes a b = true := by
    refine List.pairwise_of_forall_mem_list fun a ha b hb => precedes_iff.mpr ?_
    rw [(mem_withKey.mp ha).2, (mem_withKey.mp hb).2]
  rw [withKey, ordered, filter_mergeSort precedes_trans precedes_total]
  exact List.mergeSort_of_pairwise hties

theorem stablySorted_ordered (results : List SearchResult) :
    StablySorted results (ordered results) := by
  obtain ⟨hfirst, hrise, hothers⟩ := pairwise_place_iff.mp (ordered_places results)
  exact ⟨List.mergeSort_perm results precedes, hfirst, hrise, hothers,
    fun k => withKey_ordered k results⟩

/-- Display order is the stable order by places and the only one there is. Sorting again changes
nothing, and the order in which results are given does not matter if no two have one place. -/
theorem ordered_determined (results : List SearchResult) :
    StablySorted results (ordered results) ∧
      (∀ shown, StablySorted results shown → shown = ordered results) ∧
      ordered (ordered results) = ordered results ∧
      ∀ others : List SearchResult, others.Perm results → (results.map place).Nodup →
        ordered others = ordered results := by
  refine ⟨stablySorted_ordered results, fun shown h => ?_, ?_, fun others perm apart => ?_⟩
  · refine eq_of_withKey_eq h.places (ordered_places results) fun k => ?_
    rw [h.stable, withKey_ordered]
  · refine eq_of_withKey_eq (ordered_places _) (ordered_places results) fun k => ?_
    exact withKey_ordered k (ordered results)
  · have hperm : (ordered others).Perm (ordered results) :=
      (List.mergeSort_perm others _).trans (perm.trans (List.mergeSort_perm results _).symm)
    have hmem : ∀ result ∈ ordered results, result ∈ results := fun result hm =>
      List.mem_mergeSort.mp hm
    refine hperm.eq_of_pairwise (fun a b ha hb hab hba => ?_) (ordered_places others)
      (ordered_places results)
    exact List.inj_on_of_nodup_map apart (hmem a (hperm.mem_iff.mp ha)) (hmem b hb)
      (le_antisymm hab hba)

end SearchResult

end SearchAnnotation
