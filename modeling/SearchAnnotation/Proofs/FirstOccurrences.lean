import Mathlib.Data.List.Nodup
import Mathlib.Logic.ExistsUnique

/-!
# First occurrences

Some items of a list may count as the same. The first occurrences are the items that are the same
as none before them, in the order of the list. If items are the same when their keys are equal,
then a scan that remembers the keys that it has met, and passes over each item whose key it
remembers, keeps just the first occurrences.
-/

namespace SearchAnnotation.FirstOccurrences

variable {α κ : Type}

/-- The items of a list that are the same as none before them. -/
def firsts (same : α → α → Bool) (items : List α) : List α :=
  (items.zipIdx.filter fun place =>
    (items.take place.2).all fun earlier => !same earlier place.1).map Prod.fst

/-- The items that a scan keeps which passes over those with a key that it remembers. -/
def scan [BEq κ] (key : α → κ) (seen : List κ) : List α → List α
  | [] => []
  | a :: rest =>
    if seen.contains (key a) then scan key seen rest else a :: scan key (key a :: seen) rest

section Same

variable {same : α → α → Bool}

/-- The first item is a first occurrence, and so are those of the others that are not the same as
it. -/
theorem firsts_cons (a : α) (rest : List α) :
    firsts same (a :: rest) = a :: (firsts same rest).filter fun b => !same a b := by
  have hplace : (fun place : α × Nat => ((a :: rest).take place.2).all fun earlier =>
      !same earlier place.1) ∘ (fun place : α × Nat => (place.1, place.2 + 1)) =
      fun place => !same a place.1 && (rest.take place.2).all fun earlier =>
        !same earlier place.1 := by
    funext place
    simp only [Function.comp_apply, List.take_succ_cons, List.all_cons]
  have hnext : rest.zipIdx (0 + 1) = rest.zipIdx.map fun place => (place.1, place.2 + 1) :=
    List.zipIdx_succ
  rw [firsts, List.zipIdx_cons, hnext, List.filter_cons_of_pos rfl, List.map_cons, List.filter_map,
    hplace, firsts, List.filter_map, List.filter_filter, List.map_map]
  rfl

theorem mem_of_mem_firsts {a : α} {items : List α} (h : a ∈ firsts same items) : a ∈ items := by
  induction items with
  | nil => exact h
  | cons first rest ih =>
    rw [firsts_cons] at h
    rcases List.mem_cons.mp h with rfl | h
    · exact List.mem_cons_self
    · exact List.mem_cons_of_mem first (ih (List.mem_filter.mp h).1)

/-- No first occurrence is the same as an earlier one. -/
theorem pairwise_firsts (items : List α) :
    (firsts same items).Pairwise fun a b => same a b = false := by
  induction items with
  | nil => exact .nil
  | cons a rest ih =>
    rw [firsts_cons]
    refine List.pairwise_cons.mpr ⟨fun b hb => ?_, ih.filter _⟩
    simpa only [Bool.not_eq_true'] using (List.mem_filter.mp hb).2

/-- If no item is the same as an earlier one, all of them are first occurrences. -/
theorem firsts_eq_self {items : List α} (apart : items.Pairwise fun a b => same a b = false) :
    firsts same items = items := by
  induction items with
  | nil => rfl
  | cons first rest ih =>
    obtain ⟨hfirst, hrest⟩ := List.pairwise_cons.mp apart
    rw [firsts_cons, ih hrest, List.filter_eq_self.mpr]
    intro b hb
    rw [hfirst b hb, Bool.not_false]

/-- Items that are told apart alike have the same first occurrences. -/
theorem firsts_congr {same' : α → α → Bool} {items : List α}
    (h : ∀ a ∈ items, ∀ b ∈ items, same a b = same' a b) :
    firsts same items = firsts same' items := by
  induction items with
  | nil => rfl
  | cons first rest ih =>
    have hrest : firsts same rest = firsts same' rest :=
      ih fun a ha b hb => h a (List.mem_cons_of_mem first ha) b (List.mem_cons_of_mem first hb)
    rw [firsts_cons, firsts_cons, hrest]
    refine congrArg (first :: ·) (List.filter_congr fun b hb => ?_)
    rw [h first List.mem_cons_self b (List.mem_cons_of_mem first (mem_of_mem_firsts hb))]

end Same

section Keys

variable [BEq κ] [LawfulBEq κ] {key : α → κ}

/-- A scan keeps the first occurrences of the keys that it has not met before. -/
theorem scan_eq (seen : List κ) (items : List α) :
    scan key seen items =
      (firsts (fun a b => key a == key b) items).filter fun a => !seen.contains (key a) := by
  induction items generalizing seen with
  | nil => rfl
  | cons a rest ih =>
    rw [firsts_cons, scan]
    by_cases ha : seen.contains (key a) = true
    · have hn : ¬(!seen.contains (key a)) = true := by
        rw [ha, Bool.not_true]
        exact Bool.false_ne_true
      rw [if_pos ha, ih, List.filter_cons, if_neg hn, List.filter_filter]
      refine List.filter_congr fun b _ => ?_
      by_cases hb : key a = key b
      · rw [← hb, ha, Bool.not_true, Bool.false_and]
      · rw [beq_false_of_ne hb, Bool.not_false, Bool.and_true]
    · have hp : (!seen.contains (key a)) = true := by
        rw [Bool.not_eq_true _ |>.mp ha, Bool.not_false]
      rw [if_neg ha, ih, List.filter_cons, if_pos hp, List.filter_filter]
      refine congrArg (a :: ·) (List.filter_congr fun b _ => ?_)
      rw [List.contains_cons, Bool.not_or, Bool.and_comm, Bool.beq_comm]

/-- A scan that has met nothing keeps the first occurrences. -/
theorem scan_nil (items : List α) :
    scan key [] items = firsts (fun a b => key a == key b) items := by
  rw [scan_eq]
  exact List.filter_eq_self.mpr fun _ _ => rfl

/-- Every key of a list is that of a first occurrence. -/
theorem exists_key_mem_firsts (key : α → κ) {items : List α} {a : α} (hm : a ∈ items) :
    ∃ b ∈ firsts (fun a b => key a == key b) items, key b = key a := by
  induction items with
  | nil => cases hm
  | cons first rest ih =>
    rw [firsts_cons]
    by_cases hsame : key first = key a
    · exact ⟨first, List.mem_cons_self, hsame⟩
    · have hrest : a ∈ rest := (List.mem_cons.mp hm).resolve_left fun he => hsame (he ▸ rfl)
      obtain ⟨b, hb, he⟩ := ih hrest
      refine ⟨b, List.mem_cons_of_mem first (List.mem_filter.mpr ⟨hb, ?_⟩), he⟩
      rw [he, beq_false_of_ne hsame, Bool.not_false]

/-- The keys of first occurrences differ from each other. -/
theorem nodup_key_firsts (key : α → κ) (items : List α) :
    ((firsts (fun a b => key a == key b) items).map key).Nodup :=
  List.pairwise_map.mpr ((pairwise_firsts items).imp fun h => ne_of_beq_false h)

/-- Every key of a list is that of the first occurrence at just one place. -/
theorem existsUnique_key_firsts (key : α → κ) {items : List α} {a : α} (hm : a ∈ items) :
    ∃! i : Nat, ∃ b, (firsts (fun a b => key a == key b) items)[i]? = some b ∧ key b = key a := by
  obtain ⟨b, hb, hkey⟩ := exists_key_mem_firsts key hm
  obtain ⟨i, hi⟩ := List.mem_iff_getElem?.mp hb
  refine ⟨i, ⟨b, hi, hkey⟩, fun j ⟨c, hc, hother⟩ => ?_⟩
  have hlen : j < ((firsts (fun a b => key a == key b) items).map key).length := by
    rw [List.length_map]
    exact (List.getElem?_eq_some_iff.mp hc).1
  refine (List.getElem?_inj hlen (nodup_key_firsts key items)).mp ?_
  rw [List.getElem?_map, List.getElem?_map, hc, hi, Option.map_some, Option.map_some, hother, hkey]

end Keys

end SearchAnnotation.FirstOccurrences
