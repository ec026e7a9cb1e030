import Mathlib.Data.Finset.Card

/-!
# Last occurrences

Of items with one key just the last one may count, as in a table that is written row by row. The
last occurrences are a sublist in which each key is met once, so they are as many as there are keys,
and all of the items just if no two of them share a key. Lists whose items share keys at the same
places have their last occurrences at the same places.
-/

namespace SearchAnnotation

variable {α κ : Type} [DecidableEq κ] {key : α → κ} {items : List α}

/-- Of items with one key, the last one. -/
def lastOf (key : α → κ) (items : List α) : List α := items.pwFilter fun a b => key a ≠ key b

theorem lastOf_sublist (key : α → κ) (items : List α) : (lastOf key items).Sublist items :=
  List.pwFilter_sublist items

theorem nodup_key_lastOf (key : α → κ) (items : List α) : ((lastOf key items).map key).Nodup :=
  List.pairwise_map.mpr (List.pairwise_pwFilter items)

/-- The key of an item is missing among the items left just if it is missing among all. -/
theorem key_notMem_lastOf_iff (a : α) :
    (∀ b ∈ lastOf key items, key a ≠ key b) ↔ key a ∉ items.map key := by
  have hnew : (∀ b ∈ items, key a ≠ key b) ↔ key a ∉ items.map key := by
    simp only [List.mem_map, not_exists, not_and, ne_comm, ne_eq]
  rw [← hnew]
  refine List.forall_mem_pwFilter ?_ a items
  intro x y z apart
  by_cases hxy : key x = key y
  · exact .inr (hxy ▸ apart)
  · exact .inl hxy

theorem mem_map_key_lastOf {k : κ} : k ∈ (lastOf key items).map key ↔ k ∈ items.map key := by
  constructor
  · exact fun hm => ((lastOf_sublist key items).map key).subset hm
  · intro hm
    obtain ⟨a, -, rfl⟩ := List.mem_map.mp hm
    by_contra hnone
    refine (key_notMem_lastOf_iff a).mp ?_ hm
    exact fun b hb he => hnone (he ▸ List.mem_map_of_mem hb)

/-- One more item in front whose key comes again is left out. -/
theorem lastOf_cons_of_mem {a : α} (h : key a ∈ items.map key) :
    lastOf key (a :: items) = lastOf key items :=
  List.pwFilter_cons_of_neg fun hnew => (key_notMem_lastOf_iff a).mp hnew h

/-- One more item in front whose key is new is left. -/
theorem lastOf_cons_of_notMem {a : α} (h : key a ∉ items.map key) :
    lastOf key (a :: items) = a :: lastOf key items :=
  List.pwFilter_cons_of_pos ((key_notMem_lastOf_iff a).mpr h)

/-- One more item in front is left unless a later one has its key. -/
theorem mem_lastOf_cons {a b : α} :
    b ∈ lastOf key (a :: items) ↔ b = a ∧ key a ∉ items.map key ∨ b ∈ lastOf key items := by
  by_cases hnew : key a ∈ items.map key
  · simp only [lastOf_cons_of_mem hnew, hnew, not_true_eq_false, and_false, false_or]
  · simp only [lastOf_cons_of_notMem hnew, hnew, List.mem_cons, not_false_eq_true, and_true]

/-- As many items are left as there are keys. -/
theorem length_lastOf (key : α → κ) (items : List α) :
    (lastOf key items).length = (items.map key).toFinset.card := by
  have hkeys : (items.map key).toFinset = ((lastOf key items).map key).toFinset := by
    ext k
    rw [List.mem_toFinset, List.mem_toFinset, mem_map_key_lastOf]
  rw [hkeys, List.toFinset_card_of_nodup (nodup_key_lastOf key items), List.length_map]

/-- All items are left just if their keys differ. -/
theorem length_lastOf_iff :
    (lastOf key items).length = items.length ↔ (items.map key).Nodup := by
  rw [List.Nodup, List.pairwise_map, ← List.pwFilter_eq_self]
  exact ⟨(lastOf_sublist key items).eq_of_length, congrArg List.length⟩

/-- Lists that go together, and whose keys meet at the same places, have last occurrences that go
together. -/
theorem lastOf_forall₂ {β μ : Type} [DecidableEq μ] {other : β → μ} {goes : α → β → Prop}
    {others : List β} (meet : ∀ {a b a' b'}, goes a b → goes a' b' →
      (key a = key a' ↔ other b = other b'))
    (h : List.Forall₂ goes items others) :
    List.Forall₂ goes (lastOf key items) (lastOf other others) := by
  induction h with
  | nil => exact .nil
  | @cons a b rest rest' hab hrest ih =>
    have hknown : key a ∈ rest.map key ↔ other b ∈ rest'.map other := by
      clear ih
      induction hrest with
      | nil => exact iff_of_false List.not_mem_nil List.not_mem_nil
      | cons hnext _ ih =>
        rw [List.map_cons, List.map_cons, List.mem_cons, List.mem_cons, meet hab hnext, ih]
    by_cases hkey : key a ∈ rest.map key
    · rw [lastOf_cons_of_mem hkey, lastOf_cons_of_mem (hknown.mp hkey)]
      exact ih
    · rw [lastOf_cons_of_notMem hkey, lastOf_cons_of_notMem (mt hknown.mpr hkey)]
      exact .cons hab ih

/-- Which items are left depends only on which of them share keys. -/
theorem lastOf_congr {μ : Type} [DecidableEq μ] {other : α → μ}
    (meet : ∀ a ∈ items, ∀ b ∈ items, key a = key b ↔ other a = other b) :
    lastOf key items = lastOf other items := by
  have hself : List.Forall₂ (fun a b => a = b ∧ a ∈ items) items items :=
    List.forall₂_same.mpr fun a hm => ⟨rfl, hm⟩
  have hlast : List.Forall₂ (fun a b => a = b ∧ a ∈ items) (lastOf key items)
      (lastOf other items) := by
    refine lastOf_forall₂ ?_ hself
    rintro a _ b _ ⟨rfl, ha⟩ ⟨rfl, hb⟩
    exact meet a ha b hb
  exact List.forall₂_eq_eq_eq ▸ hlast.imp fun _ _ h => h.1

theorem lastOf_map {β : Type} (f : β → α) (items : List β) :
    lastOf key (items.map f) = (lastOf (key ∘ f) items).map f :=
  List.pwFilter_map f items

end SearchAnnotation
