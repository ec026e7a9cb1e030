import Mathlib.Data.List.Nodup

/-!
# Lookups among distinct keys

Attributes, ranks and fields are looked up in lists of keys with values. As long as the keys are
distinct, a lookup finds exactly the entry of its key, wherever it stands.
-/

namespace SearchAnnotation.Entries

variable {α β : Type} [BEq α] [LawfulBEq α] {entries others : List (α × β)} {key : α}

theorem isSome_lookup_iff : (entries.lookup key).isSome = true ↔ key ∈ entries.map Prod.fst := by
  simp only [List.lookup_isSome_iff, List.mem_map, beq_iff_eq, eq_comm (a := key)]

theorem lookup_eq_none_iff : entries.lookup key = none ↔ key ∉ entries.map Prod.fst := by
  rw [← Option.not_isSome_iff_eq_none, isSome_lookup_iff]

/-- Of entries with distinct keys, a lookup finds the one of its key. -/
theorem lookup_eq_some_iff (distinct : (entries.map Prod.fst).Nodup) {value : β} :
    entries.lookup key = some value ↔ (key, value) ∈ entries := by
  induction entries with
  | nil => simp
  | cons entry rest ih =>
    obtain ⟨first, found⟩ := entry
    obtain ⟨hfirst, hrest⟩ := List.nodup_cons.mp distinct
    by_cases hkey : key = first
    · subst hkey
      have hnot : (key, value) ∉ rest := fun hm => hfirst (List.mem_map.mpr ⟨_, hm, rfl⟩)
      rw [List.lookup_cons_self, List.mem_cons, or_iff_left hnot]
      simp [eq_comm]
    · rw [List.lookup_cons, beq_false_of_ne hkey, List.mem_cons, ih hrest]
      simp [hkey]

/-- The order of entries with distinct keys does not matter. -/
theorem lookup_perm (distinct : (entries.map Prod.fst).Nodup) (order : others.Perm entries)
    (key : α) : others.lookup key = entries.lookup key := by
  have hdistinct : (others.map Prod.fst).Nodup := (order.map Prod.fst).nodup_iff.mpr distinct
  refine Option.ext fun value => ?_
  rw [lookup_eq_some_iff hdistinct, lookup_eq_some_iff distinct, order.mem_iff]

/-- Leaving out entries of other keys does not matter either. -/
theorem lookup_filter (keep : α → Bool) (hkeep : keep key = true) :
    (entries.filter fun entry => keep entry.1).lookup key = entries.lookup key := by
  induction entries with
  | nil => rfl
  | cons entry rest ih =>
    obtain ⟨first, found⟩ := entry
    by_cases hkey : key = first
    · subst hkey
      simp [hkeep]
    · have hbeq : (key == first) = false := beq_false_of_ne hkey
      cases hfirst : keep first with
      | true => simp [hfirst, List.lookup_cons, hbeq, ih]
      | false => simp [hfirst, List.lookup_cons, hbeq, ih]

end SearchAnnotation.Entries
