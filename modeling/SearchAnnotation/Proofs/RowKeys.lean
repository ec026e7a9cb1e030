import Mathlib.Data.List.Nodup
import SearchAnnotation.Store.Results

/-!
# Rows and their ids

The id of a row is its key: no two rows of a store share one. Putting rows keeps this, takes over
the row with the same id whichever query owns it, and leaves every other row in its place. The
rows that some choice picks out are followed through such writes, so that a query's rows are
known after a write under the same query or under another one. The first row with an id is the one
that a row is put in place of, so it is the row that was put last.
-/

namespace SearchAnnotation.Store

/-- The ids of rows in stored order. -/
def idsOf (rows : List ResultRow) : List String := rows.map ResultRow.id

/-- No two rows share an id. -/
def Keyed (store : Store) : Prop := (idsOf store.results).Nodup

instance (store : Store) : Decidable store.Keyed :=
  inferInstanceAs (Decidable (idsOf store.results).Nodup)

theorem mem_idsOf {rows : List ResultRow} {id : String} :
    id ∈ idsOf rows ↔ ∃ row ∈ rows, row.id = id := by
  simp only [idsOf, List.mem_map]

theorem mem_rowsOf {store : Store} {qid : String} {row : ResultRow} :
    row ∈ store.rowsOf qid ↔ row ∈ store.results ∧ row.qid = qid := by
  simp only [rowsOf, List.mem_filter, beq_iff_eq]

/-- Rows with one id are one row. -/
theorem eq_of_id_eq {rows : List ResultRow} (h : (idsOf rows).Nodup) {a b : ResultRow}
    (ha : a ∈ rows) (hb : b ∈ rows) (he : a.id = b.id) : a = b :=
  List.inj_on_of_nodup_map h ha hb he

/-- A store with each row rewritten. -/
def rewritten (store : Store) (write : ResultRow → ResultRow) : Store :=
  { store with results := store.results.map write }

/-- Rewriting rows that keep their ids keeps the ids apart. -/
theorem keyed_rewritten {store : Store} (keyed : store.Keyed) {write : ResultRow → ResultRow}
    (keeps : ∀ row, (write row).id = row.id) : (store.rewritten write).Keyed := by
  have hi : idsOf (store.results.map write) = idsOf store.results := by
    rw [idsOf, List.map_map]
    exact List.map_congr_left fun row _ => keeps row
  exact show (idsOf (store.results.map write)).Nodup from hi ▸ keyed

/-- Rewriting rows that keep their queries rewrites the rows of each query. -/
theorem rowsOf_rewritten {store : Store} {write : ResultRow → ResultRow}
    (keeps : ∀ row, (write row).qid = row.qid) (qid : String) :
    (store.rewritten write).rowsOf qid = (store.rowsOf qid).map write := by
  have hq : ((fun row : ResultRow => row.qid == qid) ∘ write) = fun row => row.qid == qid :=
    funext fun row => congrArg (· == qid) (keeps row)
  rw [rowsOf, rewritten, List.filter_map, hq, rowsOf]

theorem mem_upsert_self (row : ResultRow) (rows : List ResultRow) : row ∈ upsert row rows := by
  induction rows with
  | nil => exact List.mem_cons_self
  | cons old rest ih =>
    unfold upsert
    split
    · exact List.mem_cons_self
    · exact List.mem_cons_of_mem old ih

/-- Putting a row brings in no other row. -/
theorem eq_or_mem_of_mem_upsert {row other : ResultRow} {rows : List ResultRow}
    (h : other ∈ upsert row rows) : other = row ∨ other ∈ rows := by
  induction rows with
  | nil => exact .inl (List.mem_singleton.mp h)
  | cons old rest ih =>
    unfold upsert at h
    split at h
    · rcases List.mem_cons.mp h with he | hm
      · exact .inl he
      · exact .inr (List.mem_cons_of_mem old hm)
    · rcases List.mem_cons.mp h with he | hm
      · exact .inr (List.mem_cons.mpr (.inl he))
      · exact (ih hm).imp_right (List.mem_cons_of_mem old)

/-- A row with another id stays where a row is put. -/
theorem mem_upsert_of_ne {row other : ResultRow} {rows : List ResultRow} (hm : other ∈ rows)
    (apart : other.id ≠ row.id) : other ∈ upsert row rows := by
  induction rows with
  | nil => cases hm
  | cons old rest ih =>
    unfold upsert
    split
    · next hid =>
      rcases List.mem_cons.mp hm with rfl | hm
      · exact absurd hid apart
      · exact List.mem_cons_of_mem row hm
    · rcases List.mem_cons.mp hm with rfl | hm
      · exact List.mem_cons_self
      · exact List.mem_cons_of_mem old (ih hm)

/-- A row with a new id goes to the end. -/
theorem upsert_of_notMem {row : ResultRow} {rows : List ResultRow} (h : row.id ∉ idsOf rows) :
    upsert row rows = rows ++ [row] := by
  induction rows with
  | nil => rfl
  | cons old rest ih =>
    have ho : ¬old.id = row.id := fun he => h (mem_idsOf.mpr ⟨old, List.mem_cons_self, he⟩)
    have hr : row.id ∉ idsOf rest := fun hm => h (List.mem_cons_of_mem _ hm)
    rw [upsert, if_neg ho, ih hr, List.cons_append]

/-- A row with a known id leaves the ids as they are. -/
theorem idsOf_upsert_of_mem {row : ResultRow} {rows : List ResultRow} (h : row.id ∈ idsOf rows) :
    idsOf (upsert row rows) = idsOf rows := by
  induction rows with
  | nil => cases h
  | cons old rest ih =>
    by_cases ho : old.id = row.id
    · rw [upsert, if_pos ho, idsOf, idsOf, List.map_cons, List.map_cons, ho]
    · have hr : row.id ∈ idsOf rest := by
        rcases List.mem_cons.mp h with he | hr
        · exact absurd he.symm ho
        · exact hr
      have hi : idsOf (upsert row rest) = idsOf rest := ih hr
      simp only [idsOf] at hi
      simp only [upsert, if_neg ho, idsOf, List.map_cons, hi]

/-- Putting a row keeps the ids apart. -/
theorem nodup_idsOf_upsert (row : ResultRow) {rows : List ResultRow} (h : (idsOf rows).Nodup) :
    (idsOf (upsert row rows)).Nodup := by
  by_cases hr : row.id ∈ idsOf rows
  · rw [idsOf_upsert_of_mem hr]
    exact h
  · rw [upsert_of_notMem hr, idsOf, List.map_append, List.nodup_append]
    refine ⟨h, List.pairwise_singleton _ _, ?_⟩
    intro id hid other ho he
    rw [List.map_singleton, List.mem_singleton] at ho
    exact hr (ho ▸ he ▸ hid)

/-- Of chosen rows, putting a row that is not chosen takes away at most the one with its id. -/
theorem filter_upsert_of_not {choose : ResultRow → Bool} {row : ResultRow}
    {rows : List ResultRow} (keyed : (idsOf rows).Nodup) (h : choose row = false) :
    (upsert row rows).filter choose = rows.filter fun old => choose old && old.id != row.id := by
  induction rows with
  | nil => simp only [upsert, List.filter_cons, h, Bool.false_eq_true, if_false, List.filter_nil]
  | cons old rest ih =>
    obtain ⟨hold, hrest⟩ := List.nodup_cons.mp keyed
    by_cases ho : old.id = row.id
    · have hk : rest.filter choose = rest.filter fun old => choose old && old.id != row.id := by
        apply List.filter_congr
        intro other hm
        have hne : other.id ≠ row.id := fun he =>
          hold (mem_idsOf.mpr ⟨other, hm, he.trans ho.symm⟩)
        simp only [bne_iff_ne.mpr hne, Bool.and_true]
      simp only [upsert, ho, if_true, List.filter_cons, h, Bool.false_eq_true, if_false,
        bne_self_eq_false, Bool.and_false, hk]
    · simp only [upsert, if_neg ho, List.filter_cons, bne_iff_ne.mpr ho, Bool.and_true, ih hrest]

/-- Of chosen rows, putting a chosen row with an id that none of them has adds just this row. -/
theorem filter_upsert_of_chosen {choose : ResultRow → Bool} {row : ResultRow}
    {rows : List ResultRow} (h : choose row = true)
    (fresh : row.id ∉ idsOf (rows.filter choose)) :
    ((upsert row rows).filter choose).Perm (rows.filter choose ++ [row]) := by
  induction rows with
  | nil => simp only [upsert, List.filter_cons, h, if_true, List.filter_nil, List.nil_append,
      List.Perm.refl]
  | cons old rest ih =>
    by_cases ho : old.id = row.id
    · have hc : choose old = false := by
        cases hc : choose old with
        | false => rfl
        | true =>
          rw [List.filter_cons_of_pos hc] at fresh
          exact absurd (mem_idsOf.mpr ⟨old, List.mem_cons_self, ho⟩) fresh
      simp only [upsert, if_pos ho, List.filter_cons, h, hc, if_true, Bool.false_eq_true, if_false]
      exact (List.perm_append_singleton row _).symm
    · cases hc : choose old with
      | false =>
        simp only [List.filter_cons, hc, Bool.false_eq_true, if_false] at fresh
        simp only [upsert, if_neg ho, List.filter_cons, hc, Bool.false_eq_true, if_false]
        exact ih fresh
      | true =>
        simp only [List.filter_cons, hc, if_true] at fresh
        simp only [upsert, if_neg ho, List.filter_cons, hc, if_true, List.cons_append]
        exact (ih fun hm => fresh (List.mem_cons_of_mem _ hm)).cons old

/-- Puts rows one after the other. -/
def upsertAll (rows fresh : List ResultRow) : List ResultRow :=
  fresh.foldl (fun rows row => upsert row rows) rows

theorem upsertAll_cons (rows : List ResultRow) (row : ResultRow) (rest : List ResultRow) :
    upsertAll rows (row :: rest) = upsertAll (upsert row rows) rest := rfl

/-- Putting rows brings in no other rows. -/
theorem mem_or_mem_of_mem_upsertAll {row : ResultRow} (fresh : List ResultRow)
    {rows : List ResultRow} (h : row ∈ upsertAll rows fresh) : row ∈ fresh ∨ row ∈ rows := by
  induction fresh generalizing rows with
  | nil => exact .inr h
  | cons first rest ih =>
    rcases ih h with hm | hm
    · exact .inl (List.mem_cons_of_mem first hm)
    · rcases eq_or_mem_of_mem_upsert hm with rfl | hm
      · exact .inl List.mem_cons_self
      · exact .inr hm

/-- Putting rows keeps the ids apart. -/
theorem nodup_idsOf_upsertAll (fresh : List ResultRow) {rows : List ResultRow}
    (h : (idsOf rows).Nodup) : (idsOf (upsertAll rows fresh)).Nodup := by
  induction fresh generalizing rows with
  | nil => exact h
  | cons row rest ih => exact ih (nodup_idsOf_upsert row h)

/-- A row with none of their ids stays where rows are put. -/
theorem mem_upsertAll_of_notMem {row : ResultRow} {rows fresh : List ResultRow} (hm : row ∈ rows)
    (new : row.id ∉ idsOf fresh) : row ∈ upsertAll rows fresh := by
  induction fresh generalizing rows with
  | nil => exact hm
  | cons first rest ih =>
    rw [idsOf, List.map_cons, List.mem_cons, not_or] at new
    exact ih (mem_upsert_of_ne hm new.1) new.2

/-- Rows that are put are there afterwards, if their ids differ. -/
theorem mem_upsertAll_of_mem {row : ResultRow} {rows fresh : List ResultRow} (hm : row ∈ fresh)
    (distinct : (idsOf fresh).Nodup) : row ∈ upsertAll rows fresh := by
  induction fresh generalizing rows with
  | nil => cases hm
  | cons first rest ih =>
    obtain ⟨hfirst, hrest⟩ := List.nodup_cons.mp distinct
    rcases List.mem_cons.mp hm with rfl | hm
    · rw [upsertAll_cons]
      exact mem_upsertAll_of_notMem (mem_upsert_self row rows) hfirst
    · exact ih hm hrest

/-- The rows that have one of the put ids afterwards are just the rows that were put. -/
theorem mem_upsertAll_and_mem_idsOf_iff {row : ResultRow} {rows fresh : List ResultRow}
    (keyed : (idsOf rows).Nodup) (distinct : (idsOf fresh).Nodup) :
    row ∈ upsertAll rows fresh ∧ row.id ∈ idsOf fresh ↔ row ∈ fresh := by
  constructor
  · rintro ⟨hm, hid⟩
    obtain ⟨twin, htwin, he⟩ := mem_idsOf.mp hid
    rw [eq_of_id_eq (nodup_idsOf_upsertAll fresh keyed) hm (mem_upsertAll_of_mem htwin distinct)
      he.symm]
    exact htwin
  · intro hm
    exact ⟨mem_upsertAll_of_mem hm distinct, mem_idsOf.mpr ⟨row, hm, rfl⟩⟩

/-- Of chosen rows, putting rows that are not chosen takes away just those with their ids. -/
theorem filter_upsertAll_of_not {choose : ResultRow → Bool} {rows fresh : List ResultRow}
    (keyed : (idsOf rows).Nodup) (h : ∀ row ∈ fresh, choose row = false) :
    (upsertAll rows fresh).filter choose =
      rows.filter fun old => choose old && !(idsOf fresh).contains old.id := by
  induction fresh generalizing rows with
  | nil => simp only [upsertAll, List.foldl_nil, idsOf, List.map_nil, List.contains_nil,
      Bool.not_false, Bool.and_true]
  | cons row rest ih =>
    have hrow : choose row = false := h row List.mem_cons_self
    have hrest : ∀ other ∈ rest, choose other = false :=
      fun other ho => h other (List.mem_cons_of_mem row ho)
    rw [upsertAll_cons, ih (nodup_idsOf_upsert row keyed) hrest]
    have hkeep :
        (fun old : ResultRow => choose old && !(idsOf rest).contains old.id) row = false := by
      simp only [hrow, Bool.false_and]
    rw [filter_upsert_of_not keyed hkeep]
    apply List.filter_congr
    intro old _
    simp only [idsOf, List.map_cons, List.contains_cons, Bool.not_or, bne]
    cases choose old <;> cases old.id == row.id <;> simp

/-- Of chosen rows, putting chosen rows with different ids that none of them has adds them. -/
theorem filter_upsertAll_of_chosen {choose : ResultRow → Bool} {rows fresh : List ResultRow}
    (h : ∀ row ∈ fresh, choose row = true) (distinct : (idsOf fresh).Nodup)
    (new : ∀ id ∈ idsOf fresh, id ∉ idsOf (rows.filter choose)) :
    ((upsertAll rows fresh).filter choose).Perm (rows.filter choose ++ fresh) := by
  induction fresh generalizing rows with
  | nil => simp only [upsertAll, List.foldl_nil, List.append_nil, List.Perm.refl]
  | cons row rest ih =>
    obtain ⟨hrow, hrest⟩ := List.nodup_cons.mp distinct
    have hp : ((upsert row rows).filter choose).Perm (rows.filter choose ++ [row]) :=
      filter_upsert_of_chosen (h row List.mem_cons_self) (new _ List.mem_cons_self)
    have hn : ∀ id ∈ idsOf rest, id ∉ idsOf ((upsert row rows).filter choose) := by
      intro id hid hm
      rw [idsOf, (hp.map ResultRow.id).mem_iff, List.map_append, List.mem_append] at hm
      rcases hm with hm | hm
      · exact new id (List.mem_cons_of_mem _ hid) hm
      · exact hrow (List.mem_singleton.mp hm ▸ hid)
    have ht := ih (fun other ho => h other (List.mem_cons_of_mem row ho)) hrest hn
    rw [upsertAll_cons, List.append_cons]
    exact ht.trans (hp.append_right rest)

section First

variable {id : String} {row : ResultRow} {rows fresh : List ResultRow}

/-- The first row with an id is one of the rows and has the id. -/
theorem mem_of_first? (h : first? rows id = some row) :
    row ∈ rows ∧ row.id = id := by
  unfold first? at h
  exact ⟨List.mem_of_find?_eq_some h, by simpa using List.find?_some h⟩

theorem first?_cons :
    first? (row :: rows) id = if row.id = id then some row else first? rows id := by
  rw [first?, List.find?_cons]
  by_cases h : row.id = id
  · rw [if_pos h, beq_iff_eq.mpr h]
  · rw [if_neg h, beq_false_of_ne h]
    rfl

/-- A row that was put is the first one with its id. -/
theorem first?_upsert_self (row : ResultRow) (rows : List ResultRow) :
    first? (upsert row rows) row.id = some row := by
  induction rows with
  | nil => rw [upsert, first?_cons, if_pos rfl]
  | cons old rest ih =>
    rw [upsert]
    split
    · rw [first?_cons, if_pos rfl]
    · next hold => rw [first?_cons, if_neg hold, ih]

/-- The first row with another id stays the first one. -/
theorem first?_upsert_of_ne (apart : id ≠ row.id) :
    first? (upsert row rows) id = first? rows id := by
  induction rows with
  | nil => rw [upsert, first?_cons, if_neg apart.symm]
  | cons old rest ih =>
    rw [upsert]
    split
    · next hold => rw [first?_cons, first?_cons, if_neg apart.symm, if_neg (hold ▸ apart.symm)]
    · rw [first?_cons, first?_cons, ih]

/-- Putting a row that is the first one with its id already changes nothing. -/
theorem upsert_of_first? (h : first? rows row.id = some row) : upsert row rows = rows := by
  induction rows with
  | nil => cases h
  | cons old rest ih =>
    rw [first?_cons] at h
    by_cases hold : old.id = row.id
    · rw [if_pos hold] at h
      rw [upsert, if_pos hold, Option.some.inj h]
    · rw [if_neg hold] at h
      rw [upsert, if_neg hold, ih h]

theorem first?_upsertAll_of_notMem (new : id ∉ idsOf fresh) :
    first? (upsertAll rows fresh) id = first? rows id := by
  induction fresh generalizing rows with
  | nil => rfl
  | cons row rest ih =>
    rw [idsOf, List.map_cons, List.mem_cons, not_or] at new
    rw [upsertAll_cons, ih new.2, first?_upsert_of_ne new.1]

/-- Rows with different ids that were put are the first ones with their ids. -/
theorem first?_upsertAll (distinct : (idsOf fresh).Nodup) (hm : row ∈ fresh) :
    first? (upsertAll rows fresh) row.id = some row := by
  induction fresh generalizing rows with
  | nil => cases hm
  | cons first rest ih =>
    obtain ⟨hfirst, hrest⟩ := List.nodup_cons.mp distinct
    rw [upsertAll_cons]
    rcases List.mem_cons.mp hm with rfl | hm
    · rw [first?_upsertAll_of_notMem hfirst, first?_upsert_self]
    · exact ih hrest hm

end First

end SearchAnnotation.Store
