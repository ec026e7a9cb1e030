import SearchAnnotation.Proofs.NewQueries
import SearchAnnotation.Proofs.Outcomes
import SearchAnnotation.Service.Intake

/-!
# Imports in turn

Imports that run side by side filter their batches by names that may be out of date when they
commit. But if a commit goes through then none of its new names was stored meanwhile, and the import
would have found the same queries to be new had it read just then. Hence the imports that go through
leave what they leave one after the other, in the order of their commits.
-/

namespace SearchAnnotation.Service

/-- One more batch after batches in turn. -/
theorem importInTurn_concat {store between saved : Store} {batches : List (List PostedQuery)}
    {batch : List PostedQuery} {counts : List Nat} {count : Nat}
    (h : importInTurn store batches = .ok (between, counts))
    (last : between.addQueries batch = .ok (saved, count)) :
    importInTurn store (batches ++ [batch]) = .ok (saved, counts ++ [count]) := by
  induction batches generalizing store counts with
  | nil =>
    cases h
    rw [List.nil_append, importInTurn, last]
    rfl
  | cons first rest ih =>
    obtain ⟨⟨middle, n⟩, hfirst, h⟩ := Outcome.bind_eq_ok.mp h
    obtain ⟨⟨later, ns⟩, hrest, h⟩ := Outcome.bind_eq_ok.mp h
    cases h
    exact Outcome.bind_eq_ok.mpr ⟨(middle, n), hfirst,
      Outcome.bind_eq_ok.mpr ⟨(saved, ns ++ [count]), ih hrest, rfl⟩⟩

namespace Intake

/-- The kinds of steps: a settled import rests, one that arrived reads the names in use, and one
that has read them is refused or goes through. -/
inductive Move (intake : Intake) (index : Nat) : Intake → Prop where
  /-- Nothing happens. -/
  | rests : Move intake index intake
  /-- The names in use are read. -/
  | reads {importer : Importer} (found : intake.importers[index]? = some importer)
      (arrived : importer.stage = .arrived) : Move intake index (intake.moved index importer
        (.read (Store.newQueries? intake.store.knownNames importer.batch)))
  /-- The import is refused. -/
  | refuses {importer : Importer} {fresh : Option (List Query)}
      (found : intake.importers[index]? = some importer) (read : importer.stage = .read fresh) :
      Move intake index (intake.moved index importer .refused)
  /-- The import goes through. -/
  | commits {importer : Importer} {fresh : Option (List Query)} {saved : Store} {count : Nat}
      (found : intake.importers[index]? = some importer) (read : importer.stage = .read fresh)
      (commit : intake.store.commitQueries fresh = .ok (saved, count)) :
      Move intake index (intake.passed index importer saved count)

theorem move_step (intake : Intake) (index : Nat) : Move intake index (intake.step index) := by
  unfold step
  split
  · exact .rests
  · next importer found =>
    split
    · next arrived => exact .reads found arrived
    · next fresh read =>
      split
      · exact .refuses found read
      · next saved count commit => exact .commits found read commit
    · exact .rests

variable {intake : Intake} {index : Nat} {importer : Importer} {stage : Importing}

theorem getElem?_moved_self (found : intake.importers[index]? = some importer) :
    (intake.moved index importer stage).importers[index]? = some { importer with stage } := by
  obtain ⟨hlt, -⟩ := List.getElem?_eq_some_iff.mp found
  exact List.getElem?_set_self hlt

theorem getElem?_moved_ne {other : Nat} (apart : other ≠ index) :
    (intake.moved index importer stage).importers[other]? = intake.importers[other]? :=
  List.getElem?_set_ne apart.symm

theorem importers_passed {store : Store} {count : Nat} :
    (intake.passed index importer store count).importers =
      (intake.moved index importer (.committed count)).importers := rfl

/-- A step that leaves its import refused leaves the store. -/
theorem store_step_of_refused
    (h : (intake.step index).importers[index]?.map Importer.stage = some .refused) :
    (intake.step index).store = intake.store := by
  have hmove := move_step intake index
  generalize intake.step index = after at h hmove
  cases hmove with
  | rests => rfl
  | reads found arrived => rfl
  | refuses found read => rfl
  | commits found read commit =>
    rw [importers_passed, getElem?_moved_self found] at h
    cases h

/-- What holds of an intake at all times: its store is what the imports that went through leave in
turn, and what the others have read were names that are still in use. -/
structure Orderly (start : Store) (batches : List (List PostedQuery)) (intake : Intake) :
    Prop where
  /-- No two queries share a name. -/
  names : intake.store.knownNames.Nodup
  /-- The imports are the ones that arrived. -/
  batches_eq : intake.importers.map Importer.batch = batches
  /-- What an import has read is out of date at worst. -/
  stale : ∀ importer ∈ intake.importers, ∀ fresh, importer.stage = .read fresh →
    ∃ known, known ⊆ intake.store.knownNames ∧ fresh = Store.newQueries? known importer.batch
  /-- The imports that went through leave this store in turn, and count the same queries. -/
  inTurn : importInTurn start (intake.accepted.map Acceptance.batch) =
    .ok (intake.store, intake.accepted.map Acceptance.count)
  /-- No import goes through twice. -/
  once : (intake.accepted.map Acceptance.index).Nodup
  /-- Just the imports that went through are recorded. -/
  recorded : ∀ acceptance, acceptance ∈ intake.accepted ↔
    intake.importers[acceptance.index]? =
      some ⟨acceptance.batch, .committed acceptance.count⟩

variable {start : Store} {batches : List (List PostedQuery)}

theorem orderly_opened (names : start.knownNames.Nodup) :
    Orderly start batches (opened start batches) where
  names := names
  batches_eq := by
    rw [opened, List.map_map]
    exact List.map_id batches
  stale importer hm fresh hread := by
    obtain ⟨batch, -, rfl⟩ := List.mem_map.mp hm
    cases hread
  inTurn := rfl
  once := .nil
  recorded acceptance := by
    refine iff_of_false List.not_mem_nil fun h => ?_
    obtain ⟨batch, -, h⟩ := Option.map_eq_some_iff.mp ((List.getElem?_map ..).symm.trans h)
    cases h

/-- An import that moves on keeps its batch. -/
theorem map_batch_moved (found : intake.importers[index]? = some importer) :
    (intake.moved index importer stage).importers.map Importer.batch =
      intake.importers.map Importer.batch := by
  refine List.ext_getElem? fun other => ?_
  rw [List.getElem?_map, List.getElem?_map]
  by_cases hother : other = index
  · rw [hother, getElem?_moved_self found, found]
    rfl
  · rw [getElem?_moved_ne hother]

/-- An import that moves on without going through keeps an intake orderly. -/
theorem Orderly.moved (o : Orderly start batches intake)
    (found : intake.importers[index]? = some importer)
    (before : ∀ count, importer.stage ≠ .committed count)
    (after : ∀ count, stage ≠ .committed count)
    (stale : ∀ fresh, stage = .read fresh →
      ∃ known, known ⊆ intake.store.knownNames ∧ fresh = Store.newQueries? known importer.batch) :
    Orderly start batches (intake.moved index importer stage) where
  names := o.names
  batches_eq := (map_batch_moved found).trans o.batches_eq
  stale other hm fresh hread := by
    rcases List.mem_or_eq_of_mem_set hm with hm | rfl
    · exact o.stale other hm fresh hread
    · exact stale fresh hread
  inTurn := o.inTurn
  once := o.once
  recorded acceptance := by
    refine (o.recorded acceptance).trans ?_
    by_cases hindex : acceptance.index = index
    · rw [hindex, getElem?_moved_self found, found]
      refine iff_of_false (fun h => ?_) fun h => ?_
      · exact before _ (congrArg Importer.stage (Option.some.inj h))
      · exact after _ (congrArg Importer.stage (Option.some.inj h))
    · rw [getElem?_moved_ne hindex]

/-- An import that goes through keeps an intake orderly. -/
theorem Orderly.committed (o : Orderly start batches intake) {fresh : Option (List Query)}
    {saved : Store} {count : Nat} (found : intake.importers[index]? = some importer)
    (read : importer.stage = .read fresh)
    (commit : intake.store.commitQueries fresh = .ok (saved, count)) :
    Orderly start batches (intake.passed index importer saved count) := by
  obtain ⟨known, hstale, rfl⟩ := o.stale importer (List.mem_of_getElem? found) fresh read
  have halone : intake.store.addQueries importer.batch = .ok (saved, count) :=
    Store.addQueries_of_commitQueries hstale commit
  have hgrown : intake.store.knownNames ⊆ saved.knownNames := by
    obtain ⟨queries, -, -, rfl, -⟩ := Store.commitQueries_eq_ok.mp commit
    rw [Store.knownNames, Store.knownNames, List.map_append]
    exact List.subset_append_left _ _
  -- Before its commit the import was not recorded.
  have hunrecorded : ∀ acceptance ∈ intake.accepted, acceptance.index ≠ index := by
    intro acceptance hm hindex
    have hfound := (o.recorded acceptance).mp hm
    rw [hindex, found, Option.some.injEq] at hfound
    rw [hfound] at read
    cases read
  refine ⟨Store.nodup_names_addQueries o.names halone, (map_batch_moved found).trans o.batches_eq,
    ?_, ?_, ?_, fun acceptance => ?_⟩
  · intro other hm fresh hread
    rcases List.mem_or_eq_of_mem_set hm with hm | rfl
    · obtain ⟨known, hknown, hfresh⟩ := o.stale other hm fresh hread
      exact ⟨known, List.Subset.trans hknown hgrown, hfresh⟩
    · cases hread
  · rw [passed, List.map_append, List.map_append]
    exact importInTurn_concat o.inTurn halone
  · rw [passed, List.map_append, List.nodup_append]
    refine ⟨o.once, List.pairwise_singleton _ _, ?_⟩
    intro i hi j hj he
    obtain ⟨acceptance, hm, rfl⟩ := List.mem_map.mp hi
    exact hunrecorded acceptance hm (he.trans (List.mem_singleton.mp hj))
  · rw [importers_passed, passed, List.mem_append, List.mem_singleton]
    by_cases hindex : acceptance.index = index
    · obtain ⟨i, batch, n⟩ := acceptance
      cases hindex
      rw [or_iff_right (fun hm => hunrecorded _ hm rfl), getElem?_moved_self found]
      simp only [Acceptance.mk.injEq, true_and, Option.some.injEq, Importer.mk.injEq,
        Importing.committed.injEq, eq_comm]
    · rw [or_iff_left (fun he => hindex (congrArg Acceptance.index he)), o.recorded,
        getElem?_moved_ne hindex]

/-- Every step keeps an intake orderly. -/
theorem Orderly.step (o : Orderly start batches intake) (index : Nat) :
    Orderly start batches (intake.step index) := by
  have hmove := move_step intake index
  generalize intake.step index = after at hmove
  cases hmove with
  | rests => exact o
  | reads found arrived =>
    refine o.moved found (fun count h => nomatch arrived.symm.trans h) (fun count h => nomatch h) ?_
    intro fresh hread
    cases hread
    exact ⟨intake.store.knownNames, List.Subset.refl _, rfl⟩
  | refuses found read =>
    exact o.moved found (fun count h => nomatch read.symm.trans h) (fun count h => nomatch h)
      fun fresh hread => nomatch hread
  | commits found read commit => exact o.committed found read commit

/-- Every run keeps an intake orderly. -/
theorem Orderly.run (o : Orderly start batches intake) (indices : List Nat) :
    Orderly start batches (intake.run indices) := by
  induction indices generalizing intake with
  | nil => exact o
  | cons index rest ih => exact ih (o.step index)

/-- The imports that went through are recorded with their batches and counts. -/
theorem Orderly.mem_accepted_iff (o : Orderly start batches intake) {batch : List PostedQuery}
    {count : Nat} : ⟨index, batch, count⟩ ∈ intake.accepted ↔ batches[index]? = some batch ∧
      intake.importers[index]?.map Importer.stage = some (.committed count) := by
  rw [o.recorded, ← o.batches_eq, List.getElem?_map]
  cases intake.importers[index]? with
  | none => simp only [reduceCtorEq, Option.map_none, false_and]
  | some importer => simp only [Option.some.injEq, Option.map_some, Importer.ext_iff]

theorem run_concat (intake : Intake) (indices : List Nat) (index : Nat) :
    intake.run (indices ++ [index]) = (intake.run indices).step index :=
  List.foldl_append

/-- Whatever the order of their steps, imports never store a name twice, an import that is refused
leaves the store, and the others leave the store and count the queries as they do one after the
other, in the order of their commits. -/
theorem accepted_imports_in_turn (start : Store) (batches : List (List PostedQuery))
    (names : start.knownNames.Nodup) (indices : List Nat) :
    ((opened start batches).run indices).store.knownNames.Nodup ∧
      importInTurn start (((opened start batches).run indices).accepted.map Acceptance.batch) =
        .ok (((opened start batches).run indices).store,
          ((opened start batches).run indices).accepted.map Acceptance.count) ∧
      (((opened start batches).run indices).accepted.map Acceptance.index).Nodup ∧
      (∀ index batch count, ⟨index, batch, count⟩ ∈ ((opened start batches).run indices).accepted ↔
        batches[index]? = some batch ∧
          ((opened start batches).run indices).importers[index]?.map Importer.stage =
            some (.committed count)) ∧
      ∀ before index after, indices = before ++ index :: after →
        ((opened start batches).run (before ++ [index])).importers[index]?.map Importer.stage =
          some .refused →
        ((opened start batches).run (before ++ [index])).store =
          ((opened start batches).run before).store := by
  have o : Orderly start batches ((opened start batches).run indices) :=
    (orderly_opened names).run indices
  refine ⟨o.names, o.inTurn, o.once, fun index batch count => o.mem_accepted_iff, ?_⟩
  intro before index after _ hrefused
  rw [run_concat] at hrefused ⊢
  exact store_step_of_refused hrefused

/-- Of three imports that all read first, the second one is refused as it repeats a name that the
first one has stored, and the other two leave what they leave in turn. -/
theorem overlapping_imports_in_turn :
    Store.knownNames ⟨[⟨"a", "x"⟩], [], []⟩ = ["a"] ∧ ["a"].Nodup ∧
      ((opened ⟨[⟨"a", "x"⟩], [], []⟩ [[⟨some "b", some "y"⟩],
          [⟨some "c", some "z"⟩, ⟨some "b", some "z"⟩], [⟨some "a", some "z"⟩,
            ⟨some "c", some "z"⟩]]).run [0, 1, 2, 0, 1, 2]).accepted.map Acceptance.index = [0, 2] ∧
      importInTurn ⟨[⟨"a", "x"⟩], [], []⟩ [[⟨some "b", some "y"⟩], [⟨some "a", some "z"⟩,
          ⟨some "c", some "z"⟩]] =
        .ok (⟨[⟨"a", "x"⟩, ⟨"b", "y"⟩, ⟨"c", "z"⟩], [], []⟩, [1, 1]) := by
  have hnames : Store.knownNames ⟨[⟨"a", "x"⟩], [], []⟩ = ["a"] := rfl
  have hnodup : ["a"].Nodup := List.pairwise_singleton _ _
  obtain ⟨-, hturn, -⟩ := accepted_imports_in_turn ⟨[⟨"a", "x"⟩], [], []⟩
    [[⟨some "b", some "y"⟩], [⟨some "c", some "z"⟩, ⟨some "b", some "z"⟩],
      [⟨some "a", some "z"⟩, ⟨some "c", some "z"⟩]] (hnames ▸ hnodup) [0, 1, 2, 0, 1, 2]
  exact ⟨hnames, hnodup, rfl, hturn⟩

end Intake

end SearchAnnotation.Service
