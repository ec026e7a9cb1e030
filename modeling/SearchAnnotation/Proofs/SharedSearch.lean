import SearchAnnotation.Proofs.Lookups
import SearchAnnotation.Proofs.ShownResults
import SearchAnnotation.Proofs.ViewMoves

/-!
# One search for all

Views of one query run side by side with any posts of ranks. Since all of them refer to one lock,
and only its holder looks into the cache a second time, searches and commits, no two of them
search at once, and nobody searches or commits once something is cached. From then on only posts
write, and they leave the cached faces as they are.
-/

namespace SearchAnnotation.View.Room

variable {σ : Type} {provider : Provider σ} {room : Room σ} {qid : String}

/-- What all steps of views of one query keep. -/
structure Orderly (provider : Provider σ) (qid : String) (room : Room σ) : Prop where
  /-- The ids of all rows differ. -/
  keyed : room.store.Keyed
  /-- All views are of the query. -/
  qid_eq : ∀ {i : Nat} {v : Visitor}, room.visitors[i]? = some v → v.qid = qid
  /-- All views refer to the registered lock. -/
  registered : ∀ {i : Nat} {v : Visitor} {lock : Nat}, room.visitors[i]? = some v →
    v.stage.lock? = some lock → room.registry.lookup qid = some lock
  /-- No two views hold a lock. -/
  exclusive : ∀ {i j : Nat} {v w : Visitor}, room.visitors[i]? = some v →
    room.visitors[j]? = some w → v.stage.held? ≠ none → w.stage.held? ≠ none → i = j
  /-- While a view searches nothing is cached. -/
  uncached : ∀ {i : Nat} {v : Visitor}, room.visitors[i]? = some v → v.stage.searches = true →
    room.store.rowsOf qid = []
  /-- What a view commits was built from an answer. -/
  searched : ∀ {i : Nat} {v : Visitor} {frame lock results}, room.visitors[i]? = some v →
    v.stage = .saving frame lock results → Searched provider results

/-- The lock that some view holds is held. -/
theorem isHeld_of_getElem? {i : Nat} {v : Visitor} {lock : Nat} (h : room.visitors[i]? = some v)
    (holds : v.stage.held? = some lock) : room.isHeld lock = true :=
  List.any_eq_true.mpr ⟨v, List.mem_of_getElem? h, beq_iff_eq.mpr holds⟩

/-- A lock that some view refers to is referenced. -/
theorem isReferenced_of_getElem? {i : Nat} {v : Visitor} {lock : Nat}
    (h : room.visitors[i]? = some v) (refers : v.stage.lock? = some lock) :
    room.isReferenced lock = true :=
  List.any_eq_true.mpr ⟨v, List.mem_of_getElem? h, beq_iff_eq.mpr refers⟩

/-- A view that has just got hold of the lock is the only one that holds a lock. -/
theorem Orderly.held_unique (o : Orderly provider qid room) {index j : Nat} {v w : Visitor}
    {stage : Stage} {after : Room σ} (hv : room.visitors[index]? = some v)
    (hw : room.visitors[j]? = some w) (move : Move provider room qid v.stage stage after)
    (holds : stage.held? ≠ none) (holds' : w.stage.held? ≠ none) : index = j := by
  obtain ⟨lock, hlock⟩ := Option.ne_none_iff_exists'.mp holds
  rcases move.held hlock with hheld | ⟨hrefers, hfree⟩
  -- Both refer to the one registered lock, so it is not free while the other view holds it.
  · exact o.exclusive hv hw (by rw [hheld]; exact Option.some_ne_none lock) holds'
  · obtain ⟨other, hother⟩ := Option.ne_none_iff_exists'.mp holds'
    have hsame : some other = some lock :=
      (o.registered hw (Stage.lock_of_held hother)).symm.trans (o.registered hv hrefers)
    rw [Option.some.inj hsame] at hother
    rw [isHeld_of_getElem? hw hother] at hfree
    cases hfree

theorem Orderly.visit (o : Orderly provider qid room) (index : Nat) :
    Orderly provider qid (step provider room (.visit index)) := by
  cases hv : room.visitors[index]? with
  | none =>
    rw [step_visit_of_none provider hv]
    exact o
  | some v =>
    obtain ⟨stage, after, hmove, hstep⟩ := step_visit provider hv
    rw [o.qid_eq hv] at hmove
    rw [hstep]
    constructor
    case keyed => exact hmove.keyed o.keyed
    case qid_eq =>
      intro i w hw
      rcases of_getElem?_set hw with ⟨-, rfl⟩ | ⟨-, hold⟩
      · exact show v.qid = qid from o.qid_eq hv
      · exact o.qid_eq hold
    case registered =>
      intro i w lock hw hlock
      rcases of_getElem?_set hw with ⟨-, rfl⟩ | ⟨-, hold⟩
      · exact hmove.registered (fun lock => o.registered hv) hlock
      · exact hmove.lookup_eq (o.registered hold hlock)
    case exclusive =>
      intro i j w x hw hx hheld hheld'
      rcases of_getElem?_set hw with ⟨rfl, rfl⟩ | ⟨-, hold⟩
      · rcases of_getElem?_set hx with ⟨rfl, -⟩ | ⟨-, hold'⟩
        · rfl
        · exact o.held_unique hv hold' hmove hheld hheld'
      · rcases of_getElem?_set hx with ⟨rfl, rfl⟩ | ⟨-, hold'⟩
        · exact (o.held_unique hv hold hmove hheld' hheld).symm
        · exact o.exclusive hold hold' hheld hheld'
    case uncached =>
      intro i w hw hsearch
      rcases of_getElem?_set hw with ⟨-, rfl⟩ | ⟨hi, hold⟩
      · exact hmove.searches (o.uncached hv) hsearch
      · -- A view that writes holds the lock, so the other one does not search.
        rcases hmove.store_eq with ⟨hstore, -⟩ | hsearch'
        · exact (congrArg (·.rowsOf qid) hstore).trans (o.uncached hold hsearch)
        · exact absurd (o.exclusive hold hv (Stage.held_of_searches hsearch)
            (Stage.held_of_searches hsearch')) hi
    case searched =>
      intro i w frame lock results hw hsaving
      rcases of_getElem?_set hw with ⟨-, rfl⟩ | ⟨-, hold⟩
      · exact hmove.searched hsaving
      · exact o.searched hold hsaving

/-- A step of a post changes nothing but posts and ranks. -/
theorem step_post (provider : Provider σ) (room : Room σ) (index : Nat) :
    ∃ store posters, (store = room.store ∨ ∃ changes, store = room.store.commitRanks changes) ∧
      step provider room (.post index) = { room with store, posters } := by
  cases hp : room.posters[index]? with
  | none => exact ⟨room.store, room.posters, .inl rfl, by simp only [step, hp]⟩
  | some poster =>
    refine ⟨(postStep room.store poster).2, _, ?_, by simp only [step, hp]; rfl⟩
    unfold postStep
    split
    · dsimp only
      split
      · exact .inl rfl
      · exact .inl rfl
    · next changes count _ => exact .inr ⟨changes, rfl⟩
    · exact .inl rfl

theorem Orderly.post (o : Orderly provider qid room) (index : Nat) :
    Orderly provider qid (step provider room (.post index)) := by
  obtain ⟨store, posters, hstore, hstep⟩ := step_post provider room index
  rw [hstep]
  refine ⟨?_, o.qid_eq, o.registered, o.exclusive, ?_, o.searched⟩
  · rcases hstore with rfl | ⟨changes, rfl⟩
    · exact o.keyed
    · exact Store.keyed_commitRanks o.keyed changes
  · intro i v hv hsearch
    have hnone : room.store.rowsOf qid = [] := o.uncached hv hsearch
    rcases hstore with rfl | ⟨changes, rfl⟩
    · exact hnone
    · exact show (room.store.commitRanks changes).rowsOf qid = [] by
        rw [Store.rowsOf_commitRanks, hnone, List.map_nil]

theorem Orderly.forget (o : Orderly provider qid room) (other : String) :
    Orderly provider qid (step provider room (.forget other)) := by
  cases hl : room.registry.lookup other with
  | none =>
    simp only [step, hl]
    exact o
  | some lock =>
    by_cases hr : room.isReferenced lock = true
    · simp only [step, hl, hr, if_true]
      exact o
    · simp only [step, hl, if_neg hr]
      refine ⟨o.keyed, o.qid_eq, ?_, o.exclusive, o.uncached, o.searched⟩
      intro i v lock' hv hlock
      have hregistered := o.registered hv hlock
      by_cases hq : qid = other
      · rw [← hq, hregistered] at hl
        exact absurd (isReferenced_of_getElem? hv (hlock.trans hl)) hr
      · exact (Entries.lookup_filter (· != other) (bne_iff_ne.mpr hq)).trans hregistered

theorem Orderly.step_event (o : Orderly provider qid room) (event : Event) :
    Orderly provider qid (step provider room event) := by
  cases event with
  | visit index => exact o.visit index
  | post index => exact o.post index
  | forget other => exact o.forget other

theorem Orderly.run_events (o : Orderly provider qid room) (events : List Event) :
    Orderly provider qid (run provider room events) := by
  induction events generalizing room with
  | nil => exact o
  | cons event rest ih => exact ih (o.step_event event)

section Cached

variable (o : Orderly provider qid room) (cache : room.store.rowsOf qid ≠ [])

include o cache

/-- Nobody searches or commits. -/
theorem Orderly.not_searches {i : Nat} {v : Visitor} (hv : room.visitors[i]? = some v) :
    v.stage.searches = false :=
  Bool.eq_false_iff.mpr fun hsearch => cache (o.uncached hv hsearch)

/-- No view writes to the store or calls the provider. -/
theorem Orderly.visit_cached (index : Nat) :
    (step provider room (.visit index)).store = room.store ∧
      (step provider room (.visit index)).source = room.source := by
  cases hv : room.visitors[index]? with
  | none =>
    rw [step_visit_of_none provider hv]
    exact ⟨rfl, rfl⟩
  | some v =>
    obtain ⟨stage, after, hmove, hstep⟩ := step_visit provider hv
    rw [hstep]
    rcases hmove.store_eq with hsame | hsearch
    · exact hsame
    · rw [o.not_searches cache hv] at hsearch
      cases hsearch

/-- The query keeps having rows, the provider is not called, and the faces stay. -/
theorem Orderly.step_cached (event : Event) :
    (step provider room event).store.rowsOf qid ≠ [] ∧
      (step provider room event).source = room.source ∧
      (step provider room event).store.facesOf qid = room.store.facesOf qid := by
  cases event with
  | visit index =>
    obtain ⟨hstore, hsource⟩ := o.visit_cached cache index
    rw [hstore]
    exact ⟨cache, hsource, rfl⟩
  | post index =>
    obtain ⟨store, posters, hstore, hstep⟩ := step_post provider room index
    rw [hstep]
    rcases hstore with rfl | ⟨changes, rfl⟩
    · exact ⟨cache, rfl, rfl⟩
    · refine ⟨?_, rfl, Store.facesOf_commitRanks room.store changes qid⟩
      exact show (room.store.commitRanks changes).rowsOf qid ≠ [] by
        rw [Store.rowsOf_commitRanks]
        exact fun hnil => cache (List.map_eq_nil_iff.mp hnil)
  | forget other =>
    simp only [Room.step]
    split
    · exact ⟨cache, rfl, rfl⟩
    · split
      · exact ⟨cache, rfl, rfl⟩
      · exact ⟨cache, rfl, rfl⟩

theorem Orderly.run_cached (events : List Event) :
    (run provider room events).store.rowsOf qid ≠ [] ∧
      (run provider room events).source = room.source ∧
      (run provider room events).store.facesOf qid = room.store.facesOf qid := by
  induction events generalizing room with
  | nil => exact ⟨cache, rfl, rfl⟩
  | cons event rest ih =>
    obtain ⟨hrows, hsource, hfaces⟩ := o.step_cached cache event
    obtain ⟨hrows', hsource', hfaces'⟩ := ih (o.step_event event) hrows
    exact ⟨hrows', hsource'.trans hsource, hfaces'.trans hfaces⟩

end Cached

end SearchAnnotation.View.Room
