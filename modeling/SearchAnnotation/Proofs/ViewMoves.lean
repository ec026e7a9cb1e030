import SearchAnnotation.Proofs.SavedResults
import SearchAnnotation.View.Concurrent

/-!
# How views move

A view among others takes one of a few kinds of steps, and each kind says what it asks of the room
and what it leaves there. From the kinds it is read off which locks a view refers to and holds,
when it searches, what it commits and what it shows in the end.
-/

namespace SearchAnnotation.View

namespace Stage

/-- Whether a view has found nothing cached twice and goes on to search or to commit. -/
def searches : Stage → Bool
  | fetching _ _ => true
  | saving _ _ _ => true
  | _ => false

theorem held_of_searches {stage : Stage} (h : stage.searches = true) : stage.held? ≠ none := by
  cases stage with
  | fetching frame lock => exact Option.some_ne_none lock
  | saving frame lock results => exact Option.some_ne_none lock
  | _ => cases h

/-- A lock that is held is referred to. -/
theorem lock_of_held {stage : Stage} {lock : Nat} (h : stage.held? = some lock) :
    stage.lock? = some lock := by
  cases stage with
  | checking frame lock => exact h
  | fetching frame lock => exact h
  | saving frame lock results => exact h
  | _ => cases h

end Stage

namespace Room

variable {σ : Type} {provider : Provider σ} {room : Room σ} {qid : String}

/-- The ways in which a view can take a step. -/
inductive Move (provider : Provider σ) (room : Room σ) (qid : String) :
    Stage → Stage → Room σ → Prop where
  /-- There is no such query. -/
  | absent : Move provider room qid .arrived (.finished (.ok (.notFound qid))) room
  /-- The query is known. -/
  | enters {frame : Frame} : Move provider room qid .arrived (.looked frame) room
  /-- What is cached is shown. -/
  | shows {stage : Stage} {frame : Frame} {results : List SearchResult} :
      stage.outcome? = none → cached room.store qid = .ok results →
      Move provider room qid stage (.finished (.ok (.found (frame.page results)))) room
  /-- The view fails. -/
  | fails {stage : Stage} {why : ViewFault} : stage.outcome? = none →
      Move provider room qid stage (.finished (.error why)) room
  /-- The registered lock is awaited. -/
  | queues {frame : Frame} {lock : Nat} : room.registry.lookup qid = some lock →
      Move provider room qid (.looked frame) (.queued frame lock) room
  /-- A new lock is registered and awaited. -/
  | registers {frame : Frame} : room.registry.lookup qid = none →
      Move provider room qid (.looked frame) (.queued frame room.made)
        { room with registry := (qid, room.made) :: room.registry, made := room.made + 1 }
  /-- Somebody holds the lock. -/
  | waits {frame : Frame} {lock : Nat} :
      Move provider room qid (.queued frame lock) (.queued frame lock) room
  /-- Nobody holds the lock. -/
  | acquires {frame : Frame} {lock : Nat} : room.isHeld lock = false →
      Move provider room qid (.queued frame lock) (.checking frame lock) room
  /-- Nothing is cached. -/
  | misses {frame : Frame} {lock : Nat} : cached room.store qid = .ok [] →
      Move provider room qid (.checking frame lock) (.fetching frame lock) room
  /-- The search gives results. -/
  | finds {frame : Frame} {lock : Nat} {results : List SearchResult} {source : σ} :
      fetch provider frame.query room.source = (.ok results, source) →
      Move provider room qid (.fetching frame lock) (.saving frame lock results)
        { room with source }
  /-- The search fails. -/
  | loses {frame : Frame} {lock : Nat} {why : ViewFault} {source : σ} :
      Move provider room qid (.fetching frame lock) (.finished (.error why)) { room with source }
  /-- The results are committed and shown. -/
  | commits {frame : Frame} {lock : Nat} {results : List SearchResult} {store : Store} :
      save room.store qid results = .ok store →
      Move provider room qid (.saving frame lock results)
        (.finished (.ok (.found (frame.page results)))) { room with store }
  /-- The view is over. -/
  | stays {outcome : Except ViewFault (Lookup Page)} :
      Move provider room qid (.finished outcome) (.finished outcome) room

theorem move_advance (provider : Provider σ) (room : Room σ) (v : Visitor) :
    Move provider room v.qid v.stage (advance provider room v).1 (advance provider room v).2 := by
  obtain ⟨qid, stage⟩ := v
  cases stage with
  | arrived =>
    simp only [advance]
    split
    · exact .absent
    · exact .enters
  | looked frame =>
    simp only [advance]
    split
    · exact .fails rfl
    · next h => exact .shows rfl h
    · simp only [lockFor]
      split
      · next h => exact .queues h
      · next h => exact .registers h
  | queued frame lock =>
    simp only [advance]
    split
    · exact .waits
    · next h => exact .acquires (Bool.not_eq_true _ ▸ h)
  | checking frame lock =>
    simp only [advance]
    split
    · exact .fails rfl
    · next h => exact .shows rfl h
    · next h => exact .misses h
  | fetching frame lock =>
    simp only [advance]
    split
    · exact .loses
    · next h => exact .finds h
  | saving frame lock results =>
    simp only [advance]
    split
    · exact .fails rfl
    · next h => exact .commits h
  | finished outcome => exact .stays

/-- Whether results were built from an answer of the provider. -/
def Searched (provider : Provider σ) (results : List SearchResult) : Prop :=
  ∃ text state answer qid, (provider.search text state).1 = .ok answer ∧
    SearchResult.ofAnswer qid answer = .ok results

/-- A search that gives results has built them from an answer. -/
theorem searched_of_fetch {query : Query} {state state' : σ} {results : List SearchResult}
    (h : fetch provider query state = (.ok results, state')) : Searched provider results := by
  unfold fetch at h
  obtain ⟨outcome, next, hsearch⟩ : ∃ outcome next,
      provider.search query.text state = (outcome, next) := ⟨_, _, rfl⟩
  rw [hsearch] at h
  cases outcome with
  | error why => cases h
  | ok answer =>
    have hbuilt := (Prod.mk.inj h).1
    refine ⟨query.text, state, answer, query.qid, ?_, Outcome.mapError_eq_ok.mp hbuilt⟩
    rw [hsearch]

section Move

variable {stage stage' : Stage} {after : Room σ}

theorem Move.visitors_eq (h : Move provider room qid stage stage' after) :
    after.visitors = room.visitors := by
  cases h <;> rfl

/-- A registered lock stays registered. -/
theorem Move.lookup_eq (h : Move provider room qid stage stage' after) {lock : Nat}
    (registered : room.registry.lookup qid = some lock) :
    after.registry.lookup qid = some lock := by
  cases h with
  | registers hnone =>
    rw [hnone] at registered
    cases registered
  | _ => exact registered

/-- A lock that a view refers to is registered, if it was so before. -/
theorem Move.registered (h : Move provider room qid stage stage' after)
    (before : ∀ lock, stage.lock? = some lock → room.registry.lookup qid = some lock) {lock : Nat}
    (refers : stage'.lock? = some lock) : after.registry.lookup qid = some lock := by
  cases h with
  | queues hlookup =>
    cases refers
    exact hlookup
  | registers =>
    cases refers
    exact List.lookup_cons_self
  | waits => exact before lock refers
  | acquires => exact before lock refers
  | misses => exact before lock refers
  | finds => exact before lock refers
  | _ => cases refers

/-- A view gets hold of a lock only if nobody holds it. -/
theorem Move.held (h : Move provider room qid stage stage' after) {lock : Nat}
    (holds : stage'.held? = some lock) :
    stage.held? = some lock ∨ stage.lock? = some lock ∧ room.isHeld lock = false := by
  cases h with
  | acquires hfree =>
    cases holds
    exact .inr ⟨rfl, hfree⟩
  | misses => exact .inl holds
  | finds => exact .inl holds
  | _ => cases holds

/-- A view goes on to search and to commit only while nothing is cached. -/
theorem Move.searches (h : Move provider room qid stage stage' after)
    (before : stage.searches = true → room.store.rowsOf qid = [])
    (searching : stage'.searches = true) : after.store.rowsOf qid = [] := by
  cases h with
  | misses hcached => exact Store.resultsOf_eq_nil.mp (Outcome.mapError_eq_ok.mp hcached)
  | finds => exact before rfl
  | _ => cases searching

/-- A view changes the store only by committing, and the provider's state only by searching. -/
theorem Move.store_eq (h : Move provider room qid stage stage' after) :
    after.store = room.store ∧ after.source = room.source ∨ stage.searches = true := by
  cases h with
  | finds => exact .inr rfl
  | loses => exact .inr rfl
  | commits => exact .inr rfl
  | _ => exact .inl ⟨rfl, rfl⟩

/-- What a view commits keeps the ids apart. -/
theorem Move.keyed (h : Move provider room qid stage stage' after) (keyed : room.store.Keyed) :
    after.store.Keyed := by
  cases h with
  | commits hsave => exact Store.keyed_of_save keyed hsave
  | _ => exact keyed

/-- What a view is going to commit was built from an answer of the provider. -/
theorem Move.searched (h : Move provider room qid stage stage' after) {frame : Frame} {lock : Nat}
    {results : List SearchResult} (saving : stage' = .saving frame lock results) :
    Searched provider results := by
  cases h with
  | finds hfetch =>
    cases saving
    exact searched_of_fetch hfetch
  | _ => cases saving

/-- A view that ends with a page shows what is cached or commits what it shows. -/
theorem Move.shown (h : Move provider room qid stage stage' after) {page : Page}
    (unfinished : stage.outcome? = none)
    (finishes : stage'.outcome? = some (.ok (.found page))) :
    stage.searches = true ∨ ∃ frame results, room.store.resultsOf qid = .ok results ∧
      page = Frame.page frame results := by
  cases h with
  | shows _ hcached =>
    cases finishes
    exact .inr ⟨_, _, Outcome.mapError_eq_ok.mp hcached, rfl⟩
  | commits => exact .inl rfl
  | stays => cases unfinished
  | _ => cases finishes

/-- A view that is over does not move. -/
theorem Move.ended (h : Move provider room qid stage stage' after) {outcome}
    (ended : stage.outcome? = some outcome) : stage'.outcome? = some outcome := by
  cases h with
  | shows hnone =>
    rw [hnone] at ended
    cases ended
  | fails hnone =>
    rw [hnone] at ended
    cases ended
  | stays => exact ended
  | _ => cases ended

end Move

/-- A step of a view moves it and nothing else among the views. -/
theorem step_visit (provider : Provider σ) {index : Nat} {v : Visitor}
    (h : room.visitors[index]? = some v) :
    ∃ stage after, Move provider room v.qid v.stage stage after ∧
      step provider room (.visit index) =
        { after with visitors := room.visitors.set index { v with stage } } := by
  have hmove := move_advance provider room v
  refine ⟨_, _, hmove, ?_⟩
  simp only [step, h, hmove.visitors_eq]

theorem step_visit_of_none (provider : Provider σ) {index : Nat}
    (h : room.visitors[index]? = none) : step provider room (.visit index) = room := by
  simp only [step, h]

/-- After one view has moved, each view is that one or an old one. -/
theorem of_getElem?_set {visitors : List Visitor} {index i : Nat} {moved v : Visitor}
    (h : (visitors.set index moved)[i]? = some v) :
    i = index ∧ v = moved ∨ i ≠ index ∧ visitors[i]? = some v := by
  by_cases hi : index = i
  · rw [hi, List.getElem?_set_self'] at h
    obtain ⟨old, -, rfl⟩ := Option.map_eq_some_iff.mp h
    exact .inl ⟨hi.symm, rfl⟩
  · rw [List.getElem?_set_ne hi] at h
    exact .inr ⟨fun he => hi he.symm, h⟩

end Room

end SearchAnnotation.View
