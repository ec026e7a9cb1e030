import SearchAnnotation.View

/-!
# Concurrent views

Views of many queries and posts of ranks run side by side. Each proceeds in steps, and a step is
one look into the store, one search or one commit; any order of steps is possible. A view that
finds nothing cached takes a reference to its query's lock, waits until nobody holds it, looks
into the cache again and only then searches and commits. The lock is made when it is first asked
for, and its registration may be forgotten as soon as no view refers to it.
-/

namespace SearchAnnotation.View

/-- Where a view is. Locks are numbered. -/
inductive Stage where
  /-- Its query is looked up next. -/
  | arrived
  /-- The cache is looked into next. -/
  | looked (frame : Frame)
  /-- The cache was empty, and the lock is awaited. -/
  | queued (frame : Frame) (lock : Nat)
  /-- The lock is held, and the cache is looked into again. -/
  | checking (frame : Frame) (lock : Nat)
  /-- The cache was still empty, and the provider is searched next. -/
  | fetching (frame : Frame) (lock : Nat)
  /-- Results are built and committed next. -/
  | saving (frame : Frame) (lock : Nat) (results : List SearchResult)
  /-- The view is over. -/
  | finished (outcome : Except ViewFault (Lookup Page))

namespace Stage

/-- The lock that a view refers to. -/
def lock? : Stage → Option Nat
  | queued _ lock => some lock
  | checking _ lock => some lock
  | fetching _ lock => some lock
  | saving _ lock _ => some lock
  | _ => none

/-- The lock that a view holds. -/
def held? : Stage → Option Nat
  | checking _ lock => some lock
  | fetching _ lock => some lock
  | saving _ lock _ => some lock
  | _ => none

/-- How a view ended. -/
def outcome? : Stage → Option (Except ViewFault (Lookup Page))
  | finished outcome => some outcome
  | _ => none

end Stage

/-- One view among others. -/
structure Visitor where
  /-- The query's name. -/
  qid : String
  /-- Where the view is. -/
  stage : Stage

/-- Where a post of ranks is. -/
inductive Posting where
  /-- The query's rows are read next. -/
  | arrived
  /-- The rows were read, and the changes are committed next. -/
  | read (changes : Store.Ranks) (count : Nat)
  /-- The post is over. -/
  | finished (outcome : Except StoreFault Nat)

/-- One post of ranks among others. -/
structure Poster where
  /-- The query's name. -/
  qid : String
  /-- The ranks. -/
  ranks : Store.Ranks
  /-- Where the post is. -/
  stage : Posting

/-- Everything that views and posts share, and where each of them is. -/
structure Room (σ : Type) where
  /-- The store. -/
  store : Store
  /-- The provider's state. -/
  source : σ
  /-- The views. -/
  visitors : List Visitor
  /-- The posts. -/
  posters : List Poster
  /-- The registered lock of each query. -/
  registry : List (String × Nat)
  /-- How many locks were ever made. -/
  made : Nat

/-- What happens next in a room. -/
inductive Event where
  /-- A view takes a step. -/
  | visit (index : Nat)
  /-- A post takes a step. -/
  | post (index : Nat)
  /-- The registration of a query's lock is forgotten. -/
  | forget (qid : String)
deriving DecidableEq

namespace Room

variable {σ : Type}

/-- A room with views that have just arrived. -/
def enter (store : Store) (source : σ) (qids : List String) : Room σ where
  store
  source
  visitors := qids.map fun qid => ⟨qid, .arrived⟩
  posters := []
  registry := []
  made := 0

/-- Whether some view holds a lock. -/
def isHeld (room : Room σ) (lock : Nat) : Bool :=
  room.visitors.any fun visitor => visitor.stage.held? == some lock

/-- Whether some view refers to a lock. -/
def isReferenced (room : Room σ) (lock : Nat) : Bool :=
  room.visitors.any fun visitor => visitor.stage.lock? == some lock

/-- A query's lock, registered if it was not. -/
def lockFor (room : Room σ) (qid : String) : Nat × Room σ :=
  match room.registry.lookup qid with
  | some lock => (lock, room)
  | none =>
    (room.made, { room with registry := (qid, room.made) :: room.registry, made := room.made + 1 })

/-- The step of a view: where it is afterwards, and the room as it left it. -/
def advance (provider : Provider σ) (room : Room σ) (visitor : Visitor) : Stage × Room σ :=
  match visitor.stage with
  | .arrived =>
    match frame? room.store visitor.qid with
    | none => (.finished (.ok (.notFound visitor.qid)), room)
    | some frame => (.looked frame, room)
  | .looked frame =>
    match cached room.store visitor.qid with
    | .error why => (.finished (.error why), room)
    | .ok (first :: rest) => (.finished (.ok (.found (frame.page (first :: rest)))), room)
    | .ok [] =>
      let (lock, room) := room.lockFor visitor.qid
      (.queued frame lock, room)
  | .queued frame lock =>
    (if room.isHeld lock then .queued frame lock else .checking frame lock, room)
  | .checking frame lock =>
    match cached room.store visitor.qid with
    | .error why => (.finished (.error why), room)
    | .ok (first :: rest) => (.finished (.ok (.found (frame.page (first :: rest)))), room)
    | .ok [] => (.fetching frame lock, room)
  | .fetching frame lock =>
    match fetch provider frame.query room.source with
    | (.error why, source) => (.finished (.error why), { room with source })
    | (.ok results, source) => (.saving frame lock results, { room with source })
  | .saving frame _ results =>
    match save room.store visitor.qid results with
    | .error why => (.finished (.error why), room)
    | .ok store => (.finished (.ok (.found (frame.page results))), { room with store })
  | .finished outcome => (.finished outcome, room)

/-- The step of a post: where it is afterwards, and the store as it left it. -/
def postStep (store : Store) (poster : Poster) : Posting × Store :=
  match poster.stage with
  | .arrived =>
    let named := store.ranked poster.qid poster.ranks
    if named.all fun entry => Store.rankFits entry.2 then
      (.read (store.rankChanges poster.qid poster.ranks) named.length, store)
    else (.finished (.error .outOfRange), store)
  | .read changes count => (.finished (.ok count), store.commitRanks changes)
  | .finished outcome => (.finished outcome, store)

/-- A room after an event. -/
def step (provider : Provider σ) (room : Room σ) : Event → Room σ
  | .visit index =>
    match room.visitors[index]? with
    | none => room
    | some visitor =>
      let (stage, room) := advance provider room visitor
      { room with visitors := room.visitors.set index { visitor with stage } }
  | .post index =>
    match room.posters[index]? with
    | none => room
    | some poster =>
      let (stage, store) := postStep room.store poster
      { room with store, posters := room.posters.set index { poster with stage } }
  | .forget qid =>
    match room.registry.lookup qid with
    | none => room
    | some lock =>
      if room.isReferenced lock then room
      else { room with registry := room.registry.filter fun entry => entry.1 != qid }

/-- A room after events in order. -/
def run (provider : Provider σ) (room : Room σ) (events : List Event) : Room σ :=
  events.foldl (step provider) room

end Room

end SearchAnnotation.View
