import SearchAnnotation.View.Concurrent

/-!
# Views over one connection

Views that are asked for together share one connection to the store. It carries out one operation
after the other, in the order in which they were asked for, and no view has more than one
operation waiting. Nothing keeps the views apart: each sees what the others have written, a commit
keeps what any of them wrote, and a rollback drops whatever is not committed.
-/

namespace SearchAnnotation.View

/-- What a view asks of the connection. -/
inductive Operation where
  /-- A statement is prepared, or its rows are fetched, or it is closed. -/
  | idle
  /-- The rows that decide about the view's next stage are read. -/
  | look
  /-- A statement is closed, and the view is at another stage. -/
  | settle (stage : Stage)
  /-- A result is looked for by its id. -/
  | find (result : SearchResult)
  /-- The row of the result looked for last is written. -/
  | write
  /-- Everything written is kept. -/
  | commit
  /-- Everything not kept is dropped. -/
  | rollback
  /-- Everything not kept is dropped, and the view is over. -/
  | leave (outcome : Except ViewFault (Lookup Page))

/-- What a view has still to do at its stage. -/
structure Errand where
  /-- The operations, in order. -/
  todo : List Operation
  /-- The row to be written next, why it cannot be, if so, and whether one of its id was found. -/
  pending : Option (ResultRow × Option StoreFault × Bool)

/-- Views that share a connection. -/
structure Shared (σ : Type) where
  /-- The views, and the store as the connection shows it. -/
  room : Room σ
  /-- The store as it was last committed. -/
  kept : Store
  /-- The errands of the views. -/
  errands : List Errand
  /-- The views whose next operation waits, in order. -/
  line : List Nat

/-- The operations of a statement that reads. -/
def reading (effect : Operation) : List Operation := [.idle, effect, .idle, .idle]

/-- The operations of a statement that writes. -/
def writing : List Operation := [.idle, .write, .idle]

/-- How many operations lie between the look at the query and the one into the cache: the two
neighbours of the query are read, with two statements each. -/
def neighbourOperations : Nat := 16

/-- The operations of a view at its stage. -/
def operations : Stage → List Operation
  | .arrived => reading .look
  | .looked _ => List.replicate neighbourOperations .idle ++ reading .look
  | .queued _ _ => []
  | .checking _ _ => reading .look
  | .fetching _ _ => []
  | .saving frame _ results =>
    results.flatMap (fun result => reading (.find result) ++ writing) ++
      [.commit, .leave (.ok (.found (frame.page results)))]
  | .finished _ => [.rollback, .rollback]

namespace Shared

variable {σ : Type}

/-- Views that have just arrived. -/
def enter (store : Store) (source : σ) (qids : List String) : Shared σ where
  room := .enter store source qids
  kept := store
  errands := qids.map fun _ => ⟨operations .arrived, none⟩
  line := List.range qids.length

/-- Where a view is. -/
def stage? (shared : Shared σ) (index : Nat) : Option Stage :=
  shared.room.visitors[index]?.map Visitor.stage

/-- Puts a view at a stage. -/
def put (shared : Shared σ) (index : Nat) (stage : Stage) : Shared σ :=
  { shared with room := { shared.room with
      visitors := shared.room.visitors.modify index fun visitor => { visitor with stage } } }

/-- Gives a view an errand, and lets it wait if there is something to do. -/
def send (shared : Shared σ) (index : Nat) (errand : Errand) : Shared σ :=
  { shared with
    errands := shared.errands.set index errand
    line := if errand.todo.isEmpty then shared.line else shared.line ++ [index] }

/-- Lets a view do what needs no operation: take a lock that is free, or search. -/
def pass (provider : Provider σ) (shared : Shared σ) (index : Nat) : Shared σ :=
  match shared.room.visitors[index]? with
  | some ⟨qid, .queued frame lock⟩ => go ⟨qid, .queued frame lock⟩
  | some ⟨qid, .fetching frame lock⟩ => go ⟨qid, .fetching frame lock⟩
  | _ => shared
where
  /-- The view takes one step. -/
  go (visitor : Visitor) : Shared σ :=
    let (stage, room) := shared.room.advance provider visitor
    { shared with room }.put index stage

/-- The first view that awaits a lock. -/
def waiting? (shared : Shared σ) (lock : Nat) : Option Nat :=
  shared.room.visitors.findIdx? fun visitor =>
    match visitor.stage with
    | .queued _ awaited => awaited == lock
    | _ => false

/-- Lets the next view have a lock, if nobody holds it any more. -/
def handOver (provider : Provider σ) (shared : Shared σ) (held : Option Nat) : Shared σ :=
  match held.filter fun lock => !shared.room.isHeld lock with
  | none => shared
  | some lock =>
    match shared.waiting? lock with
    | none => shared
    | some next =>
      let shared := shared.pass provider next
      shared.send next ⟨((shared.stage? next).map operations).getD [], none⟩

/-- Moves a view to a stage, where it has something to do. -/
def move (provider : Provider σ) (shared : Shared σ) (index : Nat) (stage : Stage)
    (todo : Stage → List Operation) : Shared σ :=
  let held := (shared.stage? index).bind Stage.held?
  let shared := ((shared.put index stage).pass provider index).handOver provider held
  shared.send index ⟨todo ((shared.stage? index).getD stage), none⟩

/-- Drops everything that is not kept. -/
def undo (shared : Shared σ) : Shared σ :=
  { shared with room := { shared.room with store := shared.kept } }

/-- The store after a row is written, or why it cannot be. -/
def written (store : Store) (row : ResultRow) (refusal : Option StoreFault) (found : Bool) :
    Except StoreFault Store :=
  match refusal with
  | some why => .error why
  | none =>
    if (Store.first? store.results row.id).isSome == found then
      .ok { store with results := Store.upsert row store.results }
    else .error (if found then .vanished row.id else .taken row.id)

/-- The errand after a result was looked for: a row that is stored as it is needs no writing. -/
def found (store : Store) (qid : String) (result : SearchResult) (todo : List Operation) :
    Errand :=
  let row := Store.rowFor store.results qid result
  match Store.first? store.results row.id with
  | none => ⟨todo, some (row, result.refusal?, false)⟩
  | some old =>
    if old = row then ⟨todo.take 2 ++ todo.drop (2 + writing.length), none⟩
    else ⟨todo, some (row, result.refusal?, true)⟩

/-- Carries out an operation of a view, given what else the view has to do. Also answers whether
the view moved to another stage. -/
def perform (provider : Provider σ) (shared : Shared σ) (index : Nat) (visitor : Visitor)
    (operation : Operation) (rest : Errand) : Shared σ × Bool :=
  match operation with
  | .idle => (shared.send index rest, false)
  | .look =>
    let (stage, room) := shared.room.advance provider visitor
    ({ shared with room }.send index ⟨[.idle, .settle stage], none⟩, false)
  | .settle stage => (shared.move provider index stage operations, true)
  | .find result =>
    if result.hasTextId then
      (shared.send index (found shared.room.store visitor.qid result rest.todo), false)
    else
      (shared.move provider index (.finished (.error (.store .unencodable))) operations, true)
  | .write =>
    match rest.pending with
    | none => (shared.send index rest, false)
    | some (row, refusal, found) =>
      match written shared.room.store row refusal found with
      | .ok store =>
        let room := { shared.room with store }
        ({ shared with room }.send index ⟨rest.todo, none⟩, false)
      | .error why =>
        (shared.send index ⟨[.leave (.error (.store why)), .rollback], none⟩, false)
  | .commit => ({ shared with kept := shared.room.store }.send index rest, false)
  | .rollback => (shared.undo.send index rest, false)
  | .leave outcome =>
    (shared.undo.move provider index (.finished outcome) fun _ => rest.todo, true)

/-- Carries out the next operation in line. -/
def step (provider : Provider σ) (shared : Shared σ) : Shared σ × Bool :=
  match shared.line with
  | [] => (shared, false)
  | index :: line =>
    let errand : Option Errand := shared.errands[index]?
    let visitor : Option Visitor := shared.room.visitors[index]?
    let shared := { shared with line }
    match errand, visitor with
    | some ⟨operation :: todo, pending⟩, some visitor =>
      shared.perform provider index visitor operation ⟨todo, pending⟩
    | _, _ => (shared, false)

/-- How many operations are to come before a view moves. -/
def remaining (shared : Shared σ) : Nat :=
  shared.errands.foldl (fun count errand => count + errand.todo.length) 0

/-- Carries out operations until none is left. The first number bounds how often views still
move, the second how many operations come before the next move. -/
def run (provider : Provider σ) : Nat → Nat → Shared σ → Shared σ
  | 0, _, shared => shared
  | _ + 1, 0, shared => shared
  | moves + 1, operations + 1, shared =>
    match shared.step provider with
    | (shared, true) => run provider moves shared.remaining shared
    | (shared, false) => run provider (moves + 1) operations shared
termination_by moves operations => (moves, operations)

end Shared

/-- How often one view moves at most. -/
def movesOfView : Nat := 6

/-- Shows the pages of many queries at once. Answers the outcomes in the order of the queries,
the store and the provider's state afterwards. -/
def loadMany {σ : Type} (provider : Provider σ) (qids : List String) (store : Store) (state : σ) :
    List (Except ViewFault (Lookup Page)) × Store × σ :=
  let shared := Shared.enter store state qids
  let shared := shared.run provider (movesOfView * qids.length + 1) shared.remaining
  (shared.room.visitors.filterMap fun visitor => visitor.stage.outcome?, shared.room.store,
    shared.room.source)

end SearchAnnotation.View
