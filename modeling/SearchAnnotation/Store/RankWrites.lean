import SearchAnnotation.Store.Results

/-!
# Posts written row by row

A post writes its ranks one row after the other. What it writes is pending until all of it is
committed. A rank that does not fit stops the post, and everything pending is dropped then, what
was written for earlier rows included.
-/

namespace SearchAnnotation

/-- A store during a post. -/
structure RankPost where
  /-- The store as it was last committed. -/
  kept : Store
  /-- The store with everything that was written since. -/
  pending : Store
deriving DecidableEq, Repr

namespace RankPost

/-- A post that has written nothing yet. -/
def opened (store : Store) : RankPost := ⟨store, store⟩

/-- Writes the rank of one row, unless it does not fit. -/
def write (post : RankPost) (entry : String × Option Int) : Except StoreFault RankPost :=
  if Store.rankFits entry.2 then .ok { post with pending := post.pending.commitRanks [entry] }
  else .error .outOfRange

/-- Writes ranks in order up to the first one that is refused, and says why it was. -/
def writeAll (post : RankPost) : Store.Ranks → Option StoreFault × RankPost
  | [] => (none, post)
  | entry :: rest =>
    match post.write entry with
    | .ok later => writeAll later rest
    | .error why => (some why, post)

/-- Keeps what is pending. -/
def commit (post : RankPost) : RankPost := opened post.pending

/-- Drops what is pending. -/
def rollback (post : RankPost) : RankPost := opened post.kept

/-- Writes ranks in order and keeps them all, or none of them if one is refused. -/
def run (store : Store) (ranks : Store.Ranks) : Option StoreFault × Store :=
  match (opened store).writeAll ranks with
  | (none, post) => (none, post.commit.kept)
  | (some why, post) => (some why, post.rollback.kept)

end RankPost

end SearchAnnotation
