import SearchAnnotation.Exchange.Client
import SearchAnnotation.Value.Elements

/-!
# Search providers

A provider answers the text of a query with the records of webpages, ranked by their order, or
with a fault. It may keep state from one search to the next.
-/

namespace SearchAnnotation

/-- Why a search gives no webpages. -/
inductive SearchFault where
  /-- The call gave no value. -/
  | call (why : Exchange.CallFault)
  /-- The answer to a query has no list of webpages. -/
  | noWebpages (query : String)
  /-- The provider itself failed. -/
  | failed (explanation : String)
  /-- The answer does not have the shape that the provider expects. -/
  | shape (why : ShapeFault)
deriving DecidableEq, Repr

/-- Answers one search after the other. -/
structure Provider (σ : Type) where
  /-- The answer to the text of a query, and the state afterwards. -/
  search : String → σ → Except SearchFault Value × σ

end SearchAnnotation
