import SearchAnnotation.Compression.Container
import SearchAnnotation.Exchange.Message

/-!
# Content codings

The body of a response may be compressed, more than once if its headers name several codings; the
last one named is the outermost. Names that are not known are passed over.
-/

namespace SearchAnnotation.Exchange

/-- A way in which a body is compressed. -/
inductive Coding where
  /-- The greater container. -/
  | gzip
  /-- The lesser container, or blocks alone. -/
  | deflate
deriving DecidableEq, Repr

namespace Coding

/-- The coding of a name, if it is known. -/
def named? (name : List Char) : Option Coding :=
  match String.ofList ((Text.trim Text.isBlank name).map Char.toLower) with
  | "gzip" => some gzip
  | "deflate" => some deflate
  | _ => none

/-- What compressed octets hold. -/
def decode : Coding → List UInt8 → Except Compression.Fault (List UInt8)
  | gzip, octets => Compression.unpackGreater octets
  | deflate, octets =>
    match Compression.unpackLesser octets with
    | .ok output => .ok output
    | .error _ => Compression.unpackBare octets

end Coding

namespace Response

/-- The codings that the headers name, the outermost last. -/
def codings (response : Response) : List Coding :=
  (response.headers.filter fun h => h.1 == "content-encoding").flatMap fun h =>
    (Text.pieces (· == ',') h.2.toList).filterMap Coding.named?

/-- A response with its body as it is without codings. -/
def decoded (response : Response) : Except Compression.Fault Response :=
  (response.codings.reverse.foldlM (fun octets (c : Coding) => c.decode octets) response.body).map
    fun body => { response with body }

end Response

end SearchAnnotation.Exchange
