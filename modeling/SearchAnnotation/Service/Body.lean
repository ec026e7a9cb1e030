import SearchAnnotation.Json.Octets
import SearchAnnotation.Reading
import SearchAnnotation.Service.Message
import SearchAnnotation.Store.Queries
import SearchAnnotation.Store.Results
import SearchAnnotation.Text.Blank
import SearchAnnotation.Text.Pieces

/-!
# Bodies

A body is read as JSON if its content type is missing or is that of JSON, and is taken as text
otherwise. What it holds is read as typed values, and everything that does not fit is reported
with its place in the body.
-/

namespace SearchAnnotation.Service

/-- A text, or nothing for one that cannot be stored. -/
def storable : Value → Reading (Option String)
  | .unpaired _ => .done none
  | v => some <$> Reading.text v

/-- A query that is to be imported. -/
def queryOf : Value → Reading PostedQuery
  | .object fields =>
    PostedQuery.mk
      <$> Reading.field storable fields "qid" <*> Reading.field storable fields "query"
  | v => .refuse .modelAttributesType v

/-- The ranks that a body posts. A name that is no text is the id of no result. -/
def ranksOf : Value → Reading Store.Ranks
  | .object fields =>
    List.filterMap (fun (name, rank) => name.text?.map (·, rank))
      <$> Reading.field (.table (.optional .int)) fields "ranks"
  | v => .refuse .modelAttributesType v

/-- Whether a content type is that of JSON: one of applications, and the format itself or one
built on it. Parameters do not matter. -/
def isJsonType (contentType : String) : Bool :=
  let kind := (Text.trim Text.isBlank (contentType.toList.takeWhile (· != ';'))).map Char.toLower
  match Text.pieces (· == '/') kind with
  | [main, sub] =>
    main == "application".toList && (sub == "json".toList || "+json".toList.isSuffixOf sub)
  | _ => false

/-- What a body holds. -/
inductive BodyContent where
  /-- Nothing. -/
  | none
  /-- A value. -/
  | value (v : Value)
  /-- Text that does not follow the grammar of JSON. -/
  | malformed
  /-- Octets or text that cannot be read for another reason. -/
  | unreadable
deriving DecidableEq, Repr

/-- The content of a body. -/
def contentOf (request : Request) : BodyContent :=
  if request.body.isEmpty then .none
  else if (request.header? "content-type").all fun s => s.isEmpty || isJsonType s then
    match Json.readOctets request.nesting request.body with
    | .ok v => .value v
    | .error (.unreadable .malformed) => .malformed
    | .error _ => .unreadable
  else .value (.text (String.ofList (Encoding.lossy (Encoding.utf8 request.body))))

/-- What reading the body of a request gives. -/
inductive BodyReading (α : Type) where
  /-- A typed value. -/
  | done (value : α)
  /-- Everything that does not fit. -/
  | unfit (complaints : List Reading.Complaint)
  /-- Nothing, for the body cannot be read. -/
  | unreadable

/-- Reads the body of a request. -/
def readBody {α : Type} (request : Request) (read : Value → Reading α) : BodyReading α :=
  let placed := fun (reading : Reading α) =>
    match reading.within (.field "body") with
    | .done value => BodyReading.done value
    | .refused complaints => .unfit complaints
  match contentOf request with
  | .none => placed (.refuse .missing .null)
  | .malformed => placed (.refuse .jsonInvalid (.object []))
  | .unreadable => .unreadable
  | .value v => placed (read v)

end SearchAnnotation.Service
