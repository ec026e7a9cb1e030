import SearchAnnotation.Exchange.Header
import SearchAnnotation.Value

/-!
# Requests to the service and its answers

A request has a method, a scheme, a decoded path, a query, headers with their names in lower case,
and the octets of a body. An answer has a status, JSON or text as its content, and the few headers
that depend on the request.
-/

namespace SearchAnnotation.Service

open Exchange (Headers)

/-- A request to the service. -/
structure Request where
  /-- The name of the method. -/
  method : String
  /-- The scheme of the address. -/
  scheme : String
  /-- The path, decoded. -/
  path : List Char
  /-- The query as written. -/
  query : List Char
  /-- The headers. -/
  headers : Headers
  /-- The octets of the body. -/
  body : List UInt8
  /-- How deeply the lists and objects of the body may be nested. -/
  nesting : Nat
deriving DecidableEq, Repr

/-- The value of a header of a request. -/
def Request.header? (request : Request) (name : String) : Option String :=
  request.headers.lookup name

/-- The host that a request is made to, as the request names it. -/
def Request.host (request : Request) : String := (request.header? "host").getD ""

/-- What an answer holds. -/
inductive Content where
  /-- A value as JSON. -/
  | json (v : Value)
  /-- Plain text. -/
  | text (s : String)
deriving DecidableEq, Repr

/-- An answer of the service. -/
structure Answer where
  /-- The status code. -/
  status : Nat
  /-- The content. -/
  content : Content
  /-- Where else to go. -/
  location : Option String
  /-- Which method the path knows. -/
  allow : Option String
  /-- Which origin may read the answer. -/
  allowOrigin : Option String
deriving DecidableEq, Repr

namespace Answer

/-- An answer with a value. -/
def json (status : Nat) (v : Value) : Answer := ⟨status, .json v, none, none, none⟩

/-- An answer with plain text. -/
def text (status : Nat) (s : String) : Answer := ⟨status, .text s, none, none, none⟩

/-- An answer that only explains itself. -/
def detail (status : Nat) (explanation : String) : Answer :=
  json status (.object [("detail", .text explanation)])

/-- An answer that leads elsewhere. -/
def redirect (status : Nat) (location : String) : Answer :=
  { text status "" with location := some location }

/-- The answer when a request has been carried out. -/
def done : Answer := text 200 "OK"

/-- The answer when the service itself fails. -/
def failure : Answer := text 500 "Internal Server Error"

/-- Whether an answer says that the request succeeded. -/
def isSuccess (answer : Answer) : Bool := 200 ≤ answer.status && answer.status < 300

/-- An answer without its content, as a request for the head alone gets it. -/
def headOnly (answer : Answer) : Answer := { answer with content := .text "" }

end Answer

end SearchAnnotation.Service
