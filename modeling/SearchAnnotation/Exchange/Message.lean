import SearchAnnotation.Exchange.ContentType
import SearchAnnotation.Exchange.Jar
import SearchAnnotation.Script
import SearchAnnotation.Value

/-!
# Requests and replies

A request has a method, an address, headers and possibly a value as its body. It is answered by
a response with a status, headers and octets, or fails on the way with an explanation. A
transport answers requests one at a time and may keep state between them.
-/

namespace SearchAnnotation.Exchange

/-- The methods that are used. -/
inductive Method where
  /-- Reads. -/
  | get
  /-- Sends a body. -/
  | post
deriving DecidableEq, Repr

/-- The name of a method. -/
def Method.name : Method → String
  | get => "GET"
  | post => "POST"

/-- A request as it is sent. Headers that only concern the connection are left out. -/
structure Request where
  /-- The method. -/
  method : Method
  /-- The address. -/
  address : Address
  /-- The headers. -/
  headers : Headers
  /-- The body. -/
  body : Option Value
deriving DecidableEq, Repr

/-- The address of a request as a string. -/
def Request.url (request : Request) : String := String.ofList request.address.render

/-- The place of a request, if its address has a scheme. -/
def Request.place? (request : Request) : Option Place :=
  Place.ofText? request.address.render ((request.headers.get? "host").getD "").toList

/-- A request with the cookies of a jar that go to its place, unless it has some of its own.
Without any cookie in the jar the request need not have a place. -/
def Request.withCookies? (request : Request) (jar : Jar) : Option Request :=
  if jar.cookies.isEmpty then some request
  else
    request.place?.map fun place =>
      match jar.header? place with
      | some value => { request with headers := request.headers.default "cookie" value }
      | none => request

/-- A response as it arrives. -/
structure Response where
  /-- The status code. -/
  status : Nat
  /-- The headers. -/
  headers : Headers
  /-- The octets of the body. -/
  body : List UInt8
deriving DecidableEq, Repr

namespace Response

/-- Whether the status says that the request succeeded. -/
def isSuccess (response : Response) : Bool := 200 ≤ response.status && response.status < 300

/-- The code points of the body, in the character set that the headers name if it is known. -/
def codes (response : Response) : Except Encoding.Refusal (List Nat) :=
  if response.body.isEmpty then .ok []
  else do
    let charset ← match response.headers.get? "content-type" with
      | some contentType => ContentType.charset? contentType.toList
      | none => .ok none
    return Encoding.lossyCodes (← (charset.getD .utf8).decode response.body)

/-- The body as a text. -/
def text (response : Response) : Except Encoding.Refusal Value := response.codes.map Value.ofCodes

/-- The beginning of the body for a log line. -/
def excerpt (response : Response) : Except Encoding.Refusal Value :=
  response.codes.map fun codes => Value.ofCodes (codes.take 200)

end Response

/-- What comes back for a request: a response, or the explanation of a failure. -/
abbrev Reply := Except String Response

/-- Answers one request after the other. -/
abbrev Transport (σ : Type) := Request → σ → Reply × σ

/-- A transport that follows a script, whatever is asked. Without a script every response is an
empty success. -/
def scripted : Transport (Script Reply) := fun _ script =>
  let (reply, rest) := script.next
  (reply.getD (.ok ⟨200, [], []⟩), rest)

end SearchAnnotation.Exchange
