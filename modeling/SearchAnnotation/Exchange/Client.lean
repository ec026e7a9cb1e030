import SearchAnnotation.Exchange.Coding
import SearchAnnotation.Exchange.Credentials
import SearchAnnotation.Exchange.Redirect
import SearchAnnotation.Json.Octets
import SearchAnnotation.Json.Printer
import SearchAnnotation.Log

/-!
# The client

A call is sent to its address, redirects are followed twenty times at most, and the final
response is read as JSON or as text. Cookies are kept from one call to the next. A call ends with
a value, or with a fault: failures on the way and refusals are logged once, faults in what is
asked or in how the answer is written are not.
-/

namespace SearchAnnotation.Exchange

/-- Why a call gives no value. -/
inductive CallFault where
  /-- A request failed on the way, or there were too many redirects. -/
  | network (explanation : String)
  /-- The final status is no success. -/
  | status (code : Nat)
  /-- The body is no JSON. -/
  | notJson (url : String)
  /-- An address cannot be read. -/
  | address (why : AddressFault)
  /-- A label of a host cannot be read. -/
  | label (why : Address.LabelFault)
  /-- An address has no scheme, so that it is not known which cookies go there. -/
  | noScheme
  /-- A header has characters beyond seven bits. -/
  | headerText
  /-- The body has a number that is not finite. -/
  | bodyNumber
  /-- The answer's text cannot be decoded. -/
  | undecodable (why : Encoding.Refusal)
  /-- The answer is nested too deeply. -/
  | tooDeep
deriving DecidableEq, Repr

/-- The explanation of a fault. -/
def CallFault.message : CallFault → String
  | network explanation => "Network Failure: " ++ explanation
  | status code => "Provider Error: " ++ toString code
  | notJson url => "Invalid JSON from " ++ url
  | address why => why.message
  | label _ => "A label of the host cannot be read"
  | noScheme => "The address has no scheme"
  | headerText => "A header is not seven-bit text"
  | bodyNumber => "Out of range float values are not JSON compliant"
  | undecodable _ => "The text cannot be decoded"
  | tooDeep => "The value is nested too deeply"

/-- What is asked of a client. -/
structure Call where
  /-- The method. -/
  method : Method
  /-- The address, absolute or below the client's base. -/
  url : String
  /-- The query, replacing the one in the address if given. -/
  params : Option (List (String × Value))
  /-- The body. -/
  body : Option Value
  /-- Further headers. -/
  headers : Headers
  /-- Whether the answer is read as JSON rather than as text. -/
  wantsJson : Bool

/-- A client with its own base and headers. -/
structure Client where
  /-- The base without slashes at its end. -/
  base : String
  /-- The base as an address that ends in a slash. -/
  folder : Address
  /-- The headers of every call, names as spelled. -/
  headers : Headers
  /-- The time in seconds that a read may take, as configured. -/
  timeout : Value
  /-- How deeply the lists and objects of an answer may be nested. -/
  nesting : Nat

/-- What a client keeps from one call to the next, together with its transport. -/
structure Session (σ : Type) where
  /-- The cookies. -/
  jar : Jar
  /-- The present in seconds; a session is too short for it to pass. -/
  now : Int
  /-- The state of the transport. -/
  transport : σ

/-- A session without cookies. -/
def Session.start {σ : Type} (now : Int) (transport : σ) : Session σ := ⟨[], now, transport⟩

/-- What a call did. -/
structure Report (ε : Type) where
  /-- The value or the fault. -/
  result : Except ε Value
  /-- The requests sent, in order. -/
  requests : List Request
  /-- The records logged, in order. -/
  logs : List LogRecord

namespace Client

/-- The time in seconds in which a connection must stand. -/
def connectTimeout : Value := .float (Binary64.ofInt 3)

/-- The read timeout of a client that sets none. -/
def defaultTimeout : Value := .float (Binary64.ofInt 10)

/-- How often redirects are followed. -/
def redirectLimit : Nat := 20

/-- The headers that a client sends unless told otherwise. -/
def ownHeaders : Headers := [("accept", "application/json")]

/-- A client with a base, further headers, a timeout and a limit on nesting. -/
def make (base : String) (headers : Headers) (timeout : Value) (nesting : Nat) :
    Except CallFault Client :=
  let trimmed := (base.toList.reverse.dropWhile (· == '/')).reverse
  match (Address.read trimmed).bind Address.asFolder with
  | .error why => .error (.address why)
  | .ok folder =>
    let all := headers.foldl (fun all h => all.put h.1 h.2) ownHeaders
    if all.isSevenBit then .ok ⟨String.ofList trimmed, folder, all, timeout, nesting⟩
    else .error .headerText

/-- The text of one value in a query. -/
def paramText : Value → List Char
  | .bool b => if b then "true".toList else "false".toList
  | .null => []
  | v => v.display

/-- The values that a query gives for one name. -/
def paramValues : Value → List Value
  | .list items => items
  | v => [v]

/-- A query of names and values; a list repeats its name. -/
def queryText (params : List (String × Value)) : List Char :=
  let pairs := params.flatMap fun param => (paramValues param.2).map fun v =>
    Text.formEncode param.1.toList ++ '=' :: Text.formEncode (paramText v)
  ['&'].intercalate pairs

/-- An address with the query of a call, which replaces the one it has. -/
def withParams (a : Address) : Option (List (String × Value)) → Except AddressFault Address
  | none => .ok a
  | some [] => a.withQuery none
  | some params => a.withQuery (some (queryText params))

/-- The address of a call without its query. -/
def callAddress (client : Client) (call : Call) : Except AddressFault Address := do
  client.folder.append (← Address.read call.url.toList)

/-- The first request of a call, with the cookies of a jar. -/
def request (client : Client) (jar : Jar) (call : Call) : Except CallFault Request :=
  match client.callAddress call with
  | .error why => .error (.address why)
  | .ok address =>
    if !call.headers.isSevenBit then .error .headerText
    else
      match withParams address call.params with
      | .error why => .error (.address why)
      | .ok address =>
        let headers := client.headers.normal.merge call.headers.normal
        match (Request.mk call.method address headers none).withCookies? jar with
        | none => .error .noScheme
        | some request =>
          match call.body with
          | none => .ok (Credentials.authorize request)
          | some body =>
            if Json.isStrict body then
              .ok (Credentials.authorize { request with
                headers := request.headers.default "content-type" "application/json"
                body := some body })
            else .error .bodyNumber

/-- How an exchange ended before its response was read. -/
inductive Ending where
  /-- With a final response to a request. -/
  | final (request : Request) (response : Response)
  /-- With a failure on the way. -/
  | failed (explanation : String)
  /-- With a fault in what is asked. -/
  | stopped (fault : CallFault)

/-- The ending of a redirect that cannot be followed. -/
def redirectEnding : RedirectFault → Ending
  | .location why => .failed ("Invalid URL in location header: " ++ why.message ++ ".")
  | .combined why => .stopped (.address why)
  | .label why => .stopped (.label why)
  | .noPlace => .stopped .noScheme

/-- The ending of an exchange when the codings of a body cannot be undone. -/
def garbled (why : Compression.Fault) : Ending := .failed why.message

/-- The ending of an exchange with one redirect too many. -/
def exceeded : Ending := .failed "Exceeded maximum allowed redirects."

/-- Where a response leads whose cookies are stored. Its body is read last, be it that of a
redirect. -/
def reactToResponse (jar : Jar) (request : Request) (response : Response) :
    Except Ending Request :=
  match response.location? with
  | none =>
    match response.decoded with
    | .error why => .error (garbled why)
    | .ok response => .error (.final request response)
  | some location =>
    match request.redirected jar response.status location with
    | .error why => .error (redirectEnding why)
    | .ok next =>
      match response.decoded with
      | .error why => .error (garbled why)
      | .ok _ => .ok next

/-- Where a reply leads: to the ending of the exchange or to a further request. Also answers the
cookies afterwards. -/
def react (now : Int) (jar : Jar) (request : Request) (reply : Reply) :
    Except Ending Request × Jar :=
  match reply with
  | .error explanation => (.error (.failed explanation), jar)
  | .ok response =>
    match request.place? with
    | none => (.error (.stopped .noScheme), jar)
    | some place =>
      let jar := jar.store now place response.headers
      (reactToResponse jar request response, jar)

/-- Sends one request, if its host can be read. Answers where the reply leads, the request if it
was sent, and the session afterwards. -/
def step {σ : Type} (transport : Transport σ) (request : Request) (session : Session σ) :
    Except Ending Request × List Request × Session σ :=
  match Host.readable request.address.host with
  | .error why => (.error (.stopped (.label why)), [], session)
  | .ok _ =>
    let (reply, state) := transport request session.transport
    let (outcome, jar) := react session.now session.jar request reply
    (outcome, [request], ⟨jar, session.now, state⟩)

/-- Sends a request and follows redirects, at most as often as given. Answers the ending, the
requests sent and the session afterwards. -/
def follow {σ : Type} (transport : Transport σ) :
    Nat → Request → Session σ → Ending × List Request × Session σ
  | 0, request, session =>
    match step transport request session with
    | (.error ending, sent, session) => (ending, sent, session)
    | (.ok _, sent, session) => (exceeded, sent, session)
  | limit + 1, request, session =>
    match step transport request session with
    | (.error ending, sent, session) => (ending, sent, session)
    | (.ok next, sent, session) =>
      let (ending, requests, session) := follow transport limit next session
      (ending, sent ++ requests, session)

/-- A record of the client's own logger. -/
def record (message : String) (extras : Attributes) : LogRecord :=
  ⟨"rankingtools.websearch.HTTPClient", "ERROR", message, extras⟩

/-- A fault that is logged with the beginning of the answer, if that can be decoded. -/
def refused (response : Response) (fault : CallFault) (message : String) (extras : Attributes) :
    Except CallFault Value × List LogRecord :=
  match response.excerpt with
  | .error why => (.error (.undecodable why), [])
  | .ok excerpt => (.error fault, [record message (extras ++ [("response", excerpt)])])

/-- The value or fault of an exchange, and what is logged about it. -/
def conclude (client : Client) (call : Call) : Ending → Except CallFault Value × List LogRecord
  | .failed explanation =>
    (.error (.network explanation),
      [record ("Network Error: " ++ call.method.name ++ " " ++ call.url)
        [("error", .text explanation)]])
  | .stopped fault => (.error fault, [])
  | .final request response =>
    if !response.isSuccess then
      refused response (.status response.status)
        ("HTTP " ++ call.method.name ++ " " ++ toString response.status)
        [("url", .text request.url)]
    else if !call.wantsJson then
      match response.text with
      | .ok v => (.ok v, [])
      | .error why => (.error (.undecodable why), [])
    else
      match Json.readOctets client.nesting response.body with
      | .ok value => (.ok value, [])
      | .error (.unreadable .tooDeep) => (.error .tooDeep, [])
      | .error _ =>
        refused response (.notJson call.url)
          ("Invalid JSON from " ++ call.method.name ++ " " ++ call.url) []

/-- Makes a call over a transport. -/
def send {σ : Type} (client : Client) (transport : Transport σ) (call : Call)
    (session : Session σ) : Report CallFault × Session σ :=
  match client.request session.jar call with
  | .error fault => (⟨.error fault, [], []⟩, session)
  | .ok request =>
    let (ending, requests, session) := follow transport redirectLimit request session
    let (result, logs) := client.conclude call ending
    (⟨result, requests, logs⟩, session)

end Client

end SearchAnnotation.Exchange
