import SearchAnnotation.Address.Reference
import SearchAnnotation.Exchange.Message

/-!
# Following redirects

A response with a redirect status and a location leads to a further request. Some statuses turn
a request with a body into one that reads; the others repeat it. An authorization is not carried
to another origin, except to the secure twin of the same host, and cookies are taken from the jar
afresh.
-/

namespace SearchAnnotation.Exchange

/-- The statuses that redirect. -/
def redirectStatuses : List Nat := [301, 302, 303, 307, 308]

/-- The location that a response redirects to. -/
def Response.location? (response : Response) : Option String :=
  if redirectStatuses.contains response.status then response.headers.get? "location" else none

/-- Why a redirect cannot be followed. -/
inductive RedirectFault where
  /-- The location is no address. -/
  | location (why : AddressFault)
  /-- The location cannot be put together with the address of the request. -/
  | combined (why : AddressFault)
  /-- A label of the host cannot be read. -/
  | label (why : Address.LabelFault)
  /-- There are cookies, but the new address has no place. -/
  | noPlace
deriving DecidableEq, Repr

/-- The method after a redirect. -/
def Method.redirected (method : Method) (status : Nat) : Method :=
  if status = 301 || status = 302 || status = 303 then .get else method

/-- A fault of putting two addresses together. -/
def combine (result : Except AddressFault Address) : Except RedirectFault Address :=
  match result with
  | .ok address => .ok address
  | .error why => .error (.combined why)

/-- A host as it reads. -/
def readableHost (a : Address) : Except RedirectFault (List Char) :=
  match Host.readable a.host with
  | .ok host => .ok host
  | .error why => .error (.label why)

/-- The characters of a fragment, which must not be controls. -/
def fragmentText (a : Address) : List Char := Text.percentDecode (a.fragment.getD [])

/-- The address with the fragment of the request, if it has none of its own. -/
def inheritFragment (source target : Address) : Except AddressFault Address :=
  let fragment := fragmentText source
  if fragment.isEmpty || !(fragmentText target).isEmpty then .ok target
  else
    match fragment.find? Address.isControl with
    | some c => .error (.control c (fragment.takeWhile fun c => !Address.isControl c).length)
    | none => target.withFragment (some fragment)

/-- The address that a location leads to. A scheme without a host takes the host of the request,
and a relative location is followed from its address. -/
def redirectAddress (source : Address) (location : String) : Except RedirectFault Address := do
  let target ← match Address.read location.toList with
    | .ok target => .ok target
    | .error why => .error (.location why)
  let hosted ←
    if target.scheme.isEmpty then .ok target
    else if !(← readableHost target).isEmpty then .ok target
    else combine (target.withHost (← readableHost source))
  let whole ← if hosted.isAbsolute then .ok hosted else combine (source.follow hosted)
  combine (inheritFragment source whole)

/-- Whether an address is the secure twin of another: same host, both on their scheme's port. -/
def isSecureTwin (source target : Address) : Bool :=
  source.host == target.host && source.scheme == "http".toList &&
    source.effectivePort == some 80 && target.scheme == "https".toList &&
    target.effectivePort == some 443

/-- The headers that are carried to a redirect's address. Where a body is given up, so is what
describes its transfer. -/
def redirectHeaders (request : Request) (method : Method) (target : Address) : Headers :=
  let source := request.address
  let kept :=
    if source.sameOrigin target then request.headers
    else if isSecureTwin source target then request.headers.drop "host"
    else (request.headers.drop "host").drop "authorization"
  let described :=
    if method = request.method then kept
    else (kept.drop "content-length").drop "transfer-encoding"
  described.drop "cookie"

/-- The request that a redirect asks for, with the cookies of a jar. -/
def Request.redirected (request : Request) (jar : Jar) (status : Nat) (location : String) :
    Except RedirectFault Request := do
  let address ← redirectAddress request.address location
  let _ ← readableHost address
  let method := request.method.redirected status
  let next : Request := {
    method, address
    headers := redirectHeaders request method address
    body := if method = request.method then request.body else none }
  match next.withCookies? jar with
  | some next => return next
  | none => .error .noPlace

end SearchAnnotation.Exchange
