import SearchAnnotation.Service.Message

/-!
# Requests from other origins

A page of another origin may read an answer only if the answer names its origin. All origins may
if the list of origins has a star, otherwise those on the list. A browser may ask beforehand, and
is answered at once whatever the path.
-/

namespace SearchAnnotation.Service

/-- The origins that may use the service. -/
abbrev Origins := List Name

namespace Origins

/-- Whether every origin may use the service. -/
def isOpen (origins : Origins) : Bool := origins.contains "*"

/-- Whether an origin may use the service. -/
def allows (origins : Origins) (origin : String) : Bool :=
  origins.isOpen || origins.contains origin

/-- The methods that other origins may ask for. -/
def methods : List String := ["DELETE", "GET", "HEAD", "OPTIONS", "PATCH", "POST", "PUT"]

/-- Which origin an answer to a question beforehand names. -/
def namedBeforehand (origins : Origins) (origin : String) : Option String :=
  if origins.isOpen then some "*" else if origins.allows origin then some origin else none

/-- What a browser asks beforehand. -/
structure Question where
  /-- The origin that wants to use the service. -/
  origin : String
  /-- The method that it wants to use. -/
  method : String
  /-- Whether it is a question about a private network, which the service is never part of. -/
  aboutPrivateNetwork : Bool
deriving DecidableEq, Repr

/-- The answer to a question asked beforehand. -/
def answerBeforehand (origins : Origins) (question : Question) : Answer :=
  let faults := (if origins.allows question.origin then [] else ["origin"]) ++
    (if methods.contains question.method then [] else ["method"]) ++
    (if question.aboutPrivateNetwork then ["private-network"] else [])
  let answer := if faults.isEmpty then Answer.done
    else Answer.text 400 ("Disallowed CORS " ++ ", ".intercalate faults)
  { answer with allowOrigin := origins.namedBeforehand question.origin }

/-- Which origin an answer names. A request with a cookie is answered to its own origin. -/
def named (origins : Origins) (request : Request) : Option String :=
  (request.header? "origin").bind fun origin =>
    if origins.isOpen then
      some (if (request.header? "cookie").isSome then origin else "*")
    else if origins.allows origin then some origin
    else none

/-- The question that a request asks beforehand, if it names an origin and a method. -/
def question? (request : Request) : Option Question :=
  if request.method == "OPTIONS" then
    match request.header? "origin", request.header? "access-control-request-method" with
    | some origin, some method =>
      some ⟨origin, method, (request.header? "access-control-request-private-network").isSome⟩
    | _, _ => none
  else none

end Origins

end SearchAnnotation.Service
