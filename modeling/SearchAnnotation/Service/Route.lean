import SearchAnnotation.Exchange.Message
import SearchAnnotation.Text.Percent
import SearchAnnotation.Text.Pieces

/-!
# Routes

A route is a path template with a method and an action. A template matches a decoded path segment
by segment, and its slug stands for one segment that is not empty. The first route that knows
both path and method takes a request. A path that is known with another method only, or with
slashes at its end taken away, gets an answer of its own.
-/

namespace SearchAnnotation.Service

open Exchange (Method)

/-- One segment of a template. -/
inductive Segment where
  /-- The segment itself. -/
  | fixed (text : String)
  /-- Any segment that is not empty. -/
  | slug
deriving DecidableEq, Repr

/-- What the service can do. -/
inductive Action where
  /-- Shows the page of a query. -/
  | showPage
  /-- Stores ranks for a query. -/
  | postRanks
  /-- Lists the chain of queries. -/
  | listQueries
  /-- Imports queries. -/
  | importQueries
  /-- Lists the experiments. -/
  | listExperiments
  /-- Drops all experiments. -/
  | clearExperiments
deriving DecidableEq, Repr

/-- A path template with its method and action. -/
structure Route where
  /-- The segments of the path. -/
  segments : List Segment
  /-- The method. -/
  method : Method
  /-- The action. -/
  action : Action
deriving DecidableEq, Repr

/-- The routes in the order in which they are tried. -/
def routes : List Route := [
  ⟨[.fixed "annotate", .slug], .get, .showPage⟩,
  ⟨[.fixed "annotate", .slug, .fixed "ranks"], .post, .postRanks⟩,
  ⟨[.fixed "api", .fixed "queries"], .get, .listQueries⟩,
  ⟨[.fixed "api", .fixed "queries"], .post, .importQueries⟩,
  ⟨[.fixed "api", .fixed "experiments"], .get, .listExperiments⟩,
  ⟨[.fixed "api", .fixed "experiments", .fixed "clear"], .post, .clearExperiments⟩]

/-- A segment as a template shows it. -/
def Segment.template : Segment → String
  | fixed text => text
  | slug => "\x7bslug\x7d"

/-- The template of a route. -/
def Route.template (route : Route) : String :=
  String.join (route.segments.map fun segment => "/" ++ segment.template)

/-- The slug that pieces of a path give a template, empty if it has none. A line break at the
very end of a path is passed over. -/
def matchSegments : List Segment → List (List Char) → Option (List Char)
  | [], [] => some []
  | [.fixed text], [piece] =>
    if piece = text.toList || piece = text.toList ++ ['\n'] then some [] else none
  | .fixed text :: segments, piece :: pieces =>
    if piece = text.toList then matchSegments segments pieces else none
  | .slug :: segments, piece :: pieces =>
    if piece.isEmpty then none else (matchSegments segments pieces).map fun _ => piece
  | _, _ => none

/-- The slug that a path gives a route. -/
def Route.slug? (route : Route) (path : List Char) : Option String :=
  match Text.pieces (· == '/') path with
  | [] :: pieces => (matchSegments route.segments pieces).map String.ofList
  | _ => none

/-- Where a request is led. -/
inductive Routing where
  /-- To an action with a slug. -/
  | action (action : Action) (slug : String)
  /-- Nowhere, for the path knows another method only. -/
  | otherMethod (allow : String)
  /-- To the path without the slashes at its end. -/
  | withoutSlash (path : List Char)
  /-- Nowhere. -/
  | unknown
deriving DecidableEq, Repr

/-- The routes that know a path, with their slugs. -/
def matching (path : List Char) : List (Route × String) :=
  routes.filterMap fun route => (route.slug? path).map ((route, ·))

/-- A path without the slashes at its end. -/
def trimSlashes (path : List Char) : List Char := (path.reverse.dropWhile (· == '/')).reverse

/-- Leads a request by its method and path. -/
def dispatch (method : String) (path : List Char) : Routing :=
  match matching path with
  | (first, slug) :: others =>
    match ((first, slug) :: others).find? fun entry => entry.1.method.name == method with
    | some (route, slug) => .action route.action slug
    | none => .otherMethod first.method.name
  | [] =>
    if path.getLast? == some '/' && !(matching (trimSlashes path)).isEmpty then
      .withoutSlash (trimSlashes path)
    else .unknown

/-- A character that stays as it is in the address of a redirect. -/
def isRedirectSafe (c : Char) : Bool :=
  Text.isUnreserved c || ":/%#?=@[]!$&'()*+,;".toList.contains c

/-- A path as it stands in an address. -/
def pathText (path : List Char) : List Char :=
  Text.percentEncode (fun c => c == '/' || Text.isUnreserved c) path

/-- The address of a path and a query at a host. -/
def ownAddress (scheme host : String) (path query : List Char) : String :=
  String.ofList (Text.percentEncode isRedirectSafe
    (scheme.toList ++ "://".toList ++ host.toList ++ pathText path ++
      if query.isEmpty then [] else '?' :: query))

example : dispatch "GET" "/annotate/q 1".toList = .action .showPage "q 1" := by decide +kernel

example : dispatch "POST" "/annotate/a/b".toList = .unknown := by decide +kernel

end SearchAnnotation.Service
