import SearchAnnotation.Exchange.Cookie
import SearchAnnotation.Exchange.Header

/-!
# The cookie jar

A jar keeps the cookies of a client on shelves by domain and path, in the order in which they
first came. A cookie is kept if the response may set it, and goes back with every request whose
place it fits, the longest paths first. One that has expired when it comes only removes its
predecessor.
-/

namespace SearchAnnotation.Exchange

/-- Changes the entry of a key, which is put at the end if it is not there. -/
def alter {α β : Type} [DecidableEq α] (key : α) (fresh : β) (change : β → β) :
    List (α × β) → List (α × β)
  | [] => [(key, change fresh)]
  | (k, b) :: rest =>
    if k = key then (k, change b) :: rest else (k, b) :: alter key fresh change rest

/-- Cookies by domain, path and name. -/
abbrev Jar := List (List Char × List (List Char × List (List Char × Cookie)))

namespace Jar

/-- All cookies. -/
def cookies (jar : Jar) : List Cookie :=
  jar.flatMap fun domain => domain.2.flatMap fun path => path.2.map Prod.snd

/-- A jar with a cookie in its place. -/
def put (jar : Jar) (cookie : Cookie) : Jar :=
  alter cookie.domain [] (alter cookie.path [] (alter cookie.name cookie fun _ => cookie)) jar

/-- A jar without a cookie; its shelf stays. -/
def remove (jar : Jar) (cookie : Cookie) : Jar :=
  jar.map fun (domain, paths) =>
    if domain = cookie.domain then
      (domain, paths.map fun (path, names) =>
        if path = cookie.path then (path, names.filter fun entry => entry.1 != cookie.name)
        else (path, names))
    else (domain, paths)

end Jar

namespace Cookie

/-- The version by which a cookie is judged. The second one counts as the first. -/
def rules (cookie : Cookie) : Int := if cookie.version = 1 then 0 else cookie.version

/-- Whether a response from a place may set a cookie for its domain. -/
def mayCover (cookie : Cookie) (place : Place) : Bool :=
  let host := place.fullHost
  let domain := cookie.domain
  let bare := if domain.head? == some '.' then domain.drop 1 else domain
  let isLocal := ".local".toList.isSuffixOf host
  !cookie.namesDomain ||
    ((bare.contains '.' || isLocal) &&
      (cookie.rules != 0 || domain.isSuffixOf host ||
        (bare ++ ".local".toList).isSuffixOf host || host.head? == some '.' ||
        domain.isSuffixOf ('.' :: host)))

/-- Whether a response from a place may set a cookie for its ports. -/
def maySetPort (cookie : Cookie) (place : Place) : Bool :=
  let wanted := place.port.getD "80".toList
  let ports := Text.pieces (· == ',') (cookie.port.getD [])
  let before := ports.takeWhile (· != wanted)
  !cookie.namesPort ||
    (before.length < ports.length && before.all fun port => (Text.integer? port).isSome)

/-- Whether a response from a place may set a cookie. -/
def maySet (cookie : Cookie) (place : Place) : Bool :=
  cookie.rules ≤ 0 && cookie.mayCover place && cookie.maySetPort place

/-- A domain with a point at its start. -/
def dotted (domain : List Char) : List Char :=
  if domain.head? == some '.' then domain else '.' :: domain

/-- Whether a cookie's domain covers a place. -/
def covers (cookie : Cookie) (place : Place) : Bool :=
  let domain := dotted cookie.domain
  (domain.isSuffixOf (dotted place.host) || domain.isSuffixOf (dotted place.fullHost)) &&
    (cookie.rules != 0 || domain.isSuffixOf ('.' :: place.fullHost))

/-- Whether a place is below a cookie's path. -/
def leadsTo (cookie : Cookie) (place : Place) : Bool :=
  place.path == cookie.path ||
    (cookie.path.isPrefixOf place.path &&
      (cookie.path.getLast? == some '/' || place.path[cookie.path.length]? == some '/'))

/-- Whether a cookie goes back to a place. -/
def goesTo (cookie : Cookie) (place : Place) : Bool :=
  cookie.covers place && cookie.leadsTo place && cookie.rules ≤ 0 &&
    (!cookie.secure || place.isSecure) &&
    match cookie.port with
    | none => true
    | some port =>
      port.isEmpty || (Text.pieces (· == ',') port).contains (place.port.getD "80".toList)

/-- A cookie as it goes back. -/
def render (cookie : Cookie) : List Char :=
  match cookie.value with
  | some value => cookie.name ++ '=' :: value
  | none => cookie.name

end Cookie

namespace Jar

/-- The header that a jar adds to a request to a place, if any cookie goes there. -/
def header? (jar : Jar) (place : Place) : Option String :=
  match (jar.cookies.filter fun cookie => cookie.goesTo place).mergeSort
      (fun a b => b.path.length ≤ a.path.length) with
  | [] => none
  | cookies => some (String.ofList ("; ".toList.intercalate (cookies.map Cookie.render)))

/-- The greatest moment of expiry that is taken. -/
def expiryLimit : Int := (Nat.pow 2 1024 - Nat.pow 2 970 : Nat)

/-- What drafts come to: the jar without those that have expired, and the cookies to be put in,
unless one of them expires past all limits. -/
def take (now : Int) (place : Place) (state : Jar × Option (List Cookie)) (draft : CookieDraft) :
    Jar × Option (List Cookie) :=
  match state.2, draft.cookie? place with
  | some cookies, some cookie =>
    match draft.expires with
    | none => (state.1, some (cookies ++ [cookie]))
    | some moment =>
      if moment ≤ now then (state.1.remove cookie, some cookies)
      else if expiryLimit ≤ moment then (state.1, none)
      else (state.1, some (cookies ++ [cookie]))
  | _, _ => state

/-- A jar after a response from a place. -/
def store (jar : Jar) (now : Int) (place : Place) (headers : Headers) : Jar :=
  let asked := (headers.filter fun h => h.1 == "set-cookie").map fun h => h.2.toList
  let (jar, cookies) := (CookieDraft.ofHeaders now asked).foldl (take now place) (jar, some [])
  ((cookies.getD []).filter fun cookie => cookie.maySet place).foldl put jar

end Jar

end SearchAnnotation.Exchange
