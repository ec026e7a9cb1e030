import SearchAnnotation.Address.Reference
import SearchAnnotation.Exchange.Moment

/-!
# Cookies

A response may ask for cookies: a name, perhaps a value, and attributes that say to which places
the cookie goes back and for how long. A place is what a request's address says about that: the
host, the path and the port. A request without a scheme has no place.
-/

namespace SearchAnnotation.Exchange

/-- What the address of a request says about its cookies. -/
structure Place where
  /-- The authority without its port. -/
  host : List Char
  /-- The path, starting with a slash. -/
  path : List Char
  /-- The port, if it is a number. -/
  port : Option (List Char)
  /-- Whether the scheme is a secure one. -/
  isSecure : Bool
deriving DecidableEq, Repr

namespace Place

/-- Characters kept in the path of a cookie. -/
def isPathSafe (c : Char) : Bool :=
  Text.isUnreserved c || "%/;:@&=+$,!*'()".toList.contains c

/-- A path with the digits of its escapes in upper case. -/
def upperEscapes : List Char → List Char
  | '%' :: a :: b :: rest =>
    if (Json.hexDigit? a).isSome && (Json.hexDigit? b).isSome then
      '%' :: a.toUpper :: b.toUpper :: upperEscapes rest
    else '%' :: upperEscapes (a :: b :: rest)
  | c :: rest => c :: upperEscapes rest
  | [] => []

/-- A path as cookies have it. -/
def escapePath (path : List Char) : List Char :=
  upperEscapes (Text.percentEncode isPathSafe path)

/-- The scheme of an address for the purpose of cookies: what stands before the first colon, if
that is not empty and has no slash. -/
def scheme? (url : List Char) : Option (List Char) :=
  let fragment := (url.reverse.takeWhile (· != '#')).reverse
  let url :=
    if url.contains '#' && !fragment.isEmpty then url.take (url.length - fragment.length - 1)
    else url
  let scheme := url.takeWhile (· != ':')
  if scheme.isEmpty || scheme.length = url.length || scheme.contains '/' then none
  else some (scheme.map Char.toLower)

/-- A host without the port after it. -/
def withoutPort (authority : List Char) : List Char :=
  let digits := authority.reverse.takeWhile Json.isDigit
  if !digits.isEmpty && (authority.reverse.drop digits.length).head? == some ':' then
    authority.take (authority.length - digits.length - 1)
  else authority

/-- The port of an authority; nothing where something else follows the first colon. -/
def portOf (authority : List Char) : Option (List Char) :=
  let authority := Text.percentDecode authority
  if authority.contains ':' then
    let port := (authority.dropWhile (· != ':')).drop 1
    if (Text.integer? port).isSome then some port else none
  else some "80".toList

/-- The place of an address, with a host header for addresses without an authority. -/
def ofText? (url hostHeader : List Char) : Option Place :=
  (scheme? url).map fun scheme =>
    let o := Address.Outline.ofText [] url
    let host := if o.authority.isEmpty then hostHeader else o.authority
    let path := escapePath (o.path ++ Address.Outline.delimited ';' o.parameters)
    { host := (withoutPort host).map Char.toLower
      path := if path.head? == some '/' then path else '/' :: path
      port := portOf o.authority
      isSecure := scheme == "https".toList || scheme == "wss".toList }

/-- The host with an ending of its own if it is a single name. -/
def fullHost (p : Place) : List Char :=
  if p.host.contains '.' then p.host else p.host ++ ".local".toList

end Place

/-- A cookie. -/
structure Cookie where
  /-- The name. -/
  name : List Char
  /-- The value. -/
  value : Option (List Char)
  /-- The version of the rules. -/
  version : Int
  /-- The ports to which it goes back, between commas. -/
  port : Option (List Char)
  /-- Whether the response names the ports. -/
  namesPort : Bool
  /-- The domain to which it goes back. -/
  domain : List Char
  /-- Whether the response names the domain. -/
  namesDomain : Bool
  /-- The path below which it goes back. -/
  path : List Char
  /-- Whether it goes back to secure schemes only. -/
  secure : Bool
deriving DecidableEq, Repr

/-- The attributes that a response gives to a cookie. -/
structure CookieDraft where
  /-- The name. -/
  name : List Char
  /-- The value. -/
  value : Option (List Char)
  /-- The version. -/
  version : Option (List Char)
  /-- When it expires. -/
  expires : Option Int
  /-- Whether that follows from its age. -/
  hasAge : Bool
  /-- The domain. -/
  domain : Option (List Char)
  /-- The path. -/
  path : Option (List Char)
  /-- The ports, perhaps none in particular. -/
  port : Option (Option (List Char))
  /-- Whether it is for secure schemes. -/
  secure : Option Bool
deriving DecidableEq, Repr

namespace CookieDraft

/-- What an attribute does to a draft. -/
inductive Effect where
  /-- The draft goes on. -/
  | goesOn (draft : CookieDraft)
  /-- The cookie is left out. -/
  | spoilt
  /-- All cookies of the response are left out. -/
  | ruined
deriving DecidableEq, Repr

/-- A text without a double quote at its start and one at its end. -/
def unquote (cs : List Char) : List Char :=
  let cs := if cs.head? == some '"' then cs.drop 1 else cs
  if cs.getLast? == some '"' then cs.dropLast else cs

/-- The draft with the moment of its expiry. -/
def expire (draft : CookieDraft) (now : Int) (value : Option (List Char)) : Effect :=
  match value with
  | none => .goesOn draft
  | some text =>
    match Moment.read now (unquote text) with
    | .impossible => .ruined
    | .unclear => .goesOn draft
    | .seconds n =>
      if draft.expires.isSome || draft.hasAge then .goesOn draft
      else .goesOn { draft with expires := some n }

/-- The draft with an age, which goes before any moment of expiry. -/
def age (draft : CookieDraft) (now : Int) (value : Option (List Char)) : Effect :=
  match value with
  | none => .ruined
  | some text =>
    match Text.integer? text with
    | some n => .goesOn { draft with expires := some (now + n), hasAge := true }
    | none => .spoilt

/-- A first value for a part that must have one. -/
def first (part value : Option (List Char)) (put : List Char → CookieDraft)
    (draft : CookieDraft) : Effect :=
  match part, value with
  | some _, _ => .goesOn draft
  | none, some text => .goesOn (put text)
  | none, none => .spoilt

/-- The draft with one more attribute. The first value of a part counts. -/
def add (draft : CookieDraft) (now : Int) (name : List Char) (value : Option (List Char)) :
    Effect :=
  match String.ofList (name.map Char.toLower) with
  | "expires" => draft.expire now value
  | "max-age" => draft.age now value
  | "version" =>
    first draft.version (value.map unquote) (fun text => { draft with version := some text }) draft
  | "domain" =>
    first draft.domain value
      (fun text => { draft with domain := some (text.map Char.toLower) }) draft
  | "path" => first draft.path value (fun text => { draft with path := some text }) draft
  | "port" => .goesOn (if draft.port.isSome then draft else { draft with port := some value })
  | "secure" =>
    let isSecure := match value with
      | some text => !text.isEmpty
      | none => true
    .goesOn (if draft.secure.isSome then draft else { draft with secure := some isSecure })
  | _ => .goesOn draft

/-- A name and what follows its equals sign, both without blanks around them. -/
def named (cs : List Char) : List Char × Option (List Char) :=
  let name := cs.takeWhile (· != '=')
  let rest := cs.drop name.length
  (Text.trim Text.isBlank name,
    if rest.isEmpty then none else some (Text.trim Text.isBlank (rest.drop 1)))

/-- A draft with further attributes. A cookie that is spoilt may still ruin the others by an
impossible moment. -/
def addAll (now : Int) : Effect → List (List Char × Option (List Char)) → Effect
  | .goesOn draft, (name, value) :: rest =>
    addAll now (if name.isEmpty then .goesOn draft else draft.add now name value) rest
  | .spoilt, (name, value) :: rest =>
    let isImpossible := name.map Char.toLower == "expires".toList &&
      value.any fun text => Moment.read now (unquote text) == .impossible
    addAll now (if isImpossible then .ruined else .spoilt) rest
  | .ruined, _ => .ruined
  | effect, [] => effect

/-- The draft that one header asks for. -/
def ofHeader (now : Int) (header : List Char) : Effect :=
  match (Text.pieces (· == ';') header).map named with
  | [] => .spoilt
  | (name, value) :: attributes =>
    if name.isEmpty then .spoilt
    else addAll now (.goesOn ⟨name, value, none, none, false, none, none, none, none⟩) attributes

/-- The drafts that headers ask for, or none if one of them ruins all. -/
def ofHeaders (now : Int) (headers : List (List Char)) : List CookieDraft :=
  let effects := headers.map (ofHeader now)
  if effects.contains .ruined then []
  else effects.filterMap fun effect => match effect with
    | .goesOn draft => some draft
    | _ => none

/-- The path of a cookie that names none: that of the request up to its last slash, which is left
out in the first version of the rules. -/
def ownPath (version : Int) (place : Place) : List Char :=
  let head := place.path.take
    (place.path.length - (place.path.reverse.takeWhile (· != '/')).length)
  let path := if version = 0 then head.dropLast else head
  if path.isEmpty then ['/'] else path

/-- The cookie of a draft, if its version is a number. -/
def cookie? (draft : CookieDraft) (place : Place) : Option Cookie :=
  let version? := match draft.version with
    | some text => Text.integer? text
    | none => some 0
  version?.map fun version =>
    { name := draft.name
      value := draft.value
      version := version
      port := match draft.port with
        | some (some text) => some (text.filter fun c => !Text.isBlank c)
        | some none => place.port
        | none => none
      namesPort := match draft.port with
        | some (some _) => true
        | _ => false
      domain := match draft.domain with
        | some domain => if domain.head? == some '.' then domain else '.' :: domain
        | none => place.fullHost
      namesDomain := draft.domain.isSome
      path := match draft.path with
        | some (c :: rest) => Place.escapePath (c :: rest)
        | _ => ownPath version place
      secure := draft.secure.getD false }

end CookieDraft

end SearchAnnotation.Exchange
