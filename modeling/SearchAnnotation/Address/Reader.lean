import SearchAnnotation.Address.Host
import SearchAnnotation.Text.Integer

/-!
# Reading addresses

A text is split at its first delimiters into parts, each part is coded with its own safe set,
and a path below a scheme or an authority loses its dot segments. Putting new parts into an
address reads the parts again in the same way.
-/

namespace SearchAnnotation.Address

/-- The parts of a reference as written. -/
structure Parts where
  /-- The scheme. -/
  scheme : List Char
  /-- User part, host and port. -/
  authority : List Char
  /-- The path. -/
  path : List Char
  /-- The query. -/
  query : Option (List Char)
  /-- The fragment. -/
  fragment : Option (List Char)

/-- No address is longer. -/
def lengthLimit : Nat := 65536

/-- Printable seven-bit characters except some. -/
def isVisibleExcept (except : String) (c : Char) : Bool :=
  0x20 ≤ c.toNat && c.toNat < 0x7f && !except.toList.contains c

/-- Characters kept in a fragment. -/
def isFragmentSafe : Char → Bool := isVisibleExcept " \"<>\x60"

/-- Characters kept in a query. -/
def isQuerySafe : Char → Bool := isVisibleExcept " \"#<>"

/-- Characters kept in a path. -/
def isPathSafe : Char → Bool := isVisibleExcept " \"#<>?\x60\x7b\x7d"

/-- Characters kept in a user part. -/
def isUserSafe : Char → Bool := isVisibleExcept " \"#<>?\x60\x7b\x7d/;=@[\\]^|"

/-- A character of a scheme after its first. -/
def isSchemeChar (c : Char) : Bool := c.isAlphanum || c == '+' || c == '.' || c == '-'

/-- A scheme before a colon, possibly empty, and what follows the colon. -/
def splitScheme (cs : List Char) : List Char × List Char :=
  let scheme := match cs with
    | c :: _ => if c.isAlpha then cs.takeWhile isSchemeChar else []
    | [] => []
  match cs.drop scheme.length with
  | ':' :: rest => (scheme, rest)
  | _ => ([], cs)

/-- A part after its delimiter, up to the next one. -/
def splitAfter (delimiter : Char) (isEnd : Char → Bool) (cs : List Char) :
    Option (List Char) × List Char :=
  match cs with
  | c :: rest =>
    if c = delimiter then
      (some (rest.takeWhile fun c => !isEnd c), rest.dropWhile fun c => !isEnd c)
    else (none, cs)
  | [] => (none, [])

/-- The parts of a text. -/
def split (cs : List Char) : Parts :=
  let (scheme, rest) := splitScheme cs
  let (authority, rest) := match rest with
    | '/' :: '/' :: rest =>
      let isEnd := fun c => c == '/' || c == '?' || c == '#'
      (rest.takeWhile fun c => !isEnd c, rest.dropWhile fun c => !isEnd c)
    | _ => ([], rest)
  let isEnd := fun c => c == '?' || c == '#'
  let path := rest.takeWhile fun c => !isEnd c
  let rest := rest.dropWhile fun c => !isEnd c
  let (query, rest) := splitAfter '?' (· == '#') rest
  let (fragment, _) := splitAfter '#' (fun _ => false) rest
  ⟨scheme, authority, path, query, fragment⟩

/-- The user part before the last at sign, and the rest. -/
def splitUser (authority : List Char) : List Char × List Char :=
  if authority.contains '@' then
    let reversed := authority.reverse
    let rest := (reversed.takeWhile (· != '@')).reverse
    (authority.take (authority.length - rest.length - 1), rest)
  else ([], authority)

/-- The host, in brackets up to the last closing one, and the port after a colon. -/
def splitHost (cs : List Char) : List Char × List Char :=
  let host :=
    if cs.head? == some '[' && cs.contains ']' then
      cs.take (cs.length - (cs.reverse.takeWhile (· != ']')).length)
    else cs.takeWhile (· != ':')
  match cs.drop host.length with
  | ':' :: port => (host, port)
  | port => (host, port)

/-- The port of its written form; an empty one and the scheme's own are absent. -/
def readPort (scheme text : List Char) : Except AddressFault (Option Int) :=
  if text.isEmpty then .ok none
  else
    match Text.integer? text with
    | some n => .ok (if ownPort? scheme == some n then none else some n)
    | none => .error (.port text)

/-- Segments of a path with dots resolved. -/
def resolveDots (segments : List (List Char)) : List (List Char) :=
  segments.foldl (fun output segment =>
    if segment == ['.'] then output
    else if segment == ['.', '.'] then
      if output.isEmpty || output == [[]] then output else output.dropLast
    else output ++ [segment]) []

/-- A path without dot segments. -/
def plainPath (path : List Char) : List Char :=
  ['/'].intercalate (resolveDots (Text.pieces (· == '/') path))

/-- The rules on where a path may start. -/
def checkPath (hasScheme hasAuthority : Bool) (path : List Char) : Except AddressFault Unit :=
  if hasAuthority && !path.isEmpty && path.head? != some '/' then .error .pathAfterAuthority
  else if hasScheme || hasAuthority then .ok ()
  else if ['/', '/'].isPrefixOf path then .error .pathDoubleSlash
  else if path.head? == some ':' then .error .pathColon
  else .ok ()

/-- The address of written parts, with another host in place of the one in the authority if one
is given. -/
def ofParts (parts : Parts) (newHost : Option (List Char)) : Except AddressFault Address := do
  let (user, rest) := splitUser parts.authority
  let (writtenHost, writtenPort) := splitHost rest
  let userinfo := Text.percentEncode isUserSafe user
  let host ← Host.read (newHost.getD writtenHost)
  let port ← readPort parts.scheme writtenPort
  let hasScheme := !parts.scheme.isEmpty
  let hasAuthority := !userinfo.isEmpty || !host.isEmpty || port.isSome
  checkPath hasScheme hasAuthority parts.path
  let path := if hasScheme || hasAuthority then plainPath parts.path else parts.path
  return {
    scheme := parts.scheme.map Char.toLower
    userinfo, host, port
    path := Text.percentEncode isPathSafe path
    query := parts.query.map (Text.percentEncode isQuerySafe)
    fragment := parts.fragment.map (Text.percentEncode isFragmentSafe) }

/-- A control character among seven-bit characters. -/
def isControl (c : Char) : Bool := c.toNat < 0x20 || c.toNat == 0x7f

/-- The address of a text. -/
def read (cs : List Char) : Except AddressFault Address :=
  if lengthLimit < cs.length then .error .tooLong
  else
    match cs.find? isControl with
    | some c => .error (.control c (cs.takeWhile fun c => !isControl c).length)
    | none => ofParts (split cs) none

/-- The written parts of an address. -/
def parts (a : Address) : Parts := ⟨a.scheme, a.authority, a.path, a.query, a.fragment⟩

/-- An address with another path and query, both in one text. -/
def withTarget (a : Address) (target : List Char) : Except AddressFault Address :=
  let path := target.takeWhile (· != '?')
  let query := match target.drop path.length with
    | _ :: query => some query
    | [] => none
  ofParts { a.parts with path, query } none

/-- An address with another query. -/
def withQuery (a : Address) (query : Option (List Char)) : Except AddressFault Address :=
  ofParts { a.parts with query } none

/-- An address with another host. -/
def withHost (a : Address) (host : List Char) : Except AddressFault Address :=
  ofParts a.parts (some (if host.contains ':' then '[' :: (host ++ [']']) else host))

/-- An address with another fragment. -/
def withFragment (a : Address) (fragment : Option (List Char)) : Except AddressFault Address :=
  ofParts { a.parts with fragment } none

end SearchAnnotation.Address
