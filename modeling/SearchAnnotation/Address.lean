import SearchAnnotation.Text.Percent
import SearchAnnotation.Text.Quoted

/-!
# Addresses

An address has the parts of a reference: scheme, user part, host, port, path, query and
fragment. The port is absent when it is the scheme's own. A part that is absent differs from an
empty one only for the query and the fragment.
-/

namespace SearchAnnotation

/-- An address in parts. -/
structure Address where
  /-- The scheme in lower case, empty in a relative address. -/
  scheme : List Char
  /-- The user part, percent coded. -/
  userinfo : List Char
  /-- The host in lower case and without brackets. -/
  host : List Char
  /-- The port, unless it is the scheme's own. -/
  port : Option Int
  /-- The path, percent coded. -/
  path : List Char
  /-- The query, percent coded. -/
  query : Option (List Char)
  /-- The fragment, percent coded. -/
  fragment : Option (List Char)
deriving DecidableEq, Repr

/-- Why a text is no address. -/
inductive AddressFault where
  /-- The text is longer than any address may be. -/
  | tooLong
  /-- The text holds a control character. -/
  | control (c : Char) (position : Nat)
  /-- The port is no whole number. -/
  | port (text : List Char)
  /-- The host looks like four decimal numbers and is none. -/
  | decimalHost (host : List Char)
  /-- The host is in brackets and not eight hexadecimal groups. -/
  | bracketedHost (host : List Char)
  /-- The host cannot be written in seven-bit characters. -/
  | hostName (host : List Char)
  /-- After an authority the path must start with a slash. -/
  | pathAfterAuthority
  /-- A relative path starts with two slashes. -/
  | pathDoubleSlash
  /-- A relative path starts with a colon. -/
  | pathColon
deriving DecidableEq, Repr

/-- The explanation of a fault. -/
def AddressFault.message : AddressFault → String
  | tooLong => "URL too long"
  | control c position =>
    "Invalid non-printable ASCII character in URL, " ++ String.ofList (Text.quoted [c]) ++
      " at position " ++ toString position ++ "."
  | port text => "Invalid port: " ++ String.ofList (Text.quoted text)
  | decimalHost host => "Invalid IPv4 address: " ++ String.ofList (Text.quoted host)
  | bracketedHost host => "Invalid IPv6 address: " ++ String.ofList (Text.quoted host)
  | hostName host => "Invalid IDNA hostname: " ++ String.ofList (Text.quoted host)
  | pathAfterAuthority => "For absolute URLs, path must be empty or begin with '/'"
  | pathDoubleSlash => "Relative URLs cannot have a path starting with '//'"
  | pathColon => "Relative URLs cannot have a path starting with ':'"

namespace Address

/-- The port that a scheme uses when none is given. -/
def ownPort? (scheme : List Char) : Option Int :=
  [("ftp", 21), ("http", 80), ("https", 443), ("ws", 80), ("wss", 443)].findSome? fun entry =>
    if entry.1.toList == scheme then some entry.2 else none

/-- The port in use. -/
def effectivePort (a : Address) : Option Int :=
  match a.port with
  | some n => some n
  | none => ownPort? a.scheme

/-- Whether an address has a scheme and a host. -/
def isAbsolute (a : Address) : Bool := !a.scheme.isEmpty && !a.host.isEmpty

/-- The host and port as written. -/
def place (a : Address) : List Char :=
  (if a.host.contains ':' then '[' :: (a.host ++ [']']) else a.host) ++
    (match a.port with
      | none => []
      | some n => ':' :: (toString n).toList)

/-- The user part, host and port as written after the two slashes. -/
def authority (a : Address) : List Char :=
  (if a.userinfo.isEmpty then [] else a.userinfo ++ ['@']) ++ a.place

/-- The address as one text. -/
def render (a : Address) : List Char :=
  (if a.scheme.isEmpty then [] else a.scheme ++ [':']) ++
    (if a.authority.isEmpty then [] else '/' :: '/' :: a.authority) ++ a.path ++
    (match a.query with
      | none => []
      | some q => '?' :: q) ++
    (match a.fragment with
      | none => []
      | some f => '#' :: f)

/-- The path, a slash if it is empty, and the query. -/
def target (a : Address) : List Char :=
  (if a.path.isEmpty then ['/'] else a.path) ++
    (match a.query with
      | none => []
      | some q => '?' :: q)

/-- Whether two addresses have the same scheme, host and port. -/
def sameOrigin (a b : Address) : Bool :=
  a.scheme == b.scheme && a.host == b.host && a.effectivePort == b.effectivePort

end Address

end SearchAnnotation
