import SearchAnnotation.Address.Reader

/-!
# Resolving references

Two rules put a relative address below another one. Appending joins it to the end of the base
path, whatever it starts with. Resolving follows a reference as a reader of the base document
would: it may replace the authority, the whole path, the last segments or only the query. The
last segment of a path may have parameters after a semicolon, which go with the reference.
-/

namespace SearchAnnotation.Address

/-- A base address whose path ends in a slash. -/
def asFolder (base : Address) : Except AddressFault Address :=
  if base.target.getLast? == some '/' then .ok base else base.withTarget (base.target ++ ['/'])

/-- An absolute address as it is, a relative one appended to the base; the fragment of a relative
one is dropped. -/
def append (base a : Address) : Except AddressFault Address :=
  if a.isAbsolute then .ok a else base.withTarget (base.target ++ a.target.dropWhile (· == '/'))

/-- A reference in parts, absent ones empty. -/
structure Outline where
  /-- The scheme in lower case. -/
  scheme : List Char
  /-- User part, host and port. -/
  authority : List Char
  /-- The path without the parameters of its last segment. -/
  path : List Char
  /-- The parameters of the last segment. -/
  parameters : List Char
  /-- The query. -/
  query : List Char
  /-- The fragment. -/
  fragment : List Char
deriving DecidableEq, Repr

namespace Outline

/-- Schemes below which relative references are resolved. -/
def hierarchicalSchemes : List String := [
  "", "ftp", "http", "gopher", "nntp", "imap", "wais", "file", "https", "shttp", "mms",
  "prospero", "rtsp", "rtspu", "sftp", "svn", "svn+ssh", "ws", "wss"]

/-- Schemes in which the last segment of a path may have parameters. -/
def parameterSchemes : List String := [
  "", "ftp", "hdl", "prospero", "http", "imap", "https", "shttp", "rtsp", "rtspu", "sip", "sips",
  "mms", "sftp", "tel"]

/-- A path without the parameters of its last segment, and those. -/
def splitParameters (path : List Char) : List Char × List Char :=
  let final := (path.reverse.takeWhile (· != '/')).reverse
  let name := final.takeWhile (· != ';')
  (path.take (path.length - final.length) ++ name, final.drop (name.length + 1))

/-- The outline of a text. Without a scheme of its own it has the given one. -/
def ofText (scheme cs : List Char) : Outline :=
  let (own, rest) := splitScheme cs
  let (scheme, rest) := if own.isEmpty then (scheme, cs) else (own.map Char.toLower, rest)
  let isEnd := fun c => c == '/' || c == '?' || c == '#'
  let (authority, rest) := match rest with
    | '/' :: '/' :: rest => (rest.takeWhile fun c => !isEnd c, rest.dropWhile fun c => !isEnd c)
    | _ => ([], rest)
  let whole := rest.takeWhile (· != '#')
  let path := whole.takeWhile (· != '?')
  let (path, parameters) :=
    if parameterSchemes.contains (String.ofList scheme) then splitParameters path else (path, [])
  ⟨scheme, authority, path, parameters, (whole.dropWhile (· != '?')).drop 1,
    rest.drop (whole.length + 1)⟩

/-- A part after its delimiter, left out if it is empty. -/
def delimited (delimiter : Char) (part : List Char) : List Char :=
  if part.isEmpty then [] else delimiter :: part

/-- A reference below a hierarchical scheme as one text. -/
def render (o : Outline) : List Char :=
  let path := o.path ++ delimited ';' o.parameters
  let slashes := !o.authority.isEmpty || (!o.scheme.isEmpty && !(['/', '/'].isPrefixOf path))
  let rooted := if slashes && !path.isEmpty && path.head? != some '/' then '/' :: path else path
  (if o.scheme.isEmpty then [] else o.scheme ++ [':']) ++
    (if slashes then '/' :: '/' :: o.authority else []) ++ rooted ++
    delimited '?' o.query ++ delimited '#' o.fragment

/-- The segments of a reference's path below a base path. Between the first and the last segment
empty ones are left out. -/
def segmentsBelow (base path : List Char) : List (List Char) :=
  let own := Text.pieces (· == '/') path
  if path.head? == some '/' then own
  else
    let baseSegments := Text.pieces (· == '/') base
    let kept :=
      if baseSegments.getLast? == some [] then baseSegments else baseSegments.dropLast
    let all := kept ++ own
    all.take 1 ++ ((all.drop 1).dropLast.filter fun s => !s.isEmpty) ++ (all.drop 1).getLast?.toList

/-- Segments with dots resolved; a final dot segment leaves a slash at the end. -/
def mergeSegments (segments : List (List Char)) : List (List Char) :=
  let resolved := segments.foldl (fun output segment =>
    if segment == ['.', '.'] then output.dropLast
    else if segment == ['.'] then output
    else output ++ [segment]) []
  match segments.getLast? with
  | some final => if final == ['.'] || final == ['.', '.'] then resolved ++ [[]] else resolved
  | none => resolved

/-- A reference in the base's scheme, followed from the base. -/
def below (base o : Outline) : Outline :=
  if !o.authority.isEmpty then o
  else if o.path.isEmpty && o.parameters.isEmpty then
    { base with query := if o.query.isEmpty then base.query else o.query, fragment := o.fragment }
  else
    let path := ['/'].intercalate (mergeSegments (segmentsBelow base.path o.path))
    { o with authority := base.authority, path := if path.isEmpty then ['/'] else path }

end Outline

/-- The text of a reference, followed from the text of a base. -/
def followText (base reference : List Char) : List Char :=
  let b := Outline.ofText [] base
  let o := Outline.ofText b.scheme reference
  if base.isEmpty then reference
  else if reference.isEmpty then base
  else if o.scheme != b.scheme ||
      !Outline.hierarchicalSchemes.contains (String.ofList o.scheme) then reference
  else (b.below o).render

/-- The address that a reference leads to from a base. -/
def follow (base a : Address) : Except AddressFault Address :=
  read (followText base.render a.render)

example : String.ofList (followText "https://h.example/a/b?x=1".toList "../c;d".toList) =
    "https://h.example/c;d" := by decide +kernel

end SearchAnnotation.Address
