import SearchAnnotation.Webpage.Signals
import SearchAnnotation.Webpage.Snippet

/-!
# Webpages

A webpage keeps the display fields of a provider's record. It is read from two sources: from a
record, whose snippet is flattened and whose signals must be an object, and from a stored
document, whose snippet is kept and whose names may be in either of two spellings. Apart from
the signals no field's kind is checked.
-/

namespace SearchAnnotation

/-- The display fields of one webpage. -/
structure Webpage where
  /-- Where the page is. -/
  url : Value
  /-- The title, an empty text if none was given. -/
  title : Value
  /-- The site. -/
  site : Value
  /-- The domain. -/
  domain : Value
  /-- The address in a form for display. -/
  prettyUrl : Value
  /-- The snippet. -/
  snippet : Value
  /-- The provider's ranking signals. -/
  rankingSignals : Fields
deriving DecidableEq, Repr

namespace Webpage

/-- The document that stores and shows a webpage. -/
def toDocument (page : Webpage) : Value := .object [
  ("url", page.url),
  ("title", page.title),
  ("site", page.site),
  ("domain", page.domain),
  ("prettyUrl", page.prettyUrl),
  ("snippet", page.snippet),
  ("rankingSignals", .object page.rankingSignals)]

/-- The fields of an object; every other value is of the wrong kind. -/
def fieldsOf : Value → Except ShapeFault Fields
  | .object fields => .ok fields
  | _ => .error .wrongKind

/-- The address among fields, without which there is no webpage. -/
def urlOf (fields : Fields) : Except ShapeFault Value :=
  match Fields.get? fields "url" with
  | some url => .ok url
  | none => .error (.missing "url")

/-- The webpage of a provider's record. -/
def ofRecord (record : Value) : Except ShapeFault Webpage := do
  let fields ← fieldsOf record
  let url ← urlOf fields
  let snippet ← Snippet.flatten (Fields.get fields "snippet")
  return {
    url
    title := (Fields.get fields "title").orElse (.text "")
    site := Fields.get fields "site"
    domain := Fields.get fields "domain"
    prettyUrl := Fields.get fields "prettyUrl"
    snippet
    rankingSignals := Signals.ofRecord (Fields.get fields "rankingSignals") }

/-- The value of a field under its first spelling if present, else under its second. -/
def either (fields : Fields) (first second : String) : Value :=
  (Fields.get? fields first).getD (Fields.get fields second)

/-- The webpage of a stored document. -/
def ofDocument (document : Value) : Except ShapeFault Webpage := do
  let fields ← fieldsOf document
  let url ← urlOf fields
  let signals ← Signals.ofDocument (either fields "rankingSignals" "ranking_signals")
  return {
    url
    title := (Fields.get fields "title").orElse (.text "")
    site := Fields.get fields "site"
    domain := Fields.get fields "domain"
    prettyUrl := either fields "prettyUrl" "pretty_url"
    snippet := Fields.get fields "snippet"
    rankingSignals := signals }

end Webpage

end SearchAnnotation
