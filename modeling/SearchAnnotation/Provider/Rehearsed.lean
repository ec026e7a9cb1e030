import SearchAnnotation.Provider.SearchApi

/-!
# Rehearsed providers

A provider can be rehearsed at two places. The search API is rehearsed at its transport: the
replies to its requests are scripted. Any other provider is rehearsed as a whole: its answers are
scripted. A text without a script is answered by an empty list of webpages.
-/

namespace SearchAnnotation

open Exchange (Reply Session)

/-- A reply with no webpages. -/
def noWebpagesReply : Reply :=
  .ok ⟨200, [("content-type", "application/json")],
    Encoding.toUtf8 (Json.render (.object [("webpages", .list [])]))⟩

/-- The search API over scripted replies, one script for every text. -/
def SearchApi.rehearsed (api : SearchApi) : Provider (Session (Rehearsal Reply)) where
  search text session :=
    let rehearsal := session.transport
    let script := (rehearsal.script? text).getD [noWebpagesReply]
    let (report, after) :=
      api.search Exchange.scripted text ⟨session.jar, session.now, script⟩
    (report.result, ⟨after.jar, after.now, rehearsal.searched text after.transport⟩)

/-- A provider with scripted answers, one script for every text. -/
def Provider.rehearsed : Provider (Rehearsal (Except SearchFault Value)) where
  search text rehearsal :=
    let (answer, script) := ((rehearsal.script? text).getD []).next
    (answer.getD (.ok (.list [])), rehearsal.searched text script)

end SearchAnnotation
