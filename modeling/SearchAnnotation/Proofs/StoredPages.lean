import SearchAnnotation.Proofs.Outcomes
import SearchAnnotation.Webpage

/-!
# Pages read back from their documents

The document of a webpage is read back as that webpage, provided its title survives the reading.
Every webpage made from a record has such a title, so what is stored of a search can always be
read again. Nothing is said here about documents that were written by other means.
-/

namespace SearchAnnotation

/-- Replacing a trivial value twice is replacing it once. -/
theorem Value.orElse_orElse (v fallback : Value) :
    (v.orElse fallback).orElse fallback = v.orElse fallback := by
  unfold Value.orElse
  by_cases hv : v.isTrivial = true
  · simp only [hv, if_true, ite_self]
  · simp only [hv, Bool.false_eq_true, if_false]

/-- Stored signals are read back as they are, an object without fields included. -/
theorem Signals.ofDocument_object (fields : Fields) :
    Signals.ofDocument (.object fields) = .ok fields := by
  cases fields with
  | nil => rfl
  | cons field rest => rfl

namespace Webpage

/-- Whether the document of a page is read back as that page. -/
def Settled (page : Webpage) : Prop := ofDocument page.toDocument = .ok page

/-- A page whose title is not replaced by the reading is read back from its document. -/
theorem settled_of_title {page : Webpage} (h : page.title.orElse (.text "") = page.title) :
    page.Settled := by
  have hs : Signals.ofDocument (either [
      (.text "url", page.url), (.text "title", page.title), (.text "site", page.site),
      (.text "domain", page.domain), (.text "prettyUrl", page.prettyUrl),
      (.text "snippet", page.snippet), (.text "rankingSignals", .object page.rankingSignals)]
      "rankingSignals" "ranking_signals") = .ok page.rankingSignals :=
    Signals.ofDocument_object page.rankingSignals
  have hpage : { page with title := page.title.orElse (.text "") } = page := by rw [h]
  refine Outcome.bind_eq_ok.mpr ⟨_, rfl, Outcome.bind_eq_ok.mpr ⟨page.url, rfl,
    Outcome.bind_eq_ok.mpr ⟨page.rankingSignals, hs, ?_⟩⟩⟩
  exact congrArg Except.ok hpage

/-- A page made from a record has a title that survives the reading. -/
theorem title_of_ofRecord {record : Value} {page : Webpage} (h : ofRecord record = .ok page) :
    page.title.orElse (.text "") = page.title := by
  unfold ofRecord at h
  obtain ⟨fields, -, h⟩ := Outcome.bind_eq_ok.mp h
  obtain ⟨url, -, h⟩ := Outcome.bind_eq_ok.mp h
  obtain ⟨snippet, -, h⟩ := Outcome.bind_eq_ok.mp h
  cases h
  exact Value.orElse_orElse _ _

/-- Every page made from a record is read back from its document. -/
theorem settled_of_ofRecord {record : Value} {page : Webpage} (h : ofRecord record = .ok page) :
    page.Settled :=
  settled_of_title (title_of_ofRecord h)

end Webpage

end SearchAnnotation
