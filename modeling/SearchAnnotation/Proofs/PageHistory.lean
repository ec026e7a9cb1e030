import SearchAnnotation.Proofs.SoundSessions
import SearchAnnotation.Provider.Rehearsed

/-!
# What pages show in the course of a session

Every page that is ever shown has what the journal says of it: the results that were stored first,
with the ranks posted since, in their order, between the neighbours of the query, and after a
search only if nothing was stored yet. Later views show each page as it is read back from its JSON
text. All this holds as long as addresses are strings and different queries have different ids.
-/

namespace SearchAnnotation.Session

open Journal
open SearchResult (soleRecord soleResult)

variable {σ : Type} {provider : Provider σ} {session : Session σ}

theorem Sound.step_call (s : Sound session) (call : Call)
    (proper : Proper (step provider session call).journal) :
    Sound (step provider session call) := by
  cases call with
  | addQueries batch => exact s.addQueries batch
  | loadPage qid => exact s.loadPage qid proper
  | saveAnnotations qid ranks => exact s.saveAnnotations qid ranks
  | saveExperiment query variantA variantB data =>
    exact s.saveExperiment query variantA variantB data
  | clearExperiments => exact s.clearExperiments

theorem journal_step (provider : Provider σ) (session : Session σ) (call : Call) :
    ∃ entry, (step provider session call).journal = entry :: session.journal := by
  cases call with
  | addQueries batch =>
    simp only [step]
    split
    · exact ⟨_, rfl⟩
    · exact ⟨_, rfl⟩
  | saveAnnotations qid ranks =>
    simp only [step]
    split
    · exact ⟨_, rfl⟩
    · exact ⟨_, rfl⟩
  | _ => exact ⟨_, rfl⟩

/-- What was proper in the end was so all along. -/
theorem proper_of_run {calls : List Call} (h : Proper (run provider session calls).journal) :
    Proper session.journal := by
  induction calls generalizing session with
  | nil => exact h
  | cons call rest ih =>
    obtain ⟨entry, hentry⟩ := journal_step provider session call
    have hnext : Proper (step provider session call).journal := ih h
    rw [hentry] at hnext
    exact hnext.of_cons

theorem Sound.run_calls (s : Sound session) {calls : List Call}
    (proper : Proper (run provider session calls).journal) :
    Sound (run provider session calls) := by
  induction calls generalizing session with
  | nil => exact s
  | cons call rest ih => exact ih (s.step_call call (proper_of_run proper)) proper

/-- In every session whose answers have string addresses and give different queries different ids,
what is read back for a query is what is cached by the journal, with each page changed just if its
document does not survive as JSON text, and every entry is lawful. A view that has shown a page has
shown what is cached, each result with the rank posted last since the first answer that could be
stored; or it has searched once, for the text of the query, and shown the results of the answer. In
either case it has shown them in order and with the links of the imported chain. A view finds no
query only if none of the name was imported, and fails only if a search gave nothing that can be
stored. -/
theorem lawful_of_viewed (provider : Provider σ) (source : σ) (calls : List Call)
    (proper : Proper (run provider (opened source) calls).journal) :
    (∀ qid, (run provider (opened source) calls).store.resultsOf qid =
      .ok (cached qid (run provider (opened source) calls).journal)) ∧
    (∀ qid, ∀ result ∈ stored qid (run provider (opened source) calls).journal,
      result.reread = result ↔ result.webpage.toDocument.survives = true) ∧
    ∀ later past entry, (run provider (opened source) calls).journal = later ++ entry :: past →
      EntryLawful past entry := by
  have s := (sound_opened source).run_calls proper
  refine ⟨s.resultsOf_eq, fun qid result _ => ?_, fun later past entry h => s.lawful h⟩
  rw [SearchResult.reread_eq_self_iff, Webpage.reread_eq_self_iff]

/-- An answer with one address. -/
def soleAnswer (url : Value) : Value := .list [soleRecord url]

/-- Two queries are imported, both are viewed, and the result of the first is ranked and viewed
again. -/
def ranking : Session (Rehearsal (Except SearchFault Value)) :=
  run Provider.rehearsed
    (opened ⟨[("x", [.ok (soleAnswer (.text "u"))]), ("y", [.ok (soleAnswer (.text "v"))])], []⟩)
    [.addQueries [⟨some "a", some "x"⟩, ⟨some "b", some "y"⟩], .loadPage "a", .loadPage "b",
      .saveAnnotations "a" [("a-u", some 3)], .loadPage "a"]

/-- All of the first session but its last view. -/
def rankingPast : Journal := [
  .posted "a" [("a-u", some 3)] (.ok 1),
  .viewed "b" [⟨"y", .ok (soleAnswer (.text "v"))⟩]
    (.ok (.found (View.Frame.page ⟨⟨"b", "y"⟩, some ⟨"a", "x"⟩, none⟩
      [soleResult "b" (.text "v")]))),
  .viewed "a" [⟨"x", .ok (soleAnswer (.text "u"))⟩]
    (.ok (.found (View.Frame.page ⟨⟨"a", "x"⟩, none, some ⟨"b", "y"⟩⟩
      [soleResult "a" (.text "u")]))),
  .imported [⟨some "a", some "x"⟩, ⟨some "b", some "y"⟩] (.ok 2)]

theorem journal_ranking : ranking.journal =
    .viewed "a" [] (.ok (.found (View.Frame.page ⟨⟨"a", "x"⟩, none, some ⟨"b", "y"⟩⟩
      [withRank (soleResult "a" (.text "u")) (some 3)]))) :: rankingPast := by
  decide +kernel

theorem ofAnswer_soleAnswer (qid s : String) :
    SearchResult.ofAnswer qid (soleAnswer (.text s)) = .ok [soleResult qid (.text s)] := rfl

/-- An answer with one string address has string addresses. -/
theorem strings_soleAnswer {url : Value} (string : url.isString = true) {records : List Value}
    (h : (soleAnswer url).elements = .ok records) :
    ∀ record ∈ records, SearchResult.HasStringAddress record := by
  cases h
  intro record hm
  rw [List.mem_singleton.mp hm]
  exact SearchResult.hasStringAddress_soleRecord string

theorem proper_ranking : Proper ranking.journal := by
  have hfetched : ∀ {qid answer}, Fetched ranking.journal qid answer →
      qid = "a" ∧ answer = soleAnswer (.text "u") ∨
        qid = "b" ∧ answer = soleAnswer (.text "v") := by
    rintro qid answer ⟨searches, outcome, hm, search, hs, ha⟩
    rw [journal_ranking, rankingPast] at hm
    simp only [List.mem_cons, List.not_mem_nil, or_false, reduceCtorEq, false_or,
      Entry.viewed.injEq] at hm
    rcases hm with ⟨-, rfl, -⟩ | ⟨rfl, rfl, -⟩ | ⟨rfl, rfl, -⟩
    · cases hs
    · rw [List.mem_singleton.mp hs] at ha
      exact .inr ⟨rfl, (Except.ok.inj ha).symm⟩
    · rw [List.mem_singleton.mp hs] at ha
      exact .inl ⟨rfl, (Except.ok.inj ha).symm⟩
  constructor
  · intro qid answer records h helements
    rcases hfetched h with ⟨-, rfl⟩ | ⟨-, rfl⟩
    · exact strings_soleAnswer rfl helements
    · exact strings_soleAnswer rfl helements
  · intro p q answer answer' results results' hne h h' hbuilt hbuilt' a ha b hb
    rcases hfetched h with ⟨rfl, rfl⟩ | ⟨rfl, rfl⟩ <;>
      rcases hfetched h' with ⟨rfl, rfl⟩ | ⟨rfl, rfl⟩
    · exact absurd rfl hne
    · cases (ofAnswer_soleAnswer "a" "u").symm.trans hbuilt
      cases (ofAnswer_soleAnswer "b" "v").symm.trans hbuilt'
      rw [List.mem_singleton.mp ha, List.mem_singleton.mp hb]
      decide
    · cases (ofAnswer_soleAnswer "b" "v").symm.trans hbuilt
      cases (ofAnswer_soleAnswer "a" "u").symm.trans hbuilt'
      rw [List.mem_singleton.mp ha, List.mem_singleton.mp hb]
      decide
    · exact absurd rfl hne

/-- The second view of a ranked result is lawful. -/
theorem lawful_ranking : Proper ranking.journal ∧
    Lawful rankingPast "a" [] (View.Frame.page ⟨⟨"a", "x"⟩, none, some ⟨"b", "y"⟩⟩
      [withRank (soleResult "a" (.text "u")) (some 3)]) :=
  ⟨proper_ranking, (lawful_of_viewed _ _ _ proper_ranking).2.2 [] rankingPast _ journal_ranking⟩

/-- An address that is no text, for a surrogate stands alone in it. -/
def loneAddress : Value := .ofCodes [0xD800]

/-- An answer with one address, whose title is a surrogate pair that was not joined. -/
def pairAnswer : Value := .list [.object [
  (.text "url", .text "u"), (.text "title", .ofCodes [0xD83D, 0xDE00])]]

/-- A result at this address with a title. -/
def titledResult (title : Value) : SearchResult :=
  ⟨"a-u", 0, none, ⟨.text "u", title, .null, .null, .null, .null, []⟩⟩

/-- A query is viewed three times. The first answer has an address that cannot be stored. -/
def unstorable : Session (Rehearsal (Except SearchFault Value)) :=
  run Provider.rehearsed
    (opened ⟨[("x", [.ok (soleAnswer loneAddress), .ok pairAnswer])], []⟩)
    [.addQueries [⟨some "a", some "x"⟩], .loadPage "a", .loadPage "a", .loadPage "a"]

theorem journal_unstorable : unstorable.journal = [
    .viewed "a" [] (.ok (.found (View.Frame.page ⟨⟨"a", "x"⟩, none, none⟩
      [titledResult (.ofCodes [0x1F600])]))),
    .viewed "a" [⟨"x", .ok pairAnswer⟩] (.ok (.found (View.Frame.page ⟨⟨"a", "x"⟩, none, none⟩
      [titledResult (.ofCodes [0xD83D, 0xDE00])]))),
    .viewed "a" [⟨"x", .ok (soleAnswer loneAddress)⟩] (.error (.store .unencodable)),
    .imported [⟨some "a", some "x"⟩] (.ok 1)] := by
  decide +kernel

theorem proper_unstorable : Proper unstorable.journal := by
  have hfetched : ∀ {qid answer}, Fetched unstorable.journal qid answer →
      qid = "a" ∧ (answer = soleAnswer loneAddress ∨ answer = pairAnswer) := by
    rintro qid answer ⟨searches, outcome, hm, search, hs, ha⟩
    rw [journal_unstorable] at hm
    simp only [List.mem_cons, List.not_mem_nil, or_false, reduceCtorEq,
      Entry.viewed.injEq] at hm
    rcases hm with ⟨rfl, rfl, -⟩ | ⟨rfl, rfl, -⟩ | ⟨rfl, rfl, -⟩
    · cases hs
    · rw [List.mem_singleton.mp hs] at ha
      exact ⟨rfl, .inr (Except.ok.inj ha).symm⟩
    · rw [List.mem_singleton.mp hs] at ha
      exact ⟨rfl, .inl (Except.ok.inj ha).symm⟩
  constructor
  · intro qid answer records h helements
    rcases (hfetched h).2 with rfl | rfl
    · exact strings_soleAnswer rfl helements
    · cases helements
      intro record hm
      rw [List.mem_singleton.mp hm]
      exact ⟨_, .text "u", rfl, rfl, rfl⟩
  · intro p q answer answer' results results' hne h h'
    exact absurd ((hfetched h).1.trans (hfetched h').1.symm) hne

/-- The results of an answer are built and are not none, and yet the next view shows those of a
later answer: a surrogate that stands alone in the first address keeps the results from being
stored. The view after that shows another webpage: the surrogates of the title are joined. -/
theorem unstorable_answer_is_passed_over :
    Proper unstorable.journal ∧
      unstorable.journal = [
        .viewed "a" [] (.ok (.found (View.Frame.page ⟨⟨"a", "x"⟩, none, none⟩
          [titledResult (.ofCodes [0x1F600])]))),
        .viewed "a" [⟨"x", .ok pairAnswer⟩] (.ok (.found (View.Frame.page ⟨⟨"a", "x"⟩, none, none⟩
          [titledResult (.ofCodes [0xD83D, 0xDE00])]))),
        .viewed "a" [⟨"x", .ok (soleAnswer loneAddress)⟩] (.error (.store .unencodable)),
        .imported [⟨some "a", some "x"⟩] (.ok 1)] ∧
      SearchResult.ofAnswer "a" (soleAnswer loneAddress) = .ok [soleResult "a" loneAddress] ∧
      (∀ title, ∀ result ∈ (View.Frame.page ⟨⟨"a", "x"⟩, none, none⟩
        [titledResult title]).results, result.webpage.url ≠ loneAddress) ∧
      (titledResult (.ofCodes [0x1F600])).webpage ≠
        (titledResult (.ofCodes [0xD83D, 0xDE00])).webpage := by
  refine ⟨proper_unstorable, journal_unstorable, rfl, fun title result hm => ?_, by decide⟩
  have hsole : result ∈ [titledResult title] := (List.mergeSort_perm _ _).mem_iff.mp hm
  rw [List.mem_singleton.mp hsole]
  exact fun h => nomatch h

end SearchAnnotation.Session
