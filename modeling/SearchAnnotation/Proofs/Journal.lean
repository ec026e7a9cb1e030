import SearchAnnotation.Proofs.BuiltResults
import SearchAnnotation.Proofs.DisplayOrder
import SearchAnnotation.Proofs.StoredRows
import SearchAnnotation.Store.Experiments
import SearchAnnotation.View

/-!
# Sessions and their journals

A session starts with an empty store and carries out imports, views, posts of ranks and changes of
experiments, one after the other. Its journal says what was called, what came of it, and which
searches each view has made. What is cached for a query, and so what its page shows, is read off the
journal alone: the results of the first answer that could be stored, and for each of them the rank
that was posted last since then.
-/

namespace SearchAnnotation

/-- One search, and what came of it. -/
structure Search where
  /-- The text searched for. -/
  text : String
  /-- The provider's answer. -/
  answer : Except SearchFault Value
deriving DecidableEq

/-- A provider that notes its searches. -/
def Provider.noted {σ : Type} (provider : Provider σ) : Provider (σ × List Search) where
  search text state :=
    let (answer, source) := provider.search text state.1
    (answer, source, state.2 ++ [⟨text, answer⟩])

/-- What can be called in a session. -/
inductive Call where
  /-- Queries are imported. -/
  | addQueries (batch : List PostedQuery)
  /-- A query's page is loaded. -/
  | loadPage (qid : String)
  /-- Ranks are posted for a query. -/
  | saveAnnotations (qid : String) (ranks : Store.Ranks)
  /-- An experiment is stored. -/
  | saveExperiment (query variantA variantB : String) (data : Value)
  /-- All experiments are dropped. -/
  | clearExperiments

/-- What a journal says of one call. -/
inductive Entry where
  /-- Queries were imported, or the batch was refused. -/
  | imported (batch : List PostedQuery) (outcome : Except StoreFault Nat)
  /-- A query's page was viewed, with these searches. -/
  | viewed (qid : String) (searches : List Search) (outcome : Except ViewFault (Lookup Page))
  /-- Ranks were posted for a query. -/
  | posted (qid : String) (ranks : Store.Ranks) (outcome : Except StoreFault Nat)
  /-- Experiments were stored or dropped. -/
  | experimented
deriving DecidableEq

/-- A journal, the latest entry first. -/
abbrev Journal := List Entry

/-- A session so far. -/
structure Session (σ : Type) where
  /-- The store. -/
  store : Store
  /-- The provider's state. -/
  source : σ
  /-- What was called. -/
  journal : Journal

namespace Session

variable {σ : Type}

/-- A session in which nothing was called yet. -/
def opened (source : σ) : Session σ := ⟨Store.empty, source, []⟩

/-- A session after one more call. -/
def step (provider : Provider σ) (session : Session σ) : Call → Session σ
  | .addQueries batch =>
    match session.store.addQueries batch with
    | .error why =>
      { session with journal := .imported batch (.error why) :: session.journal }
    | .ok (store, count) =>
      { session with store, journal := .imported batch (.ok count) :: session.journal }
  | .loadPage qid =>
    let (outcome, store, source, searches) :=
      View.load provider.noted qid session.store (session.source, [])
    ⟨store, source, .viewed qid searches outcome :: session.journal⟩
  | .saveAnnotations qid ranks =>
    match session.store.saveAnnotations qid ranks with
    | .error why =>
      { session with journal := .posted qid ranks (.error why) :: session.journal }
    | .ok (store, count) =>
      { session with store, journal := .posted qid ranks (.ok count) :: session.journal }
  | .saveExperiment query variantA variantB data => { session with
      store := (session.store.saveExperiment query variantA variantB data).1
      journal := .experimented :: session.journal }
  | .clearExperiments => { session with
      store := session.store.clearExperiments
      journal := .experimented :: session.journal }

/-- A session after calls in order. -/
def run (provider : Provider σ) (session : Session σ) (calls : List Call) : Session σ :=
  calls.foldl (step provider) session

end Session

namespace Journal

/-- A chain with one more query, unless its name is known. -/
def link (chain : List Query) : PostedQuery → List Query
  | ⟨some qid, some text⟩ =>
    if qid ∈ chain.map Query.qid then chain else chain ++ [⟨qid, text⟩]
  | _ => chain

/-- The queries that were imported, each name once. -/
def chain : Journal → List Query
  | [] => []
  | .imported batch (.ok _) :: past => batch.foldl link (chain past)
  | _ :: past => chain past

/-- The results that an answer gives for a query, if there are any and all of them can be stored. -/
def storable? (qid : String) (answer : Except SearchFault Value) : Option (List SearchResult) :=
  match answer with
  | .error _ => none
  | .ok answer =>
    match SearchResult.ofAnswer qid answer with
    | .error _ => none
    | .ok results =>
      if results ≠ [] ∧ results.findSome? SearchResult.refusal? = none then some results else none

/-- The results of the first answer to a query that could be stored. -/
def firstStored? (qid : String) : Journal → Option (List SearchResult)
  | [] => none
  | .viewed name searches _ :: past =>
    (firstStored? qid past).or
      (if name = qid then searches.findSome? fun search => storable? qid search.answer else none)
  | _ :: past => firstStored? qid past

/-- The rank that was posted last for a result since its query's results were stored. -/
def lastRank (qid id : String) : Journal → Option Int
  | [] => none
  | .posted name ranks (.ok _) :: past =>
    if name = qid ∧ (firstStored? qid past).isSome then
      (ranks.lookup id).getD (lastRank qid id past)
    else lastRank qid id past
  | _ :: past => lastRank qid id past

/-- A result with another annotated rank. -/
def withRank (result : SearchResult) (rank : Option Int) : SearchResult :=
  { result with annotatedRank := rank }

/-- What was stored for a query, with the ranks posted since then, in the order of the answer. -/
def stored (qid : String) (journal : Journal) : List SearchResult :=
  ((firstStored? qid journal).getD []).map fun result =>
    withRank result (lastRank qid result.key journal)

/-- What is cached for a query: what was stored, with each page as it is read back. -/
def cached (qid : String) (journal : Journal) : List SearchResult :=
  (stored qid journal).map SearchResult.reread

/-- Whether a view of a query was answered with a value. -/
def Fetched (journal : Journal) (qid : String) (answer : Value) : Prop :=
  ∃ searches outcome, .viewed qid searches outcome ∈ journal ∧
    ∃ search ∈ searches, search.answer = .ok answer

/-- Whether all answers have string addresses and give different queries different ids. -/
structure Proper (journal : Journal) : Prop where
  /-- The records of all answers have string addresses. -/
  strings : ∀ {qid answer records}, Fetched journal qid answer → answer.elements = .ok records →
    ∀ record ∈ records, SearchResult.HasStringAddress record
  /-- No id built for one query is built for another. -/
  apart : ∀ {p q answer answer'} {results results' : List SearchResult}, p ≠ q →
    Fetched journal p answer → Fetched journal q answer' →
    SearchResult.ofAnswer p answer = .ok results → SearchResult.ofAnswer q answer' = .ok results' →
    ∀ a ∈ results, ∀ b ∈ results', a.id ≠ b.id

/-- What a journal's entry of a view that has shown a page has to say, given all earlier ones. -/
structure Lawful (past : Journal) (qid : String) (searches : List Search) (page : Page) : Prop where
  /-- The query was imported under this name, and its neighbours in the chain are linked. -/
  linked : ∃ before after, chain past = before ++ page.query :: after ∧ page.query.qid = qid ∧
    page.previous = before.getLast? ∧ page.next = after.head?
  /-- If results were stored before there was no search, and the page shows what is cached. -/
  spared : (firstStored? qid past).isSome = true →
    searches = [] ∧ page.results.Perm (cached qid past)
  /-- Otherwise there was one search, for the query's text, and the page shows the results of its
  answer, which are stored unless there are none. -/
  searched : firstStored? qid past = none → ∃ answer, searches = [⟨page.query.text, answer⟩] ∧
    page.results.Perm ((storable? qid answer).getD [])
  /-- The page shows them in order. -/
  ordered : page.results.Pairwise SearchResult.Before

/-- What an entry has to say, given all earlier ones. An import is refused only for a query that
cannot be stored. A view finds no query only if none of the name was imported, and fails only if
nothing was stored before and a search gave nothing that can be stored. -/
def EntryLawful (past : Journal) : Entry → Prop
  | .imported batch (.error _) => ∃ posted ∈ batch, posted.qid = none ∨ posted.text = none
  | .viewed qid searches (.ok (.found page)) => Lawful past qid searches page
  | .viewed qid searches (.ok (.notFound name)) =>
    name = qid ∧ searches = [] ∧ qid ∉ (chain past).map Query.qid
  | .viewed qid searches (.error _) => firstStored? qid past = none ∧
    ∃ search, searches = [search] ∧ storable? qid search.answer = none
  | _ => True

end Journal

end SearchAnnotation
