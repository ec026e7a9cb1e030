import SearchAnnotation.Proofs.BuiltResults
import SearchAnnotation.Proofs.LineContext
import SearchAnnotation.Proofs.UpstreamFaults
import SearchAnnotation.View.Logging

/-!
# The log lines of calls, searches and loads

What a provider answers is logged as extra attributes, as numbers, or not at all, so it adds no
line to the log. There is one exception: the record about a webpage that is dropped, since its
address was met before, has the address in its message. Such a record has more than one line just
if the address shows a line break.
-/

namespace SearchAnnotation

open LogRecord (Clock IsOneLine Presentable Regular Shows)
open Text (AllPrintable OneLine)

section Displays

theorem Encoding.lossy_append (front back : List (Option Char)) :
    lossy (front ++ back) = lossy front ++ lossy back :=
  List.map_append

theorem Encoding.lossy_toNat (cs : List Char) :
    lossy ((cs.map Char.toNat).map charOf?) = cs := by
  have hchar : ∀ c : Char, (charOf? c.toNat).getD replacement = c := by
    intro c
    rw [charOf?_toNat, Option.getD_some]
  rw [lossy, List.map_map, List.map_map]
  exact (List.map_congr_left fun c _ => hchar c).trans (List.map_id cs)

/-- A value is displayed as its code points are, where a lone surrogate has a mark. -/
theorem Value.display_eq (v : Value) :
    v.display = Encoding.lossy (v.displayCodes.map Encoding.charOf?) := by
  cases v with
  | unpaired u => rfl
  | _ => exact (Encoding.lossy_toNat _).symm

/-- So is the name of code points. -/
theorem Value.display_ofCodes (codes : List Nat) :
    (Value.ofName (.ofCodes codes)).display = Encoding.lossy (codes.map Encoding.charOf?) := by
  have hcodes : (Value.ofName (.ofCodes codes)).displayCodes = codes := by
    calc (Value.ofName (.ofCodes codes)).displayCodes
        = (Name.ofCodes codes).codes := by cases Name.ofCodes codes <;> rfl
      _ = codes := Name.codes_ofCodes codes
  rw [Value.display_eq, hcodes]

theorem Value.display_ofName (name : Name) :
    (Value.ofName name).display = Encoding.lossy (name.codes.map Encoding.charOf?) := by
  rw [← Value.display_ofCodes, Name.ofCodes_codes]

end Displays

variable {clock : Option Clock}

namespace LogRecord

theorem presentable_nil : Presentable [] := by decide

/-- A record with presentable attributes whose level and logger are on one line is one line just if
its message is. -/
theorem isOneLine_iff_message (record : LogRecord) (regular : Regular clock)
    (h : Presentable (record.extras.map Prod.fst))
    (hfront : OneLine (record.level ++ " " ++ record.logger ++ ": ").toList) :
    record.IsOneLine clock ↔ OneLine (Value.ofName record.message).display := by
  have hbase : record.base.toList = (record.level ++ " " ++ record.logger ++ ": ").toList ++
      (Value.ofName record.message).display := by
    rw [base, String.toList_append, Value.displayString, String.toList_ofList]
  rw [isOneLine_iff regular h, hbase, Text.oneLine_append]
  exact and_iff_right hfront

end LogRecord

namespace Exchange.Client

variable {call : Call} {message : String} {extras : Attributes} {response : Response}
  {fault : CallFault}

theorem isOneLine_record (regular : Regular clock) (h : Presentable (extras.map Prod.fst))
    (hmessage : OneLine message.toList) : (record message extras).IsOneLine clock := by
  have hfront : OneLine "ERROR rankingtools.websearch.HTTPClient: ".toList := by decide
  exact ((record message extras).isOneLine_iff_message regular h hfront).mpr hmessage

theorem isOneLine_of_refused (regular : Regular clock)
    (h : Presentable (extras.map Prod.fst ++ ["response"])) (hmessage : OneLine message.toList) :
    ∀ logged ∈ (refused response fault message extras).2, logged.IsOneLine clock := by
  rw [refused]
  cases response.excerpt with
  | error why => simp
  | ok excerpt =>
    have hextras : Presentable ((extras ++ [("response", excerpt)]).map Prod.fst) := by
      simpa using h
    simpa using isOneLine_record regular hextras hmessage

theorem oneLine_status (status : Nat) : OneLine (toString status).toList := by
  rw [Nat.toString_eq_ofList_toDigits, String.toList_ofList]
  exact (Text.allPrintable_toDigits (by decide) status).oneLine

theorem oneLine_method (method : Method) : OneLine method.name.toList := by
  cases method <;> decide

/-- What is logged about an exchange is one line for each record, however it ended. -/
theorem isOneLine_of_conclude (regular : Regular clock) (client : Client)
    (hurl : OneLine call.url.toList) (ending : Ending) :
    ∀ logged ∈ (client.conclude call ending).2, logged.IsOneLine clock := by
  have hmethod := oneLine_method call.method
  have hblank : OneLine " ".toList := by decide
  cases ending with
  | failed explanation =>
    have hfront : OneLine "Network Error: ".toList := by decide
    have hmessage : OneLine ("Network Error: " ++ call.method.name ++ " " ++ call.url).toList := by
      simp only [String.toList_append, Text.oneLine_append]
      exact ⟨⟨⟨hfront, hmethod⟩, hblank⟩, hurl⟩
    have hnames : Presentable ["error"] := by decide
    intro logged hlogged
    rw [List.mem_singleton.mp hlogged]
    exact isOneLine_record regular hnames hmessage
  | stopped fault => exact fun logged hlogged => absurd hlogged List.not_mem_nil
  | final request response =>
    have hnone : ∀ logged ∈ ([] : List LogRecord), logged.IsOneLine clock := by simp
    rw [conclude]
    split_ifs with hsuccess htext
    · have hfront : OneLine "HTTP ".toList := by decide
      have hstatus := oneLine_status response.status
      have hnames : Presentable ["url", "response"] := by decide
      refine isOneLine_of_refused regular hnames ?_
      simp only [String.toList_append, Text.oneLine_append]
      exact ⟨⟨⟨hfront, hmethod⟩, hblank⟩, hstatus⟩
    · cases response.text with
      | ok text => exact hnone
      | error why => exact hnone
    · have hfront : OneLine "Invalid JSON from ".toList := by decide
      have hnames : Presentable ["response"] := by decide
      split
      · exact hnone
      · exact hnone
      · refine isOneLine_of_refused regular hnames ?_
        simp only [String.toList_append, Text.oneLine_append]
        exact ⟨⟨⟨hfront, hmethod⟩, hblank⟩, hurl⟩

/-- What a call logs is one line for each record if its address is on one line, whatever comes
back. -/
theorem isOneLine_of_send {σ : Type} (regular : Regular clock) (client : Client)
    (transport : Transport σ) (call : Call) (session : Session σ)
    (hurl : OneLine call.url.toList) :
    ∀ logged ∈ (client.send transport call session).1.logs, logged.IsOneLine clock := by
  rw [send]
  cases client.request session.jar call with
  | error fault => simp
  | ok request => exact isOneLine_of_conclude regular client hurl _

end Exchange.Client

namespace SearchApi

theorem isOneLine_missingRecord (regular : Regular clock) (query : String) (answer : Value) :
    (missingRecord query answer).IsOneLine clock := by
  have hnames : Presentable ["query", "response_type"] := by decide
  have hfront : OneLine "ERROR rankingtools.websearch.StractWebSearch: ".toList := by decide
  have hmessage : OneLine "Stract API response is missing 'webpages'".toList := by decide
  exact ((missingRecord query answer).isOneLine_iff_message regular hnames hfront).mpr hmessage

theorem isOneLine_of_search {σ : Type} (regular : Regular clock) (api : SearchApi)
    (transport : Exchange.Transport σ) (query : String) (session : Exchange.Session σ)
    (hurl : OneLine api.url.toList) :
    ∀ logged ∈ (api.search transport query session).1.logs, logged.IsOneLine clock := by
  have hsend := Exchange.Client.isOneLine_of_send regular api.client transport (api.call query)
    session hurl
  rw [search]
  generalize api.client.send transport (api.call query) session = sent at hsend ⊢
  obtain ⟨report, later⟩ := sent
  dsimp only at hsend ⊢
  cases report.result with
  | error why => exact hsend
  | ok answer =>
    dsimp only
    cases webpages? answer with
    | some items => exact hsend
    | none =>
      refine List.forall_mem_append.mpr ⟨hsend, ?_⟩
      simpa using isOneLine_missingRecord regular query answer

/-- What a search answers is a list of webpages. -/
theorem exists_list_of_search {σ : Type} {api : SearchApi} {transport : Exchange.Transport σ}
    {query : String} {session : Exchange.Session σ} {answer : Value}
    (h : (api.search transport query session).1.result = .ok answer) :
    ∃ records, answer = .list records := by
  obtain ⟨report, later, hsend⟩ : ∃ report later,
      api.client.send transport (api.call query) session = (report, later) := ⟨_, _, rfl⟩
  have hjudge : (judge query report.result report.logs).1 = .ok answer := by
    rw [search_eq_judge hsend] at h
    exact h
  unfold judge at hjudge
  split at hjudge
  · cases hjudge
  · split at hjudge
    · next items hitems => exact ⟨items, (Except.ok.inj hjudge).symm⟩
    · cases hjudge

/-- A record about a search is one line if its message is. -/
theorem isOneLine_note (regular : Regular clock) {message : String}
    (hmessage : OneLine message.toList) : (note message).IsOneLine clock := by
  have hfront : OneLine "INFO rankingtools.websearch.StractWebSearch: ".toList := by decide
  exact ((note message).isOneLine_iff_message regular LogRecord.presentable_nil hfront).mpr hmessage

end SearchApi

namespace View

open SearchResult (build buildFrom pageOf sameAddress)

variable {qid : Name} {seen records : List Value} {url : Value} {rank : Nat} {logged : LogRecord}

theorem oneLine_number (n : Int) : OneLine (number n).toList := by
  rw [number, Value.displayString, String.toList_ofList]
  exact (Value.allPrintable_literal (.int n)).oneLine

/-- The message about a dropped webpage shows its address as it is. -/
theorem display_duplicateRecord (qid : Name) (url : Value) :
    (Value.ofName (duplicateRecord qid url).message).display =
      "Dropping duplicate result ".toList ++ url.display ++ " for query '".toList ++
        (Value.ofName qid).display ++ "'".toList := by
  have htext : ∀ s : String, Encoding.lossy ((Name.text s).codes.map Encoding.charOf?) = s.toList :=
    fun s => Encoding.lossy_toNat s.toList
  rw [duplicateRecord, note, Value.display_ofCodes, Value.display_eq url, Value.display_ofName]
  simp only [List.map_append, Encoding.lossy_append, htext]

/-- A record about a dropped webpage is one line just if its address is. -/
theorem isOneLine_duplicateRecord (regular : Regular clock) {name : String}
    (hname : OneLine name.toList) :
    (duplicateRecord name url).IsOneLine clock ↔ OneLine url.display := by
  have hdisplay : OneLine (Value.ofName name).display := hname
  have hfront : OneLine "DEBUG rankingtools.annotation.ResultLoader: ".toList := by decide
  have hstart : OneLine "Dropping duplicate result ".toList := by decide
  have hmiddle : OneLine " for query '".toList := by decide
  have hback : OneLine "'".toList := by decide
  rw [(duplicateRecord name url).isOneLine_iff_message regular LogRecord.presentable_nil hfront,
    display_duplicateRecord]
  simp only [Text.oneLine_append, hstart, hmiddle, hdisplay, hback, true_and, and_true]

/-- A record about a view is one line if its message is. -/
theorem isOneLine_note (regular : Regular clock) {message : String}
    (hmessage : OneLine message.toList) : (note "INFO" message).IsOneLine clock := by
  have hfront : OneLine "INFO rankingtools.annotation.ResultLoader: ".toList := by decide
  have hiff := (note "INFO" message).isOneLine_iff_message regular LogRecord.presentable_nil hfront
  exact hiff.mpr hmessage

/-- Whether an address is met again in some records. -/
def Repeats (records : List Value) (url : Value) : Prop :=
  ∃ front record rest page, records = front ++ record :: rest ∧ pageOf record = .ok page ∧
    page.url = url ∧ ∃ other ∈ front, ∃ earlier, pageOf other = .ok earlier ∧
      sameAddress url earlier.url = true

/-- Only webpages whose address was met before are dropped. -/
theorem mem_dropped (h : logged ∈ dropped qid seen records) :
    ∃ front record rest page, records = front ++ record :: rest ∧ pageOf record = .ok page ∧
      logged = duplicateRecord qid page.url ∧
      (seen.any (sameAddress page.url) = true ∨ ∃ other ∈ front, ∃ earlier,
        pageOf other = .ok earlier ∧ sameAddress page.url earlier.url = true) := by
  induction records generalizing seen with
  | nil => exact absurd h List.not_mem_nil
  | cons record rest ih =>
    unfold dropped at h
    cases hpage : pageOf record with
    | error why =>
      rw [hpage] at h
      exact absurd h List.not_mem_nil
    | ok page =>
      rw [hpage] at h
      dsimp only at h
      by_cases hseen : seen.any (sameAddress page.url) = true
      · rw [if_pos hseen] at h
        obtain rfl | hlater := List.mem_cons.mp h
        · exact ⟨[], record, rest, page, rfl, hpage, rfl, .inl hseen⟩
        · obtain ⟨front, again, tail, found, rfl, hfound, hlogged, hmet⟩ := ih hlater
          refine ⟨record :: front, again, tail, found, rfl, hfound, hlogged, hmet.imp_right ?_⟩
          rintro ⟨other, hother, earlier, hearlier, hsame⟩
          exact ⟨other, List.mem_cons_of_mem _ hother, earlier, hearlier, hsame⟩
      · rw [if_neg hseen] at h
        obtain ⟨front, again, tail, found, rfl, hfound, hlogged, hmet⟩ := ih h
        refine ⟨record :: front, again, tail, found, rfl, hfound, hlogged, ?_⟩
        rw [List.any_cons, Bool.or_eq_true] at hmet
        obtain (hfirst | hseen') | ⟨other, hother, earlier, hearlier, hsame⟩ := hmet
        · exact .inr ⟨record, List.mem_cons_self, page, hpage, hfirst⟩
        · exact .inl hseen'
        · exact .inr ⟨other, List.mem_cons_of_mem _ hother, earlier, hearlier, hsame⟩

/-- Of the records that become results or are dropped none is left out of the log. -/
theorem length_dropped {results : List SearchResult}
    (h : buildFrom qid seen rank records = .ok results) :
    (dropped qid seen records).length + results.length = records.length := by
  induction records generalizing seen rank results with
  | nil =>
    cases h
    rfl
  | cons record rest ih =>
    obtain ⟨page, hpage, hcases⟩ := SearchResult.buildFrom_cons_eq_ok.mp h
    unfold dropped
    rw [hpage]
    dsimp only
    obtain ⟨hseen, hrest⟩ | ⟨hseen, later, hlater, rfl⟩ := hcases
    · have hlength := ih hrest
      rw [if_pos hseen, List.length_cons, List.length_cons]
      omega
    · have hlength := ih hlater
      have hnot : ¬seen.any (sameAddress page.url) = true := by simp [hseen]
      rw [if_neg hnot, List.length_cons, List.length_cons]
      omega

/-- A record of a list of webpages is one line, or it names an address that is met again there and
shows a line break. -/
theorem isOneLine_of_foundLogs (regular : Regular clock) (query : Query) (elapsed : Int)
    (store : Store) (hqid : OneLine query.qid.toList)
    (hlogged : logged ∈ foundLogs query elapsed store records) :
    logged.IsOneLine clock ∨ ∃ url, Repeats records url ∧
      logged = duplicateRecord query.qid url ∧ ¬OneLine url.display := by
  have hnumber := oneLine_number
  rw [foundLogs, List.mem_append, List.mem_cons] at hlogged
  obtain (rfl | hdropped) | hstored := hlogged
  · have hfront : OneLine "Stract search completed: ".toList := by decide
    have hmiddle : OneLine " results in ".toList := by decide
    have hback : OneLine "ms".toList := by decide
    refine .inl (SearchApi.isOneLine_note regular ?_)
    simp only [String.toList_append, Text.oneLine_append]
    exact ⟨⟨⟨⟨hfront, hnumber _⟩, hmiddle⟩, hnumber _⟩, hback⟩
  · obtain ⟨front, record, rest, page, hrecords, hpage, rfl, hmet⟩ := mem_dropped hdropped
    have hrepeats : Repeats records page.url :=
      ⟨front, record, rest, page, hrecords, hpage, rfl, hmet.resolve_left (by simp)⟩
    by_cases hurl : OneLine page.url.display
    · exact .inl ((isOneLine_duplicateRecord regular hqid).mpr hurl)
    · exact .inr ⟨page.url, hrepeats, rfl, hurl⟩
  · cases hbuild : build query.qid records with
    | error why => simp [hbuild] at hstored
    | ok results =>
      cases hsave : save store query.qid results with
      | error why => simp [hbuild, hsave] at hstored
      | ok saved =>
        simp only [hbuild, hsave, List.mem_singleton] at hstored
        subst hstored
        have hfront : OneLine "Cached ".toList := by decide
        have hmiddle : OneLine " search results for query '".toList := by decide
        have hback : OneLine "'".toList := by decide
        refine .inl (isOneLine_note regular ?_)
        simp only [String.toList_append, Text.oneLine_append]
        exact ⟨⟨⟨⟨hfront, hnumber _⟩, hmiddle⟩, hqid⟩, hback⟩

/-- How the records of a load are shown. -/
structure ShownLoad {σ : Type} (clock : Option Clock) (api : SearchApi)
    (transport : Exchange.Transport σ) (elapsed : Int) (qid : String) (store : Store)
    (session : Exchange.Session σ) : Prop where
  /-- A record is one line unless it names an address that the answer has again. -/
  each : ∀ logged ∈ logs api transport elapsed qid store session, logged.IsOneLine clock ∨
    ∃ query records url, store.query? qid = some query ∧
      (api.search transport query.text session).1.result = .ok (.list records) ∧
      Repeats records url ∧ logged = duplicateRecord qid url ∧ ¬OneLine url.display
  /-- A record that names an address is one line just if that address is. -/
  single : ∀ url, (duplicateRecord qid url).IsOneLine clock ↔ OneLine url.display
  /-- When results were found, there is a record for each webpage that is not among them. -/
  found : ∀ query results later, store.query? qid = some query → store.rowsOf qid = [] →
    fetch (api.provider transport) query session = (.ok results, later) →
    ∃ records, (api.search transport query.text session).1.result = .ok (.list records) ∧
      dropped qid [] records <:+: logs api transport elapsed qid store session ∧
      (dropped qid [] records).length + results.length = records.length

/-- The records about dropped webpages are among those of a load that found results. -/
theorem dropped_of_fetch {σ : Type} {api : SearchApi} {transport : Exchange.Transport σ}
    {elapsed : Int} {qid : String} {store : Store} {session later : Exchange.Session σ}
    {query : Query} {results : List SearchResult} (hquery : store.query? qid = some query)
    (uncached : store.rowsOf qid = [])
    (h : fetch (api.provider transport) query session = (.ok results, later)) :
    ∃ records, (api.search transport query.text session).1.result = .ok (.list records) ∧
      dropped qid [] records <:+: logs api transport elapsed qid store session ∧
      (dropped qid [] records).length + results.length = records.length := by
  have hname := Store.qid_eq_of_query? hquery
  obtain ⟨answer, hanswer, hbuilt⟩ := built_of_fetch h
  have hresult : (api.search transport query.text session).1.result = .ok answer := hanswer
  obtain ⟨records, rfl⟩ := SearchApi.exists_list_of_search hresult
  obtain ⟨items, hitems, hbuild⟩ := SearchResult.ofAnswer_eq_ok.mp hbuilt
  obtain rfl : records = items := Except.ok.inj hitems
  rw [hname] at hbuild
  refine ⟨records, hresult, ?_, length_dropped hbuild⟩
  have hcached : cached store query.qid = .ok [] := by
    rw [cached, hname, Store.resultsOf_eq_nil.mpr uncached]
    rfl
  have hfound : dropped qid [] records <:+: foundLogs query elapsed store records := by
    rw [foundLogs, hname]
    exact ⟨[_], _, rfl⟩
  refine hfound.trans ?_
  simp only [logs, hquery, hcached, hresult]
  exact (List.suffix_append _ _).isInfix

theorem shownLoad_logs {σ : Type} (regular : Regular clock) (api : SearchApi)
    (transport : Exchange.Transport σ) (elapsed : Int) (qid : String) (store : Store)
    (session : Exchange.Session σ) (hurl : OneLine api.url.toList) (hqid : OneLine qid.toList)
    (htext : ∀ query, store.query? qid = some query → OneLine query.text.toList) :
    ShownLoad clock api transport elapsed qid store session := by
  refine ⟨fun logged hlogged => ?_, fun url => isOneLine_duplicateRecord regular hqid,
    fun query results later => dropped_of_fetch⟩
  unfold logs at hlogged
  cases hquery : store.query? qid with
  | none =>
    have hfront : OneLine "Unknown query id '".toList := by decide
    have hback : OneLine "'".toList := by decide
    simp only [hquery, List.mem_singleton] at hlogged
    subst hlogged
    refine .inl (isOneLine_note regular ?_)
    simp only [String.toList_append, Text.oneLine_append]
    exact ⟨⟨hfront, hqid⟩, hback⟩
  | some query =>
    have hname := Store.qid_eq_of_query? hquery
    simp only [hquery] at hlogged
    split at hlogged
    · obtain (rfl | hsearch) | hfound := (List.mem_append.mp hlogged).imp_left List.mem_cons.mp
      · have hfront : OneLine "Performing Stract API search for: '".toList := by decide
        have hback : OneLine "'".toList := by decide
        refine .inl (SearchApi.isOneLine_note regular ?_)
        simp only [String.toList_append, Text.oneLine_append]
        exact ⟨⟨hfront, htext query hquery⟩, hback⟩
      · have hone := api.isOneLine_of_search regular transport query.text session hurl
        exact .inl (hone logged hsearch)
      · split at hfound
        · next records hresult =>
          have hcases := isOneLine_of_foundLogs regular query elapsed store (hname ▸ hqid) hfound
          refine hcases.imp_right ?_
          rintro ⟨url, hrepeats, hrecord, hbreak⟩
          exact ⟨query, records, url, rfl, hresult, hrepeats, hname ▸ hrecord, hbreak⟩
        · exact absurd hfound List.not_mem_nil
    · exact absurd hlogged List.not_mem_nil

end View

namespace LogRecord

/-- A record with attributes of distinct printable names shows them on the line of its base text,
unless one of them hides the way to the message: then it has no line. No answer to a call or a
search adds a line, and one to a load does so only by an address that it has again and that shows a
line break. -/
theorem context_adds_no_line (record : LogRecord) (clock : Option Clock)
    (distinct : (record.extras.map Prod.fst).Nodup)
    (printable : ∀ extra ∈ record.extras, AllPrintable extra.1.toList) :
    ("getMessage" ∉ record.extras.map Prod.fst → ∃ items, Shows clock record items) ∧
      ("getMessage" ∈ record.extras.map Prod.fst → record.line clock = .error .wrongKind) ∧
      (Regular clock →
        (∀ {σ : Type} (client : Exchange.Client) (transport : Exchange.Transport σ)
          (call : Exchange.Call) (session : Exchange.Session σ), OneLine call.url.toList →
            ∀ logged ∈ (client.send transport call session).1.logs, logged.IsOneLine clock) ∧
        (∀ {σ : Type} (api : SearchApi) (transport : Exchange.Transport σ) (query : String)
          (session : Exchange.Session σ), OneLine api.url.toList →
            ∀ logged ∈ (api.search transport query session).1.logs, logged.IsOneLine clock) ∧
        ∀ {σ : Type} (api : SearchApi) (transport : Exchange.Transport σ) (elapsed : Int)
          (qid : String) (store : Store) (session : Exchange.Session σ), OneLine api.url.toList →
            OneLine qid.toList →
            (∀ query, store.query? qid = some query → OneLine query.text.toList) →
            View.ShownLoad clock api transport elapsed qid store session) := by
  refine ⟨fun getter => ⟨_, shows_shown clock distinct printable getter⟩, line_of_getter,
    fun regular => ⟨?_, ?_, ?_⟩⟩
  · exact fun client transport call session =>
      client.isOneLine_of_send regular transport call session
  · exact fun api transport query session => api.isOneLine_of_search regular transport query session
  · exact fun api transport elapsed qid store session =>
      View.shownLoad_logs regular api transport elapsed qid store session

/-- A record about an answer that looks like further lines of the log. -/
def forgedRecord : LogRecord := ⟨"a", "INFO", "m", [("response", .text "no\r\nINFO a: m"),
  ("detail", .object [(.text "'\n", .list [.text "\"\t", .unpaired ⟨[0x2028, 0xd800, 0xa],
    by decide⟩])])]⟩

theorem regular_none : Regular none := ⟨[], rfl, by decide⟩

theorem forgedRecord_shown :
    (forgedRecord.extras.map Prod.fst).Nodup ∧
      (∀ extra ∈ forgedRecord.extras, AllPrintable extra.1.toList) ∧
      "getMessage" ∉ forgedRecord.extras.map Prod.fst ∧ Regular none ∧
      (∃ items, Shows none forgedRecord items) ∧ forgedRecord.IsOneLine none := by
  have hshown : ∃ items, Shows none forgedRecord items :=
    (context_adds_no_line forgedRecord none (by decide) (by decide)).1 (by decide)
  obtain ⟨items, hshows⟩ := hshown
  have hbase : forgedRecord.bare.line none = .ok forgedRecord.base := hshows.base (by decide)
  have honeLine : forgedRecord.IsOneLine none :=
    hshows.oneLine.mpr ⟨forgedRecord.base, hbase, by decide⟩
  exact ⟨by decide, by decide, by decide, regular_none, ⟨items, hshows⟩, honeLine⟩

/-- A record with an attribute that hides the way to its message. -/
def getterRecord : LogRecord := ⟨"a", "INFO", "m", [("getMessage", .text "x")]⟩

/-- A success with one webpage twice, at an address with a line break. -/
def repeatedResponse : Exchange.Response := ⟨200, [], Encoding.toUtf8
  "\x7b\"webpages\":[\x7b\"url\":\"a\\nb\"\x7d,\x7b\"url\":\"a\\nb\"\x7d]\x7d".toList⟩

/-- A base text is on one line and its attribute is printable, and still nothing is shown. And a
response adds a line to the log by an address that it has again. -/
theorem getterRecord_not_shown :
    (getterRecord.extras.map Prod.fst).Nodup ∧
      (∀ extra ∈ getterRecord.extras, AllPrintable extra.1.toList ∧ extra.1 ∉ reserved) ∧
      getterRecord.bare.line none = .ok "INFO a: m" ∧ OneLine "INFO a: m".toList ∧
      getterRecord.line none = .error .wrongKind ∧ (¬∃ items, Shows none getterRecord items) ∧
      ∃ logged ∈ View.logs View.plainApi Exchange.scripted 0 "q" View.unviewed
        ⟨[], 0, [.ok repeatedResponse]⟩, ¬logged.IsOneLine none := by
  have hline : getterRecord.line none = .error .wrongKind := rfl
  have hbase : getterRecord.base = "INFO a: m" := by decide
  have hbare : getterRecord.bare.line none = .ok "INFO a: m" := by
    rw [bare_line (by decide), ← hbase]
    rfl
  have hlogged : View.duplicateRecord "q" (.text "a\nb") ∈ View.logs View.plainApi
      Exchange.scripted 0 "q" View.unviewed ⟨[], 0, [.ok repeatedResponse]⟩ := by
    decide +kernel
  have htwo : ¬(View.duplicateRecord "q" (.text "a\nb")).IsOneLine none := by
    rw [View.isOneLine_duplicateRecord regular_none (by decide)]
    decide
  refine ⟨by decide, by decide, hbare, by decide, hline, fun ⟨items, hshows⟩ => ?_,
    ⟨_, hlogged, htwo⟩⟩
  have hshown := hshows.line getterRecord.extras (List.Perm.refl _)
  rw [hbare] at hshown
  exact nomatch hline.symm.trans hshown

end LogRecord

end SearchAnnotation
