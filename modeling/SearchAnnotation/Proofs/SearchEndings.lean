import SearchAnnotation.Proofs.CallEndings
import SearchAnnotation.Provider.SearchApi

/-!
# How searches end

A search ends with the list of webpages of the final object, unchanged and with nothing logged, or
with a fault that is logged once, be it one of its call or one of an answer without such a list.
The exceptions are those of its call.
-/

namespace SearchAnnotation

open Exchange (CallFault Client Jar Reply Report Request Session Transport)
open Exchange.Client (Answered Decided Escapes Mapped Sendable)

/-- Whether a fault is one of those that a provider is meant to end with. -/
def SearchFault.isMapped : SearchFault → Bool
  | call why => why.isMapped
  | noWebpages _ | failed _ => true
  | shape _ => false

namespace SearchApi

/-- How a search is meant to end: with the list of webpages of the final object and nothing logged,
or with a fault that is logged once. -/
inductive Searched (api : SearchApi) (query : String) (exhausted : Prop)
    (last : Request) (reply : Reply) :
    Except SearchFault Value → List LogRecord → Prop where
  /-- The final object has a list of webpages. -/
  | webpages {answer : Value} {items : List Value} :
      Mapped api.client (api.call query) exhausted last reply (.ok answer) [] →
      webpages? answer = some items →
      Searched api query exhausted last reply (.ok (.list items)) []
  /-- The final value is no object with a list of webpages. -/
  | missing {answer : Value} :
      Mapped api.client (api.call query) exhausted last reply (.ok answer) [] →
      webpages? answer = none →
      Searched api query exhausted last reply (.error (.noWebpages query))
        [missingRecord query answer]
  /-- The call ends with a fault. -/
  | faulty {fault : CallFault} {record : LogRecord} :
      Mapped api.client (api.call query) exhausted last reply (.error fault) [record] →
      Searched api query exhausted last reply (.error (.call fault)) [record]

/-- What is known of the end of a search by its last request and the reply to it. -/
structure SearchDecided (api : SearchApi) (query : String) (exhausted : Prop) (now : Int)
    (jar : Jar) (last : Request) (reply : Reply)
    (result : Except SearchFault Value) (logs : List LogRecord) : Prop where
  /-- The search ends as it is meant to unless the reply escapes. -/
  searched_iff : Searched api query exhausted last reply result logs ↔
    ¬Escapes api.client (api.call query) now jar last reply
  /-- A reply that escapes leaves a fault that no search is meant to end with, and is not
  logged. -/
  escaped : Escapes api.client (api.call query) now jar last reply → logs = [] ∧
    ∃ fault, result = .error (.call fault) ∧ fault.isMapped = false

section Endings

variable {api : SearchApi} {query : String} {exhausted : Prop} {now : Int} {jar : Jar}
  {last : Request} {reply : Reply} {result : Except SearchFault Value} {logs : List LogRecord}

/-- A search that ends as it is meant to logs its fault once, and its webpages not at all. -/
theorem Searched.logs_eq (h : Searched api query exhausted last reply result logs) :
    (∃ items, result = .ok (.list items) ∧ logs = []) ∨
      ∃ fault record, result = .error fault ∧ fault.isMapped = true ∧ logs = [record] ∧
        record.level = "ERROR" := by
  cases h with
  | webpages _ _ => exact .inl ⟨_, rfl, rfl⟩
  | missing _ _ => exact .inr ⟨_, _, rfl, rfl, rfl, rfl⟩
  | faulty h =>
    rcases h.logs_eq with ⟨value, hvalue, -⟩ | ⟨fault, record, hfault, hmapped, hlogs, hlevel⟩
    · cases hvalue
    · cases hfault
      cases hlogs
      exact .inr ⟨_, _, rfl, hmapped, rfl, hlevel⟩

/-- A search that gives anything gives a list, and its last reply does not escape. -/
theorem SearchDecided.listed (h : SearchDecided api query exhausted now jar last reply result logs)
    {answer : Value} (hok : result = .ok answer) :
    ¬Escapes api.client (api.call query) now jar last reply ∧
      ∃ records, answer = .list records := by
  have hfree : ¬Escapes api.client (api.call query) now jar last reply := by
    intro escapes
    obtain ⟨-, fault, hfault, -⟩ := h.escaped escapes
    rw [hok] at hfault
    cases hfault
  refine ⟨hfree, ?_⟩
  rcases (h.searched_iff.mpr hfree).logs_eq with ⟨items, hitems, -⟩ | ⟨fault, -, hfault, -⟩
  · rw [hok] at hitems
    cases hitems
    exact ⟨items, rfl⟩
  · rw [hok] at hfault
    cases hfault

/-- The fault of a search is one that a provider is meant to end with unless the last reply
escapes. -/
theorem SearchDecided.isMapped_iff
    (h : SearchDecided api query exhausted now jar last reply result logs) {why : SearchFault}
    (hwhy : result = .error why) :
    why.isMapped = true ↔ ¬Escapes api.client (api.call query) now jar last reply := by
  constructor
  · intro hmapped escapes
    obtain ⟨-, fault, hfault, hunmapped⟩ := h.escaped escapes
    rw [hwhy] at hfault
    cases hfault
    rw [SearchFault.isMapped, hunmapped] at hmapped
    cases hmapped
  · intro hfree
    rcases (h.searched_iff.mpr hfree).logs_eq with
      ⟨items, hitems, -⟩ | ⟨fault, -, hfault, hmapped, -⟩
    · rw [hwhy] at hitems
      cases hitems
    · rw [hwhy] at hfault
      cases hfault
      exact hmapped

end Endings

/-- What a search makes of the end of its call. -/
def judge (query : String) (result : Except CallFault Value) (logs : List LogRecord) :
    Except SearchFault Value × List LogRecord :=
  match result with
  | .error why => (.error (.call why), logs)
  | .ok answer =>
    match webpages? answer with
    | some items => (.ok (.list items), logs)
    | none => (.error (.noWebpages query), logs ++ [missingRecord query answer])

theorem search_eq_judge {σ : Type} {api : SearchApi} {transport : Transport σ} {query : String}
    {session later : Session σ} {report : Report CallFault}
    (h : api.client.send transport (api.call query) session = (report, later)) :
    api.search transport query session =
      (⟨(judge query report.result report.logs).1, report.requests,
        (judge query report.result report.logs).2⟩, later) := by
  obtain ⟨result, requests, logs⟩ := report
  unfold search judge
  rw [h]
  cases result with
  | error why => rfl
  | ok answer =>
    dsimp only
    cases webpages? answer with
    | some items => rfl
    | none => rfl

/-- The reply that decides the end of a call decides that of its search. -/
theorem decided_judge {api : SearchApi} {query : String} {exhausted : Prop} {now : Int} {jar : Jar}
    {last : Request} {reply : Reply} {result : Except CallFault Value} {logs : List LogRecord}
    (h : Decided api.client (api.call query) exhausted now jar last reply result logs) :
    SearchDecided api query exhausted now jar last reply (judge query result logs).1
      (judge query result logs).2 := by
  have hescaped : Escapes api.client (api.call query) now jar last reply →
      (judge query result logs).2 = [] ∧
        ∃ fault, (judge query result logs).1 = .error (.call fault) ∧ fault.isMapped = false := by
    intro escapes
    obtain ⟨hlogs, fault, hresult, hfault⟩ := h.escaped escapes
    rw [hlogs, hresult]
    exact ⟨rfl, fault, rfl, hfault⟩
  refine ⟨⟨fun searched escapes => ?_, fun hfree => ?_⟩, hescaped⟩
  · obtain ⟨hlogs, fault, hresult, -⟩ := hescaped escapes
    rcases searched.logs_eq with ⟨items, hitems, -⟩ | ⟨other, record, -, -, hrecord, -⟩
    · rw [hresult] at hitems
      cases hitems
    · rw [hlogs] at hrecord
      cases hrecord
  · have mapped := h.mapped_iff.mpr hfree
    rcases mapped.logs_eq with ⟨answer, rfl, rfl⟩ | ⟨fault, record, rfl, -, rfl, -⟩
    · unfold judge
      cases hpages : webpages? answer with
      | some items =>
        simp only [hpages]
        exact .webpages mapped hpages
      | none =>
        simp only [hpages]
        exact .missing mapped hpages
    · exact .faulty mapped

/-- A search whose request can be sent sends at most twenty-one, and the reply to the last of them
decides its end. -/
theorem decided_search {σ : Type} (api : SearchApi) (transport : Transport σ) (query : String)
    (jar : Jar) (now : Int) (source : σ) {request : Request}
    (built : api.client.request jar (api.call query) = .ok request)
    (sendable : Sendable request) :
    ∃ report session last reply before,
      api.search transport.noted query ⟨jar, now, source, []⟩ = (report, session) ∧
        Answered report.requests session.transport.2 last reply ∧
        SearchDecided api query (report.requests.length = 21) now before last reply
          report.result report.logs := by
  obtain ⟨report, session, last, reply, before, hsend, hanswered, hdecided⟩ :=
    Client.decided_send api.client transport (api.call query) jar now source built sendable
  exact ⟨_, session, last, reply, before, search_eq_judge hsend, hanswered,
    decided_judge hdecided⟩

end SearchApi

namespace Exchange

/-- However a transport answers, the last reply decides the end of every call and of every search
whose request can be sent: each sends at most twenty-one requests and ends as it is meant to
exactly if that reply does not escape. -/
theorem last_reply_decides {σ : Type} (transport : Transport σ) (jar : Jar) (now : Int)
    (source : σ) :
    (∀ (client : Client) (call : Call) (request : Request),
      client.request jar call = .ok request → Sendable request →
      ∃ report session last reply before,
        client.send transport.noted call ⟨jar, now, source, []⟩ = (report, session) ∧
          Answered report.requests session.transport.2 last reply ∧
          Decided client call (report.requests.length = 21) now before last reply
            report.result report.logs) ∧
      ∀ (api : SearchApi) (query : String) (request : Request),
        api.client.request jar (api.call query) = .ok request → Sendable request →
        ∃ report session last reply before,
          api.search transport.noted query ⟨jar, now, source, []⟩ = (report, session) ∧
            Answered report.requests session.transport.2 last reply ∧
            api.SearchDecided query (report.requests.length = 21) now before last reply
              report.result report.logs :=
  ⟨fun client call _ built sendable =>
      Client.decided_send client transport call jar now source built sendable,
    fun api query _ built sendable =>
      api.decided_search transport query jar now source built sendable⟩

/-- A client without a base. -/
def plainClient : Client :=
  ⟨"", ⟨[], [], [], none, ['/'], none, none⟩, Client.ownHeaders, Client.defaultTimeout, 9⟩

/-- A call that asks for JSON. -/
def plainCall : Call := ⟨.get, "https://h.example", none, none, [], true⟩

/-- The request of that call. -/
def plainRequest : Request :=
  ⟨.get, ⟨"https".toList, [], "h.example".toList, none, [], none, none⟩,
    [("accept", "application/json")], none⟩

theorem request_plainCall : plainClient.request [] plainCall = .ok plainRequest := rfl

theorem sendable_plainRequest : Sendable plainRequest := ⟨_, rfl⟩

/-- The reply to a call decides its end, here that of one that is answered with an empty list. -/
theorem plain_call_decided :
    plainClient.request [] plainCall = .ok plainRequest ∧ Sendable plainRequest ∧
      ∃ report session last reply before,
        plainClient.send (Transport.noted scripted) plainCall
            ⟨[], 0, [.ok ⟨200, [], [0x5b, 0x5d]⟩], []⟩ = (report, session) ∧
          Answered report.requests session.transport.2 last reply ∧
          Decided plainClient plainCall (report.requests.length = 21) 0 before last reply
            report.result report.logs :=
  ⟨request_plainCall, sendable_plainRequest,
    (last_reply_decides scripted [] 0 [.ok ⟨200, [], [0x5b, 0x5d]⟩]).1 plainClient plainCall
      plainRequest request_plainCall sendable_plainRequest⟩

/-- A success that names a character set of two octets and does not say in which order they
come. -/
def unmarkedResponse : Response :=
  ⟨200, [("content-type", "text/plain; charset=utf-16")], [0x41, 0]⟩

theorem readOctets_unmarkedResponse :
    Json.readOctets plainClient.nesting unmarkedResponse.body =
      .error (.unreadable .malformed) := by
  have hsigns : Json.signsOfOctets unmarkedResponse.body = some [.char 'A'] := by
    decide +kernel
  rw [Json.readOctets, hsigns]
  rfl

/-- A call for JSON that is answered with a success without JSON can end with a fault that no call
is meant to end with, and nothing is logged: here the beginning of the answer cannot be decoded for
the log. -/
theorem unmarked_response_is_not_mapped :
    unmarkedResponse.isSuccess = true ∧
      Json.readOctets plainClient.nesting unmarkedResponse.body =
          .error (.unreadable .malformed) ∧
      ∃ fault session, plainClient.send scripted plainCall ⟨[], 0, [.ok unmarkedResponse]⟩ =
        (⟨.error fault, [plainRequest], []⟩, session) ∧ fault.isMapped = false := by
  have hstep : ∃ session, Client.step scripted plainRequest ⟨[], 0, [.ok unmarkedResponse]⟩ =
      (.error (.final plainRequest unmarkedResponse), [plainRequest], session) := ⟨_, rfl⟩
  obtain ⟨session, hstep⟩ := hstep
  have hmalformed : Json.OctetsFault.unreadable .malformed ≠ .unreadable .tooDeep := by decide
  have hcodes : unmarkedResponse.codes = .error .unmarked := rfl
  have hconclude : plainClient.conclude plainCall (.final plainRequest unmarkedResponse) =
      (.error (.undecodable .unmarked), []) := by
    rw [Client.conclude_of_notJson rfl rfl readOctets_unmarkedResponse hmalformed,
      Client.refused_of_refusal hcodes]
  refine ⟨rfl, readOctets_unmarkedResponse, .undecodable .unmarked, session, ?_, rfl⟩
  rw [Client.send_of_step request_plainCall hstep, hconclude]

end Exchange

end SearchAnnotation
