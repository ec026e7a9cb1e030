import SearchAnnotation.Proofs.RedirectTrails

/-!
# How calls end

A call is meant to end with the value of a final success or with one of three faults, each logged
once. Its last reply decides whether it does. The exceptions are replies whose text cannot be
decoded although it is asked for or is to be logged, JSON that is nested too deeply, and redirects
to addresses that no request can be sent to: these leave the client with another fault and are not
logged.
-/

namespace SearchAnnotation

namespace Exchange

/-- Whether a fault is one of those that a call is meant to end with. -/
def CallFault.isMapped : CallFault → Bool
  | network _ | status _ | notJson _ => true
  | _ => false

namespace Client

/-- Whether a reply holds the final response of an exchange. -/
def Final (reply : Reply) (response : Response) : Prop :=
  ∃ raw, reply = .ok raw ∧ raw.location? = none ∧ raw.decoded = .ok response

/-- Why an exchange fails on the way, by its last reply. -/
inductive Fails (exhausted : Prop) (reply : Reply) : String → Prop where
  /-- The request fails. -/
  | underway {explanation : String} : reply = .error explanation →
      Fails exhausted reply explanation
  /-- The codings of the body cannot be undone. -/
  | garbled {response : Response} {why : Compression.Fault} : reply = .ok response →
      response.decoded = .error why → Fails exhausted reply why.message
  /-- The response redirects to what is no address. -/
  | misled {response : Response} {location : String} {why : AddressFault} :
      reply = .ok response → response.location? = some location →
      Address.read location.toList = .error why →
      Fails exhausted reply ("Invalid URL in location header: " ++ why.message ++ ".")
  /-- The response redirects once too often. -/
  | exhausted {response : Response} {location : String} : exhausted →
      reply = .ok response → response.location? = some location →
      Fails exhausted reply "Exceeded maximum allowed redirects."

/-- Whether the text of a final response is asked for or is to be logged. -/
def NeedsText (client : Client) (call : Call) (response : Response) : Prop :=
  response.isSuccess = false ∨ call.wantsJson = false ∨
    ∃ fault, Json.readOctets client.nesting response.body = .error fault ∧
      fault ≠ .unreadable .tooDeep

/-- How a call is meant to end, by its last request and the reply to it: with a value and nothing
logged, or with a fault that is logged once. -/
inductive Mapped (client : Client) (call : Call) (exhausted : Prop) (last : Request)
    (reply : Reply) :
    Except CallFault Value → List LogRecord → Prop where
  /-- JSON is asked for, and the final response is a success and holds a value. -/
  | json {response : Response} {value : Value} : Final reply response →
      response.isSuccess = true → call.wantsJson = true →
      Json.readOctets client.nesting response.body = .ok value →
      Mapped client call exhausted last reply (.ok value) []
  /-- Text is asked for, and the final response is a success. -/
  | text {response : Response} {text : Value} : Final reply response →
      response.isSuccess = true → call.wantsJson = false → response.text = .ok text →
      Mapped client call exhausted last reply (.ok text) []
  /-- The exchange fails on the way. -/
  | network {explanation : String} : Fails exhausted reply explanation →
      Mapped client call exhausted last reply (.error (.network explanation))
        [record ("Network Error: " ++ call.method.name ++ " " ++ call.url)
          [("error", .text explanation)]]
  /-- The final response is no success. -/
  | status {response : Response} {excerpt : Value} : Final reply response →
      response.isSuccess = false → response.excerpt = .ok excerpt →
      Mapped client call exhausted last reply (.error (.status response.status))
        [record ("HTTP " ++ call.method.name ++ " " ++ toString response.status)
          [("url", .text last.url), ("response", excerpt)]]
  /-- JSON is asked for, and the final response is a success and holds none. -/
  | notJson {response : Response} {excerpt : Value} {why : Json.OctetsFault} :
      Final reply response → response.isSuccess = true → call.wantsJson = true →
      Json.readOctets client.nesting response.body = .error why → why ≠ .unreadable .tooDeep →
      response.excerpt = .ok excerpt →
      Mapped client call exhausted last reply (.error (.notJson call.url))
        [record ("Invalid JSON from " ++ call.method.name ++ " " ++ call.url)
          [("response", excerpt)]]

/-- The replies after which a call ends otherwise, by the cookies before the last request. -/
inductive Escapes (client : Client) (call : Call) (now : Int) (jar : Jar) (last : Request)
    (reply : Reply) : Prop where
  /-- The address of the last request has no scheme. -/
  | unplaced {response : Response} : reply = .ok response → last.place? = none →
      Escapes client call now jar last reply
  /-- The response redirects to an address, but no request can be sent there. -/
  | astray {response : Response} {place : Place} {location : String} {target : Address}
      {why : RedirectFault} :
      reply = .ok response → last.place? = some place →
      response.location? = some location → Address.read location.toList = .ok target →
      last.redirected (jar.store now place response.headers) response.status location =
        .error why →
      Escapes client call now jar last reply
  /-- The text of the final response is needed and cannot be decoded. -/
  | undecodable {response : Response} {why : Encoding.Refusal} : Final reply response →
      NeedsText client call response → response.codes = .error why →
      Escapes client call now jar last reply
  /-- The JSON of the final success is nested too deeply. -/
  | tooDeep {response : Response} : Final reply response → response.isSuccess = true →
      call.wantsJson = true →
      Json.readOctets client.nesting response.body = .error (.unreadable .tooDeep) →
      Escapes client call now jar last reply

variable {client : Client} {call : Call} {exhausted : Prop} {now : Int} {jar shelf : Jar}
  {last : Request} {reply : Reply} {ending : Ending} {result : Except CallFault Value}
  {logs : List LogRecord}

/-- A call that ends as it is meant to logs its fault once, and a value not at all. -/
theorem Mapped.logs_eq (h : Mapped client call exhausted last reply result logs) :
    (∃ value, result = .ok value ∧ logs = []) ∨
      ∃ fault record, result = .error fault ∧ fault.isMapped = true ∧ logs = [record] ∧
        record.level = "ERROR" := by
  cases h with
  | json _ _ _ _ => exact .inl ⟨_, rfl, rfl⟩
  | text _ _ _ _ => exact .inl ⟨_, rfl, rfl⟩
  | network _ => exact .inr ⟨_, _, rfl, rfl, rfl, rfl⟩
  | status _ _ _ => exact .inr ⟨_, _, rfl, rfl, rfl, rfl⟩
  | notJson _ _ _ _ _ _ => exact .inr ⟨_, _, rfl, rfl, rfl, rfl⟩

section Concluding

variable {response : Response} {codes : List Nat} {refusal : Encoding.Refusal} {fault : CallFault}
  {message : String} {extras : Attributes}

theorem excerpt_of_codes (h : response.codes = .ok codes) :
    response.excerpt = .ok (Value.ofCodes (codes.take 200)) := by
  rw [Response.excerpt, h]
  rfl

theorem refused_of_codes (h : response.codes = .ok codes) :
    refused response fault message extras = (.error fault,
      [record message (extras ++ [("response", Value.ofCodes (codes.take 200))])]) := by
  rw [refused, excerpt_of_codes h]

theorem refused_of_refusal (h : response.codes = .error refusal) :
    refused response fault message extras = (.error (.undecodable refusal), []) := by
  have hexcerpt : response.excerpt = .error refusal := by
    rw [Response.excerpt, h]
    rfl
  rw [refused, hexcerpt]

theorem conclude_of_failure (h : response.isSuccess = false) :
    client.conclude call (.final last response) = refused response (.status response.status)
      ("HTTP " ++ call.method.name ++ " " ++ toString response.status)
      [("url", .text last.url)] := by
  rw [conclude, h]
  rfl

theorem conclude_of_text (h : response.isSuccess = true) (htext : call.wantsJson = false) :
    client.conclude call (.final last response) =
      match response.text with
      | .ok text => (.ok text, [])
      | .error refusal => (.error (.undecodable refusal), []) := by
  rw [conclude, h, htext]
  rfl

theorem conclude_of_json {value : Value} (h : response.isSuccess = true)
    (hjson : call.wantsJson = true)
    (hread : Json.readOctets client.nesting response.body = .ok value) :
    client.conclude call (.final last response) = (.ok value, []) := by
  rw [conclude, h, hjson, hread]
  rfl

theorem conclude_of_tooDeep (h : response.isSuccess = true) (hjson : call.wantsJson = true)
    (hread : Json.readOctets client.nesting response.body = .error (.unreadable .tooDeep)) :
    client.conclude call (.final last response) = (.error .tooDeep, []) := by
  rw [conclude, h, hjson, hread]
  rfl

theorem conclude_of_notJson {why : Json.OctetsFault} (h : response.isSuccess = true)
    (hjson : call.wantsJson = true)
    (hread : Json.readOctets client.nesting response.body = .error why)
    (hdeep : why ≠ .unreadable .tooDeep) :
    client.conclude call (.final last response) = refused response (.notJson call.url)
      ("Invalid JSON from " ++ call.method.name ++ " " ++ call.url) [] := by
  rw [conclude, h, hjson, hread]
  match why with
  | .undecodable => rfl
  | .unreadable .malformed => rfl
  | .unreadable .tooLong => rfl
  | .unreadable .tooDeep => exact absurd rfl hdeep

/-- A final response is concluded as it is meant to be unless its text is needed and cannot be
decoded, or its JSON is nested too deeply. -/
theorem mapped_or_escapes_of_final (h : Final reply response) :
    Mapped client call exhausted last reply (client.conclude call (.final last response)).1
        (client.conclude call (.final last response)).2 ∨
      Escapes client call now jar last reply := by
  cases hsuccess : response.isSuccess with
  | false =>
    rw [conclude_of_failure hsuccess]
    cases hcodes : response.codes with
    | error refusal => exact .inr (.undecodable h (.inl hsuccess) hcodes)
    | ok codes =>
      rw [refused_of_codes hcodes]
      exact .inl (.status h hsuccess (excerpt_of_codes hcodes))
  | true =>
    cases hjson : call.wantsJson with
    | false =>
      rw [conclude_of_text hsuccess hjson]
      cases hcodes : response.codes with
      | error refusal => exact .inr (.undecodable h (.inr (.inl hjson)) hcodes)
      | ok codes =>
        have htext : response.text = .ok (Value.ofCodes codes) := by
          rw [Response.text, hcodes]
          rfl
        rw [htext]
        exact .inl (.text h hsuccess hjson htext)
    | true =>
      cases hread : Json.readOctets client.nesting response.body with
      | ok value =>
        rw [conclude_of_json hsuccess hjson hread]
        exact .inl (.json h hsuccess hjson hread)
      | error why =>
        by_cases hdeep : why = .unreadable .tooDeep
        · exact .inr (.tooDeep h hsuccess hjson (hdeep ▸ hread))
        · rw [conclude_of_notJson hsuccess hjson hread hdeep]
          cases hcodes : response.codes with
          | error refusal => exact .inr (.undecodable h (.inr (.inr ⟨why, hread, hdeep⟩)) hcodes)
          | ok codes =>
            rw [refused_of_codes hcodes]
            exact .inl (.notJson h hsuccess hjson hread hdeep (excerpt_of_codes hcodes))

/-- A needed text that cannot be decoded leaves a fault of its own, and nothing is logged. -/
theorem conclude_of_refusal (needed : NeedsText client call response)
    (h : response.codes = .error refusal) :
    client.conclude call (.final last response) = (.error (.undecodable refusal), []) := by
  cases hsuccess : response.isSuccess with
  | false => rw [conclude_of_failure hsuccess, refused_of_refusal h]
  | true =>
    cases hjson : call.wantsJson with
    | false =>
      have htext : response.text = .error refusal := by
        rw [Response.text, h]
        rfl
      rw [conclude_of_text hsuccess hjson, htext]
    | true =>
      rcases needed with hfail | hfail | ⟨why, hread, hdeep⟩
      · rw [hsuccess] at hfail
        cases hfail
      · rw [hjson] at hfail
        cases hfail
      · rw [conclude_of_notJson hsuccess hjson hread hdeep, refused_of_refusal h]

end Concluding

/-- A last reply is concluded as it is meant to be, or it is one of those that escape. -/
theorem mapped_or_escapes (h : react now jar last reply = (.error ending, shelf)) :
    Mapped client call exhausted last reply (client.conclude call ending).1
        (client.conclude call ending).2 ∨
      Escapes client call now jar last reply := by
  cases reaction_of_react h with
  | failed => exact .inl (.network (.underway rfl))
  | unplaced hplace => exact .inr (.unplaced rfl hplace)
  | garbled _ hbody => exact .inl (.network (.garbled rfl hbody))
  | final _ hlocation hbody => exact mapped_or_escapes_of_final ⟨_, rfl, hlocation, hbody⟩
  | astray hplace hlocation hwhy =>
    next response place location why =>
    cases hread : Address.read location.toList with
    | error fault =>
      rw [redirected_of_unread hread] at hwhy
      cases hwhy
      exact .inl (.network (.misled rfl hlocation hread))
    | ok target => exact .inr (.astray rfl hplace hlocation hread hwhy)

/-- One redirect too many is concluded as a failure on the way. -/
theorem mapped_of_exceeded {next : Request} (overrun : exhausted)
    (h : react now jar last reply = (.ok next, shelf)) :
    Mapped client call exhausted last reply (client.conclude call exceeded).1
      (client.conclude call exceeded).2 := by
  cases reaction_of_react h with
  | onward _ hlocation _ _ => exact .network (.exhausted overrun rfl hlocation)

theorem stopped_of_isAstray {why : RedirectFault} (h : why.isAstray = true) :
    ∃ fault, redirectEnding why = .stopped fault ∧ fault.isMapped = false := by
  cases why with
  | location why => cases h
  | combined why => exact ⟨_, rfl, rfl⟩
  | label why => exact ⟨_, rfl, rfl⟩
  | noPlace => exact ⟨_, rfl, rfl⟩

/-- A final response ends the exchange, if need be because the request has no place. -/
theorem outcome_of_final {response : Response} {outcome : Except Ending Request}
    (final : Final reply response) (h : react now jar last reply = (outcome, shelf)) :
    outcome = .error (.final last response) ∨ outcome = .error (.stopped .noScheme) := by
  obtain ⟨raw, rfl, hlocation, hbody⟩ := final
  cases hplace : last.place? with
  | none =>
    simp only [react, hplace] at h
    exact .inr (Prod.mk.inj h).1.symm
  | some place =>
    simp only [react, hplace, reactToResponse, hlocation, hbody] at h
    exact .inl (Prod.mk.inj h).1.symm

/-- A last reply that escapes ends the exchange, and its call with a fault that no call is meant to
end with. -/
theorem conclude_of_escapes {outcome : Except Ending Request}
    (escapes : Escapes client call now jar last reply)
    (h : react now jar last reply = (outcome, shelf)) :
    ∃ ending fault, outcome = .error ending ∧
      client.conclude call ending = (.error fault, []) ∧ fault.isMapped = false := by
  cases escapes with
  | unplaced hreply hplace =>
    subst hreply
    simp only [react, hplace] at h
    exact ⟨_, _, (Prod.mk.inj h).1.symm, rfl, rfl⟩
  | astray hreply hplace hlocation hread hwhy =>
    obtain ⟨fault, hstopped, hfault⟩ := stopped_of_isAstray (isAstray_of_redirected hread hwhy)
    subst hreply
    simp only [react, hplace, reactToResponse, hlocation, hwhy, hstopped] at h
    exact ⟨_, fault, (Prod.mk.inj h).1.symm, rfl, hfault⟩
  | undecodable hfinal needed hcodes =>
    rcases outcome_of_final hfinal h with rfl | rfl
    · exact ⟨_, _, rfl, conclude_of_refusal needed hcodes, rfl⟩
    · exact ⟨_, _, rfl, rfl, rfl⟩
  | tooDeep hfinal hsuccess hjson hread =>
    rcases outcome_of_final hfinal h with rfl | rfl
    · exact ⟨_, _, rfl, conclude_of_tooDeep hsuccess hjson hread, rfl⟩
    · exact ⟨_, _, rfl, rfl, rfl⟩

/-- What is known of the end of a call by its last request and the reply to it. -/
structure Decided (client : Client) (call : Call) (exhausted : Prop) (now : Int) (jar : Jar)
    (last : Request) (reply : Reply) (result : Except CallFault Value) (logs : List LogRecord) :
    Prop where
  /-- The call ends as it is meant to unless the reply escapes. -/
  mapped_iff : Mapped client call exhausted last reply result logs ↔
    ¬Escapes client call now jar last reply
  /-- A reply that escapes leaves a fault that no call is meant to end with, and is not logged. -/
  escaped : Escapes client call now jar last reply → logs = [] ∧
    ∃ fault, result = .error fault ∧ fault.isMapped = false

/-- The last reply decides the end of a call, whether it ends the exchange or is one redirect too
many. -/
theorem decided_conclude (h : react now jar last reply = (.error ending, shelf) ∨
      ∃ next, react now jar last reply = (.ok next, shelf) ∧ exhausted ∧ ending = exceeded) :
    Decided client call exhausted now jar last reply (client.conclude call ending).1
      (client.conclude call ending).2 := by
  have hescaped : Escapes client call now jar last reply → (client.conclude call ending).2 = [] ∧
      ∃ fault, (client.conclude call ending).1 = .error fault ∧ fault.isMapped = false := by
    intro escapes
    rcases h with h | ⟨next, h, -, -⟩
    · obtain ⟨other, fault, hending, hconclude, hfault⟩ := conclude_of_escapes escapes h
      cases hending
      rw [hconclude]
      exact ⟨rfl, fault, rfl, hfault⟩
    · obtain ⟨other, fault, hending, -, -⟩ := conclude_of_escapes escapes h
      cases hending
  refine ⟨⟨fun mapped escapes => ?_, fun hfree => ?_⟩, hescaped⟩
  · obtain ⟨hlogs, fault, hresult, hfault⟩ := hescaped escapes
    rcases mapped.logs_eq with ⟨value, hvalue, -⟩ | ⟨other, record, -, -, hrecord, -⟩
    · rw [hresult] at hvalue
      cases hvalue
    · rw [hlogs] at hrecord
      cases hrecord
  · rcases h with h | ⟨next, h, overrun, rfl⟩
    · exact (mapped_or_escapes h).resolve_right hfree
    · exact mapped_of_exceeded overrun h

/-- What is known of the requests of an exchange and the replies to them. -/
structure Answered (requests : List Request) (replies : List Reply) (last : Request)
    (reply : Reply) : Prop where
  /-- This is the last request. -/
  last_eq : requests.getLast? = some last
  /-- This is the last reply. -/
  reply_eq : replies.getLast? = some reply
  /-- Each request has one reply. -/
  paired : requests.length = replies.length
  /-- There are at most twenty-one requests. -/
  bounded : requests.length ≤ 21

/-- A call whose first request ends the exchange ends with it. -/
theorem send_of_step {σ : Type} {client : Client} {transport : Transport σ}
    {session later : Session σ} {request : Request} {sent : List Request}
    (built : client.request session.jar call = .ok request)
    (h : step transport request session = (.error ending, sent, later)) :
    client.send transport call session =
      (⟨(client.conclude call ending).1, sent, (client.conclude call ending).2⟩, later) := by
  simp only [send, built, redirectLimit, follow, h]

/-- A call whose request can be sent sends at most twenty-one, and the reply to the last of them
decides its end. -/
theorem decided_send {σ : Type} (client : Client) (transport : Transport σ) (call : Call)
    (jar : Jar) (now : Int) (source : σ) {request : Request}
    (built : client.request jar call = .ok request) (sendable : Sendable request) :
    ∃ report session last reply before,
      client.send transport.noted call ⟨jar, now, source, []⟩ = (report, session) ∧
        Answered report.requests session.transport.2 last reply ∧
        Decided client call (report.requests.length = 21) now before last reply
          report.result report.logs := by
  obtain ⟨exchanges, ending, session, hfollow, hlog, htrail⟩ :=
    trail_follow transport redirectLimit now jar source [] sendable
  obtain ⟨front, last, reply, before, after, hfront, hlast⟩ := htrail.last
  have hrequests : exchanges.map Prod.fst = front.map Prod.fst ++ [last] := by
    rw [hfront, List.map_append, List.map_singleton]
  have hreplies : session.transport.2 = front.map Prod.snd ++ [reply] := by
    rw [hlog, hfront, List.map_append, List.map_singleton, List.nil_append]
  have hcount : (exchanges.map Prod.fst).length = front.length + 1 := by
    rw [hrequests, List.length_append, List.length_map, List.length_singleton]
  have hbound : exchanges.length ≤ 21 := htrail.length_le
  refine ⟨⟨(client.conclude call ending).1, exchanges.map Prod.fst,
    (client.conclude call ending).2⟩, session, last, reply, before, ?_, ⟨?_, ?_, ?_, ?_⟩, ?_⟩
  · simp only [send, built, hfollow]
  · rw [hrequests, List.getLast?_concat]
  · rw [hreplies, List.getLast?_concat]
  · rw [hlog, List.nil_append, List.length_map, List.length_map]
  · rw [List.length_map]
    exact hbound
  · refine decided_conclude (hlast.imp_right fun ⟨next, hnext, hlength, hending⟩ => ?_)
    refine ⟨next, hnext, ?_, hending⟩
    rw [hcount, hlength]
    rfl

end Client

end Exchange

end SearchAnnotation
