import SearchAnnotation.Proofs.UpstreamFaults

/-!
# The query in transit

A search posts the text of its query, and a redirect may lead the request elsewhere. Some redirects
repeat the request, and the query goes with it; the others turn it into one that reads, and the
query is given up for good. What is found then comes from the reply to a request that never asked
for it. Hence all requests of a search ask its query exactly if no redirect on the way is of the
second kind.
-/

namespace SearchAnnotation

open Exchange (Call CallFault Client Jar Method Reply Report Request Response Transport scripted)
open Exchange.Client (Answered Ending Escapes Final Mapped Reaction Sendable Trail)

namespace Exchange

/-- Whether a reply has the status of a redirect that gives up the body of the request. -/
def givesUp : Reply → Bool
  | .ok response => [301, 302, 303].contains response.status
  | .error _ => false

/-- Whether a request reads and sends nothing. -/
def Request.IsBare (request : Request) : Prop := request.method = .get ∧ request.body = none

/-- Whether a request sends a value. -/
def Request.Posts (request : Request) (value : Value) : Prop :=
  request.method = .post ∧ request.body = some value

variable {request next : Request} {jar : Jar} {value : Value}

/-- No request both sends a value and sends nothing. -/
theorem Request.IsBare.not_posts (h : request.IsBare) : ¬request.Posts value := by
  rintro ⟨hmethod, -⟩
  rw [h.1] at hmethod
  cases hmethod

/-- Cookies change neither the method nor the body of a request. -/
theorem content_of_withCookies? (h : request.withCookies? jar = some next) :
    next.method = request.method ∧ next.body = request.body := by
  unfold Request.withCookies? at h
  split at h
  · cases h
    exact ⟨rfl, rfl⟩
  · obtain ⟨place, -, rfl⟩ := Option.map_eq_some_iff.mp h
    split <;> exact ⟨rfl, rfl⟩

/-- Credentials change neither the method nor the body of a request. -/
theorem content_of_authorize (request : Request) :
    (Credentials.authorize request).method = request.method ∧
      (Credentials.authorize request).body = request.body := by
  unfold Credentials.authorize
  split <;> exact ⟨rfl, rfl⟩

/-- The first request of a call has its method and its body. -/
theorem content_of_request {client : Client} {call : Call}
    (h : client.request jar call = .ok request) :
    request.method = call.method ∧ request.body = call.body := by
  unfold Client.request at h
  split at h
  · cases h
  split at h
  · cases h
  split at h
  · cases h
  dsimp only at h
  split at h
  · cases h
  · next plain hcookies =>
    obtain ⟨hmethod, hbody⟩ := content_of_withCookies? hcookies
    split at h
    · next hnone =>
      cases h
      obtain ⟨hmethod', hbody'⟩ := content_of_authorize plain
      exact ⟨hmethod'.trans hmethod, (hbody'.trans hbody).trans hnone.symm⟩
    · next body hsome =>
      split at h
      · cases h
        obtain ⟨hmethod', hbody'⟩ := content_of_authorize
          { plain with
            headers := plain.headers.default "content-type" "application/json"
            body := some body }
        exact ⟨hmethod'.trans hmethod, hbody'.trans hsome.symm⟩
      · cases h

/-- The request of a redirect has the method that the status leaves, and the body only if the
method stays. -/
theorem content_of_redirected {status : Nat} {location : String}
    (h : request.redirected jar status location = .ok next) :
    next.method = request.method.redirected status ∧
      next.body = if request.method.redirected status = request.method then request.body
        else none := by
  unfold Request.redirected at h
  obtain ⟨address, -, h⟩ := Outcome.bind_eq_ok.mp h
  obtain ⟨host, -, h⟩ := Outcome.bind_eq_ok.mp h
  dsimp only at h
  split at h
  · next _ _ hcookies =>
    cases h
    exact content_of_withCookies? hcookies
  · cases h

/-- A status that gives up the body leaves the method that reads, and no other changes it. -/
theorem redirected_eq (method : Method) (status : Nat) :
    method.redirected status = if [301, 302, 303].contains status then .get else method := by
  simp only [Method.redirected, List.contains_cons, List.contains_nil, Bool.or_false,
    Bool.or_eq_true, beq_iff_eq, decide_eq_true_eq, or_assoc]

variable {now : Int} {reply : Reply} {shelf : Jar}

/-- A reply that leads a request onwards gives up what it sends, or leaves it. -/
theorem posts_of_react (h : Client.react now jar request reply = (.ok next, shelf))
    (posts : request.Posts value) :
    if givesUp reply then next.IsBare else next.Posts value := by
  cases Client.reaction_of_react h with
  | @onward response _ _ _ _ _ _ hredirected _ =>
    obtain ⟨hmethod, hbody⟩ := content_of_redirected hredirected
    rw [redirected_eq, posts.1] at hmethod hbody
    rw [givesUp]
    by_cases hgives : [301, 302, 303].contains response.status = true
    · rw [if_pos hgives] at hmethod hbody ⊢
      exact ⟨hmethod, hbody⟩
    · rw [if_neg hgives] at hmethod hbody ⊢
      rw [if_pos rfl, posts.2] at hbody
      exact ⟨hmethod, hbody⟩

/-- A request that sends nothing is led to such requests only. -/
theorem isBare_of_react (h : Client.react now jar request reply = (.ok next, shelf))
    (bare : request.IsBare) : next.IsBare := by
  cases Client.reaction_of_react h with
  | onward _ _ hredirected _ =>
    obtain ⟨hmethod, hbody⟩ := content_of_redirected hredirected
    rw [redirected_eq, bare.1, ite_self] at hmethod hbody
    rw [if_pos rfl, bare.2] at hbody
    exact ⟨hmethod, hbody⟩

/-- Whether each request of an exchange sends the value as long as no reply before it gave up the
body, and sends nothing from then on. -/
def Carries (value : Value) (exchanges : List (Request × Reply)) : Prop :=
  ∀ before request reply after, exchanges = before ++ (request, reply) :: after →
    if before.any fun earlier => givesUp earlier.2 then request.IsBare else request.Posts value

variable {limit : Nat} {exchanges : List (Request × Reply)} {ending : Ending}

/-- An exchange that begins with nothing to send goes on so. -/
theorem isBare_of_trail (h : Trail now limit jar request exchanges ending)
    (bare : request.IsBare) : ∀ exchange ∈ exchanges, exchange.1.IsBare := by
  induction h with
  | ended h =>
    intro exchange hm
    rw [List.mem_singleton.mp hm]
    exact bare
  | stopped h =>
    intro exchange hm
    rw [List.mem_singleton.mp hm]
    exact bare
  | onward hreact _ ih =>
    intro exchange hm
    rcases List.mem_cons.mp hm with rfl | hrest
    · exact bare
    · exact ih (isBare_of_react hreact bare) exchange hrest

/-- An exchange of one request sends what the request sends. -/
theorem carries_singleton (posts : request.Posts value) : Carries value [(request, reply)] := by
  intro before other otherReply after heq
  cases before with
  | nil =>
    cases heq
    exact posts
  | cons first rest => simp at heq

/-- An exchange whose first request sends a value carries it until a reply gives it up. -/
theorem carries_of_trail (h : Trail now limit jar request exchanges ending)
    (posts : request.Posts value) : Carries value exchanges := by
  induction h with
  | ended h => exact carries_singleton posts
  | stopped h => exact carries_singleton posts
  | @onward _ _ _ _ _ reply rest _ hreact htrail ih =>
    intro before other otherReply after heq
    cases before with
    | nil =>
      cases heq
      exact posts
    | cons first before =>
      obtain ⟨rfl, hrest⟩ := List.cons.inj heq
      have hnext := posts_of_react hreact posts
      rw [List.any_cons]
      dsimp only
      -- Either this reply gives up the body, or the exchange goes on as it began.
      cases hgives : givesUp reply with
      | true =>
        rw [hgives] at hnext
        have hm : (other, otherReply) ∈ rest := by
          rw [hrest]
          exact List.mem_append_right before List.mem_cons_self
        exact isBare_of_trail htrail hnext _ hm
      | false =>
        rw [hgives] at hnext
        rw [Bool.false_or]
        exact ih hnext before other otherReply after hrest

/-- A request of an exchange sends the value exactly if no reply before it gives it up. -/
theorem Carries.posts_iff (h : Carries value exchanges) {before after : List (Request × Reply)}
    (heq : exchanges = before ++ (request, reply) :: after) :
    request.Posts value ↔ ∀ exchange ∈ before, givesUp exchange.2 = false := by
  have hrequest := h before request reply after heq
  cases hlost : before.any fun earlier => givesUp earlier.2 with
  | true =>
    rw [hlost] at hrequest
    obtain ⟨earlier, hm, hgives⟩ := List.any_eq_true.mp hlost
    refine iff_of_false hrequest.not_posts fun hkept => ?_
    rw [hkept earlier hm] at hgives
    cases hgives
  | false =>
    rw [hlost] at hrequest
    exact iff_of_true hrequest fun earlier hm =>
      Bool.not_eq_true _ |>.mp (List.any_eq_false.mp hlost earlier hm)

/-- All requests of an exchange send the value exactly if no reply but the last gives it up. -/
theorem Carries.all_iff (h : Carries value exchanges) :
    (∀ exchange ∈ exchanges, exchange.1.Posts value) ↔
      ∀ exchange ∈ exchanges.dropLast, givesUp exchange.2 = false := by
  constructor
  · intro hall
    rcases List.eq_nil_or_concat' exchanges with rfl | ⟨front, ⟨last, reply⟩, rfl⟩
    · exact fun exchange hm => nomatch hm
    · rw [List.dropLast_concat]
      exact (h.posts_iff rfl).mp (hall (last, reply) (List.mem_append_right front
        List.mem_cons_self))
  · intro hkept exchange hm
    obtain ⟨before, after, rfl⟩ := List.append_of_mem hm
    rw [List.dropLast_append_of_ne_nil (List.cons_ne_nil exchange after)] at hkept
    exact (h.posts_iff rfl).mpr fun earlier hearlier =>
      hkept earlier (List.mem_append_left _ hearlier)

end Exchange

namespace SearchApi

variable {σ : Type} {api : SearchApi} {transport : Transport σ} {query : String} {jar : Jar}
  {now : Int} {source : σ}

/-- Whether a request asks the query of a search. -/
def Asks (api : SearchApi) (query : String) (request : Request) : Prop :=
  request.Posts (api.payload query)

/-- Whether an answer is the list of webpages that a client finds in a reply. -/
def Holds (client : Client) (reply : Reply) (answer : Value) : Prop :=
  ∃ response value items, Final reply response ∧ response.isSuccess = true ∧
    Json.readOctets client.nesting response.body = .ok value ∧ webpages? value = some items ∧
    answer = .list items

/-- A search whose request cannot be built or sent sends nothing and finds nothing. -/
theorem search_of_unsent (transport : Transport σ) (now : Int) (source : σ)
    (h : ∀ request, api.client.request jar (api.call query) = .ok request → ¬Sendable request) :
    ∃ why logs, api.search transport.noted query ⟨jar, now, source, []⟩ =
      (⟨.error why, [], logs⟩, ⟨jar, now, source, []⟩) := by
  cases hbuilt : api.client.request jar (api.call query) with
  | error fault =>
    have hsend : api.client.send transport.noted (api.call query) ⟨jar, now, source, []⟩ =
        (⟨.error fault, [], []⟩, ⟨jar, now, source, []⟩) := by
      simp only [Client.send, hbuilt]
    exact ⟨_, _, search_eq_judge hsend⟩
  | ok request =>
    cases hhost : Host.readable request.address.host with
    | ok host => exact absurd ⟨host, hhost⟩ (h request hbuilt)
    | error why =>
      have hstep : Client.step transport.noted request ⟨jar, now, source, []⟩ =
          (.error (.stopped (.label why)), [], ⟨jar, now, source, []⟩) := by
        simp only [Client.step, hhost]
      exact ⟨_, _, search_eq_judge (Client.send_of_step hbuilt hstep)⟩

/-- The exchange of a search carries what is posted for its query. -/
theorem carries_of_search (api : SearchApi) (transport : Transport σ) (query : String) (jar : Jar)
    (now : Int) (source : σ) :
    ∃ report session exchanges,
      api.search transport.noted query ⟨jar, now, source, []⟩ = (report, session) ∧
        report.requests = exchanges.map Prod.fst ∧
        session.transport.2 = exchanges.map Prod.snd ∧
        Exchange.Carries (api.payload query) exchanges := by
  by_cases hsent : ∃ request, api.client.request jar (api.call query) = .ok request ∧
      Sendable request
  · obtain ⟨request, hbuilt, sendable⟩ := hsent
    obtain ⟨exchanges, ending, session, hfollow, hlog, htrail⟩ :=
      Client.trail_follow transport Client.redirectLimit now jar source [] sendable
    have hsend : api.client.send transport.noted (api.call query) ⟨jar, now, source, []⟩ =
        (⟨(api.client.conclude (api.call query) ending).1, exchanges.map Prod.fst,
          (api.client.conclude (api.call query) ending).2⟩, session) := by
      simp only [Client.send, hbuilt, hfollow]
    exact ⟨_, session, exchanges, search_eq_judge hsend, rfl, hlog,
      Exchange.carries_of_trail htrail (Exchange.content_of_request hbuilt)⟩
  · obtain ⟨why, logs, hsearch⟩ := search_of_unsent transport now source
      fun request hbuilt sendable => hsent ⟨request, hbuilt, sendable⟩
    refine ⟨_, _, [], hsearch, rfl, rfl, ?_⟩
    intro before request reply after heq
    cases before <;> cases heq

/-- What a search finds is held by the reply to its last request. -/
theorem holds_of_search {report : Report SearchFault} {session : Exchange.Session (σ × List Reply)}
    {answer : Value}
    (h : api.search transport.noted query ⟨jar, now, source, []⟩ = (report, session))
    (found : report.result = .ok answer) :
    ∃ reply, session.transport.2.getLast? = some reply ∧ Holds api.client reply answer := by
  by_cases hsent : ∃ request, api.client.request jar (api.call query) = .ok request ∧
      Sendable request
  · obtain ⟨request, hbuilt, sendable⟩ := hsent
    obtain ⟨report', session', last, reply, before, hsearch, hanswered, hdecided⟩ :=
      api.decided_search transport query jar now source hbuilt sendable
    cases h.symm.trans hsearch
    refine ⟨reply, hanswered.reply_eq, ?_⟩
    have hfree : ¬Escapes api.client (api.call query) now before last reply :=
      (hdecided.listed found).1
    have hsearched := hdecided.searched_iff.mpr hfree
    rw [found] at hsearched
    generalize report.logs = logs at hsearched
    cases hsearched with
    | webpages hmapped hpages =>
      cases hmapped with
      | json hfinal hsuccess _ hread => exact ⟨_, _, _, hfinal, hsuccess, hread, hpages, rfl⟩
      | text _ _ hjson _ => cases hjson
  · obtain ⟨why, logs, hsearch⟩ := search_of_unsent transport now source
      fun request hbuilt sendable => hsent ⟨request, hbuilt, sendable⟩
    cases h.symm.trans hsearch
    cases found

/-- Each request of a search posts its query until a reply on the way gives up the body, and reads
without sending anything from then on. All of them ask the query exactly if no reply but the last
gives it up, and exactly then does the list that is found come from the reply to a request that
asks it. -/
theorem query_posted_until_given_up (api : SearchApi) (transport : Transport σ) (query : String)
    (jar : Jar) (now : Int) (source : σ) :
    ∃ report session exchanges,
      api.search transport.noted query ⟨jar, now, source, []⟩ = (report, session) ∧
        report.requests = exchanges.map Prod.fst ∧
        session.transport.2 = exchanges.map Prod.snd ∧
        (∀ before request reply after, exchanges = before ++ (request, reply) :: after →
          if before.any fun earlier => Exchange.givesUp earlier.2 then request.IsBare
          else api.Asks query request) ∧
        ((∀ request ∈ report.requests, api.Asks query request) ↔
          ∀ exchange ∈ exchanges.dropLast, Exchange.givesUp exchange.2 = false) ∧
        ∀ answer, report.result = .ok answer →
          ∃ front last reply, exchanges = front ++ [(last, reply)] ∧ Holds api.client reply answer ∧
            (api.Asks query last ↔ ∀ exchange ∈ front, Exchange.givesUp exchange.2 = false) := by
  obtain ⟨report, session, exchanges, hsearch, hrequests, hreplies, hcarries⟩ :=
    carries_of_search api transport query jar now source
  refine ⟨report, session, exchanges, hsearch, hrequests, hreplies, hcarries, ?_, ?_⟩
  · rw [hrequests, List.forall_mem_map]
    exact hcarries.all_iff
  · intro answer found
    obtain ⟨reply, hreply, hholds⟩ := holds_of_search hsearch found
    rcases List.eq_nil_or_concat' exchanges with rfl | ⟨front, ⟨last, lastReply⟩, rfl⟩
    · rw [hreplies] at hreply
      cases hreply
    rw [hreplies, List.map_append, List.map_singleton, List.getLast?_concat] at hreply
    cases hreply
    exact ⟨front, last, lastReply, rfl, hholds, hcarries.posts_iff rfl⟩

/-- A redirect that gives up the body. -/
def movedResponse : Response := ⟨302, [("location", "https://h.example/search")], []⟩

/-- The request that such a redirect leaves of a search. -/
def strayRequest : Request :=
  ⟨.get, ⟨"https".toList, [], "h.example".toList, none, "/search".toList, none, none⟩,
    searchHeaders.normal, none⟩

/-- A search can find a list without having asked for it: after one redirect of the wrong kind its
second request sends no query, and what is answered to that is found. -/
theorem moved_search_finds_unasked :
    ∃ session, View.plainApi.search scripted "x"
        ⟨[], 0, [.ok movedResponse, .ok View.bareResponse]⟩ =
      (⟨.ok (.list [.object []]), [View.plainSearch "x", strayRequest], []⟩, session) ∧
      strayRequest.IsBare ∧ ¬View.plainApi.Asks "x" strayRequest := by
  have hfollow : Client.follow scripted Client.redirectLimit (View.plainSearch "x")
      ⟨[], 0, [.ok movedResponse, .ok View.bareResponse]⟩ =
        (.final strayRequest View.bareResponse, [View.plainSearch "x", strayRequest],
          ⟨[], 0, [.ok View.bareResponse]⟩) := rfl
  have hconclude : View.plainApi.client.conclude (View.plainApi.call "x")
      (.final strayRequest View.bareResponse) =
        (.ok (.object [("webpages", .list [.object []])]), []) :=
    Client.conclude_of_json rfl rfl View.readOctets_bareResponse
  have hsend : View.plainApi.client.send scripted (View.plainApi.call "x")
      ⟨[], 0, [.ok movedResponse, .ok View.bareResponse]⟩ =
        (⟨.ok (.object [("webpages", .list [.object []])]),
          [View.plainSearch "x", strayRequest], []⟩, ⟨[], 0, [.ok View.bareResponse]⟩) := by
    simp only [Client.send, View.request_plainApi, hfollow, hconclude]
  have hbare : strayRequest.IsBare := ⟨rfl, rfl⟩
  exact ⟨_, search_eq_judge hsend, hbare, hbare.not_posts⟩

end SearchApi

end SearchAnnotation
