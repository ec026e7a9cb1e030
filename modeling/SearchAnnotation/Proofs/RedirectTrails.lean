import SearchAnnotation.Exchange.Client
import SearchAnnotation.Proofs.Outcomes

/-!
# Trails of redirects

Each reply either ends an exchange or leads to a further request. The requests of an exchange and
the replies to them form a trail that is at most one longer than redirects may be followed, and
its last reply alone decides the ending, unless it is one redirect too many.
-/

namespace SearchAnnotation.Exchange

/-- A transport that notes its replies. -/
def Transport.noted {σ : Type} (transport : Transport σ) : Transport (σ × List Reply) :=
  fun request state =>
    let (reply, source) := transport request state.1
    (reply, source, state.2 ++ [reply])

section Redirects

variable {a source target : Address} {location : String} {why : RedirectFault}

/-- Whether a redirect names an address, but none that a request can be sent to. -/
def RedirectFault.isAstray : RedirectFault → Bool
  | .location _ => false
  | _ => true

theorem isAstray_of_combine {result : Except AddressFault Address}
    (h : combine result = .error why) : why.isAstray = true := by
  cases result with
  | ok address => cases h
  | error fault =>
    cases h
    rfl

theorem isAstray_of_readableHost (h : readableHost a = .error why) : why.isAstray = true := by
  unfold readableHost at h
  split at h
  · cases h
  · cases h
    rfl

theorem isAstray_of_redirectAddress (hread : Address.read location.toList = .ok target)
    (h : redirectAddress source location = .error why) : why.isAstray = true := by
  have tail : ∀ hosted : Address, (if hosted.isAbsolute then
        (Except.ok hosted >>= fun whole => combine (inheritFragment source whole))
      else combine (source.follow hosted) >>= fun whole =>
        combine (inheritFragment source whole)) = .error why → why.isAstray = true := by
    intro hosted h
    split at h
    · exact isAstray_of_combine h
    · rcases Outcome.bind_eq_error.mp h with h | ⟨whole, -, h⟩
      · exact isAstray_of_combine h
      · exact isAstray_of_combine h
  unfold redirectAddress at h
  rw [hread] at h
  rcases Outcome.bind_eq_error.mp h with h | ⟨target', htarget, h⟩
  · cases h
  cases htarget
  rcases Outcome.bind_eq_error.mp h with h | ⟨host, -, h⟩
  · exact isAstray_of_readableHost h
  split at h
  · exact tail target h
  split at h
  · exact tail target h
  rcases Outcome.bind_eq_error.mp h with h | ⟨own, -, h⟩
  · exact isAstray_of_readableHost h
  rcases Outcome.bind_eq_error.mp h with h | ⟨hosted, -, h⟩
  · exact isAstray_of_combine h
  exact tail hosted h

/-- A redirect that names no address fails for this reason. -/
theorem redirected_of_unread {request : Request} {jar : Jar} {status : Nat} {fault : AddressFault}
    (hread : Address.read location.toList = .error fault) :
    request.redirected jar status location = .error (.location fault) := by
  have haddress : redirectAddress request.address location = .error (.location fault) := by
    unfold redirectAddress
    rw [hread]
    rfl
  exact Outcome.bind_eq_error.mpr (.inl haddress)

/-- A redirect that names an address fails only because no request can be sent there. -/
theorem isAstray_of_redirected {request : Request} {jar : Jar} {status : Nat}
    (hread : Address.read location.toList = .ok target)
    (h : request.redirected jar status location = .error why) : why.isAstray = true := by
  unfold Request.redirected at h
  rcases Outcome.bind_eq_error.mp h with h | ⟨address, -, h⟩
  · exact isAstray_of_redirectAddress hread h
  rcases Outcome.bind_eq_error.mp h with h | ⟨host, -, h⟩
  · exact isAstray_of_readableHost h
  dsimp only at h
  split at h
  · cases h
  · cases h
    rfl

end Redirects

namespace Client

/-- The requests and replies of an exchange that may follow so many redirects, and its ending. -/
inductive Trail (now : Int) : Nat → Jar → Request → List (Request × Reply) → Ending → Prop where
  /-- The reply ends the exchange. -/
  | ended {limit : Nat} {jar shelf : Jar} {request : Request} {reply : Reply} {ending : Ending} :
      react now jar request reply = (.error ending, shelf) →
      Trail now limit jar request [(request, reply)] ending
  /-- The reply is one redirect too many. -/
  | stopped {jar shelf : Jar} {request next : Request} {reply : Reply} :
      react now jar request reply = (.ok next, shelf) →
      Trail now 0 jar request [(request, reply)] exceeded
  /-- The reply leads to a further request. -/
  | onward {limit : Nat} {jar shelf : Jar} {request next : Request} {reply : Reply}
      {rest : List (Request × Reply)} {ending : Ending} :
      react now jar request reply = (.ok next, shelf) →
      Trail now limit shelf next rest ending →
      Trail now (limit + 1) jar request ((request, reply) :: rest) ending

variable {now : Int} {limit : Nat} {jar shelf : Jar} {request next : Request}
  {exchanges : List (Request × Reply)} {ending : Ending}

/-- Whether the host of a request can be read, without which it is not sent. -/
def Sendable (request : Request) : Prop :=
  ∃ host, Host.readable request.address.host = .ok host

/-- Cookies do not change the address of a request. -/
theorem address_of_withCookies? (h : request.withCookies? jar = some next) :
    next.address = request.address := by
  unfold Request.withCookies? at h
  split at h
  · cases h
    rfl
  · obtain ⟨place, -, rfl⟩ := Option.map_eq_some_iff.mp h
    split <;> rfl

/-- A redirect leads to a host that can be read. -/
theorem sendable_of_redirected {status : Nat} {location : String}
    (h : request.redirected jar status location = .ok next) : Sendable next := by
  unfold Request.redirected at h
  obtain ⟨address, -, h⟩ := Outcome.bind_eq_ok.mp h
  obtain ⟨host, hhost, h⟩ := Outcome.bind_eq_ok.mp h
  have haddress : next.address = address := by
    dsimp only at h
    split at h
    · next _ _ hcookies =>
      cases h
      exact address_of_withCookies? hcookies
    · cases h
  unfold readableHost at hhost
  rw [Sendable, haddress]
  cases hread : Host.readable address.host with
  | ok host => exact ⟨host, rfl⟩
  | error why =>
    rw [hread] at hhost
    cases hhost

/-- What a reply can lead to, with the cookies afterwards. -/
inductive Reaction (now : Int) (jar : Jar) (request : Request) :
    Reply → Except Ending Request → Jar → Prop where
  /-- The request fails. -/
  | failed {explanation : String} :
      Reaction now jar request (.error explanation) (.error (.failed explanation)) jar
  /-- It is not known which cookies belong to the request. -/
  | unplaced {response : Response} : request.place? = none →
      Reaction now jar request (.ok response) (.error (.stopped .noScheme)) jar
  /-- The codings of the body cannot be undone. -/
  | garbled {response : Response} {place : Place} {why : Compression.Fault} :
      request.place? = some place → response.decoded = .error why →
      Reaction now jar request (.ok response) (.error (garbled why))
        (jar.store now place response.headers)
  /-- The response leads no further. -/
  | final {response plain : Response} {place : Place} :
      request.place? = some place → response.location? = none → response.decoded = .ok plain →
      Reaction now jar request (.ok response) (.error (.final request plain))
        (jar.store now place response.headers)
  /-- The response redirects to where no request can be sent. -/
  | astray {response : Response} {place : Place} {location : String} {why : RedirectFault} :
      request.place? = some place → response.location? = some location →
      request.redirected (jar.store now place response.headers) response.status location =
        .error why →
      Reaction now jar request (.ok response) (.error (redirectEnding why))
        (jar.store now place response.headers)
  /-- The response redirects to a further request. -/
  | onward {response plain : Response} {place : Place} {location : String} {next : Request} :
      request.place? = some place → response.location? = some location →
      request.redirected (jar.store now place response.headers) response.status location =
        .ok next →
      response.decoded = .ok plain →
      Reaction now jar request (.ok response) (.ok next) (jar.store now place response.headers)

/-- Every reply leads to one of these. -/
theorem reaction_react (now : Int) (jar : Jar) (request : Request) (reply : Reply) :
    Reaction now jar request reply (react now jar request reply).1
      (react now jar request reply).2 := by
  cases reply with
  | error explanation => exact .failed
  | ok response =>
    unfold react
    cases hplace : request.place? with
    | none => exact .unplaced hplace
    | some place =>
      dsimp only
      unfold reactToResponse
      cases hlocation : response.location? with
      | none =>
        dsimp only
        cases hbody : response.decoded with
        | error why => exact .garbled hplace hbody
        | ok plain => exact .final hplace hlocation hbody
      | some location =>
        dsimp only
        cases hnext : request.redirected (jar.store now place response.headers) response.status
            location with
        | error why => exact .astray hplace hlocation hnext
        | ok next =>
          dsimp only
          cases hbody : response.decoded with
          | error why => exact .garbled hplace hbody
          | ok plain => exact .onward hplace hlocation hnext hbody

theorem reaction_of_react {reply : Reply} {outcome : Except Ending Request}
    (h : react now jar request reply = (outcome, shelf)) :
    Reaction now jar request reply outcome shelf := by
  have hreaction := reaction_react now jar request reply
  rw [h] at hreaction
  exact hreaction

section Following

variable {σ : Type}

/-- A request that can be sent is sent, and the reply to it is noted and decides what is next. -/
theorem step_noted (transport : Transport σ) (now : Int) (jar : Jar) (source : σ)
    (log : List Reply) (sendable : Sendable request) :
    ∃ reply outcome shelf later, react now jar request reply = (outcome, shelf) ∧
      step transport.noted request ⟨jar, now, source, log⟩ =
        (outcome, [request], ⟨shelf, now, later, log ++ [reply]⟩) := by
  obtain ⟨host, hhost⟩ := sendable
  obtain ⟨reply, later, hanswer⟩ : ∃ reply later, transport request source = (reply, later) :=
    ⟨_, _, rfl⟩
  obtain ⟨outcome, shelf, hreact⟩ : ∃ outcome shelf,
      react now jar request reply = (outcome, shelf) := ⟨_, _, rfl⟩
  refine ⟨reply, outcome, shelf, later, hreact, ?_⟩
  simp only [step, hhost, Transport.noted, hanswer, hreact]

/-- The requests that are sent and the replies that are noted make a trail. -/
theorem trail_follow (transport : Transport σ) (limit : Nat) (now : Int) (jar : Jar)
    (source : σ) (log : List Reply) (sendable : Sendable request) :
    ∃ exchanges ending session,
      follow transport.noted limit request ⟨jar, now, source, log⟩ =
          (ending, exchanges.map Prod.fst, session) ∧
        session.transport.2 = log ++ exchanges.map Prod.snd ∧
        Trail now limit jar request exchanges ending := by
  induction limit generalizing jar request source log with
  | zero =>
    obtain ⟨reply, outcome, shelf, later, hreact, hstep⟩ :=
      step_noted transport now jar source log sendable
    rw [follow, hstep]
    cases outcome with
    | error ending => exact ⟨[(request, reply)], ending, _, rfl, rfl, .ended hreact⟩
    | ok next => exact ⟨[(request, reply)], exceeded, _, rfl, rfl, .stopped hreact⟩
  | succ limit ih =>
    obtain ⟨reply, outcome, shelf, later, hreact, hstep⟩ :=
      step_noted transport now jar source log sendable
    rw [follow, hstep]
    cases outcome with
    | error ending => exact ⟨[(request, reply)], ending, _, rfl, rfl, .ended hreact⟩
    | ok next =>
      have hnext : Sendable next := by
        cases reaction_of_react hreact with
        | onward _ _ hredirected _ => exact sendable_of_redirected hredirected
      obtain ⟨rest, ending, session, hrest, hlog, htrail⟩ :=
        ih shelf later (log ++ [reply]) hnext
      refine ⟨(request, reply) :: rest, ending, session, ?_, ?_, .onward hreact htrail⟩
      · simp only [hrest, List.map_cons, List.singleton_append]
      · rw [hlog, List.map_cons, List.append_assoc, List.singleton_append]

end Following

/-- A trail is at most one longer than redirects may be followed. -/
theorem Trail.length_le (h : Trail now limit jar request exchanges ending) :
    exchanges.length ≤ limit + 1 := by
  induction h with
  | ended h => exact Nat.le_add_left 1 _
  | stopped h => exact Nat.le_refl 1
  | onward h _ ih => exact Nat.succ_le_succ ih

/-- The ending of an exchange is what its last reply leads to, or that reply was one redirect too
many. -/
theorem Trail.last (h : Trail now limit jar request exchanges ending) :
    ∃ front final reply before after, exchanges = front ++ [(final, reply)] ∧
      (react now before final reply = (.error ending, after) ∨
        ∃ next, react now before final reply = (.ok next, after) ∧ front.length = limit ∧
          ending = exceeded) := by
  induction h with
  | ended h => exact ⟨[], _, _, _, _, rfl, .inl h⟩
  | stopped h => exact ⟨[], _, _, _, _, rfl, .inr ⟨_, h, rfl, rfl⟩⟩
  | onward h _ ih =>
    obtain ⟨front, final, reply, before, after, hrest, hlast⟩ := ih
    refine ⟨_ :: front, final, reply, before, after, congrArg (_ :: ·) hrest, ?_⟩
    refine hlast.imp_right fun ⟨next, hnext, hlength, hending⟩ => ⟨next, hnext, ?_, hending⟩
    rw [List.length_cons, hlength]

end Client

end SearchAnnotation.Exchange
