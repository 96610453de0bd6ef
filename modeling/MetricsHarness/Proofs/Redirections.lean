import Mathlib.Data.List.Chain
import MetricsHarness.Exchange.Following
import MetricsHarness.Proofs.Verdict

/-!
# One query, many requests

A query hands its client one request (`Query.Wants`). What the client does with it is up to the
client. One that follows redirections (`Client.FollowsRedirections`) asks the server again as long
as a reply leads on to another request, ten times at most; which request that is, it alone decides.
All that is supposed of it is that replies with other statuses lead nowhere, and that a reply with a
status of a redirection leads to the location that it names. That is what the documentation of such
clients says.

So the requests that arrive at the server are a chain (`Query.Visits`): the first is the one that
the query wants, each other is one that the reply to the one before leads to, and a response is
judged only if it is the reply to the last of them. There are at most eleven.

A query is asked once (`Query.AskedOnce`) if one request arrives at most, the one it wants, and the
response to it is what is judged. That is so exactly if the reply to this request leads nowhere
(`requests_attempt`).
-/

namespace MetricsHarness

variable {σ η : Type}

namespace Client

/-! ## Visits at the server -/

/-- A request that arrives, and the state in which it finds the server. -/
structure Visit (σ : Type) where
  request : Request
  state : σ

/-- Which request a response leads on to, if the client that sent a request follows it. -/
abbrev Onward := Request → Response → Option Request

namespace Visit

variable (server : Server σ) (onward : Onward)

/-- What the server replies to a visit. -/
def reply (v : Visit σ) : Reply := (server.answer v.request v.state).1

/-- The state in which a visit leaves the server. -/
def after (v : Visit σ) : σ := (server.answer v.request v.state).2

/-- A visit is answered by a response if this is the reply to it and leads nowhere else. -/
structure AnsweredBy (v : Visit σ) (response : Response) : Prop where
  replies : v.reply server = .response response
  stays : onward v.request response = none

/-- A visit leads to another: the reply to it leads on to the request of the other, which comes
next. -/
structure Leads (v w : Visit σ) : Prop where
  redirects : ∃ response, v.reply server = .response response ∧
    onward v.request response = some w.request
  next : w.state = v.after server

variable {server onward}

/-- A visit that leads on is not answered. -/
theorem not_answeredBy_of_onward {v : Visit σ} {response : Response} {next : Request}
    (replies : v.reply server = .response response)
    (redirects : onward v.request response = some next) (other : Response) :
    ¬ v.AnsweredBy server onward other := by
  rintro ⟨replies', stays⟩
  rw [replies] at replies'
  cases replies'
  rw [stays] at redirects
  cases redirects

/-- A visit that leads to another is not answered. -/
theorem Leads.not_answeredBy {v w : Visit σ} (leads : v.Leads server onward w)
    (response : Response) : ¬ v.AnsweredBy server onward response := by
  obtain ⟨other, replies, redirects⟩ := leads.redirects
  exact not_answeredBy_of_onward replies redirects response

end Visit

/-! ## Clients that follow redirections -/

/-- What comes of a visit, with so many redirections left to follow. A client may not send its
request at all, and it may refuse to follow a reply. -/
inductive Conversation (server : Server σ) (onward : Onward) :
    Nat → Visit σ → Exchange σ → Prop
  | unsent {left v} (reason : String) :
    Conversation server onward left v ⟨[], .error reason, v.state⟩
  | dropped {left v} (ends : Visit.reply server v = .dropped) (reason : String) :
    Conversation server onward left v ⟨[v.request], .error reason, v.after server⟩
  | answered {left v response} (answer : Visit.AnsweredBy server onward v response) :
    Conversation server onward left v ⟨[v.request], .ok response, v.after server⟩
  | refused {left v response next} (replies : Visit.reply server v = .response response)
    (redirects : onward v.request response = some next) (reason : String) :
    Conversation server onward left v ⟨[v.request], .error reason, v.after server⟩
  | followed {left v response next e} (replies : Visit.reply server v = .response response)
    (redirects : onward v.request response = some next)
    (rest : Conversation server onward left ⟨next, v.after server⟩ e) :
    Conversation server onward (left + 1) v ⟨v.request :: e.requests, e.result, e.state⟩

/-- The statuses of redirections. -/
def redirections : List UInt16 := [301, 302, 303, 307, 308]

/-- A response to a request at a URL names another URL as its location. -/
def Locates [Idna] (base : Url) (response : Response) (url : Url) : Prop :=
  ∃ value text, response.header? "location" = some value ∧
    Text.Utf8.decode? value = some text ∧ base.join text = .ok url

/-- A client that reaches a server and follows its redirections, at most ten. User and password of a
URL are no part of a request that arrives. -/
structure FollowsRedirections [Idna] (client : Client σ) (server : Server σ) (onward : Onward) :
    Prop where
  sends : ∀ request state,
    Conversation server onward 10 ⟨request.arriving, state⟩ (client.send request state)
  leads : ∀ request response url, response.status ∈ redirections →
    Locates request.url response url → url.scheme ∈ Request.schemes →
      ∃ next, onward request response = some next ∧ next.url = url
  stays : ∀ request response, response.status ∉ redirections → onward request response = none

/-! ## The trail of a conversation -/

/-- The visits of an exchange that begins with a given one and redirects at most `left` times. -/
structure Trail (server : Server σ) (onward : Onward) (first : Visit σ) (left : Nat)
    (visits : List (Visit σ)) (e : Exchange σ) : Prop where
  requests : e.requests = visits.map Visit.request
  first : ∀ v ∈ visits.head?, v = first
  chain : visits.IsChain (Visit.Leads server onward)
  few : visits.length ≤ left + 1
  /-- The response of an exchange is that to the last visit. -/
  answer : ∀ response, e.result = .ok response ↔
    ∃ v ∈ visits.getLast?, v.AnsweredBy server onward response

section Trail

variable {server : Server σ} {onward : Onward} {first : Visit σ} {left : Nat}

/-- An exchange in which nothing arrives has no visits. -/
theorem Trail.nil (reason : String) (state : σ) :
    Trail server onward first left [] ⟨[], .error reason, state⟩ where
  requests := rfl
  first := by simp
  chain := .nil
  few := Nat.zero_le _
  answer := by simp

/-- An exchange may end with a visit that is not answered. -/
theorem Trail.unanswered (none : ∀ response, ¬ first.AnsweredBy server onward response)
    (reason : String) (state : σ) :
    Trail server onward first left [first] ⟨[first.request], .error reason, state⟩ where
  requests := rfl
  first := by simp
  chain := .singleton first
  few := by simp
  answer := by
    intro response
    simp [none response]

/-- An exchange ends with a visit that is answered. -/
theorem Trail.answered {response : Response} (answered : first.AnsweredBy server onward response)
    (state : σ) :
    Trail server onward first left [first] ⟨[first.request], .ok response, state⟩ where
  requests := rfl
  first := by simp
  chain := .singleton first
  few := by simp
  answer := by
    intro other
    constructor
    · intro same
      cases same
      exact ⟨first, rfl, answered⟩
    · rintro ⟨v, last, replies, -⟩
      have same : first = v := Option.some.inj last
      rw [← same, answered.replies] at replies
      cases replies
      rfl

/-- A visit that leads to the first of a trail goes in front of it. -/
theorem Trail.cons {second : Visit σ} {visits : List (Visit σ)} {e : Exchange σ}
    (leads : first.Leads server onward second)
    (trail : Trail server onward second left visits e) :
    Trail server onward first (left + 1) (first :: visits)
      ⟨first.request :: e.requests, e.result, e.state⟩ where
  requests := by simp only [trail.requests, List.map_cons]
  first := by simp
  chain := by
    refine List.isChain_cons.mpr ⟨?_, trail.chain⟩
    intro w mem
    rw [trail.first w mem]
    exact leads
  few := by
    have few := trail.few
    simp only [List.length_cons]
    omega
  answer := by
    intro response
    have answer := trail.answer response
    cases visits with
    | nil => simpa [leads.not_answeredBy response] using answer
    | cons w more => exact answer

/-- A conversation leaves a trail. -/
theorem Conversation.exists_trail {e : Exchange σ}
    (h : Conversation server onward left first e) :
    ∃ visits, Trail server onward first left visits e := by
  induction h with
  | unsent reason => exact ⟨_, .nil reason _⟩
  | dropped ends reason =>
    refine ⟨_, .unanswered ?_ reason _⟩
    rintro response ⟨replies, -⟩
    rw [ends] at replies
    cases replies
  | answered answer => exact ⟨_, .answered answer _⟩
  | refused replies redirects reason =>
    exact ⟨_, .unanswered (Visit.not_answeredBy_of_onward replies redirects) reason _⟩
  | followed replies redirects _ ih =>
    obtain ⟨visits, trail⟩ := ih
    exact ⟨_, .cons ⟨⟨_, replies, redirects⟩, rfl⟩ trail⟩

end Trail

end Client

/-! ## The client of a server -/

namespace Server

open Client (Conversation FollowsRedirections Onward Visit)

/-- Which request a response leads on to. -/
def onward [Idna] : Onward := fun request response =>
  (response.redirection? request.url).map (request.redirected response.status)

/-- What comes of following redirections is a conversation with the server. -/
theorem conversation_follow [Idna] (server : Server σ) (left : Nat) (v : Visit σ) :
    Conversation server onward left v (server.follow left v.request v.state) := by
  induction left using Nat.strongRecOn generalizing v with
  | ind left ih =>
    unfold follow
    split
    · exact .unsent _
    · next after dropped =>
      obtain rfl : v.after server = after := congrArg Prod.snd dropped
      exact .dropped (congrArg Prod.fst dropped) _
    · next response after replies =>
      obtain rfl : v.after server = after := congrArg Prod.snd replies
      have replies : v.reply server = .response response := congrArg Prod.fst replies
      split
      · next stays =>
        exact .answered ⟨replies, by rw [onward, stays, Option.map_none]⟩
      · next url redirects =>
        have leads : onward v.request response =
            some (v.request.redirected response.status url) := by
          rw [onward, redirects, Option.map_some]
        split
        · exact .refused replies leads _
        · next less =>
          split
          · exact .followed replies leads
              (ih less (Nat.lt_succ_self less) ⟨_, v.after server⟩)
          · exact .refused replies leads _

/-- A request that follows a redirection goes where it leads. -/
theorem url_redirected (request : Request) (status : UInt16) (url : Url) :
    (request.redirected status url).url = url := by
  unfold Request.redirected
  split
  · split
    · rfl
    · rfl
  · split
    · rfl
    · rfl

/-- The statuses of redirections are those that a client follows. -/
theorem isRedirection_iff {status : UInt16} :
    Response.isRedirection status = true ↔ status ∈ Client.redirections := by
  simp [Response.isRedirection, Client.redirections, or_assoc]

/-- The client of a server follows its redirections. -/
theorem followsRedirections_client [Idna] (server : Server σ) :
    FollowsRedirections server.client server onward where
  sends := by
    intro request state
    simp only [client]
    split
    · exact conversation_follow server 10 ⟨request.arriving, state⟩
    · exact .unsent _
  leads := by
    rintro request response url status ⟨value, text, header, spells, joined⟩ -
    have redirects : response.redirection? request.url = some url := by
      rw [Response.redirection?, isRedirection_iff.mpr status, header]
      change (Text.Utf8.decode? value).bind (fun t => (request.url.join t).toOption) = some url
      rw [spells, Option.bind_some, joined]
      rfl
    exact ⟨_, by rw [onward, redirects, Option.map_some], url_redirected _ _ _⟩
  stays := by
    intro request response other
    have none : response.redirection? request.url = none := by
      have status : Response.isRedirection response.status = false :=
        Bool.eq_false_iff.mpr fun h => other (isRedirection_iff.mp h)
      rw [Response.redirection?, status]
      rfl
    rw [onward, none, Option.map_none]

end Server

/-! ## The requests of an attempt -/

/-- Whether a failure is about a response. -/
def QueryFailure.isJudgement : QueryFailure → Bool
  | .status .. | .contentType .. | .body _ | .nothingExpected | .payload _ => true
  | _ => false

namespace Query

/-- The request that a query asks for: its method, its target, and its body unless the method is
`GET`. User and password are no part of a target. -/
structure Wants [Idna] (q : Query) (r : Request) : Prop where
  method : r.method.text = q.method
  target : ∃ url, targetOf q.endpoint q.path = .ok url ∧ r.url = url.withoutUser
  body : r.body = if q.method = "GET" then none else some (Text.Utf8.encodeString q.body)

/-- A query hands its client a request: the one that it asks for, once. What arrives is up to the
client, and what comes of it is judged. -/
structure Hands [Idna] (client : Client σ) (q : Query) (state : σ) (a : Attempt σ η)
    (request : Request) : Prop where
  method : request.method.text = q.method
  target : targetOf q.endpoint q.path = .ok request.url
  body : request.body = if q.method = "GET" then none else some (Text.Utf8.encodeString q.body)
  requests : Effect.requests a.effects = (client.send request state).requests
  judged : ∀ response, (client.send request state).result = .ok response →
    a.failures = q.expected.judge response
  unjudged : ∀ reason, (client.send request state).result = .error reason →
    a.failures = [.exchange reason]

/-- A query is asked once: one request arrives at most, it is the one that the query asks for, and
the response to it is what is judged. -/
structure AskedOnce [Idna] (server : Server σ) (q : Query) (state : σ) (a : Attempt σ η) :
    Prop where
  once : (Effect.requests a.effects).length ≤ 1
  wanted : ∀ r ∈ Effect.requests a.effects, q.Wants r
  judged : ∀ r ∈ Effect.requests a.effects, ∀ response,
    (server.answer r state).1 = .response response → a.failures = q.expected.judge response

/-- Where an attempt visits the server: it begins with the request that the query asks for, each
further visit is one that the reply to the visit before leads to, and the response that is judged
is that to the last visit. Where there is none, nothing is judged. -/
structure Visits [Idna] (server : Server σ) (onward : Client.Onward) (q : Query) (state : σ)
    (a : Attempt σ η) (visits : List (Client.Visit σ)) : Prop where
  requests : Effect.requests a.effects = visits.map Client.Visit.request
  first : ∀ v ∈ visits.head?, q.Wants v.request ∧ v.state = state
  chain : visits.IsChain (Client.Visit.Leads server onward)
  few : visits.length ≤ 11
  judged : ∀ v ∈ visits.getLast?, ∀ response, v.AnsweredBy server onward response →
    a.failures = q.expected.judge response
  unjudged : (∀ v ∈ visits.getLast?, ∀ response, ¬ v.AnsweredBy server onward response) →
    ∃ failure, a.failures = [failure] ∧ failure.isJudgement = false

/-- Every objection to a response is about it. -/
theorem isJudgement_of_mem_judge {q : Query} {response : Response} {failure : QueryFailure}
    (mem : failure ∈ q.expected.judge response) : failure.isJudgement = true := by
  unfold ExpectedResponse.judge at mem
  rcases List.mem_append.mp mem with front | below
  · rcases List.mem_append.mp front with status | kind
    · unfold ExpectedResponse.judgeStatus at status
      split at status
      · cases status
      · rw [List.mem_singleton.mp status]
        rfl
    · unfold ExpectedResponse.judgeContentType at kind
      split at kind
      · cases kind
      · rw [List.mem_singleton.mp kind]
        rfl
  · split at below
    · rw [List.mem_singleton.mp below]
      rfl
    · unfold ExpectedResponse.judgeBody at below
      split at below
      · rw [List.mem_singleton.mp below]
        rfl
      · obtain ⟨objection, -, rfl⟩ := List.mem_map.mp below
        rfl

/-- The requests of an attempt are among its deeds. -/
theorem requests_deeds (effects : List (Effect η)) :
    Effect.requests (Effect.deeds effects) = Effect.requests effects :=
  Effect.filterMap_deeds (fun _ => rfl) effects

theorem requests_waited (q : Query) : Effect.requests (q.waited (η := η)) = [] := by
  unfold waited
  split <;> rfl

theorem requests_map_request (requests : List Request) :
    Effect.requests (requests.map (.request (η := η))) = requests := by
  unfold Effect.requests
  rw [List.filterMap_map]
  exact List.filterMap_some

/-- The requests of an exchange are those that its client sends. -/
theorem requests_exchange (client : Client σ) (q : Query) (method : Method) (url : Url)
    (state : σ) : Effect.requests (q.exchange client method url state : Attempt σ η).effects =
      (client.send ⟨method, url, q.sentBody⟩ state).requests := by
  rw [← requests_deeds, deeds_exchange, requests_map_request]

/-- An attempt ends with one failure before anything is sent, or it hands its client a request. -/
theorem hands_attempt [Idna] (client : Client σ) (q : Query) (state : σ) :
    let attempt : Attempt σ η := q.attempt client state
    (∃ failure, attempt.failures = [failure] ∧ failure.isJudgement = false ∧
      Effect.requests attempt.effects = []) ∨
    ∃ request, q.Hands client state attempt request := by
  intro attempt
  rcases Int.lt_or_le q.delay.toInt 0 with early | delayed
  · left
    simp only [attempt, attempt_of_neg early]
    exact ⟨_, rfl, rfl, rfl⟩
  · have failures : attempt.failures = (q.proceed client state : Attempt σ η).failures :=
      failures_attempt delayed client state
    have requests : Effect.requests attempt.effects =
        Effect.requests (q.proceed client state : Attempt σ η).effects := by
      rw [← requests_deeds, deeds_attempt delayed, Effect.requests, List.filterMap_append]
      exact congrArg₂ _ (requests_waited q) (requests_deeds _)
    cases read : Url.read (q.endpoint ++ q.path).toList with
    | error fault =>
      rw [proceed_of_unreadable read] at failures requests
      exact .inl ⟨_, failures, rfl, requests⟩
    | ok url =>
      by_cases token : Method.IsToken q.method
      · obtain ⟨method, named⟩ : ∃ method : Method, method.text = q.method :=
          ⟨⟨q.method, token.1, List.all_eq_true.mpr token.2⟩, rfl⟩
        rw [proceed_of_token read named] at failures requests
        have target : targetOf q.endpoint q.path = .ok url.sorted := by
          simp only [targetOf, read]
        refine .inr ⟨⟨method, url.sorted, q.sentBody⟩, named, target, rfl, ?_, ?_, ?_⟩
        · rw [requests, requests_exchange]
        · intro response sent
          rw [failures, exchange_of_ok sent]
        · intro reason sent
          rw [failures, exchange_of_error sent]
      · rw [proceed_of_no_token read token] at failures requests
        exact .inl ⟨_, failures, rfl, requests⟩

/-- An attempt in which nothing is sent has no visits. -/
theorem Visits.nil [Idna] {server : Server σ} {onward : Client.Onward} {q : Query} {state : σ}
    {a : Attempt σ η}
    (none : Effect.requests a.effects = []) {failure : QueryFailure}
    (fails : a.failures = [failure]) (other : failure.isJudgement = false) :
    q.Visits server onward state a [] where
  requests := none
  first := by simp
  chain := .nil
  few := Nat.zero_le _
  judged := by simp
  unjudged := fun _ => ⟨failure, fails, other⟩

/-- A query that hands its client a request visits the server as its client does. -/
theorem Visits.of_trail [Idna] {client : Client σ} {server : Server σ} {onward : Client.Onward}
    {q : Query} {state : σ} {a : Attempt σ η} {request : Request} {visits : List (Client.Visit σ)}
    (hands : q.Hands client state a request)
    (trail : Client.Trail server onward ⟨request.arriving, state⟩ 10 visits
      (client.send request state)) : q.Visits server onward state a visits where
  requests := hands.requests.trans trail.requests
  first := by
    intro v mem
    rw [trail.first v mem]
    exact ⟨⟨hands.method, ⟨request.url, hands.target, rfl⟩, hands.body⟩, rfl⟩
  chain := trail.chain
  few := trail.few
  judged := by
    intro v last response answered
    exact hands.judged response ((trail.answer response).mpr ⟨v, last, answered⟩)
  unjudged := by
    intro none
    cases result : (client.send request state).result with
    | error reason => exact ⟨_, hands.unjudged reason result, rfl⟩
    | ok response =>
      obtain ⟨v, last, answered⟩ := (trail.answer response).mp result
      exact absurd answered (none v last response)

/-- Every attempt with a client that follows redirections visits the server in this way. -/
theorem exists_visits [Idna] {client : Client σ} {server : Server σ} {onward : Client.Onward}
    (h : client.FollowsRedirections server onward) (q : Query) (state : σ) :
    ∃ visits, q.Visits server onward state (q.attempt client state : Attempt σ η) visits := by
  obtain ⟨failure, fails, other, none⟩ | ⟨request, hands⟩ :=
    hands_attempt (η := η) client q state
  · exact ⟨[], .nil none fails other⟩
  · obtain ⟨visits, trail⟩ := (h.sends request state).exists_trail
    exact ⟨visits, .of_trail hands trail⟩

/-- A query whose own request is not redirected is asked once. -/
theorem Visits.askedOnce [Idna] {server : Server σ} {onward : Client.Onward} {q : Query}
    {state : σ} {a : Attempt σ η}
    {visits : List (Client.Visit σ)} (h : q.Visits server onward state a visits)
    (stays : ∀ r ∈ (Effect.requests a.effects).head?, ∀ response,
      (server.answer r state).1 = .response response →
        onward r response = none) : q.AskedOnce server state a := by
  have requests := h.requests
  cases visits with
  | nil =>
    refine ⟨?_, ?_, ?_⟩
    · simp [requests]
    · simp [requests]
    · simp [requests]
  | cons v rest =>
    obtain ⟨wanted, found⟩ := h.first v rfl
    have answered : ∀ response, v.reply server = .response response →
        v.AnsweredBy server onward response := by
      intro response replies
      refine ⟨replies, stays v.request (by rw [requests]; rfl) response ?_⟩
      rw [← found]
      exact replies
    cases rest with
    | nil =>
      rw [List.map_singleton] at requests
      refine ⟨by simp [requests], ?_, ?_⟩
      · rw [requests]
        exact List.forall_mem_singleton.mpr wanted
      · rw [requests]
        refine List.forall_mem_singleton.mpr fun response replies => ?_
        rw [← found] at replies
        exact h.judged v rfl response (answered response replies)
    | cons w more =>
      have leads := (List.isChain_cons_cons.mp h.chain).1
      obtain ⟨response, replies, -⟩ := leads.redirects
      exact absurd (answered response replies) (leads.not_answeredBy response)

/-- A query that is asked once has a request that is not redirected. -/
theorem Visits.stays_of_askedOnce [Idna] {server : Server σ} {onward : Client.Onward} {q : Query}
    {state : σ} {a : Attempt σ η}
    {visits : List (Client.Visit σ)} (h : q.Visits server onward state a visits)
    (asked : q.AskedOnce server state a) {r : Request}
    (own : r ∈ (Effect.requests a.effects).head?) {response : Response}
    (replies : (server.answer r state).1 = .response response) :
    onward r response = none := by
  have judged := asked.judged r (List.mem_of_mem_head? own) response replies
  have once := asked.once
  rw [h.requests] at own once
  cases visits with
  | nil => cases own
  | cons v rest =>
    cases rest with
    | cons w more => simp at once
    | nil =>
      obtain rfl : v.request = r := Option.some.inj own
      have found := (h.first v rfl).2
      by_contra redirects
      obtain ⟨failure, failures, other⟩ := h.unjudged (by
        rintro w last other ⟨replies', stays⟩
        have same : v = w := Option.some.inj last
        rw [← same] at replies' stays
        rw [Client.Visit.reply, found, replies] at replies'
        cases replies'
        exact redirects stays)
      rw [failures] at judged
      have mem : failure ∈ q.expected.judge response := judged ▸ List.mem_singleton_self failure
      rw [isJudgement_of_mem_judge mem] at other
      cases other

/-- **The requests of an attempt.** A query hands its client one request at most, the one that it
asks for. With a client that follows redirections the requests that arrive are a chain of visits, at
most eleven, the first of them with this request; what is judged is the response to the last. So the
query is asked once exactly if the reply to its own request leads nowhere: with a status of no
redirection it is, with one of a redirection that names a location it is not. -/
theorem requests_attempt [Idna] {client : Client σ} {server : Server σ} {onward : Client.Onward}
    (h : client.FollowsRedirections server onward) (q : Query) (state : σ) :
    let attempt : Attempt σ η := q.attempt client state
    let Replied (r : Request) (response : Response) : Prop :=
      r ∈ (Effect.requests attempt.effects).head? ∧ (server.answer r state).1 = .response response
    ((∃ failure, attempt.failures = [failure] ∧ failure.isJudgement = false ∧
      Effect.requests attempt.effects = []) ∨ ∃ request, q.Hands client state attempt request) ∧
    (∃ visits, q.Visits server onward state attempt visits) ∧
    (q.AskedOnce server state attempt ↔
      ∀ r response, Replied r response → onward r response = none) ∧
    ((∀ r response, Replied r response → response.status ∉ Client.redirections) →
      q.AskedOnce server state attempt) ∧
    ∀ r response url, Replied r response → response.status ∈ Client.redirections →
      Client.Locates r.url response url → url.scheme ∈ Request.schemes →
        ¬ q.AskedOnce server state attempt := by
  intro attempt Replied
  obtain ⟨visits, visited⟩ := exists_visits (η := η) h q state
  have once : q.AskedOnce server state attempt ↔
      ∀ r response, Replied r response → onward r response = none := by
    constructor
    · intro asked r response replied
      exact visited.stays_of_askedOnce asked replied.1 replied.2
    · intro stays
      exact visited.askedOnce fun r own response replies => stays r response ⟨own, replies⟩
  refine ⟨hands_attempt client q state, ⟨visits, visited⟩, once, ?_, ?_⟩
  · intro others
    exact once.mpr fun r response replied => h.stays r response (others r response replied)
  · intro r response url replied status located scheme asked
    obtain ⟨next, leads, -⟩ := h.leads r response url status located scheme
    rw [once.mp asked r response replied] at leads
    cases leads

/-- A server that redirects the first request to another path and answers the second. -/
def redirecting : Server Nat where
  answer _ n :=
    match n with
    | 0 => (.response ⟨302, [⟨"Location", Text.Utf8.encodeString "/b"⟩], .ok []⟩, 1)
    | n => (.response ⟨200, [⟨"Content-Type", Text.Utf8.encodeString "image/png"⟩], .ok []⟩, n)

open LiteralDomain in
/-- With its own client the server is asked once by a query that comes second, and twice by one that
comes first. -/
theorem requests_attempt_redirecting :
    let q : Query := ⟨"https://h", "/a", 0, "POST", "payload", ⟨302, "", []⟩⟩
    let attempt (state : Nat) : Attempt Nat Nat := q.attempt redirecting.client state
    Client.FollowsRedirections redirecting.client redirecting Server.onward ∧
    q.AskedOnce redirecting 1 (attempt 1) ∧ ¬ q.AskedOnce redirecting 0 (attempt 0) ∧
    (∃ visits, visits.length = 2 ∧ q.Visits redirecting Server.onward 0 (attempt 0) visits) := by
  intro q attempt
  have follows := Server.followsRedirections_client redirecting
  have location : Response.header? ⟨302, [⟨"Location", Text.Utf8.encodeString "/b"⟩], .ok []⟩
      "location" = some (Text.Utf8.encodeString "/b") := by
    decide +kernel
  refine ⟨follows, ?_, ?_, ?_⟩
  · refine (requests_attempt follows q 1).2.2.2.1 ?_
    rintro r response ⟨-, replies⟩
    cases replies
    decide
  · -- The request that arrives first is led on to the path that the reply names.
    have joins : ((Effect.requests (attempt 0).effects).head?.bind fun r =>
        (r.url.join "/b".toList).toOption).map (·.scheme) = some "https".toList := by
      decide +kernel
    obtain ⟨url, found, scheme⟩ := Option.map_eq_some_iff.mp joins
    obtain ⟨r, own, joined⟩ := Option.bind_eq_some_iff.mp found
    have located : Client.Locates r.url ⟨302, [⟨"Location", Text.Utf8.encodeString "/b"⟩], .ok []⟩
        url := by
      refine ⟨_, _, location, Text.Utf8.decode?_encode _, ?_⟩
      cases join : r.url.join "/b".toList with
      | error fault =>
        rw [join] at joined
        cases joined
      | ok other =>
        rw [join] at joined
        cases joined
        rfl
    exact (requests_attempt follows q 0).2.2.2.2 r _ url ⟨own, rfl⟩ (by decide) located
      (by rw [scheme]; decide)
  · obtain ⟨visits, visited⟩ := (requests_attempt (η := Nat) follows q 0).2.1
    refine ⟨visits, ?_, visited⟩
    have two : (Effect.requests (attempt 0).effects).length = 2 := by decide +kernel
    rw [visited.requests, List.length_map] at two
    exact two

open LiteralDomain in
/-- A query that is redirected is asked twice, and what is judged is not the response to the request
that it asks for. -/
theorem not_askedOnce_redirecting :
    let q : Query := ⟨"http://h", "/a", 0, "POST", "payload", ⟨302, "", []⟩⟩
    let attempt : Attempt Nat Nat := q.attempt redirecting.client 0
    (Effect.requests attempt.effects).map (fun r => (r.method.text, r.target, r.body)) =
      [("POST", "/a".toList, some (Text.Utf8.encodeString "payload")),
        ("GET", "/b".toList, none)] ∧
    ¬ q.AskedOnce redirecting 0 attempt := by
  intro q attempt
  have requests :
      (Effect.requests attempt.effects).map (fun r => (r.method.text, r.target, r.body)) =
        [("POST", "/a".toList, some (Text.Utf8.encodeString "payload")),
          ("GET", "/b".toList, none)] := by
    decide +kernel
  refine ⟨requests, fun asked => ?_⟩
  have once := asked.once
  have two := congrArg List.length requests
  rw [List.length_map] at two
  rw [two] at once
  exact absurd once (by decide)

end Query

end MetricsHarness
