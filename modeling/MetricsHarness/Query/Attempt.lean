import MetricsHarness.Query.Failure
import MetricsHarness.Query.Target
import MetricsHarness.Run.Effect

/-!
# Attempts at queries

An attempt waits for the delay of a query, sends its request and judges the response. Delay, target
and method are looked at in this order, the wait between the first two; what is wrong with one of
them ends the attempt before anything is sent.

The response is judged by its status, by its content type and by its body, the body under the
content type that was observed. Of the expected results only the first counts.
-/

namespace MetricsHarness

/-- An attempt at a query. -/
structure Attempt (σ η : Type) where
  failures : List QueryFailure
  effects : List (Effect η)
  /-- The state in which the server is left. -/
  state : σ

namespace ExpectedResponse

/-- Objections to a status. -/
def judgeStatus (expected : ExpectedResponse) (got : UInt16) : List QueryFailure :=
  if got = expected.status then [] else [.status got expected.status]

/-- Objections to a content type. -/
def judgeContentType (expected : ExpectedResponse) (got : String) : List QueryFailure :=
  if got = expected.contentType then [] else [.contentType got expected.contentType]

/-- Objections to a body under the content type it came with. -/
def judgeBody (expected : ExpectedResponse) (contentType : String) (body : Bytes) :
    List QueryFailure :=
  match expected.results with
  | [] => [.nothingExpected]
  | result :: _ => (Payload.judge contentType body result).map .payload

/-- Objections to a response. -/
def judge (expected : ExpectedResponse) (response : Response) : List QueryFailure :=
  expected.judgeStatus response.status ++ expected.judgeContentType response.contentType ++
  match response.body with
  | .error reason => [.body reason]
  | .ok body => expected.judgeBody response.contentType body

end ExpectedResponse

namespace Query

variable [Idna] {σ η : Type}

/-- The body that goes out with a query; one whose method is `GET` has none. -/
def sentBody (q : Query) : Option Bytes :=
  if q.method = defaultMethod then none else some (Text.Utf8.encodeString q.body)

/-- The wait before a query. -/
def waitFor (seconds : Nat) : List (Effect η) :=
  if seconds = 0 then [] else [.log (.delayBegins seconds), .wait seconds]

/-- What is told when a whole response has come. -/
def receivedEvents (response : Response) : List (Effect η) :=
  match response.body with
  | .error _ => []
  | .ok body => [.log (.received response.status response.contentType body.length)]

/-- Sends the request of a query and judges the response. -/
def exchange (client : Client σ) (q : Query) (method : Method) (url : Url) (state : σ) :
    Attempt σ η :=
  let told := [.log (.sending q.endpoint q.path method.text), .log (.target url)]
  let sent := client.send ⟨method, url, q.sentBody⟩ state
  let arrived := sent.requests.map .request
  match sent.result with
  | .error reason => ⟨[.exchange reason], told ++ arrived, sent.state⟩
  | .ok response =>
    ⟨q.expected.judge response, told ++ arrived ++ receivedEvents response, sent.state⟩

/-- What follows the wait of a query. -/
def proceed (client : Client σ) (q : Query) (state : σ) : Attempt σ η :=
  match targetOf q.endpoint q.path with
  | .error f => ⟨[.target f], [], state⟩
  | .ok url =>
    match Method.ofText? q.method with
    | none => ⟨[.method], [], state⟩
    | some method => exchange client q method url state

/-- Attempts a query. -/
def attempt (client : Client σ) (q : Query) (state : σ) : Attempt σ η :=
  match secondsOf q.delay with
  | .error f => ⟨[.delay f], [], state⟩
  | .ok seconds =>
    let next := proceed client q state
    { next with effects := waitFor seconds ++ next.effects }

end Query

end MetricsHarness
