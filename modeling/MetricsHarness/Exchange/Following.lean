import MetricsHarness.Exchange.Basic
import MetricsHarness.Url.Join

/-!
# A client that follows redirections

A server says what it replies to each request that arrives, and leaves the rest to the client that
it is met by (`Server`). This client follows redirections, at most ten. A response with status 301
or 302 turns a `POST` into a `GET`, one with status 303 every method but `HEAD`; the body is then
gone. With 307 and 308 method and body stay. A redirection without a readable location is a response
like any other.

Every request that arrived at the server is kept in order: one for the request itself, and one more
for each redirection. Another scheme than `http` and `https` is refused before anything is sent. The
user part of a URL is not in the target of the request, so it is taken out of the URL.
-/

namespace MetricsHarness

/-- What a server does with a request. -/
inductive Reply where
  /-- There is nobody to take the request. -/
  | unreachable
  /-- The request arrives, and the connection ends without a response. -/
  | dropped
  | response (response : Response)

/-- A server with states of type `σ`. -/
structure Server (σ : Type) where
  answer : Request → σ → Reply × σ

/-- A server that cannot be reached. -/
def Server.absent : Server Unit := ⟨fun _ state => (.unreachable, state)⟩

/-- Why no response came of a request. -/
inductive SendFault where
  /-- The URL is none that a request can be sent to. -/
  | unusable (url : Url)
  /-- There is no connection, or it ended without a response. -/
  | transport (url : Url)
  /-- One redirection too many. -/
  | redirections (url : Url)

/-- The wording of a fault in sending. -/
def SendFault.message : SendFault → String
  | .unusable url => s!"builder error for url ({url.text})"
  | .transport url => s!"error sending request for url ({url.text})"
  | .redirections url => s!"error following redirect for url ({url.text})"

/-- A URL without its user part. -/
def Url.withoutUser (url : Url) : Url :=
  { url with authority := url.authority.map fun a => { a with user := [], password := [] } }

namespace Request

/-- The schemes of requests that go out. -/
def schemes : List (List Char) := ["http".toList, "https".toList]

/-- A character that the host of a request cannot have, although a URL can. -/
def isHostMisfit (c : Char) : Bool := c == '"' || c == '\x60' || c == '\x7b' || c == '\x7d'

/-- The length of the longest URL that is sent. -/
def longestUrl : Nat := 65534

/-- Whether a request can be made for a URL. -/
def isUsable (url : Url) : Bool :=
  schemes.contains url.scheme &&
  (match url.host? with
    | some host => !host.chars.any isHostMisfit
    | none => false) &&
  url.chars.length ≤ longestUrl

/-- The request as it arrives, without the user part of its URL. -/
def arriving (r : Request) : Request := { r with url := r.url.withoutUser }

/-- The request that follows a redirection. -/
def redirected (request : Request) (status : UInt16) (url : Url) : Request :=
  let withoutBody : Request := ⟨Method.get, url, none⟩
  if status == 303 then
    if request.method.text = "HEAD" then { request with url := url, body := none }
    else withoutBody
  else if (status == 301 || status == 302) && request.method.text = "POST" then withoutBody
  else { request with url := url }

end Request

namespace Response

/-- Whether a status is one of a redirection. -/
def isRedirection (status : UInt16) : Bool :=
  status == 301 || status == 302 || status == 303 || status == 307 || status == 308

/-- Where a response leads, if it is a redirection with a readable location. -/
def redirection? [Idna] (url : Url) (response : Response) : Option Url := do
  guard (isRedirection response.status)
  let value ← response.header? "location"
  let text ← Text.Utf8.decode? value
  (url.join text).toOption

end Response

namespace Server

variable [Idna] {σ : Type}

/-- The greatest number of redirections that are followed. -/
def mostRedirections : Nat := 10

/-- Sends a request and follows at most `left` redirections. -/
def follow (server : Server σ) : Nat → Request → σ → Exchange σ
  | left, request, state =>
    match server.answer request state with
    | (.unreachable, _) => ⟨[], .error (SendFault.transport request.url).message, state⟩
    | (.dropped, after) => ⟨[request], .error (SendFault.transport request.url).message, after⟩
    | (.response response, after) =>
      match response.redirection? request.url with
      | none => ⟨[request], .ok response, after⟩
      | some url =>
        match left with
        | 0 => ⟨[request], .error (SendFault.redirections request.url).message, after⟩
        | left + 1 =>
          if Request.isUsable url then
            let next := follow server left (request.redirected response.status url) after
            { next with requests := request :: next.requests }
          else ⟨[request], .error (SendFault.unusable url).message, after⟩

/-- The client that follows redirections, with a server to reach. -/
def client (server : Server σ) : Client σ where
  send request state :=
    if Request.isUsable request.arriving.url then
      server.follow mostRedirections request.arriving state
    else ⟨[], .error (SendFault.unusable request.arriving.url).message, state⟩

instance : Coe (Server σ) (Client σ) := ⟨client⟩

end Server

end MetricsHarness
