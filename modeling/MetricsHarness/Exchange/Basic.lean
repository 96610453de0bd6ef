import MetricsHarness.Text.Utf8
import MetricsHarness.Url.Basic

/-!
# Requests, responses and clients

A request names a method, a URL and perhaps a body. It is handed to a client, and a client is
anything that says what comes of each request that it is handed, in the state that the requests
before have left behind (`Client`): which requests arrive at the server because of it, and a
response or the reason why there is none. The body of a response may not be readable to its end;
there is a reason for that too.
-/

namespace MetricsHarness

/-- A character of a method. -/
def isTokenChar (c : Char) : Bool :=
  c.isAlphanum || "!#$%&'*+-.^_\x60|~".toList.contains c

/-- A method: a text of at least one token character. -/
structure Method where
  text : String
  nonempty : text.toList ≠ []
  token : text.toList.all isTokenChar = true
  deriving DecidableEq

/-- The method that a text names. -/
def Method.ofText? (text : String) : Option Method :=
  if empty : text.toList = [] then none
  else if token : text.toList.all isTokenChar = true then some ⟨text, empty, token⟩
  else none

/-- The method that asks for a resource and nothing else. -/
def Method.get : Method := ⟨"GET", by decide, by decide⟩

/-- A request as it is sent. -/
structure Request where
  method : Method
  url : Url
  body : Option Bytes
  deriving DecidableEq

/-- A line in front of the body of a response. -/
structure Header where
  name : String
  value : Bytes
  deriving DecidableEq

/-- A response as it arrives. -/
structure Response where
  status : UInt16
  headers : List Header
  /-- The body, or the reason why it cannot be read to its end. -/
  body : Except String Bytes

/-- What has come of a request that a client was handed. -/
structure Exchange (σ : Type) where
  /-- The requests that arrived at the server, in order. -/
  requests : List Request
  /-- The response, or the reason why there is none. -/
  result : Except String Response
  /-- The state in which the server is left. -/
  state : σ

/-- Something that is handed requests, together with the server that it reaches, which has states
of type `σ`. -/
structure Client (σ : Type) where
  send : Request → σ → Exchange σ

/-- Whether a name of a header is another one, letter case aside. -/
def Header.isNamed (h : Header) (name : String) : Bool :=
  h.name.toList.map Char.toLower == name.toList.map Char.toLower

/-- The value of the first header of a name. -/
def Response.header? (r : Response) (name : String) : Option Bytes :=
  (r.headers.find? (·.isNamed name)).map (·.value)

/-- A byte of a readable header value: a printable ASCII character or a tab. -/
def isHeaderText (b : UInt8) : Bool := b == 9 || (32 ≤ b && b < 127)

/-- The content type of a response; the empty text if there is none that is readable. -/
def Response.contentType (r : Response) : String :=
  match r.header? "content-type" with
  | none => ""
  | some value =>
    if value.all isHeaderText then String.ofList (value.map fun b => Char.ofNat b.toNat) else ""

/-- The part of a URL that a request line names: path and query. -/
def Request.target (r : Request) : List Char := r.url.path.chars ++ r.url.queryChars

end MetricsHarness
