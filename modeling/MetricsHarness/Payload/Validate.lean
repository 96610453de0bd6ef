import MetricsHarness.Json.Series
import MetricsHarness.Payload.Sha256
import MetricsHarness.Series.Compare
import MetricsHarness.Text.Base64

/-!
# Judging a response body

The content type that was observed decides how a body is judged. The two image types are judged by
digest: one of the expected digests must be the body's, letter case aside. JSON is read as a list
of series, which must have the expected length and agree series by series, position by position.
Any other content type is a failure of its own.

A digest failure carries the whole body in Base64, so different rejected bodies never look alike.
-/

namespace MetricsHarness

/-- What a body is expected to be: digests for images, series for JSON. -/
structure ExpectedResult where
  digests : List String
  series : List Series
  deriving DecidableEq

/-- Why a body is refused. -/
inductive PayloadFailure where
  | unsupported (contentType : String)
  | digest (got : String) (expected : List String) (body : Bytes)
  | unreadable (fault : Json.Fault)
  | count (got expected : Nat)
  | series (mismatch : Mismatch)
  deriving DecidableEq

/-- The wording of a refusal. -/
def PayloadFailure.message : PayloadFailure → String
  | .unsupported t => s!"unsupported content-type: got '{t}'"
  | .digest got want body =>
    s!"sha256 mismatch, got '{got}', expected {Text.quotedList want}, encoded body: '" ++
      String.ofList (Text.Base64.encode body) ++ "'"
  | .unreadable f => s!"failed to parse response: {f.message}"
  | .count got want =>
    s!"unexpected amount of results, got {Text.numeral got}, expected {Text.numeral want}"
  | .series m => s!"metrics are not equal: {m.message}"

namespace Payload

/-- The content types that are judged. -/
inductive Kind where
  | image
  | series
  deriving DecidableEq

/-- How a content type is judged; the whole text counts, parameters and letter case included. -/
def kind? (contentType : String) : Option Kind :=
  if contentType = "image/png" ∨ contentType = "image/svg+xml" then some .image
  else if contentType = "application/json" then some .series
  else none

/-- Equality of texts up to the case of ASCII letters. -/
def sameLetters (a b : String) : Bool := a.toList.map Char.toLower == b.toList.map Char.toLower

/-- Judges a body by its digest. -/
def judgeDigest (body : Bytes) (digests : List String) : List PayloadFailure :=
  let got := Sha256.hexDigest body
  if digests.any (sameLetters · got) then [] else [.digest got digests body]

/-- Judges a body as a list of series. -/
def judgeSeries (body : Bytes) (expected : List Series) : List PayloadFailure :=
  match Json.seriesOfDocument body with
  | .error f => [.unreadable f]
  | .ok observed =>
    if observed.length ≠ expected.length then [.count observed.length expected.length]
    else (observed.zip expected).flatMap fun (got, want) =>
      (Series.compare got want).map .series

/-- Judges a body under a content type. -/
def judge (contentType : String) (body : Bytes) (expected : ExpectedResult) :
    List PayloadFailure :=
  match kind? contentType with
  | some .image => judgeDigest body expected.digests
  | some .series => judgeSeries body expected.series
  | none => [.unsupported contentType]

end Payload

end MetricsHarness
