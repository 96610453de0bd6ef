import MetricsHarness.Failure
import MetricsHarness.Payload.Validate

/-!
# Failures of queries

What can be wrong with a query or with the response to it. A query that cannot be sent, or to which
no whole response comes, has nothing else to object to; the other failures stand side by side.
-/

namespace MetricsHarness

/-- An objection to a query or to the response to it. -/
inductive QueryFailure where
  | delay (failure : Failure)
  | target (failure : Failure)
  | method
  | exchange (reason : String)
  | status (got expected : UInt16)
  | contentType (got expected : String)
  | body (reason : String)
  | nothingExpected
  | payload (failure : PayloadFailure)
  deriving DecidableEq

/-- The wording of an objection. -/
def QueryFailure.message : QueryFailure → String
  | .delay f => s!"failed parse duration: {f.message}"
  | .target f => s!"failed to parse URL: {f.message}"
  | .method => "failed to prepare the request: invalid HTTP method"
  | .exchange reason => s!"failed to perform the request: {reason}"
  | .status got want =>
    s!"unexpected status code, got {Text.numeral got.toNat}, expected {Text.numeral want.toNat}"
  | .contentType got want => s!"unexpected content-type, got {got}, expected {want}"
  | .body reason => s!"failed to read body: {reason}"
  | .nothingExpected => "no expected results configured"
  | .payload f => f.message

end MetricsHarness
