import MetricsHarness.Failure
import MetricsHarness.Payload.Validate

/-!
# Suites

A suite names the apps to run and the queries to send, in order. A query has the two halves of its
URL, a delay in seconds, a method, a body and the response it expects. Of the expected results only
the first takes part in judging a response.
-/

namespace MetricsHarness

/-- A program that runs while the queries of a suite are sent. -/
structure App where
  name : String
  /-- A path, or a bare name that is looked up. -/
  binary : String
  args : List String
  deriving DecidableEq

/-- What the response to a query has to look like. -/
structure ExpectedResponse where
  status : UInt16
  contentType : String
  results : List ExpectedResult
  deriving DecidableEq

/-- A request to send and the response to expect. -/
structure Query where
  endpoint : String
  path : String
  delay : Int64
  method : String
  body : String
  expected : ExpectedResponse
  deriving DecidableEq

/-- The apps and queries of one run. -/
structure Suite where
  apps : List App
  queries : List Query
  deriving DecidableEq

namespace Query

/-- The method of a query that names none. -/
def defaultMethod : String := "GET"

/-- A delay as a count of seconds to wait. -/
def secondsOf (delay : Int64) : Except Failure Nat :=
  match delay.toInt with
  | .ofNat n => .ok n
  | .negSucc _ => .error (.negativeDelay delay)

/-- How a query is shown in a report. -/
def label (q : Query) : String := s!"{q.method} {q.endpoint}{q.path}"

end Query

end MetricsHarness
