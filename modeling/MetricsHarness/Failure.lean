import MetricsHarness.Sample.Basic

/-!
# Failures

What keeps the harness from doing its work at all: a file that cannot be read, a document that is
no suite, a program that does not start. What is wrong with the answer to a query is no failure in
this sense; it is part of the report of a run.

A document can fail in two ways, kept apart by `DocumentFault`: its text is not in the format, or
it is but does not say what it has to.
-/

namespace MetricsHarness

/-- Why a document cannot be used. -/
inductive DocumentFault where
  /-- The text is not in the format of the document. -/
  | form (text : String)
  /-- The text is in the format but does not fit what is read from it. -/
  | content (text : String)
  deriving DecidableEq

/-- The wording of a fault in a document. -/
def DocumentFault.message : DocumentFault → String
  | .form text => text
  | .content text => text

/-- Why an operation of the harness fails. -/
inductive Failure where
  | settings (fault : DocumentFault)
  | unreadable (path reason : String)
  | unwritable (path reason : String)
  | suite (fault : DocumentFault)
  | negativeDelay (seconds : Int64)
  | url (text reason : String)
  | sample (reason : String)
  | binaryNotFound (app binary : String)
  | startApp (app reason : String)
  | stopApp (app reason : String)
  deriving DecidableEq

/-- The wording of a failure. -/
def Failure.message : Failure → String
  | .settings f => s!"Invalid configuration file: {f.message}"
  | .unreadable path reason => s!"Failed to read file '{path}': {reason}"
  | .unwritable path reason => s!"Failed to open '{path}' for writing: {reason}"
  | .suite f => s!"Invalid suite definition: {f.message}"
  | .negativeDelay n => s!"delay must not be negative, got {Text.signedNumeral n.toInt}s"
  | .url text reason => s!"invalid request URL '{text}': {reason}"
  | .sample reason => s!"Malformed sample: {reason}"
  | .binaryNotFound app binary => s!"Binary '{binary}' for app '{app}' not found"
  | .startApp app reason => s!"Failed to start app '{app}': {reason}"
  | .stopApp app reason => s!"Failed to stop app '{app}': {reason}"

end MetricsHarness
