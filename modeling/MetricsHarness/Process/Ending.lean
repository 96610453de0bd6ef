import MetricsHarness.Text.Numeral

/-!
# Ends and streams of processes

A process ends with a status of its own, or a signal kills it. While it runs, it writes to two
streams.
-/

namespace MetricsHarness

/-- One of the two streams that a process writes to. -/
inductive Stream where
  | out
  | err
  deriving DecidableEq

/-- The name of a stream. -/
def Stream.name : Stream → String
  | .out => "stdout"
  | .err => "stderr"

/-- How a process has ended. -/
inductive Ending where
  | exited (status : Nat)
  | killed (signal : Nat)
  deriving DecidableEq

/-- The names of the signals that are known by name. -/
def signalName (signal : Nat) : String :=
  match signal with
  | 9 => " (SIGKILL)"
  | 13 => " (SIGPIPE)"
  | 15 => " (SIGTERM)"
  | _ => ""

/-- The wording of an end. -/
def Ending.message : Ending → String
  | .exited status => s!"exit status: {Text.numeral status}"
  | .killed signal => s!"signal: {Text.numeral signal}{signalName signal}"

end MetricsHarness
