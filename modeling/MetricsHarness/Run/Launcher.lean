import MetricsHarness.Log.Event

/-!
# Launchers

A launcher starts and stops apps. What it does is up to it: starting an app may give a handle, fail,
or end without any answer, and stopping one may fail. Its apps live on while time passes, and may
tell the log something. A launcher has states of a type `κ` and handles of a type `η`.
-/

namespace MetricsHarness

/-- What comes of the start of an app. -/
inductive Startup.Outcome (η : Type) where
  | running (handle : η)
  | failed (failure : Failure)
  /-- The start ends without an answer. -/
  | aborted
  deriving DecidableEq

/-- The answer of a launcher, what it tells the log on the way, and the state it is left in. -/
structure Launcher.Answer (κ α : Type) where
  value : α
  events : List Event
  state : κ

/-- Something that starts and stops apps. -/
structure Launcher (κ η : Type) where
  start : App → κ → Launcher.Answer κ (Startup.Outcome η)
  stop : η → κ → Launcher.Answer κ (Except Failure Unit)
  /-- Some seconds pass. -/
  elapse : Nat → κ → Launcher.Answer κ Unit

end MetricsHarness
