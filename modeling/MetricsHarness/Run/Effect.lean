import MetricsHarness.Exchange.Basic
import MetricsHarness.Report.Line
import MetricsHarness.Run.Launcher

/-!
# Effects

What a run does to the world, as a list in the order of time: it starts and stops apps, waits, lets
requests arrive at the server, tells its log and prints. An app that runs is known by its handle,
of a type `η` that the launcher chooses. Starting an app takes time in which other things happen, so
its beginning and its end are two effects.
-/

namespace MetricsHarness

/-- One thing that a run does. -/
inductive Effect (η : Type) where
  /-- The launcher is called to start an app. -/
  | start (app : App)
  /-- The call to start an app is over. -/
  | startEnded (app : App) (outcome : Startup.Outcome η)
  | stop (handle : η)
  | wait (seconds : Nat)
  | request (request : Request)
  | log (event : Event)
  | print (line : Line)
  deriving DecidableEq

namespace Effect

variable {η : Type}

/-- The events that are told to the log. -/
def events (effects : List (Effect η)) : List Event :=
  effects.filterMap fun
    | .log e => some e
    | _ => none

/-- The requests that arrive at the server. -/
def requests (effects : List (Effect η)) : List Request :=
  effects.filterMap fun
    | .request r => some r
    | _ => none

/-- The lines that are printed. -/
def lines (effects : List (Effect η)) : List Line :=
  effects.filterMap fun
    | .print l => some l
    | _ => none

/-- The apps that the launcher is called to start. -/
def starts (effects : List (Effect η)) : List App :=
  effects.filterMap fun
    | .start app => some app
    | _ => none

/-- The calls to start an app that are over, and what has come of them. -/
def ends (effects : List (Effect η)) : List (App × Startup.Outcome η) :=
  effects.filterMap fun
    | .startEnded app outcome => some (app, outcome)
    | _ => none

/-- The handles that the launcher is called to stop. -/
def stops (effects : List (Effect η)) : List η :=
  effects.filterMap fun
    | .stop handle => some handle
    | _ => none

/-- The seconds that are waited. -/
def seconds : List (Effect η) → Nat
  | [] => 0
  | .wait n :: rest => n + seconds rest
  | _ :: rest => seconds rest

end Effect

end MetricsHarness
