import MetricsHarness.Log.Event
import MetricsHarness.Process.Ending

/-!
# Stopping an app

The process of an app is stopped in steps. It is looked at first: one that has ended needs nothing
more. Then it is asked to end; if that cannot be delivered, it is killed without a wait. Then its
end is awaited for a while. If it does not come, the process is killed and its end awaited.

What the system answers to each step is left open (`ChildSystem`). Every call is kept with its
answer, in order, so that the whole protocol can be read off a stop.
-/

namespace MetricsHarness

/-- The end of a wait for the end of a process. -/
inductive Awaited where
  | ended (ending : Ending)
  | failed (reason : String)
  /-- The time is over. -/
  | expired
  deriving DecidableEq

/-- The calls to the system about one process, which is its child. The state after a call holds
what the call has done. -/
structure ChildSystem (κ : Type) where
  /-- How the process has ended, if it has. -/
  poll : κ → Except String (Option Ending) × κ
  /-- Asks the process to end; answers whether that was delivered. -/
  ask : κ → Bool × κ
  /-- Kills the process without a wait. -/
  strike : κ → κ
  /-- Waits for the end of the process, at most some seconds. -/
  await : Nat → κ → Awaited × κ
  /-- Kills the process and waits for its end. -/
  kill : κ → Except String Unit × κ

namespace Stopping

/-- A call with its answer. -/
inductive Call where
  | poll (answer : Except String (Option Ending))
  | ask (delivered : Bool)
  | strike
  | await (seconds : Nat) (answer : Awaited)
  | kill (answer : Except String Unit)

end Stopping

/-- A stop: its result, what was told to the log, the calls, and the state of the system. -/
structure Stopping (κ : Type) where
  result : Except Failure Unit
  events : List Event
  calls : List Stopping.Call
  state : κ

namespace Stopping

variable {κ : Type}

/-- A step in front of the rest of a stop. -/
def after (calls : List Call) (events : List Event) (s : Stopping κ) : Stopping κ :=
  { s with calls := calls ++ s.calls, events := events ++ s.events }

/-- A stop that ends with a failure of the system. -/
def failed (app reason : String) (call : Call) (state : κ) : Stopping κ :=
  ⟨.error (.stopApp app reason), [], [call], state⟩

/-- Kills the process and waits for its end. -/
def killing (system : ChildSystem κ) (app : String) (state : κ) : Stopping κ :=
  match system.kill state with
  | (.ok (), state) => ⟨.ok (), [], [.kill (.ok ())], state⟩
  | (.error reason, state) => failed app reason (.kill (.error reason)) state

/-- Waits for the end of the process, and kills it when the time is over. -/
def awaiting (system : ChildSystem κ) (app : String) (seconds : Nat) (state : κ) : Stopping κ :=
  match system.await seconds state with
  | (.ended ending, state) =>
    ⟨.ok (), [.appStopped app ending], [.await seconds (.ended ending)], state⟩
  | (.failed reason, state) => failed app reason (.await seconds (.failed reason)) state
  | (.expired, state) =>
    (killing system app state).after [.await seconds .expired] [.appKilled app seconds]

/-- Asks the process to end and waits for it. -/
def asking (system : ChildSystem κ) (app : String) (seconds : Nat) (state : κ) : Stopping κ :=
  match system.ask state with
  | (true, state) => (awaiting system app seconds state).after [.ask true] []
  | (false, state) =>
    (awaiting system app seconds (system.strike state)).after [.ask false, .strike] []

/-- Stops the process of an app, which has some seconds to end. -/
def run (system : ChildSystem κ) (app : String) (seconds : Nat) (state : κ) : Stopping κ :=
  match system.poll state with
  | (.error reason, state) => failed app reason (.poll (.error reason)) state
  | (.ok (some ending), state) =>
    ⟨.ok (), [.appHadEnded app ending], [.poll (.ok (some ending))], state⟩
  | (.ok none, state) => (asking system app seconds state).after [.poll (.ok none)] []

end Stopping

end MetricsHarness
