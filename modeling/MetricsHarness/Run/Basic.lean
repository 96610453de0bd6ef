import MetricsHarness.Query.Attempt
import MetricsHarness.Run.Startup
import MetricsHarness.Settings.Basic

/-!
# Runs of suites

A run starts the apps of a suite, waits until they are ready, attempts every query in order, and
stops the apps. A run without apps leaves out the first two and the last. Whatever happens to the
apps, every query is attempted, and the report is about queries alone.

The server is in the state that the queries before have left behind. While the run waits, the
apps go on.
-/

namespace MetricsHarness

/-- A query that failed: its number, counted from one, and the objections to it. -/
structure Report.Entry where
  number : Nat
  failures : List QueryFailure
  deriving DecidableEq

/-- The outcome of a run. -/
structure Report where
  /-- The number of queries. -/
  total : Nat
  /-- The number of queries that failed. -/
  failed : Nat
  /-- The queries that failed, in order. -/
  entries : List Report.Entry
  deriving DecidableEq

namespace Report

/-- The report of a run before its first query. -/
def initial (total : Nat) : Report := ⟨total, 0, []⟩

/-- Whether every query passed. -/
def passed (r : Report) : Bool := r.failed == 0

/-- Takes in what has come of a query. -/
def record (r : Report) (number : Nat) (failures : List QueryFailure) : Report :=
  if failures.isEmpty then r
  else { r with failed := r.failed + 1, entries := r.entries ++ [⟨number, failures⟩] }

end Report

/-- The orders that are not for a run to decide: of the steps of starting apps, and of stopping
them. -/
structure Schedule where
  starts : List Nat
  stops : List Nat

/-- The order in which everything happens as it is listed. -/
def Schedule.inOrder : Schedule := ⟨[], []⟩

/-- A run: its report, what it did, and the states it leaves behind. -/
structure Run (σ κ η : Type) where
  report : Report
  effects : List (Effect η)
  server : σ
  launcher : κ

namespace Run

variable [Idna] {σ κ η : Type}

/-- What is told and printed about an attempt at a query. -/
def announce (number : Nat) (q : Query) (failures : List QueryFailure) : List (Effect η) :=
  match failures with
  | [] => [.log (.queryPassed number), .print (.passed number q.label)]
  | _ =>
    let messages := failures.map (·.message)
    .log (.queryFailed number messages) :: .print (.failed number q.label) ::
      messages.map fun m => .print (.objection m)

/-- Effects with what the apps tell while time passes, and the state of the launcher after them. -/
def beside (launcher : Launcher κ η) : List (Effect η) → κ → List (Effect η) × κ
  | [], state => ([], state)
  | .wait n :: rest, state =>
    let answer := launcher.elapse n state
    let (effects, after) := beside launcher rest answer.state
    (.wait n :: (answer.events.map .log ++ effects), after)
  | effect :: rest, state =>
    let (effects, after) := beside launcher rest state
    (effect :: effects, after)

/-- How far the queries are: the report so far, what was done, and the state of the server. -/
structure Progress (σ η : Type) where
  report : Report
  effects : List (Effect η)
  server : σ

/-- Attempts a query of a number. -/
def Progress.step (client : Client σ) (number : Nat) (q : Query) (p : Progress σ η) :
    Progress σ η :=
  let attempt := q.attempt client p.server
  ⟨p.report.record number attempt.failures,
    p.effects ++ attempt.effects ++ announce number q attempt.failures, attempt.state⟩

/-- Attempts queries in order; the first has the given number. -/
def queries (client : Client σ) : Nat → List Query → Progress σ η → Progress σ η
  | _, [], p => p
  | number, q :: rest, p => queries client (number + 1) rest (p.step client number q)

/-- What is told about the end of a run. -/
def closing (report : Report) : Event :=
  if report.passed then .allPassed report.total else .someFailed report.failed report.total

/-- What is told before apps are stopped. -/
def shutting (running : List (String × η)) : List (Effect η) :=
  if running.isEmpty then [] else [.log (.shuttingDown running.length)]

/-- The start of the apps and the wait behind it; a run without apps has neither. -/
def opening (settings : Settings) (suite : Suite) (withoutApps : Bool) (schedule : Schedule)
    (launcher : Launcher κ η) (state : κ) : Startup κ η :=
  if withoutApps then ⟨[], [], [], state⟩
  else
    let started := Startup.run launcher schedule.starts suite.apps state
    let grace := settings.startupGrace.toNat
    let (wait, after) := beside launcher [.log (.graceBegins grace), .wait grace] started.launcher
    { started with effects := started.effects ++ wait, launcher := after }

/-- Runs a suite. -/
def ofSuite (settings : Settings) (suite : Suite) (withoutApps : Bool) (schedule : Schedule)
    (launcher : Launcher κ η) (client : Client σ) (apps : κ) (state : σ) : Run σ κ η :=
  let begins := Event.runBegins suite.apps.length suite.queries.length withoutApps
  let started := opening settings suite withoutApps schedule launcher apps
  let progress := queries client 1 suite.queries ⟨.initial suite.queries.length, [], state⟩
  let (asked, apps) := beside launcher progress.effects started.launcher
  let (stopped, apps) := Shutdown.run launcher schedule.stops started.running apps
  ⟨progress.report,
    .log begins :: started.effects ++ asked ++ shutting started.running ++ stopped ++
      [.log (closing progress.report)],
    progress.server, apps⟩

end Run

end MetricsHarness
