import MetricsHarness.Run.Effect
import MetricsHarness.Run.Launcher

/-!
# Starting and stopping apps

All apps are started at once. Each start is a task of three steps: it begins, which calls the
launcher; it ends, which is when the launcher answers; and it is joined, which records its outcome.
Which task takes the next step is not for the run to decide; a list of choices stands for it. A
choice is the position of a task among those that are left, counted round if it is too great. When
there are no more choices, the tasks in order begin and end, one after the other, and are joined in
order after that. Each order that the tasks can have is that of some choices.

Apps that run are kept under their names. A second app of a name takes the place of the first.

Apps are stopped one after the other, in an order that another list of choices stands for.
-/

namespace MetricsHarness

variable {κ η : Type}

/-- The start of an app on its way. -/
inductive Startup.Task (η : Type) where
  | waiting (app : App)
  | begun (app : App)
  | ended (app : App) (outcome : Startup.Outcome η)

/-- The starts that are on their way, and what has come of the others. -/
structure Startup (κ η : Type) where
  tasks : List (Startup.Task η)
  running : List (String × η)
  effects : List (Effect η)
  launcher : κ

namespace Startup

/-- Whether a task has only to be joined. -/
def Task.hasEnded : Task η → Bool
  | .ended _ _ => true
  | _ => false

/-- Keeps a handle under a name, in the place of one that is there. -/
def keep (name : String) (handle : η) : List (String × η) → List (String × η)
  | [] => [(name, handle)]
  | (other, kept) :: rest =>
    if other = name then (name, handle) :: rest else (other, kept) :: keep name handle rest

/-- A position among `count` things; without a choice the given one. -/
def position (choice : Option Nat) (count default : Nat) : Nat :=
  match choice with
  | some n => n % count
  | none => default

/-- The task that takes the next step without a choice. -/
def firstInLine (tasks : List (Task η)) : Nat := (tasks.findIdx? (!·.hasEnded)).getD 0

/-- Records what has come of a start. -/
def join (s : Startup κ η) (rest : List (Task η)) (name : String) :
    Outcome η → Startup κ η
  | .running handle => { s with tasks := rest, running := keep name handle s.running }
  | .failed failure =>
    { s with tasks := rest, effects := s.effects ++ [.log (.startFailed name failure)] }
  | .aborted => { s with tasks := rest, effects := s.effects ++ [.log .startAborted] }

/-- The next step of the task at a position. -/
def step (launcher : Launcher κ η) (s : Startup κ η) (i : Nat) : Startup κ η :=
  match s.tasks[i]? with
  | none => s
  | some (.waiting app) =>
    { s with tasks := s.tasks.set i (.begun app), effects := s.effects ++ [.start app] }
  | some (.begun app) =>
    let answer := launcher.start app s.launcher
    { s with
      tasks := s.tasks.set i (.ended app answer.value)
      effects := s.effects ++ answer.events.map .log ++ [.startEnded app answer.value]
      launcher := answer.state }
  | some (.ended app outcome) => s.join (s.tasks.eraseIdx i) app.name outcome

/-- As many steps as are asked for. -/
def steps (launcher : Launcher κ η) : Nat → List Nat → Startup κ η → Startup κ η
  | 0, _, s => s
  | n + 1, choices, s =>
    let i := position choices.head? s.tasks.length (firstInLine s.tasks)
    steps launcher n choices.tail (s.step launcher i)

/-- Apps of which none is on its way yet. -/
def initial (apps : List App) (state : κ) : Startup κ η := ⟨apps.map .waiting, [], [], state⟩

/-- Starts apps; every task takes its three steps. -/
def run (launcher : Launcher κ η) (choices : List Nat) (apps : List App) (state : κ) :
    Startup κ η :=
  steps launcher (3 * apps.length) choices (initial apps state)

end Startup

namespace Shutdown

/-- What is told about the end of a stop. -/
def told (name : String) : Except Failure Unit → List (Effect η)
  | .ok _ => []
  | .error failure => [.log (.stopFailed name failure)]

/-- Stops as many of the apps as are asked for, and answers what was done and the state of the
launcher. -/
def steps (launcher : Launcher κ η) :
    Nat → List Nat → List (String × η) → κ → List (Effect η) × κ
  | 0, _, _, state => ([], state)
  | n + 1, choices, running, state =>
    let i := Startup.position choices.head? running.length 0
    match running[i]? with
    | none => ([], state)
    | some (name, handle) =>
      let answer := launcher.stop handle state
      let (effects, state) := steps launcher n choices.tail (running.eraseIdx i) answer.state
      (.stop handle :: (answer.events.map .log ++ told name answer.value) ++ effects, state)

/-- Stops all apps. -/
def run (launcher : Launcher κ η) (choices : List Nat) (running : List (String × η)) (state : κ) :
    List (Effect η) × κ :=
  steps launcher running.length choices running state

end Shutdown

end MetricsHarness
