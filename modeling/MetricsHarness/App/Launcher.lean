import MetricsHarness.App.Forwarding
import MetricsHarness.App.Location
import MetricsHarness.App.Stopping
import MetricsHarness.Process.World
import MetricsHarness.Run.Launcher
import MetricsHarness.Settings.Basic

/-!
# The launcher of processes

Apps run as processes. If the settings say so, the lines that they write are told to the log while
they run; otherwise what they write is lost. An app whose stream is not read any more gets to know
that when it writes again.
-/

namespace MetricsHarness

/-- An app that runs: its name and the number of its process. -/
structure RunningApp where
  name : String
  process : Nat
  deriving DecidableEq

/-- A stream of an app that is forwarded. -/
structure Forwarded where
  app : RunningApp
  stream : Stream
  forwarder : Forwarder

/-- The processes of apps, and the streams that are forwarded. -/
structure Apps where
  world : World
  forwarded : List Forwarded

namespace Apps

/-- Apps of which none runs yet. -/
def initial (files : Files) (directories : Program.SearchPath) : Apps :=
  ⟨.initial files directories, []⟩

/-- The events of lines of a stream. -/
def lineEvents (f : Forwarded) (lines : List String) : List Event :=
  lines.map (.output f.app.name f.stream ·)

/-- Takes in what a process has written. -/
def takeIn (apps : Apps) (output : World.Output) : List Event × Apps :=
  match apps.forwarded.partition fun f =>
      f.app.process == output.process && f.stream == output.stream with
  | (f :: _, others) =>
    let (lines, forwarder) := f.forwarder.feed output.bytes
    let world :=
      if forwarder.reading then apps.world
      else apps.world.breakPipe output.process output.stream
    (lineEvents f lines, ⟨world, { f with forwarder := forwarder } :: others⟩)
  | ([], _) => ([], apps)

/-- Takes in all that processes have written, in order. -/
def takeInAll (apps : Apps) : List World.Output → List Event × Apps
  | [] => ([], apps)
  | output :: rest =>
    let (first, apps) := apps.takeIn output
    let (more, apps) := takeInAll apps rest
    (first ++ more, apps)

/-- Closes the streams of the processes that have ended. -/
def closeEnded (apps : Apps) : List Event × Apps :=
  let (ended, others) := apps.forwarded.partition fun f =>
    (apps.world.ending? f.app.process).isSome
  (ended.flatMap fun f => lineEvents f f.forwarder.finish, { apps with forwarded := others })

/-- Goes on with a world and what its processes have written. -/
def goOn (apps : Apps) (step : List World.Output × World) : List Event × Apps :=
  let (first, apps) := { apps with world := step.2 }.takeInAll step.1
  let (more, apps) := apps.closeEnded
  (first ++ more, apps)

/-- Some milliseconds pass. -/
def elapse (apps : Apps) (milliseconds : Nat) : List Event × Apps :=
  apps.goOn (apps.world.elapse milliseconds)

/-- Where the streams of an app go. -/
def sinks (settings : Settings) : Process.Sinks :=
  if settings.forwardOutput then ⟨.pipe .out, .pipe .err⟩ else ⟨.nowhere, .nowhere⟩

/-- The forwarded streams of an app that has been started. -/
def streams (settings : Settings) (app : RunningApp) : List Forwarded :=
  if settings.forwardOutput then [⟨app, .out, .initial⟩, ⟨app, .err, .initial⟩] else []

/-- Starts an app. -/
def start (settings : Settings) (app : App) (apps : Apps) :
    Launcher.Answer Apps (Startup.Outcome RunningApp) :=
  match app.locate apps.world.files apps.world.directories with
  | .error f => ⟨.failed f, [], apps⟩
  | .ok path =>
    match apps.world.spawn path app.args (sinks settings) with
    | .error f => ⟨.failed (.startApp app.name f.message), [], apps⟩
    | .ok (process, output, world) =>
      let running : RunningApp := ⟨app.name, process⟩
      let apps : Apps := { apps with forwarded := streams settings running ++ apps.forwarded }
      let (events, apps) := apps.goOn (output, world)
      ⟨.running running, .appStarted app.name path process :: events, apps⟩

/-- The system as the apps see it; what their processes write on the way is kept. A wait of no time
is over before an end can be seen. -/
def system (process : Nat) : ChildSystem (List Event × Apps) where
  poll := fun (events, apps) => (.ok (apps.world.ending? process), (events, apps))
  ask := fun (events, apps) =>
    let (more, apps) := apps.goOn (apps.world.ask process)
    (true, (events ++ more, apps))
  strike := fun (events, apps) =>
    let (more, apps) := apps.goOn ([], apps.world.kill process)
    (events ++ more, apps)
  await := fun seconds (events, apps) =>
    let (more, apps) := apps.goOn (apps.world.await process (1000 * seconds))
    match seconds, apps.world.ending? process with
    | _ + 1, some ending => (.ended ending, (events ++ more, apps))
    | _, _ => (.expired, (events ++ more, apps))
  kill := fun (events, apps) =>
    let (more, apps) := apps.goOn ([], apps.world.kill process)
    (.ok (), (events ++ more, apps))

/-- Stops an app. -/
def stop (settings : Settings) (app : RunningApp) (apps : Apps) :
    Launcher.Answer Apps (Except Failure Unit) :=
  let stopping := Stopping.run (system app.process) app.name settings.stopTimeout.toNat ([], apps)
  ⟨stopping.result, stopping.state.1 ++ stopping.events, stopping.state.2⟩

/-- The launcher of processes. -/
def launcher (settings : Settings) : Launcher Apps RunningApp where
  start := start settings
  stop := stop settings
  elapse := fun seconds apps =>
    let (events, apps) := apps.elapse (1000 * seconds)
    ⟨(), events, apps⟩

end Apps

end MetricsHarness
