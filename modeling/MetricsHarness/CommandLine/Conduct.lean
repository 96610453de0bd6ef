import MetricsHarness.App.Launcher
import MetricsHarness.CommandLine.Arguments
import MetricsHarness.Exchange.Following
import MetricsHarness.Log.Filter
import MetricsHarness.Run.Basic
import MetricsHarness.Settings.Reading
import MetricsHarness.Suite.Reading
import MetricsHarness.Url.LiteralDomain

/-!
# Carrying out commands

Before a run the settings are read and then the suite; the first failure ends the command, and
nothing has been printed, started or sent by then. A check reads the suite alone. What a command
has to say is whether everything passed.

A whole invocation first reads its arguments, then chooses the filter of its log and opens the log
file. Its exit status is 0 if everything passed, 1 if something did not, 2 if a failure ended it,
and 101 if the text of the filter cannot be read.
-/

namespace MetricsHarness

/-- What a command finds where it is carried out. -/
structure Surroundings where
  files : Files
  /-- Where bare names of programs are looked up. -/
  directories : Program.SearchPath
  /-- The path of the settings that count if no others are named, as it is shown. -/
  usualSettings : String
  schedule : Schedule

/-- What apps run on: a launcher for the settings of a run, the state in which the run finds it, and
the files of a state, which apps may change. -/
structure Platform (κ η : Type) where
  launcher : Settings → Launcher κ η
  initial : Files → Program.SearchPath → κ
  files : κ → Files

/-- The platform on which apps run as processes. -/
def Platform.processes : Platform Apps RunningApp where
  launcher := Apps.launcher
  initial := Apps.initial
  files := fun apps => apps.world.files

/-- A command that has been carried out: what it says, what it has done, and the states that it
leaves behind. -/
structure Conduct (σ η : Type) where
  result : Except Failure Bool
  effects : List (Effect η)
  files : Files
  server : σ

namespace CommandLine.Command

variable [Idna] {σ κ η : Type}

/-- The settings for a run. -/
def settingsOf (s : Surroundings) : Option String → Except Failure Settings
  | some path => Settings.ofFile path (s.files.read path)
  | none => Settings.ofUsualFile s.usualSettings (s.files.read s.usualSettings)

/-- The suite of a file. -/
def suiteOf (s : Surroundings) (path : String) : Except Failure Suite :=
  Suite.ofFile path (s.files.read path)

/-- The lines about a query that was read. -/
def queryLines (number : Nat) : List Query → List Line
  | [] => []
  | q :: rest =>
    .query number q.label q.expected.status q.expected.contentType :: queryLines (number + 1) rest

/-- The lines about a suite that was read. -/
def suiteLines (path : String) (suite : Suite) : List Line :=
  .suite path suite.apps.length suite.queries.length ::
    suite.apps.map (fun a => .app a.name a.binary) ++ queryLines 1 suite.queries

/-- A command that a failure has ended before it did anything. -/
def failed (s : Surroundings) (server : σ) (failure : Failure) : Conduct σ η :=
  ⟨.error failure, [], s.files, server⟩

/-- Runs a suite that was read. -/
def conductRun (platform : Platform κ η) (s : Surroundings) (client : Client σ) (state : σ)
    (path : String) (withoutApps : Bool) (settings : Settings) (suite : Suite) : Conduct σ η :=
  let run := Run.ofSuite settings suite withoutApps s.schedule (platform.launcher settings) client
    (platform.initial s.files s.directories) state
  ⟨.ok run.report.passed,
    .print (.heading path) :: run.effects ++ [.print (.verdict run.report.failed run.report.total)],
    platform.files run.launcher, run.server⟩

/-- Carries out a command on a platform. -/
def conductOn (platform : Platform κ η) (s : Surroundings) (client : Client σ) (state : σ) :
    CommandLine.Command → Conduct σ η
  | .check path =>
    match suiteOf s path with
    | .error f => failed s state f
    | .ok suite => ⟨.ok true, (suiteLines path suite).map .print, s.files, state⟩
  | .run path withoutApps settings =>
    match settingsOf s settings with
    | .error f => failed s state f
    | .ok settings =>
      match suiteOf s path with
      | .error f => failed s state f
      | .ok suite => conductRun platform s client state path withoutApps settings suite

/-- Carries out a command with apps that run as processes. -/
def conduct (s : Surroundings) (client : Client σ) (state : σ) (command : CommandLine.Command) :
    Conduct σ RunningApp :=
  command.conductOn .processes s client state

end CommandLine.Command

/-- An invocation of the harness: its exit status, what it prints, what it tells about its events
and complains about, and what it leaves behind. -/
structure Invocation (σ η : Type) where
  exit : Nat
  printed : String
  told : String
  complaints : String
  effects : List (Effect η)
  files : Files
  server : σ

namespace Invocation

variable [Idna] {σ κ η : Type}

/-- The exit status of what a command says. -/
def exitOf : Except Failure Bool → Nat
  | .ok true => 0
  | .ok false => 1
  | .error _ => 2

/-- What is said about a failure. -/
def complaint (failure : Failure) : String := "Error: " ++ failure.message ++ "\n"

/-- What is complained about at the end of a command. -/
def complaintsOf : Except Failure Bool → String
  | .ok _ => ""
  | .error failure => complaint failure

/-- The bytes of a log file for events. -/
def logBytes (stamp : String) (events : List Event) : Bytes :=
  events.flatMap fun e => Text.Utf8.encodeString (e.line stamp)

/-- Files with more at the end of the log file. -/
def logged (files : Files) (path : Option String) (bytes : Bytes) : Files :=
  match path with
  | none => files
  | some path =>
    match files.append path bytes with
    | .ok files => files
    | .error _ => files

/-- Opens the log file, which is made if it is not there. -/
def openLog (files : Files) : Option String → Except Failure Files
  | none => .ok files
  | some path =>
    match files.append path [] with
    | .ok files => .ok files
    | .error f => .error (.unwritable path f.message)

/-- Carries out a command line on a platform. -/
def ofCommandLine (platform : Platform κ η) (line : CommandLine) (filter : Filter) (stamp : String)
    (s : Surroundings) (client : Client σ) (state : σ) : Invocation σ η :=
  match openLog s.files line.logFile with
  | .error f => ⟨2, "", "", complaint f, [], s.files, state⟩
  | .ok files =>
    let c := line.command.conductOn platform { s with files := files } client state
    let events := (Effect.events c.effects).filter filter.passes
    ⟨exitOf c.result, Line.text false (Effect.lines c.effects),
      String.join (events.map (·.colored stamp)), complaintsOf c.result, c.effects,
      logged c.files line.logFile (logBytes stamp events), c.server⟩

/-- The invocation with the given arguments on a platform. The text `wanted` asks for a filter, and
`stamp` stands for the time in the lines of the log file. -/
def ofArgumentsOn (platform : Platform κ η) (arguments : List String) (wanted : Option String)
    (stamp : String) (s : Surroundings) (client : Client σ) (state : σ) : Invocation σ η :=
  match CommandLine.read arguments with
  | .error .help => ⟨0, CommandLine.helpText, "", "", [], s.files, state⟩
  | .error .version => ⟨0, CommandLine.versionText, "", "", [], s.files, state⟩
  | .error .misuse => ⟨2, "", "", CommandLine.misuseText, [], s.files, state⟩
  | .ok line =>
    match Filter.chosen? line.verbose wanted with
    | some filter => ofCommandLine platform line filter stamp s client state
    | none => ⟨101, "", "", Filter.tornText, [], s.files, state⟩

/-- The invocation with the given arguments, with apps that run as processes. -/
def ofArguments (arguments : List String) (wanted : Option String) (stamp : String)
    (s : Surroundings) (client : Client σ) (state : σ) : Invocation σ RunningApp :=
  ofArgumentsOn .processes arguments wanted stamp s client state

end Invocation

/-- The program has no tables of domains, so it takes them at their word. -/
instance : Idna := LiteralDomain.idna

end MetricsHarness
