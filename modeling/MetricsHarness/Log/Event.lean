import MetricsHarness.Process.Ending
import MetricsHarness.Suite.Basic
import MetricsHarness.Text.Quoted
import MetricsHarness.Url.Basic

/-!
# Log events

What the harness tells its log, each event with the values it is about. An event has a level, a
message and an origin, the part of the harness that it comes from; a filter chooses by level and
origin.
-/

namespace MetricsHarness

/-- How much an event matters, the most important first. -/
inductive Level where
  | error
  | warn
  | info
  | debug
  | trace
  deriving DecidableEq

/-- The name of a level. -/
def Level.name : Level → String
  | .error => "ERROR"
  | .warn => "WARN"
  | .info => "INFO"
  | .debug => "DEBUG"
  | .trace => "TRACE"

/-- The place of a level, the most important first. -/
def Level.rank : Level → Nat
  | .error => 1
  | .warn => 2
  | .info => 3
  | .debug => 4
  | .trace => 5

/-- The parameter of the color of a level. -/
def Level.color : Level → String
  | .error => "31"
  | .warn => "33"
  | .info => "32"
  | .debug => "34"
  | .trace => "35"

/-- The name of a level, in five places. -/
def Level.column (l : Level) : String :=
  String.ofList (List.replicate (5 - l.name.length) ' ') ++ l.name

/-- The part of the harness that an event comes from. -/
inductive Origin where
  | runner
  | query
  | launcher
  deriving DecidableEq

/-- The name of an origin, from the harness down. -/
def Origin.name : Origin → String
  | .runner => "metrics_e2e::testing::runner"
  | .query => "metrics_e2e::testing::query"
  | .launcher => "metrics_e2e::process::launcher"

/-- Something that is told to the log. -/
inductive Event where
  | runBegins (apps queries : Nat) (withoutApps : Bool)
  | startFailed (app : String) (failure : Failure)
  | startAborted
  | graceBegins (seconds : Nat)
  | delayBegins (seconds : Nat)
  | sending (endpoint path method : String)
  | target (url : Url)
  | received (status : UInt16) (contentType : String) (bytes : Nat)
  | queryPassed (number : Nat)
  | queryFailed (number : Nat) (failures : List String)
  | shuttingDown (apps : Nat)
  | stopFailed (app : String) (failure : Failure)
  | allPassed (total : Nat)
  | someFailed (failed total : Nat)
  | appStarted (app binary : String) (process : Nat)
  | appStopped (app : String) (ending : Ending)
  | appHadEnded (app : String) (ending : Ending)
  | appKilled (app : String) (seconds : Nat)
  | output (app : String) (stream : Stream) (line : String)
  deriving DecidableEq

namespace Event

/-- The level of an event. -/
def level : Event → Level
  | .runBegins .. | .graceBegins .. | .sending .. | .queryPassed .. | .shuttingDown ..
  | .allPassed .. | .appStarted .. | .appStopped .. => .info
  | .startFailed .. | .startAborted | .queryFailed .. | .someFailed .. => .error
  | .delayBegins .. | .target .. | .received .. | .output .. => .debug
  | .stopFailed .. | .appHadEnded .. | .appKilled .. => .warn

/-- The message of an event. -/
def message : Event → String
  | .runBegins .. => "will run test"
  | .startFailed .. => "failed to start app"
  | .startAborted => "app start task failed"
  | .graceBegins .. => "waiting for all required apps to start"
  | .delayBegins .. => "waiting before request"
  | .sending .. => "sending request"
  | .target .. => "normalized request target"
  | .received .. => "received response"
  | .queryPassed .. => "test OK"
  | .queryFailed .. => "test failed"
  | .shuttingDown .. => "shutting down running applications"
  | .stopFailed .. => "failed to stop app"
  | .allPassed .. => "all tests OK"
  | .someFailed .. => "tests failed"
  | .appStarted .. => "started app"
  | .appStopped .. => "app stopped"
  | .appHadEnded .. => "app already exited"
  | .appKilled .. => "app did not exit in time, killing"
  | .output _ _ line => line

/-- The origin of an event. -/
def origin : Event → Origin
  | .delayBegins .. | .sending .. | .target .. | .received .. => .query
  | .appStarted .. | .appStopped .. | .appHadEnded .. | .appKilled .. | .output .. => .launcher
  | _ => .runner

/-- The values of an event by their names. -/
def fields : Event → List (String × String)
  | .runBegins apps queries withoutApps =>
    [("apps", Text.numeral apps), ("queries", Text.numeral queries),
      ("skip_apps", if withoutApps then "true" else "false")]
  | .startFailed app failure => [("app", app), ("error", failure.message)]
  | .startAborted => []
  | .graceBegins seconds => [("grace_secs", Text.numeral seconds)]
  | .delayBegins seconds => [("delay_secs", Text.numeral seconds)]
  | .sending endpoint path method =>
    [("endpoint", endpoint), ("original_url", path), ("method", method)]
  | .target url => [("url", url.text)]
  | .received status contentType bytes =>
    [("status", Text.numeral status.toNat), ("content_type", contentType),
      ("bytes", Text.numeral bytes)]
  | .queryPassed number => [("query", Text.numeral number)]
  | .queryFailed number failures =>
    [("query", Text.numeral number), ("failures", Text.quotedList failures)]
  | .shuttingDown apps => [("apps", Text.numeral apps)]
  | .stopFailed app failure => [("app", app), ("error", failure.message)]
  | .allPassed total => [("total", Text.numeral total)]
  | .someFailed failed total => [("failed", Text.numeral failed), ("total", Text.numeral total)]
  | .appStarted app binary process =>
    [("app", app), ("binary", binary), ("pid", Text.numeral process)]
  | .appStopped app ending => [("app", app), ("status", ending.message)]
  | .appHadEnded app ending => [("app", app), ("status", ending.message)]
  | .appKilled app seconds => [("app", app), ("timeout_secs", Text.numeral seconds)]
  | .output app stream _ => [("app", app), ("stream", Text.quoted stream.name)]

/-- Whether an event has a value of a name; its message is one of them. -/
def hasValue (e : Event) (name : String) : Bool :=
  name == "message" || e.fields.any (·.1 == name)

/-- Level and message of an event. -/
def text (e : Event) : String := e.level.name ++ " " ++ e.message

/-- The line of a log file for an event: the time, the level, the thread, the origin, the message
and the values. -/
def line (time : String) (e : Event) : String :=
  let values := e.fields.map fun (name, value) => s!" {name}={value}"
  s!"{time} {e.level.column} ThreadId(01) {e.origin.name}: {e.message}{String.join values}\n"

/-- The line of an event between messages: the time, the level, the message and the values, with
colors. -/
def colored (time : String) (e : Event) : String :=
  let values := e.fields.map fun (name, value) =>
    s!" \x1b[3m{name}\x1b[0m\x1b[2m=\x1b[0m{value}"
  s!"\x1b[2m{time}\x1b[0m \x1b[{e.level.color}m{e.level.column}\x1b[0m {e.message}" ++
    String.join values ++ "\n"

end Event

end MetricsHarness
