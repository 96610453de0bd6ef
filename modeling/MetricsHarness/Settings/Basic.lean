import MetricsHarness.Failure

/-!
# Settings

The settings of the harness: how long to wait after the apps are started, how long an app may take
to end, and whether what apps print goes to the log. Times are whole seconds.

Their file stands in the configuration directory of the user. A configuration home that is not an
absolute path counts as none.
-/

namespace MetricsHarness

/-- The settings of the harness. -/
structure Settings where
  /-- Seconds between starting the apps and the first query. -/
  startupGrace : UInt64
  /-- Seconds an app has to end after it was asked to. -/
  stopTimeout : UInt64
  /-- Whether lines that apps print become log events. -/
  forwardOutput : Bool
  deriving DecidableEq

namespace Settings

/-- The settings without a file. -/
def default : Settings := ⟨5, 5, true⟩

/-- A path with a name behind it. -/
def joinPath (path name : String) : String :=
  if path.isEmpty || path.toList.getLast? == some '/' then path ++ name else path ++ "/" ++ name

/-- The directory of the configuration files of a user. -/
def configHome (home : String) (configured : Option String) : String :=
  match configured with
  | some path =>
    if path.toList.head? == some '/' then path else joinPath home ".config"
  | none => joinPath home ".config"

/-- The directory of the settings. -/
def directory (home : String) (configured : Option String) : String :=
  joinPath (configHome home configured) "metrics-e2e"

/-- The file of the settings. -/
def file (home : String) (configured : Option String) : String :=
  joinPath (directory home configured) "config.toml"

end Settings

end MetricsHarness
