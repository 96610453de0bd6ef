import MetricsHarness.Proofs.Surfaces
import MetricsHarness.Proofs.Verdict

/-!
# What an invocation shows

An invocation that comes to run a suite shows the verdicts of that run: between the heading and the
verdict on the whole it prints the rows of the queries, its log has the verdicts of the run, and
its exit status says whether there is a query with objections. Whether it comes to that is decided
before anything is started, sent or printed: the command line must be read, a filter chosen, the log
file opened, and the settings and the suite read, in this order.

All of this holds on every platform, whatever its launchers do. Only for the log they have to tell
it no events but their own; those of processes do not (`Platform.processes_tellsOwn`).

Labels and objections are printed as they are. Where they hold no line break, one row has a mark for
each query; a line break in a label can make up a row that looks like another mark
(`not_one_mark_of_break`). The log is looked at before the filter is applied to it.
-/

namespace MetricsHarness

variable {σ κ η : Type}

/-- A platform whose launchers tell only events of their own. -/
def Platform.TellsOwn (platform : Platform κ η) : Prop :=
  ∀ settings, (platform.launcher settings).TellsOwn

/-- The launchers of processes tell only events of their own. -/
theorem Platform.processes_tellsOwn : Platform.processes.TellsOwn := Apps.launcher_tellsOwn

variable {platform : Platform κ η}

/-! ## Commands -/

namespace CommandLine.Command

/-- With settings and a suite that can be read, a command to run the suite does. -/
theorem conductOn_run [Idna] {s : Surroundings} {path : String} {named : Option String}
    {settings : Settings} {suite : Suite} (configured : settingsOf s named = .ok settings)
    (loads : suiteOf s path = .ok suite) (withoutApps : Bool) (client : Client σ) (state : σ) :
    (run path withoutApps named).conductOn platform s client state =
      conductRun platform s client state path withoutApps settings suite := by
  simp only [conductOn, configured, loads]

end CommandLine.Command

/-! ## Invocations -/

namespace Invocation

open CommandLine (Command)

/-- A directory with a suite in its only file, which has the given lines. -/
def holding (lines : List String) : Surroundings :=
  ⟨⟨[(["s"], .file (lines.flatMap fun l => Text.Utf8.encodeString l ++ [0x0A]) false)], []⟩, [],
    "u", .inOrder⟩

end Invocation

end MetricsHarness
