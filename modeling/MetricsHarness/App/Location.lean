import MetricsHarness.Process.Program
import MetricsHarness.Suite.Basic

/-!
# Where the program of an app is

The binary of an app is a path or a bare name. A path has at least two components; it is used as it
is, if it leads to anything at all. A bare name is looked up in the search directories.
-/

namespace MetricsHarness

namespace Files

/-- The number of components of a path. The root is one, and so is a `.` in front; other empty
parts and `.` are none. -/
def components (path : String) : Nat :=
  let named := (parts path).filter fun p => p ≠ "" ∧ p ≠ "."
  let first := if isAbsolute path || (parts path).head? = some "." then 1 else 0
  first + named.length

end Files

namespace App

/-- The path of the program of an app. -/
def locate (files : Files) (directories : Program.SearchPath) (app : App) :
    Except Failure String :=
  let missing : Except Failure String := .error (.binaryNotFound app.name app.binary)
  if 1 < Files.components app.binary then
    if files.exists? app.binary then .ok app.binary else missing
  else match Program.search? files directories app.binary with
    | some path => .ok path
    | none => missing

end App

end MetricsHarness
