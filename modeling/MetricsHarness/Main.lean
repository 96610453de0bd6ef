import MetricsHarness.CommandLine.Conduct

/-!
# The program

Reads what an invocation may look at, carries it out, and writes down what came of it. All that is
decided is decided by `Invocation.ofArguments`; here are only the files, the streams and the exit
status.

Requests are sent to nobody: every server is one that cannot be reached.
-/

namespace MetricsHarness.Main

/-- The paths that lead to a path, itself included. -/
def pathsTo (path : String) : List String :=
  let parts := Files.parts path
  (List.range parts.length).map fun i =>
    String.intercalate "/" (parts.take (i + 1))

/-- The place that a path from the directory of the program leads to, if nothing on the way is a
link. -/
def placeOf (start : Place) (path : String) : Place :=
  (Files.parts path).foldl (fun here part =>
    if part = "" ∨ part = "." then here
    else if part = ".." then here.dropLast
    else here ++ [part]) (if Files.isAbsolute path then [] else start)

/-- Adds what is found at a path. -/
def addFound (files : Files) (path : String) : IO Files := do
  let target := (← IO.currentDir) / path
  let place := placeOf files.start path
  if place.isEmpty then return files
  else if ← target.isDir then return files.add place .directory
  else if ← target.pathExists then
    try
      let content ← IO.FS.readBinFile target
      return files.add place (.file content.toList false)
    catch _ => return files
  else return files

/-- The paths that a command line names. -/
def namedPaths (line : CommandLine) (usualSettings : String) : List String :=
  let own := match line.command with
    | .check suite => [suite]
    | .run suite _ settings => [suite, settings.getD usualSettings]
  line.logFile.toList ++ own

/-- Writes the log file. -/
def writeLog (path : String) (files : Files) : IO Unit :=
  match files.read path with
  | .ok content => do
    IO.FS.writeBinFile ((← IO.currentDir) / path) (ByteArray.mk content.toArray)
  | .error _ => return ()

end MetricsHarness.Main

open MetricsHarness MetricsHarness.Main in
/-- Runs the harness. -/
def main (arguments : List String) : IO UInt32 := do
  let home := (← IO.getEnv "HOME").getD "/root"
  let usualSettings := Settings.file home (← IO.getEnv "XDG_CONFIG_HOME")
  let wanted ← IO.getEnv "RUST_LOG"
  let line := (CommandLine.read arguments).toOption
  let start := Files.parts (← IO.currentDir).toString |>.filter (· ≠ "")
  let paths := match line with
    | some line => (namedPaths line usualSettings).flatMap pathsTo
    | none => []
  let files ← paths.foldlM addFound (Program.installed (Files.bare start))
  let stamp := toString (← IO.monoMsNow)
  let directories := ["/usr/bin", "/bin"]
  let invocation := Invocation.ofArguments arguments wanted stamp
    ⟨files, directories, usualSettings, .inOrder⟩ Server.absent ()
  match line with
  | some line =>
    match line.logFile with
    | some path => writeLog path invocation.files
    | none => pure ()
  | none => pure ()
  IO.print invocation.printed
  IO.eprint (invocation.told ++ invocation.complaints)
  return invocation.exit.toUInt32
