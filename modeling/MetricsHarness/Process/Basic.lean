import MetricsHarness.Process.Ending
import MetricsHarness.Process.Program
import MetricsHarness.Script.Environment

/-!
# Processes

A process runs a program from its start to its end. It has work to do, one job after the other, two
streams to write to, and a clock of its own in milliseconds, which stands at the time up to which
the process has run. While it sleeps it knows when to wake up.
-/

namespace MetricsHarness

namespace Process

/-- Where a stream goes. -/
inductive Sink where
  | nowhere
  /-- Somebody reads what is written. -/
  | pipe (stream : Stream)
  /-- Nobody reads any more. -/
  | broken
  | file (place : Place)
  deriving DecidableEq

/-- The two streams of a process. -/
structure Sinks where
  out : Sink
  err : Sink

/-- A piece of work. -/
inductive Job where
  | run (command : Script.Command)
  /-- Runs a command if the status is zero, or with `false` if it is not. -/
  | next (zero : Bool) (command : Script.Command)
  | negate
  | choose (yes no : Script.Command)
  /-- Goes on with a loop whose condition has been looked at. -/
  | again (negated : Bool) (condition body : Script.Command)
  /-- Goes on with a loop over values. -/
  | each (name : List Char) (values : List (List Char)) (body : Script.Command)
  /-- The streams go where they went before. -/
  | sinks (saved : Sinks)
  /-- The status is what it was before. -/
  | status (saved : Nat)
  /-- Environment and streams are what they were before, but for the status. -/
  | leave (saved : Script.Environment) (streams : Sinks)
  /-- Ends the script with a status. -/
  | exit (status : Nat)

end Process

/-- A process. -/
structure Process where
  environment : Script.Environment
  jobs : List Process.Job
  sinks : Process.Sinks
  /-- The time up to which the process has run. -/
  clock : Nat
  /-- The time at which the process wakes up, if it sleeps. -/
  wake : Option Nat
  /-- Whether a request to end cuts the sleep short. -/
  light : Bool
  /-- The times at which sleeps in the background end. -/
  background : List Nat
  /-- A request to end has come and waits for its trap. -/
  asked : Bool
  ended : Option Ending

/-- A process at work: the files it sees, and what it has written to its pipes so far. -/
structure Turn where
  process : Process
  files : Files
  written : List (Stream × Bytes)

namespace Turn

/-- Changes the environment. -/
def withEnvironment (t : Turn) (f : Script.Environment → Script.Environment) : Turn :=
  { t with process := { t.process with environment := f t.process.environment } }

/-- Sets the status. -/
def setStatus (t : Turn) (status : Nat) : Turn := t.withEnvironment ({ · with status := status })

/-- Puts work in front. -/
def push (t : Turn) (jobs : List Process.Job) : Turn :=
  { t with process := { t.process with jobs := jobs ++ t.process.jobs } }

/-- Ends the process. -/
def finish (t : Turn) (ending : Ending) : Turn :=
  { t with process := { t.process with jobs := [], wake := none, ended := some ending } }

/-- Puts the process to sleep for some milliseconds. -/
def sleep (t : Turn) (milliseconds : Nat) (light : Bool) : Turn :=
  { t with process := { t.process with
      wake := some (t.process.clock + milliseconds), light := light } }

/-- Adds to the end of the file at a place. -/
def addToFile (files : Files) (place : Place) (bytes : Bytes) : Files :=
  match files.entry? place with
  | some (.file content executable) => files.add place (.file (content ++ bytes) executable)
  | _ => files.add place (.file bytes false)

/-- Writes to a sink. Writing where nobody reads ends the process. -/
def writeTo (t : Turn) (sink : Process.Sink) (bytes : Bytes) : Turn :=
  if bytes.isEmpty then t
  else match sink with
    | .nowhere => t
    | .pipe stream => { t with written := t.written ++ [(stream, bytes)] }
    | .broken => t.finish (.killed 13)
    | .file place => { t with files := addToFile t.files place bytes }

/-- Writes to the first stream. -/
def write (t : Turn) (bytes : Bytes) : Turn := t.writeTo t.process.sinks.out bytes

/-- Writes a line to the second stream. -/
def complain (t : Turn) (text : List Char) : Turn :=
  t.writeTo t.process.sinks.err (Text.Utf8.encode (text ++ ['\n']))

end Turn

end MetricsHarness
