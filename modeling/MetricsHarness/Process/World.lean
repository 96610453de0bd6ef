import MetricsHarness.Process.Running

/-!
# Worlds of processes

Processes side by side, known by their numbers, with the files they share and one clock. When time
passes, each process runs up to the new time, the older ones first. What they write to their pipes
comes out in that order.
-/

namespace MetricsHarness

/-- Processes, files and the time in milliseconds. -/
structure World where
  files : Files
  directories : Program.SearchPath
  now : Nat
  processes : List (Nat × Process)

/-- Bytes that a process has written to one of its pipes. -/
structure World.Output where
  process : Nat
  stream : Stream
  bytes : Bytes

namespace World

/-- A world without processes. -/
def initial (files : Files) (directories : Program.SearchPath) : World :=
  ⟨files, directories, 0, []⟩

/-- The process of a number. -/
def process? (w : World) (n : Nat) : Option Process := w.processes.lookup n

/-- Puts a process in the place of the one of its number. -/
def put (w : World) (n : Nat) (p : Process) : World :=
  { w with processes := w.processes.map fun (m, q) => if m = n then (m, p) else (m, q) }

/-- Runs the process of a number up to a time. -/
def runOne (w : World) (n : Nat) (limit : Nat) : List Output × World :=
  match w.process? n with
  | none => ([], w)
  | some p =>
    let t := Turn.run ⟨p, w.files, []⟩ w.directories limit
    (t.written.map fun (stream, bytes) => ⟨n, stream, bytes⟩,
      { w with files := t.files }.put n t.process)

/-- Runs processes up to a time, one after the other. -/
def runEach (limit : Nat) : List Nat → World → List Output × World
  | [], w => ([], w)
  | n :: rest, w =>
    let (first, w) := w.runOne n limit
    let (more, w) := runEach limit rest w
    (first ++ more, w)

/-- Some milliseconds pass. -/
def elapse (w : World) (milliseconds : Nat) : List Output × World :=
  let limit := w.now + milliseconds
  let (output, w) := runEach limit (w.processes.map (·.1)) w
  (output, { w with now := limit })

/-- How the process of a number has ended, if it has. -/
def ending? (w : World) (n : Nat) : Option Ending := (w.process? n).bind (·.ended)

/-- Time passes until the process of a number has ended, at most some milliseconds. -/
def await (w : World) (n : Nat) (milliseconds : Nat) : List Output × World :=
  let (first, after) := w.runOne n (w.now + milliseconds)
  let passed := match after.process? n with
    | some p => if p.ended.isSome then p.clock - w.now else milliseconds
    | none => milliseconds
  let (more, after) := after.elapse passed
  (first ++ more, after)

/-- Changes the process of a number, which then runs on at the present time. -/
def disturb (w : World) (n : Nat) (change : Turn → Turn) : List Output × World :=
  match w.process? n with
  | none => ([], w)
  | some p =>
    if p.ended.isSome then ([], w)
    else (w.put n (change ⟨p, w.files, []⟩).process).runOne n w.now

/-- Asks a process to end. -/
def ask (w : World) (n : Nat) : List Output × World := w.disturb n Turn.request

/-- Ends a process. -/
def kill (w : World) (n : Nat) : World := (w.disturb n (·.finish (.killed 9))).2

/-- Sinks when nobody reads a stream any more. -/
def breakSink (stream : Stream) (sink : Process.Sink) : Process.Sink :=
  if sink = .pipe stream then .broken else sink

/-- Sinks when nobody reads a stream any more. -/
def breakSinks (stream : Stream) (s : Process.Sinks) : Process.Sinks :=
  ⟨breakSink stream s.out, breakSink stream s.err⟩

/-- Work when nobody reads a stream any more. -/
def breakJob (stream : Stream) : Process.Job → Process.Job
  | .sinks saved => .sinks (breakSinks stream saved)
  | .leave saved sinks => .leave saved (breakSinks stream sinks)
  | job => job

/-- Nobody reads a stream of a process any more. -/
def breakPipe (w : World) (n : Nat) (stream : Stream) : World :=
  match w.process? n with
  | none => w
  | some p => w.put n { p with
      sinks := breakSinks stream p.sinks, jobs := p.jobs.map (breakJob stream) }

/-- Starts the program at a path; answers the number of its process. -/
def spawn (w : World) (path : String) (args : List String) (sinks : Process.Sinks) :
    Except Program.Fault (Nat × List Output × World) :=
  if path.toList.contains '\x00' || args.any (·.toList.contains '\x00') then .error .nulByte
  else
    let n := 1000 + w.processes.length
    let fresh : Process :=
      ⟨.initial path.toList (args.map String.toList) n, [], sinks, w.now, none, false, [], false,
        none⟩
    match Turn.execute ⟨fresh, w.files, []⟩ w.directories path (args.map String.toList) with
    | .error f => .error f
    | .ok t =>
      let w := { w with files := t.files, processes := w.processes ++ [(n, t.process)] }
      let first := t.written.map fun (stream, bytes) => ⟨n, stream, bytes⟩
      let (more, w) := w.runOne n w.now
      .ok (n, first ++ more, w)

end World

end MetricsHarness
