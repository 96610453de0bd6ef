import MetricsHarness.Process.Test
import MetricsHarness.Script.Reading

/-!
# Commands at work

What the simple commands of a script do: the commands that the shell knows itself, and the programs
that it finds. A program that a script starts works in the place of the script until it ends; a
script that it starts has an environment of its own.
-/

namespace MetricsHarness.Turn

open Process Script

/-- The unit letters of a duration, with their milliseconds. -/
def unitOf? (letters : List Char) : Option Nat :=
  match letters with
  | [] => some 1000
  | ['s'] => some 1000
  | ['m'] => some 60000
  | ['h'] => some 3600000
  | ['d'] => some 86400000
  | _ => none

/-- A duration in milliseconds, a part of one counted as one. -/
def duration? (cs : List Char) : Option Nat := do
  if cs = "inf".toList ∨ cs = "infinity".toList then return 86400000 * 36500
  let whole := cs.takeWhile Text.isDigit
  let rest := cs.dropWhile Text.isDigit
  let (part, rest) := match rest with
    | '.' :: r => (r.takeWhile Text.isDigit, r.dropWhile Text.isDigit)
    | r => ([], r)
  if whole.isEmpty ∧ part.isEmpty then none
  let unit ← unitOf? rest
  let digits := (Text.value? 10 (whole ++ part)).getD 0
  let scale := Nat.pow 10 part.length
  return (digits * unit + scale - 1) / scale

/-- The sum of durations. -/
def durations? (args : List (List Char)) : Option Nat :=
  if args.isEmpty then none else (args.mapM duration?).map fun ns => ns.foldl Nat.add 0

/-- The stream that a number names. -/
def sinkOf (s : Sinks) (number : List Char) : Sink :=
  match number with
  | ['1'] => s.out
  | ['2'] => s.err
  | _ => .nowhere

/-- A sink for one of the two streams. -/
def setSink (s : Sinks) (stream : Nat) (sink : Sink) : Sinks :=
  match stream with
  | 1 => { s with out := sink }
  | 2 => { s with err := sink }
  | _ => s

/-- Carries out a redirection; none if its file cannot be used. -/
def redirect? (t : Turn) (r : Redirect) : Option Turn :=
  let target := t.process.environment.text r.target
  let path := String.ofList target
  let sinks := t.process.sinks
  let going (files : Files) (sink : Sink) : Turn :=
    { t with files := files,
             process := { t.process with sinks := setSink sinks r.stream sink } }
  match r.kind with
  | .copy => some (going t.files (sinkOf sinks target))
  | .read => if (t.files.read path).toBool || path == "/dev/null" then some t else none
  | .write | .append =>
    if path == "/dev/null" then some (going t.files .nowhere)
    else match t.files.findForWriting path with
      | .error _ => none
      | .ok place =>
        let old := match t.files.entry? place, r.kind with
          | some (.file content _), .append => content
          | _, _ => []
        let executable := match t.files.entry? place with
          | some (.file _ x) => x
          | _ => false
        some (going (t.files.add place (.file old executable)) (.file place))

/-- Carries out redirections; the first that fails gives the complaint of the shell. -/
def redirectAll (t : Turn) : List Redirect → Turn × Bool
  | [] => (t, true)
  | r :: rest =>
    match t.redirect? r with
    | some t => t.redirectAll rest
    | none =>
      let e := t.process.environment
      ((t.complain (e.name ++ ": 1: cannot open ".toList ++ e.text r.target)).setStatus 2, false)

/-- Goes to sleep, or complains about the duration. -/
def sleepFor (t : Turn) (args : List (List Char)) : Turn :=
  match durations? args with
  | some n => (t.setStatus 0).sleep n false
  | none => (t.complain "sleep: invalid time interval".toList).setStatus 1

/-- Writes files one after the other. -/
def writeFiles (t : Turn) : List (List Char) → Turn
  | [] => t
  | path :: rest =>
    match t.files.read (String.ofList path) with
    | .ok content => (t.write content).writeFiles rest
    | .error _ =>
      ((t.complain ("cat: ".toList ++ path ++ ": No such file or directory".toList)).setStatus
        1).writeFiles rest

/-- Starts to read a script in an environment of its own. -/
def runScript (t : Turn) (name : List Char) (args : List (List Char)) (text : List Char) : Turn :=
  let process := t.process.environment.process
  let t := t.withEnvironment fun _ => Environment.initial name args process
  match Command.ofText? text with
  | some command => t.push [.run command]
  | none => (t.complain (name ++ ": 1: Syntax error".toList)).setStatus 2

/-- Runs the shell with its arguments: a text after `-c`, or the file of a script. -/
def runShell (t : Turn) (called : List Char) : List (List Char) → Turn
  | [] => t.setStatus 0
  | ['-', 'c'] :: rest =>
    match rest with
    | [] => (t.complain (called ++ ": 0: -c requires an argument".toList)).setStatus 2
    | text :: [] => t.runScript called [] text
    | text :: name :: args => t.runScript name args text
  | ('-' :: _) :: rest => t.runShell called rest
  | path :: args =>
    match textOfFile (t.files.read (String.ofList path)) with
    | .ok text => t.runScript path args text
    | .error _ =>
      let complaint := called ++ ": 0: cannot open ".toList ++ path ++ ": No such file".toList
      (t.complain complaint).setStatus 2

/-- Runs a program of the system under the name it was called by. -/
def runProgram (t : Turn) (called : List Char) (program : Program) (args : List (List Char)) :
    Turn :=
  match program with
  | .shell => t.runShell called args
  | .sleep => t.sleepFor args
  | .ends status => t.setStatus status
  | .echo => (t.setStatus 0).write (echo args)
  | .printf => (t.setStatus 0).write (printf (args.head?.getD []) args.tail)
  | .cat => (t.setStatus 0).writeFiles args
  | .env => t.setStatus 0

/-- The path and the arguments that `env` passes on. -/
def throughEnv (directories : Program.SearchPath) (files : Files) (args : List (List Char)) :
    Option (String × List (List Char)) :=
  match args.dropWhile (·.contains '=') with
  | [] => none
  | name :: rest => do
    let path ← if name.contains '/' then some (String.ofList name)
      else Program.search? files directories (String.ofList name)
    return (path, rest)

/-- Executes the file at a path. A program that `env` names is looked for once. -/
def execute (t : Turn) (directories : Program.SearchPath) (path : String)
    (args : List (List Char)) : Except Program.Fault Turn :=
  match Program.load t.files path with
  | .error f => .error f
  | .ok (program, first) =>
    let args := first.map String.toList ++ args
    match program, throughEnv directories t.files args with
    | .env, some (path, args) =>
      match Program.load t.files path with
      | .error f => .error f
      | .ok (program, first) =>
        .ok (t.runProgram path.toList program (first.map String.toList ++ args))
    | _, _ => .ok (t.runProgram path.toList program args)

/-- Whether a script that calls the file at a path starts a script or a shell. -/
def isShell (files : Files) (path : String) : Bool :=
  match Program.load files path with
  | .ok (.shell, _) => true
  | .ok (.env, _) => true
  | .error .format => true
  | _ => false

/-- Runs a command that is no command of the shell. A file that names no program to read it is read
by the shell. With `apart` the work goes on behind it. -/
def runOther (t : Turn) (directories : Program.SearchPath) (apart : Bool) (name : List Char)
    (args : List (List Char)) : Turn :=
  let saved := t.process.environment
  let complaint (reason : String) : Turn :=
    t.complain (saved.name ++ ": 1: ".toList ++ name ++ reason.toList)
  let found := if name.contains '/' then some (String.ofList name)
    else Program.search? t.files directories (String.ofList name)
  match found with
  | none => (complaint ": not found").setStatus 127
  | some path =>
    let place := if apart && isShell t.files path then t.push [.leave saved t.process.sinks] else t
    match place.execute directories path args with
    | .ok t => t
    | .error .format => place.runShell path.toList (path.toList :: args)
    | .error (.path .denied) => (complaint ": Permission denied").setStatus 126
    | .error _ => (complaint ": not found").setStatus 127

/-- The jobs from the end of the part that is apart on; none if there is no such part. -/
def jobsFromLeave? : List Job → Option (List Job)
  | [] => none
  | .leave environment sinks :: rest => some (.leave environment sinks :: rest)
  | _ :: rest => jobsFromLeave? rest

/-- Ends the script, or the part of it that is apart, with a status; before the end of the script
its trap for that is carried out. -/
def exit (t : Turn) (status : Nat) : Turn :=
  let toTrap (text : List Char) : Turn :=
    match Command.ofText? text with
    | some command =>
      let t := t.withEnvironment ({ · with onExit := none, status := status })
      { t with process := { t.process with jobs := [.run command, .exit status] } }
    | none => t.finish (.exited status)
  match jobsFromLeave? t.process.jobs, t.process.environment.onExit with
  | some jobs, _ => { t with process := { t.process with jobs := jobs } }.setStatus status
  | none, some (.action text) => toTrap text
  | none, _ => t.finish (.exited status)

/-- Sets the trap of a signal. -/
def setTrap (t : Turn) (trap : Option Trap) (signal : List Char) : Turn :=
  match String.ofList signal with
  | "TERM" | "SIGTERM" | "15" => t.withEnvironment ({ · with onTerm := trap })
  | "EXIT" | "0" => t.withEnvironment ({ · with onExit := trap })
  | _ => t

/-- Sets the traps of signals. -/
def setTraps (t : Turn) : List (List Char) → Turn
  | [] => t
  | action :: signals =>
    let trap := match action with
      | ['-'] => none
      | [] => some .ignore
      | text => some (.action text)
    signals.foldl (·.setTrap trap) t

/-- The jobs behind the loop that is being run. -/
def jobsAfterLoop : List Job → List Job
  | [] => []
  | .again .. :: rest => rest
  | .each .. :: rest => rest
  | _ :: rest => jobsAfterLoop rest

/-- The jobs from the loop that is being run on. -/
def jobsFromLoop : List Job → List Job
  | [] => []
  | .again negated condition body :: rest =>
    .run condition :: .again negated condition body :: rest
  | .each name values body :: rest => .each name values body :: rest
  | _ :: rest => jobsFromLoop rest

/-- Whether a job ends a part that is apart. -/
def isLeave : Job → Bool
  | .leave .. => true
  | _ => false

/-- The environment of the script itself, whatever part of it is apart just now. -/
def outermost (p : Process) : Environment :=
  p.jobs.foldl (fun e job =>
    match job with
    | .leave saved _ => saved
    | _ => e) p.environment

/-- Answers a request to end. -/
def request (t : Turn) : Turn :=
  match (outermost t.process).onTerm with
  | none => t.finish (.killed 15)
  | some .ignore => t
  | some (.action _) =>
    let p := { t.process with asked := true }
    { t with process := if p.light then { p with wake := p.wake.map fun _ => p.clock } else p }

/-- Sends a signal from the script to a process; only the script itself is known. -/
def sendSignal (t : Turn) (args : List (List Char)) : Turn :=
  let self := Text.numeralChars t.process.environment.process
  match args with
  | [pid] => if pid = self then t.request.setStatus 0 else t.setStatus 1
  | [signal, pid] =>
    if pid ≠ self then t.setStatus 1
    else match String.ofList signal with
      | "-9" | "-KILL" => t.finish (.killed 9)
      | "-0" => t.setStatus 0
      | _ => t.request.setStatus 0
  | _ => t.setStatus 2

/-- Replaces the script by a program. -/
def replace (t : Turn) (directories : Program.SearchPath) (words : List (List Char)) : Turn :=
  match words with
  | [] => t.setStatus 0
  | name :: args =>
    let found := name.contains '/' ||
      (Program.search? t.files directories (String.ofList name)).isSome
    let ignoring := t.process.environment.onTerm.filter (· == .ignore)
    let t := t.withEnvironment ({ · with onTerm := ignoring, onExit := none })
    let t := { t with process := { t.process with jobs := [] } }
    let t := t.runOther directories false name args
    if found then t else t.finish (.exited 127)

/-- Sets the status to what a condition says. -/
def judge (t : Turn) (args : List (List Char)) : Turn :=
  t.setStatus (match holds? t.files args with
    | some true => 0
    | some false => 1
    | none => 2)

/-- Runs the words of a simple command. -/
def runWords (t : Turn) (directories : Program.SearchPath) (name : List Char)
    (args : List (List Char)) : Turn :=
  let status := t.process.environment.status
  let given := match args.head?.bind (Text.value? 10) with
    | some n => n % 256
    | none => status
  match String.ofList name with
  | ":" => t.setStatus 0
  | "true" => t.setStatus 0
  | "false" => t.setStatus 1
  | "echo" => (t.setStatus 0).write (echo args)
  | "printf" => (t.setStatus 0).write (printf (args.head?.getD []) args.tail)
  | "exit" => t.exit given
  | "trap" => (t.setTraps args).setStatus 0
  | "kill" => t.sendSignal args
  | "exec" => t.replace directories args
  | "export" => t.setStatus 0
  | "set" => t.setStatus 0
  | "shift" => (t.withEnvironment fun e => { e with args := e.args.drop 1 }).setStatus 0
  | "read" => t.setStatus 1
  | "break" => { t with process := { t.process with jobs := jobsAfterLoop t.process.jobs } }
  | "continue" => { t with process := { t.process with jobs := jobsFromLoop t.process.jobs } }
  | "wait" =>
    let last := t.process.background.foldl max t.process.clock
    let t := { t with process := { t.process with background := [] } }
    (t.setStatus 0).sleep (last - t.process.clock) true
  | "test" => t.judge args
  | "[" => if args.getLast? = some [']'] then t.judge args.dropLast else t.setStatus 2
  | _ => t.runOther directories true name args

end MetricsHarness.Turn
