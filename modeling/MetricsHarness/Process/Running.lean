import MetricsHarness.Process.Command

/-!
# Processes at work

A process takes one step after the other until it sleeps or ends (`Turn.run`). A request to end
that has a trap waits until the process is awake. Steps take no time; only sleeping does.

Since a script may go on for ever without sleeping, a process takes no more than a number of steps
at a time (`Turn.patience`).
-/

namespace MetricsHarness.Turn

open Process Script

/-- Starts a command. -/
def start (t : Turn) (directories : Program.SearchPath) : Command → Turn
  | .nothing => t
  | .simple assignments words redirects =>
    let fields := t.process.environment.expandAll words
    let assigned := t.withEnvironment fun e =>
      assignments.foldl (fun e (name, value) => e.assign name (e.text value)) e
    match fields with
    | [] =>
      let (opened, _) := (assigned.setStatus 0).redirectAll redirects
      { opened with process := { opened.process with sinks := t.process.sinks } }
    | name :: args =>
      let (opened, fine) := assigned.redirectAll redirects
      let close : Turn → Turn := fun t' =>
        { t' with process := { t'.process with sinks := t.process.sinks } }
      if !fine then close opened
      else if name = "exec".toList then opened.runWords directories name args
      else if redirects.isEmpty then opened.runWords directories name args
      else (opened.push [.sinks t.process.sinks]).runWords directories name args
  | .seq first second => t.push [.run first, .run second]
  | .and first second => t.push [.run first, .next true second]
  | .or first second => t.push [.run first, .next false second]
  | .not command => t.push [.run command, .negate]
  | .choice condition yes no => t.push [.run condition, .choose yes no]
  | .loop negated condition body => t.push [.run condition, .again negated condition body]
  | .each name values body =>
    t.push [.each name (t.process.environment.expandAll values) body]
  | .group body redirects =>
    if redirects.isEmpty then t.push [.run body]
    else
      let (opened, fine) := t.redirectAll redirects
      opened.push ((if fine then [.run body] else []) ++ [.sinks t.process.sinks])
  | .apart body redirects =>
    let (opened, fine) := t.redirectAll redirects
    opened.push ((if fine then [.run body] else []) ++
      [.leave t.process.environment t.process.sinks])
  | .background command =>
    match command with
    | .simple [] words [] =>
      match t.process.environment.expandAll words with
      | name :: args =>
        if name = "sleep".toList then
          let ends := t.process.clock + (durations? args).getD 0
          { t with process := { t.process with background := ends :: t.process.background } }
        else t.push [.run command]
      | [] => t
    | _ => t.push [.run (.apart command [])]

/-- Does a job. -/
def work (t : Turn) (directories : Program.SearchPath) : Job → Turn
  | .run command => t.start directories command
  | .next zero command =>
    if (t.process.environment.status == 0) == zero then t.push [.run command] else t
  | .negate => t.setStatus (if t.process.environment.status = 0 then 1 else 0)
  | .choose yes no =>
    if t.process.environment.status = 0 then t.push [.run yes]
    else (t.setStatus 0).push [.run no]
  | .again negated condition body =>
    if (t.process.environment.status == 0) != negated then
      t.push [.run body, .run condition, .again negated condition body]
    else t.setStatus 0
  | .each _ [] _ => t
  | .each name (value :: values) body =>
    (t.withEnvironment (·.assign name value)).push [.run body, .each name values body]
  | .sinks saved => { t with process := { t.process with sinks := saved } }
  | .status saved => t.setStatus saved
  | .leave saved sinks =>
    let status := t.process.environment.status
    { t with process := { t.process with
        environment := { saved with status := status }, sinks := sinks } }
  | .exit status => t.finish (.exited status)

/-- Carries out the trap of a request to end. -/
def answer (t : Turn) : Turn :=
  let t := { t with process := { t.process with asked := false } }
  match t.process.environment.onTerm with
  | some (.action text) =>
    match Command.ofText? text with
    | some command => t.push [.run command, .status t.process.environment.status]
    | none => t
  | _ => t

/-- Takes a step; the process is awake. -/
def step (t : Turn) (directories : Program.SearchPath) : Turn :=
  if t.process.asked && !t.process.jobs.any isLeave then t.answer
  else match t.process.jobs with
    | [] => t.exit t.process.environment.status
    | job :: rest => { t with process := { t.process with jobs := rest } }.work directories job

/-- Runs a process up to a time, in at most `fuel` steps. The clock of a process that sleeps or has
steps left stands at that time afterwards, the clock of one that has ended at its end. -/
def runWithin (directories : Program.SearchPath) (limit : Nat) : Nat → Turn → Turn
  | 0, t => { t with process := { t.process with clock := limit } }
  | fuel + 1, t =>
    match t.process.ended, t.process.wake with
    | some _, _ => t
    | none, some time =>
      if time ≤ limit then
        runWithin directories limit fuel { t with process := { t.process with
          clock := max t.process.clock time, wake := none, light := false } }
      else { t with process := { t.process with clock := limit } }
    | none, none => runWithin directories limit fuel (t.step directories)

/-- The greatest number of steps at a time. -/
def patience : Nat := 20000

/-- Runs a process up to a time. -/
def run (t : Turn) (directories : Program.SearchPath) (limit : Nat) : Turn :=
  runWithin directories limit patience t

end MetricsHarness.Turn
