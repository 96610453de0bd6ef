import MetricsHarness.Text.Pieces

/-!
# Command lines

There are two commands: `run` runs a suite, `check` only reads one. Both take the path of the suite
and the options for all commands, which may also stand in front of the command; given in both
places, the one behind the command counts. No option may be given twice in one place.

The value of an option follows in the next argument or behind an equals sign; it is not empty.
Behind `--` there are no options any more. What stands first decides: a request for help or for the
version in front of a mistake is answered, behind it the mistake is.
-/

namespace MetricsHarness

/-- What the harness is asked to do. -/
inductive CommandLine.Command where
  | run (suite : String) (withoutApps : Bool) (settings : Option String)
  | check (suite : String)
  deriving DecidableEq

/-- A command with the options for all commands. -/
structure CommandLine where
  verbose : Bool
  logFile : Option String
  command : CommandLine.Command
  deriving DecidableEq

namespace CommandLine

/-- Why there is no command to carry out. -/
inductive Refusal where
  | misuse
  | help
  | version
  deriving DecidableEq

/-- Where arguments stand: in front of a command, or behind one. -/
inductive Level where
  | front
  | run
  | check
  deriving DecidableEq

/-- The options and the suite that have been read at one level. -/
structure Options where
  verbose : Bool
  logFile : Option String
  withoutApps : Bool
  settings : Option String
  suite : Option String

/-- Nothing has been read. -/
def Options.none : Options := ⟨false, .none, false, .none, .none⟩

/-- The commands by their names. -/
def level? (name : String) : Option Level :=
  match name with
  | "run" => some .run
  | "check" => some .check
  | _ => none

/-- Sets an option without a value. -/
def setFlag (level : Level) (o : Options) (name : String) : Except Refusal Options :=
  match name, level with
  | "verbose", _ => if o.verbose then .error .misuse else .ok { o with verbose := true }
  | "no-apps", .run =>
    if o.withoutApps then .error .misuse else .ok { o with withoutApps := true }
  | "help", _ => .error .help
  | "version", .front => .error .version
  | _, _ => .error .misuse

/-- Whether a name is that of an option with a value. -/
def takesValue (level : Level) (name : String) : Bool :=
  name == "log-file" || (name == "config" && level == .run)

/-- Sets an option with a value. -/
def setValue (o : Options) (name value : String) : Except Refusal Options :=
  if value.isEmpty then .error .misuse
  else if name = "log-file" then
    if o.logFile.isSome then .error .misuse else .ok { o with logFile := some value }
  else if o.settings.isSome then .error .misuse
  else .ok { o with settings := some value }

/-- Sets the suite. -/
def setSuite (level : Level) (o : Options) (path : String) : Except Refusal Options :=
  if level = .front ∨ o.suite.isSome ∨ path.isEmpty then .error .misuse
  else .ok { o with suite := some path }

/-- Sets the options of the letters of an argument. -/
def setLetters (level : Level) (o : Options) : List Char → Except Refusal Options
  | [] => .ok o
  | 'v' :: rest => do setLetters level (← setFlag level o "verbose") rest
  | 'h' :: _ => .error .help
  | 'V' :: _ => setFlag level o "version"
  | _ :: _ => .error .misuse

/-- An argument that is taken for options. -/
def isOption (argument : String) : Bool :=
  Text.startsWith ['-'] argument.toList && argument != "-"

/-- The name of a long option and the value behind its equals sign. -/
def longOption? (argument : String) : Option (String × Option String) :=
  match argument.toList with
  | '-' :: '-' :: rest =>
    let name := String.ofList (rest.takeWhile (· != '='))
    match rest.dropWhile (· != '=') with
    | [] => some (name, none)
    | _ :: value => some (name, some (String.ofList value))
  | _ => none

/-- What the arguments at a level come to: the options, and in front of a command its level and
the arguments behind it. -/
abbrev Outcome := Options × Option (Level × List String)

/-- Takes every argument for a suite. -/
def readSuites (level : Level) (o : Options) : List String → Except Refusal Options
  | [] => .ok o
  | a :: rest => do readSuites level (← setSuite level o a) rest

/-- The answer to a request for help, perhaps with a command. -/
def helpFor : List String → Refusal
  | [] => .help
  | [name] => if (level? name).isSome ∨ name = "help" then .help else .misuse
  | _ :: _ :: _ => .misuse

/-- Reads the arguments at a level. -/
def readLevel (level : Level) (o : Options) : List String → Except Refusal Outcome
  | [] => .ok (o, none)
  | a :: rest =>
    if level = .front ∧ a = "help" then .error (helpFor rest)
    else match (if level = .front then level? a else none) with
      | some next => .ok (o, some (next, rest))
      | none =>
        if a = "--" then
          match readSuites level o rest with
          | .ok o => .ok (o, none)
          | .error r => .error r
        else match longOption? a with
          | some (name, some value) =>
            if takesValue level name then
              match setValue o name value with
              | .ok o => readLevel level o rest
              | .error r => .error r
            else .error .misuse
          | some (name, none) =>
            if takesValue level name then
              match rest with
              | [] => .error .misuse
              | value :: rest =>
                if isOption value then .error .misuse
                else match setValue o name value with
                  | .ok o => readLevel level o rest
                  | .error r => .error r
            else match setFlag level o name with
              | .ok o => readLevel level o rest
              | .error r => .error r
          | none =>
            let set := if isOption a then setLetters level o (a.toList.drop 1)
              else setSuite level o a
            match set with
            | .ok o => readLevel level o rest
            | .error r => .error r

/-- The command of the options behind it. -/
def commandOf (level : Level) (o : Options) : Except Refusal Command :=
  match level, o.suite with
  | .run, some suite => .ok (.run suite o.withoutApps o.settings)
  | .check, some suite => .ok (.check suite)
  | _, _ => .error .misuse

/-- Reads a command line. -/
def read (arguments : List String) : Except Refusal CommandLine := do
  let (front, behind) ← readLevel .front .none arguments
  match behind with
  | none => .error .misuse
  | some (level, rest) =>
    let (own, _) ← readLevel level .none rest
    let command ← commandOf level own
    return ⟨front.verbose || own.verbose, own.logFile <|> front.logFile, command⟩

/-- The text that answers a request for the version. -/
def versionText : String := "metrics-e2e 0.1.0\n"

/-- The text that answers a request for help. -/
def helpText : String :=
  "End-to-end checks for metrics-query APIs\n\n" ++
  "Usage: metrics-e2e [OPTIONS] <COMMAND>\n\n" ++
  "Commands:\n" ++
  "  run    Run a suite against the configured apps\n" ++
  "  check  Load and validate a suite definition without running it\n" ++
  "  help   Print this message or the help of the given subcommand(s)\n\n" ++
  "Options:\n" ++
  "  -v, --verbose              Log request and app output details\n" ++
  "      --log-file <LOG_FILE>  Also write logs to this file\n" ++
  "  -h, --help                 Print help\n" ++
  "  -V, --version              Print version\n"

/-- What a command line that cannot be read is answered. -/
def misuseText : String := "error: invalid arguments\n\nFor more information, try '--help'.\n"

end CommandLine

end MetricsHarness
