import MetricsHarness.Proofs.Invocations

/-!
# What has to be loaded first

Before a command does anything its log file is opened, a run gets its settings, and the suite is
read. Each of the three can fail. The first failure ends the invocation: it is what is complained
about, the exit status is 2, and nothing has been printed, started, stopped or sent. No other way
leads to that status.

The failures are told as relations on the files (`Files.Fails`, `Command.Fails`,
`CommandLine.Fails`), apart from the functions that find them. Settings and suite are looked for
when the log file is open, because opening it can make the very file they are in.

The filter of the log is chosen before all of this. If its text cannot be read nothing is loaded at
all, and the status is 101 whatever could not have been loaded (`not_exit_two_iff_fails`).
-/

namespace MetricsHarness

variable {σ κ η : Type} {platform : Platform κ η}

/-! ## Files -/

/-- Why a file gives nothing: it cannot be read, it is no text, or its text is not what it has to
be. -/
inductive Files.Fails {α : Type} (files : Files) (path : String)
    (decode : List Char → Except DocumentFault α) (blame : DocumentFault → Failure) :
    Failure → Prop
  | unread {fault : Files.Fault} (fails : files.read path = .error fault) :
    Fails files path decode blame (.unreadable path fault.message)
  | noText {bytes : Bytes} (reads : files.read path = .ok bytes)
    (fails : Text.Utf8.decode? bytes = none) :
    Fails files path decode blame (.unreadable path Files.Fault.notText.message)
  | undecoded {bytes : Bytes} {text : List Char} {fault : DocumentFault}
    (reads : files.read path = .ok bytes) (spells : Text.Utf8.decode? bytes = some text)
    (fails : decode text = .error fault) : Fails files path decode blame (blame fault)

/-- Loads what a file gives. -/
def Files.load {α : Type} (files : Files) (path : String)
    (decode : List Char → Except DocumentFault α) (blame : DocumentFault → Failure) :
    Except Failure α :=
  match textOfFile (files.read path) with
  | .error fault => .error (.unreadable path fault.message)
  | .ok text =>
    match decode text with
    | .error fault => .error (blame fault)
    | .ok a => .ok a

/-- Loading fails for one of the reasons. -/
theorem Files.load_eq_error_iff {α : Type} {files : Files} {path : String}
    {decode : List Char → Except DocumentFault α} {blame : DocumentFault → Failure}
    {failure : Failure} :
    files.load path decode blame = .error failure ↔ files.Fails path decode blame failure := by
  constructor
  · unfold load textOfFile
    intro fails
    cases reads : files.read path with
    | error fault =>
      rw [reads] at fails
      cases fails
      exact .unread reads
    | ok bytes =>
      cases spells : Text.Utf8.decode? bytes with
      | none =>
        simp only [reads, spells] at fails
        cases fails
        exact .noText reads spells
      | some text =>
        cases decodes : decode text with
        | error fault =>
          simp only [reads, spells, decodes] at fails
          cases fails
          exact .undecoded reads spells decodes
        | ok a =>
          simp only [reads, spells, decodes] at fails
          nomatch fails
  · rintro (fails | ⟨reads, fails⟩ | ⟨reads, spells, fails⟩)
    · simp only [load, textOfFile, fails]
    · simp only [load, textOfFile, reads, fails]
    · simp only [load, textOfFile, reads, spells, fails]

/-- There is one reason why a file gives nothing. -/
theorem Files.Fails.unique {α : Type} {files : Files} {path : String}
    {decode : List Char → Except DocumentFault α} {blame : DocumentFault → Failure}
    {first second : Failure} (one : files.Fails path decode blame first)
    (other : files.Fails path decode blame second) : first = second :=
  Except.error.inj
    ((Files.load_eq_error_iff.mpr one).symm.trans (Files.load_eq_error_iff.mpr other))

/-! ## Settings and suites -/

/-- Why there are no settings for a run: the file at the named path gives none, or the file at the
usual path is there and gives none. -/
inductive Surroundings.LacksSettings (s : Surroundings) : Option String → Failure → Prop
  | named {path : String} {failure : Failure}
    (fails : s.files.Fails path Settings.ofText .settings failure) :
    LacksSettings s (some path) failure
  | usual {failure : Failure}
    (present : ∀ fault, s.files.read s.usualSettings = .error fault → fault.isMissing = false)
    (fails : s.files.Fails s.usualSettings Settings.ofText .settings failure) :
    LacksSettings s none failure

theorem Settings.ofFile_read (files : Files) (path : String) :
    Settings.ofFile path (files.read path) = files.load path Settings.ofText .settings := by
  unfold Settings.ofFile Files.load
  cases textOfFile (files.read path) with
  | error fault => rfl
  | ok text =>
    dsimp only
    cases Settings.ofText text <;> rfl

theorem Suite.ofFile_read (files : Files) (path : String) :
    Suite.ofFile path (files.read path) = files.load path Suite.ofText .suite := by
  unfold Suite.ofFile Files.load
  cases textOfFile (files.read path) with
  | error fault => rfl
  | ok text =>
    dsimp only
    cases Suite.ofText text <;> rfl

namespace CommandLine.Command

theorem suiteOf_eq_error_iff {s : Surroundings} {path : String} {failure : Failure} :
    suiteOf s path = .error failure ↔ s.files.Fails path Suite.ofText .suite failure := by
  rw [suiteOf, Suite.ofFile_read, Files.load_eq_error_iff]

theorem settingsOf_eq_error_iff {s : Surroundings} {named : Option String} {failure : Failure} :
    settingsOf s named = .error failure ↔ s.LacksSettings named failure := by
  cases named with
  | some path =>
    rw [settingsOf, Settings.ofFile_read, Files.load_eq_error_iff]
    constructor
    · exact .named
    · rintro ⟨fails⟩
      exact fails
  | none =>
    have loads : Settings.ofFile s.usualSettings (s.files.read s.usualSettings) = .error failure ↔
        s.files.Fails s.usualSettings Settings.ofText .settings failure := by
      rw [Settings.ofFile_read, Files.load_eq_error_iff]
    unfold settingsOf Settings.ofUsualFile
    cases reads : s.files.read s.usualSettings with
    | ok bytes =>
      rw [reads] at loads
      dsimp only
      rw [loads]
      constructor
      · intro fails
        refine .usual ?_ fails
        intro fault unread
        rw [reads] at unread
        nomatch unread
      · rintro (_ | ⟨-, fails⟩)
        exact fails
    | error fault =>
      rw [reads] at loads
      dsimp only
      cases missing : fault.isMissing with
      | true =>
        rw [if_pos rfl]
        constructor
        · intro fails
          nomatch fails
        · rintro (_ | ⟨present, -⟩)
          have there := present fault reads
          rw [missing] at there
          nomatch there
      | false =>
        rw [if_neg Bool.false_ne_true, loads]
        constructor
        · intro fails
          refine .usual ?_ fails
          intro other unread
          rw [reads] at unread
          cases unread
          exact missing
        · rintro (_ | ⟨-, fails⟩)
          exact fails

/-! ## Commands -/

/-- Why a command is not carried out. A run needs settings before it needs its suite. -/
inductive Fails (s : Surroundings) : CommandLine.Command → Failure → Prop
  | settings {path : String} {withoutApps : Bool} {named : Option String} {failure : Failure}
    (lacks : s.LacksSettings named failure) : Fails s (.run path withoutApps named) failure
  | suite {path : String} {withoutApps : Bool} {named : Option String} {failure : Failure}
    (configured : ∀ fault, ¬s.LacksSettings named fault)
    (fails : s.files.Fails path Suite.ofText .suite failure) :
    Fails s (.run path withoutApps named) failure
  | checked {path : String} {failure : Failure}
    (fails : s.files.Fails path Suite.ofText .suite failure) : Fails s (.check path) failure

/-- There is one reason why a command is not carried out. -/
theorem Fails.unique {s : Surroundings} {command : CommandLine.Command} {first second : Failure}
    (one : command.Fails s first) (other : command.Fails s second) : first = second := by
  cases one with
  | settings lacks => cases other with
    | settings lacks' =>
      exact Except.error.inj
        ((settingsOf_eq_error_iff.mpr lacks).symm.trans (settingsOf_eq_error_iff.mpr lacks'))
    | suite configured _ => exact absurd lacks (configured _)
  | suite configured fails => cases other with
    | settings lacks => exact absurd lacks (configured _)
    | suite _ fails' => exact fails.unique fails'
  | checked fails => cases other with
    | checked fails' => exact fails.unique fails'

/-- Settings that are not lacking are there. -/
theorem exists_settingsOf {s : Surroundings} {named : Option String}
    (configured : ∀ fault, ¬s.LacksSettings named fault) :
    ∃ settings, settingsOf s named = .ok settings := by
  cases found : settingsOf s named with
  | ok settings => exact ⟨settings, rfl⟩
  | error fault => exact absurd (settingsOf_eq_error_iff.mp found) (configured fault)

theorem not_lacksSettings {s : Surroundings} {named : Option String} {settings : Settings}
    (found : settingsOf s named = .ok settings) (fault : Failure) :
    ¬s.LacksSettings named fault := by
  intro lacks
  rw [settingsOf_eq_error_iff.mpr lacks] at found
  nomatch found

/-- A command that fails is ended before it did anything. -/
theorem Fails.conductOn [Idna] {s : Surroundings} {command : CommandLine.Command}
    {failure : Failure}
    (fails : command.Fails s failure) (client : Client σ) (state : σ) :
    command.conductOn platform s client state = failed s state failure := by
  cases fails with
  | settings lacks => simp only [Command.conductOn, settingsOf_eq_error_iff.mpr lacks]
  | suite configured fails =>
    obtain ⟨settings, found⟩ := exists_settingsOf configured
    simp only [Command.conductOn, found, suiteOf_eq_error_iff.mpr fails]
  | checked fails => simp only [Command.conductOn, suiteOf_eq_error_iff.mpr fails]

/-- With a suite that can be read, a check shows what is in it. -/
theorem conductOn_check [Idna] {s : Surroundings} {path : String} {suite : Suite}
    (loads : suiteOf s path = .ok suite) (client : Client σ) (state : σ) :
    (check path).conductOn platform s client state =
      ⟨.ok true, (suiteLines path suite).map .print, s.files, state⟩ := by
  simp only [Command.conductOn, loads]

/-- A command that does not fail is carried out. -/
theorem result_conductOn [Idna] {s : Surroundings} {command : CommandLine.Command}
    (carried : ∀ failure, ¬command.Fails s failure) (client : Client σ) (state : σ) :
    ∃ passed, (command.conductOn platform s client state).result = .ok passed := by
  cases command with
  | run path withoutApps named =>
    have configured : ∀ fault, ¬s.LacksSettings named fault :=
      fun fault lacks => carried fault (.settings lacks)
    obtain ⟨settings, found⟩ := exists_settingsOf configured
    cases read : suiteOf s path with
    | error failure =>
      exact absurd (.suite configured (suiteOf_eq_error_iff.mp read)) (carried failure)
    | ok suite =>
      rw [conductOn_run found read]
      exact ⟨_, rfl⟩
  | check path =>
    cases read : suiteOf s path with
    | error failure => exact absurd (.checked (suiteOf_eq_error_iff.mp read)) (carried failure)
    | ok suite =>
      rw [conductOn_check read]
      exact ⟨true, rfl⟩

/-- A check is content or fails, only prints, and leaves the server alone. -/
theorem check_conductOn [Idna] (s : Surroundings) (path : String) (client : Client σ) (state : σ) :
    ((check path).conductOn platform s client state).result ≠ .ok false ∧
    (∀ effect ∈ ((check path).conductOn platform s client state).effects,
      ∃ line, effect = .print line) ∧
    ((check path).conductOn platform s client state).server = state := by
  cases read : suiteOf s path with
  | error failure =>
    rw [Fails.conductOn (.checked (suiteOf_eq_error_iff.mp read))]
    refine ⟨?_, ?_, rfl⟩
    · intro said
      nomatch said
    · intro effect within
      nomatch within
  | ok suite =>
    rw [conductOn_check read]
    refine ⟨?_, ?_, rfl⟩
    · intro said
      nomatch said
    · intro effect within
      obtain ⟨line, -, rfl⟩ := List.mem_map.mp within
      exact ⟨line, rfl⟩

/-- With settings for the run, a check of a suite fails as a run of it does. -/
theorem check_fails_iff {s : Surroundings} {path : String} {withoutApps : Bool}
    {named : Option String} (configured : ∀ fault, ¬s.LacksSettings named fault)
    {failure : Failure} :
    (check path).Fails s failure ↔ (run path withoutApps named).Fails s failure := by
  constructor
  · intro fails
    cases fails with
    | checked fails => exact .suite configured fails
  · intro fails
    cases fails with
    | settings lacks => exact absurd lacks (configured failure)
    | suite _ fails => exact .checked fails

end CommandLine.Command

/-! ## Invocations -/

/-- Why a command line is not carried out. The log file comes first; the command finds the files as
they are when the log file is open. -/
inductive CommandLine.Fails (s : Surroundings) (line : CommandLine) : Failure → Prop
  | logFile {path : String} {fault : Files.Fault} (named : line.logFile = some path)
    (fails : s.files.append path [] = .error fault) :
    Fails s line (.unwritable path fault.message)
  | command {files : Files} {failure : Failure}
    (opens : Invocation.openLog s.files line.logFile = .ok files)
    (fails : line.command.Fails { s with files := files } failure) : Fails s line failure

namespace Invocation

/-- An invocation that a failure has ended: it only complains. -/
structure EndedBy (i : Invocation σ η) (failure : Failure) (state : σ) : Prop where
  exit : i.exit = 2
  complaints : i.complaints = complaint failure
  printed : i.printed = ""
  told : i.told = ""
  effects : i.effects = []
  server : i.server = state

theorem openLog_eq_error_iff {files : Files} {log : Option String} {failure : Failure} :
    openLog files log = .error failure ↔ ∃ path fault, log = some path ∧
      files.append path [] = .error fault ∧ failure = .unwritable path fault.message := by
  cases log with
  | none =>
    constructor
    · intro fails
      nomatch fails
    · rintro ⟨_, _, named, -⟩
      nomatch named
  | some path =>
    unfold openLog
    cases opened : files.append path [] with
    | ok files' => simp [opened]
    | error fault => simp [opened, eq_comm]

/-- A command line that fails is ended before its command did anything. -/
theorem ofCommandLine_of_fails [Idna] {line : CommandLine} {s : Surroundings} {failure : Failure}
    (fails : line.Fails s failure) (filter : Filter) (stamp : String) (client : Client σ)
    (state : σ) :
    (ofCommandLine platform line filter stamp s client state).EndedBy failure state := by
  unfold ofCommandLine
  cases fails with
  | logFile named fails =>
    rw [openLog_eq_error_iff.mpr ⟨_, _, named, fails, rfl⟩]
    exact ⟨rfl, rfl, rfl, rfl, rfl, rfl⟩
  | command opens fails =>
    rw [opens]
    dsimp only
    rw [fails.conductOn client state]
    exact ⟨rfl, rfl, rfl, rfl, rfl, rfl⟩

/-- A command line that does not fail is carried out. -/
theorem exit_ofCommandLine [Idna] {line : CommandLine} {s : Surroundings}
    (carried : ∀ failure, ¬line.Fails s failure) (filter : Filter) (stamp : String)
    (client : Client σ) (state : σ) :
    (ofCommandLine platform line filter stamp s client state).exit ≠ 2 := by
  unfold ofCommandLine
  cases opens : openLog s.files line.logFile with
  | error failure =>
    obtain ⟨path, fault, named, fails, rfl⟩ := openLog_eq_error_iff.mp opens
    exact absurd (.logFile named fails) (carried _)
  | ok files =>
    obtain ⟨passed, said⟩ := CommandLine.Command.result_conductOn
      (fun failure fails => carried failure (.command opens fails)) client state
    dsimp only
    rw [said]
    cases passed <;> decide

/-- Only one failure ends a command line: the first. -/
theorem fails_unique {line : CommandLine} {s : Surroundings} {first second : Failure}
    (one : line.Fails s first) (other : line.Fails s second) : first = second := by
  cases one with
  | logFile named fails =>
    have closed := openLog_eq_error_iff.mpr ⟨_, _, named, fails, rfl⟩
    cases other with
    | logFile named' fails' =>
      have closed' := openLog_eq_error_iff.mpr ⟨_, _, named', fails', rfl⟩
      exact Except.error.inj (closed.symm.trans closed')
    | command opens _ =>
      rw [closed] at opens
      nomatch opens
  | command opens fails =>
    cases other with
    | logFile named fails =>
      rw [openLog_eq_error_iff.mpr ⟨_, _, named, fails, rfl⟩] at opens
      nomatch opens
    | command opens' fails' =>
      obtain rfl := Except.ok.inj (opens.symm.trans opens')
      exact fails.unique fails'

/-- With settings for the run, a command line that checks a suite fails as one does that runs it. -/
theorem fails_check_iff {line : CommandLine} {path : String} (checks : line.command = .check path)
    {s : Surroundings} {named : Option String}
    (configured : ∀ files, openLog s.files line.logFile = .ok files →
      ∃ settings, CommandLine.Command.settingsOf { s with files := files } named = .ok settings)
    (verbose withoutApps : Bool) (failure : Failure) :
    line.Fails s failure ↔
      CommandLine.Fails s ⟨verbose, line.logFile, .run path withoutApps named⟩ failure := by
  have alike {files : Files} (opens : openLog s.files line.logFile = .ok files) :
      line.command.Fails { s with files := files } failure ↔
        (CommandLine.Command.run path withoutApps named).Fails { s with files := files }
          failure := by
    obtain ⟨settings, found⟩ := configured files opens
    rw [checks]
    exact CommandLine.Command.check_fails_iff (CommandLine.Command.not_lacksSettings found)
  constructor
  · intro fails
    cases fails with
    | logFile named fails => exact .logFile named fails
    | command opens fails => exact .command opens ((alike opens).mp fails)
  · intro fails
    cases fails with
    | logFile named fails => exact .logFile named fails
    | command opens fails => exact .command opens ((alike opens).mpr fails)

/-- An invocation whose command line can be read is that command line's, once a filter is chosen. -/
theorem ofArgumentsOn_of_chosen [Idna] {arguments : List String} {line : CommandLine}
    (reads : CommandLine.read arguments = .ok line) {wanted : Option String} {filter : Filter}
    (chooses : Filter.chosen? line.verbose wanted = some filter) (stamp : String)
    (s : Surroundings) (client : Client σ) (state : σ) :
    ofArgumentsOn platform arguments wanted stamp s client state =
      ofCommandLine platform line filter stamp s client state := by
  simp only [ofArgumentsOn, reads, chooses]

/-- Without a filter nothing is done. -/
theorem ofArgumentsOn_of_torn [Idna] {arguments : List String} {line : CommandLine}
    (reads : CommandLine.read arguments = .ok line) {wanted : Option String}
    (torn : Filter.chosen? line.verbose wanted = none) (stamp : String) (s : Surroundings)
    (client : Client σ) (state : σ) :
    ofArgumentsOn platform arguments wanted stamp s client state =
      ⟨101, "", "", Filter.tornText, [], s.files, state⟩ := by
  simp only [ofArgumentsOn, reads, torn]

/-- Whether a filter is chosen does not depend on how much is to be told. -/
theorem chosen?_eq_none_iff (verbose verbose' : Bool) (wanted : Option String) :
    Filter.chosen? verbose wanted = none ↔ Filter.chosen? verbose' wanted = none := by
  unfold Filter.chosen?
  split <;> simp

/-- The exit status 2 comes from a failure that has ended the invocation. -/
theorem endedBy_of_exit [Idna] {arguments : List String} {line : CommandLine}
    (reads : CommandLine.read arguments = .ok line) {wanted : Option String} {stamp : String}
    {s : Surroundings} {client : Client σ} {state : σ}
    (exit : (ofArgumentsOn platform arguments wanted stamp s client state).exit = 2) :
    ∃ failure, line.Fails s failure ∧
      (ofArgumentsOn platform arguments wanted stamp s client state).EndedBy failure state := by
  cases chooses : Filter.chosen? line.verbose wanted with
  | none =>
    rw [ofArgumentsOn_of_torn reads chooses] at exit
    nomatch exit
  | some filter =>
    rw [ofArgumentsOn_of_chosen reads chooses] at exit ⊢
    by_contra none
    refine exit_ofCommandLine ?_ filter stamp client state exit
    intro failure fails
    exact none ⟨failure, fails, ofCommandLine_of_fails fails filter stamp client state⟩

/-- A command line that fails is ended by its failure, once a filter is chosen. -/
theorem endedBy_of_fails [Idna] {arguments : List String} {line : CommandLine}
    (reads : CommandLine.read arguments = .ok line) {wanted : Option String}
    (chooses : Filter.chosen? line.verbose wanted ≠ none) {s : Surroundings} {failure : Failure}
    (fails : line.Fails s failure) (stamp : String) (client : Client σ) (state : σ) :
    (ofArgumentsOn platform arguments wanted stamp s client state).EndedBy failure state := by
  obtain ⟨filter, chosen⟩ := Option.ne_none_iff_exists'.mp chooses
  rw [ofArgumentsOn_of_chosen reads chosen]
  exact ofCommandLine_of_fails fails filter stamp client state

/-- Two command lines that fail in the same way are ended in the same way. -/
theorem EndedBy.transfer [Idna] {arguments arguments' : List String} {line line' : CommandLine}
    (reads : CommandLine.read arguments = .ok line)
    (reads' : CommandLine.read arguments' = .ok line') {s : Surroundings}
    (same : ∀ failure, line.Fails s failure → line'.Fails s failure) {wanted : Option String}
    {stamp : String} {client : Client σ} {state : σ} {failure : Failure}
    (ended : (ofArgumentsOn platform arguments wanted stamp s client state).EndedBy failure state)
    (stamp' : String) :
    (ofArgumentsOn platform arguments' wanted stamp' s client state).EndedBy failure state := by
  have chooses : Filter.chosen? line'.verbose wanted ≠ none := by
    intro torn
    have none := (chosen?_eq_none_iff line'.verbose line.verbose wanted).mp torn
    have exit := ended.exit
    rw [ofArgumentsOn_of_torn reads none] at exit
    nomatch exit
  obtain ⟨first, fails, endedByFirst⟩ := endedBy_of_exit reads ended.exit
  have words : complaint first = complaint failure :=
    endedByFirst.complaints.symm.trans ended.complaints
  have other :
      (ofArgumentsOn platform arguments' wanted stamp' s client state).EndedBy first state :=
    endedBy_of_fails reads' chooses (same first fails) stamp' client state
  exact ⟨other.exit, other.complaints.trans words, other.printed, other.told, other.effects,
    other.server⟩

/-- A check, whatever it comes to, only prints and leaves the server alone. -/
theorem ofArgumentsOn_check [Idna] {arguments : List String} {line : CommandLine}
    (reads : CommandLine.read arguments = .ok line) {path : String}
    (checks : line.command = .check path) (wanted : Option String) (stamp : String)
    (s : Surroundings) (client : Client σ) (state : σ) :
    ((ofArgumentsOn platform arguments wanted stamp s client state).exit = 0 ∨
      (ofArgumentsOn platform arguments wanted stamp s client state).exit = 2 ∨
      Filter.chosen? line.verbose wanted = none) ∧
    (∀ effect ∈ (ofArgumentsOn platform arguments wanted stamp s client state).effects,
      ∃ line, effect = .print line) ∧
    (ofArgumentsOn platform arguments wanted stamp s client state).server = state := by
  have nothing : ∀ effect ∈ ([] : List (Effect η)), ∃ line, effect = .print line := by
    intro effect within
    nomatch within
  cases chooses : Filter.chosen? line.verbose wanted with
  | none =>
    rw [ofArgumentsOn_of_torn reads chooses]
    exact ⟨.inr (.inr rfl), nothing, rfl⟩
  | some filter =>
    rw [ofArgumentsOn_of_chosen reads chooses, ofCommandLine]
    cases opens : openLog s.files line.logFile with
    | error failure => exact ⟨.inr (.inl rfl), nothing, rfl⟩
    | ok files =>
      dsimp only
      rw [checks]
      obtain ⟨content, prints, server⟩ :=
        CommandLine.Command.check_conductOn { s with files := files } path client state
      refine ⟨?_, prints, server⟩
      generalize Conduct.result _ = result at content ⊢
      cases result with
      | error failure => exact .inr (.inl rfl)
      | ok passed =>
        cases passed with
        | true => exact .inl rfl
        | false => exact absurd rfl content

/-- **Failing to load is all or nothing.** The log file, the settings of a run and the suite are
loaded in this order, and only one failure is the first. If the filter of the log can be read, the
exit status is 2 just when there is such a failure; then it is complained about, and nothing is
printed, told, started, stopped or sent. Without a filter nothing is done at all and the status is
101. A check ends with 0 or 2 once there is a filter, only prints, and is ended by a failure just
when a run of its suite is that has its settings. -/
theorem loading_decides [Idna] {arguments : List String} {line : CommandLine}
    (reads : CommandLine.read arguments = .ok line) (wanted : Option String) (stamp : String)
    (s : Surroundings) (client : Client σ) (state : σ) :
    let i := ofArgumentsOn platform arguments wanted stamp s client state
    (∀ first second, line.Fails s first → line.Fails s second → first = second) ∧
    (Filter.chosen? line.verbose wanted ≠ none →
      (i.exit = 2 ↔ ∃ failure, line.Fails s failure) ∧
      ∀ failure, line.Fails s failure → i.EndedBy failure state) ∧
    (Filter.chosen? line.verbose wanted = none →
      i = ⟨101, "", "", Filter.tornText, [], s.files, state⟩) ∧
    ∀ path, line.command = .check path →
      (i.exit = 0 ∨ i.exit = 2 ∨ Filter.chosen? line.verbose wanted = none) ∧
      (∀ effect ∈ i.effects, ∃ line, effect = .print line) ∧ i.server = state ∧
      ∀ {arguments' : List String} {verbose withoutApps : Bool} {named : Option String},
        CommandLine.read arguments' =
          .ok ⟨verbose, line.logFile, .run path withoutApps named⟩ →
        (∀ files, openLog s.files line.logFile = .ok files →
          ∃ settings, CommandLine.Command.settingsOf { s with files := files } named =
            .ok settings) →
        ∀ failure stamp', i.EndedBy failure state ↔
          (ofArgumentsOn platform arguments' wanted stamp' s client state).EndedBy failure
            state := by
  intro i
  refine ⟨fun _ _ => fails_unique, ?_, ?_, ?_⟩
  · intro chooses
    refine ⟨⟨?_, ?_⟩, fun _ fails => endedBy_of_fails reads chooses fails stamp client state⟩
    · intro exit
      obtain ⟨failure, fails, -⟩ := endedBy_of_exit reads exit
      exact ⟨failure, fails⟩
    · rintro ⟨failure, fails⟩
      exact (endedBy_of_fails reads chooses fails stamp client state).exit
  · intro torn
    exact ofArgumentsOn_of_torn reads torn stamp s client state
  · intro path checks
    obtain ⟨exits, prints, server⟩ := ofArgumentsOn_check reads checks wanted stamp s client state
    refine ⟨exits, prints, server, ?_⟩
    intro arguments' verbose withoutApps named reads' configured failure stamp'
    have alike := fails_check_iff checks configured verbose withoutApps
    exact ⟨fun ended => ended.transfer reads reads' (fun f => (alike f).mp) stamp',
      fun ended => ended.transfer reads' reads (fun f => (alike f).mpr) stamp⟩

/-- A directory with a suite in its only file. -/
def directory : Surroundings :=
  holding ["queries:", "- endpoint: x", "  URL: y", "  expectedResponse:", "    httpCode: 200",
    "    contentType: a", "    expectedResults: []"]

open LiteralDomain in
/-- A suite that is not there ends a check. -/
theorem loading_decides_missing :
    let missing : Failure := .unreadable "t" "No such file or directory (os error 2)"
    let line : CommandLine := ⟨false, none, .check "t"⟩
    line.Fails directory missing ∧
    (ofArguments ["check", "t"] none "" directory Server.absent.client ()).EndedBy missing () := by
  intro missing line
  have reads : CommandLine.read ["check", "t"] = .ok line := by decide +kernel
  have chooses : Filter.chosen? line.verbose none ≠ none := by decide +kernel
  have unread : directory.files.read "t" = .error .notFound := by decide +kernel
  have fails : line.Fails directory missing := .command rfl (.checked (.unread unread))
  exact ⟨fails, ((loading_decides reads none "" directory Server.absent.client ()).2.1 chooses).2
    missing fails⟩

open LiteralDomain in
/-- The exit status does not always tell that something could not be loaded: the text of a filter
may be cut inside a character, and that is found out first. -/
theorem not_exit_two_iff_fails :
    ¬∀ (arguments : List String) (line : CommandLine) (wanted : Option String) (stamp : String)
      (s : Surroundings), CommandLine.read arguments = .ok line →
      ((ofArguments arguments wanted stamp s Server.absent.client ()).exit = 2 ↔
        ∃ failure, line.Fails s failure) := by
  intro always
  have reads : CommandLine.read ["check", "missing.yaml"] =
      .ok ⟨false, none, .check "missing.yaml"⟩ := by
    decide +kernel
  have unread : directory.files.read "missing.yaml" = .error .notFound := by decide +kernel
  have told := (always ["check", "missing.yaml"] _ (some " é=info") "" directory reads).mpr
    ⟨_, .command rfl (.checked (.unread unread))⟩
  have torn : Filter.chosen? false (some " é=info") = none := by decide +kernel
  rw [ofArguments, ofArgumentsOn_of_torn reads torn] at told
  nomatch told

end Invocation

end MetricsHarness
