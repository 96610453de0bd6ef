import MetricsHarness.App.Launcher
import MetricsHarness.Proofs.Utf8

/-!
# What is forwarded of a stream

The bytes of a stream are lines that end at a newline, and what is left behind the last of them
(`Lines`). A forwarder that is fed with them tells each line once and in order, up to the first one
that is not UTF-8, which ends all forwarding (`Forwarder.Tells`). Nothing else plays a part: not
how the stream was cut into pieces (`Forwarder.feed_append`), and not what other processes have
written between them (`Apps.toldOf_eq`).

So the whole stream is forwarded, and its pipe stays open, exactly if all its lines are UTF-8
(`Apps.forwards_lines`).
-/

namespace MetricsHarness

open Text

namespace Forwarder

/-! ## Lines -/

/-- The lines of a stream that end, and what is left behind the last of them. -/
structure Lines (stream : Bytes) (ended : List Bytes) (left : Bytes) : Prop where
  joined : ended.flatMap (· ++ [newline]) ++ left = stream
  ended : ∀ line ∈ ended, newline ∉ line
  left : newline ∉ left

/-- Every stream consists of lines. -/
theorem exists_lines (stream : Bytes) : ∃ ended left, Lines stream ended left := by
  induction stream with
  | nil => exact ⟨[], [], rfl, List.forall_mem_nil _, List.not_mem_nil⟩
  | cons b rest ih =>
    obtain ⟨ended, left, rfl, free, open_⟩ := ih
    by_cases ends : b = newline
    · exact ⟨[] :: ended, left, by simp [ends], by simpa using free, open_⟩
    · cases ended with
      | nil => exact ⟨[], b :: left, by simp, by simp, by simpa [open_] using Ne.symm ends⟩
      | cons line more =>
        refine ⟨(b :: line) :: more, left, by simp, ?_, open_⟩
        simpa [Ne.symm ends] using free

/-- A line without the carriage return at its end. -/
def body (line : Bytes) : Bytes :=
  if line.getLast? = some carriageReturn then line.dropLast else line

/-- The bytes of the lines that a stream has to tell; what is left at its end is one unless it is
empty. -/
def bodies (ended : List Bytes) (left : Bytes) : List Bytes :=
  ended.map body ++ if left = [] then [] else [left]

/-- Bytes that are the bytes of a text. -/
def IsText (bytes : Bytes) : Prop := ∃ text : String, Utf8.encodeString text = bytes

theorem isText_iff {bytes : Bytes} : IsText bytes ↔ ∃ cs, Utf8.decode? bytes = some cs := by
  constructor
  · rintro ⟨text, rfl⟩
    exact ⟨_, Utf8.decode?_encode _⟩
  · rintro ⟨cs, decodes⟩
    refine ⟨String.ofList cs, ?_⟩
    rw [Utf8.encodeString, String.toList_ofList]
    exact Utf8.decode?_eq_some_iff.mp decodes

theorem textOf?_of_isText {line : Bytes} (h : IsText (body line)) :
    ∃ text, textOf? line = some text ∧ Utf8.encodeString text = body line := by
  obtain ⟨text, same⟩ := h
  refine ⟨text, ?_, same⟩
  show (Utf8.decode? (body line)).map String.ofList = some text
  rw [← same, Utf8.encodeString, Utf8.decode?_encode, Option.map_some, String.ofList_toList]

theorem textOf?_of_not_isText {line : Bytes} (h : ¬ IsText (body line)) : textOf? line = none := by
  show (Utf8.decode? (body line)).map String.ofList = none
  cases decodes : Utf8.decode? (body line) with
  | none => rfl
  | some cs => exact absurd (isText_iff.mpr ⟨cs, decodes⟩) h

/-! ## Feeding -/

/-- A forwarder in the middle of a line. -/
def within (line : Bytes) : Forwarder := ⟨line, true⟩

/-- A forwarder that has come across a line that is no text. -/
def stopped : Forwarder := ⟨[], false⟩

/-- How a stream is cut into pieces plays no part. -/
theorem feed_append (f : Forwarder) (first second : Bytes) :
    f.feed (first ++ second) =
      ((f.feed first).1 ++ ((f.feed first).2.feed second).1, ((f.feed first).2.feed second).2) := by
  induction first generalizing f with
  | nil => rfl
  | cons b rest ih => simp [feed, ih]

theorem feed_stopped (stream : Bytes) : stopped.feed stream = ([], stopped) := by
  induction stream with
  | nil => rfl
  | cons b rest ih =>
    have byte : stopped.feedByte b = ([], stopped) := rfl
    simp [feed, byte, ih]

/-- Bytes without a newline make the line longer. -/
theorem feed_within (line : Bytes) {more : Bytes} (free : newline ∉ more) :
    (within line).feed more = ([], within (line ++ more)) := by
  induction more generalizing line with
  | nil => simp [feed]
  | cons b rest ih =>
    obtain ⟨other, others⟩ := List.ne_and_not_mem_of_not_mem_cons free
    have byte : (within line).feedByte b = ([], within (line ++ [b])) := by
      simp [feedByte, within, Ne.symm other]
    simp [feed, byte, ih _ others]

/-- A newline tells the line that it ends, or stops the forwarder. -/
theorem feedByte_newline (line : Bytes) : (within line).feedByte newline =
    (textOf? line).elim ([], stopped) fun text => ([text], initial) := by
  cases told : textOf? line <;> simp [feedByte, within, told, stopped]

/-- A line with its end, and what follows it. -/
theorem feed_line {line : Bytes} (free : newline ∉ line) (rest : Bytes) :
    initial.feed (line ++ newline :: rest) =
      (textOf? line).elim ([], stopped) fun text =>
        (text :: (initial.feed rest).1, (initial.feed rest).2) := by
  have before : initial.feed line = ([], within line) := feed_within [] free
  rw [feed_append, before, feed, feedByte_newline]
  cases textOf? line with
  | none => simp [feed_stopped]
  | some text => simp

/-- What a forwarder tells of lines, and how it is left: it tells them all and goes on with what is
left of the stream, or it stops at one that is no text. -/
inductive Tells (left : Bytes) : List Bytes → List String → Forwarder → Prop
  | all : Tells left [] [] (within left)
  | stop {line : Bytes} {rest : List Bytes} (broken : ¬ IsText (body line)) :
      Tells left (line :: rest) [] stopped
  | line {line : Bytes} {rest : List Bytes} {text : String} {texts : List String} {last : Forwarder}
      (told : Utf8.encodeString text = body line) (more : Tells left rest texts last) :
      Tells left (line :: rest) (text :: texts) last

theorem tells_feed {stream left : Bytes} {ended : List Bytes} (lines : Lines stream ended left) :
    Tells left ended (initial.feed stream).1 (initial.feed stream).2 := by
  obtain ⟨rfl, free, rest⟩ := lines
  induction ended with
  | nil =>
    have fed : initial.feed left = ([], within left) := feed_within [] rest
    simpa [fed] using Tells.all
  | cons line more ih =>
    obtain ⟨first, others⟩ := List.forall_mem_cons.mp free
    have cut : (line :: more).flatMap (· ++ [newline]) ++ left =
        line ++ newline :: (more.flatMap (· ++ [newline]) ++ left) := by simp
    rw [cut, feed_line first]
    by_cases isText : IsText (body line)
    · obtain ⟨text, told, same⟩ := textOf?_of_isText isText
      rw [told]
      exact .line same (ih others)
    · rw [textOf?_of_not_isText isText]
      exact .stop isText

/-- What is left at the end is told if there is something and it is a text. -/
theorem finish_within (left : Bytes) :
    (left = [] ∧ (within left).finish = []) ∨
    (left ≠ [] ∧ ∃ text, Utf8.encodeString text = left ∧ (within left).finish = [text]) ∨
    (left ≠ [] ∧ ¬ IsText left ∧ (within left).finish = []) := by
  by_cases none : left = []
  · exact .inl ⟨none, by simp [none, within, finish]⟩
  · right
    cases decodes : Utf8.decode? left with
    | none =>
      refine .inr ⟨none, fun isText => ?_, by simp [within, finish, decodes]⟩
      obtain ⟨cs, found⟩ := isText_iff.mp isText
      rw [decodes] at found
      cases found
    | some cs =>
      refine .inl ⟨none, String.ofList cs, ?_, by simp [within, finish, decodes, none]⟩
      rw [Utf8.encodeString, String.toList_ofList]
      exact Utf8.decode?_eq_some_iff.mp decodes

/-- The lines that are told up to the end of the stream come first; the line behind them, if there
is one, is no text. -/
theorem Tells.exists_unsaid {left : Bytes} {ended : List Bytes} {texts : List String}
    {last : Forwarder} (tells : Tells left ended texts last) :
    ∃ unsaid, (texts ++ last.finish).map Utf8.encodeString ++ unsaid = bodies ended left ∧
      ∀ line ∈ unsaid.head?, ¬ IsText line := by
  induction tells with
  | all =>
    rcases finish_within left with ⟨rfl, told⟩ | ⟨some, text, same, told⟩ | ⟨some, broken, told⟩
    · exact ⟨[], by simp [told, bodies], by simp⟩
    · exact ⟨[], by simp [told, bodies, some, same], by simp⟩
    · exact ⟨[left], by simp [told, bodies, some], by simpa using broken⟩
  | @stop line rest broken =>
    exact ⟨bodies (line :: rest) left, rfl, by simpa [bodies] using broken⟩
  | line told more ih =>
    obtain ⟨unsaid, same, first⟩ := ih
    exact ⟨unsaid, by simpa [bodies, told] using same, first⟩

/-- The stream is read to its end exactly if the lines that end are texts. -/
theorem Tells.reading_iff {left : Bytes} {ended : List Bytes} {texts : List String}
    {last : Forwarder} (tells : Tells left ended texts last) :
    last.reading = true ↔ ∀ line ∈ ended, IsText (body line) := by
  induction tells with
  | all => simp [within]
  | stop broken => simp [stopped, broken]
  | line told more ih => simp [ih, IsText, ← told]

end Forwarder

/-! ## Streams among others -/

namespace World

/-- Whether an output was written to a stream of a process. -/
def Output.isFrom (process : Nat) (stream : Stream) (output : Output) : Bool :=
  output.process == process && output.stream == stream

/-- What was written to a stream of a process, among all that was written. -/
def writtenTo (process : Nat) (stream : Stream) (outputs : List Output) : Bytes :=
  (outputs.filter (·.isFrom process stream)).flatMap (·.bytes)

end World

/-- Whether a forwarded stream is a stream of a process. -/
def Forwarded.isOf (process : Nat) (stream : Stream) (f : Forwarded) : Bool :=
  f.app.process == process && f.stream == stream

namespace Apps

variable {apps : Apps} {process : Nat} {stream : Stream} {f : Forwarded} {output : World.Output}

/-- A stream of a process is forwarded, and this is what is known about it. -/
def Forwards (apps : Apps) (process : Nat) (stream : Stream) (f : Forwarded) : Prop :=
  apps.forwarded.find? (·.isOf process stream) = some f

/-- The events that are told while what was written to one stream is taken in. -/
def toldOf (process : Nat) (stream : Stream) : Apps → List World.Output → List Event
  | _, [] => []
  | apps, output :: rest =>
    (if output.isFrom process stream then (apps.takeIn output).1 else []) ++
      toldOf process stream (apps.takeIn output).2 rest

/-- Taking in what was written to a stream feeds its forwarder, and closes the pipe if that has
stopped. -/
theorem takeIn_of_isFrom (forwards : apps.Forwards process stream f)
    (same : output.isFrom process stream = true) :
    apps.takeIn output = (lineEvents f (f.forwarder.feed output.bytes).1,
      ⟨if (f.forwarder.feed output.bytes).2.reading then apps.world
        else apps.world.breakPipe process stream,
      { f with forwarder := (f.forwarder.feed output.bytes).2 } ::
        apps.forwarded.filter fun g => !g.isOf process stream⟩) := by
  obtain ⟨rfl, rfl⟩ : output.process = process ∧ output.stream = stream := by
    simpa [World.Output.isFrom] using same
  obtain ⟨more, first⟩ : ∃ more,
      apps.forwarded.filter (·.isOf output.process output.stream) = f :: more := by
    rw [← List.head?_eq_some_iff, List.head?_filter]
    exact forwards
  have parts : (apps.forwarded.partition fun g =>
      g.app.process == output.process && g.stream == output.stream) =
        (f :: more, apps.forwarded.filter fun g => !g.isOf output.process output.stream) := by
    rw [List.partition_eq_filter_filter, ← first]
    rfl
  unfold takeIn
  rw [parts]

/-- Taking in what was written elsewhere leaves a stream as it is. -/
theorem Forwards.takeIn_of_not_isFrom (forwards : apps.Forwards process stream f)
    (other : output.isFrom process stream = false) :
    (apps.takeIn output).2.Forwards process stream f := by
  have apart (g : Forwarded) (own : g.isOf output.process output.stream = true) :
      g.isOf process stream = false := by
    simp only [Forwarded.isOf, World.Output.isFrom, Bool.and_eq_true, beq_iff_eq] at own other ⊢
    rw [own.1, own.2, other]
  unfold takeIn
  split
  · next g more others parts =>
    rw [List.partition_eq_filter_filter] at parts
    obtain ⟨first, rfl⟩ := Prod.mk.inj parts
    have own : g.isOf output.process output.stream = true :=
      (List.mem_filter.mp (first ▸ List.mem_cons_self)).2
    have kept (h : Forwarded) : (!h.isOf output.process output.stream && h.isOf process stream) =
        h.isOf process stream := by
      cases own : h.isOf output.process output.stream with
      | true => simp [apart h own]
      | false => simp
    have behind : ({ g with forwarder := (g.forwarder.feed output.bytes).2 } : Forwarded).isOf
        process stream = false := apart g own
    show List.find? _ (_ :: _) = some f
    rw [List.find?_cons_of_neg (by simp [behind]), List.find?_filter]
    refine Eq.trans (congrArg (List.find? · apps.forwarded) ?_) forwards
    funext h
    show decide ((!h.isOf output.process output.stream) = true ∧ h.isOf process stream = true) = _
    rw [Bool.decide_and, Bool.decide_eq_true, Bool.decide_eq_true, kept]
  · exact forwards

/-- What is told of a stream, and how its forwarder is left, hangs on the bytes written to it
alone. -/
theorem toldOf_eq (forwards : apps.Forwards process stream f) (outputs : List World.Output) :
    apps.toldOf process stream outputs =
        lineEvents f (f.forwarder.feed (World.writtenTo process stream outputs)).1 ∧
      (apps.takeInAll outputs).2.Forwards process stream
        { f with forwarder := (f.forwarder.feed (World.writtenTo process stream outputs)).2 } := by
  induction outputs generalizing apps f with
  | nil => exact ⟨rfl, forwards⟩
  | cons output rest ih =>
    cases same : output.isFrom process stream with
    | true =>
      have written : World.writtenTo process stream (output :: rest) =
          output.bytes ++ World.writtenTo process stream rest := by
        simp [World.writtenTo, same]
      have taken := takeIn_of_isFrom forwards same
      have own : f.isOf process stream = true := List.find?_some forwards
      have next : (apps.takeIn output).2.Forwards process stream
          { f with forwarder := (f.forwarder.feed output.bytes).2 } := by
        rw [taken]
        exact List.find?_cons_of_pos own
      obtain ⟨told, left⟩ := ih next
      rw [written, Forwarder.feed_append]
      refine ⟨?_, left⟩
      rw [toldOf, told, same, if_pos rfl, taken]
      exact (List.map_append ..).symm
    | false =>
      have written : World.writtenTo process stream (output :: rest) =
          World.writtenTo process stream rest := by
        simp [World.writtenTo, same]
      obtain ⟨told, left⟩ := ih (forwards.takeIn_of_not_isFrom same)
      rw [written]
      exact ⟨by rw [toldOf, told, same]; rfl, left⟩

/-- When a process has ended, what is left of its streams is told. -/
theorem Forwards.closeEnded (forwards : apps.Forwards process stream f)
    (ended : (apps.world.ending? process).isSome = true) :
    lineEvents f f.forwarder.finish <:+: apps.closeEnded.1 := by
  have mem : f ∈ apps.forwarded := List.mem_of_find?_eq_some forwards
  have own : f.isOf process stream = true := List.find?_some forwards
  obtain ⟨rfl, -⟩ : f.app.process = process ∧ f.stream = stream := by
    simpa [Forwarded.isOf] using own
  unfold Apps.closeEnded
  rw [List.partition_eq_filter_filter]
  refine List.infix_of_mem_flatten (List.mem_map.mpr ⟨f, ?_, rfl⟩)
  exact List.mem_filter.mpr ⟨mem, ended⟩

/-! ## A stream from its start -/

/-- What becomes of a stream of an app among all that is written. -/
structure Forwarding (begun : Apps) (app : RunningApp) (stream : Stream)
    (outputs : List World.Output) (ended : List Bytes) (left : Bytes) (texts : List String)
    (unsaid : List Bytes) (last : Forwarder) : Prop where
  /-- The bytes of the stream are these lines. -/
  lines : Forwarder.Lines (World.writtenTo app.process stream outputs) ended left
  /-- While the stream is taken in and at its end there is one event for each of these texts. -/
  told : begun.toldOf app.process stream outputs ++ lineEvents ⟨app, stream, last⟩ last.finish =
    texts.map (.output app.name stream ·)
  level : ∀ event ∈ texts.map (Event.output app.name stream ·), event.level = .debug
  /-- The texts are the lines of the stream in their order, from the first one on. -/
  said : texts.map Utf8.encodeString ++ unsaid = Forwarder.bodies ended left
  /-- Where they end before the lines do, the next line is no text. -/
  broken : ∀ line ∈ unsaid.head?, ¬ Forwarder.IsText line
  /-- In the end the launcher knows this about the stream. -/
  known : (begun.takeInAll outputs).2.Forwards app.process stream ⟨app, stream, last⟩
  /-- What is left is told when the process has ended. -/
  finish : ((begun.takeInAll outputs).2.world.ending? app.process).isSome = true →
    lineEvents ⟨app, stream, last⟩ last.finish <:+: (begun.takeInAll outputs).2.closeEnded.1
  /-- It goes on reading unless a line has ended that is no text. -/
  reading : last.reading = true ↔ ∀ line ∈ ended, Forwarder.IsText (Forwarder.body line)
  /-- The pipe is closed as soon as the launcher does not go on reading. -/
  pipe : ∀ next : World.Output, next.isFrom app.process stream = true →
    ((begun.takeInAll outputs).2.takeIn next).2.world =
      if (last.feed next.bytes).2.reading then (begun.takeInAll outputs).2.world
      else (begun.takeInAll outputs).2.world.breakPipe app.process stream

/-- **A stream is forwarded line by line, up to the first line that is no text.** Whatever an app
writes to a stream that is forwarded, in whatever pieces, and whatever others write meanwhile: there
is one event for each line, in order, with the line's text, until a line is not UTF-8. That line and
those behind it are lost, and the pipe is closed when it has ended. So all lines are told and the
stream is read to its end exactly if every line is UTF-8. -/
theorem forwards_lines {settings : Settings} (forwards : settings.forwardOutput = true)
    (app : RunningApp) (stream : Stream) (apps : Apps) (outputs : List World.Output) :
    ∃ ended left texts unsaid last,
      Forwarding { apps with forwarded := streams settings app ++ apps.forwarded } app stream
        outputs ended left texts unsaid last ∧
      (unsaid = [] ∧ last.reading = true ↔
        ∀ line ∈ Forwarder.bodies ended left, Forwarder.IsText line) := by
  obtain ⟨begun, hBegun⟩ : ∃ begun : Apps,
    begun = { apps with forwarded := streams settings app ++ apps.forwarded } := ⟨_, rfl⟩
  have start : begun.Forwards app.process stream ⟨app, stream, .initial⟩ := by
    cases stream <;> simp [hBegun, Forwards, streams, forwards, Forwarded.isOf]
  obtain ⟨ended, left, lines⟩ :=
    Forwarder.exists_lines (World.writtenTo app.process stream outputs)
  obtain ⟨told, known⟩ := toldOf_eq start outputs
  have tells := Forwarder.tells_feed lines
  obtain ⟨texts, hTexts⟩ : ∃ texts, texts =
    (Forwarder.initial.feed (World.writtenTo app.process stream outputs)).1 := ⟨_, rfl⟩
  obtain ⟨last, hLast⟩ : ∃ last, last =
    (Forwarder.initial.feed (World.writtenTo app.process stream outputs)).2 := ⟨_, rfl⟩
  rw [← hTexts, ← hLast] at tells
  rw [← hTexts] at told
  rw [← hLast] at known
  obtain ⟨unsaid, said, broken⟩ := tells.exists_unsaid
  rw [← hBegun]
  refine ⟨ended, left, texts ++ last.finish, unsaid, last, ⟨lines, ?_, ?_, said, broken, known,
    known.closeEnded, tells.reading_iff, ?_⟩, ?_⟩
  · rw [told, List.map_append]
    rfl
  · intro event mem
    obtain ⟨text, -, rfl⟩ := List.mem_map.mp mem
    rfl
  · intro next same
    rw [takeIn_of_isFrom known same]
  · constructor
    · rintro ⟨rfl, -⟩ line mem
      rw [List.append_nil] at said
      obtain ⟨text, -, rfl⟩ := List.mem_map.mp (said ▸ mem)
      exact ⟨text, rfl⟩
    · intro all
      constructor
      · cases unsaid with
        | nil => rfl
        | cons line rest =>
          refine absurd (all line ?_) (broken line rfl)
          rw [← said]
          exact List.mem_append_right _ List.mem_cons_self
      · rw [tells.reading_iff]
        intro line mem
        exact all _ (List.mem_append_left _ (List.mem_map_of_mem mem))

/-- A line in two pieces, another stream between them, and a last line without a newline. -/
theorem forwards_lines_in_pieces : Settings.default.forwardOutput = true ∧
    ∃ ended left texts unsaid last,
      Forwarding ⟨.initial ⟨[], []⟩ [], streams .default ⟨"app", 1000⟩⟩ ⟨"app", 1000⟩ .out
        [⟨1000, .out, [97]⟩, ⟨1000, .err, [120, 10]⟩, ⟨1000, .out, [98, 13, 10, 99]⟩]
        ended left texts unsaid last ∧
      (unsaid = [] ∧ last.reading = true ↔
        ∀ line ∈ Forwarder.bodies ended left, Forwarder.IsText line) :=
  ⟨rfl, @forwards_lines .default rfl ⟨"app", 1000⟩ .out ⟨.initial ⟨[], []⟩ [], []⟩ _⟩

/-- Not every stream is forwarded as a whole: behind a line of the single byte `FF` nothing is read,
so of three lines only the first is told. -/
theorem not_forwards_lines_of_broken : ¬ ∀ (app : RunningApp) (stream : Stream) (apps : Apps)
    (outputs : List World.Output) (ended : List Bytes) (left : Bytes) (last : Forwarder),
    let begun : Apps := { apps with forwarded := streams .default app ++ apps.forwarded }
    Forwarder.Lines (World.writtenTo app.process stream outputs) ended left →
    (begun.takeInAll outputs).2.Forwards app.process stream ⟨app, stream, last⟩ →
    (begun.toldOf app.process stream outputs ++
      lineEvents ⟨app, stream, last⟩ last.finish).length = (Forwarder.bodies ended left).length ∧
    last.reading = true := by
  intro all
  have lines : Forwarder.Lines [111, 107, 10, 255, 10, 120, 10] [[111, 107], [255], [120]] [] :=
    ⟨rfl, by decide, by decide⟩
  have whole := all ⟨"app", 1000⟩ .out ⟨.initial ⟨[], []⟩ [], []⟩
    [⟨1000, .out, [111, 107, 10, 255, 10, 120, 10]⟩] _ _ ⟨[], false⟩ lines rfl
  exact absurd whole.2 Bool.false_ne_true

end Apps

end MetricsHarness
