import MetricsHarness.App.Launcher

/-!
# What the launcher of processes tells

A launcher tells the log about its apps: that they have started, how they have ended, and what they
write. Whatever an app writes, the event for it comes from the launcher (`Event.output`), so a line
with the message of a verdict is still no verdict. Here the launcher of processes is shown to tell
nothing else (`Apps.launcher_tellsOwn`).

Stopping an app goes through calls to the system, each of which may take in what processes write.
So the events are part of the state of the system, and `Stopping.Keeps` carries a property of that
state through the calls.
-/

namespace MetricsHarness

/-- Events that all come from the launcher. -/
def Event.FromLauncher (events : List Event) : Prop := ∀ e ∈ events, e.origin = .launcher

/-- A launcher that tells the log only events of its own. -/
structure Launcher.TellsOwn {κ η : Type} (launcher : Launcher κ η) : Prop where
  start : ∀ app state, Event.FromLauncher (launcher.start app state).events
  stop : ∀ handle state, Event.FromLauncher (launcher.stop handle state).events
  elapse : ∀ seconds state, Event.FromLauncher (launcher.elapse seconds state).events

namespace Event.FromLauncher

theorem nil : FromLauncher [] := List.forall_mem_nil _

/-- What two parts have from the launcher, they have together. -/
theorem append {first second : List Event} (h : FromLauncher first) (h' : FromLauncher second) :
    FromLauncher (first ++ second) := List.forall_mem_append.mpr ⟨h, h'⟩

theorem singleton {event : Event} (h : event.origin = .launcher) : FromLauncher [event] :=
  List.forall_mem_singleton.mpr h

end Event.FromLauncher

/-! ## Stopping -/

namespace Stopping

variable {κ : Type} {P : κ → Prop} {system : ChildSystem κ}

/-- Every call to a system keeps a property of its states. -/
structure SystemKeeps (P : κ → Prop) (system : ChildSystem κ) : Prop where
  poll : ∀ state, P state → P (system.poll state).2
  ask : ∀ state, P state → P (system.ask state).2
  strike : ∀ state, P state → P (system.strike state)
  await : ∀ seconds state, P state → P (system.await seconds state).2
  kill : ∀ state, P state → P (system.kill state).2

/-- A stop that ends in a state with a property, and tells only events of the launcher. -/
structure Keeps (P : κ → Prop) (s : Stopping κ) : Prop where
  state : P s.state
  told : Event.FromLauncher s.events

theorem Keeps.after {s : Stopping κ} (h : s.Keeps P) (calls : List Call) {events : List Event}
    (told : Event.FromLauncher events) : (s.after calls events).Keeps P :=
  ⟨h.state, told.append h.told⟩

/-- A hard kill keeps what every call of the system keeps. -/
theorem keeps_killing (keeps : SystemKeeps P system) (app : String) {state : κ} (h : P state) :
    (killing system app state).Keeps P := by
  have after := keeps.kill state h
  unfold killing
  split
  next eq =>
    rw [eq] at after
    exact ⟨after, .nil⟩
  next eq =>
    rw [eq] at after
    exact ⟨after, .nil⟩

/-- Awaiting an app keeps what every call of the system keeps. -/
theorem keeps_awaiting (keeps : SystemKeeps P system) (app : String) (seconds : Nat) {state : κ}
    (h : P state) : (awaiting system app seconds state).Keeps P := by
  have after := keeps.await seconds state h
  unfold awaiting
  split
  next eq =>
    rw [eq] at after
    exact ⟨after, .singleton rfl⟩
  next eq =>
    rw [eq] at after
    exact ⟨after, .nil⟩
  next eq =>
    rw [eq] at after
    exact (keeps_killing keeps app after).after _ (.singleton rfl)

/-- Asking an app to end keeps what every call of the system keeps. -/
theorem keeps_asking (keeps : SystemKeeps P system) (app : String) (seconds : Nat) {state : κ}
    (h : P state) : (asking system app seconds state).Keeps P := by
  have after := keeps.ask state h
  unfold asking
  split
  next eq =>
    rw [eq] at after
    exact (keeps_awaiting keeps app seconds after).after _ .nil
  next eq =>
    rw [eq] at after
    exact (keeps_awaiting keeps app seconds (keeps.strike _ after)).after _ .nil

/-- A stop keeps what every call keeps. -/
theorem keeps_run (keeps : SystemKeeps P system) (app : String) (seconds : Nat) {state : κ}
    (h : P state) : (run system app seconds state).Keeps P := by
  have after := keeps.poll state h
  unfold run
  split
  next eq =>
    rw [eq] at after
    exact ⟨after, .nil⟩
  next eq =>
    rw [eq] at after
    exact ⟨after, .singleton rfl⟩
  next eq =>
    rw [eq] at after
    exact (keeps_asking keeps app seconds after).after _ .nil

end Stopping

/-! ## Apps -/

namespace Apps

open Event

/-- Forwarded lines are events of the launcher. -/
theorem lineEvents_fromLauncher (f : Forwarded) (lines : List String) :
    FromLauncher (lineEvents f lines) := List.forall_mem_map.mpr fun _ _ => rfl

/-- Taking in one output tells events of the launcher only. -/
theorem takeIn_fromLauncher (apps : Apps) (output : World.Output) :
    FromLauncher (apps.takeIn output).1 := by
  unfold takeIn
  split
  · exact lineEvents_fromLauncher _ _
  · exact .nil

/-- Taking in all outputs tells events of the launcher only. -/
theorem takeInAll_fromLauncher (apps : Apps) (outputs : List World.Output) :
    FromLauncher (apps.takeInAll outputs).1 := by
  induction outputs generalizing apps with
  | nil => exact .nil
  | cons output rest ih => exact (apps.takeIn_fromLauncher output).append (ih _)

/-- Closing what has ended tells events of the launcher only. -/
theorem closeEnded_fromLauncher (apps : Apps) : FromLauncher apps.closeEnded.1 := by
  intro event told
  obtain ⟨f, -, line⟩ := List.mem_flatMap.mp told
  exact lineEvents_fromLauncher f _ event line

/-- However the world goes on, what is told comes from the launcher. -/
theorem goOn_fromLauncher (apps : Apps) (step : List World.Output × World) :
    FromLauncher (apps.goOn step).1 :=
  (takeInAll_fromLauncher _ _).append (closeEnded_fromLauncher _)

/-- The calls about a process add events of the launcher to those that they find. -/
theorem systemKeeps_fromLauncher (process : Nat) :
    Stopping.SystemKeeps (fun s : List Event × Apps => FromLauncher s.1) (system process) where
  poll _ told := told
  ask _ told := told.append (goOn_fromLauncher _ _)
  strike s told := told.append (goOn_fromLauncher s.2 ([], s.2.world.kill process))
  await seconds s told := by
    obtain ⟨events, apps⟩ := s
    dsimp only [system]
    split
    · exact told.append (goOn_fromLauncher _ _)
    · exact told.append (goOn_fromLauncher _ _)
  kill s told := told.append (goOn_fromLauncher s.2 ([], s.2.world.kill process))

/-- A start tells events of the launcher only. -/
theorem start_fromLauncher (settings : Settings) (app : App) (apps : Apps) :
    FromLauncher (start settings app apps).events := by
  unfold start
  split
  · exact .nil
  · split
    · exact .nil
    · exact List.forall_mem_cons.mpr ⟨rfl, goOn_fromLauncher _ _⟩

/-- A stop tells events of the launcher only. -/
theorem stop_fromLauncher (settings : Settings) (app : RunningApp) (apps : Apps) :
    FromLauncher (stop settings app apps).events := by
  have silent : FromLauncher (([], apps) : List Event × Apps).1 := .nil
  have kept := Stopping.keeps_run (systemKeeps_fromLauncher app.process) app.name
    settings.stopTimeout.toNat silent
  exact kept.state.append kept.told

/-- The launcher of processes tells only events of its own. -/
theorem launcher_tellsOwn (settings : Settings) : (launcher settings).TellsOwn where
  start := start_fromLauncher settings
  stop := stop_fromLauncher settings
  elapse _ apps := apps.goOn_fromLauncher _

end Apps

end MetricsHarness
