import Mathlib.Data.List.Induction
import Mathlib.Data.List.Perm.Basic
import Mathlib.Data.List.Perm.Subperm
import MetricsHarness.Proofs.Effects
import MetricsHarness.Run.Startup

/-!
# The starts of apps, in every order

The starts of a suite are tasks that take their steps in any order. `Startup.Steps` is that freedom
as a relation: in each state, any task that is left may go on. `Startup.run` follows a list of
choices instead, and `exists_run_iff` says that nothing is lost by this: the runs are exactly the
ways in which all tasks can come to their end.

What every order has in common is `Startup.Sound`. Each app of the suite is in one place: its start
has yet to begin, or is on its way, or is over and waits to be joined, or is joined. The effects
tell which starts have begun and which are over, and the running apps are those whose starts were
joined, the later of two apps of one name in the place of the earlier. The invariant is kept by each
move of a task (`Move`) and so by all steps; the number of moves that are left (`left`) makes every
run long enough.
-/

namespace MetricsHarness

/-! ## What starts amount to -/

namespace Effect

variable {η : Type}

/-- The apps whose starts gave a handle, by name, with their handles. -/
def handles (outcomes : List (App × Startup.Outcome η)) : List (String × η) :=
  outcomes.filterMap fun
    | (app, .running handle) => some (app.name, handle)
    | _ => none

/-- The apps that the launcher has started, by name, with the handles it gave. -/
def started (effects : List (Effect η)) : List (String × η) := handles (ends effects)

/-- Handles are those of the first outcomes and those of the others. -/
theorem handles_append (first second : List (App × Startup.Outcome η)) :
    handles (first ++ second) = handles first ++ handles second := List.filterMap_append

/-- Handles come under the names of the apps whose starts gave them. -/
theorem names_handles (outcomes : List (App × Startup.Outcome η)) :
    ((handles outcomes).map Prod.fst).Sublist ((outcomes.map Prod.fst).map App.name) := by
  induction outcomes with
  | nil => exact .refl _
  | cons one rest ih =>
    obtain ⟨app, outcome⟩ := one
    cases outcome with
    | running handle => exact ih.cons_cons app.name
    | failed failure => exact ih.cons app.name
    | aborted => exact ih.cons app.name

/-- At every time, the starts that are over are among those that have begun. -/
def Bracketed (effects : List (Effect η)) : Prop :=
  ∀ early, early <+: effects → ((ends early).map Prod.fst).Subperm (starts early)

theorem Bracketed.nil : Bracketed ([] : List (Effect η)) := fun early h => by
  rw [List.prefix_nil.mp h]
  exact List.Subperm.refl _

/-- One more effect leaves the starts bracketed if they are after it. -/
theorem Bracketed.concat {effects : List (Effect η)} {effect : Effect η} (h : Bracketed effects)
    (whole : ((ends (effects ++ [effect])).map Prod.fst).Subperm (starts (effects ++ [effect]))) :
    Bracketed (effects ++ [effect]) := by
  intro early before
  rcases List.prefix_concat_iff.mp before with rfl | earlier
  · exact whole
  · exact h early earlier

/-- Starts are those of the first effects and those of the others. -/
theorem starts_append (first second : List (Effect η)) :
    starts (first ++ second) = starts first ++ starts second := List.filterMap_append

/-- Ends are those of the first effects and those of the others. -/
theorem ends_append (first second : List (Effect η)) :
    ends (first ++ second) = ends first ++ ends second := List.filterMap_append

/-- A list of events has no starts in it. -/
theorem starts_logs (events : List Event) : starts (events.map (.log (η := η))) = [] := by
  rw [starts, ← filterMap_deeds (fun _ => rfl), deeds_logs, List.filterMap_nil]

/-- No start ends within log lines. -/
theorem ends_logs (events : List Event) : ends (events.map (.log (η := η))) = [] := by
  rw [ends, ← filterMap_deeds (fun _ => rfl), deeds_logs, List.filterMap_nil]

/-- Events leave the starts bracketed. -/
theorem Bracketed.logs {effects : List (Effect η)} (h : Bracketed effects) (events : List Event) :
    Bracketed (effects ++ events.map .log) := by
  induction events using List.reverseRecOn with
  | nil => rwa [List.map_nil, List.append_nil]
  | append_singleton events event ih =>
    have ends : ends (effects ++ events.map .log ++ [.log event]) =
        ends (effects ++ events.map .log) := (ends_append _ _).trans (List.append_nil _)
    have starts : starts (effects ++ events.map .log ++ [.log event]) =
        starts (effects ++ events.map .log) := (starts_append _ _).trans (List.append_nil _)
    rw [List.map_append, ← List.append_assoc, List.map_singleton]
    refine ih.concat ?_
    rw [ends, starts]
    exact ih _ (List.prefix_refl _)

end Effect

namespace Startup

variable {κ η : Type}

/-! ## Where the apps are -/

/-- The apps whose starts have yet to begin. -/
def waiting (tasks : List (Task η)) : List App :=
  tasks.filterMap fun
    | .waiting app => some app
    | _ => none

/-- The apps whose starts are on their way. -/
def begun (tasks : List (Task η)) : List App :=
  tasks.filterMap fun
    | .begun app => some app
    | _ => none

/-- The apps whose starts are over and wait to be joined, with what has come of them. -/
def ended (tasks : List (Task η)) : List (App × Outcome η) :=
  tasks.filterMap fun
    | .ended app outcome => some (app, outcome)
    | _ => none

/-- Reordered tasks have the same apps waiting, reordered. -/
theorem waiting_perm {tasks others : List (Task η)} (h : tasks.Perm others) :
    (waiting tasks).Perm (waiting others) := h.filterMap _

/-- Reordered tasks have the same apps begun, reordered. -/
theorem begun_perm {tasks others : List (Task η)} (h : tasks.Perm others) :
    (begun tasks).Perm (begun others) := h.filterMap _

/-- Reordered tasks have the same outcomes, reordered. -/
theorem ended_perm {tasks others : List (Task η)} (h : tasks.Perm others) :
    (ended tasks).Perm (ended others) := h.filterMap _

/-- Keeps handles that come in under names, one after the other. -/
def keepAll (running handles : List (String × η)) : List (String × η) :=
  handles.foldl (fun running (name, handle) => keep name handle running) running

/-- Handles are kept one after another. -/
theorem keepAll_append (running first second : List (String × η)) :
    keepAll running (first ++ second) = keepAll (keepAll running first) second :=
  List.foldl_append

/-- The starts of some apps, of which `joined` are joined by now. -/
structure Sound (apps : List App) (joined : List (App × Outcome η)) (s : Startup κ η) : Prop where
  /-- Every app has begun once, or waits. -/
  begins : (Effect.starts s.effects ++ waiting s.tasks).Perm apps
  /-- Every start that has begun is over, or on its way. -/
  ends : ((Effect.ends s.effects).map Prod.fst ++ begun s.tasks).Perm (Effect.starts s.effects)
  /-- Every start that is over is joined, or waits to be. -/
  joins : (joined ++ ended s.tasks).Perm (Effect.ends s.effects)
  running : s.running = keepAll [] (Effect.handles joined)
  starting : ∀ effect ∈ s.effects, effect.isStarting = true
  bracketed : Effect.Bracketed s.effects

/-! ## The moves of a task -/

/-- One move of one task: it begins, it ends, or it is joined. The other tasks stay as they are. -/
inductive Move (s t : Startup κ η) : Prop
  | begins {app : App} (leaves : (waiting s.tasks).Perm (app :: waiting t.tasks))
    (comes : (begun t.tasks).Perm (app :: begun s.tasks))
    (behind : (ended t.tasks).Perm (ended s.tasks))
    (effects : t.effects = s.effects ++ [.start app]) (running : t.running = s.running)
  | ends {app : App} {outcome : Outcome η} {events : List Event}
    (ahead : (waiting t.tasks).Perm (waiting s.tasks))
    (leaves : (begun s.tasks).Perm (app :: begun t.tasks))
    (comes : (ended t.tasks).Perm ((app, outcome) :: ended s.tasks))
    (effects : t.effects = s.effects ++ events.map .log ++ [.startEnded app outcome])
    (running : t.running = s.running)
  | joins {app : App} {outcome : Outcome η} {events : List Event}
    (ahead : (waiting t.tasks).Perm (waiting s.tasks))
    (away : (begun t.tasks).Perm (begun s.tasks))
    (leaves : (ended s.tasks).Perm ((app, outcome) :: ended t.tasks))
    (effects : t.effects = s.effects ++ events.map .log)
    (running : t.running = keepAll s.running (Effect.handles [(app, outcome)]))

/-- What joining a start does: it records the outcome, and may tell the log. -/
theorem join_eq (s : Startup κ η) (rest : List (Task η)) (app : App) (outcome : Outcome η) :
    ∃ events : List Event, s.join rest app.name outcome =
      { s with
        tasks := rest
        running := keepAll s.running (Effect.handles [(app, outcome)])
        effects := s.effects ++ events.map .log } := by
  cases outcome with
  | running handle => exact ⟨[], by rw [List.map_nil, List.append_nil]; rfl⟩
  | failed failure => exact ⟨[.startFailed app.name failure], rfl⟩
  | aborted => exact ⟨[.startAborted], rfl⟩

/-- A step of a task that is left is a move. -/
theorem move_step (launcher : Launcher κ η) (s : Startup κ η) {i : Nat} (h : i < s.tasks.length) :
    Move s (s.step launcher i) := by
  have here : s.tasks.Perm (s.tasks[i] :: s.tasks.eraseIdx i) :=
    (List.getElem_cons_eraseIdx_perm h).symm
  have next (task : Task η) : (s.tasks.set i task).Perm (task :: s.tasks.eraseIdx i) :=
    List.set_perm_cons_eraseIdx h task
  have found : s.tasks[i]? = some s.tasks[i] := List.getElem?_eq_getElem h
  cases task : s.tasks[i] with
  | waiting app =>
    rw [task] at here found
    have next := next (.begun app)
    have stepped : s.step launcher i =
        { s with tasks := s.tasks.set i (.begun app), effects := s.effects ++ [.start app] } := by
      rw [step, found]
    rw [stepped]
    exact .begins ((waiting_perm here).trans ((waiting_perm next).symm.cons app))
      ((begun_perm next).trans ((begun_perm here).symm.cons app))
      ((ended_perm next).trans (ended_perm here).symm) rfl rfl
  | begun app =>
    rw [task] at here found
    have next := next (.ended app (launcher.start app s.launcher).value)
    have stepped : s.step launcher i =
        { s with
          tasks := s.tasks.set i (.ended app (launcher.start app s.launcher).value)
          effects := s.effects ++ (launcher.start app s.launcher).events.map .log ++
            [.startEnded app (launcher.start app s.launcher).value]
          launcher := (launcher.start app s.launcher).state } := by
      rw [step, found]
    rw [stepped]
    exact .ends ((waiting_perm next).trans (waiting_perm here).symm)
      ((begun_perm here).trans ((begun_perm next).symm.cons app))
      ((ended_perm next).trans ((ended_perm here).symm.cons _)) rfl rfl
  | ended app outcome =>
    rw [task] at here found
    obtain ⟨events, joined⟩ := s.join_eq (s.tasks.eraseIdx i) app outcome
    have stepped : s.step launcher i = s.join (s.tasks.eraseIdx i) app.name outcome := by
      rw [step, found]
    rw [stepped, joined]
    exact .joins (waiting_perm here).symm (begun_perm here).symm (ended_perm here) rfl rfl

/-! ## What every order keeps -/

/-- Apps of which none is on its way are sound, with nothing joined. -/
theorem sound_initial (apps : List App) (state : κ) :
    Sound apps [] (initial apps state : Startup κ η) where
  begins := by
    have all : waiting (apps.map (Task.waiting (η := η))) = apps := by
      rw [waiting, List.filterMap_map]
      exact List.filterMap_some
    rw [initial, all]
    exact List.Perm.refl _
  ends := by
    have none : begun (apps.map (Task.waiting (η := η))) = [] := by
      rw [begun, List.filterMap_map]
      exact List.filterMap_eq_nil_iff.mpr fun _ _ => rfl
    rw [initial, none]
    exact List.Perm.refl _
  joins := by
    have none : ended (apps.map (Task.waiting (η := η))) = [] := by
      rw [ended, List.filterMap_map]
      exact List.filterMap_eq_nil_iff.mpr fun _ _ => rfl
    rw [initial, none]
    exact List.Perm.refl _
  running := rfl
  starting := List.forall_mem_nil _
  bracketed := .nil

/-- Where one more comes among the last, there is one more in the whole. -/
theorem perm_concat {α : Type} {one : α} {first last others whole : List α}
    (comes : last.Perm (one :: others)) (all : (first ++ others).Perm whole) :
    (first ++ last).Perm (whole ++ [one]) :=
  (comes.append_left first).trans <| List.perm_middle.trans <|
    (all.cons one).trans (List.perm_append_singleton one whole).symm

/-- Every move keeps the starts sound. -/
theorem Sound.move {apps : List App} {joined : List (App × Outcome η)} {s t : Startup κ η}
    (h : Sound apps joined s) (m : Move s t) : ∃ joined, Sound apps joined t := by
  cases m with
  -- One app more has begun; none is over that was not.
  | @begins app leaves comes behind effects running =>
    have starts : Effect.starts t.effects = Effect.starts s.effects ++ [app] := by
      rw [effects, Effect.starts_append]
      rfl
    have ends : Effect.ends t.effects = Effect.ends s.effects := by
      rw [effects, Effect.ends_append]
      exact List.append_nil _
    have away : ((Effect.ends t.effects).map Prod.fst ++ begun t.tasks).Perm
        (Effect.starts t.effects) := by
      rw [starts, ends]
      exact perm_concat comes h.ends
    refine ⟨joined, ?_, away, ?_, running.trans h.running, ?_, ?_⟩
    · rw [starts, List.append_assoc]
      exact (leaves.symm.append_left _).trans h.begins
    · rw [ends]
      exact (behind.append_left _).trans h.joins
    · rw [effects]
      exact List.forall_mem_append.mpr ⟨h.starting, List.forall_mem_singleton.mpr rfl⟩
    · rw [effects] at away ⊢
      exact h.bracketed.concat ((List.sublist_append_left _ _).subperm.trans away.subperm)
  -- One start more is over, of an app that has begun before.
  | @ends app outcome events ahead leaves comes effects running =>
    have starts : Effect.starts t.effects = Effect.starts s.effects := by
      rw [effects, Effect.starts_append, Effect.starts_append, Effect.starts_logs,
        List.append_nil]
      exact List.append_nil _
    have ends : Effect.ends t.effects = Effect.ends s.effects ++ [(app, outcome)] := by
      rw [effects, Effect.ends_append, Effect.ends_append, Effect.ends_logs, List.append_nil]
      rfl
    have away : ((Effect.ends t.effects).map Prod.fst ++ begun t.tasks).Perm
        (Effect.starts t.effects) := by
      rw [starts, ends, List.map_append, List.append_assoc]
      exact (leaves.symm.append_left _).trans h.ends
    refine ⟨joined, ?_, away, ?_, running.trans h.running, ?_, ?_⟩
    · rw [starts]
      exact (ahead.append_left _).trans h.begins
    · rw [ends]
      exact perm_concat comes h.joins
    · rw [effects]
      exact List.forall_mem_append.mpr ⟨List.forall_mem_append.mpr
        ⟨h.starting, List.forall_mem_map.mpr fun _ _ => rfl⟩, List.forall_mem_singleton.mpr rfl⟩
    · rw [effects] at away ⊢
      exact (h.bracketed.logs events).concat
        ((List.sublist_append_left _ _).subperm.trans away.subperm)
  -- What has begun and what is over stays; one start more is joined.
  | @joins app outcome events ahead away leaves effects running =>
    have starts : Effect.starts t.effects = Effect.starts s.effects := by
      rw [effects, Effect.starts_append, Effect.starts_logs, List.append_nil]
    have ends : Effect.ends t.effects = Effect.ends s.effects := by
      rw [effects, Effect.ends_append, Effect.ends_logs, List.append_nil]
    refine ⟨joined ++ [(app, outcome)], ?_, ?_, ?_, ?_, ?_, ?_⟩
    · rw [starts]
      exact (ahead.append_left _).trans h.begins
    · rw [starts, ends]
      exact (away.append_left _).trans h.ends
    · rw [ends, List.append_assoc]
      exact (leaves.symm.append_left _).trans h.joins
    · rw [running, h.running, Effect.handles_append, keepAll_append]
    · rw [effects]
      exact List.forall_mem_append.mpr ⟨h.starting, List.forall_mem_map.mpr fun _ _ => rfl⟩
    · rw [effects]
      exact h.bracketed.logs events

/-! ## Orders of steps -/

/-- Steps of tasks that are left, whichever they are. -/
inductive Steps (launcher : Launcher κ η) : Startup κ η → Startup κ η → Prop
  | refl (s : Startup κ η) : Steps launcher s s
  | head {s t : Startup κ η} (i : Nat) (h : i < s.tasks.length)
    (rest : Steps launcher (s.step launcher i) t) : Steps launcher s t

/-- Every order of steps keeps the starts sound. -/
theorem Steps.sound {launcher : Launcher κ η} {apps : List App} {joined : List (App × Outcome η)}
    {s t : Startup κ η} (steps : Steps launcher s t) (h : Sound apps joined s) :
    ∃ joined, Sound apps joined t := by
  induction steps generalizing joined with
  | refl s => exact ⟨joined, h⟩
  | @head s t i left rest ih =>
    obtain ⟨joined, sound⟩ := h.move (move_step launcher s left)
    exact ih sound

/-- The number of moves that tasks have before them. -/
def left (tasks : List (Task η)) : Nat :=
  3 * (waiting tasks).length + 2 * (begun tasks).length + (ended tasks).length

/-- A move leaves one move less. -/
theorem Move.left {s t : Startup κ η} (m : Move s t) : left s.tasks = left t.tasks + 1 := by
  unfold Startup.left
  cases m with
  | begins leaves comes behind effects running =>
    rw [leaves.length_eq, comes.length_eq, behind.length_eq, List.length_cons, List.length_cons]
    omega
  | ends ahead leaves comes effects running =>
    rw [ahead.length_eq, leaves.length_eq, comes.length_eq, List.length_cons, List.length_cons]
    omega
  | joins ahead away leaves effects running =>
    rw [ahead.length_eq, away.length_eq, leaves.length_eq, List.length_cons]
    omega

theorem left_waiting (app : App) (rest : List (Task η)) :
    left (.waiting app :: rest) = left rest + 3 := by
  have eq : left (.waiting app :: rest) =
    3 * ((waiting rest).length + 1) + 2 * (begun rest).length + (ended rest).length := rfl
  rw [eq, left]
  omega

theorem left_begun (app : App) (rest : List (Task η)) :
    left (.begun app :: rest) = left rest + 2 := by
  have eq : left (.begun app :: rest) =
    3 * (waiting rest).length + 2 * ((begun rest).length + 1) + (ended rest).length := rfl
  rw [eq, left]
  omega

theorem left_ended (app : App) (outcome : Outcome η) (rest : List (Task η)) :
    left (.ended app outcome :: rest) = left rest + 1 := rfl

/-- Tasks without moves are none. -/
theorem left_eq_zero {tasks : List (Task η)} : left tasks = 0 ↔ tasks = [] := by
  constructor
  · intro none
    cases tasks with
    | nil => rfl
    | cons task rest =>
      cases task with
      | waiting app =>
        rw [left_waiting] at none
        omega
      | begun app =>
        rw [left_begun] at none
        omega
      | ended app outcome =>
        rw [left_ended] at none
        omega
  · rintro rfl
    rfl

/-- At first three steps are left for every app. -/
theorem left_initial (apps : List App) (state : κ) :
    left (initial apps state : Startup κ η).tasks = 3 * apps.length := by
  induction apps with
  | nil => rfl
  | cons app apps ih =>
    rw [initial] at ih ⊢
    rw [List.map_cons, left_waiting, ih, List.length_cons, Nat.mul_succ]

/-- Where tasks are left, one of them is first in line. -/
theorem firstInLine_lt {tasks : List (Task η)} (h : tasks ≠ []) :
    firstInLine tasks < tasks.length := by
  unfold firstInLine
  cases found : tasks.findIdx? (!·.hasEnded) with
  | none => exact List.length_pos_iff.mpr h
  | some i => exact (List.findIdx?_eq_some_iff_getElem.mp found).1

/-- Every choice is one of the things to choose from. -/
theorem position_lt {count default : Nat} (choice : Option Nat) (h : default < count) :
    position choice count default < count := by
  cases choice with
  | none => exact h
  | some n => exact Nat.mod_lt n (Nat.zero_lt_of_lt h)

/-- As many steps as there are moves bring all tasks to their end. -/
theorem steps_left (launcher : Launcher κ η) {n : Nat} (choices : List Nat) (s : Startup κ η)
    (h : left s.tasks = n) :
    Steps launcher s (steps launcher n choices s) ∧ (steps launcher n choices s).tasks = [] := by
  induction n generalizing choices s with
  | zero => exact ⟨.refl s, left_eq_zero.mp h⟩
  | succ n ih =>
    have some : s.tasks ≠ [] := fun none => by
      rw [left_eq_zero.mpr none] at h
      exact absurd h.symm (Nat.succ_ne_zero n)
    have here := position_lt choices.head? (firstInLine_lt some)
    have fewer := (move_step launcher s here).left
    obtain ⟨rest, all⟩ := ih choices.tail _ (Nat.succ.inj (fewer.symm.trans h))
    exact ⟨.head _ here rest, all⟩

/-- Steps that bring all tasks to their end are those of some choices. -/
theorem Steps.exists_choices {launcher : Launcher κ η} {s t : Startup κ η}
    (h : Steps launcher s t) (all : t.tasks = []) :
    ∃ choices, steps launcher (Startup.left s.tasks) choices s = t := by
  induction h with
  | refl s => exact ⟨[], by rw [left_eq_zero.mpr all]; rfl⟩
  | @head s t i here rest ih =>
    obtain ⟨choices, reached⟩ := ih all
    refine ⟨i :: choices, ?_⟩
    rw [(move_step launcher s here).left, steps, List.head?_cons, List.tail_cons, position,
      Nat.mod_eq_of_lt here]
    exact reached

/-- The runs are the ways in which all tasks come to their end. -/
theorem exists_run_iff {launcher : Launcher κ η} {apps : List App} {state : κ}
    {t : Startup κ η} : (∃ choices, run launcher choices apps state = t) ↔
      Steps launcher (initial apps state) t ∧ t.tasks = [] := by
  constructor
  · rintro ⟨choices, rfl⟩
    exact steps_left launcher choices _ (left_initial apps state)
  · rintro ⟨steps, all⟩
    obtain ⟨choices, reached⟩ := steps.exists_choices all
    rw [left_initial] at reached
    exact ⟨choices, reached⟩

/-- What starting apps leaves behind, whatever the choices. -/
theorem exists_sound_run (launcher : Launcher κ η) (choices : List Nat) (apps : List App)
    (state : κ) : ∃ joined, Sound apps joined (run launcher choices apps state) ∧
      (run launcher choices apps state).tasks = [] := by
  obtain ⟨steps, all⟩ := exists_run_iff.mp ⟨choices, Eq.refl (run launcher choices apps state)⟩
  obtain ⟨joined, sound⟩ := steps.sound (sound_initial apps state)
  exact ⟨joined, sound, all⟩

end Startup

end MetricsHarness
