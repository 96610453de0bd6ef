import MetricsHarness.Exchange.Following
import MetricsHarness.Proofs.Handles
import MetricsHarness.Proofs.Queries
import MetricsHarness.Url.LiteralDomain

/-!
# The phases of a run

A run with apps starts them all, waits once, asks its queries and stops what it has kept of its
handles (`exists_phases`). The phases do not overlap: in the first (`StartPhase`) there are starts
alone, each of which is over before the wait; in the second (`QueryPhase`) there are the effects of
the queries alone, in their order; in the third (`StopPhase`) there are stops alone. A run without
apps has the second only.

From the phases it can be told which handles are stopped (`exists_kept`): one under each of the
names under which starts have given handles. So every handle is stopped exactly if these names are
distinct.
-/

namespace MetricsHarness

variable {σ κ η : Type}

/-! ## Phases -/

/-- A phase in which apps are started. -/
structure StartPhase (apps : List App) (effects : List (Effect η)) : Prop where
  only : ∀ effect ∈ effects, effect.isStarting = true
  /-- Every app is started once. -/
  starts : (Effect.starts effects).Perm apps
  /-- Every start is over. -/
  ends : ((Effect.ends effects).map Prod.fst).Perm apps
  bracketed : Effect.Bracketed effects

/-- A phase in which queries are asked, which does `asked`. -/
structure QueryPhase (asked effects : List (Effect η)) : Prop where
  only : ∀ effect ∈ effects, effect.isAsking = true
  /-- All that is to be done is done, in its order. -/
  asks : asked.Sublist effects
  /-- Nothing else is done, though the log may be told more. -/
  deeds : Effect.deeds effects = Effect.deeds asked

/-- A phase in which apps are stopped that were started under names. -/
structure StopPhase (started : List (String × η)) (effects : List (Effect η)) : Prop where
  only : ∀ effect ∈ effects, effect.isStopping = true
  /-- No handle is stopped more often than it was given. -/
  among : (Effect.stops effects).Subperm (started.map Prod.snd)
  /-- What is kept of the handles is stopped. -/
  stops : ∃ kept, Startup.Kept started kept ∧ (Effect.stops effects).Perm (kept.map Prod.snd)

/-! ## How a phase comes about -/

/-- Telling the log before the starts leaves them bracketed. -/
theorem Effect.Bracketed.log_cons {effects : List (Effect η)} (h : Bracketed effects)
    (event : Event) : Bracketed (.log event :: effects) := by
  intro early before
  cases early with
  | nil => exact .refl _
  | cons effect early =>
    obtain ⟨rfl, earlier⟩ := List.cons_prefix_cons.mp before
    exact h early earlier

/-- Telling the log something before and after leaves the starts as they are. -/
theorem Effect.starts_framed (first last : Event) (effects : List (Effect η)) :
    starts (.log first :: (effects ++ [.log last])) = starts effects :=
  (starts_append effects _).trans (List.append_nil _)

theorem Effect.ends_framed (first last : Event) (effects : List (Effect η)) :
    ends (.log first :: (effects ++ [.log last])) = ends effects :=
  (ends_append effects _).trans (List.append_nil _)

namespace Startup

/-- Once all starts are joined, every app has begun. -/
theorem Sound.allBegun {apps : List App} {joined : List (App × Outcome η)} {s : Startup κ η}
    (h : Sound apps joined s) (all : s.tasks = []) : (Effect.starts s.effects).Perm apps := by
  have begins := h.begins
  rwa [all, waiting, List.filterMap_nil, List.append_nil] at begins

/-- Once all starts are joined, every start is over. -/
theorem Sound.allEnded {apps : List App} {joined : List (App × Outcome η)} {s : Startup κ η}
    (h : Sound apps joined s) (all : s.tasks = []) :
    ((Effect.ends s.effects).map Prod.fst).Perm apps := by
  have ends := h.ends
  rw [all, begun, List.filterMap_nil, List.append_nil] at ends
  exact ends.trans (h.allBegun all)

/-- Once all starts are joined, what runs is what is kept of the handles they gave. -/
theorem Sound.kept {apps : List App} {joined : List (App × Outcome η)} {s : Startup κ η}
    (h : Sound apps joined s) (all : s.tasks = []) :
    Kept (Effect.started s.effects) s.running := by
  have joins := h.joins
  rw [all, ended, List.filterMap_nil, List.append_nil] at joins
  rw [h.running]
  exact (kept_keepAll (Effect.handles joined)).of_perm (joins.filterMap _)

/-- Starts that are all joined make a phase, with what is told before and after them. -/
theorem Sound.startPhase {apps : List App} {joined : List (App × Outcome η)} {s : Startup κ η}
    (h : Sound apps joined s) (all : s.tasks = []) (first last : Event) :
    StartPhase apps (.log first :: (s.effects ++ [.log last])) where
  only := List.forall_mem_cons.mpr
    ⟨rfl, List.forall_mem_append.mpr ⟨h.starting, List.forall_mem_singleton.mpr rfl⟩⟩
  starts := by
    rw [Effect.starts_framed]
    exact h.allBegun all
  ends := by
    rw [Effect.ends_framed]
    exact h.allEnded all
  bracketed := (h.bracketed.logs [last]).log_cons first

end Startup

/-- Effects of asking make a phase, with what the apps tell beside them and what is told before and
after. -/
theorem queryPhase_beside (launcher : Launcher κ η) {asked : List (Effect η)} (state : κ)
    (only : ∀ effect ∈ asked, effect.isAsking = true) (first last : List Event) :
    QueryPhase asked (first.map .log ++ (Run.beside launcher asked state).1 ++ last.map .log) where
  only := List.forall_mem_append.mpr ⟨List.forall_mem_append.mpr
    ⟨List.forall_mem_map.mpr fun _ _ => rfl, Run.beside_isAsking launcher state only⟩,
    List.forall_mem_map.mpr fun _ _ => rfl⟩
  asks := (Run.sublist_beside launcher asked state).trans
    ((List.sublist_append_right _ _).trans (List.sublist_append_left _ _))
  deeds := by
    rw [Effect.deeds_append, Effect.deeds_append, Effect.deeds_logs, Effect.deeds_logs,
      Run.deeds_beside, List.nil_append, List.append_nil]

/-- Stopping what is kept of handles makes a phase, with what is told after it. -/
theorem stopPhase_run (launcher : Launcher κ η) (choices : List Nat)
    {started running : List (String × η)} (kept : Startup.Kept started running) (state : κ)
    (last : Event) :
    StopPhase started ((Shutdown.run launcher choices running state).1 ++ [.log last]) := by
  have stops : (Effect.stops ((Shutdown.run launcher choices running state).1 ++
      [.log last])).Perm (running.map Prod.snd) := by
    have told : Effect.stops [.log (η := η) last] = [] := rfl
    rw [Effect.stops_append, told, List.append_nil]
    exact Shutdown.stops_run launcher choices running state
  obtain ⟨some, same, among⟩ := kept.among
  exact
    { only := List.forall_mem_append.mpr
        ⟨Shutdown.run_isStopping launcher choices running state, List.forall_mem_singleton.mpr rfl⟩
      among := stops.subperm.trans ⟨_, same.map Prod.snd, among.map Prod.snd⟩
      stops := ⟨running, kept, stops⟩ }

namespace Run

/-- What is told before apps are stopped is told to the log. -/
theorem exists_shutting (running : List (String × η)) :
    ∃ events : List Event, shutting running = events.map .log := by
  unfold shutting
  split
  · exact ⟨[], rfl⟩
  · exact ⟨[.shuttingDown running.length], rfl⟩

variable (settings : Settings) (suite : Suite) (withoutApps : Bool) (schedule : Schedule)
  (launcher : Launcher κ η) (client : Client σ) (apps : κ) (state : σ)

/-- The effects of a run: between what it tells at its begin and at its end, it opens, asks its
queries and shuts down. -/
theorem effects_ofSuite [Idna] :
    let run := ofSuite settings suite withoutApps schedule launcher client apps state
    let opened := opening settings suite withoutApps schedule launcher apps
    let asked := beside launcher (effectsFrom η client 1 suite.queries state) opened.launcher
    run.effects =
      .log (.runBegins suite.apps.length suite.queries.length withoutApps) :: opened.effects ++
          asked.1 ++ shutting opened.running ++
        (Shutdown.run launcher schedule.stops opened.running asked.2).1 ++
          [.log (closing run.report)] := by
  dsimp only
  rw [ofSuite, queries_eq, List.nil_append]

theorem exists_effects_ofSuite [Idna] :
    let opened := opening settings suite withoutApps schedule launcher apps
    ∃ (begins closing : Event) (after : κ),
      (ofSuite settings suite withoutApps schedule launcher client apps state).effects =
        .log begins :: opened.effects ++
            (beside launcher (effectsFrom η client 1 suite.queries state) opened.launcher).1 ++
          shutting opened.running ++
            (Shutdown.run launcher schedule.stops opened.running after).1 ++ [.log closing] :=
  ⟨_, _, _, effects_ofSuite settings suite withoutApps schedule launcher client apps state⟩

/-- With apps a run opens with their starts and the wait behind them. -/
theorem opening_of_apps :
    let started := Startup.run launcher schedule.starts suite.apps apps
    let grace := settings.startupGrace.toNat
    let answer := launcher.elapse grace started.launcher
    opening settings suite false schedule launcher apps =
      { started with
        effects := started.effects ++
          .log (.graceBegins grace) :: .wait grace :: answer.events.map .log
        launcher := answer.state } := by
  simp only [opening, beside, List.append_nil, Bool.false_eq_true, if_false]

/-- A run with apps goes through its phases. -/
theorem exists_phases [Idna] :
    ∃ starting asking stopping,
      (ofSuite settings suite false schedule launcher client apps state).effects =
        starting ++ .wait settings.startupGrace.toNat :: (asking ++ stopping) ∧
      StartPhase suite.apps starting ∧
      QueryPhase (effectsFrom η client 1 suite.queries state) asking ∧
      StopPhase (Effect.started starting) stopping := by
  obtain ⟨begins, closing, after, eq⟩ :=
    exists_effects_ofSuite settings suite false schedule launcher client apps state
  rw [opening_of_apps] at eq
  obtain ⟨joined, sound, all⟩ :=
    Startup.exists_sound_run launcher schedule.starts suite.apps apps
  generalize Startup.run launcher schedule.starts suite.apps apps = started at eq sound all
  generalize launcher.elapse settings.startupGrace.toNat started.launcher = answer at eq
  obtain ⟨shut, shutting⟩ := exists_shutting started.running
  rw [shutting] at eq
  have kept : Startup.Kept (Effect.started (.log begins ::
      (started.effects ++ [.log (.graceBegins settings.startupGrace.toNat)])))
      started.running := by
    rw [Effect.started, Effect.ends_framed]
    exact sound.kept all
  refine ⟨_, _, _, eq.trans ?_, sound.startPhase all begins _,
    queryPhase_beside launcher answer.state (effectsFrom_isAsking client 1 suite.queries state)
      answer.events shut,
    stopPhase_run launcher schedule.stops kept after closing⟩
  simp only [List.cons_append, List.append_assoc, List.nil_append]

/-- Without apps a run has no phase but that of its queries. -/
theorem queryPhase_ofSuite [Idna] :
    QueryPhase (effectsFrom η client 1 suite.queries state)
      (ofSuite settings suite true schedule launcher client apps state).effects := by
  obtain ⟨begins, closing, after, eq⟩ :=
    exists_effects_ofSuite settings suite true schedule launcher client apps state
  have asking := queryPhase_beside launcher apps (effectsFrom_isAsking client 1 suite.queries state)
    [begins] [closing]
  have effects : (ofSuite settings suite true schedule launcher client apps state).effects =
      [begins].map .log ++
          (beside launcher (effectsFrom η client 1 suite.queries state) apps).1 ++
        [closing].map .log := by
    refine eq.trans ?_
    rw [opening, if_pos rfl]
    exact congrArg (· ++ _) ((List.append_nil _).trans (List.append_nil _))
  rwa [effects]

/-- **The phases of a run.** With apps, whatever their starts come to and in whichever order the
starts take their steps: every app of the suite is started once, and all starts are over before the
one wait for the grace period; then come the effects of the queries in order; then stops alone, of
handles that starts of this run have given, none more often than it was given. Without apps there
are the effects of the queries alone. The choices of a schedule stand for all orders of steps. -/
theorem phases_ofSuite [Idna] (settings : Settings) (suite : Suite) (schedule : Schedule)
    (launcher : Launcher κ η) (client : Client σ) (apps : κ) (state : σ) :
    let asked : List (Effect η) := effectsFrom η client 1 suite.queries state
    (∃ starting asking stopping,
      (ofSuite settings suite false schedule launcher client apps state).effects =
        starting ++ .wait settings.startupGrace.toNat :: (asking ++ stopping) ∧
      StartPhase suite.apps starting ∧ QueryPhase asked asking ∧
      StopPhase (Effect.started starting) stopping) ∧
    QueryPhase asked (ofSuite settings suite true schedule launcher client apps state).effects ∧
    ∀ t, (∃ choices, Startup.run launcher choices suite.apps apps = t) ↔
      Startup.Steps launcher (Startup.initial suite.apps apps) t ∧ t.tasks = [] :=
  ⟨exists_phases settings suite schedule launcher client apps state,
    queryPhase_ofSuite settings suite schedule launcher client apps state,
    fun _ => Startup.exists_run_iff⟩

/-! ## Which handles are stopped -/

/-- Before the last phase nothing is stopped. -/
theorem stops_before {starting asking : List (Effect η)} (grace : Nat)
    (starts : ∀ effect ∈ starting, effect.isStarting = true)
    (asks : ∀ effect ∈ asking, effect.isAsking = true) :
    Effect.stops (starting ++ .wait grace :: asking) = [] := by
  rw [Effect.stops_append, Effect.stops_of_isStarting starts, List.nil_append]
  exact Effect.stops_of_isAsking (List.forall_mem_cons.mpr ⟨rfl, asks⟩)

/-- After the first phase no start ends. -/
theorem ends_phases (starting : List (Effect η)) {asking stopping : List (Effect η)}
    (grace : Nat) (asks : ∀ effect ∈ asking, effect.isAsking = true)
    (stops : ∀ effect ∈ stopping, effect.isStopping = true) :
    Effect.ends (starting ++ .wait grace :: asking ++ stopping) = Effect.ends starting := by
  have waits : ∀ effect ∈ .wait grace :: asking, effect.isAsking = true :=
    List.forall_mem_cons.mpr ⟨rfl, asks⟩
  rw [Effect.ends_append, Effect.ends_append, Effect.ends_of_isAsking waits,
    Effect.ends_of_isStopping stops, List.append_nil, List.append_nil]

/-- The stops of a run come after all else, and are those of the handles that are kept. -/
theorem exists_kept [Idna] :
    let effects := (ofSuite settings suite false schedule launcher client apps state).effects
    ∃ before after kept, effects = before ++ after ∧ Effect.stops before = [] ∧
      (∀ effect ∈ after, effect.isStopping = true) ∧
      ((Effect.ends effects).map Prod.fst).Perm suite.apps ∧
      Startup.Kept (Effect.started effects) kept ∧
      (Effect.stops effects).Perm (kept.map Prod.snd) := by
  intro effects
  obtain ⟨starting, asking, stopping, phases, starts, asks, stops⟩ :=
    exists_phases settings suite schedule launcher client apps state
  have split : effects = starting ++ .wait settings.startupGrace.toNat :: asking ++ stopping := by
    rw [List.append_assoc, List.cons_append]
    exact phases
  have before := stops_before settings.startupGrace.toNat starts.only asks.only
  have stopped : Effect.stops effects = Effect.stops stopping := by
    rw [split, Effect.stops_append, before, List.nil_append]
  have ends : Effect.ends effects = Effect.ends starting := by
    rw [split, ends_phases starting _ asks.only stops.only]
  obtain ⟨kept, keeps, same⟩ := stops.stops
  rw [stopped, Effect.started, ends]
  exact ⟨_, _, kept, split, before, stops.only, starts.ends, keeps, same⟩

/-- **Which handles are stopped.** Stops come after all else. They are those of the handles that
are kept: some of those that starts have given, one under each of their names. So every handle is
stopped once exactly if the apps whose starts gave handles have distinct names. -/
theorem stops_ofSuite [Idna] (settings : Settings) (suite : Suite) (schedule : Schedule)
    (launcher : Launcher κ η) (client : Client σ) (apps : κ) (state : σ) :
    let effects := (ofSuite settings suite false schedule launcher client apps state).effects
    (∃ before after, effects = before ++ after ∧ Effect.stops before = [] ∧
      ∀ effect ∈ after, effect.isStopping = true) ∧
    (∃ kept, Startup.Kept (Effect.started effects) kept ∧
      (Effect.stops effects).Perm (kept.map Prod.snd)) ∧
    ((Effect.stops effects).Perm ((Effect.started effects).map Prod.snd) ↔
      ((Effect.started effects).map Prod.fst).Nodup) := by
  intro effects
  obtain ⟨before, after, kept, split, none, only, _, keeps, same⟩ :=
    exists_kept settings suite schedule launcher client apps state
  refine ⟨⟨before, after, split, none, only⟩, ⟨kept, keeps, same⟩, ?_⟩
  rw [← keeps.perm_snd_iff]
  exact ⟨same.symm.trans, same.trans⟩

/-- A launcher whose apps all run, under the numbers of their starts. -/
def counting : Launcher Nat Nat where
  start _ n := ⟨.running n, [], n + 1⟩
  stop _ n := ⟨.ok (), [], n⟩
  elapse _ n := ⟨(), [], n⟩

open LiteralDomain in
/-- Of two apps of one name the first to run is never stopped. -/
theorem stops_counting_twins :
    let twins : Suite := ⟨[⟨"a", "x", []⟩, ⟨"a", "x", []⟩], []⟩
    let effects :=
      (ofSuite .default twins false .inOrder counting Server.absent.client 0 ()).effects
    Effect.started effects = [("a", 0), ("a", 1)] ∧ Effect.stops effects = [1] ∧
      ¬ (Effect.stops effects).Perm ((Effect.started effects).map Prod.snd) := by
  decide

/-- Where the apps of a suite have distinct names, every handle is stopped once. -/
theorem stops_perm_of_distinct [Idna]
    (distinct : (suite.apps.map App.name).Nodup) :
    let effects := (ofSuite settings suite false schedule launcher client apps state).effects
    (Effect.stops effects).Perm ((Effect.started effects).map Prod.snd) := by
  intro effects
  obtain ⟨_, _, kept, _, _, _, ends, keeps, same⟩ :=
    exists_kept settings suite schedule launcher client apps state
  have names := ((ends.map App.name).nodup_iff.mpr distinct).sublist
    (Effect.names_handles (Effect.ends effects))
  exact same.trans (keeps.perm_snd_iff.mpr names)

end Run

end MetricsHarness
