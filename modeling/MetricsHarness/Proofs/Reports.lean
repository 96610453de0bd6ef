import MetricsHarness.Proofs.Phases

/-!
# The report of a run

The report depends on the queries and the server alone: on what comes of each query in the state
that those before it have left behind (`report_eq_reportOn`). What apps do, and whether there are
any, changes neither the report nor what can be seen of the queries (`outward_ofSuite`). So a report
can be put together from those on the first queries and on the others (`reportOn_append`).
-/

namespace MetricsHarness

variable {σ κ η : Type}

/-- In a phase of queries what can be seen is what can be seen of the queries. -/
theorem QueryPhase.outward {asked effects : List (Effect η)} (h : QueryPhase asked effects) :
    Effect.outward effects = Effect.outward asked := by
  rw [← Effect.outward_deeds, h.deeds, Effect.outward_deeds]

namespace Report

theorem entriesOf_eq_nil_iff {number : Nat} {failures : List QueryFailure} :
    entriesOf number failures = [] ↔ failures = [] := by
  unfold entriesOf
  cases failures with
  | nil => exact iff_of_true rfl rfl
  | cons failure rest => exact iff_of_false (List.cons_ne_nil _ _) (List.cons_ne_nil _ _)

/-- Every query passed if there are no entries. -/
theorem passed_extend_initial {total : Nat} {entries : List Entry} :
    ((initial total).extend entries).passed = true ↔ entries = [] := by
  rw [passed, beq_iff_eq, extend, initial, Nat.zero_add]
  exact List.length_eq_zero_iff

end Report

namespace Run

/-- The report on queries that a run asks. -/
def reportOn [Idna] (η : Type) (client : Client σ) (qs : List Query) (state : σ) : Report :=
  (Report.initial qs.length).extend (entriesFrom η client 1 qs state)

variable [Idna] (settings : Settings) (suite : Suite) (withoutApps : Bool) (schedule : Schedule)
  (launcher : Launcher κ η) (client : Client σ) (apps : κ) (state : σ)

/-- The report of a run is that on its queries. -/
theorem report_eq_reportOn :
    (ofSuite settings suite withoutApps schedule launcher client apps state).report =
      reportOn η client suite.queries state := by
  rw [ofSuite, queries_eq]
  rfl

/-- A run leaves the server in the state that its queries leave. -/
theorem server_eq_serverAfter :
    (ofSuite settings suite withoutApps schedule launcher client apps state).server =
      serverAfter η client suite.queries state := by
  rw [ofSuite, queries_eq]

/-- The report on queries and others behind them is put together from those on both; the others are
asked in the state that the first leave. -/
theorem reportOn_append (first second : List Query) :
    reportOn η client (first ++ second) state =
      (reportOn η client first state).append
        (reportOn η client second (serverAfter η client first state)) := by
  unfold reportOn Report.append
  rw [entriesFrom_append, Nat.add_comm 1, entriesFrom_add]
  simp only [Report.extend, Report.initial, Nat.zero_add, List.nil_append, List.length_append,
    List.length_map]

/-- There are no entries if no attempt fails. -/
theorem entriesFrom_eq_nil_iff (client : Client σ) (number : Nat) (qs : List Query) (state : σ) :
    entriesFrom η client number qs state = [] ↔
      ∀ i, (attemptAt η client qs state i).failures = [] := by
  rw [entriesFrom, List.flatMap_eq_nil_iff]
  constructor
  · intro none i
    exact Report.entriesOf_eq_nil_iff.mp (none i (List.mem_finRange i))
  · intro clean i _
    exact Report.entriesOf_eq_nil_iff.mpr (clean i)

/-- A run fails exactly if an attempt does. -/
theorem passed_reportOn_eq_false_iff (client : Client σ) (qs : List Query) (state : σ) :
    (reportOn η client qs state).passed = false ↔
      ∃ i, (attemptAt η client qs state i).failures ≠ [] := by
  rw [← Bool.not_eq_true, reportOn, Report.passed_extend_initial, entriesFrom_eq_nil_iff,
    not_forall]

/-- What can be seen of a run is what can be seen of its queries. -/
theorem outward_ofSuite :
    Effect.outward
        (ofSuite settings suite withoutApps schedule launcher client apps state).effects =
      Effect.outward (effectsFrom η client 1 suite.queries state) := by
  cases withoutApps with
  | true => exact (queryPhase_ofSuite settings suite schedule launcher client apps state).outward
  | false =>
    obtain ⟨starting, asking, stopping, phases, starts, asks, stops⟩ :=
      exists_phases settings suite schedule launcher client apps state
    rw [phases, Effect.outward_append, Effect.outward_of_isStarting starts.only, List.nil_append,
      ← List.singleton_append, Effect.outward_append, Effect.outward_append, asks.outward,
      Effect.outward_of_isStopping stops.only, List.append_nil]
    rfl

/-- **The report of a run.** With or without apps and whatever they do: every query is attempted
once, in order, in the state that the attempts before it have left the server in. The entries are
those of the attempts that fail, with their numbers, and are counted; the run fails exactly if an
attempt does. What is sent and printed is that of the attempts, one after the other. The report on
the first queries, and on the others in the state that those leave, make up the whole. -/
theorem report_ofSuite (settings : Settings) (suite : Suite) (withoutApps : Bool)
    (schedule : Schedule) (launcher : Launcher κ η) (client : Client σ) (apps : κ) (state : σ) :
    let run (qs : List Query) (state : σ) : Run σ κ η :=
      ofSuite settings { suite with queries := qs } withoutApps schedule launcher client apps state
    let qs := suite.queries
    let whole := run qs state
    let attempt (i : Fin qs.length) : Attempt σ η := attemptAt η client qs state i
    whole.report.total = qs.length ∧
    whole.report.entries = ((List.finRange qs.length).flatMap fun i : Fin qs.length =>
      Report.entriesOf (1 + i) (attempt i).failures) ∧
    whole.report.failed = whole.report.entries.length ∧
    (whole.report.passed = false ↔ ∃ i, (attempt i).failures ≠ []) ∧
    (Effect.outward whole.effects = (List.finRange qs.length).flatMap fun i : Fin qs.length =>
      Effect.outward ((attempt i).effects ++ announce (1 + i) qs[i] (attempt i).failures)) ∧
    (∀ i : Fin qs.length, serverAfter η client (qs.take (i + 1)) state = (attempt i).state) ∧
    whole.server = serverAfter η client qs state ∧
    ∀ n, whole.report =
      (run (qs.take n) state).report.append
        (run (qs.drop n) (run (qs.take n) state).server).report := by
  intro run qs whole attempt
  have report (qs : List Query) (state : σ) : (run qs state).report = reportOn η client qs state :=
    report_eq_reportOn settings { suite with queries := qs } withoutApps schedule launcher client
      apps state
  have server' (qs : List Query) (state : σ) :
      (run qs state).server = serverAfter η client qs state :=
    server_eq_serverAfter settings { suite with queries := qs } withoutApps schedule launcher
      client apps state
  refine ⟨?_, ?_, ?_, ?_, ?_, serverAfter_take_succ client qs state, server' qs state,
    fun n => ?_⟩
  · rw [report]
    rfl
  · rw [report]
    rfl
  · rw [report, reportOn, Report.extend, Report.initial, Nat.zero_add, List.nil_append]
  · rw [report]
    exact passed_reportOn_eq_false_iff client qs state
  · rw [outward_ofSuite]
    exact List.filter_flatMap
  · rw [report, report, report, server', ← reportOn_append, List.take_append_drop]

end Run

end MetricsHarness
