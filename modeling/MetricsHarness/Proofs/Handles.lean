import MetricsHarness.Proofs.Startup

/-!
# What becomes of handles

A start that succeeds gives a handle. The run keeps it under the name of its app, and in the end
passes what it has kept to the launcher, in any order. Each handle that is kept is stopped once
(`Shutdown.stops_run`). But a name keeps one handle only (`Startup.Kept`): nothing is lost exactly
if the names are distinct.
-/

namespace MetricsHarness

variable {κ η : Type}

/-! ## Handles under names -/

namespace Startup

/-- A name that is new keeps its handle behind the others. -/
theorem keep_of_not_mem {name : String} {handle : η} {running : List (String × η)}
    (new : name ∉ running.map Prod.fst) :
    keep name handle running = running ++ [(name, handle)] := by
  induction running with
  | nil => rfl
  | cons one rest ih =>
    obtain ⟨other, kept⟩ := one
    rw [List.map_cons, List.mem_cons, not_or] at new
    rw [keep, if_neg (Ne.symm new.1), ih new.2, List.cons_append]

/-- A name that is known keeps its handle in the place of the one before. -/
theorem keep_of_mem {name : String} (handle : η) {running : List (String × η)}
    (known : name ∈ running.map Prod.fst) :
    ∃ before old after, running = before ++ (name, old) :: after ∧
      keep name handle running = before ++ (name, handle) :: after := by
  induction running with
  | nil => exact absurd known List.not_mem_nil
  | cons one rest ih =>
    obtain ⟨other, kept⟩ := one
    by_cases same : other = name
    · subst same
      exact ⟨[], kept, rest, rfl, by rw [keep, if_pos rfl, List.nil_append]⟩
    · rw [List.map_cons, List.mem_cons] at known
      obtain ⟨before, old, after, rfl, eq⟩ := ih (known.resolve_left (Ne.symm same))
      refine ⟨(other, kept) :: before, old, after, rfl, ?_⟩
      rw [keep, if_neg same, eq, List.cons_append]

/-- What is kept of handles: some of them, one under each of the names. -/
structure Kept (handles running : List (String × η)) : Prop where
  among : running.Subperm handles
  distinct : (running.map Prod.fst).Nodup
  names : ∀ name, name ∈ running.map Prod.fst ↔ name ∈ handles.map Prod.fst

/-- One more handle is kept, under a name that is new or in the place of another. -/
theorem Kept.keep {handles running : List (String × η)} (h : Kept handles running) (name : String)
    (handle : η) : Kept (handles ++ [(name, handle)]) (keep name handle running) := by
  by_cases known : name ∈ running.map Prod.fst
  · obtain ⟨before, old, after, rfl, kept⟩ := keep_of_mem handle known
    have fst : (before ++ (name, handle) :: after).map Prod.fst =
        (before ++ (name, old) :: after).map Prod.fst := by
      rw [List.map_append, List.map_append, List.map_cons, List.map_cons]
    rw [kept]
    refine ⟨?_, fst ▸ h.distinct, fun other => ?_⟩
    · have others : (before ++ after).Subperm handles :=
        (List.Sublist.append_left (List.sublist_cons_self _ _) before).subperm.trans h.among
      exact (List.perm_middle.subperm.trans ((List.subperm_cons _).mpr others)).trans
        (List.perm_append_singleton _ _).symm.subperm
    · rw [fst, h.names, List.map_append, List.mem_append]
      refine ⟨Or.inl, Or.rec id fun last => ?_⟩
      have same : other = name := List.mem_singleton.mp last
      rwa [same, ← h.names]
  · rw [keep_of_not_mem known]
    refine ⟨(List.subperm_append_right _).mpr h.among, ?_, fun other => ?_⟩
    · rw [List.map_append]
      exact (List.perm_append_singleton name _).nodup_iff.mpr
        (List.nodup_cons.mpr ⟨known, h.distinct⟩)
    · rw [List.map_append, List.map_append, List.mem_append, List.mem_append, h.names]

/-- What is kept of handles, one after the other. -/
theorem kept_keepAll (handles : List (String × η)) : Kept handles (keepAll [] handles) := by
  induction handles using List.reverseRecOn with
  | nil => exact ⟨.refl _, List.nodup_nil, fun _ => Iff.rfl⟩
  | append_singleton handles last ih =>
    rw [keepAll_append]
    exact ih.keep last.1 last.2

/-- What is kept does not depend on the order in which handles are told. -/
theorem Kept.of_perm {handles others running : List (String × η)} (h : Kept handles running)
    (same : handles.Perm others) : Kept others running where
  among := h.among.trans same.subperm
  distinct := h.distinct
  names name := (h.names name).trans (same.map Prod.fst).mem_iff

/-- Nothing is lost exactly if the names are distinct. -/
theorem Kept.perm_iff {handles running : List (String × η)} (h : Kept handles running) :
    running.Perm handles ↔ (handles.map Prod.fst).Nodup := by
  constructor
  · intro all
    exact (all.map Prod.fst).nodup_iff.mp h.distinct
  · intro distinct
    have names : (handles.map Prod.fst).Subperm (running.map Prod.fst) :=
      List.subperm_of_subset distinct fun name mem => (h.names name).mpr mem
    have length := names.length_le
    rw [List.length_map, List.length_map] at length
    exact h.among.perm_of_length_le length

/-- The same for the handles alone: if one is lost, there are fewer of them. -/
theorem Kept.perm_snd_iff {handles running : List (String × η)} (h : Kept handles running) :
    (running.map Prod.snd).Perm (handles.map Prod.snd) ↔ (handles.map Prod.fst).Nodup := by
  constructor
  · intro all
    have length := all.length_eq
    rw [List.length_map, List.length_map] at length
    exact h.perm_iff.mp (h.among.perm_of_length_le (Nat.le_of_eq length.symm))
  · intro distinct
    exact (h.perm_iff.mpr distinct).map Prod.snd

end Startup

/-! ## Stops -/

namespace Effect

theorem stops_append (first second : List (Effect η)) :
    stops (first ++ second) = stops first ++ stops second := List.filterMap_append

theorem stops_stop_cons (handle : η) (effects : List (Effect η)) :
    stops (.stop handle :: effects) = handle :: stops effects := rfl

/-- A list of events stops nothing. -/
theorem stops_logs (events : List Event) : stops (events.map (.log (η := η))) = [] := by
  rw [stops, ← filterMap_deeds (fun _ => rfl), deeds_logs, List.filterMap_nil]

end Effect

namespace Shutdown

/-- What is told about a stop stops nothing. -/
theorem stops_told (name : String) (value : Except Failure Unit) :
    Effect.stops (told (η := η) name value) = [] := by
  cases value <;> rfl

theorem told_isStopping (name : String) (value : Except Failure Unit) :
    ∀ effect ∈ told (η := η) name value, effect.isStopping = true := by
  cases value with
  | ok _ => exact List.forall_mem_nil _
  | error failure => exact List.forall_mem_singleton.mpr rfl

/-- One of the handles is stopped, then the others. -/
theorem exists_steps_succ (launcher : Launcher κ η) {n : Nat} (choices : List Nat)
    {running : List (String × η)} (state : κ) (some : running ≠ []) :
    ∃ (one : String × η) (others : List (String × η)), running.Perm (one :: others) ∧
      (steps launcher (n + 1) choices running state).1 =
        .stop one.2 :: ((launcher.stop one.2 state).events.map .log ++
            told one.1 (launcher.stop one.2 state).value) ++
          (steps launcher n choices.tail others (launcher.stop one.2 state).state).1 := by
  have here := Startup.position_lt choices.head? (List.length_pos_iff.mpr some)
  refine ⟨_, _, (List.getElem_cons_eraseIdx_perm here).symm, ?_⟩
  rw [steps, List.getElem?_eq_getElem here]

/-- Every handle is stopped once, and nothing else is done. -/
theorem stops_steps (launcher : Launcher κ η) {n : Nat} (choices : List Nat)
    {running : List (String × η)} (state : κ) (all : running.length = n) :
    (Effect.stops (steps launcher n choices running state).1).Perm (running.map Prod.snd) ∧
      ∀ effect ∈ (steps launcher n choices running state).1, effect.isStopping = true := by
  induction n generalizing choices running state with
  | zero =>
    rw [List.length_eq_zero_iff.mp all]
    exact ⟨.refl _, List.forall_mem_nil _⟩
  | succ n ih =>
    obtain ⟨one, others, split, eq⟩ := exists_steps_succ launcher choices state
      (List.ne_nil_of_length_eq_add_one all)
    have rest : others.length = n := Nat.succ.inj (split.length_eq.symm.trans all)
    obtain ⟨stopped, stopping⟩ := ih choices.tail (launcher.stop one.2 state).state rest
    rw [eq]
    constructor
    · rw [List.cons_append, Effect.stops_stop_cons, Effect.stops_append, Effect.stops_append,
        Effect.stops_logs, stops_told]
      exact (stopped.cons one.2).trans (split.map Prod.snd).symm
    · rw [List.cons_append, List.append_assoc]
      exact List.forall_mem_cons.mpr ⟨rfl, List.forall_mem_append.mpr
        ⟨List.forall_mem_map.mpr fun _ _ => rfl, List.forall_mem_append.mpr
          ⟨told_isStopping one.1 _, stopping⟩⟩⟩

/-- Shutting down stops every handle once. -/
theorem stops_run (launcher : Launcher κ η) (choices : List Nat) (running : List (String × η))
    (state : κ) :
    (Effect.stops (run launcher choices running state).1).Perm (running.map Prod.snd) :=
  (stops_steps launcher choices state rfl).1

/-- Shutting down does nothing but stop. -/
theorem run_isStopping (launcher : Launcher κ η) (choices : List Nat)
    (running : List (String × η)) (state : κ) :
    ∀ effect ∈ (run launcher choices running state).1, effect.isStopping = true :=
  (stops_steps launcher choices state rfl).2

end Shutdown

end MetricsHarness
