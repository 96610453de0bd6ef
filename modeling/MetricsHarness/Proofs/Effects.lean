import MetricsHarness.Run.Effect

/-!
# Lists of effects

What a run does falls into phases by the kind of effect: starting apps, asking queries, stopping
apps. Every phase may tell the log something. A view that passes over the log sees the deeds alone,
the effects that are not told to the log, so lists with the same deeds agree in each such view
(`filterMap_deeds`).
-/

namespace MetricsHarness.Effect

variable {η α : Type}

/-! ## Kinds of effects -/

/-- Whether an effect is told to the log. -/
def isLog : Effect η → Bool
  | .log _ => true
  | _ => false

/-- Whether an effect belongs to starting apps. -/
def isStarting : Effect η → Bool
  | .start _ | .startEnded .. | .log _ => true
  | _ => false

/-- Whether an effect belongs to asking queries. -/
def isAsking : Effect η → Bool
  | .wait _ | .request _ | .log _ | .print _ => true
  | _ => false

/-- Whether an effect belongs to an attempt at a query, about which nothing is said yet. -/
def isAttempting : Effect η → Bool
  | .wait _ | .request _ => true
  | .log e => e.origin == .query
  | _ => false

theorem isAsking_of_isAttempting {effect : Effect η} (h : effect.isAttempting = true) :
    effect.isAsking = true := by
  cases effect <;> first | rfl | cases h

/-- Whether an effect belongs to stopping apps. -/
def isStopping : Effect η → Bool
  | .stop _ | .log _ => true
  | _ => false

/-- Whether an effect can be seen from outside: a request that arrives or a line that is printed. -/
def isOutward : Effect η → Bool
  | .request _ | .print _ => true
  | _ => false

/-! ## Deeds -/

/-- Effects without those that are told to the log. -/
def deeds (effects : List (Effect η)) : List (Effect η) := effects.filter (!·.isLog)

theorem deeds_append (first second : List (Effect η)) :
    deeds (first ++ second) = deeds first ++ deeds second := List.filter_append ..

/-- Telling the log is no deed. -/
theorem deeds_log_cons (event : Event) (effects : List (Effect η)) :
    deeds (.log event :: effects) = deeds effects := rfl

theorem deeds_logs (events : List Event) : deeds (events.map (.log (η := η))) = [] := by
  refine List.filter_eq_nil_iff.mpr fun effect h => ?_
  obtain ⟨event, _, rfl⟩ := List.mem_map.mp h
  exact Bool.false_ne_true

/-- Where nothing is told to the log, all effects are deeds. -/
theorem deeds_eq_self {effects : List (Effect η)} (silent : ∀ e ∈ effects, e.isLog = false) :
    deeds effects = effects := by
  refine List.filter_eq_self.mpr fun effect h => ?_
  rw [silent effect h, Bool.not_false]

/-- A view that passes over the log depends on deeds alone. -/
theorem filterMap_deeds {view : Effect η → Option α} (silent : ∀ e, view (.log e) = none)
    (effects : List (Effect η)) : (deeds effects).filterMap view = effects.filterMap view := by
  rw [deeds, List.filterMap_filter]
  congr 1
  funext effect
  cases effect with
  | log event => exact (silent event).symm
  | _ => rfl

/-- A view sees nothing in effects of a kind that it passes over. -/
theorem filterMap_eq_nil_of_kind {kind : Effect η → Bool} {view : Effect η → Option α}
    (away : ∀ e, kind e = true → view e = none) {effects : List (Effect η)}
    (only : ∀ e ∈ effects, kind e = true) : effects.filterMap view = [] :=
  List.filterMap_eq_nil_iff.mpr fun effect mem => away effect (only effect mem)

/-- Only stopping stops. -/
theorem stops_of_isStarting {effects : List (Effect η)}
    (only : ∀ e ∈ effects, e.isStarting = true) : stops effects = [] := by
  refine filterMap_eq_nil_of_kind (fun effect kind => ?_) only
  cases effect <;> first | rfl | cases kind

theorem stops_of_isAsking {effects : List (Effect η)}
    (only : ∀ e ∈ effects, e.isAsking = true) : stops effects = [] := by
  refine filterMap_eq_nil_of_kind (fun effect kind => ?_) only
  cases effect <;> first | rfl | cases kind

/-- Only starting starts. -/
theorem ends_of_isAsking {effects : List (Effect η)}
    (only : ∀ e ∈ effects, e.isAsking = true) : ends effects = [] := by
  refine filterMap_eq_nil_of_kind (fun effect kind => ?_) only
  cases effect <;> first | rfl | cases kind

theorem ends_of_isStopping {effects : List (Effect η)}
    (only : ∀ e ∈ effects, e.isStopping = true) : ends effects = [] := by
  refine filterMap_eq_nil_of_kind (fun effect kind => ?_) only
  cases effect <;> first | rfl | cases kind

/-- The effects that can be seen from outside, in order. -/
def outward (effects : List (Effect η)) : List (Effect η) := effects.filter isOutward

theorem outward_append (first second : List (Effect η)) :
    outward (first ++ second) = outward first ++ outward second := List.filter_append ..

/-- What can be seen is among the deeds. -/
theorem outward_deeds (effects : List (Effect η)) : outward (deeds effects) = outward effects := by
  rw [outward, deeds, List.filter_filter]
  congr 1
  funext effect
  cases effect <;> rfl

/-- Starting apps cannot be seen. -/
theorem outward_of_isStarting {effects : List (Effect η)}
    (h : ∀ effect ∈ effects, effect.isStarting = true) : outward effects = [] := by
  refine List.filter_eq_nil_iff.mpr fun effect mem seen => ?_
  have starting := h effect mem
  cases effect <;> cases starting <;> cases seen

/-- Stopping apps cannot be seen. -/
theorem outward_of_isStopping {effects : List (Effect η)}
    (h : ∀ effect ∈ effects, effect.isStopping = true) : outward effects = [] := by
  refine List.filter_eq_nil_iff.mpr fun effect mem seen => ?_
  have stopping := h effect mem
  cases effect <;> cases stopping <;> cases seen

end MetricsHarness.Effect
