import Mathlib.Data.List.Basic
import MetricsHarness.Proofs.Effects
import MetricsHarness.Run.Basic

/-!
# The queries of a run, one after the other

The attempt at a query depends on the queries before it in one way only: they have left the server
in some state (`serverAfter`). So the attempts of a run can be told without the run (`attemptAt`),
and with them the entries of its report and the effects of its queries. `queries_eq` says that the
loop over the queries gives just these, by an induction in which the number of the next query, the
report so far and the state of the server go together.

Apps that tell the log something while the queries wait change no deed of the queries (`beside`).
-/

namespace MetricsHarness

variable {σ κ η : Type}

/-! ## Entries of a report -/

namespace Report

/-- The entries for a query: one if it failed. -/
def entriesOf (number : Nat) (failures : List QueryFailure) : List Entry :=
  if failures.isEmpty then [] else [⟨number, failures⟩]

/-- A report with more entries; each is for a query that failed. -/
def extend (r : Report) (entries : List Entry) : Report :=
  ⟨r.total, r.failed + entries.length, r.entries ++ entries⟩

/-- No entry changes nothing. -/
theorem extend_nil (r : Report) : r.extend [] = r := by
  rw [extend, List.append_nil]
  rfl

/-- Entries are added one after another. -/
theorem extend_append (r : Report) (first second : List Entry) :
    r.extend (first ++ second) = (r.extend first).extend second := by
  rw [extend, extend, extend, List.length_append, List.append_assoc, Nat.add_assoc]

/-- A query adds the entries of its failures. -/
theorem record_eq (r : Report) (number : Nat) (failures : List QueryFailure) :
    r.record number failures = r.extend (entriesOf number failures) := by
  unfold record entriesOf
  split
  · exact r.extend_nil.symm
  · rfl

/-- An entry with a number that is counted from further on. -/
def Entry.shift (n : Nat) (e : Entry) : Entry := ⟨n + e.number, e.failures⟩

/-- Entries move with the number of their query. -/
theorem entriesOf_add (n number : Nat) (failures : List QueryFailure) :
    entriesOf (n + number) failures = (entriesOf number failures).map (.shift n) := by
  unfold entriesOf
  split
  · rfl
  · rfl

/-- The report on queries and on those behind them, whose numbers go on. -/
def append (r s : Report) : Report :=
  ⟨r.total + s.total, r.failed + s.failed, r.entries ++ s.entries.map (.shift r.total)⟩

end Report

/-! ## Effects of an attempt -/

namespace Query

/-- Waiting is part of an attempt. -/
theorem waitFor_isAttempting (seconds : Nat) :
    ∀ effect ∈ waitFor (η := η) seconds, effect.isAttempting = true := by
  unfold waitFor
  split
  · exact List.forall_mem_nil _
  · exact List.forall_mem_cons.mpr ⟨rfl, List.forall_mem_singleton.mpr rfl⟩

/-- What is told of a response is part of an attempt. -/
theorem receivedEvents_isAttempting (response : Response) :
    ∀ effect ∈ receivedEvents (η := η) response, effect.isAttempting = true := by
  unfold receivedEvents
  split
  · exact List.forall_mem_nil _
  · exact List.forall_mem_singleton.mpr rfl

/-- An exchange has the effects of an attempt only. -/
theorem exchange_isAttempting (client : Client σ) (q : Query) (method : Method) (url : Url)
    (state : σ) : ∀ effect ∈ (q.exchange client method url state : Attempt σ η).effects,
      effect.isAttempting = true := by
  have sends (requests : List Request) : ∀ effect ∈ [.log (.sending q.endpoint q.path method.text),
      .log (.target url)] ++ requests.map (Effect.request (η := η)), effect.isAttempting = true :=
    List.forall_mem_cons.mpr ⟨rfl, List.forall_mem_cons.mpr
      ⟨rfl, List.forall_mem_map.mpr fun _ _ => rfl⟩⟩
  unfold exchange
  dsimp only
  split
  · exact sends _
  · exact List.forall_mem_append.mpr ⟨sends _, receivedEvents_isAttempting _⟩

/-- What follows the delay has the effects of an attempt only. -/
theorem proceed_isAttempting [Idna] (client : Client σ) (q : Query) (state : σ) :
    ∀ effect ∈ (q.proceed client state : Attempt σ η).effects, effect.isAttempting = true := by
  unfold proceed
  split
  · exact List.forall_mem_nil _
  · split
    · exact List.forall_mem_nil _
    · exact exchange_isAttempting client q _ _ state

/-- An attempt waits, sends and tells what it does, and no more. -/
theorem attempt_isAttempting [Idna] (client : Client σ) (q : Query) (state : σ) :
    ∀ effect ∈ (q.attempt client state : Attempt σ η).effects, effect.isAttempting = true := by
  unfold attempt
  split
  · exact List.forall_mem_nil _
  · exact List.forall_mem_append.mpr
      ⟨waitFor_isAttempting _, proceed_isAttempting client q state⟩

end Query

namespace Run

/-! ## The attempts of a run -/

/-- The state in which queries leave the server. -/
def serverAfter [Idna] (η : Type) (client : Client σ) (queries : List Query) (state : σ) : σ :=
  queries.foldl (fun state q => (q.attempt client state : Attempt σ η).state) state

/-- The attempt at the query at a place: the server is in the state that the queries before have
left behind. -/
def attemptAt [Idna] (η : Type) (client : Client σ) (queries : List Query) (state : σ)
    (i : Fin queries.length) : Attempt σ η :=
  queries[i].attempt client (serverAfter η client (queries.take i) state)

/-- An attempt leaves the server to the query behind it. -/
theorem serverAfter_take_succ [Idna] (client : Client σ) (qs : List Query) (state : σ)
    (i : Fin qs.length) :
    serverAfter η client (qs.take (i + 1)) state = (attemptAt η client qs state i).state := by
  rw [List.take_succ_eq_append_getElem i.isLt, serverAfter, List.foldl_append]
  rfl

/-- The entries for queries; the first has the given number. -/
def entriesFrom [Idna] (η : Type) (client : Client σ) (number : Nat) (queries : List Query)
    (state : σ) :
    List Report.Entry :=
  (List.finRange queries.length).flatMap fun i : Fin queries.length =>
    Report.entriesOf (number + i) (attemptAt η client queries state i).failures

/-- The effects of queries; the first has the given number. -/
def effectsFrom [Idna] (η : Type) (client : Client σ) (number : Nat) (queries : List Query)
    (state : σ) :
    List (Effect η) :=
  (List.finRange queries.length).flatMap fun i : Fin queries.length =>
    (attemptAt η client queries state i).effects ++
      announce (number + i) queries[i] (attemptAt η client queries state i).failures

/-- What is gathered over a query and those behind it. -/
theorem flatMap_finRange_cons [Idna] {α : Type} (client : Client σ) (number : Nat) (q : Query)
    (rest : List Query) (state : σ) (f : Nat → Query → Attempt σ η → List α) :
    ((List.finRange (q :: rest).length).flatMap fun i : Fin (q :: rest).length =>
        f (number + i) (q :: rest)[i] (attemptAt η client (q :: rest) state i)) =
      f number q (q.attempt client state) ++
        (List.finRange rest.length).flatMap fun i : Fin rest.length =>
          f (number + 1 + i) rest[i]
            (attemptAt η client rest (q.attempt client state : Attempt σ η).state i) := by
  rw [show List.finRange (q :: rest).length = _ from List.finRange_succ, List.flatMap_cons,
    List.flatMap_map]
  refine congrArg _ (List.flatMap_congr fun i _ => ?_)
  rw [Nat.add_right_comm]
  rfl

/-- A loop has the entries of its first query and then those of the others. -/
theorem entriesFrom_cons [Idna] (client : Client σ) (number : Nat) (q : Query) (rest : List Query)
    (state : σ) : entriesFrom η client number (q :: rest) state =
      Report.entriesOf number (q.attempt client state : Attempt σ η).failures ++
        entriesFrom η client (number + 1) rest (q.attempt client state : Attempt σ η).state :=
  flatMap_finRange_cons client number q rest state fun n _ attempt =>
    Report.entriesOf n attempt.failures

/-- A loop runs its first query and then the others on the state that it leaves. -/
theorem effectsFrom_cons [Idna] (client : Client σ) (number : Nat) (q : Query) (rest : List Query)
    (state : σ) : effectsFrom η client number (q :: rest) state =
      (q.attempt client state : Attempt σ η).effects ++
          announce number q (q.attempt client state : Attempt σ η).failures ++
        effectsFrom η client (number + 1) rest (q.attempt client state : Attempt σ η).state :=
  flatMap_finRange_cons client number q rest state fun n q attempt =>
    attempt.effects ++ announce n q attempt.failures

/-- The loop over the queries gives the entries and the effects of their attempts. -/
theorem queries_eq [Idna] (client : Client σ) (number : Nat) (qs : List Query) (p : Progress σ η) :
    queries client number qs p =
      ⟨p.report.extend (entriesFrom η client number qs p.server),
        p.effects ++ effectsFrom η client number qs p.server,
        serverAfter η client qs p.server⟩ := by
  induction qs generalizing number p with
  | nil =>
    have entries : p.report.extend (entriesFrom η client number [] p.server) = p.report :=
      p.report.extend_nil
    have effects : p.effects ++ effectsFrom η client number [] p.server = p.effects :=
      List.append_nil _
    rw [entries, effects]
    rfl
  | cons q rest ih =>
    rw [queries, ih, entriesFrom_cons, effectsFrom_cons, Report.extend_append, ← Report.record_eq,
      ← List.append_assoc, ← List.append_assoc]
    rfl

/-! ## Queries behind queries -/

/-- The entries for queries behind others go on with the state that those leave. -/
theorem entriesFrom_append [Idna] (client : Client σ) (number : Nat) (first second : List Query)
    (state : σ) : entriesFrom η client number (first ++ second) state =
      entriesFrom η client number first state ++
        entriesFrom η client (number + first.length) second
          (serverAfter η client first state) := by
  induction first generalizing number state with
  | nil => rfl
  | cons q rest ih =>
    rw [List.cons_append, entriesFrom_cons, entriesFrom_cons, ih, List.append_assoc,
      List.length_cons, Nat.add_assoc, Nat.add_comm 1]
    rfl

/-- Entries are numbered from the first query on. -/
theorem entriesFrom_add [Idna] (client : Client σ) (n number : Nat) (qs : List Query) (state : σ) :
    entriesFrom η client (n + number) qs state =
      (entriesFrom η client number qs state).map (.shift n) := by
  rw [entriesFrom, entriesFrom, List.map_flatMap]
  refine List.flatMap_congr fun i _ => ?_
  rw [Nat.add_assoc, Report.entriesOf_add]

/-! ## Effects of queries -/

/-- What is told and printed about an attempt is part of asking. -/
theorem announce_isAsking (number : Nat) (q : Query) (failures : List QueryFailure) :
    ∀ effect ∈ announce (η := η) number q failures, effect.isAsking = true := by
  cases failures with
  | nil => exact List.forall_mem_cons.mpr ⟨rfl, List.forall_mem_singleton.mpr rfl⟩
  | cons failure rest => exact List.forall_mem_cons.mpr ⟨rfl, List.forall_mem_cons.mpr
      ⟨rfl, List.forall_mem_map.mpr fun _ _ => rfl⟩⟩

/-- A loop over queries does nothing but ask and tell. -/
theorem effectsFrom_isAsking [Idna] (client : Client σ) (number : Nat) (qs : List Query)
    (state : σ) :
    ∀ effect ∈ effectsFrom η client number qs state, effect.isAsking = true := by
  intro effect h
  obtain ⟨i, _, mem⟩ := List.mem_flatMap.mp h
  rcases List.mem_append.mp mem with asked | announced
  · exact Effect.isAsking_of_isAttempting (Query.attempt_isAttempting client _ _ effect asked)
  · exact announce_isAsking _ _ _ effect announced

/-! ## Apps beside the queries -/

/-- Beside an effect the apps may tell the log something; what follows goes on as before. -/
theorem exists_beside_cons (launcher : Launcher κ η) (effect : Effect η) (rest : List (Effect η))
    (state : κ) : ∃ (events : List Event) (after : κ),
      (beside launcher (effect :: rest) state).1 =
        effect :: (events.map .log ++ (beside launcher rest after).1) := by
  cases effect with
  | wait n => exact ⟨_, _, rfl⟩
  | _ => exact ⟨[], state, rfl⟩

/-- The apps do nothing but tell the log something. -/
theorem deeds_beside (launcher : Launcher κ η) (effects : List (Effect η)) (state : κ) :
    Effect.deeds (beside launcher effects state).1 = Effect.deeds effects := by
  induction effects generalizing state with
  | nil => rfl
  | cons effect rest ih =>
    obtain ⟨events, after, eq⟩ := exists_beside_cons launcher effect rest state
    rw [eq, ← List.singleton_append, ← List.singleton_append (l := rest), Effect.deeds_append,
      Effect.deeds_append, Effect.deeds_append, Effect.deeds_logs, ih, List.nil_append]

/-- Beside the apps all effects take place, in their order. -/
theorem sublist_beside (launcher : Launcher κ η) (effects : List (Effect η)) (state : κ) :
    effects.Sublist (beside launcher effects state).1 := by
  induction effects generalizing state with
  | nil => exact List.nil_sublist _
  | cons effect rest ih =>
    obtain ⟨events, after, eq⟩ := exists_beside_cons launcher effect rest state
    rw [eq]
    exact ((ih after).trans (List.sublist_append_right _ _)).cons_cons effect

/-- What runs beside queries only adds log lines. -/
theorem beside_isAsking (launcher : Launcher κ η) {effects : List (Effect η)} (state : κ)
    (h : ∀ effect ∈ effects, effect.isAsking = true) :
    ∀ effect ∈ (beside launcher effects state).1, effect.isAsking = true := by
  induction effects generalizing state with
  | nil => exact h
  | cons effect rest ih =>
    obtain ⟨events, after, eq⟩ := exists_beside_cons launcher effect rest state
    obtain ⟨first, others⟩ := List.forall_mem_cons.mp h
    rw [eq]
    exact List.forall_mem_cons.mpr ⟨first, List.forall_mem_append.mpr
      ⟨List.forall_mem_map.mpr fun _ _ => rfl, ih after others⟩⟩

end Run

end MetricsHarness
