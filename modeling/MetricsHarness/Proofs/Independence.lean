import MetricsHarness.Proofs.Reports

/-!
# A run does not depend on its apps

Two runs ask the same queries of the same server. Everything about their apps may differ: which
they are and whether there are any, the launcher with its states and handles, what comes of every
start and stop, the order of the steps, the settings. Then the reports are equal, and the world sees
the same of both: the same requests arrive and the same lines are printed, in the same order
(`verdict_independent`).

The effects of the two runs are of different types, as each launcher has handles of its own. What
the world sees mentions no handle, so it is told in a type that has none (`Effect.seen`), and there
the two can be compared. An attempt does not depend on the handles of the run it is part of
(`Attempt.Alike`).
-/

namespace MetricsHarness

/-! ## What the world sees -/

namespace Effect

variable {η : Type}

/-- An effect as the world sees it: a request that arrives or a line that is printed. There are no
handles in it. -/
def seen? : Effect η → Option (Effect Empty)
  | .request r => some (.request r)
  | .print l => some (.print l)
  | _ => none

/-- What the world sees of effects, in order. -/
def seen (effects : List (Effect η)) : List (Effect Empty) := effects.filterMap seen?

theorem seen_append (first second : List (Effect η)) :
    seen (first ++ second) = seen first ++ seen second := List.filterMap_append

/-- Only what is outward is seen. -/
theorem seen_outward (effects : List (Effect η)) : seen (outward effects) = seen effects := by
  rw [seen, seen, outward, List.filterMap_filter]
  congr 1
  funext effect
  cases effect <;> rfl

theorem requests_seen (effects : List (Effect η)) : requests (seen effects) = requests effects := by
  rw [requests, seen, List.filterMap_filterMap]
  congr 1
  funext effect
  cases effect <;> rfl

theorem lines_seen (effects : List (Effect η)) : lines (seen effects) = lines effects := by
  rw [lines, seen, List.filterMap_filterMap]
  congr 1
  funext effect
  cases effect <;> rfl

/-- Requests are seen as they are, whatever the handles. -/
theorem seen_requests {θ : Type} (requests : List Request) :
    seen (requests.map (.request (η := η))) = seen (requests.map (.request (η := θ))) := by
  rw [seen, seen, List.filterMap_map, List.filterMap_map]
  rfl

end Effect

variable {σ κ κ' η θ : Type}

/-! ## Attempts in two runs -/

/-- Two attempts have the same failures, leave the server in the same state and look the same. -/
structure Attempt.Alike (a : Attempt σ η) (b : Attempt σ θ) : Prop where
  failures : a.failures = b.failures
  state : a.state = b.state
  seen : Effect.seen a.effects = Effect.seen b.effects

namespace Query

/-- A wait cannot be seen. -/
theorem seen_waitFor (seconds : Nat) : Effect.seen (waitFor (η := η) seconds) = [] := by
  unfold waitFor
  split <;> rfl

/-- Nor can that a response has come. -/
theorem seen_receivedEvents (response : Response) :
    Effect.seen (receivedEvents (η := η) response) = [] := by
  unfold receivedEvents
  split <;> rfl

theorem exchange_alike (client : Client σ) (q : Query) (method : Method) (url : Url) (state : σ) :
    (q.exchange client method url state : Attempt σ η).Alike
      (q.exchange client method url state : Attempt σ θ) := by
  have sends (requests : List Request) :
      Effect.seen ([.log (.sending q.endpoint q.path method.text), .log (.target url)] ++
          requests.map (.request (η := η))) =
        Effect.seen ([.log (.sending q.endpoint q.path method.text), .log (.target url)] ++
          requests.map (.request (η := θ))) := by
    rw [Effect.seen_append, Effect.seen_append, Effect.seen_requests (θ := θ)]
    rfl
  cases sent : (Client.send client ⟨method, url, q.sentBody⟩ state).result with
  | error fault =>
    simp only [exchange, sent]
    exact ⟨rfl, rfl, sends _⟩
  | ok response =>
    simp only [exchange, sent]
    refine ⟨rfl, rfl, (Effect.seen_append _ _).trans ?_⟩
    rw [sends, seen_receivedEvents, ← seen_receivedEvents (η := θ) response]
    exact (Effect.seen_append _ _).symm

theorem proceed_alike [Idna] (client : Client σ) (q : Query) (state : σ) :
    (q.proceed client state : Attempt σ η).Alike (q.proceed client state : Attempt σ θ) := by
  unfold proceed
  split
  · exact ⟨rfl, rfl, rfl⟩
  · split
    · exact ⟨rfl, rfl, rfl⟩
    · exact exchange_alike client q _ _ state

/-- An attempt is the same in every run. -/
theorem attempt_alike [Idna] (client : Client σ) (q : Query) (state : σ) :
    (q.attempt client state : Attempt σ η).Alike (q.attempt client state : Attempt σ θ) := by
  unfold attempt
  split
  · exact ⟨rfl, rfl, rfl⟩
  · obtain ⟨failures, after, seen⟩ := proceed_alike (η := η) (θ := θ) client q state
    refine ⟨failures, after, ?_⟩
    rw [Effect.seen_append, Effect.seen_append, seen_waitFor, seen_waitFor, seen]

end Query

/-! ## The queries of two runs -/

namespace Run

/-- What is printed about an attempt depends on its failures alone. -/
theorem seen_announce (number : Nat) (q : Query) (failures : List QueryFailure) :
    Effect.seen (announce (η := η) number q failures) =
      Effect.seen (announce (η := θ) number q failures) := by
  cases failures with
  | nil => rfl
  | cons failure rest =>
    simp only [announce, Effect.seen, List.filterMap_cons, Effect.seen?, List.filterMap_map]
    rfl

/-- The queries of two runs leave the server in the same state. -/
theorem serverAfter_alike [Idna] (client : Client σ) (qs : List Query) (state : σ) :
    serverAfter η client qs state = serverAfter θ client qs state := by
  unfold serverAfter
  congr 1
  funext state q
  exact (q.attempt_alike client state).state

theorem entriesFrom_alike [Idna] (client : Client σ) (number : Nat) (qs : List Query) (state : σ) :
    entriesFrom η client number qs state = entriesFrom θ client number qs state := by
  induction qs generalizing number state with
  | nil => rfl
  | cons q rest ih =>
    have alike := q.attempt_alike (η := η) (θ := θ) client state
    rw [entriesFrom_cons, entriesFrom_cons, alike.failures, alike.state, ih]

/-- The queries of two runs look the same. -/
theorem effectsFrom_alike [Idna] (client : Client σ) (number : Nat) (qs : List Query) (state : σ) :
    Effect.seen (effectsFrom η client number qs state) =
      Effect.seen (effectsFrom θ client number qs state) := by
  induction qs generalizing number state with
  | nil => rfl
  | cons q rest ih =>
    have alike := q.attempt_alike (η := η) (θ := θ) client state
    simp only [effectsFrom_cons, Effect.seen_append]
    rw [alike.seen, alike.failures, alike.state, ih, seen_announce (η := η) (θ := θ)]

/-- What the world sees of a run is what it sees of the queries. -/
theorem seen_ofSuite [Idna] (settings : Settings) (suite : Suite) (withoutApps : Bool)
    (schedule : Schedule) (launcher : Launcher κ η) (client : Client σ) (apps : κ) (state : σ) :
    Effect.seen
        (ofSuite settings suite withoutApps schedule launcher client apps state).effects =
      Effect.seen (effectsFrom η client 1 suite.queries state) := by
  rw [← Effect.seen_outward, outward_ofSuite, Effect.seen_outward]

/-- **The verdict does not depend on the apps.** Of two runs with the same queries and the same
server, whatever the settings, the apps, their launchers, the order of their starts and stops and
what comes of these, and with or without apps: the reports are equal, the same requests arrive in
the same order, the same text is printed, and requests and lines follow one another in the same way.
The server is left in the same state. -/
theorem verdict_independent [Idna] (client : Client σ) (queries : List Query) (state : σ)
    (settings settings' : Settings) (apps apps' : List App) (withoutApps withoutApps' : Bool)
    (schedule schedule' : Schedule) (launcher : Launcher κ η) (launcher' : Launcher κ' θ)
    (started : κ) (started' : κ') :
    let one := ofSuite settings ⟨apps, queries⟩ withoutApps schedule launcher client started state
    let other :=
      ofSuite settings' ⟨apps', queries⟩ withoutApps' schedule' launcher' client started' state
    one.report = other.report ∧
    Effect.requests one.effects = Effect.requests other.effects ∧
    (∀ colored, Line.text colored (Effect.lines one.effects) =
      Line.text colored (Effect.lines other.effects)) ∧
    Effect.seen one.effects = Effect.seen other.effects ∧
    one.server = other.server := by
  intro one other
  have seen : Effect.seen one.effects = Effect.seen other.effects := by
    rw [seen_ofSuite, seen_ofSuite]
    exact effectsFrom_alike client 1 queries state
  refine ⟨?_, ?_, fun colored => ?_, seen, ?_⟩
  · rw [report_eq_reportOn, report_eq_reportOn, reportOn, reportOn]
    exact congrArg _ (entriesFrom_alike client 1 queries state)
  · rw [← Effect.requests_seen, seen, Effect.requests_seen]
  · rw [← Effect.lines_seen, seen, Effect.lines_seen]
  · rw [server_eq_serverAfter, server_eq_serverAfter]
    exact serverAfter_alike client queries state

end Run

end MetricsHarness
