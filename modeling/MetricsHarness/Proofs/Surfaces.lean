import MetricsHarness.CommandLine.Conduct
import MetricsHarness.Proofs.AppEvents
import MetricsHarness.Proofs.Independence
import MetricsHarness.Proofs.Rows

/-!
# The surfaces on which a run shows its verdicts

What has come of the queries of a run can be seen in many places: in the lines that are printed, in
the events of the log, in the report, in what the command says and in the exit status. Each of them
is made by a part of its own, from counts and lists that are kept along the way. Here each is shown
to be a function of one thing, the objections to each query (`Run.objections`), so that all agree.

A verdict in the log is an event of the runner with one of four messages (`Event.isVerdict`). An app
whose output is forwarded may write a line with such a message; its event is one of the launcher.
So the log has the verdicts of the run and no others, as long as the launcher tells only events of
its own. The other surfaces do not depend on that.
-/

namespace MetricsHarness

variable {σ κ η : Type}

/-! ## Verdicts as events -/

namespace Event

/-- The verdict on a query with objections. -/
def onQuery (number : Nat) : List String → Event
  | [] => .queryPassed number
  | objections => .queryFailed number objections

end Event

namespace Effect

end Effect

/-! ## What a run shows -/

namespace Run

/-- The objections to the query at a place, as they are worded. -/
def objections [Idna] (client : Client σ) (qs : List Query) (state : σ) (i : Fin qs.length) :
    List String :=
  (attemptAt Empty client qs state i).failures.map (·.message)

/-- The number of queries with objections. -/
def broken {n : Nat} (objections : Fin n → List String) : Nat :=
  (List.finRange n).countP fun i => !(objections i).isEmpty

/-- The lines about queries. -/
def lines (qs : List Query) (objections : Fin qs.length → List String) : List Line :=
  (List.finRange qs.length).flatMap fun i : Fin qs.length =>
    Line.onQuery (1 + i) (qs.get i).label (objections i)

/-- The rows of a text that is printed about a suite. -/
def rows (path : String) (qs : List Query) (objections : Fin qs.length → List String) :
    List String :=
  "" :: s!"Running Suite: {path}" ::
    (List.finRange qs.length).flatMap (fun i : Fin qs.length =>
      Line.queryRows (1 + i) (qs.get i).label (objections i)) ++
    ["", Line.summaryRow (broken objections) qs.length, ""]

/-- No line break is in what the rows show. -/
structure Unbroken (path : String) (qs : List Query) (objections : Fin qs.length → List String) :
    Prop where
  path : '\n' ∉ path.toList
  labels : ∀ i : Fin qs.length, '\n' ∉ (qs.get i).label.toList
  objections : ∀ i, ∀ o ∈ objections i, '\n' ∉ o.toList

/-- Rows in which no line break is shown are free of them. -/
theorem Unbroken.free {path : String} {qs : List Query} {objections : Fin qs.length → List String}
    (h : Unbroken path qs objections) : ∀ row ∈ rows path qs objections, '\n' ∉ row.toList := by
  intro row mem
  rcases List.mem_append.mp mem with front | back
  · rcases List.mem_cons.mp front with rfl | front
    · exact List.not_mem_nil
    · rcases List.mem_cons.mp front with rfl | front
      · exact Line.free_heading h.path
      · obtain ⟨i, -, within⟩ := List.mem_flatMap.mp front
        exact Line.free_queryRows (h.labels i) (h.objections i) row within
  · rcases List.mem_cons.mp back with rfl | back
    · exact List.not_mem_nil
    · rcases List.mem_cons.mp back with rfl | back
      · exact Line.free_summaryRow _ _
      · rw [List.mem_singleton.mp back]
        exact List.not_mem_nil

end Run

/-! ## Starting and stopping apps -/

namespace Startup

variable {launcher : Launcher κ η}

end Startup

namespace Shutdown

end Shutdown

namespace Run

variable {launcher : Launcher κ η}

variable [Idna] (settings : Settings) (suite : Suite) (withoutApps : Bool) (schedule : Schedule)
  (client : Client σ) (apps : κ) (state : σ)

end Run

end MetricsHarness
