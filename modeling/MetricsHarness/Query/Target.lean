import MetricsHarness.Failure
import MetricsHarness.Url.Form
import MetricsHarness.Url.Reading

/-!
# Targets of queries

The target of a query is the URL of its endpoint and path joined. Its parameters are sorted by key
and written again in one form: parameters of one key keep their order, and no parameter is lost.
The fragment is dropped, and so is a query without parameters.
-/

namespace MetricsHarness

namespace Url

/-- The parameters of a URL. -/
def parameters (u : Url) : List Parameter :=
  match u.query with
  | none => []
  | some q => Form.parameters q

/-- Whether a parameter may stand before another. -/
def Parameter.before (a b : Parameter) : Bool := !decide (b.key < a.key)

/-- Parameters in the order of their keys; equal keys keep their order. -/
def sortedByKey (ps : List Parameter) : List Parameter := ps.mergeSort Parameter.before

/-- A path without the blanks at its end, if it has no structure. -/
def Path.withoutTrailing : Path → Path
  | .whole text => .whole (text.reverse.dropWhile (· == ' ')).reverse
  | path => path

/-- A URL without its fragment and with its parameters sorted and written in one form. -/
def sorted (u : Url) : Url :=
  match sortedByKey u.parameters with
  | [] => { u with path := u.path.withoutTrailing, query := none, fragment := none }
  | ps => { u with query := some (Form.encodeParameters ps), fragment := none }

end Url

namespace Query

/-- The target of an endpoint and a path. -/
def targetOf [Idna] (endpoint path : String) : Except Failure Url :=
  match Url.read (endpoint ++ path).toList with
  | .ok u => .ok u.sorted
  | .error f => .error (.url (endpoint ++ path) f.message)

end Query

end MetricsHarness
