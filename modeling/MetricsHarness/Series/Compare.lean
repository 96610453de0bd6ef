import MetricsHarness.Series.Basic

/-!
# Comparing two series

`compare observed expected` answers the first difference, looking at target, number of points,
step and then the points themselves; none means that the series are equal. Values are compared
exactly, with the two zeros equal and every no-number equal to every other. Tags play no part.

A mismatch names the expected series and shows what was got and what was expected; for points
that is the whole list, each point encoded as a pair.
-/

namespace MetricsHarness

/-- A difference between an observed and an expected series. -/
inductive Mismatch where
  | target (got expected : String)
  | length (target got expected : String)
  | step (target : String) (got expected : Int)
  | datapoints (target got expected : String)
  deriving DecidableEq

/-- The wording of a difference. -/
def Mismatch.message : Mismatch → String
  | .target got want => s!"target mismatch, got '{got}', expected '{want}'"
  | .length name got want =>
    s!"series '{name}' has unexpected length, got {got}, expected {want}"
  | .step name got want =>
    s!"series '{name}' has unexpected step, got {Text.signedNumeral got}, " ++
      s!"expected {Text.signedNumeral want}"
  | .datapoints name got want =>
    s!"data in series '{name}' is different, got {got}, expected {want}"

/-- The points of a series as one bracketed list. -/
def renderPoints (points : List Sample) : String :=
  String.ofList ('[' :: (Text.joined [','] (points.map Sample.encodeChars) ++ [']']))

/-- Two samples agree: the same time and the same value as numbers. -/
def Sample.agrees (a b : Sample) : Bool :=
  a.value.sameValue b.value && a.timestamp == b.timestamp

namespace Series

/-- Both steps are known and they differ. -/
def stepDiffers (observed expected : Series) : Option (Int × Int) :=
  match observed.step?, expected.step? with
  | some got, some want => if got = want then none else some (got, want)
  | _, _ => none

/-- The first difference of two series. -/
def mismatch? (observed expected : Series) : Option Mismatch :=
  if observed.target ≠ expected.target then
    some (.target observed.target expected.target)
  else if observed.points.length ≠ expected.points.length then
    some (.length expected.target (renderPoints observed.points) (renderPoints expected.points))
  else match stepDiffers observed expected with
    | some (got, want) => some (.step expected.target got want)
    | none =>
      if (observed.points.zip expected.points).all fun (o, e) => o.agrees e then none
      else some (.datapoints expected.target
        (renderPoints observed.points) (renderPoints expected.points))

/-- The differences of two series: none, or the first. -/
def compare (observed expected : Series) : List Mismatch := (mismatch? observed expected).toList

end Series

end MetricsHarness
