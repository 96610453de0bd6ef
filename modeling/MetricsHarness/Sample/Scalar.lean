import MetricsHarness.Sample.Basic

/-!
# Samples from typed lists

A document (a response body or a suite) gives the elements of a pair as scalars that know their
kind. `Sample.ofScalars` reads such a list: whole numbers and texts keep their text, a number with
a fraction counts as its plain text for the value, and is refused as a timestamp even when it is
whole. That refusal looks at lists of exactly two; any other length is a count fault.
-/

namespace MetricsHarness

/-- An element of a pair, with the kind it arrived as. -/
inductive Scalar where
  | whole (i : Int)
  | fraction (x : Binary64)
  | text (s : String)
  deriving DecidableEq

namespace Scalar

/-- The text of a boolean. -/
def ofBool (b : Bool) : Scalar := .text (if b then "true" else "false")

/-- The text of an absent value. -/
def absent : Scalar := .text "null"

/-- The text an element is read from. -/
def asText : Scalar → String
  | .whole i => Text.signedNumeral i
  | .fraction x => Binary64.plain.text x
  | .text s => s

end Scalar

/-- Reads a sample from a list of typed elements. -/
def Sample.ofScalars (elements : List Scalar) : Except Sample.Fault Sample :=
  match elements with
  | [_, .fraction x] => .error (.fractionalTimestamp x)
  | elements => Sample.ofPair (elements.map Scalar.asText)

end MetricsHarness
