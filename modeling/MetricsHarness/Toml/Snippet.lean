import MetricsHarness.Text.Numeral
import MetricsHarness.Toml.Item

/-!
# Faults in a TOML document

A fault is shown with the line it is in and carets under the stretch it is about. Lines and
columns count from one; columns count characters. The carets reach at most to the end of the line
and there is always one. At the end of a text the place behind its last character counts.
-/

namespace MetricsHarness.Toml

/-- What is wrong with a stretch of a text. -/
structure Fault where
  span : Span
  text : String
  deriving DecidableEq

/-- The characters before the place where a number of bytes is left. -/
def beforeLeft (left : Nat) : List Char → List Char
  | [] => []
  | c :: rest => if bytesOf (c :: rest) ≤ left then [] else c :: beforeLeft left rest

/-- The characters before a place, the end of a text being part of its last line. -/
def leading (text : List Char) (left : Nat) : List Char :=
  if left = 0 then text.dropLast else beforeLeft left text

/-- The line of a place, counted from zero. -/
def lineOf (text : List Char) (left : Nat) : Nat := (leading text left).count '\n'

/-- The column of a place, counted from zero. -/
def columnOf (text : List Char) (left : Nat) : Nat :=
  ((leading text left).reverse.takeWhile (· != '\n')).length +
    (if left = 0 && !text.isEmpty then 1 else 0)

/-- The line of a place. -/
def contentOf (text : List Char) (left : Nat) : List Char :=
  let lead := leading text left
  (lead.reverse.takeWhile (· != '\n')).reverse ++ (text.drop lead.length).takeWhile (· != '\n')

/-- The wording of a fault in a text. -/
def Fault.message (text : List Char) (f : Fault) : String :=
  let line := Text.numeral (lineOf text f.span.start + 1)
  let column := columnOf text f.span.start
  let content := contentOf text f.span.start
  let margin := String.ofList (List.replicate (line.length + 1) ' ')
  let carets := max 1 (min (f.span.start - f.span.stop) (bytesOf content - column))
  s!"TOML parse error at line {line}, column {Text.numeral (column + 1)}\n" ++
    s!"{margin}|\n{line} | {String.ofList content}\n{margin}|" ++
    String.ofList (List.replicate (column + 1) ' ') ++
    String.ofList (List.replicate carets '^') ++ s!"\n{f.text}\n"

end MetricsHarness.Toml
