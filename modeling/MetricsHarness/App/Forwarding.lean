import MetricsHarness.Text.Utf8

/-!
# Forwarding lines

What an app writes to a stream comes in pieces that need not end where a line does. A forwarder
keeps the line that is not complete yet. A line ends at a newline, and a carriage return in front
of it does not belong to the line; what is left at the end of the stream is a line too.

The first line that is not UTF-8 ends all forwarding of the stream.
-/

namespace MetricsHarness

/-- The bytes of a line that is not complete yet, and whether the stream is still read. -/
structure Forwarder where
  pending : Bytes
  reading : Bool
  deriving DecidableEq

namespace Forwarder

/-- A forwarder at the start of a stream. -/
def initial : Forwarder := ⟨[], true⟩

/-- The byte that ends a line. -/
def newline : UInt8 := 10

/-- The byte that is dropped in front of the end of a line. -/
def carriageReturn : UInt8 := 13

/-- The text of a line without its newline. -/
def textOf? (line : Bytes) : Option String :=
  let line := if line.getLast? = some carriageReturn then line.dropLast else line
  (Text.Utf8.decode? line).map String.ofList

/-- Takes in a byte; answers the line that it completes. -/
def feedByte (f : Forwarder) (b : UInt8) : List String × Forwarder :=
  if !f.reading then ([], f)
  else if b = newline then
    match textOf? f.pending with
    | some text => ([text], initial)
    | none => ([], ⟨[], false⟩)
  else ([], { f with pending := f.pending ++ [b] })

/-- Takes in a piece of the stream; answers the lines that it completes. -/
def feed (f : Forwarder) : Bytes → List String × Forwarder
  | [] => ([], f)
  | b :: rest =>
    let (first, f) := f.feedByte b
    let (more, f) := feed f rest
    (first ++ more, f)

/-- The lines that are left at the end of the stream. -/
def finish (f : Forwarder) : List String :=
  if !f.reading || f.pending.isEmpty then []
  else match Text.Utf8.decode? f.pending with
    | some text => [String.ofList text]
    | none => []

/-- Takes in the pieces of a whole stream; answers all lines, and whether the stream was read to
its end. -/
def lines (pieces : List Bytes) : List String × Bool :=
  let go := pieces.foldl (fun (lines, f) piece =>
    let (more, f) := feed f piece
    (lines ++ more, f)) (([] : List String), initial)
  (go.1 ++ go.2.finish, go.2.reading)

end Forwarder

end MetricsHarness
