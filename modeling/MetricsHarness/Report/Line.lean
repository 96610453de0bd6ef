import MetricsHarness.Suite.Basic

/-!
# Printed lines

What the harness prints, line by line, each line with the values it shows. A line is written in
pieces, some of them in a style. Without colors a style changes nothing. With colors a piece stands
between the code of its style and a reset; a reset inside of the piece is followed by the code
again, so that the style goes on.
-/

namespace MetricsHarness

/-- How a piece of a line looks. -/
inductive Style where
  | plain
  | dimmed
  | red
  | green
  | boldRed
  | boldGreen
  | boldBlue
  | boldWhite
  deriving DecidableEq

/-- The parameters of the code that switches a style on. -/
def Style.parameters? : Style → Option String
  | .plain => none
  | .dimmed => some "2"
  | .red => some "31"
  | .green => some "32"
  | .boldRed => some "1;31"
  | .boldGreen => some "1;32"
  | .boldBlue => some "1;34"
  | .boldWhite => some "1;37"

/-- A piece of a line in one style. -/
structure Styled where
  style : Style
  text : String
  deriving DecidableEq

namespace Styled

/-- The code of a style with the given parameters. -/
def code (parameters : String) : List Char := '\x1b' :: '[' :: (parameters.toList ++ ['m'])

/-- The code that ends every style. -/
def reset : List Char := code "0"

/-- A text with `code` behind each reset in it. -/
def resumed (code : List Char) : List Char → List Char
  | '\x1b' :: '[' :: '0' :: 'm' :: rest => reset ++ code ++ resumed code rest
  | c :: rest => c :: resumed code rest
  | [] => []

/-- A piece as it is written, with or without colors. -/
def chars (colored : Bool) (s : Styled) : List Char :=
  match colored, s.style.parameters? with
  | true, some parameters =>
    code parameters ++ resumed (code parameters) s.text.toList ++ reset
  | _, _ => s.text.toList

/-- A piece without a style. -/
def plain (text : String) : Styled := ⟨.plain, text⟩

end Styled

/-- A line that is printed. -/
inductive Line where
  /-- A run of the suite of a file begins. -/
  | heading (path : String)
  /-- A query whose response was as expected. -/
  | passed (number : Nat) (label : String)
  /-- A query with something to object to. -/
  | failed (number : Nat) (label : String)
  /-- One objection to the query above. -/
  | objection (text : String)
  /-- The verdict on a run. -/
  | verdict (failed total : Nat)
  /-- A suite that could be read. -/
  | suite (path : String) (apps queries : Nat)
  /-- An app of the suite above. -/
  | app (name binary : String)
  /-- A query of the suite above. -/
  | query (number : Nat) (label : String) (status : UInt16) (contentType : String)
  deriving DecidableEq

namespace Line

/-- The mark of what is in order. -/
def check : String := "✓"

/-- The mark of what is not. -/
def cross : String := "✗"

/-- The pieces of a line, its end included. -/
def pieces : Line → List Styled
  | .heading path =>
    [.plain "\n", ⟨.boldBlue, "Running Suite:"⟩, .plain " ", ⟨.boldWhite, path⟩, .plain "\n"]
  | .passed number label =>
    [.plain "  ", ⟨.green, check⟩, .plain s!" Query {Text.numeral number}: ", ⟨.dimmed, label⟩,
      .plain "\n"]
  | .failed number label =>
    [.plain "  ", ⟨.red, cross⟩, .plain s!" Query {Text.numeral number}: {label}\n"]
  | .objection text => [.plain "      ", ⟨.red, text⟩, .plain "\n"]
  | .verdict 0 total =>
    [.plain "\n", ⟨.boldGreen, check⟩, .plain " ",
      ⟨.boldGreen, s!"All {Text.numeral total} queries passed"⟩, .plain "\n\n"]
  | .verdict broken total =>
    [.plain "\n", ⟨.boldRed, cross⟩, .plain " ",
      ⟨.boldRed, s!"{Text.numeral broken} of {Text.numeral total} queries failed"⟩, .plain "\n\n"]
  | .suite path apps queries =>
    [⟨.green, check⟩, .plain
      s!" {path}: {Text.numeral apps} app(s), {Text.numeral queries} query(ies)\n"]
  | .app name binary => [.plain s!"  app {name} -> ", ⟨.dimmed, binary⟩, .plain "\n"]
  | .query number label status contentType =>
    [.plain s!"  query {Text.numeral number}: {label} (expect {Text.numeral status.toNat} ",
      ⟨.dimmed, contentType⟩, .plain ")\n"]

/-- A line as it is written. -/
def chars (colored : Bool) (line : Line) : List Char := line.pieces.flatMap (·.chars colored)

/-- Lines as they are written. -/
def text (colored : Bool) (lines : List Line) : String :=
  String.ofList (lines.flatMap (·.chars colored))

end Line

end MetricsHarness
