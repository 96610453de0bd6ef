import MetricsHarness.Yaml.Mark

/-!
# Block scalars

A block scalar is the indented lines after its header. In the literal form lines stay lines; in
the folded form a single line end between two lines that start without a blank becomes a blank.
The header may give the indentation, as a number relative to the block around it, and what becomes
of the line ends at the end: one is kept, or none (`-`), or all (`+`).
-/

namespace MetricsHarness.Yaml

/-- What becomes of the line ends at the end of a block scalar. -/
inductive Chomp where
  | clip
  | strip
  | keep
  deriving DecidableEq

/-- The header of a block scalar; an indentation of zero is not given. -/
structure BlockHeader where
  chomp : Chomp
  indent : Nat

/-- What is being read, for the faults of block scalars. -/
def inBlockScalar : String := "while scanning a block scalar"

/-- The chomping of a sign. -/
def chompOf? (c : Char) : Option Chomp :=
  if c == '+' then some .keep else if c == '-' then some .strip else none

/-- Reads an indentation if there is one. -/
def scanIndentDigit (since : Mark) : List Spot → Except Fault (Nat × List Spot)
  | [] => .ok (0, [])
  | s :: rest =>
    if s.char == '0' then
      failWhile inBlockScalar since "found an indentation indicator equal to 0" s.mark
    else if Text.isDigit s.char then .ok (s.char.toNat - '0'.toNat, rest)
    else .ok (0, s :: rest)

/-- Reads a sign if there is one. -/
def cutChomp : List Spot → Option Chomp × List Spot
  | [] => (none, [])
  | s :: rest =>
    match chompOf? s.char with
    | some c => (some c, rest)
    | none => (none, s :: rest)

/-- Reads the sign and the indentation of a header, in either order. -/
def scanBlockHeader (since : Mark) (spots : List Spot) :
    Except Fault (BlockHeader × List Spot) :=
  match cutChomp spots with
  | (some chomp, rest) =>
    match scanIndentDigit since rest with
    | .error f => .error f
    | .ok (indent, rest) => .ok (⟨chomp, indent⟩, rest)
  | (none, rest) =>
    match scanIndentDigit since rest with
    | .error f => .error f
    | .ok (0, rest) => .ok (⟨.clip, 0⟩, rest)
    | .ok (indent, rest) =>
      let (chomp, rest) := cutChomp rest
      .ok (⟨chomp.getD .clip, indent⟩, rest)

/-- Moves past blanks, a comment and the line end after a header or a directive. -/
def scanLineRest (reading : String) (since finish : Mark) (spots : List Spot) :
    Except Fault (List Spot) :=
  let afterBlanks := spots.dropWhile (isBlank ·.char)
  let rest :=
    if atChar '#' afterBlanks then afterBlanks.dropWhile (!isBreak ·.char) else afterBlanks
  if atLineEnd rest then .ok (rest.drop 1)
  else failWhile reading since "did not find expected comment or line break" (markAt finish rest)

/-- Line ends before the next line with content. -/
structure Breaks where
  text : List Char
  rest : List Spot
  /-- The widest indentation that was passed. -/
  widest : Nat

/-- Moves past line ends and indentation; an indentation of zero is not known yet. -/
def scanBreaks (since finish : Mark) (indent : Nat) :
    Nat → List Spot → Except Fault Breaks
  | widest, [] => .ok ⟨[], [], max widest finish.column⟩
  | widest, s :: rest =>
    let inside := indent == 0 || s.mark.column < indent
    let widest' := max widest s.mark.column
    if inside && s.char == ' ' then scanBreaks since finish indent widest rest
    else if inside && s.char == '\t' then
      failWhile inBlockScalar since
        "found a tab character where an indentation space is expected" s.mark
    else if isBreak s.char then
      match scanBreaks since finish indent widest' rest with
      | .error f => .error f
      | .ok more => .ok { more with text := s.char :: more.text }
    else .ok ⟨[], s :: rest, widest'⟩

/-- What the line ends between two lines become. -/
def foldedBreaks (literal : Bool) (lineEnd breaks : List Char) (blankBefore blankAfter : Bool) :
    List Char :=
  if !literal && lineEnd == ['\n'] && !blankBefore && !blankAfter then
    if breaks.isEmpty then [' '] else breaks
  else lineEnd ++ breaks

/-- The line end at the front. -/
def lineEndOf : List Spot → List Char
  | [] => []
  | s :: _ => [s.char]

/-- Reads the lines of a block scalar, after a line end and further line ends, with room for a
number of lines. -/
def scanBlockLines (literal : Bool) (chomp : Chomp) (since finish : Mark) (indent : Nat) :
    Nat → List Char → List Char → Bool → List Spot → Except Fault (List Char × List Spot)
  | fuel, lineEnd, breaks, blankBefore, spots =>
    let ending := (if chomp = .strip then [] else lineEnd) ++
      (if chomp = .keep then breaks else [])
    match fuel, spots with
    | fuel + 1, s :: rest =>
      if s.mark.column = indent then
        let line := (s :: rest).takeWhile (!isBreak ·.char)
        let after := (s :: rest).dropWhile (!isBreak ·.char)
        let blank := isBlank s.char
        match scanBreaks since finish indent 0 (after.drop 1) with
        | .error f => .error f
        | .ok more =>
          match scanBlockLines literal chomp since finish indent fuel
            (lineEndOf after) more.text blank more.rest with
          | .error f => .error f
          | .ok (text, last) =>
            .ok (foldedBreaks literal lineEnd breaks blankBefore blank ++ charsOf line ++ text,
              last)
      else .ok (ending, s :: rest)
    | _, spots => .ok (ending, spots)

/-- Reads a block scalar after its first character. The block around it starts at a column, if
there is one. -/
def scanBlock (literal : Bool) (since finish : Mark) (parent : Option Nat)
    (spots : List Spot) : Except Fault (List Char × List Spot) := do
  let (header, rest) ← scanBlockHeader since spots
  let rest ← scanLineRest inBlockScalar since finish rest
  let given := if header.indent = 0 then 0 else parent.getD 0 + header.indent
  let breaks ← scanBreaks since finish given 0 rest
  let least := match parent with
    | some column => column + 1
    | none => 1
  let indent := if given = 0 then max breaks.widest least else given
  scanBlockLines literal header.chomp since finish indent (rest.length + 1) [] breaks.text false
    breaks.rest

end MetricsHarness.Yaml
