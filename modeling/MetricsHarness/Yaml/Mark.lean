import MetricsHarness.Text.Numeral

/-!
# Places in a YAML text

A text is read as spots: characters with the place where they stand. Every line end is one spot;
its character is a line feed, whichever way the line ended, except for the two Unicode separators,
which stay what they are. Columns count characters; the offset from the beginning counts bytes.

A fault tells what is wrong at which place, and what was being read and since where.
-/

namespace MetricsHarness.Yaml

/-- A place in a text; offset, line and column count from zero. -/
structure Mark where
  offset : Nat
  line : Nat
  column : Nat
  deriving DecidableEq, Repr

namespace Mark

/-- The beginning of a text. -/
def origin : Mark := ⟨0, 0, 0⟩

/-- The place behind a character. -/
def after (m : Mark) (c : Char) : Mark := ⟨m.offset + c.utf8Size, m.line, m.column + 1⟩

/-- The beginning of the next line, after a line end of some bytes. -/
def nextLine (m : Mark) (width : Nat) : Mark := ⟨m.offset + width, m.line + 1, 0⟩

/-- Whether a place is the first of its text. -/
def isFirst (m : Mark) : Bool := m.line == 0 && m.column == 0

/-- A place as it is shown, counted from one. -/
def text (m : Mark) : String :=
  s!"line {Text.numeral (m.line + 1)} column {Text.numeral (m.column + 1)}"

end Mark

/-- A character and its place. -/
structure Spot where
  char : Char
  mark : Mark
  deriving DecidableEq, Repr

/-- A line end that reads as a line feed. -/
def isLineFeed (c : Char) : Bool := c == '\n' || c == '\r' || c == '\x85'

/-- A Unicode line or paragraph separator. -/
def isSeparator (c : Char) : Bool := c == '\u2028' || c == '\u2029'

/-- A line end. -/
def isBreak (c : Char) : Bool := isLineFeed c || isSeparator c

/-- A blank inside a line. -/
def isBlank (c : Char) : Bool := c == ' ' || c == '\t'

/-- The spots of a text that starts at a place. -/
def spotsFrom : Mark → List Char → List Spot
  | _, [] => []
  | m, '\r' :: '\n' :: rest => ⟨'\n', m⟩ :: spotsFrom (m.nextLine 2) rest
  | m, c :: rest =>
    if isLineFeed c then ⟨'\n', m⟩ :: spotsFrom (m.nextLine c.utf8Size) rest
    else if isSeparator c then ⟨c, m⟩ :: spotsFrom (m.nextLine c.utf8Size) rest
    else ⟨c, m⟩ :: spotsFrom (m.after c) rest

/-- The place after a text that starts at a place. -/
def markAfter : Mark → List Char → Mark
  | m, [] => m
  | m, '\r' :: '\n' :: rest => markAfter (m.nextLine 2) rest
  | m, c :: rest => markAfter (if isBreak c then m.nextLine c.utf8Size else m.after c) rest

/-- Whether a text ends here or goes on with a blank or a line end. -/
def atGap : List Spot → Bool
  | [] => true
  | s :: _ => isBlank s.char || isBreak s.char

/-- Whether a text ends here or goes on with a line end. -/
def atLineEnd : List Spot → Bool
  | [] => true
  | s :: _ => isBreak s.char

/-- Whether a text goes on with a character. -/
def atChar (c : Char) : List Spot → Bool
  | [] => false
  | s :: _ => s.char == c

/-- Whether a text goes on, at the beginning of a line, with one of the two lines that separate
documents. -/
def atDocumentLine : List Spot → Bool
  | a :: b :: c :: rest =>
    a.mark.column == 0 && a.char == b.char && b.char == c.char &&
      (a.char == '-' || a.char == '.') && atGap rest
  | _ => false

/-- The characters of spots. -/
def charsOf (spots : List Spot) : List Char := spots.map (·.char)

/-- What is wrong with a text, and where. -/
structure Fault where
  problem : String
  place : Option Mark
  /-- What was being read, and since where. -/
  context : Option (String × Mark)
  deriving DecidableEq

namespace Fault

/-- The place of a fault as it is shown; the beginning of a text is not. -/
def placeText : Option Mark → String
  | none => ""
  | some m => if m.isFirst then "" else s!" at {m.text}"

/-- What was being read, as it is shown; its place only where it differs from that of the fault. -/
def contextText (place : Option Mark) : Option (String × Mark) → String
  | none => ""
  | some (reading, m) =>
    s!", {reading}" ++ (if m.isFirst || place == some m then "" else s!" at {m.text}")

/-- The wording of a fault. -/
def message (f : Fault) : String :=
  f.problem ++ placeText f.place ++ contextText f.place f.context

end Fault

/-- Fails at a place, while reading something that started at another. -/
def failWhile {α : Type} (reading : String) (since : Mark) (problem : String) (place : Mark) :
    Except Fault α :=
  .error ⟨problem, some place, some (reading, since)⟩

/-- The place where the rest of a text starts, given the place where the text ends. -/
def markAt (finish : Mark) : List Spot → Mark
  | [] => finish
  | s :: _ => s.mark

end MetricsHarness.Yaml
