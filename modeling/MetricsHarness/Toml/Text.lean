import MetricsHarness.Text.Hex
import MetricsHarness.Text.Numeral

/-!
# Texts, blanks and comments of TOML

A text stands between quotation marks, where a backslash starts an escape, or between apostrophes,
where nothing does; three marks make it go over several lines. A reader answers what it read and
the text that is left, or the text that is left where it fails.
-/

namespace MetricsHarness.Toml

/-- A step through a text; it fails with the text that is left there. -/
abbrev Reader := StateT (List Char) (Except (List Char))

namespace Reader

/-- Fails here. -/
def fail {α : Type} : Reader α := do throw (← get)

/-- Reads by a function that answers a value and the text that is left, or fails here. -/
def ofOption {α : Type} (read : List Char → Option (α × List Char)) : Reader α := do
  match read (← get) with
  | some (a, rest) =>
    set rest
    return a
  | none => fail

/-- Passes a character, which must be next. -/
def expect (c : Char) : Reader Unit := do
  match ← get with
  | d :: rest => if d = c then set rest else fail
  | [] => fail

/-- The next character. -/
def peek : Reader (Option Char) := do return (← get).head?

end Reader

/-- A blank inside a line. -/
def isBlank (c : Char) : Bool := c == ' ' || c == '\t'

/-- A character of a comment or, marks apart, of a text. -/
def isVisible (c : Char) : Bool := c == '\t' || (0x20 ≤ c.toNat && c.toNat != 0x7F)

/-- Passes blanks. -/
def skipBlanks : Reader Unit := modify (·.dropWhile isBlank)

/-- What follows a line end, if one is next. -/
def afterNewline? : List Char → Option (List Char)
  | '\n' :: rest => some rest
  | '\r' :: '\n' :: rest => some rest
  | _ => none

/-- A text without the comment at its front. -/
def afterComment : List Char → List Char
  | '#' :: rest => rest.dropWhile isVisible
  | cs => cs

/-- Passes blanks and a comment up to the line end or the end of the text. -/
def finishLine : Reader Unit := do
  skipBlanks
  modify afterComment
  let cs ← get
  match afterNewline? cs with
  | some rest => set rest
  | none => if !cs.isEmpty then Reader.fail

/-- A text without the blanks, comments and line ends at its front, with room for a number of
them. -/
def afterGap : Nat → List Char → List Char
  | 0, cs => cs
  | fuel + 1, cs =>
    match afterNewline? cs with
    | some rest => afterGap fuel rest
    | none =>
      match cs with
      | ' ' :: rest => afterGap fuel rest
      | '\t' :: rest => afterGap fuel rest
      | '#' :: rest => afterGap fuel (rest.dropWhile isVisible)
      | cs => cs

/-- Passes blanks, comments and line ends. -/
def skipGap : Reader Unit := modify fun cs => afterGap cs.length cs

/-- The character an escape of one letter stands for. -/
def escapeLetter? (c : Char) : Option Char :=
  match c with
  | 'b' => some '\x08'
  | 't' => some '\t'
  | 'n' => some '\n'
  | 'f' => some '\x0c'
  | 'r' => some '\r'
  | '"' => some '"'
  | '\\' => some '\\'
  | _ => none

/-- The character of a number of hexadecimal digits. -/
def readCode? (width : Nat) (cs : List Char) : Option (Char × List Char) :=
  if cs.length < width then none
  else match Text.value? 16 (cs.take width) with
    | none => none
    | some n => if h : n.isValidChar then some (Char.ofNatAux n h, cs.drop width) else none

/-- Reads an escape after its backslash. -/
def readEscape? : List Char → Option (Char × List Char)
  | 'u' :: rest => readCode? 4 rest
  | 'U' :: rest => readCode? 8 rest
  | c :: rest => (escapeLetter? c).map (·, rest)
  | [] => none

/-- Reads a text on one line after its mark, with room for a number of characters. -/
def readLineText (mark : Char) : Nat → List Char → Except (List Char) (List Char × List Char)
  | _, [] => .error []
  | 0, cs => .error cs
  | fuel + 1, c :: rest =>
    if c = mark then .ok ([], rest)
    else if c = '\\' && mark = '"' then
      match readEscape? rest with
      | none => .error rest
      | some (e, after) =>
        (readLineText mark fuel after).map fun (text, last) => (e :: text, last)
    else if isVisible c then
      (readLineText mark fuel rest).map fun (text, last) => (c :: text, last)
    else .error (c :: rest)

/-- A text without the blanks and line ends at its front, with room for a number of them. -/
def afterSpace : Nat → List Char → List Char
  | 0, cs => cs
  | fuel + 1, cs =>
    match afterNewline? cs with
    | some rest => afterSpace fuel rest
    | none =>
      match cs with
      | c :: rest => if isBlank c then afterSpace fuel rest else cs
      | [] => []

/-- What follows a backslash at the end of a line and the blanks and line ends after it. -/
def afterJoin? (cs : List Char) : Option (List Char) :=
  (afterNewline? (cs.dropWhile isBlank)).map fun rest => afterSpace rest.length rest

/-- Reads a text of several lines after its marks, with room for a number of characters. Up to
two marks may stand before the three that end it. -/
def readLinesText (mark : Char) : Nat → List Char → Except (List Char) (List Char × List Char)
  | _, [] => .error []
  | 0, cs => .error cs
  | fuel + 1, c :: rest =>
    if c = mark then
      let marks := ((c :: rest).takeWhile (· == mark)).length
      if 3 ≤ marks then
        let more := min (marks - 3) 2
        .ok (List.replicate more mark, (c :: rest).drop (more + 3))
      else (readLinesText mark fuel rest).map fun (text, last) => (c :: text, last)
    else if c = '\\' && mark = '"' then
      match afterJoin? rest with
      | some after => readLinesText mark fuel after
      | none =>
        match readEscape? rest with
        | none => .error rest
        | some (e, after) =>
          (readLinesText mark fuel after).map fun (text, last) => (e :: text, last)
    else match afterNewline? (c :: rest) with
      | some after => (readLinesText mark fuel after).map fun (text, last) => ('\n' :: text, last)
      | none =>
        if isVisible c then
          (readLinesText mark fuel rest).map fun (text, last) => (c :: text, last)
        else .error (c :: rest)

/-- Reads a text of either mark; only one on one line may be a key. -/
def readText (severalLines : Bool) (mark : Char) : Reader String := do
  let cs ← get
  let result := match cs with
    | _ :: b :: c :: rest =>
      if severalLines && b = mark && c = mark then
        readLinesText mark rest.length ((afterNewline? rest).getD rest)
      else readLineText mark cs.length (cs.drop 1)
    | _ => readLineText mark cs.length (cs.drop 1)
  match result with
  | .ok (text, rest) =>
    set rest
    return String.ofList text
  | .error rest => throw rest

end MetricsHarness.Toml
