import MetricsHarness.Text.Hex
import MetricsHarness.Yaml.Mark

/-!
# Plain and quoted scalars

A scalar that goes over several lines is folded: between two words, the blanks around line ends
are dropped, one line end becomes a blank, and of several the first is dropped. `Gap` is what has
been passed since the last word, `Gap.text` what it becomes.

A plain scalar ends where it can: before `: `, before a comment, before a line that is indented
too little, and inside brackets before any of the characters that structure them. A quoted scalar
ends at its quote. Between double quotes a backslash starts an escape; at the end of a line it
joins the line with the next.
-/

namespace MetricsHarness.Yaml

/-- What was passed since the last word of a scalar. -/
inductive Gap where
  | nothing
  | blanks (text : List Char)
  /-- The first line end and the others. -/
  | lines (first others : List Char)

namespace Gap

/-- A gap with one more blank or line end. -/
def add (gap : Gap) (c : Char) : Gap :=
  if isBreak c then
    match gap with
    | .lines first others => .lines first (others ++ [c])
    | _ => .lines [c] []
  else
    match gap with
    | .lines first others => .lines first others
    | .blanks text => .blanks (text ++ [c])
    | .nothing => .blanks [c]

/-- What a gap becomes between two words. -/
def text : Gap → List Char
  | .nothing => []
  | .blanks text => text
  | .lines first others =>
    if first = ['\n'] then (if others.isEmpty then [' '] else others) else first ++ others

/-- Whether a gap holds a line end. -/
def isLines : Gap → Bool
  | .lines _ _ => true
  | _ => false

/-- Whether there is a gap. -/
def isSome : Gap → Bool
  | .nothing => false
  | _ => true

end Gap

/-- A scalar, what follows it, and whether a line end was passed after it. -/
structure Scanned where
  text : List Char
  rest : List Spot
  passedLine : Bool

/-- The characters that structure lists and mappings in brackets. -/
def isFlowMark (c : Char) : Bool := ",[]\x7b\x7d".toList.contains c

/-- Whether a plain scalar ends at a word that follows a gap. -/
def endsBeforeWord (flow : Bool) (indent : Nat) (word : List Spot) : Bool :=
  match word with
  | [] => true
  | s :: _ => (!flow && s.mark.column < indent) || s.char == '#' || atDocumentLine word

/-- Whether a plain scalar ends inside a word, before a character. -/
def endsInWord (flow : Bool) (c : Char) (rest : List Spot) : Bool :=
  (c == ':' && atGap rest) || (flow && isFlowMark c)

/-- A colon in brackets that neither stands in a word nor before a gap. -/
def isLooseColon (flow : Bool) (c : Char) (rest : List Spot) : Bool :=
  flow && c == ':' && (match rest with
    | [] => false
    | s :: _ => s.char == '?' || isFlowMark s.char)

/-- Reads a plain scalar after a gap. -/
def scanPlain (flow : Bool) (indent : Nat) (since : Mark) :
    Gap → List Spot → Except Fault Scanned
  | gap, [] => .ok ⟨[], [], gap.isLines⟩
  | gap, s :: rest =>
    if isBlank s.char || isBreak s.char then
      if gap.isLines && s.mark.column < indent && s.char == '\t' then
        failWhile "while scanning a plain scalar" since
          "found a tab character that violates indentation" s.mark
      else scanPlain flow indent since (gap.add s.char) rest
    else if gap.isSome && endsBeforeWord flow indent (s :: rest) then
      .ok ⟨[], s :: rest, gap.isLines⟩
    else if isLooseColon flow s.char rest then
      failWhile "while scanning a plain scalar" since "found unexpected ':'" s.mark
    else if endsInWord flow s.char rest then .ok ⟨[], s :: rest, gap.isLines⟩
    else
      match scanPlain flow indent since .nothing rest with
      | .error f => .error f
      | .ok more => .ok { more with text := gap.text ++ s.char :: more.text }

/-- The character a one-letter escape stands for. -/
def escapeLetter? (c : Char) : Option Char :=
  match c with
  | '0' => some '\x00'
  | 'a' => some '\x07'
  | 'b' => some '\x08'
  | 't' => some '\t'
  | '\t' => some '\t'
  | 'n' => some '\n'
  | 'v' => some '\x0b'
  | 'f' => some '\x0c'
  | 'r' => some '\r'
  | 'e' => some '\x1b'
  | ' ' => some ' '
  | '"' => some '"'
  | '/' => some '/'
  | '\\' => some '\\'
  | 'N' => some '\x85'
  | '_' => some '\xa0'
  | 'L' => some '\u2028'
  | 'P' => some '\u2029'
  | _ => none

/-- How many digits an escape by number has. -/
def escapeWidth? (c : Char) : Option Nat :=
  match c with
  | 'x' => some 2
  | 'u' => some 4
  | 'U' => some 8
  | _ => none

/-- What is being read, for the faults of quoted scalars. -/
def inQuotedScalar : String := "while scanning a quoted scalar"

/-- Reads an escape after its backslash, which stands at `place`. -/
def scanEscape (since place : Mark) : List Spot → Except Fault (Char × List Spot)
  | [] => failWhile "while parsing a quoted scalar" since "found unknown escape character" place
  | s :: rest =>
    match escapeLetter? s.char with
    | some c => .ok (c, rest)
    | none =>
      match escapeWidth? s.char with
      | none =>
        failWhile "while parsing a quoted scalar" since "found unknown escape character" place
      | some width =>
        let digits := charsOf (rest.take width)
        match Text.value? 16 digits with
        | none =>
          failWhile "while parsing a quoted scalar" since
            "did not find expected hexdecimal number" (markAt place rest)
        | some n =>
          if digits.length < width then
            failWhile "while parsing a quoted scalar" since
              "did not find expected hexdecimal number" (markAt place rest)
          else if h : n.isValidChar then .ok (Char.ofNatAux n h, rest.drop width)
          else
            failWhile "while parsing a quoted scalar" since
              "found invalid Unicode character escape code" (markAt place rest)

/-- Reads a quoted scalar after a gap, with room for a number of steps. -/
def scanQuoted (double : Bool) (since finish : Mark) :
    Nat → Gap → List Spot → Except Fault Scanned
  | 0, _, rest =>
    failWhile inQuotedScalar since "found unexpected end of stream" (markAt finish rest)
  | _, _, [] => failWhile inQuotedScalar since "found unexpected end of stream" finish
  | fuel + 1, gap, s :: rest =>
    let word (c : Char) (after : List Spot) : Except Fault Scanned :=
      match scanQuoted double since finish fuel .nothing after with
      | .error f => .error f
      | .ok more => .ok { more with text := gap.text ++ c :: more.text }
    if atDocumentLine (s :: rest) then
      failWhile inQuotedScalar since "found unexpected document indicator" s.mark
    else if isBlank s.char || isBreak s.char then
      scanQuoted double since finish fuel (gap.add s.char) rest
    else if double then
      if s.char == '"' then .ok ⟨gap.text, rest, false⟩
      else if s.char == '\\' then
        match rest with
        | b :: after =>
          if isBreak b.char then
            match scanQuoted double since finish fuel (.lines [] []) after with
            | .error f => .error f
            | .ok more => .ok { more with text := gap.text ++ more.text }
          else match scanEscape since s.mark rest with
            | .error f => .error f
            | .ok (c, after) => word c after
        | [] =>
          failWhile "while parsing a quoted scalar" since "found unknown escape character" s.mark
      else word s.char rest
    else if s.char == '\x27' then
      match rest with
      | b :: after => if b.char == '\x27' then word '\x27' after else .ok ⟨gap.text, rest, false⟩
      | [] => .ok ⟨gap.text, rest, false⟩
    else word s.char rest

end MetricsHarness.Yaml
