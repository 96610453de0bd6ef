import MetricsHarness.Binary64.Layout
import MetricsHarness.Binary64.Reading
import MetricsHarness.Text.Blank
import MetricsHarness.Text.Pieces

/-!
# Samples: one value at one time

A sample is a value and a timestamp in whole seconds, always written as the pair
`[value,timestamp]`. It is read from two separate texts (`ofPair`) or from one bracketed text
(`ofText`); both go through `ofTexts`, which reads the timestamp first, so of two faults the
timestamp's is reported.

**Brackets.** `ofText` removes one opening bracket of any kind from the first piece and one
closing bracket of any kind from the last; they need not match. A second bracket stays in the
piece and is refused there as part of a number.

**Round trip.** `encode` writes the plain layout, whose digits read back exactly, so `ofText` of
an encoded sample gives the sample again, up to the pattern of a value that is no number.
-/

namespace MetricsHarness

/-- A value at a time in seconds. -/
structure Sample where
  value : Binary64
  timestamp : Int64
  deriving DecidableEq

/-- Why a text or a list is not a sample. -/
inductive Sample.Fault where
  /-- A list with another number of elements than two. -/
  | pairCount (count : Nat)
  /-- A bracketed text with another number of comma-separated pieces than two. -/
  | pieceCount (raw : String) (count : Nat)
  | noOpening (raw : String)
  | noClosing (raw : String)
  | timestamp (text : String) (fault : Text.IntegerFault)
  /-- A timestamp that arrived as a number with a fraction or an exponent. -/
  | fractionalTimestamp (x : Binary64)
  | value (text : String) (fault : Binary64.Fault)
  deriving DecidableEq

/-- The wording of a fault. -/
def Sample.Fault.message : Sample.Fault → String
  | .pairCount n => s!"expected 2 elements in datapoint, got {Text.numeral n}"
  | .pieceCount raw n => s!"expected 2 elements in datapoint '{raw}', got {Text.numeral n}"
  | .noOpening raw => s!"missing opening bracket in datapoint '{raw}'"
  | .noClosing raw => s!"missing closing bracket in datapoint '{raw}'"
  | .timestamp t f => s!"failed to parse timestamp '{t}': {f.message}"
  | .fractionalTimestamp x =>
    s!"failed to parse timestamp '{Binary64.marked.text x}': not an integer"
  | .value t f => s!"failed to parse value '{t}': {f.message}"

namespace Sample

/-- Reads a timestamp, blanks around it allowed. -/
def readTimestamp (text : List Char) : Except Fault Int64 :=
  match Text.readInt64 (Text.trim text) with
  | .ok i => .ok (Int64.ofInt i)
  | .error f => .error (.timestamp (String.ofList text) f)

/-- Reads a value, blanks around it allowed. -/
def readValue (text : List Char) : Except Fault Binary64 :=
  match Binary64.read (Text.trim text) with
  | .ok x => .ok x
  | .error f => .error (.value (String.ofList text) f)

/-- Reads a sample from the texts of its two halves, the timestamp first. -/
def ofTexts (value timestamp : List Char) : Except Fault Sample :=
  match readTimestamp timestamp with
  | .error f => .error f
  | .ok t =>
    match readValue value with
    | .error f => .error f
    | .ok v => .ok ⟨v, t⟩

/-- Reads a sample from a list of texts, which must be two. -/
def ofPair : List String → Except Fault Sample
  | [value, timestamp] => ofTexts value.toList timestamp.toList
  | elements => .error (.pairCount elements.length)

/-- The opening brackets. -/
def isOpening (c : Char) : Bool := c == '[' || c == '(' || c == '{'

/-- The closing brackets. -/
def isClosing (c : Char) : Bool := c == ']' || c == ')' || c == '}'

/-- Removes one opening bracket from the front. -/
def dropOpening? : List Char → Option (List Char)
  | c :: rest => if isOpening c then some rest else none
  | [] => none

/-- Removes one closing bracket from the end. -/
def dropClosing? (cs : List Char) : Option (List Char) :=
  match cs.getLast? with
  | some c => if isClosing c then some cs.dropLast else none
  | none => none

/-- Reads a sample from a bracketed text such as `[1.5,60]`. -/
def ofText (raw : String) : Except Fault Sample :=
  match Text.pieces ',' (Text.trim raw.toList) with
  | [first, last] =>
    match dropOpening? first with
    | none => .error (.noOpening raw)
    | some value =>
      match dropClosing? last with
      | none => .error (.noClosing raw)
      | some timestamp => ofTexts value timestamp
  | ps => .error (.pieceCount raw ps.length)

/-- The pair `[value,timestamp]` as characters. -/
def encodeChars (s : Sample) : List Char :=
  '[' :: (Binary64.plain.chars s.value ++ ',' ::
    (Text.signedNumeralChars s.timestamp.toInt ++ [']']))

/-- The pair `[value,timestamp]`. -/
def encode (s : Sample) : String := String.ofList s.encodeChars

end Sample

end MetricsHarness
