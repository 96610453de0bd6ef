import MetricsHarness.Json.Skip
import MetricsHarness.Sample.Scalar
import MetricsHarness.Series.Basic
import MetricsHarness.Binary64.Layout
import MetricsHarness.Text.Quoted

/-!
# Series in a JSON document

A response body is a list of series. Each is an object with the members `target`, `datapoints` and
`tags`, in any order, the last two optional; or a list of these three in this order. Members of
other names are passed over. A sample is a list of scalars or a bracketed text.

A value of the wrong kind is a fault of content that names the kind found and the kind expected.
A list or an object of the wrong kind is reported at its opening bracket, a scalar after it.
-/

namespace MetricsHarness.Json

/-- A scalar value. -/
inductive Plain where
  | null
  | boolean (b : Bool)
  | number (n : Number)
  | text (s : String)

/-- The name of a scalar in a fault. -/
def Plain.describe : Plain → String
  | .null => "null"
  | .boolean b => if b then "boolean `true`" else "boolean `false`"
  | .number (.natural n) => s!"integer `{Text.numeral n}`"
  | .number (.negative i) => s!"integer `{Text.signedNumeral i}`"
  | .number (.real x) => s!"floating point `{Binary64.document.text x}`"
  | .text s => "string " ++ Text.quoted s

/-- The wording of a value of the wrong kind. -/
def wrongKind (found expected : String) : String := s!"invalid type: {found}, expected {expected}"

/-- Reads a scalar; answers the bracket ahead, unconsumed, if there is one. -/
def readPlain : Reader (Sum Bracket Plain) := do
  match ← skipBlanks with
  | none => Reader.failAhead .eofValue
  | some 0x6E => do
    Reader.skip
    finishWord [0x75, 0x6C, 0x6C]
    return .inr .null
  | some 0x74 => do
    Reader.skip
    finishWord [0x72, 0x75, 0x65]
    return .inr (.boolean true)
  | some 0x66 => do
    Reader.skip
    finishWord [0x61, 0x6C, 0x73, 0x65]
    return .inr (.boolean false)
  | some 0x22 => return .inr (.text (← readText))
  | some 0x5B => return .inl .list
  | some 0x7B => return .inl .object
  | some b =>
    if b = 0x2D || isDigitByte b then return .inr (.number (← readNumber))
    else Reader.failAhead .expectedValue

/-- Reads a value: a scalar by `plain`, the inside of a list or an object by a reader. -/
def readAny {α : Type} (plain : Plain → Except String α) (list object : Reader α) : Reader α :=
  Reader.placed do
    match ← readPlain with
    | .inl .list => do
      Reader.skip
      Reader.enclosed list closeList
    | .inl .object => do
      Reader.skip
      Reader.enclosed object closeObject
    | .inr p =>
      match plain p with
      | .ok a => return a
      | .error text => Reader.failContent text

/-- The fault of finding a bracket, reported before it, or a scalar, reported after it. -/
def unexpected {α : Type} (expected : String) : Sum Bracket Plain → Reader α
  | .inl .list => Reader.failContent (wrongKind "sequence" expected)
  | .inl .object => Reader.failContent (wrongKind "map" expected)
  | .inr p => Reader.failContent (wrongKind p.describe expected)

/-- Reads a text value. -/
def readTextValue : Reader String := Reader.placed do
  match ← readPlain with
  | .inr (.text s) => return s
  | other => unexpected "a string" other

/-- Reads elements up to the end of a list. -/
def readElements {α : Type} (element : Reader α) : Nat → Bool → Reader (List α)
  | 0, _ => Reader.failAhead .eofList
  | fuel + 1, first => do
    if ← nextElement first then
      let a ← element
      let more ← readElements element fuel false
      return a :: more
    else return []

/-- Reads elements up to the end of a list, with room for as many as there are bytes. -/
def readAll {α : Type} (element : Reader α) : Reader (List α) := fun s =>
  readElements element (s.length + 1) true s

/-- Reads a list value. -/
def readList {α : Type} (element : Reader α) : Reader (List α) := Reader.placed do
  match ← readPlain with
  | .inl .list => do
    Reader.skip
    Reader.enclosed (readAll element) closeList
  | other => unexpected "a sequence" other

/-- What an element of a pair may be. -/
def scalarOf : Plain → Except String Scalar
  | .null => .ok Scalar.absent
  | .boolean b => .ok (Scalar.ofBool b)
  | .number (.natural n) => .ok (.whole n)
  | .number (.negative i) => .ok (.whole i)
  | .number (.real x) => .ok (.fraction x)
  | .text s => .ok (.text s)

/-- Reads an element of a pair. -/
def readScalar : Reader Scalar :=
  let expected := "a number or a numeric string"
  readAny scalarOf (Reader.failContent (wrongKind "sequence" expected))
    (Reader.failContent (wrongKind "map" expected))

/-- The wording of a malformed sample inside a document. -/
def malformed (f : Sample.Fault) : String := "Malformed sample: " ++ f.message

/-- Answers a sample, or its fault as one of content. -/
def acceptSample (result : Except Sample.Fault Sample) : Reader Sample :=
  match result with
  | .ok s => return s
  | .error f => Reader.failContent (malformed f)

/-- What a sample is called in a fault. -/
def samplePair : String := "a [value, timestamp] pair"

/-- Reads a sample from a bracketed text. -/
def plainSample : Plain → Except String Sample
  | .text s =>
    match Sample.ofText s with
    | .ok sample => .ok sample
    | .error f => .error (malformed f)
  | p => .error (wrongKind p.describe samplePair)

/-- Reads a sample. -/
def readSample : Reader Sample :=
  readAny plainSample
    (do acceptSample (Sample.ofScalars (← readAll readScalar)))
    (Reader.failContent (wrongKind "map" samplePair))

/-- Reads name and value of tags up to the end of an object. -/
def readTagEntries : Nat → Bool → Tags → Reader Tags
  | 0, _, _ => Reader.failAhead .eofObject
  | fuel + 1, first, tags => do
    if ← nextKey first then
      let name ← readText
      colon
      let value ← readTextValue
      readTagEntries fuel false (tags.insert name value)
    else return tags

/-- Reads tags. -/
def readTags : Reader Tags := Reader.placed do
  match ← readPlain with
  | .inl .object => do
    Reader.skip
    Reader.enclosed (fun s => readTagEntries (s.length + 1) true Tags.empty s) closeObject
  | other => unexpected "a map" other

/-- The members of a series read so far. -/
structure SeriesMembers where
  target : Option String
  points : Option (List Sample)
  tags : Option Tags

/-- The series of its members; only the target is required. -/
def SeriesMembers.finish (m : SeriesMembers) : Reader MetricsHarness.Series :=
  match m.target with
  | none => Reader.failContent "missing field `target`"
  | some target => return ⟨target, m.points.getD [], m.tags.getD Tags.empty⟩

/-- The fault of a member given twice. -/
def duplicate {α : Type} (name : String) : Reader α :=
  Reader.failContent s!"duplicate field `{name}`"

/-- Reads the members of a series up to the end of its object. -/
def readMembers : Nat → Bool → SeriesMembers → Reader MetricsHarness.Series
  | 0, _, _ => Reader.failAhead .eofObject
  | fuel + 1, first, m => do
    if ← nextKey first then
      let name ← readText
      if name = "target" then
        if m.target.isSome then duplicate name
        colon
        let target ← readTextValue
        readMembers fuel false { m with target := some target }
      else if name = "datapoints" then
        if m.points.isSome then duplicate name
        colon
        let points ← readList readSample
        readMembers fuel false { m with points := some points }
      else if name = "tags" then
        if m.tags.isSome then duplicate name
        colon
        let tags ← readTags
        readMembers fuel false { m with tags := some tags }
      else
        colon
        passValue
        readMembers fuel false m
    else m.finish

/-- Reads the next of the three elements a series may be listed as. -/
def readOptional {α : Type} (element : Reader α) (first : Bool) : Reader (Option α) := do
  if ← nextElement first then return some (← element) else return none

/-- Reads a series listed as target, datapoints and tags. -/
def readListed : Reader MetricsHarness.Series := do
  match ← readOptional readTextValue true with
  | none =>
    Reader.failContent "invalid length 0, expected struct MetricSeries with 3 elements"
  | some target =>
    let points ← readOptional (readList readSample) false
    let tags ← readOptional readTags false
    return ⟨target, points.getD [], tags.getD Tags.empty⟩

/-- Reads a series. -/
def readSeries : Reader MetricsHarness.Series :=
  readAny (fun p => .error (wrongKind p.describe "struct MetricSeries")) readListed
    (fun s => readMembers (s.length + 1) true ⟨none, none, none⟩ s)

/-- Reads a document that is a list of series. -/
def seriesOfDocument (document : Bytes) : Except Fault (List MetricsHarness.Series) :=
  readDocument (readList readSeries) document

/-- Reads a document that is one sample. -/
def sampleOfDocument (document : Bytes) : Except Fault Sample :=
  readDocument readSample document

end MetricsHarness.Json
