import MetricsHarness.Files
import MetricsHarness.Sample.Scalar
import MetricsHarness.Suite.Basic
import MetricsHarness.Yaml.Decode

/-!
# Reading a suite

A suite is a YAML document. Its mappings are read member by member, so the order of members plays
no part in what is read; a member of an unknown name is passed over, and a known one that is given
twice, under whichever of its spellings, is a fault. Members that may be left out have a default.

A text may be any scalar. A sample is a list of scalars, or a text in brackets.
-/

namespace MetricsHarness

open Yaml

namespace Suite

/-- What names members, for the faults of keys. -/
def memberName : String := "field identifier"

/-- The wording of a malformed sample in a suite. -/
def malformedSample (f : Sample.Fault) : String := "Malformed sample: " ++ f.message

/-- Whether a node is something of the document's own, which no value in a sample may be. -/
def isNamed : Node → Bool
  | .scalar _ tag _ _ => tag == some .named
  | .sequence _ tag _ => tag == some .named
  | .mapping _ tag _ => tag == some .named
  | .reference _ _ => false

/-- What an element of a sample may be. -/
def elementOf : Value → Option Scalar
  | .null => some Scalar.absent
  | .boolean b => some (Scalar.ofBool b)
  | .whole i => some (.whole i)
  | .wide _ => none
  | .real x => some (.fraction x)
  | .text s => some (.text s)

/-- Reads an element of a sample. -/
def readElement (d : Document) (n : Node) : Decoded Scalar := do
  let expected := "a number or a numeric string"
  let n ← d.resolve n
  if isNamed n then complain n.mark (wrongKind "enum" expected)
  else match n with
    | .scalar mark tag style text =>
      match scalarValue tag style text with
      | .error wrong => complain mark wrong
      | .ok v =>
        match elementOf v with
        | some s => return s
        | none => complain mark (wrongKind v.describe expected)
    | n => refuse n expected

/-- A sample, or the complaint about it. -/
def acceptSample (mark : Mark) (result : Except Sample.Fault Sample) : Decoded Sample :=
  match result with
  | .ok s => return s
  | .error f => complain mark (malformedSample f)

/-- Reads a sample. -/
def readSample (d : Document) (n : Node) : Decoded Sample := do
  let expected := "a [value, timestamp] pair"
  let n ← d.resolve n
  if isNamed n then complain n.mark (wrongKind "enum" expected)
  else match n with
    | .sequence mark _ items =>
      let elements ← Document.readEach (readElement d) 0 items
      acceptSample mark (Sample.ofScalars elements)
    | .scalar mark tag style text =>
      match scalarValue tag style text with
      | .ok (.text s) => acceptSample mark (Sample.ofText s)
      | .ok v => complain mark (wrongKind v.describe expected)
      | .error wrong => complain mark wrong
    | n => refuse n expected

/-- Reads tags; of a name that is given again the last value stays. -/
def readTags (d : Document) (n : Node) : Decoded Tags := do
  let (_, members) ← d.members "a map" n
  d.readMembers "a string" (fun (tags : Tags) step name value => do
    let text ← inside step (d.readText value)
    return tags.insert name text) Tags.empty members

/-- The members of a series known so far. -/
structure SeriesDraft where
  target : Option String
  points : Option (List Sample)
  tags : Option Tags

/-- Adds a member to a series. -/
def SeriesDraft.add (d : Document) (mark : Mark) (draft : SeriesDraft) (step : Step)
    (name : String) (value : Node) : Decoded SeriesDraft :=
  match name with
  | "target" => do
    return { draft with target := ← readOnce mark "target" draft.target step (d.readText value) }
  | "datapoints" => do
    return { draft with
      points := ← readOnce mark "datapoints" draft.points step (d.readItems (readSample d) value) }
  | "tags" => do
    return { draft with tags := ← readOnce mark "tags" draft.tags step (readTags d value) }
  | _ => return draft

/-- Reads a series. -/
def readSeries (d : Document) (n : Node) : Decoded Series := do
  let (mark, members) ← d.members "struct MetricSeries" n
  let draft ← d.readMembers memberName (SeriesDraft.add d mark) ⟨none, none, none⟩ members
  let target ← required mark "target" draft.target
  return ⟨target, draft.points.getD [], draft.tags.getD Tags.empty⟩

/-- The members of an expected result known so far. -/
structure ResultDraft where
  digests : Option (List String)
  series : Option (List Series)

/-- Adds a member to an expected result. -/
def ResultDraft.add (d : Document) (mark : Mark) (draft : ResultDraft) (step : Step)
    (name : String) (value : Node) : Decoded ResultDraft :=
  match name with
  | "sha256" => do
    return { draft with
      digests := ← readOnce mark "sha256" draft.digests step (d.readItems d.readText value) }
  | "metrics" => do
    return { draft with
      series := ← readOnce mark "metrics" draft.series step (d.readItems (readSeries d) value) }
  | _ => return draft

/-- Reads an expected result. -/
def readResult (d : Document) (n : Node) : Decoded ExpectedResult := do
  let (mark, members) ← d.members "struct ExpectedResult" n
  let draft ← d.readMembers memberName (ResultDraft.add d mark) ⟨none, none⟩ members
  return ⟨draft.digests.getD [], draft.series.getD []⟩

/-- The members of an expected response known so far. -/
structure ResponseDraft where
  status : Option UInt16
  contentType : Option String
  results : Option (List ExpectedResult)

/-- Adds a member to an expected response. -/
def ResponseDraft.add (d : Document) (mark : Mark) (draft : ResponseDraft) (step : Step)
    (name : String) (value : Node) : Decoded ResponseDraft :=
  match name with
  | "httpCode" => do
    return { draft with
      status := ← readOnce mark "httpCode" draft.status step (d.readStatus value) }
  | "contentType" => do
    return { draft with
      contentType := ← readOnce mark "contentType" draft.contentType step (d.readText value) }
  | "expectedResults" => do
    return { draft with
      results := ← readOnce mark "expectedResults" draft.results step
        (d.readItems (readResult d) value) }
  | _ => return draft

/-- Reads an expected response. -/
def readResponse (d : Document) (n : Node) : Decoded ExpectedResponse := do
  let (mark, members) ← d.members "struct ExpectedResponse" n
  let draft ← d.readMembers memberName (ResponseDraft.add d mark) ⟨none, none, none⟩ members
  let status ← required mark "httpCode" draft.status
  let contentType ← required mark "contentType" draft.contentType
  return ⟨status, contentType, draft.results.getD []⟩

/-- The members of a query known so far. -/
structure QueryDraft where
  endpoint : Option String
  path : Option String
  delay : Option Int64
  method : Option String
  body : Option String
  expected : Option ExpectedResponse

/-- Adds a member to a query. Path and method have two spellings each. -/
def QueryDraft.add (d : Document) (mark : Mark) (draft : QueryDraft) (step : Step)
    (name : String) (value : Node) : Decoded QueryDraft :=
  match name with
  | "endpoint" => do
    return { draft with
      endpoint := ← readOnce mark "endpoint" draft.endpoint step (d.readText value) }
  | "URL" | "path" => do
    return { draft with path := ← readOnce mark "URL" draft.path step (d.readText value) }
  | "delay" => do
    return { draft with delay := ← readOnce mark "delay" draft.delay step (d.readSigned value) }
  | "type" | "method" => do
    return { draft with method := ← readOnce mark "type" draft.method step (d.readText value) }
  | "body" => do
    return { draft with body := ← readOnce mark "body" draft.body step (d.readText value) }
  | "expectedResponse" => do
    return { draft with
      expected := ← readOnce mark "expectedResponse" draft.expected step (readResponse d value) }
  | _ => return draft

/-- Reads a query. -/
def readQuery (d : Document) (n : Node) : Decoded Query := do
  let (mark, members) ← d.members "struct ScriptedQuery" n
  let draft ← d.readMembers memberName (QueryDraft.add d mark)
    ⟨none, none, none, none, none, none⟩ members
  let endpoint ← required mark "endpoint" draft.endpoint
  let path ← required mark "URL" draft.path
  let expected ← required mark "expectedResponse" draft.expected
  return ⟨endpoint, path, draft.delay.getD 0, draft.method.getD Query.defaultMethod,
    draft.body.getD "", expected⟩

/-- The members of an app known so far. -/
structure AppDraft where
  name : Option String
  binary : Option String
  args : Option (List String)

/-- Adds a member to an app. -/
def AppDraft.add (d : Document) (mark : Mark) (draft : AppDraft) (step : Step)
    (name : String) (value : Node) : Decoded AppDraft :=
  match name with
  | "name" => do
    return { draft with name := ← readOnce mark "name" draft.name step (d.readText value) }
  | "binary" => do
    return { draft with binary := ← readOnce mark "binary" draft.binary step (d.readText value) }
  | "args" => do
    return { draft with
      args := ← readOnce mark "args" draft.args step (d.readItems d.readText value) }
  | _ => return draft

/-- Reads an app. -/
def readApp (d : Document) (n : Node) : Decoded App := do
  let (mark, members) ← d.members "struct ManagedApp" n
  let draft ← d.readMembers memberName (AppDraft.add d mark) ⟨none, none, none⟩ members
  let name ← required mark "name" draft.name
  let binary ← required mark "binary" draft.binary
  return ⟨name, binary, draft.args.getD []⟩

/-- The members of a suite known so far. -/
structure Draft where
  apps : Option (List App)
  queries : Option (List Query)

/-- Adds a member to a suite. -/
def Draft.add (d : Document) (mark : Mark) (draft : Draft) (step : Step)
    (name : String) (value : Node) : Decoded Draft :=
  match name with
  | "apps" => do
    return { draft with
      apps := ← readOnce mark "apps" draft.apps step (d.readItems (readApp d) value) }
  | "queries" => do
    return { draft with
      queries := ← readOnce mark "queries" draft.queries step (d.readItems (readQuery d) value) }
  | _ => return draft

/-- Reads a suite from the root of a document. -/
def ofNode (d : Document) (n : Node) : Decoded Suite := do
  let (mark, members) ← d.members "struct TestSchema" n
  let draft ← d.readMembers memberName (Draft.add d mark) ⟨none, none⟩ members
  return ⟨draft.apps.getD [], draft.queries.getD []⟩

/-- Reads the value of a document; a document without content has a default. -/
def ofContent {α : Type} (read : Document → Node → Decoded α) (default : α) (text : List Char) :
    Except DocumentFault α :=
  match Document.ofText text with
  | .error f => .error (.form f.message)
  | .ok d =>
    match d.value (read d) default with
    | .ok a => .ok a
    | .error c => .error (.content c.message)

/-- Reads a suite; a text without content is a suite without apps and queries. -/
def ofText (text : List Char) : Except DocumentFault Suite := ofContent ofNode ⟨[], []⟩ text

/-- The suite of the file at a path, given what reading it gave. -/
def ofFile (path : String) (content : Except Files.Fault Bytes) : Except Failure Suite :=
  match textOfFile content with
  | .error f => .error (.unreadable path f.message)
  | .ok text =>
    match ofText text with
    | .error f => .error (.suite f)
    | .ok suite => .ok suite

end Suite

/-- Reads a YAML document that is a list of samples. -/
def Sample.listOfText (text : List Char) : Except DocumentFault (List Sample) :=
  Suite.ofContent (fun d => d.readItems (Suite.readSample d)) [] text

end MetricsHarness
