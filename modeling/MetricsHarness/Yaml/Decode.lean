import MetricsHarness.Yaml.Value

/-!
# Reading values from nodes

A reader takes a node of a document and answers a value or a complaint: what is wrong, at which
node, and the path from the root to it. Readers are combined along the structure of the values
they read: `readItems` reads the items of a sequence, `readMembers` puts the members of a mapping
into a draft, one after the other, so that the first fault in the text wins.

Where a sequence or a mapping is expected, nothing at all is an empty one.

Aliases may repeat a node so often that a short text stands for a huge value. A reader therefore
counts down: each alias that is followed costs one step, and a document pays for a hundred steps
with each of its events.
-/

namespace MetricsHarness.Yaml

/-- A step from a node to one inside it. -/
inductive Step where
  | member (name : String)
  /-- The member of a key that is an alias. -/
  | unnamed
  | item (index : Nat)
  deriving DecidableEq

/-- What is wrong with a document. -/
inductive Complaint where
  /-- Something about a node; the path leads to it from outside. -/
  | node (path : List Step) (mark : Mark) (text : String)
  /-- Aliases are followed too often. -/
  | repetitions
  deriving DecidableEq

namespace Complaint

/-- A path as it is shown, after one that is shown already. -/
def pathFrom : Option String → List Step → Option String
  | shown, [] => shown
  | shown, .item i :: rest =>
    pathFrom (some (shown.getD "." ++ s!"[{Text.numeral i}]")) rest
  | shown, .member name :: rest =>
    pathFrom (some ((shown.map (· ++ ".")).getD "" ++ name)) rest
  | shown, .unnamed :: rest => pathFrom (some ((shown.map (· ++ ".")).getD "" ++ "?")) rest

/-- The wording of a complaint. -/
def message : Complaint → String
  | .repetitions => "repetition limit exceeded"
  | .node path mark text =>
    let lead := match pathFrom none path with
      | none => ""
      | some path => path ++ ": "
    lead ++ text ++ Fault.placeText (some mark)

/-- A complaint seen from one step further outside. -/
def outside (step : Step) : Complaint → Complaint
  | .node path mark text => .node (step :: path) mark text
  | .repetitions => .repetitions

end Complaint

/-- The answer of a reader, with how many more aliases may be followed. -/
abbrev Decoded (α : Type) := StateT Nat (Except Complaint) α

/-- A complaint about a node. -/
def complain {α : Type} (mark : Mark) (text : String) : Decoded α :=
  throw (.node [] mark text)

/-- A reading one step further inside. -/
def inside {α : Type} (step : Step) (reading : Decoded α) : Decoded α := fun left =>
  match reading left with
  | .ok answer => .ok answer
  | .error c => .error (c.outside step)

/-- The node an alias stands for; any other node is itself. -/
def Document.resolve (d : Document) (n : Node) : Decoded Node := fun left =>
  match n with
  | .reference mark number =>
    match left with
    | 0 => .error .repetitions
    | left + 1 => .ok ((d.target? number).getD (.nothing mark), left)
  | n => .ok (n, left)

/-- Where a node starts. -/
def Node.mark : Node → Mark
  | .scalar mark _ _ _ => mark
  | .sequence mark _ _ => mark
  | .mapping mark _ _ => mark
  | .reference mark _ => mark

/-- The wording of a node of the wrong kind. -/
def Node.wrong (n : Node) (expected : String) : String :=
  match n with
  | .sequence _ _ _ => wrongKind "sequence" expected
  | .mapping _ _ _ => wrongKind "map" expected
  | .reference _ _ => wrongKind "unit value" expected
  | .scalar _ tag style text =>
    match scalarValue tag style text with
    | .ok v => wrongKind v.describe expected
    | .error wrong => wrong

/-- Complains that a node is of the wrong kind. -/
def refuse {α : Type} (n : Node) (expected : String) : Decoded α :=
  complain n.mark (n.wrong expected)

namespace Document

/-- Reads any scalar as its text. -/
def readText (d : Document) (n : Node) : Decoded String := do
  match ← d.resolve n with
  | .scalar _ _ _ text => return text
  | n => refuse n "a string"

/-- Whether a scalar may be a number. -/
def mayBeNumber (tag : Option Tag) (style : Style) : Bool :=
  style == .plain || (style == .literal && tag == some .integer)

/-- Reads a signed number of 64 bits. -/
def readSigned (d : Document) (n : Node) : Decoded Int64 := do
  match ← d.resolve n with
  | .scalar mark tag style text =>
    match if mayBeNumber tag style then Value.signed? text.toList else none with
    | some i => return Int64.ofInt i
    | none => refuse (.scalar mark tag style text) "i64"
  | n => refuse n "i64"

/-- Reads an unsigned number of 16 bits. -/
def readStatus (d : Document) (n : Node) : Decoded UInt16 := do
  match ← d.resolve n with
  | .scalar mark tag style text =>
    match
      if mayBeNumber tag style then Value.unsigned? Text.nat64Greatest text.toList else none
    with
    | some i =>
      if i < 65536 then return UInt16.ofNat i
      else complain mark s!"invalid value: integer `{Text.numeral i}`, expected u16"
    | none => refuse (.scalar mark tag style text) "u16"
  | n => refuse n "u16"

/-- Reads items, the first of them at an index. -/
def readEach {α : Type} (read : Node → Decoded α) : Nat → List Node → Decoded (List α)
  | _, [] => return []
  | i, n :: rest => do
    let a ← inside (.item i) (read n)
    let more ← readEach read (i + 1) rest
    return a :: more

/-- Reads the items of a sequence. -/
def readItems {α : Type} (d : Document) (read : Node → Decoded α) (n : Node) :
    Decoded (List α) := do
  match ← d.resolve n with
  | .sequence _ _ items => readEach read 0 items
  | .scalar mark tag .plain text =>
    if text.isEmpty then return [] else refuse (.scalar mark tag .plain text) "a sequence"
  | n => refuse n "a sequence"

/-- The members of a mapping and where it starts. -/
def members (d : Document) (expected : String) (n : Node) :
    Decoded (Mark × List (Node × Node)) := do
  match ← d.resolve n with
  | .mapping mark _ members => return (mark, members)
  | .scalar mark tag .plain text =>
    if text.isEmpty then return (mark, []) else refuse (.scalar mark tag .plain text) expected
  | n => refuse n expected

/-- The step to the value of a key. -/
def stepOf (key : Node) : Step :=
  match key with
  | .scalar _ _ _ text => .member text
  | _ => .unnamed

/-- The name a key gives. -/
def keyName (d : Document) (expected : String) (key : Node) : Decoded String := do
  match ← d.resolve key with
  | .scalar _ _ _ text => return text
  | n => refuse n expected

/-- Puts members into a draft, one after the other. -/
def readMembers {δ : Type} (d : Document) (expected : String)
    (add : δ → Step → String → Node → Decoded δ) : δ → List (Node × Node) → Decoded δ
  | draft, [] => return draft
  | draft, (key, value) :: rest => do
    let name ← d.keyName expected key
    let draft ← add draft (stepOf key) name value
    readMembers d expected add draft rest

/-- How many aliases may be followed in a document. -/
def allowance (d : Document) : Nat := 100 * d.events

/-- The value that a reader reads from the root of a document; without content it is `default`. -/
def value {α : Type} (d : Document) (read : Node → Decoded α) (default : α) :
    Except Complaint α :=
  match d.root with
  | none => .ok default
  | some root => (read root d.allowance).map (·.1)

end Document

/-- Reads a member that may be given once; `mark` is where its mapping starts. -/
def readOnce {α : Type} (mark : Mark) (field : String) (known : Option α) (step : Step)
    (reading : Decoded α) : Decoded (Option α) :=
  if known.isSome then complain mark s!"duplicate field `{field}`"
  else some <$> inside step reading

/-- A member that must be given. -/
def required {α : Type} (mark : Mark) (field : String) (known : Option α) : Decoded α :=
  match known with
  | some a => return a
  | none => complain mark s!"missing field `{field}`"

end MetricsHarness.Yaml
