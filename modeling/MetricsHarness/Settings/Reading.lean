import MetricsHarness.Binary64.Layout
import MetricsHarness.Files
import MetricsHarness.Settings.Basic
import MetricsHarness.Text.Quoted
import MetricsHarness.Toml.Document
import MetricsHarness.Toml.Snippet

/-!
# Reading settings

Settings are a TOML document with the tables `suite` and `processes`. Every entry may be left out,
entries of other names are passed over, and a table may also be given as an array of its entries
in order. The entries are read in the order of the document, so the first fault is the one told.
-/

namespace MetricsHarness.Settings

open Toml

/-- What a fault calls a scalar; a date or a time counts as a table. -/
def describeScalar : Toml.Scalar → String
  | .integer i => s!"integer `{Text.signedNumeral i.toInt}`"
  | .real x => s!"floating point `{Binary64.described.text x}`"
  | .text s => "string " ++ Text.quoted s
  | .boolean b => if b then "boolean `true`" else "boolean `false`"
  | .moment => "map"

/-- What a fault calls an item. -/
def describe : Item → String
  | .scalar _ value => describeScalar value
  | .array _ _ => "sequence"
  | .table _ _ _ => "map"
  | .tables _ => "sequence"

/-- A fault about an item; one that stands in no place of its own is placed at its key. -/
def faultAt {α : Type} (fallback : Span) (item : Item) (text : String) : Except Fault α :=
  .error ⟨item.span?.getD fallback, text⟩

/-- The fault of an item of the wrong kind. -/
def wrongKind {α : Type} (fallback : Span) (item : Item) (expected : String) : Except Fault α :=
  faultAt fallback item s!"invalid type: {describe item}, expected {expected}"

/-- Reads a number of seconds. -/
def readSeconds (fallback : Span) (item : Item) : Except Fault UInt64 :=
  match item with
  | .scalar _ (.integer i) =>
    match i.toInt with
    | .ofNat n => .ok (UInt64.ofNat n)
    | .negSucc n =>
      faultAt fallback item
        s!"invalid value: integer `{Text.signedNumeral (.negSucc n)}`, expected u64"
  | item => wrongKind fallback item "u64"

/-- Reads a truth value. -/
def readFlag (fallback : Span) (item : Item) : Except Fault Bool :=
  match item with
  | .scalar _ (.boolean b) => .ok b
  | item => wrongKind fallback item "a boolean"

/-- Reads the entries of a table by their names, in order. -/
def readEntries {α : Type} (read : α → String → Span → Item → Except Fault α) :
    α → List (Key × Item) → Except Fault α
  | a, [] => .ok a
  | a, (key, item) :: rest =>
    match read a key.name key.span item with
    | .error f => .error f
    | .ok a => readEntries read a rest

/-- Reads the items of an array as the entries of the given names, in order; items behind the last
name are passed over. -/
def readListed {α : Type} (read : α → String → Span → Item → Except Fault α) (fallback : Span) :
    α → List String → List Item → Except Fault α
  | a, name :: names, item :: items =>
    match read a name fallback item with
    | .error f => .error f
    | .ok a => readListed read fallback a names items
  | a, _, _ => .ok a

/-- Reads a table of settings, given by names or listed. -/
def readTable {α : Type} (read : α → String → Span → Item → Except Fault α) (names : List String)
    (expected : String) (fallback : Span) (start : α) (item : Item) : Except Fault α :=
  match item with
  | .table _ _ entries => readEntries read start entries
  | .scalar _ .moment => .ok start
  | .array span items => readListed read span start names items
  | .tables items => readListed read fallback start names items
  | item => wrongKind fallback item expected

/-- Reads an entry of the table `suite`. -/
def readSuite (s : Settings) (name : String) (span : Span) (item : Item) : Except Fault Settings :=
  match name with
  | "startup_grace_secs" => do return { s with startupGrace := ← readSeconds span item }
  | _ => .ok s

/-- Reads an entry of the table `processes`. -/
def readProcesses (s : Settings) (name : String) (span : Span) (item : Item) :
    Except Fault Settings :=
  match name with
  | "stop_timeout_secs" => do return { s with stopTimeout := ← readSeconds span item }
  | "forward_output" => do return { s with forwardOutput := ← readFlag span item }
  | _ => .ok s

/-- Reads an entry of the document. -/
def readRoot (s : Settings) (name : String) (span : Span) (item : Item) : Except Fault Settings :=
  match name with
  | "suite" => readTable readSuite ["startup_grace_secs"] "struct SuiteSettings" span s item
  | "processes" =>
    readTable readProcesses ["stop_timeout_secs", "forward_output"] "struct ProcessSettings" span s
      item
  | _ => .ok s

/-- Reads settings. -/
def ofText (text : List Char) : Except DocumentFault Settings :=
  match readDocument text with
  | .error rest =>
    let left := bytesOf rest
    .error (.form (Fault.message text ⟨⟨left, left⟩, "invalid document"⟩))
  | .ok (.table _ _ entries) =>
    match readEntries readRoot default entries with
    | .ok s => .ok s
    | .error f => .error (.content (f.message text))
  | .ok _ => .ok default

/-- The settings of the file at a path, given what reading it gave. -/
def ofFile (path : String) (content : Except Files.Fault Bytes) : Except Failure Settings :=
  match textOfFile content with
  | .error f => .error (.unreadable path f.message)
  | .ok text =>
    match ofText text with
    | .error f => .error (.settings f)
    | .ok s => .ok s

/-- The settings of the file at the usual path, given what reading it gave; without such a file
there are defaults. -/
def ofUsualFile (path : String) (content : Except Files.Fault Bytes) : Except Failure Settings :=
  match content with
  | .error f => if f.isMissing then .ok default else ofFile path content
  | .ok _ => ofFile path content

end MetricsHarness.Settings
