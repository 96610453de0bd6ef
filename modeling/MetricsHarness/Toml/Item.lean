import MetricsHarness.Binary64.Basic
import MetricsHarness.Text.Utf8

/-!
# Items of a TOML document

A document is a table of items under keys: scalars, arrays, tables and arrays of tables. Tables
keep the order of their keys. What may be added to a table depends on how it came to be
(`TableKind`): a table in braces is closed, one from a header takes further tables but no dotted
keys, one that a dotted key or a longer header made on the way is open to its like.

Stretches of the text are kept as the bytes that are left at their start and at their end.
-/

namespace MetricsHarness.Toml

/-- A stretch of a text, by the bytes that are left at its start and at its end. -/
structure Span where
  start : Nat
  stop : Nat
  deriving DecidableEq, Repr

/-- The bytes of a text. -/
def bytesOf (cs : List Char) : Nat := (Text.Utf8.encode cs).length

/-- The stretch between two rests of a text. -/
def spanOf (before after : List Char) : Span := ⟨bytesOf before, bytesOf after⟩

/-- A key and where it stands. -/
structure Key where
  name : String
  span : Span
  deriving DecidableEq

/-- A value without parts. -/
inductive Scalar where
  | integer (i : Int64)
  | real (x : Binary64)
  | text (s : String)
  | boolean (b : Bool)
  /-- A date, a time or both. -/
  | moment
  deriving DecidableEq

/-- How a table came to be. -/
inductive TableKind where
  /-- In braces. -/
  | closed
  /-- Under a header of its own. -/
  | header
  /-- On the way of a longer header. -/
  | implied
  /-- On the way of a dotted key. -/
  | dotted
  deriving DecidableEq

/-- An item of a document. -/
inductive Item where
  | scalar (span : Span) (value : Scalar)
  | array (span : Span) (items : List Item)
  | table (kind : TableKind) (span : Option Span) (entries : List (Key × Item))
  /-- The tables under headers in double brackets. -/
  | tables (list : List Item)

namespace Item

/-- An empty table. -/
def emptyTable (kind : TableKind) : Item := .table kind none []

/-- Where an item stands, if it stands in one place. -/
def ownSpan : Item → Option Span
  | .scalar span _ => some span
  | .array span _ => some span
  | .table _ span _ => span
  | .tables _ => none

/-- Where an item stands; an array of tables from the first to the last of them. -/
def span? : Item → Option Span
  | .tables list =>
    match list.head?.bind ownSpan, list.getLast?.bind ownSpan with
    | some first, some last => some ⟨first.start, last.stop⟩
    | _, _ => none
  | item => item.ownSpan

/-- The item under a name. -/
def lookup (name : String) : List (Key × Item) → Option Item
  | [] => none
  | (key, item) :: rest => if key.name = name then some item else lookup name rest

/-- Replaces the item under a name. -/
def replace (name : String) (item : Item) : List (Key × Item) → List (Key × Item)
  | [] => []
  | (key, old) :: rest =>
    if key.name = name then (key, item) :: rest else (key, old) :: replace name item rest

/-- Entries without the one under a name. -/
def without (name : String) (entries : List (Key × Item)) : List (Key × Item) :=
  entries.filter fun (key, _) => key.name != name

/-- Changes the last of a list. -/
def changeLast {β : Type} (change : Item → Option (Item × β)) :
    List Item → Option (List Item × β)
  | [] => none
  | [item] => (change item).map fun (item, b) => ([item], b)
  | item :: rest => (changeLast change rest).map fun (rest, b) => (item :: rest, b)

/-- Whether a path made by tables of one kind may go on in a table of another. -/
def mayEnter (making kind : TableKind) : Bool :=
  match making, kind with
  | _, .closed => false
  | .dotted, .header => false
  | _, _ => true

/-- Changes the table at the end of a path and answers what the change answers. Tables that are
missing on the way are made; of an array of tables the last is entered. -/
def change {β : Type} (making : TableKind) (act : Item → Option (Item × β)) :
    List Key → Item → Option (Item × β)
  | [], item => act item
  | key :: path, .table kind span entries =>
    match lookup key.name entries with
    | none =>
      (change making act path (emptyTable making)).map fun (child, b) =>
        (.table kind span (entries ++ [(key, child)]), b)
    | some (.table inner innerSpan innerEntries) =>
      if mayEnter making inner then
        (change making act path (.table inner innerSpan innerEntries)).map fun (child, b) =>
          (.table kind span (replace key.name child entries), b)
      else none
    | some (.tables list) =>
      (changeLast (change making act path) list).map fun (list, b) =>
        (.table kind span (replace key.name (.tables list) entries), b)
    | some _ => none
  | _ :: _, _ => none

/-- Adds an entry under a new key to a table; behind a dotted path the table must be one that
dotted keys made. -/
def addEntry (behindPath : Bool) (key : Key) (item : Item) : Item → Option (Item × Unit)
  | .table kind span entries =>
    if (kind == .dotted) != behindPath || (lookup key.name entries).isSome then none
    else some (.table kind span (entries ++ [(key, item)]), ())
  | _ => none

/-- Adds an item under a dotted key. -/
def addDotted (path : List Key) (key : Key) (item : Item) (table : Item) : Option Item :=
  (change .dotted (addEntry (!path.isEmpty) key item) path table).map (·.1)

/-- Takes the table for a new header out of the table around it: a new one, or the one that
longer headers have made on their way. -/
def openTable (key : Key) : Item → Option (Item × List (Key × Item))
  | .table kind span entries =>
    match lookup key.name entries with
    | none => some (.table kind span entries, [])
    | some (.table .implied _ inner) => some (.table kind span (without key.name entries), inner)
    | some _ => none
  | _ => none

/-- Puts a table that has been read under its key. -/
def closeTable (key : Key) (item : Item) : Item → Option (Item × Unit)
  | .table kind span entries =>
    match lookup key.name entries with
    | none => some (.table kind span (entries ++ [(key, item)]), ())
    | some (.table .implied _ _) => some (.table kind span (replace key.name item entries), ())
    | some _ => none
  | _ => none

/-- Makes sure of an array of tables under a key. -/
def openTables (key : Key) : Item → Option (Item × Unit)
  | .table kind span entries =>
    match lookup key.name entries with
    | none => some (.table kind span (entries ++ [(key, .tables [])]), ())
    | some (.tables _) => some (.table kind span entries, ())
    | some _ => none
  | _ => none

/-- Puts a table that has been read at the end of the array under its key. -/
def closeTables (key : Key) (item : Item) : Item → Option (Item × Unit)
  | .table kind span entries =>
    match lookup key.name entries with
    | none => some (.table kind span (entries ++ [(key, .tables [item])]), ())
    | some (.tables list) =>
      some (.table kind span (replace key.name (.tables (list ++ [item])) entries), ())
    | some _ => none
  | _ => none

end Item

end MetricsHarness.Toml
