import MetricsHarness.Text.Pieces
import MetricsHarness.Toml.Number
import MetricsHarness.Toml.Text

/-!
# Reading a TOML document

A document is read line by line into one table. A header in brackets opens a table: what follows
belongs to it until the next header or the end, when it is put at its place (`Draft.close`). A
name is defined once; only tables that longer headers or dotted keys made on their way may still
be given their own entries.
-/

namespace MetricsHarness.Toml

/-- A character of a key without marks. -/
def isBareKey (c : Char) : Bool :=
  ('a' ≤ c && c ≤ 'z') || ('A' ≤ c && c ≤ 'Z') || Text.isDigit c || c == '_' || c == '-'

/-- How deep values and keys may be nested. -/
def deepest : Nat := 79

/-- Reads one name of a key. -/
def readName : Reader Key := do
  let before ← get
  let name ← match before.head? with
    | some '"' => readText false '"'
    | some '\x27' => readText false '\x27'
    | _ => do
      let bare := before.takeWhile isBareKey
      if bare.isEmpty then Reader.fail
      set (before.drop bare.length)
      pure (String.ofList bare)
  return ⟨name, spanOf before (← get)⟩

/-- Reads the names of a key after the first, with room for a number of them. -/
def readMoreNames : Nat → Reader (List Key)
  | 0 => Reader.fail
  | fuel + 1 => do
    let before ← get
    skipBlanks
    match ← Reader.peek with
    | some '.' => do
      Reader.expect '.'
      skipBlanks
      let name ← readName
      return name :: (← readMoreNames fuel)
    | _ => do
      set before
      return []

/-- Reads a key: the names before the last, and the last. -/
def readKey : Reader (List Key × Key) := do
  let first ← readName
  let names := first :: (← readMoreNames deepest)
  return (names.dropLast, names.getLast?.getD first)

/-- Passes a word. -/
def readWord (word : String) (value : Scalar) : Reader Scalar :=
  Reader.ofOption fun cs => (Text.after? word.toList cs).map (value, ·)

/-- Reads a value without parts that starts with a character. -/
def readScalar (c : Char) : Reader Scalar :=
  if c = '"' || c = '\x27' then do return .text (← readText true c)
  else if c = 't' then readWord "true" (.boolean true)
  else if c = 'f' then readWord "false" (.boolean false)
  else Reader.ofOption readNumber?

mutual

/-- Reads a value inside a number of brackets that may still be opened, with room for a number of
steps. -/
def readValue : Nat → Nat → Reader Item
  | 0, _ => Reader.fail
  | fuel + 1, depth => do
    let before ← get
    match before.head?, depth with
    | none, _ => Reader.fail
    | some '[', 0 => Reader.fail
    | some '\x7b', 0 => Reader.fail
    | some '[', depth + 1 => do
      Reader.expect '['
      let items ← readItems fuel depth
      return .array (spanOf before (← get)) items
    | some '\x7b', depth + 1 => do
      Reader.expect '\x7b'
      skipBlanks
      let table ← readPairs fuel depth true (.emptyTable .closed)
      match table with
      | .table _ _ entries => return .table .closed (some (spanOf before (← get))) entries
      | item => return item
    | some c, _ => do
      let value ← readScalar c
      return .scalar (spanOf before (← get)) value

/-- Reads the items of an array up to its end. -/
def readItems : Nat → Nat → Reader (List Item)
  | 0, _ => Reader.fail
  | fuel + 1, depth => do
    skipGap
    match ← Reader.peek with
    | some ']' => do
      Reader.expect ']'
      return []
    | _ => do
      let item ← readValue fuel depth
      skipGap
      match ← Reader.peek with
      | some ',' => do
        Reader.expect ','
        return item :: (← readItems fuel depth)
      | _ => do
        Reader.expect ']'
        return [item]

/-- Reads the entries of a table in braces up to its end. -/
def readPairs : Nat → Nat → Bool → Item → Reader Item
  | 0, _, _, _ => Reader.fail
  | fuel + 1, depth, first, table => do
    match ← Reader.peek, first with
    | some '\x7d', true => do
      Reader.expect '\x7d'
      return table
    | _, _ => do
      let before ← get
      let (path, key) ← readKey
      skipBlanks
      Reader.expect '='
      skipBlanks
      let item ← readValue fuel depth
      match Item.addDotted path key item table with
      | none => throw before
      | some table => do
        skipBlanks
        match ← Reader.peek with
        | some ',' => do
          Reader.expect ','
          skipBlanks
          readPairs fuel depth false table
        | _ => do
          Reader.expect '\x7d'
          return table

end

/-- A document being read: the table of all that is finished, and the open table with its path and
key; the first has none. -/
structure Draft where
  done : Item
  current : Item
  header : Option (List Key × Key)
  isArray : Bool

namespace Draft

/-- The draft before anything is read. -/
def start : Draft := ⟨.emptyTable .header, .emptyTable .header, none, false⟩

/-- Puts the open table at its place. -/
def close (d : Draft) : Option Item :=
  match d.header with
  | none => some d.current
  | some (path, key) =>
    let put := if d.isArray then Item.closeTables key d.current else Item.closeTable key d.current
    (Item.change .implied put path d.done).map (·.1)

/-- Opens the table of a header that stands at a stretch. -/
def openTable (d : Draft) (path : List Key) (key : Key) (span : Span) : Option Draft := do
  let done ← d.close
  let (done, entries) ← Item.change .implied (Item.openTable key) path done
  return ⟨done, .table .header (some span) entries, some (path, key), false⟩

/-- Opens a table of an array under a header that stands at a stretch. -/
def openTables (d : Draft) (path : List Key) (key : Key) (span : Span) : Option Draft := do
  let done ← d.close
  let (done, _) ← Item.change .implied (Item.openTables key) path done
  return ⟨done, .table .header (some span) [], some (path, key), true⟩

/-- Adds an entry to the open table, which now reaches to the end of the value. -/
def add (d : Draft) (path : List Key) (key : Key) (item : Item) : Option Draft := do
  let widened := match d.current, item.span? with
    | .table kind (some span) entries, some value =>
      .table kind (some ⟨span.start, value.stop⟩) entries
    | table, _ => table
  return { d with current := ← Item.addDotted path key item widened }

end Draft

/-- Answers a new draft, or fails where a line started. -/
def accept (before : List Char) (draft : Option Draft) : Reader Draft :=
  match draft with
  | some d => return d
  | none => throw before

/-- Reads a header and the rest of its line. -/
def readHeader (d : Draft) : Reader Draft := do
  let before ← get
  Reader.expect '['
  let isArray := (← Reader.peek) == some '['
  if isArray then Reader.expect '['
  skipBlanks
  let (path, key) ← readKey
  skipBlanks
  Reader.expect ']'
  if isArray then Reader.expect ']'
  let span := spanOf before (← get)
  finishLine
  accept before (if isArray then d.openTables path key span else d.openTable path key span)

/-- Reads a key, its value and the rest of the line. -/
def readEntry (d : Draft) : Reader Draft := do
  let before ← get
  let (path, key) ← readKey
  skipBlanks
  Reader.expect '='
  skipBlanks
  let item ← readValue (2 * (← get).length + 2) deepest
  finishLine
  accept before (d.add path key item)

/-- Reads lines up to the end of the text, with room for a number of them. -/
def readLines : Nat → Draft → Reader Item
  | 0, _ => Reader.fail
  | fuel + 1, d => do
    skipBlanks
    let cs ← get
    match cs with
    | [] =>
      match d.close with
      | some item => return item
      | none => throw []
    | c :: _ =>
      if c = '[' then readLines fuel (← readHeader d)
      else if c = '#' || (afterNewline? cs).isSome then do
        finishLine
        readLines fuel d
      else readLines fuel (← readEntry d)

/-- Reads a document: its table, or the text that is left where it is malformed. -/
def readDocument (text : List Char) : Except (List Char) Item :=
  let text := match text with
    | '\ufeff' :: rest => rest
    | _ => text
  match (readLines (text.length + 1) Draft.start).run text with
  | .ok (item, _) => .ok item
  | .error rest => .error rest

end MetricsHarness.Toml
