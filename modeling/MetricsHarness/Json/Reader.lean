import MetricsHarness.Text.Numeral
import MetricsHarness.Text.Utf8

/-!
# Reading a JSON document

A reader consumes bytes from the front of a document and answers a value and the bytes left, or a
fault. Documents are read straight into the types they are for, so a fault of form and a fault of
content are reported by whichever comes first in the text.

**Places.** A fault of form is placed where the reader stands (`fail`) or one byte further, at the
byte it looked at without consuming it (`failAhead`). A fault of content (`failContent`) has no
place yet; the value being read gives it one (`placed`), and a list or an object first moves past
its closing bracket if that is what comes next (`enclosed`). The place is kept as the bytes left
there, and becomes a line and a column only for the message.
-/

namespace MetricsHarness.Json

/-- What can be wrong with a document. -/
inductive Cause where
  | eofList
  | eofObject
  | eofString
  | eofValue
  | expectedColon
  | expectedListCommaOrEnd
  | expectedObjectCommaOrEnd
  | expectedIdent
  | expectedValue
  | invalidEscape
  | invalidNumber
  | numberOutOfRange
  | invalidUnicode
  | controlCharacter
  | keyMustBeString
  | loneSurrogate
  | endOfHexEscape
  | trailingComma
  | trailingCharacters
  /-- The document is well formed so far but is not what it is read as. -/
  | content (text : String)
  deriving DecidableEq

/-- The three families of causes. -/
inductive Family where
  | endOfInput
  | form
  | content
  deriving DecidableEq

/-- The family of a cause. -/
def Cause.family : Cause → Family
  | .eofList | .eofObject | .eofString | .eofValue => .endOfInput
  | .content _ => .content
  | _ => .form

/-- The wording of a cause. -/
def Cause.message : Cause → String
  | .eofList => "EOF while parsing a list"
  | .eofObject => "EOF while parsing an object"
  | .eofString => "EOF while parsing a string"
  | .eofValue => "EOF while parsing a value"
  | .expectedColon => "expected `:`"
  | .expectedListCommaOrEnd => "expected `,` or `]`"
  | .expectedObjectCommaOrEnd => "expected `,` or `\x7d`"
  | .expectedIdent => "expected ident"
  | .expectedValue => "expected value"
  | .invalidEscape => "invalid escape"
  | .invalidNumber => "invalid number"
  | .numberOutOfRange => "number out of range"
  | .invalidUnicode => "invalid unicode code point"
  | .controlCharacter => "control character (\\u0000-\\u001F) found while parsing a string"
  | .keyMustBeString => "key must be a string"
  | .loneSurrogate => "lone leading surrogate in hex escape"
  | .endOfHexEscape => "unexpected end of hex escape"
  | .trailingComma => "trailing comma"
  | .trailingCharacters => "trailing characters"
  | .content text => text

/-- The answer of a reader. A failure tells its place, if it has one, and where the reader
stands. -/
inductive Reading (α : Type) where
  | ok (value : α) (rest : Bytes)
  | failed (cause : Cause) (place : Option Bytes) (rest : Bytes)

/-- Reads a value from the front of the bytes. -/
def Reader (α : Type) := Bytes → Reading α

namespace Reader

variable {α β : Type}

/-- Answers a value without reading. -/
def pure (a : α) : Reader α := fun s => .ok a s

/-- One reader after another. -/
def bind (r : Reader α) (f : α → Reader β) : Reader β := fun s =>
  match r s with
  | .ok a rest => f a rest
  | .failed c p rest => .failed c p rest

instance : Monad Reader where
  pure := Reader.pure
  bind := Reader.bind

/-- Fails at the place where the reader stands. -/
def fail (c : Cause) : Reader α := fun s => .failed c (some s) s

/-- Fails at the byte ahead of the reader, if there is one. -/
def failAhead (c : Cause) : Reader α := fun s => .failed c (some (s.drop 1)) s

/-- Fails with a fault of content, which gets its place later. -/
def failContent (text : String) : Reader α := fun s => .failed (.content text) none s

/-- The byte ahead. -/
def peek : Reader (Option UInt8) := fun s => .ok s.head? s

/-- Consumes a byte. -/
def skip : Reader Unit := fun s => .ok () (s.drop 1)

/-- Consumes and answers a byte. -/
def next : Reader (Option UInt8) := fun s => .ok s.head? (s.drop 1)

/-- Gives a fault that has no place the one where the reader stands. -/
def placed (r : Reader α) : Reader α := fun s =>
  match r s with
  | .failed c none rest => .failed c (some rest) rest
  | answer => answer

/-- Reads the inside of a list or an object and then its end. A fault of content inside still
moves past the end, if the end is next. -/
def enclosed (inside : Reader α) (close : Reader Unit) : Reader α := fun s =>
  match inside s with
  | .ok a rest =>
    match close rest with
    | .ok () rest' => .ok a rest'
    | .failed c p rest' => .failed c p rest'
  | .failed c none rest =>
    match close rest with
    | .ok () rest' => .failed c none rest'
    | .failed _ _ rest' => .failed c none rest'
  | .failed c p rest => .failed c p rest

end Reader

/-- The blanks of a document. -/
def isBlankByte (b : UInt8) : Bool := b == 0x20 || b == 0x0A || b == 0x09 || b == 0x0D

/-- Skips blanks and answers the byte after them, not consumed. -/
def skipBlanks : Reader (Option UInt8) := fun s =>
  let rest := s.dropWhile isBlankByte
  .ok rest.head? rest

/-- An ASCII character as a byte. -/
def byte (c : Char) : UInt8 := UInt8.ofNat c.toNat

/-- Consumes the rest of a word such as `null`. -/
def finishWord : List UInt8 → Reader Unit
  | [] => Reader.pure ()
  | expected :: more => do
    match ← Reader.next with
    | none => Reader.fail .eofValue
    | some b => if b = expected then finishWord more else Reader.fail .expectedIdent

/-- Consumes the end of a list. -/
def closeList : Reader Unit := do
  match ← skipBlanks with
  | some 0x5D => Reader.skip
  | some 0x2C => do
    Reader.skip
    match ← skipBlanks with
    | some 0x5D => Reader.failAhead .trailingComma
    | _ => Reader.failAhead .trailingCharacters
  | some _ => Reader.failAhead .trailingCharacters
  | none => Reader.failAhead .eofList

/-- Consumes the end of an object. -/
def closeObject : Reader Unit := do
  match ← skipBlanks with
  | some 0x7D => Reader.skip
  | some 0x2C => Reader.failAhead .trailingComma
  | some _ => Reader.failAhead .trailingCharacters
  | none => Reader.failAhead .eofObject

/-- Moves to the next element of a list; false at its end. -/
def nextElement (first : Bool) : Reader Bool := do
  match ← skipBlanks with
  | none => Reader.failAhead .eofList
  | some 0x5D => return false
  | some b =>
    if first then return true
    else if b = 0x2C then do
      Reader.skip
      match ← skipBlanks with
      | some 0x5D => Reader.failAhead .trailingComma
      | some _ => return true
      | none => Reader.failAhead .eofValue
    else Reader.failAhead .expectedListCommaOrEnd

/-- Moves to the next key of an object; false at its end. -/
def nextKey (first : Bool) : Reader Bool := do
  match ← skipBlanks with
  | none => Reader.failAhead .eofObject
  | some 0x7D => return false
  | some b =>
    if first then
      if b = 0x22 then return true else Reader.failAhead .keyMustBeString
    else if b = 0x2C then do
      Reader.skip
      match ← skipBlanks with
      | some 0x22 => return true
      | some 0x7D => Reader.failAhead .trailingComma
      | some _ => Reader.failAhead .keyMustBeString
      | none => Reader.failAhead .eofValue
    else Reader.failAhead .expectedObjectCommaOrEnd

/-- Consumes the colon after a key. -/
def colon : Reader Unit := do
  match ← skipBlanks with
  | some 0x3A => Reader.skip
  | some _ => Reader.failAhead .expectedColon
  | none => Reader.failAhead .eofObject

/-- A fault with its line, counted from one, and its column, the bytes of that line before it. -/
structure Fault where
  cause : Cause
  line : Nat
  column : Nat
  deriving DecidableEq

/-- The wording of a fault. -/
def Fault.message (f : Fault) : String :=
  s!"{f.cause.message} at line {Text.numeral f.line} column {Text.numeral f.column}"

/-- The line and column after some bytes of a document. -/
def placeAfter (consumed : Bytes) : Nat × Nat :=
  (1 + consumed.count 0x0A, (consumed.reverse.takeWhile (· != 0x0A)).length)

/-- Reads a whole document: the value and nothing but blanks after it. -/
def readDocument {α : Type} (r : Reader α) (document : Bytes) : Except Fault α :=
  let whole : Reader α := do
    let a ← r
    match ← skipBlanks with
    | none => return a
    | some _ => Reader.failAhead .trailingCharacters
  match whole document with
  | .ok a _ => .ok a
  | .failed c place rest =>
    let left := (place.getD rest).length
    let (line, column) := placeAfter (document.take (document.length - left))
    .error ⟨c, line, column⟩

end MetricsHarness.Json
