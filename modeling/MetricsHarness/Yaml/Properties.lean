import MetricsHarness.Text.Hex
import MetricsHarness.Yaml.Block
import MetricsHarness.Yaml.Tag

/-!
# Names, tags and directives

An anchor names a node and an alias stands for the node of that name. A tag has a handle and a
suffix; the handle is `!`, `!!` or `!name!`, or empty for a tag in angle brackets. A directive
gives the version of the format or what a handle stands for.
-/

namespace MetricsHarness.Yaml

/-- A character of a name. -/
def isNameChar (c : Char) : Bool :=
  Text.isDigit c || ('a' ≤ c && c ≤ 'z') || ('A' ≤ c && c ≤ 'Z') || c == '_' || c == '-'

/-- The name at the front and what follows it. -/
def cutName (spots : List Spot) : List Char × List Spot :=
  (charsOf (spots.takeWhile (isNameChar ·.char)), spots.dropWhile (isNameChar ·.char))

/-- Whether a name may end here. -/
def atNameEnd (rest : List Spot) : Bool :=
  atGap rest || rest.head?.any ("?:,]\x7d%@`".toList.contains ·.char)

/-- Reads the name of an anchor or an alias after its mark. -/
def scanName (reading : String) (since finish : Mark) (spots : List Spot) :
    Except Fault (String × List Spot) :=
  let (name, rest) := cutName spots
  if name.isEmpty || !atNameEnd rest then
    failWhile reading since "did not find expected alphabetic or numeric character"
      (markAt finish rest)
  else .ok (String.ofList name, rest)

/-- A character of a tag. In brackets and in directives commas and brackets count too. -/
def isTagChar (wide : Bool) (c : Char) : Bool :=
  isNameChar c || ";/?:@&=+$.%!~*'()".toList.contains c || (wide && ",[]".toList.contains c)

/-- How many bytes a character has, by its first one. -/
def widthOfLead? (lead : UInt8) : Option Nat :=
  if lead < 0x80 then some 1
  else if 0xC0 ≤ lead && lead < 0xE0 then some 2
  else if 0xE0 ≤ lead && lead < 0xF0 then some 3
  else if 0xF0 ≤ lead && lead < 0xF8 then some 4
  else none

/-- How many bytes are due after one, where some are due with it. The first byte of a character
tells; the others must look like followers. -/
def dueAfter? (due : Nat) (b : UInt8) : Option Nat :=
  if due = 0 then (widthOfLead? b).map (· - 1)
  else if 0x80 ≤ b && b < 0xC0 then some (due - 1)
  else none

/-- The byte of an escape. -/
def escapedByte? (a b : Spot) : Option UInt8 :=
  match Text.Hex.digitValue? a.char, Text.Hex.digitValue? b.char with
  | some x, some y => some (UInt8.ofNat (16 * x + y))
  | _, _ => none

/-- The bytes of a tag: characters as they are and escapes undone. The escapes of a character stand
together; `due` of them are missing. -/
def scanTagBytes (wide : Bool) (reading : String) (since finish : Mark) :
    Nat → List Spot → Except Fault (Bytes × List Spot)
  | due, ⟨'%', place⟩ :: a :: b :: rest =>
    match (escapedByte? a b).bind fun byte => (dueAfter? due byte).map (byte, ·) with
    | none => failWhile reading since "did not find URI escaped octet" place
    | some (byte, due) =>
      match scanTagBytes wide reading since finish due rest with
      | .error f => .error f
      | .ok (bytes, last) => .ok (byte :: bytes, last)
  | 0, s :: rest =>
    if s.char == '%' then failWhile reading since "did not find URI escaped octet" s.mark
    else if isTagChar wide s.char then
      match scanTagBytes wide reading since finish 0 rest with
      | .error f => .error f
      | .ok (bytes, last) => .ok (Text.Utf8.encodeChar s.char ++ bytes, last)
    else .ok ([], s :: rest)
  | 0, [] => .ok ([], [])
  | _ + 1, rest => failWhile reading since "did not find URI escaped octet" (markAt finish rest)

/-- The handle at the front, with its marks: `!`, `!name` or `!name!`. -/
def cutHandle (spots : List Spot) : List Char × List Spot :=
  let (name, rest) := cutName (spots.drop 1)
  if atChar '!' rest then ('!' :: name ++ ['!'], rest.drop 1) else ('!' :: name, rest)

/-- Whether a handle has its second mark. -/
def isClosedHandle (handle : List Char) : Bool :=
  2 ≤ handle.length && handle.getLast? == some '!'

/-- What is being read, for the faults of tags. -/
def inTag : String := "while scanning a tag"

/-- Reads handle and suffix of a tag. -/
def scanTagParts (since finish : Mark) (spots : List Spot) :
    Except Fault (WrittenTag × List Spot) := do
  match spots.drop 1 with
  | ⟨'<', _⟩ :: inside => do
    let (suffix, rest) ← scanTagBytes true "while parsing a tag" since finish 0 inside
    if suffix.isEmpty then
      failWhile "while parsing a tag" since "did not find expected tag URI" (markAt finish rest)
    if atChar '>' rest then return (⟨"", Tag.counting suffix⟩, rest.drop 1)
    else failWhile inTag since "did not find the expected '>'" (markAt finish rest)
  | _ => do
    let (handle, rest) := cutHandle spots
    if isClosedHandle handle then
      let (suffix, last) ← scanTagBytes false "while parsing a tag" since finish 0 rest
      if suffix.isEmpty then
        failWhile "while parsing a tag" since "did not find expected tag URI" (markAt finish last)
      return (⟨String.ofList handle, Tag.counting suffix⟩, last)
    else
      let (more, last) ← scanTagBytes false "while parsing a tag" since finish 0 rest
      let suffix := Tag.counting (Text.Utf8.encode (handle.drop 1) ++ more)
      if suffix.isEmpty then return (⟨"", Tag.privateLead⟩, last)
      else return (⟨"!", suffix⟩, last)

/-- Reads a tag. -/
def scanTag (flow : Bool) (since finish : Mark) (spots : List Spot) :
    Except Fault (WrittenTag × List Spot) := do
  let (tag, rest) ← scanTagParts since finish spots
  if atGap rest || (flow && atChar ',' rest) then return (tag, rest)
  else failWhile inTag since "did not find expected whitespace or line break" (markAt finish rest)

/-- A directive. -/
inductive Directive where
  | version (major minor : Nat)
  /-- What a handle stands for. -/
  | handle (handle : String) (lead : Bytes)

/-- Reads a number of a version, of at most nine digits. -/
def scanVersionNumber (since finish : Mark) (spots : List Spot) :
    Except Fault (Nat × List Spot) :=
  let digits := charsOf (spots.takeWhile (Text.isDigit ·.char))
  match Text.value? 10 digits with
  | none =>
    failWhile "while scanning a %YAML directive" since "did not find expected version number"
      (markAt finish spots)
  | some n =>
    if 9 < digits.length then
      failWhile "while scanning a %YAML directive" since "found extremely long version number"
        (markAt finish spots)
    else .ok (n, spots.drop digits.length)

/-- Reads the value of a version directive. -/
def scanVersion (since finish : Mark) (spots : List Spot) :
    Except Fault (Directive × List Spot) := do
  let (major, rest) ← scanVersionNumber since finish (spots.dropWhile (isBlank ·.char))
  if !atChar '.' rest then
    failWhile "while scanning a %YAML directive" since
      "did not find expected digit or '.' character" (markAt finish rest)
  let (minor, rest) ← scanVersionNumber since finish (rest.drop 1)
  return (.version major minor, rest)

/-- Reads the value of a handle directive. -/
def scanHandle (since finish : Mark) (spots : List Spot) :
    Except Fault (Directive × List Spot) := do
  let reading := "while scanning a %TAG directive"
  let start := spots.dropWhile (isBlank ·.char)
  if !atChar '!' start then
    failWhile reading since "did not find expected '!'" (markAt finish start)
  let (handle, rest) := cutHandle start
  if !isClosedHandle handle && handle != ['!'] then
    failWhile reading since "did not find expected '!'" (markAt finish rest)
  if !(rest.head?.any (isBlank ·.char)) then
    failWhile reading since "did not find expected whitespace" (markAt finish rest)
  let (lead, rest) ← scanTagBytes true reading since finish 0 (rest.dropWhile (isBlank ·.char))
  if lead.isEmpty then
    failWhile reading since "did not find expected tag URI" (markAt finish rest)
  if !atGap rest then
    failWhile reading since "did not find expected whitespace or line break" (markAt finish rest)
  return (.handle (String.ofList handle) (Tag.counting lead), rest)

/-- Reads a directive and the rest of its line. -/
def scanDirective (since finish : Mark) (spots : List Spot) :
    Except Fault (Directive × List Spot) := do
  let reading := "while scanning a directive"
  let (name, rest) := cutName (spots.drop 1)
  if name.isEmpty then
    failWhile reading since "could not find expected directive name" (markAt finish rest)
  if !atGap rest then
    failWhile reading since "found unexpected non-alphabetical character" (markAt finish rest)
  let (directive, rest) ←
    if name = "YAML".toList then scanVersion since finish rest
    else if name = "TAG".toList then scanHandle since finish rest
    else failWhile reading since "found unknown directive name" (markAt finish rest)
  let rest ← scanLineRest reading since finish rest
  return (directive, rest)

end MetricsHarness.Yaml
