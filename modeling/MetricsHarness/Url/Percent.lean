import MetricsHarness.Text.Utf8

/-!
# Percent escapes

A character that may not stand in a part of a URL is written as its UTF-8 bytes, each as `%` and
two hexadecimal digits. What may not stand there differs from part to part, so `encode` takes the
set of ASCII characters to escape; characters outside ASCII are always escaped.

`decode` works on bytes. A `%` that two hexadecimal digits do not follow stands for itself, so
every text has a decoding.
-/

namespace MetricsHarness.Url.Percent

/-- A byte as an escape. -/
def escape (b : UInt8) : List Char :=
  ['%', Text.Hex.upperDigit (b.toNat / 16), Text.Hex.upperDigit (b.toNat % 16)]

/-- A character, escaped if it is outside ASCII or in a set. -/
def encodeChar (isEscaped : Char → Bool) (c : Char) : List Char :=
  if 0x80 ≤ c.toNat || isEscaped c then (Text.Utf8.encodeChar c).flatMap escape else [c]

/-- A text with the characters of a set escaped. -/
def encode (isEscaped : Char → Bool) (cs : List Char) : List Char :=
  cs.flatMap (encodeChar isEscaped)

/-- Undoes escapes. -/
def decode : Bytes → Bytes
  | [] => []
  | 0x25 :: a :: b :: rest =>
    match Text.Hex.digitValue? (Char.ofNat a.toNat), Text.Hex.digitValue? (Char.ofNat b.toNat) with
    | some x, some y => UInt8.ofNat (16 * x + y) :: decode rest
    | _, _ => 0x25 :: decode (a :: b :: rest)
  | b :: rest => b :: decode rest

/-- The control characters, escaped in every part. -/
def isControl (c : Char) : Bool := c.toNat < 0x20 || c.toNat == 0x7F

/-- What is escaped in a fragment. -/
def inFragment (c : Char) : Bool := isControl c || " \"<>`".toList.contains c

/-- What is escaped in a segment of a path. -/
def inPath (c : Char) : Bool := inFragment c || "#?\x7b\x7d".toList.contains c

/-- What is escaped in a user name and a password. -/
def inUser (c : Char) : Bool := inPath c || "/:;=@[\\]^|".toList.contains c

/-- What is escaped in the query of a URL; an apostrophe only in the schemes of the web. -/
def inQuery (special : Bool) (c : Char) : Bool :=
  isControl c || " \"#<>".toList.contains c || (special && c == '\x27')

end MetricsHarness.Url.Percent
