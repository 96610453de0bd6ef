import MetricsHarness.Text.Pieces
import MetricsHarness.Url.Percent

/-!
# Parameters of a query

A query is a list of parameters between `&`; empty pieces count for nothing. A parameter is a key
and a value around the first `=`, the value empty if there is none. In both a `+` is a blank and
escapes stand for bytes, which are read as UTF-8 with the replacement character for what is not.

`encodeParameters` writes the one form in which letters, digits and `*-._` stand for themselves,
a blank is `+`, every other byte is an escape and every key has its `=`.
-/

namespace MetricsHarness.Url

/-- A key and a value, decoded. -/
structure Parameter where
  key : List Char
  value : List Char
  deriving DecidableEq

namespace Form

/-- A plus sign stands for a blank. -/
def plusToBlank (b : UInt8) : UInt8 := if b = 0x2B then 0x20 else b

/-- The bytes a key or a value stands for. -/
def decodeBytes (cs : List Char) : Bytes :=
  Percent.decode ((Text.Utf8.encode cs).map plusToBlank)

/-- The text a key or a value stands for. -/
def decodeText (cs : List Char) : List Char := Text.Utf8.decodeLossy (decodeBytes cs)

/-- Key and value of a piece, not decoded. -/
def halves (piece : List Char) : List Char × List Char :=
  (piece.takeWhile (· != '='), (piece.dropWhile (· != '=')).drop 1)

/-- The nonempty pieces of a query as keys and values, not decoded. -/
def rawParameters (query : List Char) : List (List Char × List Char) :=
  ((Text.pieces '&' query).filter fun p => !p.isEmpty).map halves

/-- The parameters of a query. -/
def parameters (query : List Char) : List Parameter :=
  (rawParameters query).map fun (k, v) => ⟨decodeText k, decodeText v⟩

/-- Whether a byte stands for itself. -/
def isKept (b : UInt8) : Bool :=
  (0x30 ≤ b && b ≤ 0x39) || (0x41 ≤ b && b ≤ 0x5A) || (0x61 ≤ b && b ≤ 0x7A) ||
    b == 0x2A || b == 0x2D || b == 0x2E || b == 0x5F

/-- A byte in written form. -/
def encodeByte (b : UInt8) : List Char :=
  if isKept b then [Char.ofNat b.toNat] else if b = 0x20 then ['+'] else Percent.escape b

/-- A key or a value in written form. -/
def encodeText (cs : List Char) : List Char := (Text.Utf8.encode cs).flatMap encodeByte

/-- A parameter in written form. -/
def encodeParameter (p : Parameter) : List Char := encodeText p.key ++ '=' :: encodeText p.value

/-- Parameters in written form. -/
def encodeParameters (ps : List Parameter) : List Char :=
  Text.joined ['&'] (ps.map encodeParameter)

end Form

end MetricsHarness.Url
