import MetricsHarness.Series.Basic
import MetricsHarness.Text.Hex

/-!
# Writing series as a JSON document

The written form has no blanks and all three members of a series in a fixed order. Numbers use the
document layout, so a value that is not finite becomes `null` and does not read back. In texts only
quotes, backslashes and control characters are escaped.
-/

namespace MetricsHarness.Json

/-- One character inside a written text. -/
def escapedChar (c : Char) : List Char :=
  match c with
  | '"' => ['\\', '"']
  | '\\' => ['\\', '\\']
  | '\x08' => ['\\', 'b']
  | '\x0c' => ['\\', 'f']
  | '\n' => ['\\', 'n']
  | '\r' => ['\\', 'r']
  | '\t' => ['\\', 't']
  | c =>
    if c.toNat < 32 then
      ['\\', 'u', '0', '0', Text.Hex.digit (c.toNat / 16), Text.Hex.digit (c.toNat % 16)]
    else [c]

/-- A written text. -/
def writeText (s : String) : List Char := '"' :: (s.toList.flatMap escapedChar ++ ['"'])

/-- A written sample. -/
def writeSample (s : Sample) : List Char :=
  '[' :: (Binary64.document.chars s.value ++ ',' ::
    (Text.signedNumeralChars s.timestamp.toInt ++ [']']))

/-- Written values between brackets. -/
def writeList (items : List (List Char)) : List Char :=
  '[' :: (Text.joined [','] items ++ [']'])

/-- Written tags. -/
def writeTags (tags : Tags) : List Char :=
  '\x7b' :: (Text.joined [','] (tags.entries.map fun (n, v) => writeText n ++ ':' :: writeText v)
    ++ ['\x7d'])

/-- A written series. -/
def writeSeries (s : Series) : List Char :=
  "\x7b\"target\":".toList ++ writeText s.target ++
  ",\"datapoints\":".toList ++ writeList (s.points.map writeSample) ++
  ",\"tags\":".toList ++ writeTags s.tags ++ ['\x7d']

/-- A written list of series. -/
def writeSeriesList (series : List Series) : List Char := writeList (series.map writeSeries)

end MetricsHarness.Json
