import MetricsHarness.Text.Printable
import MetricsHarness.Text.Pieces

/-!
# Quoted texts

A quoted text stands between double quotes and can be told from its neighbours whatever it holds:
quotes and backslashes get a backslash, the common controls their letter, and every other
character that is not printable its number in hexadecimal, as in `\u{ad}`. A list of texts is
quoted piece by piece between brackets.
-/

namespace MetricsHarness.Text

/-- One character inside a quoted text. -/
def quotedChar (c : Char) : List Char :=
  match c with
  | '"' => ['\\', '"']
  | '\\' => ['\\', '\\']
  | '\n' => ['\\', 'n']
  | '\r' => ['\\', 'r']
  | '\t' => ['\\', 't']
  | '\x00' => ['\\', '0']
  | c =>
    if isPrintable c then [c]
    else '\\' :: 'u' :: '\x7b' :: (Nat.toDigits 16 c.toNat ++ ['\x7d'])

/-- A text between quotes, with escapes. -/
def quoted (s : String) : String :=
  String.ofList ('"' :: (s.toList.flatMap quotedChar ++ ['"']))

/-- A list of quoted texts. -/
def quotedList (ss : List String) : String :=
  "[" ++ String.intercalate ", " (ss.map quoted) ++ "]"

end MetricsHarness.Text
