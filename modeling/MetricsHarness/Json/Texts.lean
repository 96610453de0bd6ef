import MetricsHarness.Json.Reader

/-!
# Texts in a JSON document

A text stands between quotes; a backslash starts an escape, and a control character is refused.
`readText` collects the bytes and then requires them to be UTF-8. If they are not, the place of the
fault is counted back from the end of the text by the bytes that were collected from the first one
on that belongs to no character; without escapes this is the place of that byte. Two hexadecimal
escapes may spell one character as a pair of surrogates; a surrogate without its partner is refused.

`passText` moves past a text nobody looks at. It checks the letters of escapes but neither
surrogates nor UTF-8, and it leaves a control character unconsumed.
-/

namespace MetricsHarness.Json

/-- A byte that copies into a text as it is. -/
def isPlainByte (b : UInt8) : Bool := b != 0x22 && b != 0x5C && 0x20 ≤ b

/-- The value of a hexadecimal digit byte. -/
def hexValue? (b : UInt8) : Option Nat := Text.Hex.digitValue? (Char.ofNat b.toNat)

/-- Reads four hexadecimal digits. -/
def readHex : Reader Nat := fun s =>
  match s with
  | a :: b :: c :: d :: rest =>
    match hexValue? a, hexValue? b, hexValue? c, hexValue? d with
    | some w, some x, some y, some z => .ok (((w * 16 + x) * 16 + y) * 16 + z) rest
    | _, _, _, _ => .failed .invalidEscape (some rest) rest
  | _ => .failed .eofString (some []) []

/-- Consumes one byte of a text, which must not end here. -/
def nextInText : Reader UInt8 := do
  match ← Reader.next with
  | some b => return b
  | none => Reader.fail .eofString

/-- A leading surrogate. -/
def isLeading (n : Nat) : Bool := 0xD800 ≤ n && n ≤ 0xDBFF

/-- A trailing surrogate. -/
def isTrailing (n : Nat) : Bool := 0xDC00 ≤ n && n ≤ 0xDFFF

/-- Reads the escape of a trailing surrogate after a leading one and joins them. -/
def readPartner (leading : Nat) : Reader Bytes := do
  let slash ← nextInText
  if slash ≠ 0x5C then Reader.fail .endOfHexEscape
  let letter ← nextInText
  if letter ≠ 0x75 then Reader.fail .endOfHexEscape
  let trailing ← readHex
  if isTrailing trailing then
    return Text.Utf8.encodeChar
      (Char.ofNat ((leading - 0xD800) * 1024 + (trailing - 0xDC00) + 0x10000))
  else Reader.fail .loneSurrogate

/-- Reads an escape after its backslash and answers the bytes it stands for. -/
def readEscape : Reader Bytes := do
  match ← nextInText with
  | 0x22 => return [0x22]
  | 0x5C => return [0x5C]
  | 0x2F => return [0x2F]
  | 0x62 => return [0x08]
  | 0x66 => return [0x0C]
  | 0x6E => return [0x0A]
  | 0x72 => return [0x0D]
  | 0x74 => return [0x09]
  | 0x75 => do
    let n ← readHex
    if isTrailing n then Reader.fail .loneSurrogate
    else if isLeading n then readPartner n
    else return Text.Utf8.encodeChar (Char.ofNat n)
  | _ => Reader.fail .invalidEscape

/-- Reads the bytes of a text up to and with its closing quote. -/
def readTextBytes : Nat → Reader Bytes
  | 0 => Reader.fail .eofString
  | fuel + 1 => fun s =>
    let plain := s.takeWhile isPlainByte
    match s.dropWhile isPlainByte with
    | [] => .failed .eofString (some []) []
    | b :: rest =>
      if b = 0x22 then .ok plain rest
      else if b = 0x5C then
        match readEscape rest with
        | .failed c p r => .failed c p r
        | .ok escaped r =>
          match readTextBytes fuel r with
          | .failed c p r' => .failed c p r'
          | .ok more r' => .ok (plain ++ escaped ++ more) r'
      else .failed .controlCharacter (some rest) rest

/-- Reads a text whose opening quote is ahead. -/
def readText : Reader String := fun s =>
  match readTextBytes s.length (s.drop 1) with
  | .failed c p rest => .failed c p rest
  | .ok bytes rest =>
    match Text.Utf8.decode? bytes with
    | some cs => .ok (String.ofList cs) rest
    | none =>
      let left := rest.length + (Text.Utf8.fromBroken bytes).length
      .failed .invalidUnicode (some (s.drop (s.length - left))) rest

/-- Moves past an escape after its backslash. -/
def passEscape : Reader Unit := do
  match ← nextInText with
  | 0x22 | 0x5C | 0x2F | 0x62 | 0x66 | 0x6E | 0x72 | 0x74 => return ()
  | 0x75 => do
    let _ ← readHex
    return ()
  | _ => Reader.fail .invalidEscape

/-- Moves past a text after its opening quote. -/
def passTextBytes : Nat → Reader Unit
  | 0 => Reader.fail .eofString
  | fuel + 1 => fun s =>
    match s.dropWhile isPlainByte with
    | [] => .failed .eofString (some []) []
    | b :: rest =>
      if b = 0x22 then .ok () rest
      else if b = 0x5C then
        match passEscape rest with
        | .failed c p r => .failed c p r
        | .ok () r => passTextBytes fuel r
      else .failed .controlCharacter (some (b :: rest)) (b :: rest)

/-- Moves past a text whose opening quote is ahead. -/
def passText : Reader Unit := fun s => passTextBytes s.length (s.drop 1)

end MetricsHarness.Json
