import MetricsHarness.Text.Hex

/-!
# UTF-8

`encodeChar` writes a character in one to four bytes. `scan` looks at the front of a byte list and
says what stands there: a character and the bytes after it, or how many bytes form the longest
beginning of a character that does not go on. `decode?` refuses the second case; `decodeLossy`
puts the replacement character in its place.
-/

namespace MetricsHarness.Text.Utf8

/-- The bytes of a character. -/
def encodeChar (c : Char) : Bytes :=
  let n := c.toNat
  if n < 0x80 then [UInt8.ofNat n]
  else if n < 0x800 then [UInt8.ofNat (0xC0 + n / 64), UInt8.ofNat (0x80 + n % 64)]
  else if n < 0x10000 then
    [UInt8.ofNat (0xE0 + n / 4096), UInt8.ofNat (0x80 + n / 64 % 64), UInt8.ofNat (0x80 + n % 64)]
  else
    [UInt8.ofNat (0xF0 + n / 262144), UInt8.ofNat (0x80 + n / 4096 % 64),
      UInt8.ofNat (0x80 + n / 64 % 64), UInt8.ofNat (0x80 + n % 64)]

/-- The bytes of a text. -/
def encode (cs : List Char) : Bytes := cs.flatMap encodeChar

/-- The bytes of a string. -/
def encodeString (s : String) : Bytes := encode s.toList

/-- A byte that continues a character. -/
def isTail (b : UInt8) : Bool := 0x80 ≤ b && b ≤ 0xBF

/-- What stands at the front of a nonempty byte list. -/
inductive Front where
  | char (c : Char) (rest : Bytes)
  /-- Bytes that begin no character, or begin one that does not go on. -/
  | broken (rest : Bytes)

/-- The least and the greatest second byte that may follow a first byte of three or four. -/
def secondRange (a : UInt8) : UInt8 × UInt8 :=
  if a = 0xE0 then (0xA0, 0xBF)
  else if a = 0xED then (0x80, 0x9F)
  else if a = 0xF0 then (0x90, 0xBF)
  else if a = 0xF4 then (0x80, 0x8F)
  else (0x80, 0xBF)

/-- Whether a second byte may follow the first. -/
def followsFirst (a b : UInt8) : Bool := (secondRange a).1 ≤ b && b ≤ (secondRange a).2

/-- Looks at the front of a byte list that starts with `a`. -/
def scan (a : UInt8) (rest : Bytes) : Front :=
  if a < 0x80 then .char (Char.ofNat a.toNat) rest
  else if 0xC2 ≤ a && a ≤ 0xDF then
    match rest with
    | b :: r =>
      if isTail b then .char (Char.ofNat ((a.toNat - 0xC0) * 64 + (b.toNat - 0x80))) r
      else .broken rest
    | [] => .broken rest
  else if 0xE0 ≤ a && a ≤ 0xEF then
    match rest with
    | b :: r =>
      if followsFirst a b then
        match r with
        | c :: r' =>
          if isTail c then
            .char (Char.ofNat
              ((a.toNat - 0xE0) * 4096 + (b.toNat - 0x80) * 64 + (c.toNat - 0x80))) r'
          else .broken r
        | [] => .broken r
      else .broken rest
    | [] => .broken rest
  else if 0xF0 ≤ a && a ≤ 0xF4 then
    match rest with
    | b :: r =>
      if followsFirst a b then
        match r with
        | c :: r' =>
          if isTail c then
            match r' with
            | d :: r'' =>
              if isTail d then
                .char (Char.ofNat ((a.toNat - 0xF0) * 262144 + (b.toNat - 0x80) * 4096 +
                  (c.toNat - 0x80) * 64 + (d.toNat - 0x80))) r''
              else .broken r'
            | [] => .broken r'
          else .broken r
        | [] => .broken r
      else .broken rest
    | [] => .broken rest
  else .broken rest

/-- Decodes with at most `fuel` characters; the length of the text is always enough. -/
def decodeWithin (replace : Option Char) : Nat → Bytes → Option (List Char)
  | _, [] => some []
  | 0, _ :: _ => none
  | fuel + 1, a :: rest =>
    match scan a rest with
    | .char c r => (decodeWithin replace fuel r).map (c :: ·)
    | .broken r =>
      match replace with
      | none => none
      | some c => (decodeWithin replace fuel r).map (c :: ·)

/-- The text of a byte list; none if it is not UTF-8. -/
def decode? (bytes : Bytes) : Option (List Char) := decodeWithin none bytes.length bytes

/-- The bytes from the first one that belongs to no character on, with at most `fuel` characters
before it. -/
def brokenWithin : Nat → Bytes → Bytes
  | _, [] => []
  | 0, _ :: _ => []
  | fuel + 1, a :: rest =>
    match scan a rest with
    | .char _ r => brokenWithin fuel r
    | .broken _ => a :: rest

/-- The bytes from the first one that belongs to no character on; none are left if the bytes are
UTF-8. -/
def fromBroken (bytes : Bytes) : Bytes := brokenWithin bytes.length bytes

/-- The replacement character. -/
def replacement : Char := Char.ofNat 0xFFFD

/-- The text of a byte list, with the replacement character for what is not UTF-8. -/
def decodeLossy (bytes : Bytes) : List Char :=
  (decodeWithin (some replacement) bytes.length bytes).getD []

end MetricsHarness.Text.Utf8
