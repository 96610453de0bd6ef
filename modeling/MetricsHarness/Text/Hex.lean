/-!
# Hexadecimal text

`encode` writes two lowercase digits per byte, `decode?` reads them back in either letter case.
-/

namespace MetricsHarness

/-- A text as bytes: a body, a file, a wire form. -/
abbrev Bytes := List UInt8

namespace Text.Hex

/-- The lowercase digit of a number below sixteen. -/
def digit (n : Nat) : Char := if n < 10 then Char.ofNat (48 + n) else Char.ofNat (87 + n)

/-- The uppercase digit of a number below sixteen. -/
def upperDigit (n : Nat) : Char := if n < 10 then Char.ofNat (48 + n) else Char.ofNat (55 + n)

/-- Two lowercase digits per byte. -/
def encode (bytes : Bytes) : List Char :=
  bytes.flatMap fun b => [digit (b.toNat / 16), digit (b.toNat % 16)]

/-- The value of a hexadecimal digit in either case. -/
def digitValue? (c : Char) : Option Nat :=
  if '0' ≤ c ∧ c ≤ '9' then some (c.toNat - 48)
  else if 'a' ≤ c ∧ c ≤ 'f' then some (c.toNat - 87)
  else if 'A' ≤ c ∧ c ≤ 'F' then some (c.toNat - 55)
  else none

/-- Reads pairs of digits. -/
def decode? : List Char → Option Bytes
  | [] => some []
  | [_] => none
  | a :: b :: rest =>
    match digitValue? a, digitValue? b, decode? rest with
    | some x, some y, some bytes => some (UInt8.ofNat (16 * x + y) :: bytes)
    | _, _, _ => none

end Text.Hex

end MetricsHarness
