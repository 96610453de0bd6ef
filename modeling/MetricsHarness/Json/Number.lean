import MetricsHarness.Json.Reader
import MetricsHarness.Binary64.Rounding

/-!
# Numbers in a JSON document

A number without fraction and exponent is a natural number or a negative integer as long as it
fits 64 bits; every other number, and minus zero, is a double.

**The double is not always the nearest.** The digits are collected in one natural number of 64
bits, the significand; digits that no longer fit are dropped, those before the point raising the
exponent. The value is the significand, rounded to a double, times or over a power of ten, rounded
to a double, so there can be two roundings (`scaled`). A product past the finite range is a fault.
-/

namespace MetricsHarness.Json

open Binary64

/-- A number of a document. -/
inductive Number where
  | natural (n : Nat)
  | negative (i : Int)
  | real (x : Binary64)
  deriving DecidableEq

/-- A decimal digit as a byte. -/
def isDigitByte (b : UInt8) : Bool := 0x30 ≤ b && b ≤ 0x39

/-- The value of a digit byte. -/
def digitOf (b : UInt8) : Nat := b.toNat - 0x30

/-- A power of ten as a double. -/
def powerOfTen (n : Nat) : Binary64 := ofDecimal false 1 n

/-- Divides by the powers of ten up to 308 until the exponent is used up. -/
def scaledDown : Nat → Binary64 → Nat → Binary64
  | 0, x, _ => x
  | fuel + 1, x, e =>
    if e ≤ 308 then div x (powerOfTen e)
    else if x.isZero then x
    else scaledDown fuel (div x (powerOfTen 308)) (e - 308)

/-- A significand times a power of ten; none if that is past the finite range. -/
def scaled (significand : Nat) (exponent : Int) : Option Binary64 :=
  let x := ofNat significand
  match exponent with
  | .ofNat e =>
    if e ≤ 308 then
      let y := mul x (powerOfTen e)
      if y.isInfinite then none else some y
    else if x.isZero then some x else none
  | .negSucc e => some (scaledDown (e + 1) x (e + 1))

/-- The digits at the front. -/
def takeDigits : Reader (List UInt8) := fun s =>
  .ok (s.takeWhile isDigitByte) (s.dropWhile isDigitByte)

/-- Collects digits into a significand while they fit 64 bits; answers the significand, how many
digits it took, and how many were left over. -/
def collect : Nat → List UInt8 → Nat × Nat × Nat
  | acc, [] => (acc, 0, 0)
  | acc, b :: rest =>
    if acc * 10 + digitOf b ≤ Text.nat64Greatest then
      let (sig, taken, extra) := collect (acc * 10 + digitOf b) rest
      (sig, taken + 1, extra)
    else (acc, 0, rest.length + 1)

/-- The double of a significand and exponent with a sign, or a fault. -/
def finishReal (negative : Bool) (significand : Nat) (exponent : Int) : Reader Binary64 :=
  match scaled significand exponent with
  | none => Reader.fail .numberOutOfRange
  | some x => Reader.pure { x with negative := negative }

/-- The greatest exponent that is counted. -/
def exponentLimit : Nat := 2147483647

/-- Keeps an exponent within 32 bits. -/
def clampExponent (e : Int) : Int := max (-2147483648) (min 2147483647 e)

/-- How many digits of an exponent are consumed before it passes the limit; none if it never
does. -/
def exponentOverflow : Nat → List UInt8 → Option Nat
  | _, [] => none
  | acc, b :: rest =>
    if acc * 10 + digitOf b ≤ exponentLimit then
      (exponentOverflow (acc * 10 + digitOf b) rest).map (· + 1)
    else some 1

/-- The value of digits. -/
def digitsValue (ds : List UInt8) : Nat := ds.foldl (fun acc b => acc * 10 + digitOf b) 0

/-- Reads an exponent part, whose `e` is ahead. -/
def readExponent (negative : Bool) (significand : Nat) (start : Int) : Reader Binary64 := do
  Reader.skip
  let raising ← (do
    match ← Reader.peek with
    | some 0x2B => do Reader.skip; return true
    | some 0x2D => do Reader.skip; return false
    | _ => return true : Reader Bool)
  match ← Reader.peek with
  | none => Reader.fail .eofValue
  | some b =>
    if !isDigitByte b then do
      Reader.skip
      Reader.fail .invalidNumber
    else fun s =>
      let digits := s.takeWhile isDigitByte
      let rest := s.dropWhile isDigitByte
      match exponentOverflow 0 digits with
      | some used =>
        if significand ≠ 0 ∧ raising then Reader.fail .numberOutOfRange (s.drop used)
        else .ok (zero negative) rest
      | none =>
        let e : Int := digitsValue digits
        finishReal negative significand
          (clampExponent (if raising then start + e else start - e)) rest

/-- Reads what may follow the digits of a double: an exponent or nothing. -/
def readTail (negative : Bool) (significand : Nat) (exponent : Int) : Reader Binary64 := do
  match ← Reader.peek with
  | some 0x65 => readExponent negative significand exponent
  | some 0x45 => readExponent negative significand exponent
  | _ => finishReal negative significand exponent

/-- Reads a fraction, whose point is ahead. -/
def readFraction (negative : Bool) (significand : Nat) (exponent : Int) : Reader Binary64 := do
  Reader.skip
  let digits ← takeDigits
  if digits.isEmpty then
    match ← Reader.peek with
    | some _ => Reader.failAhead .invalidNumber
    | none => Reader.failAhead .eofValue
  else
    let (sig, taken, _) := collect significand digits
    readTail negative sig (exponent - taken)

/-- Reads the digits of a number and all that follows them. -/
def readNumberDigits (negative : Bool) : Reader Number := do
  match ← Reader.peek with
  | none => Reader.fail .eofValue
  | some b =>
    if !isDigitByte b then do
      Reader.skip
      Reader.fail .invalidNumber
    else if b = 0x30 then do
      Reader.skip
      match ← Reader.peek with
      | some c => if isDigitByte c then Reader.failAhead .invalidNumber else finish 0 0
      | none => finish 0 0
    else do
      let digits ← takeDigits
      let (sig, _, extra) := collect 0 digits
      finish sig extra
where
  /-- What follows the whole digits: a fraction, an exponent or the end. -/
  finish (significand extra : Nat) : Reader Number := do
    match ← Reader.peek with
    | some 0x2E => return .real (← readFraction negative significand extra)
    | some 0x65 => return .real (← readExponent negative significand extra)
    | some 0x45 => return .real (← readExponent negative significand extra)
    | _ =>
      if extra ≠ 0 then return .real (← finishReal negative significand extra)
      else if !negative then return .natural significand
      else if significand = 0 ∨ Text.int64Least < significand then
        return .real { ofNat significand with negative := true }
      else return .negative (-(significand : Int))

/-- Reads a number; a minus sign or a digit is ahead. -/
def readNumber : Reader Number := do
  match ← Reader.peek with
  | some 0x2D => do
    Reader.skip
    readNumberDigits true
  | _ => readNumberDigits false

end MetricsHarness.Json
