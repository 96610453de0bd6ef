/-!
# Numerals: whole numbers as digits

A numeral is a nonempty text of digits in some radix from 2 to 16. `numeral` writes a natural
number in decimal and `signedNumeral` an integer; both are what messages and encoded samples show.

**Reading** goes digit by digit and stops at the first fault: a character that is no digit, or the
digit that carries the number past the limit. Hence a text with both faults is reported by the
one that comes first (`readInteger`). `value?` reads digits without a limit.
-/

namespace MetricsHarness.Text

/-- The digits of a number in decimal. -/
def numeralChars (n : Nat) : List Char := Nat.toDigits 10 n

/-- A number written in decimal. -/
def numeral (n : Nat) : String := String.ofList (numeralChars n)

/-- An integer written in decimal, with a minus sign when it is negative. -/
def signedNumeralChars : Int → List Char
  | .ofNat n => numeralChars n
  | .negSucc n => '-' :: numeralChars (n + 1)

/-- An integer written in decimal. -/
def signedNumeral (i : Int) : String := String.ofList (signedNumeralChars i)

/-- The value of one digit in a radix of at most 16; letters count in either case. -/
def digitValue? (radix : Nat) (c : Char) : Option Nat :=
  let v :=
    if '0' ≤ c ∧ c ≤ '9' then c.toNat - '0'.toNat
    else if 'a' ≤ c ∧ c ≤ 'f' then c.toNat - 'a'.toNat + 10
    else if 'A' ≤ c ∧ c ≤ 'F' then c.toNat - 'A'.toNat + 10
    else radix
  if v < radix then some v else none

/-- Whether a character is a decimal digit. -/
def isDigit (c : Char) : Bool := '0' ≤ c && c ≤ '9'

/-- The value of a text of digits, most significant first; none if some character is no digit. -/
def digitsValue? (radix : Nat) : Nat → List Char → Option Nat
  | acc, [] => some acc
  | acc, c :: rest =>
    match digitValue? radix c with
    | none => none
    | some d => digitsValue? radix (acc * radix + d) rest

/-- The value of a nonempty text of digits. -/
def value? (radix : Nat) (cs : List Char) : Option Nat :=
  if cs.isEmpty then none else digitsValue? radix 0 cs

/-- What can be wrong with the text of an integer of bounded size. -/
inductive IntegerFault where
  | empty
  | invalidDigit
  | tooLarge
  | tooSmall
  deriving DecidableEq, Repr

/-- The wording of an integer fault. -/
def IntegerFault.message : IntegerFault → String
  | .empty => "cannot parse integer from empty string"
  | .invalidDigit => "invalid digit found in string"
  | .tooLarge => "number too large to fit in target type"
  | .tooSmall => "number too small to fit in target type"

/-- Reads digits up to a limit, faulting at the first character that is no digit or the first
digit that passes the limit. -/
def readBounded (radix limit : Nat) (beyond : IntegerFault) :
    Nat → List Char → Except IntegerFault Nat
  | acc, [] => .ok acc
  | acc, c :: rest =>
    match digitValue? radix c with
    | none => .error .invalidDigit
    | some d =>
      if acc * radix + d ≤ limit then readBounded radix limit beyond (acc * radix + d) rest
      else .error beyond

/-- Reads an optionally signed integer between `-least` and `greatest`. -/
def readInteger (radix least greatest : Nat) : List Char → Except IntegerFault Int
  | [] => .error .empty
  | ['+'] => .error .invalidDigit
  | ['-'] => .error .invalidDigit
  | '+' :: digits => (readBounded radix greatest .tooLarge 0 digits).map Int.ofNat
  | '-' :: digits => (readBounded radix least .tooSmall 0 digits).map fun n => -Int.ofNat n
  | digits => (readBounded radix greatest .tooLarge 0 digits).map Int.ofNat

/-- The least and the greatest second count: a signed integer of 64 bits. -/
def int64Least : Nat := 9223372036854775808

/-- The greatest signed integer of 64 bits. -/
def int64Greatest : Nat := 9223372036854775807

/-- The greatest unsigned integer of 64 bits. -/
def nat64Greatest : Nat := 18446744073709551615

/-- Reads a decimal integer of 64 bits. -/
def readInt64 (cs : List Char) : Except IntegerFault Int :=
  readInteger 10 int64Least int64Greatest cs

end MetricsHarness.Text
