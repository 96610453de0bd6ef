import MetricsHarness.Binary64.Rounding
import MetricsHarness.Text.Numeral

/-!
# Reading a double from text

The grammar: an optional sign, then digits with at most one point among or around them (at least
one digit), then optionally `e` or `E` with an optionally signed exponent; or, in any letter
case, `nan`, `inf` or `infinity` after the sign. The value is the double nearest to the decimal
written, ties to even; texts past the finite range read as infinity.
-/

namespace MetricsHarness.Binary64

open Text

/-- What can be wrong with the text of a number. -/
inductive Fault where
  | empty
  | invalid
  deriving DecidableEq, Repr

/-- The wording of a fault. -/
def Fault.message : Fault → String
  | .empty => "cannot parse float from empty string"
  | .invalid => "invalid float literal"

/-- A decimal read from text: its digits as one number, and the power of ten they count. -/
structure Decimal where
  digits : Nat
  exponent : Int
  deriving DecidableEq, Repr

/-- The exponent part of a decimal: nothing, or `e` with an optionally signed numeral. -/
def readExponent? : List Char → Option Int
  | [] => some 0
  | c :: rest =>
    if c = 'e' ∨ c = 'E' then
      match rest with
      | '+' :: digits => (value? 10 digits).map Int.ofNat
      | '-' :: digits => (value? 10 digits).map fun n => -Int.ofNat n
      | digits => (value? 10 digits).map Int.ofNat
    else none

/-- Reads an unsigned decimal. -/
def readDecimal? (cs : List Char) : Option Decimal :=
  let whole := cs.takeWhile isDigit
  let afterWhole := cs.dropWhile isDigit
  let (fraction, tail) := match afterWhole with
    | '.' :: rest => (rest.takeWhile isDigit, rest.dropWhile isDigit)
    | rest => ([], rest)
  match value? 10 (whole ++ fraction), readExponent? tail with
  | some digits, some exponent => some ⟨digits, exponent - fraction.length⟩
  | _, _ => none

/-- Whether a text spells a word, letters counting in either case. -/
def spells (word : String) (cs : List Char) : Bool := cs.map Char.toLower == word.toList

/-- Reads what follows the sign. -/
def readUnsigned (negative : Bool) (cs : List Char) : Except Fault Binary64 :=
  match readDecimal? cs with
  | some d => .ok (ofDecimal negative d.digits d.exponent)
  | none =>
    if spells "nan" cs then .ok (nan negative)
    else if spells "inf" cs || spells "infinity" cs then .ok (infinity negative)
    else .error .invalid

/-- Reads a double. -/
def read : List Char → Except Fault Binary64
  | [] => .error .empty
  | '+' :: rest => readUnsigned false rest
  | '-' :: rest => readUnsigned true rest
  | rest => readUnsigned false rest

end MetricsHarness.Binary64
