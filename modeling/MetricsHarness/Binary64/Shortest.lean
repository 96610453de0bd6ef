import MetricsHarness.Binary64.Rounding
import MetricsHarness.Text.Numeral

/-!
# The shortest decimal that reads back

`shortest` finds, for a finite magnitude, the decimal with the fewest digits that rounds to it,
and among those the nearest. For one digit, two digits and so on it looks at the two neighbours
of the magnitude on that decimal grid; the first grid with a hit wins, of two hits the nearer.
An exact tie is a decision of the format that asks (`Tie`).

**Reading back is tested, not argued.** A neighbour counts as a hit when rounding it gives the
ordinal again, so whatever the search returns reads back. Should no grid of seventeen digits hit,
the exact expansion is returned, which reads back as well.
-/

namespace MetricsHarness.Binary64

/-- A positive decimal: digits times a power of ten. -/
structure Digits where
  digits : Nat
  exponent : Int
  deriving DecidableEq, Repr

/-- Which of two equally near candidates is taken. -/
inductive Tie where
  | up
  | toEven
  deriving DecidableEq, Repr

/-- How many decimal digits a number has. -/
def digitCount (n : Nat) : Nat := (Text.numeralChars n).length

/-- The exponent of the leading digit of a positive fraction. -/
def leadingExponent (num den : Nat) : Int :=
  if den ≤ num then (digitCount (num / den) : Int) - 1
  else
    let s := digitCount (den / num) - 1
    if num * Nat.pow 10 s = den then -(s : Int) else -((s : Int) + 1)

/-- A fraction over a power of ten, as numerator and denominator. -/
def overPowerOfTen (num den : Nat) : Int → Nat × Nat
  | .ofNat e => (num, den * Nat.pow 10 e)
  | .negSucc e => (num * Nat.pow 10 (e + 1), den)

/-- Whether a decimal rounds to the magnitude with ordinal `n`. -/
def readsBack (n : Nat) (d : Digits) : Bool :=
  (ofDecimal false d.digits d.exponent).ordinal.val == n

/-- The candidate of the grid of multiples of `10 ^ exponent` for the ordinal `n`: a neighbour of
its magnitude that reads back, the nearer if both do. -/
def candidate? (tie : Tie) (n : Nat) (exponent : Int) : Option Digits :=
  let (num, den) := overPowerOfTen (units n) unitsPerOne exponent
  let low : Digits := ⟨num / den, exponent⟩
  let high : Digits := ⟨num / den + 1, exponent⟩
  let rest := num % den
  let lowHit := 0 < low.digits && readsBack n low
  let highHit := readsBack n high
  if lowHit && highHit then
    if 2 * rest < den then some low
    else if den < 2 * rest then some high
    else match tie with
      | .up => some high
      | .toEven => if low.digits % 2 = 0 then some low else some high
  else if lowHit then some low
  else if highHit then some high
  else none

/-- Tries grids of more and more digits. -/
def searchGrids (tie : Tie) (n : Nat) (leading : Int) : Nat → Nat → Option Digits
  | _, 0 => none
  | count, fuel + 1 =>
    match candidate? tie n (leading - count) with
    | some d => some d
    | none => searchGrids tie n leading (count + 1) fuel

/-- The exact decimal expansion of the magnitude with ordinal `n`. -/
def exactDigits (n : Nat) : Digits := ⟨units n * Nat.pow 5 1074, -1074⟩

/-- The shortest decimal that reads back as the finite, positive magnitude with ordinal `n`. -/
def shortest (tie : Tie) (n : Nat) : Digits :=
  (searchGrids tie n (leadingExponent (units n) unitsPerOne) 0 17).getD (exactDigits n)

end MetricsHarness.Binary64
