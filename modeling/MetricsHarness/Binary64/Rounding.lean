import MetricsHarness.Binary64.Basic

/-!
# Rounding: the double nearest to a fraction

`nearestOrdinal num den` is the ordinal of the double nearest to `num / den`, the even ordinal on
a tie. The spacing at a magnitude of `t` units is 2 to the power `log2 t - 52` units, so the
rounded multiple `m` of that spacing has ordinal `m + shift * block`: the carry into the next
block, where `m` is 2 to the power 53, needs no case of its own.

`ofDecimal` reads `digits * 10 ^ exponent`. Exponents far outside the range of doubles are
decided before any power is taken; inside, the fraction is exact.

`mul` and `div` round the exact product and quotient of two finite numbers.
-/

namespace MetricsHarness.Binary64

/-- A quotient rounded to the nearest whole number, the even one on a tie. -/
def roundQuotient (num den : Nat) : Nat :=
  let q := num / den
  let r := num % den
  if 2 * r < den then q
  else if den < 2 * r then q + 1
  else q + q % 2

/-- The ordinal of the double nearest to a fraction; past the finite range it is at least the
ordinal of infinity. -/
def nearestOrdinal (num den : Nat) : Nat :=
  let shift := (num * unitsPerOne / den).log2 - 52
  roundQuotient (num * unitsPerOne) (den * Nat.pow 2 shift) + shift * block

/-- The double nearest to a fraction with a sign. -/
def nearest (negative : Bool) (num den : Nat) : Binary64 :=
  ofOrdinal negative (nearestOrdinal num den)

/-- The double nearest to `digits * 10 ^ exponent`. -/
def ofDecimal (negative : Bool) (digits : Nat) (exponent : Int) : Binary64 :=
  if digits = 0 then zero negative
  else if 310 < exponent then infinity negative
  else if exponent < -(400 + (digits.log2 : Int)) then zero negative
  else match exponent with
    | .ofNat e => nearest negative (digits * Nat.pow 10 e) 1
    | .negSucc e => nearest negative digits (Nat.pow 10 (e + 1))

/-- The double nearest to a natural number. -/
def ofNat (n : Nat) : Binary64 := nearest false n 1

/-- The double nearest to the product of two finite numbers. -/
def mul (x y : Binary64) : Binary64 :=
  nearest (x.negative != y.negative) (units x.ordinal * units y.ordinal)
    (unitsPerOne * unitsPerOne)

/-- The double nearest to the quotient of two finite numbers, the second not zero. -/
def div (x y : Binary64) : Binary64 :=
  nearest (x.negative != y.negative) (units x.ordinal) (units y.ordinal)

end MetricsHarness.Binary64
