/-!
# Binary64: the numbers a sample holds

A number is a sign and an ordinal. Ordinals number the magnitudes upward from zero: the finite
ones, then infinity, then the patterns that are no number. In the 64-bit interchange format the
ordinal is the low 63 bits, so `ofBits` and `toBits` only split and join.

**The unit.** Every finite magnitude is a whole multiple of 2 to the power -1074, its `units`.
Rounding, printing and comparing are exact arithmetic on units; no rounding mode is hidden in
an operation of the machine.

**Equality of values** (`sameValue`) is equality as numbers, with the two zeros equal and every
no-number equal to every other. It is coarser than equality of patterns.
-/

namespace MetricsHarness

/-- A double: its sign and the ordinal of its magnitude, one of 2 to the power 63. -/
structure Binary64 where
  negative : Bool
  ordinal : Fin 9223372036854775808
  deriving DecidableEq, Repr

namespace Binary64

/-- How many ordinals share an exponent: 2 to the power 52. -/
def block : Nat := 4503599627370496

/-- The ordinal of infinity: one past the greatest finite magnitude. -/
def infinityOrdinal : Nat := 2047 * block

/-- The magnitude of an ordinal, in multiples of 2 to the power -1074. In the first block the
spacing is one unit, and so it is in the second; each further block doubles it. -/
def units (n : Nat) : Nat :=
  if n < block then n else (block + n % block) * Nat.pow 2 (n / block - 1)

/-- How many units make one. -/
def unitsPerOne : Nat := Nat.pow 2 1074

/-- The pattern is no number. -/
def isNaN (x : Binary64) : Bool := infinityOrdinal < x.ordinal.val

/-- The number is plus or minus infinity. -/
def isInfinite (x : Binary64) : Bool := x.ordinal.val == infinityOrdinal

/-- The number is finite. -/
def isFinite (x : Binary64) : Bool := x.ordinal.val < infinityOrdinal

/-- The number is plus or minus zero. -/
def isZero (x : Binary64) : Bool := x.ordinal.val == 0

/-- The number with the given sign and ordinal; ordinals past infinity become infinity. -/
def ofOrdinal (negative : Bool) (n : Nat) : Binary64 :=
  ⟨negative, ⟨min n infinityOrdinal, by
    have : min n infinityOrdinal ≤ infinityOrdinal := Nat.min_le_right ..
    simp only [infinityOrdinal, block] at *; omega⟩⟩

/-- Zero with a sign. -/
def zero (negative : Bool) : Binary64 := ofOrdinal negative 0

/-- Infinity with a sign. -/
def infinity (negative : Bool) : Binary64 := ofOrdinal negative infinityOrdinal

/-- The pattern that reading produces for a text that names no number. -/
def nan (negative : Bool) : Binary64 := ⟨negative, ⟨infinityOrdinal + block / 2, by decide⟩⟩

/-- The bit of the sign in a 64-bit pattern: 2 to the power 63. -/
def signBit : Nat := 9223372036854775808

/-- Splits a 64-bit pattern. -/
def ofBits (bits : UInt64) : Binary64 :=
  ⟨signBit ≤ bits.toNat, ⟨bits.toNat % signBit, Nat.mod_lt _ (by decide)⟩⟩

/-- Joins sign and ordinal to a 64-bit pattern. -/
def toBits (x : Binary64) : UInt64 :=
  UInt64.ofNat ((if x.negative then signBit else 0) + x.ordinal.val)

/-- Equality as numbers: the zeros are equal, and so are any two patterns that are no number. -/
def sameValue (x y : Binary64) : Bool :=
  (x.isNaN && y.isNaN) ||
  (!x.isNaN && !y.isNaN && x.ordinal == y.ordinal && (x.isZero || x.negative == y.negative))

end Binary64

end MetricsHarness
