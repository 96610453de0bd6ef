import Mathlib.Algebra.Order.Field.Power
import Mathlib.Algebra.Order.Floor.Semifield
import Mathlib.Data.Rat.Floor
import Mathlib.Tactic.FieldSimp
import Mathlib.Tactic.Linarith
import Mathlib.Tactic.NormNum
import Mathlib.Tactic.Positivity
import Mathlib.Tactic.Ring
import MetricsHarness.Binary64.Rounding

/-!
# The double nearest to a rational

Rounding works on a numerator and a denominator, but what it answers depends on their quotient
alone. `ordinalNear` is the ordinal nearest to a rational, and every way to round is an instance of
it: fractions (`nearestOrdinal_eq`), decimals (`ofDecimal_eq`), products and quotients (`mul_eq`,
`div_eq`). So two texts of one decimal read as the same double, however their digits are laid out.

Two laws are all that reading and writing need. A magnitude is nearest to itself
(`ordinalNear_magnitude`), and it is nearest to all that is closer to it than one part in 2 to the
power 54 (`ordinalNear_of_close`): there is no other magnitude so near, not even at the bottom of a
block, where those below are twice as dense as those above.
-/

namespace MetricsHarness.Binary64

/-! ## The nearest whole number -/

/-- The whole number nearest to a rational that is not negative, the even one on a tie. -/
def nearestWhole (x : ℚ) : Nat :=
  let below := ⌊x⌋₊
  if 2 * (x - below) < 1 then below
  else if 1 < 2 * (x - below) then below + 1
  else below + below % 2

/-- A quotient is rounded as the rational that it is. -/
theorem roundQuotient_eq {den : Nat} (pos : 0 < den) (num : Nat) :
    roundQuotient num den = nearestWhole (num / den) := by
  have posQ : (0 : ℚ) < den := by exact_mod_cast pos
  have split : (num : ℚ) = den * (num / den : Nat) + (num % den : Nat) := by
    exact_mod_cast (Nat.div_add_mod num den).symm
  have part : 2 * ((num : ℚ) / den - (num / den : Nat)) = (2 * (num % den) : Nat) / den := by
    rw [split]
    push_cast
    field_simp
    ring
  have less : ((2 * (num % den) : Nat) : ℚ) / den < 1 ↔ 2 * (num % den) < den := by
    rw [div_lt_one posQ, Nat.cast_lt]
  have more : 1 < ((2 * (num % den) : Nat) : ℚ) / den ↔ den < 2 * (num % den) := by
    rw [one_lt_div posQ, Nat.cast_lt]
  simp only [roundQuotient, nearestWhole, Nat.floor_div_eq_div, part, less, more]

/-- What is closer to a whole number than a half is rounded to it. -/
theorem nearestWhole_of_close {x : ℚ} {n : Nat} (h : 2 * |x - n| < 1) : nearestWhole x = n := by
  obtain ⟨above, below⟩ := abs_lt.mp (show |x - n| < 1 / 2 by linarith)
  rcases le_or_gt (n : ℚ) x with le | gt
  · have floor : ⌊x⌋₊ = n := (Nat.floor_eq_iff (le_trans n.cast_nonneg le)).mpr ⟨le, by linarith⟩
    rw [nearestWhole, floor, if_pos (by linarith)]
  · -- just below a whole number that is not zero
    cases n with
    | zero =>
      have floor : ⌊x⌋₊ = 0 := Nat.floor_of_nonpos (by exact_mod_cast gt.le)
      rw [nearestWhole, floor, if_pos (by push_cast at gt ⊢; linarith)]
    | succ n =>
      push_cast at above gt
      have floor : ⌊x⌋₊ = n :=
        (Nat.floor_eq_iff (by linarith [n.cast_nonneg (α := ℚ)])).mpr ⟨by linarith, gt⟩
      rw [nearestWhole, floor, if_neg (by linarith), if_pos (by linarith)]

/-- A whole number below is still below after rounding. -/
theorem le_nearestWhole {x : ℚ} {n : Nat} (h : (n : ℚ) ≤ x) : n ≤ nearestWhole x := by
  have floor : n ≤ ⌊x⌋₊ := Nat.le_floor h
  unfold nearestWhole
  dsimp only
  split_ifs <;> omega

/-! ## Magnitudes -/

/-- A block has as many doubles as there are significands. -/
theorem block_eq : block = 2 ^ 52 := by decide

/-- The magnitude of an ordinal. -/
def magnitude (n : Nat) : ℚ := units n / unitsPerOne

/-- The exponent is a variable here, so that nothing evaluates the power. -/
theorem unitsPerOne_eq {k : Nat} (h : k = 1074) : (unitsPerOne : ℚ) = 2 ^ k := by
  unfold unitsPerOne
  rw [← h, Nat.pow_eq, Nat.cast_pow, Nat.cast_ofNat]

theorem unitsPerOne_pos : (0 : ℚ) < unitsPerOne := by
  obtain ⟨k, h⟩ : ∃ k, k = 1074 := ⟨_, rfl⟩
  rw [unitsPerOne_eq h]
  positivity

/-- A magnitude is its units, in units. -/
theorem magnitude_mul_unitsPerOne (n : Nat) : magnitude n * unitsPerOne = units n :=
  div_mul_cancel₀ _ unitsPerOne_pos.ne'

/-- In a block the units of an ordinal are a multiple of the spacing there; the block behind it
begins where it ends. -/
theorem units_add {m : Nat} (s : Nat) (h : block ≤ m) (h' : m ≤ 2 * block) :
    units (m + s * block) = m * 2 ^ s := by
  have pos : 0 < block := by decide
  rcases Nat.lt_or_eq_of_le h' with lt | rfl
  · have quotient : (m + s * block) / block = s + 1 := by
      rw [Nat.add_mul_div_right _ _ pos, Nat.div_eq_of_lt_le (k := 1) (by omega) (by omega)]
      omega
    have rest : block + (m + s * block) % block = m := by
      rw [Nat.add_mul_mod_self_right, Nat.mod_eq_sub_mod h, Nat.mod_eq_of_lt (by omega)]
      omega
    rw [units, if_neg (by omega), quotient, rest, Nat.add_sub_cancel, Nat.pow_eq]
  · have quotient : (2 * block + s * block) / block = s + 2 := by
      rw [← Nat.add_mul, Nat.mul_div_cancel _ pos, Nat.add_comm]
    have rest : (2 * block + s * block) % block = 0 := by
      rw [← Nat.add_mul, Nat.mul_mod_left]
    rw [units, if_neg (by omega), quotient, rest, Nat.add_zero, Nat.pow_eq,
      show s + 2 - 1 = s + 1 from rfl, Nat.pow_succ, Nat.mul_comm (2 ^ s), ← Nat.mul_assoc,
      Nat.mul_comm block]

/-- The least doubles are a unit apart. -/
theorem units_eq_self {m : Nat} (h : m ≤ 2 * block) : units m = m := by
  rcases Nat.lt_or_ge m block with lt | ge
  · rw [units, if_pos lt]
  · simpa using units_add 0 ge h

/-- Every ordinal is a multiple of a spacing, and a number of blocks. -/
theorem exists_scale (n : Nat) : ∃ m s, n = m + s * block ∧ m < 2 * block ∧
    (s = 0 ∨ block ≤ m) ∧ units n = m * 2 ^ s := by
  rcases Nat.lt_or_ge n (2 * block) with lt | ge
  · exact ⟨n, 0, by omega, lt, .inl rfl, by rw [units_eq_self lt.le, Nat.pow_zero, Nat.mul_one]⟩
  · have pos : 0 < block := by decide
    have split := Nat.div_add_mod n block
    have small := Nat.mod_lt n pos
    have some : 2 ≤ n / block := (Nat.le_div_iff_mul_le pos).mpr ge
    have eq : n = block + n % block + (n / block - 1) * block := by
      rw [Nat.sub_mul, Nat.mul_comm (n / block)]
      have := Nat.mul_le_mul_left block (Nat.le_of_succ_le some)
      omega
    refine ⟨_, _, eq, by omega, .inr (Nat.le_add_right _ _), ?_⟩
    conv_lhs => rw [eq]
    exact units_add _ (Nat.le_add_right _ _) (by omega)

/-! ## The nearest ordinal -/

/-- The ordinal of the magnitude nearest to a rational, the even one on a tie. -/
def ordinalNear (x : ℚ) : Nat :=
  let shift := ⌊x * unitsPerOne⌋₊.log2 - 52
  nearestWhole (x * unitsPerOne / 2 ^ shift) + shift * block

/-- A fraction is rounded as the rational that it is. -/
theorem nearestOrdinal_eq {den : Nat} (pos : 0 < den) (num : Nat) :
    nearestOrdinal num den = ordinalNear (num / den) := by
  have units : (num : ℚ) / den * unitsPerOne = (num * unitsPerOne : Nat) / (den : ℚ) := by
    push_cast
    ring
  have floor : ⌊((num * unitsPerOne : Nat) : ℚ) / den⌋₊ = num * unitsPerOne / den :=
    Nat.floor_div_eq_div _ _
  unfold nearestOrdinal ordinalNear
  dsimp only
  rw [units, floor, Nat.pow_eq, roundQuotient_eq (Nat.mul_pos pos (Nat.two_pow_pos _))]
  congr 2
  push_cast
  rw [div_div]

/-- A rational between the bounds of a spacing is rounded to a multiple of it. -/
theorem ordinalNear_of_scale {x : ℚ} {s : Nat} (small : x * unitsPerOne < 2 ^ (53 + s))
    (great : s = 0 ∨ 2 ^ (52 + s) ≤ x * unitsPerOne) :
    ordinalNear x = nearestWhole (x * unitsPerOne / 2 ^ s) + s * block := by
  have shift : ⌊x * unitsPerOne⌋₊.log2 - 52 = s := by
    have lt : ⌊x * unitsPerOne⌋₊ < 2 ^ (53 + s) :=
      (Nat.floor_lt' (Nat.two_pow_pos _).ne').mpr (by exact_mod_cast small)
    rcases great with rfl | great
    · by_cases zero : ⌊x * unitsPerOne⌋₊ = 0
      · rw [zero, Nat.log2_zero]
      · have := (Nat.log2_lt zero).mpr lt
        omega
    · have le : 2 ^ (52 + s) ≤ ⌊x * unitsPerOne⌋₊ := Nat.le_floor (by exact_mod_cast great)
      have some : ⌊x * unitsPerOne⌋₊ ≠ 0 := fun zero => by
        have := Nat.two_pow_pos (52 + s)
        omega
      have := (Nat.log2_lt some).mpr lt
      have := (Nat.le_log2 some).mpr le
      omega
  unfold ordinalNear
  dsimp only
  rw [shift]

/-- A multiple of a spacing is nearest to what is closer to it than half the spacing. -/
theorem ordinalNear_of_near {x : ℚ} {m s : Nat} (small : x * unitsPerOne < 2 ^ (53 + s))
    (great : s = 0 ∨ 2 ^ (52 + s) ≤ x * unitsPerOne)
    (near : 2 * |x * unitsPerOne - m * 2 ^ s| < 2 ^ s) : ordinalNear x = m + s * block := by
  have pos : (0 : ℚ) < 2 ^ s := by positivity
  have quotient : x * unitsPerOne / 2 ^ s - m = (x * unitsPerOne - m * 2 ^ s) / 2 ^ s := by
    rw [sub_div, mul_div_cancel_right₀ _ pos.ne']
  rw [ordinalNear_of_scale small great, nearestWhole_of_close]
  rw [quotient, abs_div, abs_of_pos pos, ← mul_div_assoc, div_lt_one pos]
  exact near

/-- Just below the bottom of a block, the magnitude there counts as the top of the block before. -/
theorem ordinalNear_of_below {x : ℚ} {s : Nat} (under : x * unitsPerOne < 2 ^ (52 + (s + 1)))
    (close : |x * unitsPerOne - 2 ^ 52 * 2 ^ (s + 1)| * 2 ^ 54 < 2 ^ 52 * 2 ^ (s + 1)) :
    ordinalNear x = block + (s + 1) * block := by
  have pos : (0 : ℚ) < 2 ^ s := by positivity
  have double : ((2 * block : Nat) : ℚ) = 2 ^ 53 := by
    rw [block_eq]
    norm_num
  have top : (2 : ℚ) ^ 52 * 2 ^ (s + 1) = 2 ^ 53 * 2 ^ s := by ring
  rw [top] at close
  have half : 2 * |x * unitsPerOne - 2 ^ 53 * 2 ^ s| < 2 ^ s := by nlinarith
  obtain ⟨above, -⟩ := abs_lt.mp (show |x * unitsPerOne - 2 ^ 53 * 2 ^ s| < 2 ^ s by
    linarith [abs_nonneg (x * unitsPerOne - 2 ^ 53 * 2 ^ s)])
  rw [show block + (s + 1) * block = 2 * block + s * block by ring]
  refine ordinalNear_of_near ?_ (.inr ?_) ?_
  · rwa [show 53 + s = 52 + (s + 1) by ring]
  · rw [pow_add]
    linarith
  · rw [double]
    exact half

/-- A magnitude is nearest to what is closer to it than one part in 2 to the power 54. -/
theorem ordinalNear_of_close {x : ℚ} {n : Nat}
    (close : |x - magnitude n| * 2 ^ 54 < magnitude n) : ordinalNear x = n := by
  obtain ⟨m, s, rfl, lt, bottom, value⟩ := exists_scale n
  -- Everything is measured in units.
  have valueQ : magnitude (m + s * block) * unitsPerOne = m * 2 ^ s := by
    rw [magnitude_mul_unitsPerOne, value]
    push_cast
    rfl
  have close : |x * unitsPerOne - m * 2 ^ s| * 2 ^ 54 < m * 2 ^ s := by
    rw [← valueQ, ← sub_mul, abs_mul, abs_of_pos unitsPerOne_pos, mul_right_comm]
    exact mul_lt_mul_of_pos_right close unitsPerOne_pos
  have pos : (0 : ℚ) < 2 ^ s := by positivity
  have top : (m : ℚ) + 1 ≤ 2 ^ 53 := by
    rw [block_eq] at lt
    exact_mod_cast lt
  have half : 2 * |x * unitsPerOne - m * 2 ^ s| < 2 ^ s := by nlinarith
  obtain ⟨above, below⟩ := abs_lt.mp (show |x * unitsPerOne - m * 2 ^ s| < 2 ^ s / 2 by linarith)
  have small : x * unitsPerOne < 2 ^ (53 + s) := by
    rw [pow_add]
    nlinarith
  rcases bottom with rfl | bottom
  · exact ordinalNear_of_near small (.inl rfl) half
  rw [block_eq] at bottom
  have bottomQ : (2 : ℚ) ^ 52 ≤ m := by exact_mod_cast bottom
  rcases le_or_gt ((2 : ℚ) ^ (52 + s)) (x * unitsPerOne) with great | under
  · exact ordinalNear_of_near small (.inr great) half
  cases s with
  | zero => exact ordinalNear_of_near small (.inl rfl) half
  | succ s =>
    have last : m = block := by
      have next : (m : ℚ) < 2 ^ 52 + 1 := by
        rw [pow_add] at under
        nlinarith
      rw [block_eq]
      exact Nat.le_antisymm (Nat.le_of_lt_succ (by exact_mod_cast next)) bottom
    have cast : (m : ℚ) = 2 ^ 52 := by
      rw [last]
      exact_mod_cast block_eq
    rw [cast] at close
    rw [last]
    exact ordinalNear_of_below under close

theorem magnitude_nonneg (n : Nat) : 0 ≤ magnitude n :=
  div_nonneg (Nat.cast_nonneg _) unitsPerOne_pos.le

/-- Only zero has no units. -/
theorem units_pos {n : Nat} (pos : 0 < n) : 0 < units n := by
  obtain ⟨m, s, rfl, -, bottom, value⟩ := exists_scale n
  have some : 0 < m := by
    rcases bottom with rfl | bottom
    · omega
    · exact lt_of_lt_of_le (by decide) bottom
  rw [value]
  exact Nat.mul_pos some (Nat.two_pow_pos s)

/-- Only zero has no magnitude. -/
theorem magnitude_pos {n : Nat} (pos : 0 < n) : 0 < magnitude n :=
  div_pos (Nat.cast_pos.mpr (units_pos pos)) unitsPerOne_pos

/-- Zero is near zero. -/
theorem ordinalNear_zero : ordinalNear 0 = 0 := by
  have zero : (0 : ℚ) * unitsPerOne = 0 := zero_mul _
  have near := ordinalNear_of_near (x := 0) (m := 0) (s := 0) (by rw [zero]; positivity) (.inl rfl)
    (by rw [zero]; norm_num)
  rwa [Nat.zero_mul] at near

/-- The magnitude of a double is nearest to that double. -/
theorem ordinalNear_magnitude (n : Nat) : ordinalNear (magnitude n) = n := by
  rcases Nat.eq_zero_or_pos n with rfl | pos
  · have zero : magnitude 0 = 0 := by
      rw [magnitude, units_eq_self (Nat.zero_le _), Nat.cast_zero, zero_div]
    rw [zero, ordinalNear_zero]
  · refine ordinalNear_of_close ?_
    rw [sub_self, abs_zero, zero_mul]
    exact magnitude_pos pos

/-- What is closer to zero than half a unit is rounded to zero. -/
theorem ordinalNear_of_lt {x : ℚ} (nonneg : 0 ≤ x) (h : 2 * (x * unitsPerOne) < 1) :
    ordinalNear x = 0 := by
  have nonneg' : 0 ≤ x * unitsPerOne := mul_nonneg nonneg unitsPerOne_pos.le
  have small : x * unitsPerOne < 2 ^ (53 + 0) := by
    calc x * unitsPerOne < 1 := by linarith
      _ ≤ 2 ^ (53 + 0) := one_le_pow₀ one_le_two
  have half : 2 * |x * unitsPerOne - (0 : Nat) * 2 ^ 0| < 2 ^ 0 := by
    rw [Nat.cast_zero, zero_mul, sub_zero, abs_of_nonneg nonneg', pow_zero]
    exact h
  have near := ordinalNear_of_near small (.inl rfl) half
  rwa [Nat.zero_mul] at near

/-- What has reached a block is not rounded to a place before it. -/
theorem le_ordinalNear {x : ℚ} {s : Nat} (h : 2 ^ (52 + s) ≤ x * unitsPerOne) :
    block + s * block ≤ ordinalNear x := by
  have le : 2 ^ (52 + s) ≤ ⌊x * unitsPerOne⌋₊ := Nat.le_floor (by exact_mod_cast h)
  have some : ⌊x * unitsPerOne⌋₊ ≠ 0 := fun zero => by
    have := Nat.two_pow_pos (52 + s)
    omega
  have log := (Nat.le_log2 some).mpr le
  have whole : block ≤ nearestWhole (x * unitsPerOne / 2 ^ (⌊x * unitsPerOne⌋₊.log2 - 52)) := by
    refine le_nearestWhole ((le_div_iff₀ (by positivity)).mpr ?_)
    have power := Nat.log2_self_le some
    rw [show ⌊x * unitsPerOne⌋₊.log2 = 52 + (⌊x * unitsPerOne⌋₊.log2 - 52) by omega, pow_add,
      ← block_eq] at power
    exact (Nat.le_floor_iff' (Nat.ne_of_gt (Nat.mul_pos (by decide) (Nat.two_pow_pos _)))).mp power
      |>.trans' (by push_cast; exact le_refl _)
  exact Nat.add_le_add whole (Nat.mul_le_mul_right block (by omega))

/-! ## Decimals -/

/-- Beyond the greatest double is infinity. -/
theorem ofOrdinal_of_le {n : Nat} (negative : Bool) (h : infinityOrdinal ≤ n) :
    ofOrdinal negative n = infinity negative := by
  simp only [infinity, ofOrdinal, Nat.min_eq_right h, Nat.min_self]

/-- A power of ten that no double reaches. -/
theorem two_pow_le_ten_pow {k : Nat} (h : k = 1024) : (2 : ℚ) ^ k ≤ 10 ^ 309 := by
  have factor : (2 : ℚ) ^ 93 ≤ 10 ^ 28 := by norm_num
  calc (2 : ℚ) ^ k = (2 ^ 93) ^ 11 * 2 := by
        rw [← pow_mul, ← pow_succ, h]
    _ ≤ (10 ^ 28) ^ 11 * 10 := by gcongr; norm_num
    _ = 10 ^ 309 := by rw [← pow_mul, ← pow_succ]

/-- Decimals with great exponents are past the finite range. -/
theorem infinityOrdinal_le_of_great {digits : Nat} {exponent : Int} (some : digits ≠ 0)
    (great : 310 < exponent) : infinityOrdinal ≤ ordinalNear (digits * 10 ^ exponent) := by
  obtain ⟨e, rfl⟩ := Int.eq_ofNat_of_zero_le (show 0 ≤ exponent by omega)
  obtain ⟨k, hk⟩ : ∃ k, k = 1074 := ⟨_, rfl⟩
  obtain ⟨j, hj⟩ : ∃ j, j = 1024 := ⟨_, rfl⟩
  have bottom : infinityOrdinal = block + 2046 * block := by decide
  have one : (1 : ℚ) ≤ digits := by exact_mod_cast Nat.one_le_iff_ne_zero.mpr some
  have power : (10 : ℚ) ^ 309 ≤ 10 ^ (e : Int) := by
    rw [zpow_natCast]
    exact pow_le_pow_right₀ (by norm_num) (by omega)
  rw [bottom]
  refine le_ordinalNear ?_
  calc (2 : ℚ) ^ (52 + 2046) = 2 ^ j * 2 ^ k := by rw [← pow_add, hj, hk]
    _ ≤ 10 ^ (e : Int) * 2 ^ k := by gcongr; exact (two_pow_le_ten_pow hj).trans power
    _ ≤ digits * 10 ^ (e : Int) * unitsPerOne := by
        rw [unitsPerOne_eq hk]
        gcongr
        exact le_mul_of_one_le_left (by positivity) one

/-- Decimals with small exponents are too small for a double but zero. -/
theorem ordinalNear_of_small {digits : Nat} {exponent : Int}
    (small : exponent < -(400 + (digits.log2 : Int))) :
    ordinalNear (digits * 10 ^ exponent) = 0 := by
  obtain ⟨e, rfl⟩ : ∃ e : Nat, exponent = -(e : Int) := ⟨exponent.natAbs, by omega⟩
  obtain ⟨k, hk⟩ : ∃ k, k = 1074 := ⟨_, rfl⟩
  refine ordinalNear_of_lt (by positivity) ?_
  have digitsQ : (digits : ℚ) < 2 ^ (digits.log2 + 1) := by exact_mod_cast Nat.lt_log2_self
  have power : (2 : ℚ) ^ (digits.log2 + 1) * 2 ^ k * 2 ≤ 10 ^ e :=
    calc (2 : ℚ) ^ (digits.log2 + 1) * 2 ^ k * 2 = 2 ^ (digits.log2 + 1 + k + 1) := by
          rw [← pow_add, ← pow_succ]
      _ ≤ 2 ^ (3 * e) := pow_le_pow_right₀ (by norm_num) (by omega)
      _ = 8 ^ e := by rw [pow_mul]; norm_num
      _ ≤ 10 ^ e := by gcongr; norm_num
  rw [unitsPerOne_eq hk, zpow_neg, zpow_natCast, ← div_eq_mul_inv, div_mul_eq_mul_div,
    mul_div_assoc', div_lt_one (by positivity)]
  refine lt_of_lt_of_le ?_ power
  have posK : (0 : ℚ) < 2 ^ k := by positivity
  nlinarith

/-- A decimal is read as the double nearest to it; the limits of the exponent play no part. -/
theorem ofDecimal_eq (negative : Bool) (digits : Nat) (exponent : Int) :
    ofDecimal negative digits exponent =
      ofOrdinal negative (ordinalNear (digits * 10 ^ exponent)) := by
  unfold ofDecimal
  split_ifs with none great small
  · rw [none, Nat.cast_zero, zero_mul, ordinalNear_zero]
    rfl
  · exact (ofOrdinal_of_le negative (infinityOrdinal_le_of_great none great)).symm
  · rw [ordinalNear_of_small small]
    rfl
  · cases exponent with
    | ofNat e =>
      simp only [nearest, nearestOrdinal_eq Nat.one_pos, Int.ofNat_eq_natCast, zpow_natCast,
        Nat.pow_eq, Nat.cast_mul, Nat.cast_pow, Nat.cast_ofNat, Nat.cast_one, div_one]
    | negSucc e =>
      simp only [nearest, nearestOrdinal_eq (Nat.pow_pos (n := e + 1) (show 0 < 10 by decide)),
        Nat.pow_eq, Nat.cast_pow, Nat.cast_ofNat, zpow_negSucc, div_eq_mul_inv]

/-- The layout of the digits plays no part either. -/
theorem ofDecimal_mul_pow (negative : Bool) (digits k : Nat) (exponent : Int) :
    ofDecimal negative (digits * 10 ^ k) exponent = ofDecimal negative digits (exponent + k) := by
  rw [ofDecimal_eq, ofDecimal_eq, zpow_add₀ (by norm_num), zpow_natCast]
  push_cast
  rw [mul_assoc, mul_comm ((10 : ℚ) ^ k)]

/-! ## Products and quotients -/

/-- A product is rounded once. -/
theorem mul_eq (x y : Binary64) : mul x y =
    ofOrdinal (x.negative != y.negative)
      (ordinalNear (magnitude x.ordinal * magnitude y.ordinal)) := by
  have pos : 0 < unitsPerOne := by exact_mod_cast unitsPerOne_pos
  rw [mul, nearest, nearestOrdinal_eq (Nat.mul_pos pos pos), magnitude, magnitude, div_mul_div_comm]
  push_cast
  rfl

/-- A quotient is the double that is nearest to the exact one. -/
theorem div_eq (x : Binary64) {y : Binary64} (some : 0 < y.ordinal.val) : div x y =
    ofOrdinal (x.negative != y.negative)
      (ordinalNear (magnitude x.ordinal / magnitude y.ordinal)) := by
  rw [div, nearest, nearestOrdinal_eq (units_pos some), magnitude, magnitude,
    div_div_div_cancel_right₀ unitsPerOne_pos.ne']

/-- A natural number is rounded as its digits are. -/
theorem ofNat_eq (n : Nat) : ofNat n = ofDecimal false n 0 := by
  rw [ofDecimal_eq, ofNat, nearest, nearestOrdinal_eq Nat.one_pos, Nat.cast_one, div_one, zpow_zero,
    mul_one]

end MetricsHarness.Binary64
