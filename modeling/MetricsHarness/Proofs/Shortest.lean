import MetricsHarness.Binary64.Shortest
import MetricsHarness.Proofs.Numerals
import MetricsHarness.Proofs.Rounding

/-!
# The shortest decimal of a double

The search for the shortest decimal tries one grid of decimals after the other and takes what reads
back. For every finite magnitude but zero it comes to an end: the seventeenth grid is finer than the
magnitudes are (`candidate?_isSome_of_fine`). So what is found has at most seventeen digits and
reads back (`shortest_readsBack`, `shortest_le`).
-/

namespace MetricsHarness.Binary64

open Text

/-! ## The leading exponent -/

theorem lt_ten_pow_digitCount (m : Nat) : m < 10 ^ digitCount m :=
  (Nat.length_toDigits_le_iff (by decide) Nat.length_toDigits_pos).mp (Nat.le_refl _)

theorem ten_pow_digitCount_le {m : Nat} (pos : 0 < m) : 10 ^ (digitCount m - 1) ≤ m := by
  rcases Nat.eq_zero_or_pos (digitCount m - 1) with zero | more
  · rwa [zero, Nat.pow_zero]
  · refine Nat.le_of_not_lt fun lt => ?_
    have := (Nat.length_toDigits_le_iff (by decide) more).mpr lt
    have count : (Nat.toDigits 10 m).length = digitCount m := rfl
    omega

/-- The digits of a quotient tell between which powers of ten it is. -/
theorem digitCount_div {num den : Nat} (pos : 0 < den) (whole : den ≤ num) :
    ∃ s, digitCount (num / den) = s + 1 ∧ (10 : ℚ) ^ s * den ≤ num ∧
      (num : ℚ) < 10 ^ (s + 1) * den := by
  have count : 0 < digitCount (num / den) := Nat.length_toDigits_pos
  obtain ⟨s, hs⟩ : ∃ s, digitCount (num / den) = s + 1 := ⟨_, (Nat.sub_add_cancel count).symm⟩
  have least := ten_pow_digitCount_le (Nat.div_pos whole pos)
  have greatest := lt_ten_pow_digitCount (num / den)
  rw [Nat.le_div_iff_mul_le pos, hs, Nat.add_sub_cancel] at least
  rw [Nat.div_lt_iff_lt_mul pos, hs] at greatest
  exact ⟨s, hs, by exact_mod_cast least, by exact_mod_cast greatest⟩

/-- The leading exponent of a fraction is that of the greatest power of ten that is not greater. -/
theorem leadingExponent_spec {num den : Nat} (posNum : 0 < num) (posDen : 0 < den) :
    (10 : ℚ) ^ leadingExponent num den ≤ num / den ∧
      (num / den : ℚ) < 10 ^ (leadingExponent num den + 1) := by
  have denQ : (0 : ℚ) < den := by exact_mod_cast posDen
  have numQ : (0 : ℚ) < num := by exact_mod_cast posNum
  unfold leadingExponent
  split_ifs with whole
  · -- the digits before the point
    obtain ⟨s, count, least, greatest⟩ := digitCount_div posDen whole
    rw [count, Nat.cast_succ, add_sub_cancel_right, le_div_iff₀ denQ, div_lt_iff₀ denQ]
    exact ⟨by exact_mod_cast least, by exact_mod_cast greatest⟩
  · -- the zeros behind the point
    obtain ⟨s, count, least, greatest⟩ := digitCount_div posNum (Nat.le_of_not_le whole)
    have pow : (0 : ℚ) < 10 ^ s := by positivity
    simp only [count, Nat.add_sub_cancel, Nat.pow_eq]
    split_ifs with exact
    · have value : (num : ℚ) / den = 10 ^ (-(s : Int)) := by
        have product : (num : ℚ) * 10 ^ s = den := by exact_mod_cast exact
        rw [← product, zpow_neg, zpow_natCast]
        field_simp
      rw [value]
      exact ⟨le_refl _, zpow_lt_zpow_right₀ (by norm_num) (by omega)⟩
    · have below : (10 : ℚ) ^ s * num < den := lt_of_le_of_ne least fun eq => exact (by
        rw [mul_comm] at eq
        exact_mod_cast eq)
      rw [show -((s : Int) + 1) + 1 = -s by ring, show -((s : Int) + 1) = -((s + 1 : Nat) : Int) by
        push_cast; ring, zpow_neg, zpow_neg, zpow_natCast, zpow_natCast, inv_le_iff_one_le_mul₀
        (by positivity), lt_inv_comm₀ (by positivity) pow]
      constructor
      · rw [div_mul_eq_mul_div, le_div_iff₀ denQ]
        linarith
      · rw [inv_div, lt_div_iff₀ numQ]
        exact below

/-! ## Candidates -/

/-- The decimal as a rational. -/
def Digits.value (d : Digits) : ℚ := d.digits * 10 ^ d.exponent

/-- What reads back is read as the magnitude, with either sign. -/
theorem ofDecimal_of_readsBack {n : Nat} {d : Digits} (h : readsBack n d = true)
    (negative : Bool) : ofDecimal negative d.digits d.exponent = ofOrdinal negative n := by
  rw [readsBack, beq_iff_eq, ofDecimal_eq] at h
  rw [ofDecimal_eq]
  have same : min (ordinalNear (d.digits * 10 ^ d.exponent)) infinityOrdinal = n := h
  simp only [ofOrdinal, ← same, Nat.min_assoc, Nat.min_self]

/-- What is close to a finite magnitude reads back as it. -/
theorem readsBack_of_close {n : Nat} (finite : n < infinityOrdinal) {d : Digits}
    (close : |d.value - magnitude n| * 2 ^ 54 < magnitude n) : readsBack n d = true := by
  rw [readsBack, beq_iff_eq, ofDecimal_eq, ← Digits.value, ordinalNear_of_close close]
  exact Nat.min_eq_left finite.le

theorem overPowerOfTen_spec (num : Nat) {den : Nat} (pos : 0 < den) (exponent : Int) :
    0 < (overPowerOfTen num den exponent).2 ∧
      ((overPowerOfTen num den exponent).1 / (overPowerOfTen num den exponent).2 : ℚ) =
        num / den / 10 ^ exponent := by
  cases exponent with
  | ofNat e =>
    refine ⟨Nat.mul_pos pos (Nat.pow_pos (by decide)), ?_⟩
    simp only [overPowerOfTen, Int.ofNat_eq_natCast, zpow_natCast, Nat.pow_eq]
    push_cast
    rw [div_div]
  | negSucc e =>
    refine ⟨pos, ?_⟩
    simp only [overPowerOfTen, zpow_negSucc, Nat.pow_eq]
    push_cast
    rw [div_inv_eq_mul, div_mul_eq_mul_div]

section Candidates

variable (tie : Tie) (n : Nat) (exponent : Int)

/-- The greatest decimal of a grid that is not greater than a magnitude. -/
def below : Digits :=
  let (num, den) := overPowerOfTen (units n) unitsPerOne exponent
  ⟨num / den, exponent⟩

/-- The decimal of a grid behind `below`. -/
def above : Digits := ⟨(below n exponent).digits + 1, exponent⟩

/-- The candidate is one of the two neighbours, and reads back. -/
theorem candidate?_mem {d : Digits} (h : candidate? tie n exponent = some d) :
    (d = below n exponent ∨ d = above n exponent) ∧ 0 < d.digits ∧ readsBack n d = true := by
  unfold candidate? at h
  unfold above below
  generalize overPowerOfTen (units n) unitsPerOne exponent = fraction at h ⊢
  obtain ⟨num, den⟩ := fraction
  dsimp only at h ⊢
  have high : 0 < num / den + 1 := Nat.succ_pos _
  cases tie <;> grind

theorem candidate?_isSome
    (h : 0 < (below n exponent).digits ∧ readsBack n (below n exponent) = true ∨
      readsBack n (above n exponent) = true) : (candidate? tie n exponent).isSome = true := by
  unfold candidate?
  unfold above below at h
  generalize overPowerOfTen (units n) unitsPerOne exponent = fraction at h ⊢
  obtain ⟨num, den⟩ := fraction
  dsimp only at h ⊢
  cases tie <;> grind

end Candidates

/-! ## Grids -/

section Grids

variable {n : Nat}

/-- A power of ten counted on a finer grid. -/
theorem ten_zpow_split (leading : Int) (k : Nat) :
    (10 : ℚ) ^ (leading + 1) = 10 ^ (k + 1) * 10 ^ (leading - k) := by
  rw [← zpow_natCast, ← zpow_add₀ (by norm_num)]
  congr 1
  push_cast
  ring

theorem digits_below (n : Nat) (exponent : Int) :
    (below n exponent).digits = ⌊magnitude n / 10 ^ exponent⌋₊ := by
  have pos : 0 < unitsPerOne := by exact_mod_cast unitsPerOne_pos
  rw [magnitude, ← (overPowerOfTen_spec (units n) pos exponent).2, Nat.floor_div_eq_div]
  rfl

/-- A grid that is finer than the magnitudes are holds a decimal that reads back. -/
theorem candidate?_isSome_of_fine (tie : Tie) {exponent : Int} (finite : n < infinityOrdinal)
    (fine : (10 : ℚ) ^ 16 * 10 ^ exponent ≤ magnitude n) :
    (candidate? tie n exponent).isSome = true := by
  have grid : (0 : ℚ) < 10 ^ exponent := by positivity
  -- The place of the magnitude on the grid, and the two neighbours around it.
  obtain ⟨q, hq⟩ : ∃ q, magnitude n / 10 ^ exponent = q := ⟨_, rfl⟩
  have value : magnitude n = q * 10 ^ exponent := by rw [← hq, div_mul_cancel₀ _ grid.ne']
  have great : (10 : ℚ) ^ 16 ≤ q := by rwa [← hq, le_div_iff₀ grid]
  have digits : (below n exponent).digits = ⌊q⌋₊ := by rw [digits_below, hq]
  have least := Nat.floor_le (le_trans (by positivity) great)
  have greatest := Nat.lt_floor_add_one q
  have pos : 0 < (below n exponent).digits := by
    rw [digits]
    exact Nat.floor_pos.mpr (le_trans (by norm_num) great)
  have distance (d : Digits) (on : d.exponent = exponent) (near : 2 * |(d.digits : ℚ) - q| ≤ 1) :
      readsBack n d = true := by
    refine readsBack_of_close finite ?_
    rw [Digits.value, on, value, ← sub_mul, abs_mul, abs_of_pos grid, mul_right_comm]
    refine mul_lt_mul_of_pos_right ?_ grid
    linarith
  refine candidate?_isSome tie n exponent ?_
  rcases le_or_gt (2 * (q - ⌊q⌋₊)) 1 with low | high
  · refine .inl ⟨pos, distance _ rfl ?_⟩
    rw [digits, abs_of_nonpos (by linarith)]
    linarith
  · refine .inr (distance _ rfl ?_)
    have up : ((above n exponent).digits : ℚ) = ⌊q⌋₊ + 1 := by
      rw [above, digits]
      push_cast
      rfl
    rw [up, abs_of_nonneg (by linarith)]
    linarith

/-- What the search finds is the candidate of one of its grids. -/
theorem exists_grid_of_searchGrids {tie : Tie} {leading : Int} {count fuel : Nat} {d : Digits}
    (h : searchGrids tie n leading count fuel = some d) :
    ∃ k < count + fuel, candidate? tie n (leading - k) = some d := by
  induction fuel generalizing count with
  | zero => cases h
  | succ fuel ih =>
    rw [searchGrids] at h
    split at h
    · next found =>
      cases h
      exact ⟨count, by omega, found⟩
    · obtain ⟨k, lt, found⟩ := ih h
      exact ⟨k, by omega, found⟩

/-- The search finds something if one of its grids has a candidate. -/
theorem searchGrids_isSome (tie : Tie) {leading : Int} {count fuel k : Nat} (least : count ≤ k)
    (most : k < count + fuel) (h : (candidate? tie n (leading - k)).isSome = true) :
    (searchGrids tie n leading count fuel).isSome = true := by
  induction fuel generalizing count with
  | zero => omega
  | succ fuel ih =>
    rw [searchGrids]
    split
    · rfl
    · next none =>
      rcases Nat.eq_or_lt_of_le least with rfl | later
      · rw [none] at h
        cases h
      · exact ih later (by omega)

theorem leadingExponent_magnitude (pos : 0 < n) :
    (10 : ℚ) ^ leadingExponent (units n) unitsPerOne ≤ magnitude n ∧
      magnitude n < 10 ^ (leadingExponent (units n) unitsPerOne + 1) :=
  leadingExponent_spec (units_pos pos) (by exact_mod_cast unitsPerOne_pos)

variable (tie : Tie) (pos : 0 < n) (finite : n < infinityOrdinal)
include pos finite

/-- The shortest decimal is the candidate of one of the grids of up to seventeen digits. -/
theorem exists_grid_of_shortest : ∃ k : Nat, k < 17 ∧
    candidate? tie n (leadingExponent (units n) unitsPerOne - k) = some (shortest tie n) := by
  obtain ⟨least, -⟩ := leadingExponent_magnitude pos
  have fine : (10 : ℚ) ^ 16 * 10 ^ (leadingExponent (units n) unitsPerOne - (16 : Nat)) ≤
      magnitude n := by
    rw [zpow_sub₀ (by norm_num), zpow_natCast, mul_div_cancel₀ _ (by norm_num)]
    exact least
  have found := searchGrids_isSome tie (Nat.zero_le 16) (show 16 < 0 + 17 by decide)
    (candidate?_isSome_of_fine tie finite fine)
  obtain ⟨d, eq⟩ := Option.isSome_iff_exists.mp found
  obtain ⟨k, lt, grid⟩ := exists_grid_of_searchGrids eq
  refine ⟨k, by omega, grid.trans ?_⟩
  rw [shortest, eq, Option.getD_some]

theorem shortest_readsBack : readsBack n (shortest tie n) = true := by
  obtain ⟨k, -, grid⟩ := exists_grid_of_shortest tie pos finite
  exact (candidate?_mem tie n _ grid).2.2

theorem shortest_pos : 0 < (shortest tie n).digits := by
  obtain ⟨k, -, grid⟩ := exists_grid_of_shortest tie pos finite
  exact (candidate?_mem tie n _ grid).2.1

/-- The shortest decimal has at most seventeen digits, or is a power of ten. -/
theorem shortest_le : (shortest tie n).digits ≤ 10 ^ 17 := by
  obtain ⟨k, lt, grid⟩ := exists_grid_of_shortest tie pos finite
  obtain ⟨neighbour, -, -⟩ := candidate?_mem tie n _ grid
  obtain ⟨-, greatest⟩ := leadingExponent_magnitude pos
  have floor : (below n (leadingExponent (units n) unitsPerOne - k)).digits < 10 ^ (k + 1) := by
    rw [ten_zpow_split _ k] at greatest
    rw [digits_below, Nat.floor_lt (div_nonneg (magnitude_nonneg n) (by positivity)),
      div_lt_iff₀ (by positivity)]
    exact_mod_cast greatest
  have power : 10 ^ (k + 1) ≤ 10 ^ 17 := Nat.pow_le_pow_right (by decide) (by omega)
  rcases neighbour with eq | eq
  · rw [eq]
    exact (floor.trans_le power).le
  · rw [eq]
    exact Nat.succ_le_of_lt (floor.trans_le power)

end Grids

end MetricsHarness.Binary64
