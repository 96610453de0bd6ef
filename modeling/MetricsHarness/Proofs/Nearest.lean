import MetricsHarness.Proofs.Comparison
import MetricsHarness.Proofs.Scaling

/-!
# Nothing is nearer

Rounding takes a multiple of the spacing at a magnitude. Here it is shown to take the nearest double
of all, whatever its spacing is (`ordinalNear_nearest`): a magnitude with a finer spacing stands
below the bottom of the block, and the bottom is nearer. Of two doubles that are equally near it
takes the one with the even ordinal.

So a decimal is read as the double nearest to it, as long as that is not past the finite range
(`isNearest_ofDecimal`); whole numbers of 64 bits never are (`isNearest_ofDecimal_whole`).
-/

namespace MetricsHarness.Binary64

/-! ## Whole numbers -/

/-- No whole number is nearer than the one that is rounded to. -/
theorem nearestWhole_nearest {x : ℚ} (nonneg : 0 ≤ x) (k : Nat) :
    |nearestWhole x - x| ≤ |(k : ℚ) - x| ∧
      (|(k : ℚ) - x| = |nearestWhole x - x| → k ≠ nearestWhole x → nearestWhole x % 2 = 0) := by
  have low : (⌊x⌋₊ : ℚ) ≤ x := Nat.floor_le nonneg
  have high : x < ⌊x⌋₊ + 1 := Nat.lt_floor_add_one x
  have other (m : Nat) (apart : k ≠ m) : (k : ℚ) ≠ m := by exact_mod_cast apart
  have distance : (k : ℚ) ≤ ⌊x⌋₊ ∧ |(k : ℚ) - x| = x - k ∨
      (⌊x⌋₊ : ℚ) + 1 ≤ k ∧ |(k : ℚ) - x| = k - x := by
    rcases Nat.lt_or_ge ⌊x⌋₊ k with above | below
    · have above : (⌊x⌋₊ : ℚ) + 1 ≤ k := by exact_mod_cast above
      exact .inr ⟨above, abs_of_nonneg (by linarith)⟩
    · have below : (k : ℚ) ≤ ⌊x⌋₊ := by exact_mod_cast below
      exact .inl ⟨below, by rw [abs_sub_comm]; exact abs_of_nonneg (by linarith)⟩
  unfold nearestWhole
  dsimp only
  split_ifs with less more
  · have here : |(⌊x⌋₊ : ℚ) - x| = x - ⌊x⌋₊ := by
      rw [abs_sub_comm]
      exact abs_of_nonneg (by linarith)
    rw [here]
    rcases distance with ⟨side, away⟩ | ⟨side, away⟩
    · exact ⟨by linarith, fun same apart => absurd (by linarith) (other _ apart)⟩
    · exact ⟨by linarith, fun same => absurd same (by linarith)⟩
  · have here : |((⌊x⌋₊ + 1 : Nat) : ℚ) - x| = ⌊x⌋₊ + 1 - x := by
      push_cast
      exact abs_of_nonneg (by linarith)
    rw [here]
    rcases distance with ⟨side, away⟩ | ⟨side, away⟩
    · exact ⟨by linarith, fun same => absurd same (by linarith)⟩
    · refine ⟨by linarith, fun same apart => absurd ?_ (other _ apart)⟩
      push_cast
      linarith
  · -- half way between two whole numbers
    have half : x - ⌊x⌋₊ = 1 / 2 := by linarith
    have here : |((⌊x⌋₊ + ⌊x⌋₊ % 2 : Nat) : ℚ) - x| = 1 / 2 := by
      rcases Nat.mod_two_eq_zero_or_one ⌊x⌋₊ with even | odd
      · rw [even, Nat.add_zero, abs_sub_comm, half]
        norm_num
      · rw [odd]
        push_cast
        rw [abs_of_nonneg (by linarith)]
        linarith
    rw [here]
    refine ⟨?_, fun _ _ => by omega⟩
    rcases distance with ⟨side, away⟩ | ⟨side, away⟩ <;> linarith

/-! ## Magnitudes -/

/-- The units of a magnitude are a multiple of a spacing, or below where the spacing begins. -/
theorem units_scale (n s : Nat) : (∃ k, units n = k * 2 ^ s) ∨ units n < 2 ^ (52 + s) := by
  obtain ⟨m, j, -, top, -, eq⟩ := exists_scale n
  rw [block_eq] at top
  rcases Nat.lt_or_ge j s with finer | coarser
  · right
    obtain ⟨d, rfl⟩ : ∃ d, s = j + 1 + d := ⟨s - (j + 1), by omega⟩
    calc units n = m * 2 ^ j := eq
      _ < 2 * 2 ^ 52 * 2 ^ j := Nat.mul_lt_mul_of_pos_right top (Nat.two_pow_pos j)
      _ = 2 ^ (52 + (j + 1)) := by ring
      _ ≤ 2 ^ (52 + (j + 1 + d)) := Nat.pow_le_pow_right (by decide) (by omega)
  · left
    refine ⟨m * 2 ^ (j - s), ?_⟩
    rw [eq, Nat.mul_assoc, ← pow_add]
    congr 2
    omega

/-- Distances of magnitudes are compared in units. -/
theorem abs_magnitude_sub (n : Nat) (q : ℚ) :
    |magnitude n - q| * unitsPerOne = |(units n : ℚ) - q * unitsPerOne| := by
  rw [← magnitude_mul_unitsPerOne, ← sub_mul, abs_mul, abs_of_pos unitsPerOne_pos]

/-- The spacing at a rational that is not negative, and the multiple of it that is rounded to. -/
theorem exists_spacing {q : ℚ} (nonneg : 0 ≤ q) : ∃ s : Nat,
    (s = 0 ∨ 2 ^ (52 + s) ≤ q * unitsPerOne) ∧
    ordinalNear q = nearestWhole (q * unitsPerOne / 2 ^ s) + s * block ∧
    units (ordinalNear q) = nearestWhole (q * unitsPerOne / 2 ^ s) * 2 ^ s := by
  obtain ⟨u, hu⟩ : ∃ u, u = q * unitsPerOne := ⟨_, rfl⟩
  have nonneg : 0 ≤ u := hu ▸ mul_nonneg nonneg unitsPerOne_pos.le
  obtain ⟨s, hs⟩ : ∃ s, s = ⌊u⌋₊.log2 - 52 := ⟨_, rfl⟩
  have great : s = 0 ∨ (2 : ℚ) ^ (52 + s) ≤ u := by
    rcases Nat.eq_zero_or_pos s with none | some
    · exact .inl none
    · have nonzero : ⌊u⌋₊ ≠ 0 := by
        intro zero
        rw [zero, Nat.log2_zero] at hs
        omega
      have bottom : 2 ^ (52 + s) ≤ ⌊u⌋₊ := by
        rw [hs, show 52 + (⌊u⌋₊.log2 - 52) = ⌊u⌋₊.log2 by omega]
        exact Nat.log2_self_le nonzero
      exact .inr ((Nat.le_floor_iff nonneg).mp bottom |>.trans' (by push_cast; exact le_rfl))
  have small : u < 2 ^ (53 + s) := by
    have top : ⌊u⌋₊ < 2 ^ (53 + s) :=
      Nat.lt_log2_self.trans_le (Nat.pow_le_pow_right (by decide) (by omega))
    exact_mod_cast (Nat.floor_lt nonneg).mp top
  have pos : (0 : ℚ) < 2 ^ s := by positivity
  have most : nearestWhole (u / 2 ^ s) ≤ 2 * block := by
    refine nearestWhole_le (by decide) ((div_lt_iff₀ pos).mpr ?_)
    calc u < 2 ^ (53 + s) := small
      _ = (2 * block : Nat) * 2 ^ s := by
          rw [block_eq]
          push_cast
          ring
  have near : ordinalNear q = nearestWhole (u / 2 ^ s) + s * block := by
    unfold ordinalNear
    dsimp only
    rw [← hu, hs]
  rw [← hu, near]
  refine ⟨s, great, near ▸ rfl, ?_⟩
  rcases great with rfl | great
  · rw [Nat.zero_mul, Nat.add_zero, units_eq_self most, Nat.pow_zero, Nat.mul_one]
  · refine units_add s (le_nearestWhole ((le_div_iff₀ pos).mpr ?_)) most
    calc (block : ℚ) * 2 ^ s = 2 ^ (52 + s) := by
          rw [block_eq]
          push_cast
          ring
      _ ≤ u := great

/-- No magnitude is nearer than the one that is rounded to, and of two that are equally near it is
the one with the even ordinal. -/
theorem ordinalNear_nearest {q : ℚ} (nonneg : 0 ≤ q) (n : Nat) :
    |magnitude (ordinalNear q) - q| ≤ |magnitude n - q| ∧
      (|magnitude n - q| = |magnitude (ordinalNear q) - q| → n ≠ ordinalNear q →
        ordinalNear q % 2 = 0) := by
  obtain ⟨s, great, near, multiple⟩ := exists_spacing nonneg
  obtain ⟨u, hu⟩ : ∃ u, u = q * unitsPerOne := ⟨_, rfl⟩
  have nonneg : 0 ≤ u := hu ▸ mul_nonneg nonneg unitsPerOne_pos.le
  obtain ⟨m, hm⟩ : ∃ m, m = nearestWhole (u / 2 ^ s) := ⟨_, rfl⟩
  rw [← hu, ← hm] at near multiple
  rw [← hu] at great
  have pos : (0 : ℚ) < 2 ^ s := by positivity
  have scaled (k : Nat) : |((k * 2 ^ s : Nat) : ℚ) - u| = |(k : ℚ) - u / 2 ^ s| * 2 ^ s := by
    rw [← abs_of_pos pos, ← abs_mul, abs_of_pos pos, sub_mul, div_mul_cancel₀ _ pos.ne']
    push_cast
    rfl
  have nearest (k : Nat) := hm ▸ nearestWhole_nearest (div_nonneg nonneg pos.le) k
  -- in units, and for both kinds of magnitudes
  have inUnits : |(units (ordinalNear q) : ℚ) - u| ≤ |(units n : ℚ) - u| ∧
      (|(units n : ℚ) - u| = |(units (ordinalNear q) : ℚ) - u| → n ≠ ordinalNear q →
        ordinalNear q % 2 = 0) := by
    have scale : (∃ k, units n = k * 2 ^ s) ∨ units n < 2 ^ (52 + s) ∧ 2 ^ (52 + s) ≤ u := by
      rcases great with rfl | great
      · exact .inl ⟨units n, (Nat.mul_one _).symm⟩
      · exact (units_scale n s).imp_right fun below => ⟨below, great⟩
    rcases scale with ⟨k, eq⟩ | ⟨below, great⟩
    · rw [multiple, eq, scaled, scaled]
      refine ⟨mul_le_mul_of_nonneg_right (nearest k).1 pos.le, fun same apart => ?_⟩
      have even := (nearest k).2 (mul_right_cancel₀ pos.ne' same) ?_
      · rw [near]
        simp only [block]
        omega
      · rintro rfl
        refine apart (Function.LeftInverse.injective ordinalNear_magnitude ?_)
        rw [magnitude, magnitude, eq, multiple]
    · have bottom : |(block : ℚ) - u / 2 ^ s| * 2 ^ s = u - 2 ^ (52 + s) := by
        have whole : ((block * 2 ^ s : Nat) : ℚ) = 2 ^ (52 + s) := by
          rw [block_eq]
          push_cast
          ring
        rw [← scaled, whole, abs_sub_comm, abs_of_nonneg (by linarith)]
      have below : (units n : ℚ) < 2 ^ (52 + s) := by exact_mod_cast below
      have away : |(units n : ℚ) - u| = u - units n := by
        rw [abs_sub_comm, abs_of_nonneg (by linarith)]
      have farther : |(units (ordinalNear q) : ℚ) - u| < |(units n : ℚ) - u| := by
        rw [multiple, scaled, away]
        have := mul_le_mul_of_nonneg_right (nearest block).1 pos.le
        linarith
      exact ⟨farther.le, fun same => absurd same farther.ne'⟩
  constructor
  · refine le_of_mul_le_mul_right ?_ unitsPerOne_pos
    rw [abs_magnitude_sub, abs_magnitude_sub, ← hu]
    exact inUnits.1
  · intro same
    refine inUnits.2 ?_
    rw [hu, ← abs_magnitude_sub, same, abs_magnitude_sub]

/-! ## Doubles -/

/-- The number that a finite double is. -/
def rational (x : Binary64) : ℚ := if x.negative then -magnitude x.ordinal else magnitude x.ordinal

/-- A double is the one nearest to a number: it is finite, no finite double is nearer, and if one is
as near, its own ordinal is even. -/
structure IsNearest (q : ℚ) (x : Binary64) : Prop where
  finite : x.isFinite = true
  closest (y : Binary64) (finite : y.isFinite = true) : |x.rational - q| ≤ |y.rational - q|
  even (y : Binary64) (finite : y.isFinite = true) (same : |y.rational - q| = |x.rational - q|)
    (other : y.rational ≠ x.rational) : x.ordinal.val % 2 = 0

theorem abs_rational_sub (x : Binary64) {q : ℚ} (nonneg : 0 ≤ q) (negative : Bool) :
    |x.rational - (if negative then -q else q)| =
      if x.negative = negative then |magnitude x.ordinal - q| else magnitude x.ordinal + q := by
  have apart : |magnitude x.ordinal + q| = magnitude x.ordinal + q :=
    abs_of_nonneg (add_nonneg (magnitude_nonneg _) nonneg)
  unfold rational
  cases x.negative <;> cases negative
  · simp
  · simp [apart]
  · rw [← abs_neg]
    simpa [add_comm] using apart
  · rw [← abs_neg]
    simp [neg_add_eq_sub]

/-- The double of the nearest ordinal is nearest, unless that is past the finite range. -/
theorem isNearest_ofOrdinal {q : ℚ} (nonneg : 0 ≤ q) (fits : ordinalNear q < infinityOrdinal)
    (negative : Bool) :
    IsNearest (if negative then -q else q) (ofOrdinal negative (ordinalNear q)) := by
  have ordinal : (ofOrdinal negative (ordinalNear q)).ordinal.val = ordinalNear q :=
    Nat.min_eq_left fits.le
  have zero := ordinalNear_nearest nonneg 0
  rw [magnitude_zero, zero_sub, abs_neg, abs_of_nonneg nonneg] at zero
  have here : |(ofOrdinal negative (ordinalNear q)).rational - (if negative then -q else q)| =
      |magnitude (ordinalNear q) - q| := by
    rw [abs_rational_sub _ nonneg, ordinal]
    exact if_pos rfl
  have finite : (ofOrdinal negative (ordinalNear q)).isFinite = true := by
    rw [isFinite, ordinal]
    exact decide_eq_true fits
  refine ⟨finite, fun y _ => ?_, fun y _ same other => ?_⟩
  · rw [here, abs_rational_sub y nonneg]
    split_ifs
    · exact (ordinalNear_nearest nonneg _).1
    · linarith [zero.1, magnitude_nonneg y.ordinal]
  · rw [ordinal]
    rw [here, abs_rational_sub y nonneg] at same
    split_ifs at same with sign
    · refine (ordinalNear_nearest nonneg _).2 same fun equal => other ?_
      unfold rational
      rw [sign, ordinal, equal]
      rfl
    · -- with the other sign only zero can be as near
      have none : magnitude y.ordinal = 0 := by
        linarith [zero.1, magnitude_nonneg y.ordinal]
      refine zero.2 (by linarith) fun equal => other ?_
      have valued : magnitude (ofOrdinal negative (ordinalNear q)).ordinal = 0 := by
        rw [ordinal, ← equal, magnitude_zero]
      simp [rational, none, valued]

/-- A decimal that does not pass the finite range is read as the double nearest to it. -/
theorem isNearest_ofDecimal {digits : Nat} {exponent : Int}
    (fits : ordinalNear (digits * 10 ^ exponent) < infinityOrdinal) (negative : Bool) :
    IsNearest (if negative then -(digits * 10 ^ exponent) else digits * 10 ^ exponent)
      (ofDecimal negative digits exponent) := by
  rw [ofDecimal_eq]
  exact isNearest_ofOrdinal (by positivity) fits negative

/-- Whole numbers of 64 bits do not pass the finite range. -/
theorem isNearest_ofDecimal_whole {i : Int} (least : -2 ^ 63 ≤ i) (greatest : i < 2 ^ 64) :
    IsNearest i (ofDecimal (decide (i < 0)) i.natAbs 0) := by
  obtain ⟨one, hOne⟩ : ∃ one, one = 1074 := ⟨_, rfl⟩
  have small : ((i.natAbs : ℚ) * 10 ^ (0 : Int)) * unitsPerOne < 2 ^ (53 + (11 + one)) := by
    have size : (i.natAbs : ℚ) < 2 ^ 64 := by exact_mod_cast (by omega : i.natAbs < 2 ^ 64)
    rw [unitsPerOne_eq hOne, zpow_zero, mul_one, show 53 + (11 + one) = 64 + one by omega, pow_add]
    gcongr
  have fits := ordinalNear_le small
  rw [hOne] at fits
  have nearest := isNearest_ofDecimal (lt_of_le_of_lt fits (by decide)) (decide (i < 0))
  have value : (if decide (i < 0) = true then -((i.natAbs : ℚ) * 10 ^ (0 : Int))
      else i.natAbs * 10 ^ (0 : Int)) = i := by
    rw [zpow_zero, mul_one]
    by_cases sign : i < 0
    · simp only [sign, decide_true, if_true]
      rw [← Int.cast_natCast, Int.natCast_natAbs, abs_of_neg sign]
      simp
    · simp only [sign, decide_false, Bool.false_eq_true, if_false]
      rw [← Int.cast_natCast, Int.natCast_natAbs, abs_of_nonneg (by omega)]
  rwa [value] at nearest

end MetricsHarness.Binary64
