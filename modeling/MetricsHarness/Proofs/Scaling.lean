import MetricsHarness.Json.Number
import MetricsHarness.Proofs.Rounding

/-!
# Scaling without a loss

The reader of documents rounds a significand, and then its product with a power of ten or its
quotient. The first rounding changes nothing as long as the significand is at most 2 to the power
53, and the power of ten is a double as long as its exponent is at most 22, since 5 to the power 22
is below that bound. For these numbers the reader gives the nearest double (`scaled_of_small`). A
greater significand may be rounded twice, but with such an exponent it is never refused
(`exists_scaled`).
-/

namespace MetricsHarness.Binary64

open Json

/-! ## Exact doubles -/

/-- A whole number of 53 bits times a power of two is a magnitude. -/
theorem exists_magnitude {d j : Nat} (pos : 0 < d) (le : d ≤ 2 ^ 53) (small : j ≤ 900) :
    ∃ n, n < infinityOrdinal ∧ magnitude n = d * 2 ^ j := by
  obtain ⟨k, hk⟩ : ∃ k, k = 52 - d.log2 := ⟨_, rfl⟩
  obtain ⟨one, hOne⟩ : ∃ one, one = 1074 := ⟨_, rfl⟩
  -- Moved by `k` places the number has 53 bits, so it stands in a block of ordinals.
  have bottom : block ≤ d * 2 ^ k := by
    rw [block_eq]
    calc 2 ^ 52 ≤ 2 ^ (d.log2 + k) := Nat.pow_le_pow_right (by decide) (by omega)
      _ = 2 ^ d.log2 * 2 ^ k := pow_add _ _ _
      _ ≤ d * 2 ^ k := Nat.mul_le_mul_right _ (Nat.log2_self_le (Nat.ne_of_gt pos))
  have top : d * 2 ^ k ≤ 2 * block := by
    rw [block_eq]
    rcases Nat.lt_or_ge 52 d.log2 with wide | fits
    · rw [hk, Nat.sub_eq_zero_of_le wide.le, Nat.pow_zero, Nat.mul_one]
      exact le
    · calc d * 2 ^ k ≤ 2 ^ (d.log2 + 1) * 2 ^ k := Nat.mul_le_mul_right _ Nat.lt_log2_self.le
        _ = 2 ^ (d.log2 + 1 + k) := (pow_add _ _ _).symm
        _ = 2 * 2 ^ 52 := by rw [show d.log2 + 1 + k = 53 by omega]; rfl
  have units : units (d * 2 ^ k + (one + j - k) * block) = d * 2 ^ j * 2 ^ one := by
    rw [units_add _ bottom top, Nat.mul_assoc, Nat.mul_assoc, ← pow_add, ← pow_add]
    congr 2
    omega
  refine ⟨d * 2 ^ k + (one + j - k) * block, ?_, ?_⟩
  · have shift : (one + j - k) * block ≤ 1974 * block := Nat.mul_le_mul_right _ (by omega)
    simp only [infinityOrdinal]
    have : 0 < block := by decide
    omega
  · rw [magnitude, units, unitsPerOne_eq hOne]
    push_cast
    exact mul_div_cancel_right₀ _ (by positivity)

theorem magnitude_ofDecimal {d n : Nat} {e : Int} (finite : n < infinityOrdinal)
    (exact : magnitude n = d * 10 ^ e) : magnitude (ofDecimal false d e).ordinal = d * 10 ^ e := by
  rw [ofDecimal_eq, ← exact, ordinalNear_magnitude, ofOrdinal]
  exact congrArg magnitude (Nat.min_eq_left finite.le)

theorem magnitude_ofNat {n : Nat} (le : n ≤ 2 ^ 53) : magnitude (ofNat n).ordinal = n := by
  rcases Nat.eq_zero_or_pos n with rfl | pos
  · rw [ofNat_eq]
    show magnitude 0 = _
    rw [magnitude, units_eq_self (Nat.zero_le _), Nat.cast_zero, zero_div]
  · obtain ⟨m, finite, exact⟩ := exists_magnitude pos le (j := 0) (by decide)
    have value := magnitude_ofDecimal (d := n) (e := 0) finite (by rw [exact, pow_zero, zpow_zero])
    rw [ofNat_eq, value, zpow_zero, mul_one]

theorem magnitude_powerOfTen {e : Nat} (le : e ≤ 22) :
    magnitude (powerOfTen e).ordinal = 10 ^ e := by
  have fives : 5 ^ e ≤ 2 ^ 53 := (Nat.pow_le_pow_right (by decide) le).trans (by decide)
  obtain ⟨m, finite, exact⟩ :=
    exists_magnitude (Nat.pow_pos (by decide)) fives (j := e) (by omega)
  have value := magnitude_ofDecimal (d := 1) (e := e) finite (by
    rw [exact, Nat.cast_one, one_mul, zpow_natCast]
    push_cast
    rw [← mul_pow]
    norm_num)
  rw [powerOfTen, value, Nat.cast_one, one_mul, zpow_natCast]

/-! ## Bounded doubles -/

theorem nearestWhole_le {x : ℚ} {n : Nat} (pos : 0 < n) (h : x < n) : nearestWhole x ≤ n := by
  have floor : ⌊x⌋₊ < n := (Nat.floor_lt' (Nat.ne_of_gt pos)).mpr h
  unfold nearestWhole
  dsimp only
  split_ifs <;> omega

/-- What is below the end of a block is not rounded to a place past it. -/
theorem ordinalNear_le {x : ℚ} {s : Nat} (h : x * unitsPerOne < 2 ^ (53 + s)) :
    ordinalNear x ≤ 2 * block + s * block := by
  obtain ⟨f, hf⟩ : ∃ f, f = ⌊x * unitsPerOne⌋₊ := ⟨_, rfl⟩
  have lt : f < 2 ^ (53 + s) := by
    rw [hf]
    exact (Nat.floor_lt' (Nat.two_pow_pos _).ne').mpr (by exact_mod_cast h)
  have shift : f.log2 - 52 ≤ s := by
    by_cases zero : f = 0
    · rw [zero, Nat.log2_zero]
      omega
    · have := (Nat.log2_lt zero).mpr lt
      omega
  have whole : nearestWhole (x * unitsPerOne / 2 ^ (f.log2 - 52)) ≤ 2 * block := by
    refine nearestWhole_le (by decide) ((div_lt_iff₀ (by positivity)).mpr ?_)
    have next : f + 1 ≤ 2 ^ (53 + (f.log2 - 52)) :=
      Nat.lt_log2_self.trans_le (Nat.pow_le_pow_right (by decide) (by omega))
    calc x * unitsPerOne < (f + 1 : Nat) := by
          rw [hf]
          exact_mod_cast Nat.lt_floor_add_one (x * (unitsPerOne : ℚ))
      _ ≤ (2 ^ (53 + (f.log2 - 52)) : Nat) := Nat.cast_le.mpr next
      _ = (2 * block : Nat) * 2 ^ (f.log2 - 52) := by
          rw [pow_add, block_eq]
          push_cast
          ring
  unfold ordinalNear
  dsimp only
  rw [← hf]
  exact Nat.add_le_add whole (Nat.mul_le_mul_right block shift)

/-- Up to the end of a block, an ordinal has at most the units of the end. -/
theorem units_le {n s : Nat} (h : n ≤ 2 * block + s * block) : units n ≤ 2 * block * 2 ^ s := by
  obtain ⟨m, k, rfl, lt, low, units⟩ := exists_scale n
  rw [units]
  rcases Nat.lt_or_ge s k with past | within
  · -- Only the end itself is in a block past the given one.
    have bottom : block ≤ m := low.resolve_left (by omega)
    have more : (s + 1) * block ≤ k * block := Nat.mul_le_mul_right block past
    rw [Nat.succ_mul] at more
    have last : m = block := by omega
    have next : k = s + 1 := Nat.eq_of_mul_eq_mul_right (show 0 < block by decide) (by
      rw [Nat.succ_mul]
      omega)
    rw [last, next, pow_succ, Nat.mul_comm (2 ^ s), ← Nat.mul_assoc, Nat.mul_comm block]
  · exact Nat.mul_le_mul lt.le (Nat.pow_le_pow_right (by decide) within)

/-- A decimal of few digits with a small exponent is finite. -/
theorem ordinalNear_lt_of_small {d : Nat} {e : Int} (digits : d ≤ 2 ^ 53) (power : e ≤ 22) :
    ordinalNear (d * 10 ^ e) < infinityOrdinal := by
  obtain ⟨one, hOne⟩ : ∃ one, one = 1074 := ⟨_, rfl⟩
  have digitsQ : (d : ℚ) ≤ 2 ^ 53 := by exact_mod_cast digits
  have powerQ : (10 : ℚ) ^ e ≤ 2 ^ 74 := by
    calc (10 : ℚ) ^ e ≤ 10 ^ (22 : Int) := zpow_le_zpow_right₀ (by norm_num) power
      _ ≤ 2 ^ 74 := by norm_num
  have bound : (d : ℚ) * 10 ^ e * unitsPerOne < 2 ^ (53 + (75 + one)) := by
    rw [unitsPerOne_eq hOne]
    calc (d : ℚ) * 10 ^ e * 2 ^ one ≤ 2 ^ 53 * 2 ^ 74 * 2 ^ one := by gcongr
      _ < 2 ^ 53 * 2 ^ 75 * 2 ^ one := by gcongr <;> norm_num
      _ = 2 ^ (53 + (75 + one)) := by rw [pow_add, pow_add, mul_assoc]
  have le := ordinalNear_le bound
  rw [hOne] at le
  exact lt_of_le_of_lt le (by decide)

/-! ## One rounding -/

theorem negative_powerOfTen (n : Nat) : (powerOfTen n).negative = false := by
  rw [powerOfTen, ofDecimal_eq]
  rfl

/-- Few digits with a small exponent are rounded once. -/
theorem scaled_of_small {d : Nat} {e : Int} (digits : d ≤ 2 ^ 53) (power : e.natAbs ≤ 22) :
    scaled d e = some (ofDecimal false d e) := by
  have significand := magnitude_ofNat digits
  have finite := ordinalNear_lt_of_small (e := e) digits (by omega)
  cases e with
  | ofNat e =>
    have small : e ≤ 22 := power
    have product : mul (ofNat d) (powerOfTen e) = ofDecimal false d e := by
      rw [mul_eq, significand, magnitude_powerOfTen small, ofDecimal_eq, negative_powerOfTen]
      rfl
    have bounded : (ofDecimal false d e).isInfinite = false := by
      rw [ofDecimal_eq]
      exact beq_eq_false_iff_ne.mpr (Nat.ne_of_lt (lt_of_le_of_lt (Nat.min_le_left _ _) finite))
    simp only [scaled, product, if_pos (show e ≤ 308 by omega), bounded]
    rfl
  | negSucc e =>
    have small : e + 1 ≤ 22 := power
    have some : 0 < (powerOfTen (e + 1)).ordinal.val := by
      refine Nat.pos_of_ne_zero fun zero => ?_
      have value := magnitude_powerOfTen small
      rw [zero, magnitude, units_eq_self (Nat.zero_le _), Nat.cast_zero, zero_div] at value
      exact absurd value.symm (by positivity)
    have quotient : div (ofNat d) (powerOfTen (e + 1)) = ofDecimal false d (Int.negSucc e) := by
      rw [div_eq _ some, significand, magnitude_powerOfTen small, ofDecimal_eq, zpow_negSucc,
        div_eq_mul_inv, negative_powerOfTen]
      rfl
    simp only [scaled, scaledDown, quotient, if_pos (show e + 1 ≤ 308 by omega)]

/-- A significand of 64 bits is rounded to no more than twice its limit. -/
theorem magnitude_ofNat_le {n : Nat} (le : n ≤ Text.nat64Greatest) :
    magnitude (ofNat n).ordinal ≤ 2 ^ 65 := by
  obtain ⟨one, hOne⟩ : ∃ one, one = 1074 := ⟨_, rfl⟩
  have small : (n : ℚ) < 2 ^ 65 := by
    exact_mod_cast lt_of_le_of_lt le (by decide)
  have below : (n : ℚ) * 10 ^ (0 : Int) * unitsPerOne < 2 ^ (53 + (12 + one)) := by
    rw [unitsPerOne_eq hOne, zpow_zero, mul_one, show 53 + (12 + one) = 65 + one by omega, pow_add]
    gcongr
  have ordinal : (ofNat n).ordinal.val ≤ 2 * block + (12 + one) * block := by
    rw [ofNat_eq, ofDecimal_eq]
    exact (Nat.min_le_left _ _).trans (ordinalNear_le below)
  have units : (units (ofNat n).ordinal : ℚ) ≤ (2 * block * 2 ^ (12 + one) : Nat) :=
    Nat.cast_le.mpr (units_le ordinal)
  rw [magnitude, unitsPerOne_eq hOne, div_le_iff₀ (by positivity)]
  calc _ ≤ _ := units
    _ = 2 ^ 65 * 2 ^ one := by
        rw [block_eq, pow_add]
        push_cast
        ring

/-- A significand of 64 bits with a small exponent is not refused, rounded as it may be. -/
theorem exists_scaled {n e : Nat} (digits : n ≤ Text.nat64Greatest) (power : e ≤ 22) :
    ∃ x, scaled n e = some x := by
  obtain ⟨one, hOne⟩ : ∃ one, one = 1074 := ⟨_, rfl⟩
  have significand := magnitude_ofNat_le digits
  have tens : (10 : ℚ) ^ e ≤ 2 ^ 74 := by
    calc (10 : ℚ) ^ e ≤ 10 ^ 22 := pow_le_pow_right₀ (by norm_num) power
      _ ≤ 2 ^ 74 := by norm_num
  have bound : magnitude (ofNat n).ordinal * magnitude (powerOfTen e).ordinal * unitsPerOne <
      2 ^ (53 + (87 + one)) := by
    rw [magnitude_powerOfTen power, unitsPerOne_eq hOne]
    calc _ ≤ (2 : ℚ) ^ 65 * 2 ^ 74 * 2 ^ one := by gcongr
      _ < 2 ^ 65 * 2 ^ 75 * 2 ^ one := by gcongr <;> norm_num
      _ = 2 ^ (53 + (87 + one)) := by ring
  have finite := ordinalNear_le bound
  rw [hOne] at finite
  have bounded : (mul (ofNat n) (powerOfTen e)).isInfinite = false := by
    rw [mul_eq]
    refine beq_eq_false_iff_ne.mpr (Nat.ne_of_lt (lt_of_le_of_lt (Nat.min_le_left _ _) ?_))
    exact lt_of_le_of_lt finite (by decide)
  refine ⟨mul (ofNat n) (powerOfTen e), ?_⟩
  show scaled n (Int.ofNat e) = _
  simp only [scaled, if_pos (show e ≤ 308 by omega), bounded]
  rfl

end MetricsHarness.Binary64
