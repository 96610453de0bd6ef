import MetricsHarness.Proofs.Rounding
import MetricsHarness.Series.Compare

/-!
# What the comparison of two series decides

Two series are compared in four steps, and the first difference is told. Taken together the steps
decide one relation (`Series.Same`): the targets are the same, and at every index the timestamps are
the same and the values are the same number, or both no number. Tags play no part.

The step of a series is told by its first two points. So where the points agree the steps do
(`Series.stepDiffers_of_pointsAgree`), and the third check only refines what the fourth would tell.

Sameness of values is stated on what a double says (`Binary64.numeric`), not on its pattern. A
magnitude has one ordinal only, which is why looking at ordinals is enough
(`Binary64.sameValue_iff`).
-/

namespace MetricsHarness

namespace Binary64

/-- What a double says. -/
inductive Numeric where
  | number (value : ℚ)
  | infinite (negative : Bool)
  | none
  deriving DecidableEq

/-- The number that a double says, with its sign. -/
def numeric (x : Binary64) : Numeric :=
  if x.isNaN then .none
  else if x.isInfinite then .infinite x.negative
  else .number (if x.negative then -magnitude x.ordinal else magnitude x.ordinal)

theorem magnitude_zero : magnitude 0 = 0 := by
  rw [magnitude, units_eq_self (Nat.zero_le _), Nat.cast_zero, zero_div]

theorem magnitude_injective : Function.Injective magnitude :=
  Function.LeftInverse.injective ordinalNear_magnitude

/-- Two numbers with their signs are equal if the magnitudes are, and the signs are or do not
count. -/
theorem signed_eq_iff {b c : Bool} {n m : Nat} :
    (if b then -magnitude n else magnitude n) = (if c then -magnitude m else magnitude m) ↔
      n = m ∧ (n = 0 ∨ b = c) := by
  have first := magnitude_nonneg n
  have second := magnitude_nonneg m
  have apart (opposite : magnitude n = -magnitude m) : n = m ∧ n = 0 := by
    have zeros : magnitude n = magnitude 0 ∧ magnitude m = magnitude 0 := by
      rw [magnitude_zero]
      constructor <;> linarith
    have left := magnitude_injective zeros.1
    have right := magnitude_injective zeros.2
    exact ⟨left.trans right.symm, left⟩
  cases b <;> cases c
  · simp [magnitude_injective.eq_iff]
  · constructor
    · intro opposite
      obtain ⟨same, zero⟩ := apart opposite
      exact ⟨same, .inl zero⟩
    · rintro ⟨rfl, rfl | sign⟩
      · simp [magnitude_zero]
      · nomatch sign
  · constructor
    · intro opposite
      obtain ⟨same, zero⟩ := apart (neg_eq_iff_eq_neg.mp opposite)
      exact ⟨same, .inl zero⟩
    · rintro ⟨rfl, rfl | sign⟩
      · simp [magnitude_zero]
      · nomatch sign
  · simp [magnitude_injective.eq_iff]

/-- Two doubles have the same value if they say the same number, or none. -/
theorem sameValue_iff (x y : Binary64) : x.sameValue y = true ↔ x.numeric = y.numeric := by
  unfold sameValue numeric
  cases xNaN : x.isNaN <;> cases yNaN : y.isNaN
  · have ordinals : x.ordinal.val = y.ordinal.val ↔ x.ordinal = y.ordinal := Fin.val_inj
    simp only [isInfinite, isZero, Bool.and_self, Bool.not_false, Bool.true_and, Bool.false_or,
      Bool.and_eq_true, Bool.or_eq_true, beq_iff_eq, Bool.false_eq_true, if_false, ← ordinals]
    by_cases xInfinite : x.ordinal.val = infinityOrdinal <;>
      by_cases yInfinite : y.ordinal.val = infinityOrdinal
    · have nonzero : infinityOrdinal ≠ 0 := by decide
      simp [xInfinite, yInfinite, nonzero]
    · have apart : x.ordinal.val ≠ y.ordinal.val := fun same => yInfinite (same ▸ xInfinite)
      simp [xInfinite, yInfinite, Ne.symm yInfinite]
    · have apart : x.ordinal.val ≠ y.ordinal.val := fun same => xInfinite (same ▸ yInfinite)
      simp [xInfinite, yInfinite]
    · rw [if_neg xInfinite, if_neg yInfinite, Numeric.number.injEq, signed_eq_iff]
  · cases x.isInfinite <;> simp
  · cases y.isInfinite <;> simp
  · simp

end Binary64

/-- Two samples agree if the times are the same and the values say the same. -/
theorem Sample.agrees_eq_true_iff (p q : Sample) :
    p.agrees q = true ↔ p.timestamp = q.timestamp ∧ p.value.numeric = q.value.numeric := by
  rw [agrees, Bool.and_eq_true, beq_iff_eq, Binary64.sameValue_iff, and_comm]

namespace Series

variable {o e : Series}

/-- The points of two series agree: there are as many, and at every index the timestamps are the
same and the values say the same. -/
structure PointsAgree (o e : Series) : Prop where
  count : o.points.length = e.points.length
  timestamp {i : Nat} {p q : Sample} (observed : o.points[i]? = some p)
    (expected : e.points[i]? = some q) : p.timestamp = q.timestamp
  value {i : Nat} {p q : Sample} (observed : o.points[i]? = some p)
    (expected : e.points[i]? = some q) : p.value.numeric = q.value.numeric

/-- Two series say the same: the targets are the same and the points agree. -/
structure Same (o e : Series) : Prop where
  target : o.target = e.target
  points : PointsAgree o e

/-- The check of the points, pair by pair, decides whether they agree. -/
theorem all_agrees_iff (count : o.points.length = e.points.length) :
    ((o.points.zip e.points).all fun (p, q) => p.agrees q) = true ↔ PointsAgree o e := by
  simp only [List.all_eq_true, Sample.agrees_eq_true_iff]
  constructor
  · intro pairs
    have pairAt {i : Nat} {p q : Sample} (observed : o.points[i]? = some p)
        (expected : e.points[i]? = some q) :
        p.timestamp = q.timestamp ∧ p.value.numeric = q.value.numeric :=
      pairs (p, q) (List.mem_of_getElem? (List.getElem?_zip_eq_some.mpr ⟨observed, expected⟩))
    exact ⟨count, fun left right => (pairAt left right).1, fun left right => (pairAt left right).2⟩
  · intro agree pair within
    obtain ⟨i, place⟩ := List.mem_iff_getElem?.mp within
    obtain ⟨observed, expected⟩ := List.getElem?_zip_eq_some.mp place
    exact ⟨agree.timestamp observed expected, agree.value observed expected⟩

/-- The step is known from two points on. -/
theorem step?_eq_some_iff {s : Series} {step : Int} :
    s.step? = some step ↔ ∃ p q rest, s.points = p :: q :: rest ∧
      step = q.timestamp.toInt - p.timestamp.toInt := by
  unfold step?
  split
  · rename_i first second rest points
    constructor
    · intro known
      exact ⟨first, second, rest, points, (Option.some.inj known).symm⟩
    · rintro ⟨p, q, others, points', rfl⟩
      obtain ⟨rfl, both⟩ := List.cons.inj (points.symm.trans points')
      obtain ⟨rfl, rfl⟩ := List.cons.inj both
      rfl
  · rename_i few
    constructor
    · intro known
      nomatch known
    · rintro ⟨p, q, rest, points, -⟩
      exact absurd points (few p q rest)

/-- Every step fits 65 bits with its sign, however far apart the timestamps are. -/
theorem natAbs_step?_lt {s : Series} {step : Int} (known : s.step? = some step) :
    step.natAbs < 2 ^ 64 := by
  obtain ⟨p, q, -, -, rfl⟩ := step?_eq_some_iff.mp known
  have low := p.timestamp.le_toInt
  have high := p.timestamp.toInt_lt
  have low' := q.timestamp.le_toInt
  have high' := q.timestamp.toInt_lt
  omega

/-- The steps differ if both are known and are not the same. -/
theorem stepDiffers_eq_some_iff {got want : Int} :
    stepDiffers o e = some (got, want) ↔
      o.step? = some got ∧ e.step? = some want ∧ got ≠ want := by
  unfold stepDiffers
  cases o.step? with
  | none => simp
  | some observed =>
    cases e.step? with
    | none => simp
    | some expected =>
      dsimp only
      by_cases same : observed = expected
      · rw [if_pos same]
        simp only [reduceCtorEq, Option.some.injEq, false_iff, not_and, not_not]
        rintro rfl rfl
        exact same
      · rw [if_neg same]
        simp only [Option.some.injEq, Prod.mk.injEq]
        constructor
        · rintro ⟨rfl, rfl⟩
          exact ⟨rfl, rfl, same⟩
        · rintro ⟨rfl, rfl, -⟩
          exact ⟨rfl, rfl⟩

/-- Where the points agree the steps do, whatever the targets. -/
theorem stepDiffers_of_pointsAgree (agree : PointsAgree o e) : stepDiffers o e = none := by
  rw [Option.eq_none_iff_forall_ne_some]
  rintro ⟨got, want⟩ differ
  obtain ⟨observed, expected, different⟩ := stepDiffers_eq_some_iff.mp differ
  obtain ⟨p₀, p₁, ps, points, rfl⟩ := step?_eq_some_iff.mp observed
  obtain ⟨q₀, q₁, qs, points', rfl⟩ := step?_eq_some_iff.mp expected
  have firsts : p₀.timestamp = q₀.timestamp := agree.timestamp (i := 0) (by simp [points])
    (by simp [points'])
  have seconds : p₁.timestamp = q₁.timestamp := agree.timestamp (i := 1) (by simp [points])
    (by simp [points'])
  exact different (by rw [firsts, seconds])

/-- What the first difference of two series is, and what is told of it. Each case says that the
checks before it found nothing. -/
inductive Differs (o e : Series) : Mismatch → Prop
  | target (different : o.target ≠ e.target) : Differs o e (.target o.target e.target)
  | length (target : o.target = e.target) (different : o.points.length ≠ e.points.length) :
    Differs o e (.length e.target (renderPoints o.points) (renderPoints e.points))
  | step (target : o.target = e.target) (count : o.points.length = e.points.length)
    {p₀ p₁ q₀ q₁ : Sample} {ps qs : List Sample} (observed : o.points = p₀ :: p₁ :: ps)
    (expected : e.points = q₀ :: q₁ :: qs)
    (different : p₁.timestamp.toInt - p₀.timestamp.toInt ≠
      q₁.timestamp.toInt - q₀.timestamp.toInt) :
    Differs o e (.step e.target (p₁.timestamp.toInt - p₀.timestamp.toInt)
      (q₁.timestamp.toInt - q₀.timestamp.toInt))
  | datapoints (target : o.target = e.target) (count : o.points.length = e.points.length)
    (step : ∀ p₀ p₁ q₀ q₁ ps qs, o.points = p₀ :: p₁ :: ps → e.points = q₀ :: q₁ :: qs →
      p₁.timestamp.toInt - p₀.timestamp.toInt = q₁.timestamp.toInt - q₀.timestamp.toInt)
    (different : ¬PointsAgree o e) :
    Differs o e (.datapoints e.target (renderPoints o.points) (renderPoints e.points))

/-- The comparison follows the cases. -/
theorem mismatch?_cases (o e : Series) :
    (mismatch? o e = none ∧ Same o e) ∨ ∃ m, mismatch? o e = some m ∧ Differs o e m := by
  unfold mismatch?
  by_cases target : o.target = e.target
  · by_cases count : o.points.length = e.points.length
    · rw [if_neg (not_not_intro target), if_neg (not_not_intro count)]
      cases steps : stepDiffers o e with
      | some pair =>
        obtain ⟨observed, expected, different⟩ := stepDiffers_eq_some_iff.mp steps
        obtain ⟨p₀, p₁, ps, points, got⟩ := step?_eq_some_iff.mp observed
        obtain ⟨q₀, q₁, qs, points', want⟩ := step?_eq_some_iff.mp expected
        rw [got, want] at different
        refine .inr ⟨_, rfl, ?_⟩
        rw [got, want]
        exact .step target count points points' different
      | none =>
        by_cases agree : PointsAgree o e
        · exact .inl ⟨if_pos ((all_agrees_iff count).mpr agree), target, agree⟩
        · have failed := (all_agrees_iff count).not.mpr agree
          refine .inr ⟨_, if_neg failed, .datapoints target count ?_ agree⟩
          intro p₀ p₁ q₀ q₁ ps qs observed expected
          by_contra different
          have differ : stepDiffers o e = some (_, _) := stepDiffers_eq_some_iff.mpr
            ⟨step?_eq_some_iff.mpr ⟨p₀, p₁, ps, observed, rfl⟩,
              step?_eq_some_iff.mpr ⟨q₀, q₁, qs, expected, rfl⟩, different⟩
          rw [steps] at differ
          nomatch differ
    · rw [if_neg (not_not_intro target), if_pos count]
      exact .inr ⟨_, rfl, .length target count⟩
  · rw [if_pos target]
    exact .inr ⟨_, rfl, .target target⟩

/-- A case that holds is the one that the comparison tells. -/
theorem Differs.told {m : Mismatch} (differs : Differs o e m) : mismatch? o e = some m := by
  unfold mismatch?
  cases differs with
  | target different => rw [if_pos different]
  | length target different => rw [if_neg (not_not_intro target), if_pos different]
  | step target count observed expected different =>
    have steps := stepDiffers_eq_some_iff.mpr ⟨step?_eq_some_iff.mpr ⟨_, _, _, observed, rfl⟩,
      step?_eq_some_iff.mpr ⟨_, _, _, expected, rfl⟩, different⟩
    rw [if_neg (not_not_intro target), if_neg (not_not_intro count), steps]
  | datapoints target count step different =>
    have steps : stepDiffers o e = none := by
      rw [Option.eq_none_iff_forall_ne_some]
      rintro ⟨got, want⟩ differ
      obtain ⟨first, second, apart⟩ := stepDiffers_eq_some_iff.mp differ
      obtain ⟨_, _, _, observed, rfl⟩ := step?_eq_some_iff.mp first
      obtain ⟨_, _, _, expected, rfl⟩ := step?_eq_some_iff.mp second
      exact apart (step _ _ _ _ _ _ observed expected)
    have failed := (all_agrees_iff count).not.mpr different
    rw [if_neg (not_not_intro target), if_neg (not_not_intro count), steps]
    exact if_neg failed

/-- Series that say the same have no first difference. -/
theorem Same.told (same : Same o e) : mismatch? o e = none := by
  unfold mismatch?
  rw [if_neg (not_not_intro same.target), if_neg (not_not_intro same.points.count),
    stepDiffers_of_pointsAgree same.points]
  exact if_pos ((all_agrees_iff same.points.count).mpr same.points)

theorem compare_eq_nil_iff_same : compare o e = [] ↔ Same o e := by
  rw [compare, Option.toList_eq_nil_iff]
  constructor
  · intro none
    rcases mismatch?_cases o e with ⟨-, same⟩ | ⟨m, some, -⟩
    · exact same
    · rw [none] at some
      nomatch some
  · exact Same.told

theorem compare_eq_singleton_iff {m : Mismatch} : compare o e = [m] ↔ Differs o e m := by
  rw [compare, Option.toList_eq_singleton_iff]
  constructor
  · intro told
    rcases mismatch?_cases o e with ⟨none, -⟩ | ⟨m', some, differs⟩
    · rw [told] at none
      nomatch none
    · rw [told] at some
      obtain rfl := Option.some.inj some
      exact differs
  · exact Differs.told

/-- **Comparing decides sameness.** Two series compare with nothing to tell just when the targets
are the same, there are as many points, and at every index the times are the same and the values
are the same number or both none. Otherwise one mismatch is told, the first of the four cases that
applies; its wording names the expected series. The step of points that agree never differs, and
tags play no part. -/
theorem compare_decides (o e : Series) :
    (compare o e = [] ↔ Same o e) ∧
    (¬Same o e → ∃ m, compare o e = [m] ∧ Differs o e m) ∧
    (∀ m, compare o e = [m] ↔ Differs o e m) ∧
    (PointsAgree o e → stepDiffers o e = none) ∧
    (∀ tags tags', compare { o with tags } { e with tags := tags' } = compare o e) := by
  refine ⟨compare_eq_nil_iff_same, ?_, fun _ => compare_eq_singleton_iff,
    stepDiffers_of_pointsAgree, fun _ _ => rfl⟩
  intro different
  rcases mismatch?_cases o e with ⟨-, same⟩ | ⟨m, told, differs⟩
  · exact absurd same different
  · exact ⟨m, by rw [compare, told, Option.toList_some], differs⟩

/-- Zeros of both signs are the same value, and so are two patterns that are no number; the
farthest two timestamps are a step apart. -/
example :
    compare
      ⟨"a", [⟨.zero true, Int64.minValue⟩, ⟨.nan false, Int64.maxValue⟩], .empty⟩
      ⟨"a", [⟨.zero false, Int64.minValue⟩, ⟨.nan true, Int64.maxValue⟩], .empty⟩ = [] := by
  decide

end Series

end MetricsHarness
