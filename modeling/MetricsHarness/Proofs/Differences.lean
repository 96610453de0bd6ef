import MetricsHarness.Proofs.Comparison
import MetricsHarness.Proofs.Samples

/-!
# What is told of a difference

Comparing two series has an observed and an expected side, but what it decides has none: to say the
same is an equivalence, with the two zeros equal and a value that is no number equal to itself
(`Series.compare_equivalence`). Series that differ tell the same difference from either side, with
got and expected exchanged. The name that is told is the one of the expected series; it is told only
where the targets are the same, so it is the name of both.

A difference can be seen: the two texts that it shows are never the same
(`Series.compare_visible`). For points that is so because a rendered list can be read in one way
only (`renderPoints_inj`). A value has no comma in its text and a timestamp no bracket, so each
point ends where it was written to end; and a point that is written is read as the point.
-/

namespace MetricsHarness

open Text

/-! ## From the other side -/

/-- A difference with got and expected exchanged. -/
def Mismatch.mirrored : Mismatch → Mismatch
  | .target got want => .target want got
  | .length name got want => .length name want got
  | .step name got want => .step name want got
  | .datapoints name got want => .datapoints name want got

namespace Series

variable {a b c : Series}

theorem PointsAgree.refl (a : Series) : PointsAgree a a where
  count := rfl
  timestamp observed expected := by rw [Option.some.inj (observed.symm.trans expected)]
  value observed expected := by rw [Option.some.inj (observed.symm.trans expected)]

theorem PointsAgree.symm (agree : PointsAgree a b) : PointsAgree b a where
  count := agree.count.symm
  timestamp observed expected := (agree.timestamp expected observed).symm
  value observed expected := (agree.value expected observed).symm

/-- A point of the first series and one of the third agree with the point between them. -/
theorem PointsAgree.trans (first : PointsAgree a b) (second : PointsAgree b c) :
    PointsAgree a c := by
  have between {i : Nat} {p : Sample} (observed : a.points[i]? = some p) :
      ∃ q, b.points[i]? = some q := by
    obtain ⟨inside, -⟩ := List.getElem?_eq_some_iff.mp observed
    rw [first.count] at inside
    exact ⟨_, List.getElem?_eq_getElem inside⟩
  refine ⟨first.count.trans second.count, ?_, ?_⟩
  · intro i p r observed expected
    obtain ⟨q, middle⟩ := between observed
    exact (first.timestamp observed middle).trans (second.timestamp middle expected)
  · intro i p r observed expected
    obtain ⟨q, middle⟩ := between observed
    exact (first.value observed middle).trans (second.value middle expected)

/-- To say the same is an equivalence. -/
theorem same_equivalence : Equivalence Same where
  refl a := ⟨rfl, .refl a⟩
  symm same := ⟨same.target.symm, same.points.symm⟩
  trans first second := ⟨first.target.trans second.target, first.points.trans second.points⟩

/-- The case that applies from one side applies from the other. -/
theorem Differs.mirrored {m : Mismatch} (differs : Differs a b m) : Differs b a m.mirrored := by
  cases differs with
  | target different => exact .target (Ne.symm different)
  | length target different =>
    rw [← target]
    exact .length target.symm (Ne.symm different)
  | step target count observed expected different =>
    rw [← target]
    exact .step target.symm count.symm expected observed (Ne.symm different)
  | datapoints target count step different =>
    rw [← target]
    refine .datapoints target.symm count.symm ?_ fun agree => different agree.symm
    intro p₀ p₁ q₀ q₁ ps qs observed expected
    exact (step q₀ q₁ p₀ p₁ qs ps expected observed).symm

/-- **Comparing is an equivalence, told from either side.** Every series compares with itself with
nothing to tell, whatever its values are, and so do two series that compare with a third with
nothing to tell. The difference of two series in the other direction is the same difference, of the
same kind and under the same name, with got and expected exchanged. -/
theorem compare_equivalence :
    Equivalence (fun a b => compare a b = []) ∧
    ∀ a b, compare b a = (compare a b).map Mismatch.mirrored := by
  constructor
  · simp only [compare_eq_nil_iff_same]
    exact same_equivalence
  · intro a b
    rcases mismatch?_cases a b with ⟨-, same⟩ | ⟨m, -, differs⟩
    · rw [compare_eq_nil_iff_same.mpr same,
        compare_eq_nil_iff_same.mpr (same_equivalence.symm same), List.map_nil]
    · rw [compare_eq_singleton_iff.mpr differs, compare_eq_singleton_iff.mpr differs.mirrored,
        List.map_singleton]

end Series

/-! ## What is seen of points -/

namespace Sample

/-- What is read where a sample is written: the sample, but for the pattern of a value that is no
number. -/
def returned (s : Sample) : Sample := ⟨reread s.value, s.timestamp⟩

theorem encodeChars_returned (s : Sample) : s.returned.encodeChars = s.encodeChars :=
  String.ofList_inj.mp (encode_reread s.value s.timestamp)

/-- A written sample ends where it was written to end, and is read as what it says. -/
theorem encodeChars_append_inj {p q : Sample} {rest rest' : List Char}
    (same : p.encodeChars ++ rest = q.encodeChars ++ rest') :
    p.returned = q.returned ∧ rest = rest' := by
  have comma (s : Sample) : ',' ∉ Binary64.plain.chars s.value :=
    fun mem => (Binary64.mem_plain_chars mem).2 rfl
  have bracket (s : Sample) : ']' ∉ signedNumeralChars s.timestamp.toInt := by
    intro mem
    exact absurd (mem_signedNumeralChars mem) (by decide)
  simp only [encodeChars, List.cons_append, List.append_assoc, List.nil_append,
    List.cons.injEq, true_and] at same
  obtain ⟨value, others⟩ := append_cons_inj (comma p) (comma q) same
  obtain ⟨timestamp, rest⟩ := append_cons_inj (bracket p) (bracket q) others
  refine ⟨?_, rest⟩
  have read := ofTexts_chars p.value p.timestamp
  rw [value, timestamp, ofTexts_chars] at read
  exact (Except.ok.inj read).symm

theorem numeric_reread (x : Binary64) : (reread x).numeric = x.numeric := by
  unfold reread
  split
  next none => rw [Binary64.numeric, Binary64.numeric, none]; rfl
  next => rfl

end Sample

/-- The first point of each list is told from the others where it ends. -/
theorem map_returned_of_flatMap {ps qs : List Sample}
    (same : ps.flatMap (',' :: ·.encodeChars) = qs.flatMap (',' :: ·.encodeChars)) :
    ps.map Sample.returned = qs.map Sample.returned := by
  induction ps generalizing qs with
  | nil =>
    cases qs with
    | nil => rfl
    | cons q rest => nomatch same
  | cons p ps ih =>
    cases qs with
    | nil => nomatch same
    | cons q qs =>
      obtain ⟨first, others⟩ := Sample.encodeChars_append_inj (List.cons.inj same).2
      rw [List.map_cons, List.map_cons, first, ih others]

/-- **Rendered points are read in one way.** Two lists of points are rendered as the same text
exactly if they have the same timestamps and the same values, patterns of no number apart. -/
theorem renderPoints_inj {ps qs : List Sample} :
    renderPoints ps = renderPoints qs ↔ ps.map Sample.returned = qs.map Sample.returned := by
  have rendered (points : List Sample) : renderPoints (points.map Sample.returned) =
      renderPoints points := by
    rw [renderPoints, renderPoints, List.map_map]
    simp only [Function.comp_def, Sample.encodeChars_returned]
  constructor
  · intro same
    have joined := List.append_cancel_right (List.cons.inj (String.ofList_inj.mp same)).2
    cases ps with
    | nil =>
      cases qs with
      | nil => rfl
      | cons q qs =>
        rw [List.map_cons, joined_cons] at joined
        nomatch joined
    | cons p ps =>
      cases qs with
      | nil =>
        rw [List.map_cons, joined_cons] at joined
        nomatch joined
      | cons q qs =>
        rw [List.map_cons, List.map_cons, joined_cons, joined_cons, List.flatMap_map,
          List.flatMap_map] at joined
        obtain ⟨first, others⟩ := Sample.encodeChars_append_inj joined
        rw [List.map_cons, List.map_cons, first, map_returned_of_flatMap others]
  · intro same
    rw [← rendered ps, same, rendered]

/-- What was got is not what was expected, and is not shown as it. -/
def Mismatch.Visible : Mismatch → Prop
  | .target got want => got ≠ want
  | .length _ got want => got ≠ want
  | .step _ got want => got ≠ want ∧ signedNumeral got ≠ signedNumeral want
  | .datapoints _ got want => got ≠ want

namespace Series

variable {o e : Series}

/-- Points that are rendered as the same text agree. -/
theorem pointsAgree_of_renderPoints (same : renderPoints o.points = renderPoints e.points) :
    PointsAgree o e := by
  have returned := renderPoints_inj.mp same
  have alike {i : Nat} {p q : Sample} (observed : o.points[i]? = some p)
      (expected : e.points[i]? = some q) : p.returned = q.returned := by
    have place := congrArg (·[i]?) returned
    simp only [List.getElem?_map, observed, expected] at place
    exact Option.some.inj place
  refine ⟨by simpa using congrArg List.length returned, ?_, ?_⟩
  · intro i p q observed expected
    have timestamp := congrArg Sample.timestamp (alike observed expected)
    exact timestamp
  · intro i p q observed expected
    have value := congrArg (fun s : Sample => s.value.numeric) (alike observed expected)
    simp only [Sample.returned, Sample.numeric_reread] at value
    exact value

/-- Each of the four differences shows two texts that are not the same. -/
theorem Differs.visible {m : Mismatch} (differs : Differs o e m) : m.Visible := by
  cases differs with
  | target different => exact different
  | length target different =>
    exact fun same => different (pointsAgree_of_renderPoints same).count
  | step target count observed expected different =>
    refine ⟨different, fun same => different ?_⟩
    exact signedNumeralChars_inj.mp (String.ofList_inj.mp same)
  | datapoints target count step different =>
    exact fun same => different (pointsAgree_of_renderPoints same)

/-- **A difference can be seen.** What is told of two series shows one text, or number, as got and
another as expected. Points that do not agree are rendered as different texts: only lists with the
same timestamps and the same values are rendered as the same, the two zeros told apart and the
patterns of no number not. -/
theorem compare_visible (o e : Series) :
    (∀ m ∈ compare o e, m.Visible) ∧
    (¬PointsAgree o e → renderPoints o.points ≠ renderPoints e.points) ∧
    (renderPoints o.points = renderPoints e.points ↔
      o.points.map Sample.returned = e.points.map Sample.returned) := by
  refine ⟨?_, fun different same => different (pointsAgree_of_renderPoints same), renderPoints_inj⟩
  intro m told
  rcases mismatch?_cases o e with ⟨none, -⟩ | ⟨m', some, differs⟩
  · rw [compare, none] at told
    exact absurd told List.not_mem_nil
  · rw [compare, some, Option.toList_some, List.mem_singleton] at told
    exact told ▸ differs.visible

/-- Two neighbouring doubles are shown apart. -/
theorem compare_visible_of_neighbours :
    let one : Series := ⟨"a", [⟨.ofBits 0x3FF0000000000000, 60⟩], .empty⟩
    let next : Series := ⟨"a", [⟨.ofBits 0x3FF0000000000001, 60⟩], .empty⟩
    Mismatch.datapoints "a" "[[1,60]]" "[[1.0000000000000002,60]]" ∈ compare one next ∧
      (Mismatch.datapoints "a" "[[1,60]]" "[[1.0000000000000002,60]]").Visible ∧
      ¬PointsAgree one next ∧ renderPoints one.points ≠ renderPoints next.points := by
  intro one next
  have told : Mismatch.datapoints "a" "[[1,60]]" "[[1.0000000000000002,60]]" ∈
      compare one next := by decide +kernel
  have different : ¬PointsAgree one next := by
    intro agree
    have none : compare one next = [] := compare_eq_nil_iff_same.mpr ⟨rfl, agree⟩
    rw [none] at told
    nomatch told
  obtain ⟨visible, rendered, -⟩ := compare_visible one next
  exact ⟨told, visible _ told, different, rendered different⟩

end Series

end MetricsHarness
