import MetricsHarness.Payload.Validate
import MetricsHarness.Proofs.DocumentSeries
import MetricsHarness.Proofs.Scaling

/-!
# A payload against itself

A list of series is written as a document and judged against itself. Comparison is exact, so the
judgement is clean just if every value comes back as it was (`judgeSeries_written`); nothing else
can go wrong. A value whose text has digits up to 2 to the power 53 and a power of ten up to 22
comes back (`returned?_of_small`). Others need not: their text is rounded twice when it is read, and
the second rounding can miss.
-/

namespace MetricsHarness

/-! ## Values -/

namespace Binary64

/-- Numbers that are the same and have one sign are equal. -/
theorem eq_of_sameValue {x y : Binary64} (number : y.isNaN = false)
    (sign : x.negative = y.negative) (same : x.sameValue y = true) : x = y := by
  rw [sameValue, number] at same
  have ordinal : x.ordinal = y.ordinal := by simp_all
  cases x
  cases y
  cases sign
  cases ordinal
  rfl

end Binary64

namespace Json

open Binary64

/-- A value that is written with few digits and a small power of ten comes back. -/
theorem returned?_of_small {t : NumberText} {x : Binary64} (finite : x.isFinite = true)
    (writes : document.Writes t x) (digits : t.digits ≤ 2 ^ 53) (power : t.power.natAbs ≤ 22) :
    returned? x = some x := by
  have same : ofOrdinal x.negative x.ordinal = x := ofOrdinal_ordinal (isNaN_of_isFinite finite)
  rw [returned?_eq writes, scaled_of_small digits power, writes.value, Option.map_some]
  conv_rhs => rw [← same]
  rfl

/-- What comes back has the sign that was written. -/
theorem negative_of_returned? {x y : Binary64} (finite : x.isFinite = true)
    (back : returned? x = some y) : y.negative = x.negative := by
  obtain ⟨t, writes⟩ := exists_writes document finite
  rw [returned?_eq writes] at back
  obtain ⟨z, -, rfl⟩ := Option.map_eq_some_iff.mp back
  rfl

end Json

/-! ## Lists that come back -/

section Lists

variable {α : Type} {back : α → Option α} {l l' : List α}

theorem forall₂_of_mapM {β : Type} {f : α → Option β} {bs : List β} (h : l.mapM f = some bs) :
    List.Forall₂ (fun a b => f a = some b) l bs := by
  induction l generalizing bs with
  | nil =>
    cases h
    exact .nil
  | cons a more ih =>
    rw [List.mapM_cons] at h
    obtain ⟨b, head, h⟩ := Option.bind_eq_some_iff.mp h
    obtain ⟨others, tail, h⟩ := Option.bind_eq_some_iff.mp h
    cases h
    exact .cons head (ih tail)

/-- A list comes back as it was if all its elements do. -/
theorem mapM_eq_self_iff : l.mapM back = some l ↔ ∀ a ∈ l, back a = some a := by
  constructor
  · intro h
    have pairs := List.forall₂_same.mp (forall₂_of_mapM h)
    exact pairs
  · intro h
    induction l with
    | nil => rfl
    | cons a more ih =>
      obtain ⟨first, others⟩ := List.forall_mem_cons.mp h
      rw [List.mapM_cons, first, ih others]
      rfl

/-- Where agreement tells an element that came back from another, it does so for lists. -/
theorem zip_agree_iff {agree : α → α → Prop}
    (pairs : List.Forall₂ (fun a b => back a = some b) l l')
    (each : ∀ a ∈ l, ∀ b, back a = some b → (agree b a ↔ b = a)) :
    (∀ p ∈ l'.zip l, agree p.1 p.2) ↔ l' = l := by
  induction pairs with
  | nil => simp
  | cons head _ ih =>
    obtain ⟨first, others⟩ := List.forall_mem_cons.mp each
    rw [List.zip_cons_cons, List.forall_mem_cons, ih others, first _ head, List.cons.injEq]

end Lists

/-! ## Series -/

/-- A sample that came back agrees with the one that was written if it is the same. -/
theorem Sample.agrees_iff {p q : Sample} (finite : p.value.isFinite = true)
    (back : p.returned? = some q) : q.agrees p = true ↔ q = p := by
  obtain ⟨y, value, rfl⟩ := Option.map_eq_some_iff.mp back
  constructor
  · intro agrees
    have same := (Bool.and_eq_true_iff.mp agrees).1
    have equal : y = p.value := Binary64.eq_of_sameValue (Binary64.isNaN_of_isFinite finite)
      (Json.negative_of_returned? finite value) same
    rw [equal]
  · intro equal
    rw [equal]
    simp [Sample.agrees]

/-- Points that came back have the step that was written. -/
theorem Series.step?_of_pairs {s : Series} {ps : List Sample}
    (pairs : List.Forall₂ (fun p q => p.returned? = some q) s.points ps) :
    Series.step? { s with points := ps } = s.step? := by
  have time {p q : Sample} (back : p.returned? = some q) : q.timestamp = p.timestamp := by
    obtain ⟨y, -, rfl⟩ := Option.map_eq_some_iff.mp back
    rfl
  unfold Series.step?
  cases points : s.points with
  | nil =>
    rw [points] at pairs
    cases pairs
    rfl
  | cons first more =>
    rw [points] at pairs
    cases pairs with
    | cons head tail =>
      cases tail with
      | nil => rfl
      | cons next _ => simp only [time head, time next]

/-- A series that came back is equal to the one that was written if it is the same. -/
theorem Series.compare_eq_nil_iff {s r : Series}
    (finite : ∀ p ∈ s.points, p.value.isFinite = true) (back : s.returned? = some r) :
    r.compare s = [] ↔ r = s := by
  obtain ⟨ps, points, rfl⟩ := Option.map_eq_some_iff.mp back
  have pairs := forall₂_of_mapM points
  have step : stepDiffers { s with points := ps } s = none := by
    unfold stepDiffers
    rw [step?_of_pairs pairs]
    cases s.step? with
    | none => rfl
    | some d => exact if_pos rfl
  have agree : ((ps.zip s.points).all fun p => p.1.agrees p.2) = true ↔ ps = s.points := by
    rw [List.all_eq_true]
    exact zip_agree_iff pairs fun p mem q back => Sample.agrees_iff (finite p mem) back
  have same : ({ s with points := ps } : Series) = s ↔ ps = s.points := by
    constructor
    · intro equal
      exact congrArg Series.points equal
    · rintro rfl
      rfl
  rw [compare, mismatch?, if_neg (not_not_intro rfl),
    if_neg (not_not_intro pairs.length_eq.symm), step, same]
  dsimp only
  split_ifs with all
  · exact iff_of_true rfl (agree.mp all)
  · exact iff_of_false (by simp) fun equal => all (agree.mpr equal)

/-- All values come back as they were. -/
def Series.Survives (s : Series) : Prop := ∀ p ∈ s.points, Json.returned? p.value = some p.value

theorem Series.returned?_eq_self_iff {s : Series} : s.returned? = some s ↔ s.Survives := by
  have sample {p : Sample} : p.returned? = some p ↔ Json.returned? p.value = some p.value := by
    rw [Sample.returned?]
    constructor
    · intro back
      obtain ⟨y, value, equal⟩ := Option.map_eq_some_iff.mp back
      rw [value, ← congrArg Sample.value equal]
    · intro value
      rw [value]
      rfl
  have points : s.points.mapM Sample.returned? = some s.points ↔ s.Survives :=
    mapM_eq_self_iff.trans (forall₂_congr fun p _ => sample)
  rw [← points, Series.returned?]
  constructor
  · intro back
    obtain ⟨ps, read, equal⟩ := Option.map_eq_some_iff.mp back
    rw [read, ← congrArg Series.points equal]
  · intro read
    rw [read]
    rfl

/-! ## Payloads -/

namespace Payload

open Text

/-- A judgement of series is clean if the body is read as series that agree with the expected ones
position by position. -/
theorem judgeSeries_eq_nil_iff {body : Bytes} {expected : List Series} :
    judgeSeries body expected = [] ↔ ∃ observed, Json.seriesOfDocument body = .ok observed ∧
      observed.length = expected.length ∧ ∀ p ∈ observed.zip expected, p.1.compare p.2 = [] := by
  unfold judgeSeries
  cases Json.seriesOfDocument body with
  | error f => simp
  | ok observed =>
    dsimp only
    split_ifs with count
    · simp [count]
    · simp [not_not.mp count]

/-- A written list is judged clean against itself if all its values come back. -/
theorem judgeSeries_written {l : List Series}
    (finite : ∀ s ∈ l, ∀ p ∈ s.points, p.value.isFinite = true)
    (ordered : ∀ s ∈ l, s.tags.Ordered) :
    judgeSeries (Utf8.encode (Json.writeSeriesList l)) l = [] ↔ ∀ s ∈ l, s.Survives := by
  have read := Json.toOption_seriesOfDocument finite ordered
  have survive : l.mapM Series.returned? = some l ↔ ∀ s ∈ l, s.Survives :=
    mapM_eq_self_iff.trans (forall₂_congr fun s _ => Series.returned?_eq_self_iff)
  have agree {l' : List Series} (back : l.mapM Series.returned? = some l') :
      (∀ p ∈ l'.zip l, p.1.compare p.2 = []) ↔ l' = l :=
    zip_agree_iff (forall₂_of_mapM back) fun s mem r back =>
      Series.compare_eq_nil_iff (finite s mem) back
  rw [judgeSeries_eq_nil_iff, ← survive]
  constructor
  · rintro ⟨observed, ok, -, same⟩
    rw [ok] at read
    rw [← read, (agree read.symm).mp same]
    rfl
  · intro back
    rw [back] at read
    cases document : Json.seriesOfDocument (Utf8.encode (Json.writeSeriesList l)) with
    | error f =>
      rw [document] at read
      cases read
    | ok observed =>
      rw [document] at read
      cases read
      exact ⟨l, rfl, rfl, (agree back).mpr rfl⟩

theorem survives_of_small {s : Series} (finite : ∀ p ∈ s.points, p.value.isFinite = true)
    (small : ∀ p ∈ s.points, ∃ t, Binary64.document.Writes t p.value ∧ t.digits ≤ 2 ^ 53 ∧
      t.power.natAbs ≤ 22) : s.Survives := fun p mem => by
  obtain ⟨t, writes, digits, power⟩ := small p mem
  exact Json.returned?_of_small (finite p mem) writes digits power

/-- **A payload is judged clean against itself just if its values come back.** Whatever its targets,
tags and timestamps are, a written list of series with finite values is read as the list of what
comes back of each; no failure is reported just if every value does; and the values do that are
written with digits up to 2 to the power 53 and a power of ten up to 22. -/
theorem judge_written {l : List Series} (digests : List String)
    (finite : ∀ s ∈ l, ∀ p ∈ s.points, p.value.isFinite = true)
    (ordered : ∀ s ∈ l, s.tags.Ordered) :
    (Json.seriesOfDocument (Utf8.encode (Json.writeSeriesList l))).toOption =
        l.mapM Series.returned? ∧
      (judge "application/json" (Utf8.encode (Json.writeSeriesList l)) ⟨digests, l⟩ = [] ↔
        ∀ s ∈ l, s.Survives) ∧
      ((∀ s ∈ l, ∀ p ∈ s.points, ∃ t, Binary64.document.Writes t p.value ∧ t.digits ≤ 2 ^ 53 ∧
          t.power.natAbs ≤ 22) →
        judge "application/json" (Utf8.encode (Json.writeSeriesList l)) ⟨digests, l⟩ = []) := by
  have clean : judge "application/json" (Utf8.encode (Json.writeSeriesList l)) ⟨digests, l⟩ = [] ↔
      ∀ s ∈ l, s.Survives := by
    have kind : kind? "application/json" = some .series := by decide
    rw [judge, kind]
    exact judgeSeries_written finite ordered
  exact ⟨Json.toOption_seriesOfDocument finite ordered, clean, fun small =>
    clean.mpr fun s mem => survives_of_small (finite s mem) (small s mem)⟩

/-- A point of one and a half under a tag. -/
def oneAndHalf : Series := ⟨"a", [⟨.ofBits 0x3FF8000000000000, 60⟩], ⟨[("b", "c")]⟩⟩

theorem judge_written_oneAndHalf :
    (∀ s ∈ [oneAndHalf], ∀ p ∈ s.points, p.value.isFinite = true) ∧
      (∀ s ∈ [oneAndHalf], s.tags.Ordered) ∧
      judge "application/json" (Utf8.encode (Json.writeSeriesList [oneAndHalf]))
        ⟨[], [oneAndHalf]⟩ = [] := by
  have finite : ∀ s ∈ [oneAndHalf], ∀ p ∈ s.points, p.value.isFinite = true := by decide
  have ordered : ∀ s ∈ [oneAndHalf], s.tags.Ordered := fun s mem => by
    cases List.mem_singleton.mp mem
    exact List.pairwise_singleton _ _
  have survives : ∀ s ∈ [oneAndHalf], s.Survives := fun s mem => by
    cases List.mem_singleton.mp mem
    exact (by decide +kernel : ∀ p ∈ oneAndHalf.points, Json.returned? p.value = some p.value)
  exact ⟨finite, ordered, (judge_written [] finite ordered).2.1.mpr survives⟩

/-- A value that does not come back: 7205759403792796 is written as `7205759403792796.0`, whose
seventeen digits are rounded before they are divided by ten. -/
theorem judge_written_missed : ¬ ∀ (l : List Series) (digests : List String),
    (∀ s ∈ l, ∀ p ∈ s.points, p.value.isFinite = true) → (∀ s ∈ l, s.tags.Ordered) →
      (Json.seriesOfDocument (Utf8.encode (Json.writeSeriesList l))).toOption = some l ∧
        judge "application/json" (Utf8.encode (Json.writeSeriesList l)) ⟨digests, l⟩ = [] := by
  intro claim
  have finite : ∀ s ∈ [(⟨"a", [⟨.ofBits 0x433999999999999C, 60⟩], .empty⟩ : Series)],
      ∀ p ∈ s.points, p.value.isFinite = true := by decide
  have ordered : ∀ s ∈ [(⟨"a", [⟨.ofBits 0x433999999999999C, 60⟩], .empty⟩ : Series)],
      s.tags.Ordered := fun s mem => by
    cases List.mem_singleton.mp mem
    exact Tags.ordered_empty
  obtain ⟨read, -⟩ := claim _ [] finite ordered
  rw [Json.toOption_seriesOfDocument finite ordered] at read
  have survives := Series.returned?_eq_self_iff.mp (mapM_eq_self_iff.mp read _ List.mem_cons_self)
  have value := survives _ List.mem_cons_self
  exact absurd value (by decide +kernel)

end Payload

end MetricsHarness
