import MetricsHarness.Proofs.Payloads
import MetricsHarness.Proofs.TagShapes

/-!
# What is judged clean

A body of series is judged clean only if it spells a list with one element for each expected series,
which tells its target and as many points as it has (`isSeries_of_judge`). An element does so as an
object, whose members of other names count for nothing (`Tells`), or as a list (`Lists`). So an
object is not the only form that passes (`not_tells_of_judge`).

The members of an object are read one by one into the parts of a series. A part that was read stays
the only one of its name (`Fields`), which is what the induction over the members carries. What
stands among the points of a series that is read is a sample (`accepts_series`).
-/

namespace MetricsHarness

namespace Json

open Grammar

variable {α : Type} {s rest : Bytes}

/-- The members of an object tell a series: its target once, as many points as it has, and tags
that are texts. Points, if there are none, and tags can be left out; neither stands there twice. -/
structure Tells (target : String) (count : Nat) (members : List (Option String × Value)) :
    Prop where
  target : valuesOf "target" members = [.text (some target)]
  points : valuesOf "datapoints" members = [] ∧ count = 0 ∨
    ∃ items, valuesOf "datapoints" members = [.list items] ∧ items.length = count
  tags : valuesOf "tags" members = [] ∨
    ∃ entries, valuesOf "tags" members = [.object entries] ∧
      ∀ e ∈ entries, ∃ t, e.2 = .text (some t)

/-- The elements of a list tell a series: target, points and tags in this order. Tags can be left
out, and points if there are none and no tags either. -/
inductive Lists (target : String) : Nat → List Value → Prop
  | target : Lists target 0 [.text (some target)]
  | points {items : List Value} : Lists target items.length [.text (some target), .list items]
  | tags {items : List Value} {entries : List (Option String × Value)}
    (texts : ∀ e ∈ entries, ∃ t, e.2 = .text (some t)) :
    Lists target items.length [.text (some target), .list items, .object entries]

/-- A value tells a series of a target and a number of points. -/
def IsSeries (target : String) (count : Nat) (v : Value) : Prop :=
  (∃ members, v = .object members ∧ Tells target count members) ∨
    ∃ parts, v = .list parts ∧ Lists target count parts

/-- A value stands where a series has its points. -/
inductive HasPoint : Value → Value → Prop
  | member {members : List (Option String × Value)} {items : List Value} {w : Value}
    (named : (some "datapoints", .list items) ∈ members) (within : w ∈ items) :
    HasPoint (.object members) w
  | listed {target w : Value} {items more : List Value} (within : w ∈ items) :
    HasPoint (.list (target :: .list items :: more)) w

/-- Values that are samples, one by one. -/
def AreSamples (ps : List Sample) (items : List Value) : Prop :=
  List.Forall₂ (fun p w => IsSample w p) ps items

/-- A value is a list of samples. -/
def HasPoints (ps : List Sample) (v : Value) : Prop :=
  ∃ items, v = .list items ∧ AreSamples ps items

/-- The members of an object are those of a series: every key says a string, and the target stands
there once. Points and tags can be left out, which is to have none; neither stands there twice.
Members of other names are passed over. -/
structure Names (series : Series) (members : List (Option String × Value)) : Prop where
  keys : ∀ m ∈ members, ∃ name, m.1 = some name
  target : valuesOf "target" members = [.text (some series.target)]
  points : valuesOf "datapoints" members = [] ∧ series.points = [] ∨
    ∃ v, valuesOf "datapoints" members = [v] ∧ HasPoints series.points v
  tags : valuesOf "tags" members = [] ∧ series.tags = .empty ∨
    ∃ v, valuesOf "tags" members = [v] ∧ HasTags series.tags v

/-- The elements of a list are those of a series: target, points and tags in this order. Tags can be
left out, and so can points and tags. -/
inductive Places : Series → List Value → Prop
  | target {t : String} : Places ⟨t, [], .empty⟩ [.text (some t)]
  | points {t : String} {ps : List Sample} {items : List Value} (samples : AreSamples ps items) :
    Places ⟨t, ps, .empty⟩ [.text (some t), .list items]
  | tags {t : String} {ps : List Sample} {items : List Value} {tags : Tags}
    {entries : List (Option String × Value)} (samples : AreSamples ps items)
    (are : AreTags tags entries) :
    Places ⟨t, ps, tags⟩ [.text (some t), .list items, .object entries]

/-- A value means a series, as an object or as a list. -/
def Means (series : Series) (v : Value) : Prop :=
  (∃ members, v = .object members ∧ Names series members) ∨
    ∃ parts, v = .list parts ∧ Places series parts

/-- Every element on the right has one on the left that goes with it. -/
theorem exists_of_forall₂ {β : Type} {R : α → β → Prop} {as : List α} {bs : List β}
    (pairs : List.Forall₂ R as bs) {b : β} (within : b ∈ bs) : ∃ a ∈ as, R a b := by
  induction pairs with
  | nil => nomatch within
  | cons head _ ih =>
    rcases List.mem_cons.mp within with rfl | later
    · exact ⟨_, List.mem_cons_self, head⟩
    · obtain ⟨a, mem, related⟩ := ih later
      exact ⟨a, List.mem_cons_of_mem _ mem, related⟩

/-! ## What a series is told by -/

/-- Members that name a series tell its target and how many points it has. -/
theorem Names.tells {series : Series} {members : List (Option String × Value)}
    (names : Names series members) : Tells series.target series.points.length members where
  target := names.target
  points := by
    refine names.points.imp (fun none => ⟨none.1, ?_⟩) ?_
    · rw [none.2]
      rfl
    · rintro ⟨_, value, items, rfl, samples⟩
      exact ⟨items, value, samples.length_eq.symm⟩
  tags := by
    refine names.tags.imp And.left ?_
    rintro ⟨_, value, entries, rfl, are⟩
    refine ⟨entries, value, fun m mem => ?_⟩
    obtain ⟨e, rfl⟩ := are.texts m mem
    exact ⟨e.2, rfl⟩

/-- Parts that place a series list its target and how many points it has. -/
theorem Places.lists {series : Series} {parts : List Value} (places : Places series parts) :
    Lists series.target series.points.length parts := by
  cases places with
  | target => exact .target
  | points samples =>
    show Lists _ (List.length _) _
    rw [samples.length_eq]
    exact .points
  | tags samples are =>
    show Lists _ (List.length _) _
    rw [samples.length_eq]
    refine .tags fun m mem => ?_
    obtain ⟨e, rfl⟩ := are.texts m mem
    exact ⟨e.2, rfl⟩

/-- A value that means a series tells it. -/
theorem Means.isSeries {series : Series} {v : Value} (means : Means series v) :
    IsSeries series.target series.points.length v := by
  obtain ⟨members, rfl, names⟩ | ⟨parts, rfl, places⟩ := means
  · exact .inl ⟨members, rfl, names.tells⟩
  · exact .inr ⟨parts, rfl, places.lists⟩

/-- What stands among the points of a value that means a series is a sample. -/
theorem Means.exists_sample {series : Series} {v w : Value} (means : Means series v)
    (point : HasPoint v w) : ∃ p ∈ series.points, IsSample w p := by
  obtain ⟨members, rfl, names⟩ | ⟨parts, rfl, places⟩ := means
  · cases point with
    | @member _ items _ named within =>
      have value : .list items ∈ valuesOf "datapoints" members :=
        List.mem_filterMap.mpr ⟨_, named, if_pos rfl⟩
      obtain ⟨none, -⟩ | ⟨_, only, items', rfl, samples⟩ := names.points
      · rw [none] at value
        nomatch value
      · rw [only] at value
        cases List.mem_singleton.mp value
        exact exists_of_forall₂ samples within
  · cases point with
    | listed within =>
      cases places with
      | points samples => exact exists_of_forall₂ samples within
      | tags samples _ => exact exists_of_forall₂ samples within

/-! ## Members of a series -/

/-- What the members of a name make of what was read before: nothing, if there are none; and one
gives a value where none was read. -/
inductive Field (R : α → Value → Prop) : Option α → List Value → Option α → Prop
  | none {o : Option α} : Field R o [] o
  | one {a : α} {v : Value} (related : R a v) : Field R .none [v] (some a)

/-- Without a value the part stays what it was. -/
theorem Field.nil_iff {R : α → Value → Prop} {o o' : Option α} : Field R o [] o' ↔ o = o' := by
  constructor
  · rintro (_ | _)
    rfl
  · rintro rfl
    exact .none

/-- A value that was read stays the only one. -/
theorem Field.cons_iff {R : α → Value → Prop} {v : Value} {values : List Value} {o o' : Option α} :
    Field R o (v :: values) o' ↔ o = .none ∧ ∃ a, R a v ∧ Field R (some a) values o' := by
  constructor
  · rintro (_ | related)
    exact ⟨rfl, _, related, .none⟩
  · rintro ⟨rfl, a, related, later⟩
    cases later
    exact .one related

/-- What the members of an object make of the parts of a series. -/
structure Fields (before after : SeriesMembers) (members : List (Option String × Value)) :
    Prop where
  keys : ∀ m ∈ members, ∃ name, m.1 = some name
  target : Field (fun t v => v = .text (some t)) before.target (valuesOf "target" members)
    after.target
  points : Field HasPoints before.points (valuesOf "datapoints" members) after.points
  tags : Field HasTags before.tags (valuesOf "tags" members) after.tags

namespace Fields

variable {m after : SeriesMembers} {members : List (Option String × Value)} {v : Value}

/-- Without members the parts stay what they were. -/
theorem nil_iff : Fields m after [] ↔ m = after := by
  constructor
  · rintro ⟨-, target, points, tags⟩
    obtain ⟨t, ps, ts⟩ := m
    obtain rfl : t = after.target := Field.nil_iff.mp target
    obtain rfl : ps = after.points := Field.nil_iff.mp points
    obtain rfl : ts = after.tags := Field.nil_iff.mp tags
    rfl
  · rintro rfl
    exact ⟨fun _ none => (nomatch none), .none, .none, .none⟩

/-- A target is known once, and is a text. -/
theorem cons_target : Fields m after ((some "target", v) :: members) ↔
    m.target = none ∧ ∃ t, v = .text (some t) ∧
      Fields { m with target := some t } after members := by
  constructor
  · rintro ⟨keys, target, points, tags⟩
    rw [valuesOf_cons_self, Field.cons_iff] at target
    rw [valuesOf_cons_of_ne (by decide)] at points tags
    obtain ⟨fresh, t, related, target⟩ := target
    exact ⟨fresh, t, related, (List.forall_mem_cons.mp keys).2, target, points, tags⟩
  · rintro ⟨fresh, t, related, keys, target, points, tags⟩
    refine ⟨List.forall_mem_cons.mpr ⟨⟨_, rfl⟩, keys⟩, ?_, ?_, ?_⟩
    · rw [valuesOf_cons_self, Field.cons_iff]
      exact ⟨fresh, t, related, target⟩
    · rwa [valuesOf_cons_of_ne (by decide)]
    · rwa [valuesOf_cons_of_ne (by decide)]

/-- Points are known once, and are samples. -/
theorem cons_points : Fields m after ((some "datapoints", v) :: members) ↔
    m.points = none ∧ ∃ ps, HasPoints ps v ∧
      Fields { m with points := some ps } after members := by
  constructor
  · rintro ⟨keys, target, points, tags⟩
    rw [valuesOf_cons_self, Field.cons_iff] at points
    rw [valuesOf_cons_of_ne (by decide)] at target tags
    obtain ⟨fresh, ps, related, points⟩ := points
    exact ⟨fresh, ps, related, (List.forall_mem_cons.mp keys).2, target, points, tags⟩
  · rintro ⟨fresh, ps, related, keys, target, points, tags⟩
    refine ⟨List.forall_mem_cons.mpr ⟨⟨_, rfl⟩, keys⟩, ?_, ?_, ?_⟩
    · rwa [valuesOf_cons_of_ne (by decide)]
    · rw [valuesOf_cons_self, Field.cons_iff]
      exact ⟨fresh, ps, related, points⟩
    · rwa [valuesOf_cons_of_ne (by decide)]

/-- Tags are known once, and are an object of texts. -/
theorem cons_tags : Fields m after ((some "tags", v) :: members) ↔
    m.tags = none ∧ ∃ tags, HasTags tags v ∧ Fields { m with tags := some tags } after members := by
  constructor
  · rintro ⟨keys, target, points, tags⟩
    rw [valuesOf_cons_self, Field.cons_iff] at tags
    rw [valuesOf_cons_of_ne (by decide)] at target points
    obtain ⟨fresh, read, related, tags⟩ := tags
    exact ⟨fresh, read, related, (List.forall_mem_cons.mp keys).2, target, points, tags⟩
  · rintro ⟨fresh, read, related, keys, target, points, tags⟩
    refine ⟨List.forall_mem_cons.mpr ⟨⟨_, rfl⟩, keys⟩, ?_, ?_, ?_⟩
    · rwa [valuesOf_cons_of_ne (by decide)]
    · rwa [valuesOf_cons_of_ne (by decide)]
    · rw [valuesOf_cons_self, Field.cons_iff]
      exact ⟨fresh, read, related, tags⟩

/-- Members of other names make nothing of the series. -/
theorem cons_other {name : String} (noTarget : name ≠ "target") (noPoints : name ≠ "datapoints")
    (noTags : name ≠ "tags") :
    Fields m after ((some name, v) :: members) ↔ Fields m after members := by
  have named := valuesOf_cons_of_ne noTarget v members
  have listed := valuesOf_cons_of_ne noPoints v members
  have tagged := valuesOf_cons_of_ne noTags v members
  constructor
  · rintro ⟨keys, target, points, tags⟩
    exact ⟨(List.forall_mem_cons.mp keys).2, named ▸ target, listed ▸ points, tagged ▸ tags⟩
  · rintro ⟨keys, target, points, tags⟩
    exact ⟨List.forall_mem_cons.mpr ⟨⟨_, rfl⟩, keys⟩, named ▸ target, listed ▸ points,
      tagged ▸ tags⟩

end Fields

/-- A series needs a target; points and tags may be left out. -/
theorem finish_members_eq_ok {m : SeriesMembers} {series : Series}
    (h : m.finish s = .ok series rest) :
    s = rest ∧ m.target = some series.target ∧ series.points = m.points.getD [] ∧
      series.tags = m.tags.getD .empty := by
  unfold SeriesMembers.finish at h
  cases target : m.target with
  | none =>
    rw [target] at h
    nomatch h
  | some t =>
    rw [target] at h
    obtain ⟨rfl, rfl⟩ := pure_eq_ok h
    exact ⟨rfl, rfl, rfl, rfl⟩

/-- The points of a series are read from a list of samples. -/
theorem accepts_points : Accepts (readList readSample) HasPoints :=
  accepts_readList accepts_readSample.before

/-- A part of a series is read behind its colon, if it has not been read before. -/
theorem part_eq_ok {α γ : Type} {known : Option α} {name : String} {part : Reader α}
    {next : α → Reader γ} {c : γ} {mid : Bytes} {R : α → Value → Prop} (accepts : Accepts part R)
    (h : (do
      if known.isSome then duplicate name
      colon
      let a ← part
      next a : Reader γ) s = .ok c mid) :
    known = none ∧ ∃ a v left left', colon s = .ok () left ∧ Spelled left v left' ∧ R a v ∧
      next a left' = .ok c mid := by
  obtain ⟨-, h⟩ | ⟨fresh, h⟩ := branch_eq_ok h
  · nomatch h
  obtain ⟨_, left, marked, h⟩ := bind_eq_ok h
  obtain ⟨a, left', read, h⟩ := bind_eq_ok h
  obtain ⟨v, value, related⟩ := accepts read
  exact ⟨Option.not_isSome_iff_eq_none.mp fresh, a, v, left, left', marked, value, related, h⟩

/-- Members that are read up to the brace are spelled, and fill in the fields of the series. -/
theorem readMembers_eq_ok {fuel : Nat} {first : Bool} {m : SeriesMembers} {series : Series}
    {mid : Bytes} (h : readMembers fuel first m s = .ok series mid)
    (closes : closeObject mid = .ok () rest) :
    ∃ members m', Elements 0x7D (Member Spelled) first s members rest ∧ Fields m m' members ∧
      m'.target = some series.target ∧ series.points = m'.points.getD [] ∧
      series.tags = m'.tags.getD .empty := by
  induction fuel generalizing s first m with
  | zero => nomatch h
  | succ fuel ih =>
    unfold readMembers at h
    obtain ⟨inside, mid', next, h⟩ := bind_eq_ok h
    obtain ⟨rfl, advances, quote⟩ | ⟨rfl, blanks⟩ := nextKey_eq_ok next
    · obtain ⟨name, left, read, h⟩ := bind_eq_ok h
      obtain ⟨rfl, h⟩ | ⟨noTarget, h⟩ := branch_eq_ok h
      · obtain ⟨fresh, t, v, left', left'', marked, value, related, h⟩ :=
          part_eq_ok accepts_readTextValue h
        obtain ⟨members, m', others, fields, result⟩ := ih h
        exact ⟨_, m', advances.member quote read marked value others,
          Fields.cons_target.mpr ⟨fresh, t, related, fields⟩, result⟩
      obtain ⟨rfl, h⟩ | ⟨noPoints, h⟩ := branch_eq_ok h
      · obtain ⟨fresh, ps, v, left', left'', marked, value, related, h⟩ :=
          part_eq_ok accepts_points h
        obtain ⟨members, m', others, fields, result⟩ := ih h
        exact ⟨_, m', advances.member quote read marked value others,
          Fields.cons_points.mpr ⟨fresh, ps, related, fields⟩, result⟩
      obtain ⟨rfl, h⟩ | ⟨noTags, h⟩ := branch_eq_ok h
      · obtain ⟨fresh, tags, v, left', left'', marked, value, related, h⟩ :=
          part_eq_ok accepts_readTags h
        obtain ⟨members, m', others, fields, result⟩ := ih h
        exact ⟨_, m', advances.member quote read marked value others,
          Fields.cons_tags.mpr ⟨fresh, tags, related, fields⟩, result⟩
      · obtain ⟨_, left', marked, h⟩ := bind_eq_ok h
        obtain ⟨_, left'', passed, h⟩ := bind_eq_ok h
        obtain ⟨v, value⟩ := passValue_eq_ok passed
        obtain ⟨members, m', others, fields, result⟩ := ih h
        exact ⟨_, m', advances.member quote read marked value others,
          (Fields.cons_other noTarget noPoints noTags).mpr fields, result⟩
    · obtain ⟨rfl, result⟩ := finish_members_eq_ok h
      exact ⟨[], m, elements_nil blanks (closeObject_eq_ok closes), Fields.nil_iff.mpr rfl, result⟩

/-- Where nothing was read before, a part is the one that stands there or has its default. -/
theorem exists_field_iff {R : α → Value → Prop} {default a : α} {values : List Value} :
    (∃ o, Field R none values o ∧ a = o.getD default) ↔
      values = [] ∧ a = default ∨ ∃ v, values = [v] ∧ R a v := by
  constructor
  · rintro ⟨o, field, rfl⟩
    cases field with
    | none => exact .inl ⟨rfl, rfl⟩
    | one related => exact .inr ⟨_, rfl, related⟩
  · rintro (⟨rfl, rfl⟩ | ⟨v, rfl, related⟩)
    · exact ⟨none, .none, rfl⟩
    · exact ⟨some a, .one related, rfl⟩

/-- The members of an object make the parts of a series if they are those of the series. -/
theorem exists_fields_iff {series : Series} {members : List (Option String × Value)} :
    (∃ after, Fields ⟨none, none, none⟩ after members ∧ after.target = some series.target ∧
      series.points = after.points.getD [] ∧ series.tags = after.tags.getD .empty) ↔
      Names series members := by
  constructor
  · rintro ⟨after, ⟨keys, named, listed, tagged⟩, target, points, tags⟩
    refine ⟨keys, ?_, ?_, ?_⟩
    · rw [target] at named
      generalize valuesOf "target" members = values at named
      cases named with
      | one related => rw [related]
    · exact exists_field_iff.mp ⟨_, listed, points⟩
    · exact exists_field_iff.mp ⟨_, tagged, tags⟩
  · rintro ⟨keys, target, points, tags⟩
    obtain ⟨listed, fieldPoints, eqPoints⟩ := exists_field_iff.mpr points
    obtain ⟨tagged, fieldTags, eqTags⟩ := exists_field_iff.mpr tags
    exact ⟨⟨some series.target, listed, tagged⟩,
      ⟨keys, target ▸ .one rfl, fieldPoints, fieldTags⟩, rfl, eqPoints, eqTags⟩

/-! ## Series in a list -/

/-- An element that may be missing is missing before the closing bracket only. -/
theorem readOptional_eq_ok {element : Reader α} {R : α → Value → Prop} (accepts : Accepts element R)
    {first : Bool} {o : Option α} (h : readOptional element first s = .ok o rest) :
    (o = none ∧ s.dropWhile isBlankByte = rest ∧ rest.head? = some 0x5D) ∨
      ∃ a v mid, o = some a ∧ Advances first s mid ∧ Spelled mid v rest ∧ R a v := by
  unfold readOptional at h
  obtain ⟨inside, mid, next, h⟩ := bind_eq_ok h
  obtain ⟨rfl, advances⟩ | ⟨rfl, blanks, closing⟩ := nextElement_eq_ok next
  · obtain ⟨a, left, read, h⟩ := bind_eq_ok h
    obtain ⟨rfl, rfl⟩ := pure_eq_ok h
    obtain ⟨v, value, related⟩ := accepts read
    exact .inr ⟨a, v, mid, rfl, advances, value, related⟩
  · obtain ⟨rfl, rfl⟩ := pure_eq_ok h
    exact .inl ⟨rfl, blanks, closing⟩

/-- Before the closing bracket there is no further element. -/
theorem not_advances_of_closing (closing : s.head? = some 0x5D) {mid : Bytes} :
    ¬ Advances false s mid := by
  obtain ⟨tail, rfl⟩ := List.head?_eq_some_iff.mp closing
  rintro (⟨first, -⟩ | ⟨-, tail', comma, -⟩)
  · nomatch first
  · have front : (0x5D : UInt8) :: tail = 0x2C :: tail' := comma
    injection front with byte
    exact absurd byte (by decide)

/-- Parts that are read up to the bracket are spelled, and place a series. -/
theorem readListed_eq_ok {series : Series} {mid : Bytes} (h : readListed s = .ok series mid)
    (closes : closeList mid = .ok () rest) :
    ∃ parts, Inside 0x5D Spelled s parts rest ∧ Places series parts := by
  have closing := closeList_eq_ok closes
  unfold readListed at h
  obtain ⟨o, s₁, readTarget, h⟩ := bind_eq_ok h
  obtain ⟨rfl, -⟩ | ⟨t, v, _, rfl, start, target, rfl⟩ :=
    readOptional_eq_ok accepts_readTextValue readTarget
  · nomatch h
  have begins {parts : List Value} (more : More 0x5D Spelled s₁ parts rest) :
      Inside 0x5D Spelled s (.text (some t) :: parts) rest :=
    start.elements target (fun _ _ => .blank) more
  obtain ⟨ps, s₂, readPoints, h⟩ := bind_eq_ok h
  obtain ⟨ts, s₃, readTags, h⟩ := bind_eq_ok h
  obtain ⟨rfl, rfl⟩ := pure_eq_ok h
  obtain ⟨rfl, blanks, ended⟩ | ⟨points, v, _, rfl, next, value, items, rfl, samples⟩ :=
    readOptional_eq_ok accepts_points readPoints
  · obtain ⟨rfl, blanks', -⟩ | ⟨_, _, _, _, next, -⟩ := readOptional_eq_ok accepts_readTags readTags
    · have more : More 0x5D Spelled s₁ [] rest :=
        more_of_blanks blanks (more_of_blanks blanks' (more_of_blanks closing .close))
      exact ⟨_, begins more, .target⟩
    · exact absurd next (not_advances_of_closing ended)
  · obtain ⟨rfl, blanks', -⟩ | ⟨tags, v, _, rfl, next', value', entries, rfl, are⟩ :=
      readOptional_eq_ok accepts_readTags readTags
    · have more : More 0x5D Spelled s₂ [] rest :=
        more_of_blanks blanks' (more_of_blanks closing .close)
      exact ⟨_, begins (next.elements value (fun _ _ => .blank) more), .points samples⟩
    · have more : More 0x5D Spelled s₂ [.object entries] rest :=
        next'.elements value' (fun _ _ => .blank) (more_of_blanks closing .close)
      exact ⟨_, begins (next.elements value (fun _ _ => .blank) more), .tags samples are⟩

/-! ## Documents -/

/-- What is read as a series is what the value means. -/
theorem accepts_readSeries : Accepts readSeries Means := by
  intro s series rest h
  obtain ⟨tail, mid, blanks, read, closes⟩ | ⟨tail, mid, blanks, read, closes⟩ |
    ⟨_, _, failed, _⟩ := readAny_eq_ok h
  · obtain ⟨parts, inside, places⟩ := readListed_eq_ok read closes
    exact ⟨.list parts, spelled_of_blanks blanks (.list inside), .inr ⟨parts, rfl, places⟩⟩
  · obtain ⟨members, after, inside, fields⟩ := readMembers_eq_ok read closes
    exact ⟨.object members, spelled_of_blanks blanks (.object inside),
      .inl ⟨members, rfl, exists_fields_iff.mp ⟨after, fields⟩⟩⟩
  · nomatch failed

/-- What is read of a document is all that it says. -/
theorem readDocument_eq_ok {r : Reader α} {R : α → Value → Prop} (accepts : Accepts r R)
    {document : Bytes} {a : α} (h : readDocument r document = .ok a) :
    ∃ v, Document document v ∧ R a v := by
  unfold readDocument at h
  dsimp only at h
  split at h
  next b rest whole =>
    injection h with eq
    subst eq
    obtain ⟨c, left, read, whole⟩ := bind_eq_ok whole
    obtain ⟨front, mid, blanks, ahead, whole⟩ := skipBlanks_eq_ok whole
    split at whole
    next =>
      obtain ⟨rfl, rfl⟩ := pure_eq_ok whole
      obtain ⟨v, value, related⟩ := accepts read
      rw [List.head?_eq_none_iff.mp ahead] at blanks
      exact ⟨v, ⟨left, value, List.dropWhile_eq_nil_iff.mp blanks⟩, related⟩
    next => nomatch whole
  next => nomatch h

end Json

namespace Payload

open Json Grammar

/-- Series that agree have one target and as many points. -/
theorem target_eq_of_compare {got want : Series} (agree : got.compare want = []) :
    got.target = want.target ∧ got.points.length = want.points.length := by
  unfold Series.compare Series.mismatch? at agree
  split at agree
  next => nomatch agree
  next target =>
    split at agree
    next => nomatch agree
    next count => exact ⟨not_not.mp target, not_not.mp count⟩

/-- Series that agree are told by the same values. -/
theorem isSeries_of_agree {observed expected : List Series} {items : List Value}
    (agree : List.Forall₂ (fun got want => got.compare want = []) observed expected)
    (told : List.Forall₂ (fun got => IsSeries got.target got.points.length) observed items) :
    List.Forall₂ (fun want => IsSeries want.target want.points.length) expected items := by
  induction agree generalizing items with
  | nil =>
    cases told
    exact .nil
  | cons same _ ih =>
    cases told with
    | cons first others =>
      obtain ⟨target, count⟩ := target_eq_of_compare same
      rw [target, count] at first
      exact .cons first (ih others)

/-- **Only lists of series are judged clean.** A body that leaves nothing to object to is a document
that spells a list with an element for each expected series, in their order; and each element tells
the target of its series and as many points as that has, as an object or as a list. -/
theorem isSeries_of_judge {body : Bytes} {expected : ExpectedResult}
    (clean : judge "application/json" body expected = []) :
    ∃ items, Document body (.list items) ∧
      List.Forall₂ (fun want => IsSeries want.target want.points.length) expected.series items := by
  have kind : kind? "application/json" = some .series := by decide
  rw [judge, kind] at clean
  obtain ⟨observed, document, count, agree⟩ := judgeSeries_eq_nil_iff.mp clean
  obtain ⟨v, spelled, items, rfl, told⟩ :=
    readDocument_eq_ok (accepts_readList accepts_readSeries.before) document
  refine ⟨items, spelled, isSeries_of_agree ?_ (told.imp fun _ _ => Means.isSeries)⟩
  exact List.forall₂_iff_zip.mpr ⟨count, fun mem => agree _ mem⟩

/-- The points at 100 and 200 of a series `a`, and a series `b` without points. -/
def pointsAndNone : ExpectedResult :=
  ⟨[], [⟨"a", [⟨.ofBits 0x3FF0000000000000, 100⟩, ⟨.ofBits 0x4004000000000000, 200⟩], .empty⟩,
    ⟨"b", [], .empty⟩]⟩

/-- An object with an escape in a name and members that nobody asked for, and a list. -/
theorem isSeries_of_judge_mixed : ∃ body items,
    judge "application/json" body pointsAndNone = [] ∧ Document body (.list items) ∧
      List.Forall₂ (fun want => IsSeries want.target want.points.length)
        pointsAndNone.series items := by
  have clean : judge "application/json" (Text.Utf8.encodeString
    ("[\x7b\"tags\":\x7b\"k\":\"v\"\x7d,\"x\":[-1.5e5,\x7b\"a\":null\x7d]," ++
      "\"t\\u0061rget\":\"a\",\"datapoints\":[\"[1, 100]\",[2.5,\"200\"]]\x7d,[\"b\",[]]] "))
        pointsAndNone = [] := by
    decide +kernel
  obtain ⟨items, spelled, told⟩ := isSeries_of_judge clean
  exact ⟨_, items, clean, spelled, told⟩

/-- A list in the place of an object is judged clean: `[["a",[[1,100]],{}]]`. -/
theorem not_tells_of_judge : ¬ ∀ (body : Bytes) (expected : ExpectedResult),
    judge "application/json" body expected = [] →
      ∃ items, Document body (.list items) ∧ List.Forall₂ (fun want item =>
        ∃ members, item = .object members ∧ Tells want.target want.points.length members)
          expected.series items := by
  intro claim
  obtain ⟨items, ⟨rest, spelled, -⟩, told⟩ := claim
    [0x5B, 0x5B, 0x22, 0x61, 0x22, 0x2C, 0x5B, 0x5B, 0x31, 0x2C, 0x31, 0x30, 0x30, 0x5D, 0x5D, 0x2C,
      0x7B, 0x7D, 0x5D, 0x5D]
    ⟨[], [⟨"a", [⟨.ofBits 0x3FF0000000000000, 100⟩], .empty⟩]⟩ (by decide +kernel)
  obtain ⟨_, same, inside⟩ := spelled.of_bracket
  obtain ⟨inner, more, rfl⟩ := inside.of_bracket
  cases same
  cases told with
  | cons first _ =>
    obtain ⟨members, object, -⟩ := first
    nomatch object

end Payload

end MetricsHarness
