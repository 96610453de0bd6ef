import MetricsHarness.Proofs.SeriesShapes
import MetricsHarness.Proofs.SpelledPassing

/-!
# Bodies that are decoded

Which bodies decode, and into which series, is said by the grammar (`Decodes`): the body spells a
list, and each of its elements means a series. The decoder answers these series and no others
(`seriesOfDocument_eq_ok_iff`). What it answers is what the elements mean (`accepts_readSeries`),
and what they mean is taken (`takes_readSeries`): the members of an object one by one, as long as no
part comes twice, and the parts of a list by their place.
-/

namespace MetricsHarness.Json

open Grammar

variable {α : Type} {s rest : Bytes}

/-- **What a body decodes to:** it spells a list with a value for each series, which means it. -/
def Decodes (body : Bytes) (observed : List Series) : Prop :=
  ∃ items, Document body (.list items) ∧ List.Forall₂ Means observed items

/-! ## Objects -/

theorem takes_points : Takes (readList readSample) HasPoints := takes_readList takes_readSample

theorem finish_members {m : SeriesMembers} {series : Series}
    (target : m.target = some series.target) (points : series.points = m.points.getD [])
    (tags : series.tags = m.tags.getD .empty) (s : Bytes) : m.finish s = .ok series s := by
  rw [SeriesMembers.finish, target]
  dsimp only
  rw [← points, ← tags]
  rfl

/-- A part that has not been read before is taken behind its colon. -/
theorem part_of_taken {γ : Type} {known : Option α} {name : String} {part : Reader α}
    {next : α → Reader γ} {tail : Bytes} {a : α} (fresh : known = none)
    (marked : colon s = .ok () tail) (taken : part tail = .ok a rest) :
    (do
      if known.isSome then duplicate name
      colon
      let a ← part
      next a : Reader γ) s = next a rest := by
  subst fresh
  show (colon >>= fun _ => part >>= next) s = _
  rw [bind_eq marked, bind_eq taken]

/-- Members that make the parts of a series are read as the series. -/
theorem readMembers_of_elements {fuel : Nat} {first : Bool} {m after : SeriesMembers}
    {series : Series} {members : List (Option String × Value)}
    (elements : Elements 0x7D (Member Spelled) first s members rest)
    (fields : Fields m after members) (target : after.target = some series.target)
    (points : series.points = after.points.getD []) (tags : series.tags = after.tags.getD .empty)
    (room : s.length < fuel) : readMembers fuel first m s = .ok series (0x7D :: rest) := by
  induction members generalizing s first m fuel with
  | nil =>
    obtain ⟨fuel, rfl⟩ := Nat.exists_eq_succ_of_ne_zero (Nat.ne_zero_of_lt room)
    obtain rfl := Fields.nil_iff.mp fields
    unfold readMembers
    rw [bind_eq (nextKey_nil elements)]
    exact finish_members target points tags _
  | cons member others ih =>
    obtain ⟨fuel, rfl⟩ := Nat.exists_eq_succ_of_ne_zero (Nat.ne_zero_of_lt room)
    obtain ⟨key, v⟩ := member
    obtain ⟨name, rfl⟩ := fields.keys _ List.mem_cons_self
    obtain ⟨mid, left, tail, last, next, read, marked, value, more, shorter⟩ :=
      nextKey_cons elements
    have stops := more.stops (.inr rfl)
    have later {m : SeriesMembers} (fields : Fields m after others) :
        readMembers fuel false m last = .ok series (0x7D :: rest) :=
      ih more fields (by omega)
    unfold readMembers
    rw [bind_eq next]
    show (readText >>= _) mid = _
    rw [bind_eq read]
    by_cases isTarget : name = "target"
    · subst isTarget
      obtain ⟨fresh, t, text, fields⟩ := Fields.cons_target.mp fields
      rw [if_pos rfl]
      exact (part_of_taken fresh marked (takes_readTextValue value stops text)).trans
        (later fields)
    by_cases isPoints : name = "datapoints"
    · subst isPoints
      obtain ⟨fresh, ps, has, fields⟩ := Fields.cons_points.mp fields
      rw [if_neg isTarget, if_pos rfl]
      exact (part_of_taken fresh marked (takes_points value stops has)).trans (later fields)
    by_cases isTags : name = "tags"
    · subst isTags
      obtain ⟨fresh, tags, has, fields⟩ := Fields.cons_tags.mp fields
      rw [if_neg isTarget, if_neg isPoints, if_pos rfl]
      exact (part_of_taken fresh marked (takes_readTags value stops has)).trans (later fields)
    · have fields := (Fields.cons_other isTarget isPoints isTags).mp fields
      rw [if_neg isTarget, if_neg isPoints, if_neg isTags, bind_eq marked,
        bind_eq (passValue_of_spelled value stops)]
      exact later fields

/-! ## Lists -/

/-- An element that stands there is read. -/
theorem readOptional_cons {element : Reader α} {R : α → Value → Prop} (takes : Takes element R)
    {first : Bool} {a : α} {v : Value} {others : List Value} (related : R a v)
    (elements : Elements 0x5D Spelled first s (v :: others) rest) :
    ∃ mid, readOptional element first s = .ok (some a) mid ∧ More 0x5D Spelled mid others rest := by
  obtain ⟨mid, mid', next, value, more, -⟩ := nextElement_cons elements
  refine ⟨mid', ?_, more⟩
  unfold readOptional
  rw [bind_eq next]
  show (element >>= _) mid = _
  rw [bind_eq (takes value (more.stops (.inl rfl)) related)]
  rfl

theorem readOptional_nil {element : Reader α} {first : Bool}
    (elements : Elements 0x5D Spelled first s [] rest) :
    readOptional element first s = .ok none (0x5D :: rest) := by
  unfold readOptional
  rw [bind_eq (nextElement_nil elements)]
  rfl

/-- Parts in their places are read as the series. -/
theorem readListed_of_inside {series : Series} {parts : List Value}
    (inside : Inside 0x5D Spelled s parts rest) (places : Places series parts) :
    ∃ mid, readListed s = .ok series mid ∧ closeList mid = .ok () rest := by
  have ends {mid : Bytes} (more : More 0x5D Spelled mid [] rest) {α : Type} (element : Reader α) :
      readOptional element false mid = .ok none (0x5D :: rest) :=
    readOptional_nil (.of_more more)
  cases places with
  | @target t =>
    obtain ⟨mid, read, more⟩ := readOptional_cons takes_readTextValue (a := t) rfl
      (.of_inside inside)
    refine ⟨0x5D :: rest, ?_, rfl⟩
    unfold readListed
    rw [bind_eq read]
    show (readOptional _ false >>= _) mid = _
    rw [bind_eq (ends more _)]
    rfl
  | @points t ps items samples =>
    obtain ⟨mid, read, more⟩ := readOptional_cons takes_readTextValue (a := t) rfl
      (.of_inside inside)
    obtain ⟨mid', read', more'⟩ := readOptional_cons takes_points (a := ps) ⟨items, rfl, samples⟩
      (.of_more more)
    refine ⟨0x5D :: rest, ?_, rfl⟩
    unfold readListed
    rw [bind_eq read]
    show (readOptional _ false >>= _) mid = _
    rw [bind_eq read', bind_eq (ends more' _)]
    rfl
  | @tags t ps items tags entries samples are =>
    obtain ⟨mid, read, more⟩ := readOptional_cons takes_readTextValue (a := t) rfl
      (.of_inside inside)
    obtain ⟨mid', read', more'⟩ := readOptional_cons takes_points (a := ps) ⟨items, rfl, samples⟩
      (.of_more more)
    obtain ⟨mid'', read'', more''⟩ := readOptional_cons takes_readTags (a := tags)
      ⟨entries, rfl, are⟩ (.of_more more')
    refine ⟨mid'', ?_, closeList_of_more more''⟩
    unfold readListed
    rw [bind_eq read]
    show (readOptional _ false >>= _) mid = _
    rw [bind_eq read', bind_eq read'']
    rfl

/-! ## Documents -/

/-- **A value that means a series is taken.** -/
theorem takes_readSeries : Takes readSeries Means := by
  rintro s v rest series value - (⟨members, rfl, names⟩ | ⟨parts, rfl, places⟩)
  · obtain ⟨tail, front, inside⟩ := value.object_front
    obtain ⟨after, fields, target, points, tags⟩ := exists_fields_iff.mpr names
    exact readAny_object front (readMembers_of_elements (.of_inside inside) fields target points
      tags (Nat.lt_succ_self _))
  · obtain ⟨tail, front, inside⟩ := value.list_front
    obtain ⟨mid, read, closes⟩ := readListed_of_inside inside places
    exact readAny_list front read closes

/-- What a document says is read, if it is taken. -/
theorem readDocument_of_takes {r : Reader α} {R : α → Value → Prop} (takes : Takes r R)
    {document : Bytes} {v : Value} {a : α} (spelled : Document document v) (related : R a v) :
    readDocument r document = .ok a := by
  obtain ⟨rest, value, blank⟩ := spelled
  unfold readDocument
  dsimp only
  rw [bind_eq (takes value (stops_of_blanks blank) related), bind_skipBlanks,
    List.dropWhile_eq_nil_iff.mpr blank]
  rfl

/-- **A body is decoded to the series it spells,** and to none if it spells none. -/
theorem seriesOfDocument_eq_ok_iff {body : Bytes} {observed : List Series} :
    seriesOfDocument body = .ok observed ↔ Decodes body observed := by
  constructor
  · intro decoded
    obtain ⟨_, document, items, rfl, means⟩ :=
      readDocument_eq_ok (accepts_readList accepts_readSeries.before) decoded
    exact ⟨items, document, means⟩
  · rintro ⟨items, document, means⟩
    exact readDocument_of_takes (takes_readList takes_readSeries) document ⟨items, rfl, means⟩

/-- A body decodes to one list of series only. -/
theorem Decodes.unique {body : Bytes} {observed observed' : List Series}
    (decodes : Decodes body observed) (decodes' : Decodes body observed') :
    observed = observed' :=
  Except.ok.inj ((seriesOfDocument_eq_ok_iff.mpr decodes).symm.trans
    (seriesOfDocument_eq_ok_iff.mpr decodes'))

end MetricsHarness.Json
