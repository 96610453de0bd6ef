import MetricsHarness.Proofs.DocumentSeries
import MetricsHarness.Proofs.SpelledValues
import Mathlib.Data.List.Sort

/-!
# Values that are tags

The tags of a series stand in a document as an object whose keys and values say strings. A name may
stand there more than once; then the last value is its tag (`AreTags`). This says which tags they
are, since tags ascend by name (`AreTags.unique`).

Tags are read one after another into those before them, so the members of the object are what was
put, in this order (`accepts_readTags`, `takes_readTags`).
-/

namespace MetricsHarness

open Json Grammar

/-! ## Tags that are put one after another -/

namespace Tags

/-- Puts values under names one after another. -/
def putAll (tags : Tags) (entries : List (String × String)) : Tags :=
  entries.foldl (fun tags e => tags.insert e.1 e.2) tags

/-- After a value was put under a name, the name has that value and others have what they had. -/
theorem Ordered.mem_insert {tags : Tags} (ordered : tags.Ordered) {name value : String}
    {e : String × String} :
    e ∈ (tags.insert name value).entries ↔ e = (name, value) ∨ e.1 ≠ name ∧ e ∈ tags.entries := by
  obtain ⟨entries⟩ := tags
  change entries.Pairwise _ at ordered
  change e ∈ insertEntry name value entries ↔ _ ∨ _ ∧ e ∈ entries
  induction entries with
  | nil => simp [insertEntry]
  | cons first rest ih =>
    obtain ⟨n, v⟩ := first
    obtain ⟨behind, others⟩ := List.pairwise_cons.mp ordered
    have above {e : String × String} (mem : e ∈ rest) (before : name ≤ n) : e.1 ≠ name :=
      ne_of_gt (before.trans_lt (behind e mem))
    rw [insertEntry]
    split_ifs with before same
    · have apart (mem : e ∈ (n, v) :: rest) : e.1 ≠ name := by
        rcases List.mem_cons.mp mem with rfl | mem
        · exact ne_of_gt before
        · exact above mem before.le
      rw [List.mem_cons]
      exact or_congr_right ⟨fun mem => ⟨apart mem, mem⟩, And.right⟩
    · subst same
      rw [List.mem_cons]
      refine or_congr_right ⟨fun mem => ⟨above mem le_rfl, List.mem_cons_of_mem _ mem⟩, ?_⟩
      rintro ⟨other, mem⟩
      rcases List.mem_cons.mp mem with rfl | mem
      · exact absurd rfl other
      · exact mem
    · have first (eq : e = (n, v)) : e.1 ≠ name := by
        rw [eq]
        exact Ne.symm same
      rw [List.mem_cons, List.mem_cons, ih others, and_or_left, or_left_comm]
      exact or_congr_right (or_congr_left ⟨fun eq => ⟨first eq, eq⟩, And.right⟩)

theorem Ordered.putAll {tags : Tags} (ordered : tags.Ordered) (entries : List (String × String)) :
    (tags.putAll entries).Ordered := by
  induction entries generalizing tags with
  | nil => exact ordered
  | cons e more ih => exact ih (ordered.insert e.1 e.2)

end Tags

namespace Json

variable {s rest : Bytes}

/-! ## Members of a name -/

/-- The values of the members of a name, in their order. -/
def valuesOf (name : String) (members : List (Option String × Value)) : List Value :=
  members.filterMap fun m => if m.1 = some name then some m.2 else none

theorem valuesOf_cons_self (name : String) (v : Value) (members : List (Option String × Value)) :
    valuesOf name ((some name, v) :: members) = v :: valuesOf name members := by
  simp only [valuesOf, List.filterMap_cons, if_true]

theorem valuesOf_cons_of_ne {name other : String} (h : other ≠ name) (v : Value)
    (members : List (Option String × Value)) :
    valuesOf name ((some other, v) :: members) = valuesOf name members := by
  simp only [valuesOf, List.filterMap_cons, Option.some.injEq, h, if_false]

/-! ## Tags -/

/-- A tag as a member of an object. -/
def tagMember (e : String × String) : Option String × Value := (some e.1, .text (some e.2))

/-- The members of an object are tags: keys and values say strings, and each name has the last value
that stands under it. -/
structure AreTags (tags : Tags) (members : List (Option String × Value)) : Prop where
  texts : ∀ m ∈ members, ∃ e, m = tagMember e
  ordered : tags.Ordered
  last (name t : String) :
    (name, t) ∈ tags.entries ↔ (valuesOf name members).getLast? = some (.text (some t))

/-- A value is an object that has tags. -/
def HasTags (tags : Tags) (v : Value) : Prop :=
  ∃ members, v = .object members ∧ AreTags tags members

/-- There are no other tags of these members. -/
theorem AreTags.unique {tags tags' : Tags} {members : List (Option String × Value)}
    (are : AreTags tags members) (are' : AreTags tags' members) : tags = tags' := by
  obtain ⟨entries⟩ := tags
  obtain ⟨entries'⟩ := tags'
  have irrefl : Std.Irrefl fun a b : String × String => a.1 < b.1 := ⟨fun a => lt_irrefl a.1⟩
  have same : entries = entries' := are.ordered.eq_of_mem_iff are'.ordered fun e =>
    (are.last e.1 e.2).trans (are'.last e.1 e.2).symm
  rw [same]

/-- A name has the last value that was put under it, or the one it had before. -/
theorem mem_putAll {tags : Tags} (ordered : tags.Ordered) (entries : List (String × String))
    {name t : String} : (name, t) ∈ (tags.putAll entries).entries ↔
      (valuesOf name (entries.map tagMember)).getLast? = some (.text (some t)) ∨
        valuesOf name (entries.map tagMember) = [] ∧ (name, t) ∈ tags.entries := by
  induction entries generalizing tags with
  | nil => simp [Tags.putAll, valuesOf]
  | cons e more ih =>
    obtain ⟨n, v⟩ := e
    refine (ih (ordered.insert n v)).trans ?_
    rw [ordered.mem_insert, List.map_cons, tagMember]
    by_cases same : n = name
    · subst same
      rw [valuesOf_cons_self, List.getLast?_cons]
      generalize valuesOf n (more.map tagMember) = later
      cases last : later.getLast? with
      | none =>
        obtain rfl := List.getLast?_eq_none_iff.mp last
        simp [eq_comm]
      | some w =>
        have some : later ≠ [] := by
          rintro rfl
          nomatch last
        simp [some]
    · rw [valuesOf_cons_of_ne same]
      simp [Ne.symm same]

/-- What is put under names one after another are the tags of these members. -/
theorem areTags_putAll (entries : List (String × String)) :
    AreTags (Tags.empty.putAll entries) (entries.map tagMember) where
  texts m mem := by
    obtain ⟨e, -, rfl⟩ := List.mem_map.mp mem
    exact ⟨e, rfl⟩
  ordered := Tags.ordered_empty.putAll entries
  last name t := by
    rw [mem_putAll Tags.ordered_empty]
    simp [Tags.empty]

/-- Members that are tags were put under their names one after another. -/
theorem AreTags.exists_putAll {tags : Tags} {members : List (Option String × Value)}
    (are : AreTags tags members) :
    ∃ entries : List (String × String), members = entries.map tagMember ∧
      tags = Tags.empty.putAll entries := by
  have entries : ∃ entries : List (String × String), members = entries.map tagMember := by
    have texts := are.texts
    clear are
    induction members with
    | nil => exact ⟨[], rfl⟩
    | cons m members ih =>
      obtain ⟨⟨e, rfl⟩, others⟩ := List.forall_mem_cons.mp texts
      obtain ⟨entries, rfl⟩ := ih others
      exact ⟨e :: entries, rfl⟩
  obtain ⟨entries, rfl⟩ := entries
  exact ⟨entries, rfl, are.unique (areTags_putAll entries)⟩

/-! ## Reading -/

theorem readTagEntries_eq_ok {fuel : Nat} {first : Bool} {tags tags' : Tags} {mid : Bytes}
    (h : readTagEntries fuel first tags s = .ok tags' mid)
    (closes : closeObject mid = .ok () rest) :
    ∃ entries, Elements 0x7D (Member Spelled) first s (entries.map tagMember) rest ∧
      tags' = tags.putAll entries := by
  induction fuel generalizing s first tags with
  | zero => nomatch h
  | succ fuel ih =>
    unfold readTagEntries at h
    obtain ⟨inside, mid', next, h⟩ := bind_eq_ok h
    obtain ⟨rfl, advances, quote⟩ | ⟨rfl, blanks⟩ := nextKey_eq_ok next
    · obtain ⟨name, left, read, h⟩ := bind_eq_ok h
      obtain ⟨_, left', marked, h⟩ := bind_eq_ok h
      obtain ⟨t, left'', readValue, h⟩ := bind_eq_ok h
      obtain ⟨v, value, rfl⟩ := accepts_readTextValue readValue
      obtain ⟨entries, others, rfl⟩ := ih h
      exact ⟨(name, t) :: entries, advances.member quote read marked value others, rfl⟩
    · obtain ⟨rfl, rfl⟩ := pure_eq_ok h
      exact ⟨[], elements_nil blanks (closeObject_eq_ok closes), rfl⟩

/-- Tags are read from an object that has them. -/
theorem accepts_readTags : Accepts readTags HasTags := by
  intro s tags rest h
  obtain ⟨o, mid, plain, h⟩ := bind_eq_ok (placed_eq_ok h)
  split at h
  next =>
    obtain ⟨tail, rfl, blanks⟩ := readPlain_inl plain
    rw [bind_skip] at h
    obtain ⟨left, read, closes⟩ := enclosed_eq_ok h
    obtain ⟨entries, inside, rfl⟩ := readTagEntries_eq_ok read closes
    exact ⟨_, spelled_of_blanks blanks (.object inside), _, rfl, areTags_putAll entries⟩
  next => exact absurd h unexpected_ne_ok

theorem readTagEntries_of_elements {fuel : Nat} {first : Bool} {tags : Tags}
    {entries : List (String × String)}
    (members : Elements 0x7D (Member Spelled) first s (entries.map tagMember) rest)
    (room : s.length < fuel) :
    readTagEntries fuel first tags s = .ok (tags.putAll entries) (0x7D :: rest) := by
  induction entries generalizing s first tags fuel with
  | nil =>
    obtain ⟨fuel, rfl⟩ := Nat.exists_eq_succ_of_ne_zero (Nat.ne_zero_of_lt room)
    unfold readTagEntries
    rw [bind_eq (nextKey_nil members)]
    rfl
  | cons e more ih =>
    obtain ⟨fuel, rfl⟩ := Nat.exists_eq_succ_of_ne_zero (Nat.ne_zero_of_lt room)
    obtain ⟨mid, left, tail, last, next, read, marked, value, others, shorter⟩ :=
      nextKey_cons members
    have readValue := takes_readTextValue value (others.stops (.inr rfl)) rfl
    unfold readTagEntries
    rw [bind_eq next]
    show (readText >>= _) mid = _
    rw [bind_eq read, bind_eq marked, bind_eq readValue]
    exact ih (.of_more others) (by omega)

/-- **An object that has tags is taken.** -/
theorem takes_readTags : Takes readTags HasTags := by
  rintro s v rest tags value - ⟨members, rfl, are⟩
  obtain ⟨entries, rfl, rfl⟩ := are.exists_putAll
  obtain ⟨tail, front, inside⟩ := value.object_front
  have opens := readPlain_of_bracket (b := .object) front
  have read : readTagEntries (tail.length + 1) true .empty tail = _ :=
    readTagEntries_of_elements (.of_inside inside) (Nat.lt_succ_self _)
  refine Reading.Is.placed (o := some _) (Reading.Is.bind_ok opens ?_)
  exact Reading.Is.bind_ok (a := ()) rfl (Reading.Is.enclosed (o := some _) read rfl)

end Json

end MetricsHarness
