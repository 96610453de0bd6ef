import MetricsHarness.Proofs.Trees
import Mathlib.Data.List.Forall2
import Mathlib.Logic.Relation

/-!
# Shapes of trees

The layout of a mapping may change while what it says stays the same: its members may stand in
another order, a member may have another of its names, a member that nobody asks for may be added,
and so may one with the value that it has anyhow (`Change`). A shape tells which members there are;
since a member may be a mapping of a shape again, or a list of them, it covers all levels of a tree.
Mappings of a shape are alike if such changes lead from one to the other, on all levels
(`Shape.Alike`). A mapping repeats something if on some level a member is given twice, under
whichever of its names (`Shape.Repeats`).

A reader that asks for the members of a shape and for nothing else (`Asks`) answers the same to
mappings that are alike, and nothing to one that repeats something (`Asks.fits`). It is enough to
see that for each member by itself (`Change.member?_eq`), where it hangs on the values under its
names.
-/

namespace MetricsHarness.Yaml

/-! ## Values by their names -/

section Values

variable {α : Type} {read? : Tree → Option α} {default : Option α}

/-- The values of the members with one of these names. -/
def valuesOf (names : List String) (members : List (String × Tree)) : List Tree :=
  (members.filter (·.1 ∈ names)).map (·.2)

/-- A member of the name has its value among those of the name. -/
theorem valuesOf_cons_of_mem {names : List String} {name : String} (own : name ∈ names) (t : Tree)
    (members : List (String × Tree)) :
    valuesOf names ((name, t) :: members) = t :: valuesOf names members := by
  simp [valuesOf, own]

/-- Any other member has not. -/
theorem valuesOf_cons_of_not_mem {names : List String} {name : String} (other : name ∉ names)
    (t : Tree) (members : List (String × Tree)) :
    valuesOf names ((name, t) :: members) = valuesOf names members := by
  simp [valuesOf, other]

/-- What a member is read as, given its values: more than one of them is refused. -/
def alone? (read? : Tree → Option α) (default : Option α) : List Tree → Option α
  | [] => default
  | [t] => read? t
  | _ :: _ :: _ => none

/-- The order of values does not change which one stands alone. -/
theorem alone?_perm {values values' : List Tree} (same : values.Perm values') :
    alone? read? default values = alone? read? default values' := by
  rcases values with _ | ⟨t, _ | ⟨t', rest⟩⟩
  · rw [List.nil_perm.mp same]
  · rw [List.singleton_perm.mp same]
  · have more := same.length_eq
    rcases values' with _ | ⟨u, _ | ⟨u', others⟩⟩
    · simp at more
    · simp at more
    · rfl

/-- Of two values none stands alone. -/
theorem alone?_of_two_le {values : List Tree} (twice : 2 ≤ values.length) :
    alone? read? default values = none := by
  rcases values with _ | ⟨t, _ | ⟨t', rest⟩⟩
  · simp at twice
  · simp at twice
  · rfl

/-- A value that is refused does not stand alone. -/
theorem alone?_of_mem {values : List Tree} {t : Tree} (mem : t ∈ values)
    (refused : read? t = none) : alone? read? default values = none := by
  rcases values with _ | ⟨t', _ | ⟨t'', rest⟩⟩
  · cases mem
  · rw [List.mem_singleton] at mem
    rw [alone?, ← mem, refused]
  · rfl

variable (names : List String) (members : List (String × Tree))

/-- A member that is known already has no more values. -/
theorem member?_some (a : α) : member? names read? default (some a) members =
    if valuesOf names members = [] then some a else none := by
  induction members with
  | nil => rfl
  | cons member rest ih =>
    obtain ⟨name, t⟩ := member
    by_cases own : name ∈ names
    · simp [member?, own, valuesOf_cons_of_mem own, once?]
    · simp [member?, own, valuesOf_cons_of_not_mem own, ih]

/-- A member that is not known yet is its one value, or its default if it has none. -/
theorem member?_none : member? names read? default none members =
    alone? read? default (valuesOf names members) := by
  induction members with
  | nil => rfl
  | cons member rest ih =>
    obtain ⟨name, t⟩ := member
    by_cases own : name ∈ names
    · rw [member?, if_pos own, valuesOf_cons_of_mem own]
      cases value : read? t with
      | none => exact (alone?_of_mem List.mem_cons_self value).symm
      | some a =>
        show member? names read? default (some a) rest = _
        rw [member?_some]
        cases valuesOf names rest with
        | nil => exact value.symm
        | cons t' others => rfl
    · simp [member?, own, valuesOf_cons_of_not_mem own, ih]

end Values

/-! ## Shapes -/

/-- A member that a mapping may have. -/
structure Field where
  names : List String
  /-- Values that say the same. -/
  Alike : Tree → Tree → Prop
  /-- Values that say the same as no value. -/
  IsDefault : Tree → Prop
  /-- Values in which something is given twice. -/
  Repeats : Tree → Prop

/-- The members that a mapping may have, each with its own names. -/
structure Shape where
  fields : List Field
  apart : fields.Pairwise fun f g => ∀ name ∈ f.names, name ∉ g.names

/-- A change of the layout of a mapping. -/
inductive Change (s : Shape) : List (String × Tree) → List (String × Tree) → Prop
  /-- The members are put in another order. -/
  | order {members members' : List (String × Tree)} (same : members.Perm members') :
      Change s members members'
  /-- A member is given under another of its names. -/
  | name {f : Field} (known : f ∈ s.fields) {name name' : String} (old : name ∈ f.names)
      (new : name' ∈ f.names) (value : Tree) (rest : List (String × Tree)) :
      Change s ((name, value) :: rest) ((name', value) :: rest)
  /-- The layout changes inside a member. -/
  | value {f : Field} (known : f ∈ s.fields) {name : String} (own : name ∈ f.names)
      {value value' : Tree} (alike : f.Alike value value') (rest : List (String × Tree)) :
      Change s ((name, value) :: rest) ((name, value') :: rest)
  /-- A member that nobody asks for is added. -/
  | unknown {name : String} (unknown : ∀ f ∈ s.fields, name ∉ f.names) (value : Tree)
      (rest : List (String × Tree)) : Change s rest ((name, value) :: rest)
  /-- A member that was left out is given its default. -/
  | default {f : Field} (known : f ∈ s.fields) {name : String} (own : name ∈ f.names)
      {value : Tree} (isDefault : f.IsDefault value) {rest : List (String × Tree)}
      (absent : valuesOf f.names rest = []) : Change s rest ((name, value) :: rest)

/-- A member is given twice, or its value repeats something. -/
def Field.RepeatedIn (f : Field) (members : List (String × Tree)) : Prop :=
  2 ≤ (valuesOf f.names members).length ∨ ∃ value ∈ valuesOf f.names members, f.Repeats value

namespace Shape

variable (s : Shape)

/-- Mappings of a shape between which there are changes of layout only. -/
def Alike (t t' : Tree) : Prop :=
  ∃ members members', t.members? = some members ∧ t'.members? = some members' ∧
    Relation.EqvGen (Change s) members members'

/-- A mapping of a shape that gives a member twice, or in which a member does. -/
def Repeats (t : Tree) : Prop :=
  ∃ members, t.members? = some members ∧ ∃ f ∈ s.fields, f.RepeatedIn members

end Shape

namespace Field

/-- A member without members of its own that must be given. -/
abbrev required (names : List String) : Field :=
  ⟨names, Eq, fun _ => False, fun _ => False⟩

/-- A member without members of its own that may be left out. -/
abbrev optional {α : Type} (names : List String) (read? : Tree → Option α) (default : α) : Field :=
  ⟨names, Eq, fun t => read? t = some default, fun _ => False⟩

/-- A member that is a mapping. -/
abbrev record (names : List String) (s : Shape) : Field :=
  ⟨names, s.Alike, fun _ => False, s.Repeats⟩

/-- A member that is a list of mappings; it may be left out if it is empty. -/
abbrev list (names : List String) (s : Shape) : Field :=
  ⟨names,
    fun t t' => ∃ items items', t.items? = some items ∧ t'.items? = some items' ∧
      List.Forall₂ s.Alike items items',
    fun t => t.items? = some [],
    fun t => ∃ items, t.items? = some items ∧ ∃ item ∈ items, s.Repeats item⟩

end Field

/-! ## Readers -/

section Readers

variable {α : Type}

/-- A field says the truth about a reader of its values and what stands for no value. -/
structure Field.Fits (f : Field) (read? : Tree → Option α) (default : Option α) : Prop where
  alike : ∀ {t t'}, f.Alike t t' → read? t = read? t'
  default : ∀ {t}, f.IsDefault t → read? t = default
  repeats : ∀ {t}, f.Repeats t → read? t = none

/-- A shape says the truth about a reader of mappings. -/
structure Shape.Fits (s : Shape) (read? : Tree → Option α) : Prop where
  alike : ∀ {t t'}, s.Alike t t' → read? t = read? t'
  repeats : ∀ {t}, s.Repeats t → read? t = none

/-- Items that are read alike give the same list. -/
theorem mapM_eq_of_forall₂ {read? : Tree → Option α} {items items' : List Tree}
    (same : List.Forall₂ (fun t t' => read? t = read? t') items items') :
    items.mapM read? = items'.mapM read? := by
  induction same with
  | nil => rfl
  | cons first _ ih => rw [List.mapM_cons, List.mapM_cons, first, ih]

/-- An item that is refused makes the list refused. -/
theorem mapM_eq_none_of_mem {read? : Tree → Option α} {items : List Tree} {t : Tree}
    (mem : t ∈ items) (refused : read? t = none) : items.mapM read? = none := by
  induction mem with
  | head rest =>
    rw [List.mapM_cons, refused]
    rfl
  | tail first _ ih =>
    rw [List.mapM_cons, ih]
    cases read? first <;> rfl

namespace Field

variable {names : List String} {read? : Tree → Option α} {s : Shape}

theorem required_fits : (required names).Fits read? none :=
  ⟨congrArg read?, False.elim, False.elim⟩

theorem optional_fits {default : α} : (optional names read? default).Fits read? (some default) :=
  ⟨congrArg read?, id, False.elim⟩

/-- A record fits a reader that its shape fits. -/
theorem record_fits (fits : s.Fits read?) : (record names s).Fits read? none :=
  ⟨fits.alike, False.elim, fits.repeats⟩

/-- A list fits the reader of its items. -/
theorem list_fits (fits : s.Fits read?) : (list names s).Fits (Tree.list? read?) (some []) := by
  refine ⟨?_, ?_, ?_⟩
  · rintro t t' ⟨items, items', told, told', alike⟩
    rw [Tree.list?, Tree.list?, told, told']
    exact mapM_eq_of_forall₂ (alike.imp fun _ _ => fits.alike)
  · intro t told
    rw [Tree.list?, told]
    rfl
  · rintro t ⟨items, told, item, mem, repeats⟩
    rw [Tree.list?, told]
    exact mapM_eq_none_of_mem mem (fits.repeats repeats)

end Field

/-- A name belongs to one field only. -/
theorem Shape.eq_of_mem_names (s : Shape) {f g : Field} (known : f ∈ s.fields)
    (known' : g ∈ s.fields) {name : String} (own : name ∈ f.names) (own' : name ∈ g.names) :
    f = g := by
  by_contra other
  have : Std.Symm fun f g : Field => ∀ name ∈ f.names, name ∉ g.names :=
    ⟨fun f g apart name own own' => apart name own' own⟩
  exact s.apart.forall known known' other name own own'

variable {s : Shape} {f : Field} {read? : Tree → Option α} {default : Option α}
  {members members' : List (String × Tree)}

/-- A change of layout makes no difference to a member. -/
theorem Change.member?_eq (change : Change s members members') (known : f ∈ s.fields)
    (fits : f.Fits read? default) :
    member? f.names read? default none members = member? f.names read? default none members' := by
  rw [member?_none, member?_none]
  -- A change at a name of another field leaves the values of this one as they are.
  cases change with
  | order same => exact alone?_perm ((same.filter _).map _)
  | @name g known' name name' old new value rest =>
    by_cases own : name ∈ f.names
    · obtain rfl := s.eq_of_mem_names known known' own old
      rw [valuesOf_cons_of_mem own, valuesOf_cons_of_mem new]
    · have other : name' ∉ f.names := fun own' =>
        own (s.eq_of_mem_names known known' own' new ▸ old)
      rw [valuesOf_cons_of_not_mem own, valuesOf_cons_of_not_mem other]
  | @value g known' name own' value value' alike rest =>
    by_cases own : name ∈ f.names
    · obtain rfl := s.eq_of_mem_names known known' own own'
      rw [valuesOf_cons_of_mem own, valuesOf_cons_of_mem own]
      cases valuesOf f.names rest with
      | nil => exact fits.alike alike
      | cons t others => rfl
    · rw [valuesOf_cons_of_not_mem own, valuesOf_cons_of_not_mem own]
  | unknown unknown value rest => rw [valuesOf_cons_of_not_mem (unknown f known)]
  | @default g known' name own' value isDefault rest absent =>
    by_cases own : name ∈ f.names
    · obtain rfl := s.eq_of_mem_names known known' own own'
      rw [valuesOf_cons_of_mem own, absent]
      exact (fits.default isDefault).symm
    · rw [valuesOf_cons_of_not_mem own]

/-- A member that is given twice, or in which something is, is refused. -/
theorem Field.Fits.member?_of_repeatedIn (fits : f.Fits read? default)
    (repeated : f.RepeatedIn members) : member? f.names read? default none members = none := by
  rw [member?_none]
  rcases repeated with twice | ⟨value, mem, inside⟩
  · exact alone?_of_two_le twice
  · exact alone?_of_mem mem (fits.repeats inside)

/-- No changes of layout make a difference to a member. -/
theorem member?_eq_of_changes (changes : Relation.EqvGen (Change s) members members')
    (known : f ∈ s.fields) (fits : f.Fits read? default) :
    member? f.names read? default none members = member? f.names read? default none members' := by
  induction changes with
  | rel _ _ change => exact change.member?_eq known fits
  | refl _ => rfl
  | symm _ _ _ ih => exact ih.symm
  | trans _ _ _ _ _ first second => exact first.trans second

/-- A reader of members that asks for these fields, one after the other, and for nothing else. -/
inductive Asks : List Field → (List (String × Tree) → Option α) → Prop
  | done (a : α) : Asks [] fun _ => some a
  | next {f : Field} {fields : List Field} {β : Type} {read? : Tree → Option β}
      {default : Option β} {next? : β → List (String × Tree) → Option α}
      (fits : f.Fits read? default) (further : ∀ b, Asks fields (next? b)) :
      Asks (f :: fields) fun members =>
        (member? f.names read? default none members).bind fun b => next? b members

variable {fields : List Field} {asked? : List (String × Tree) → Option α}

/-- Changes that a shape allows do not change what is asked of the members. -/
theorem Asks.eq_of_changes (asks : Asks fields asked?) (known : ∀ f ∈ fields, f ∈ s.fields)
    (changes : Relation.EqvGen (Change s) members members') :
    asked? members = asked? members' := by
  induction asks with
  | done a => rfl
  | next fits further ih =>
    obtain ⟨first, others⟩ := List.forall_mem_cons.mp known
    simp only [member?_eq_of_changes changes first fits, ih _ others]

/-- Members that repeat a known one are refused. -/
theorem Asks.eq_none_of_repeatedIn (asks : Asks fields asked?) (known : f ∈ fields)
    (repeated : f.RepeatedIn members) : asked? members = none := by
  induction asks with
  | done a => cases known
  | @next g _ _ read? default _ fits further ih =>
    rcases List.mem_cons.mp known with rfl | later
    · simp only [fits.member?_of_repeatedIn repeated, Option.bind_none]
    · simp only [ih _ later, Option.bind_fun_none]

/-- A shape fits a reader that asks for its fields. -/
theorem Asks.fits (asks : Asks s.fields asked?) : s.Fits fun t => t.members?.bind asked? := by
  constructor
  · rintro t t' ⟨members, members', told, told', changes⟩
    rw [told, told']
    exact asks.eq_of_changes (fun f known => known) changes
  · rintro t ⟨members, told, f, known, repeated⟩
    rw [told]
    exact asks.eq_none_of_repeatedIn known repeated

end Readers

end MetricsHarness.Yaml
