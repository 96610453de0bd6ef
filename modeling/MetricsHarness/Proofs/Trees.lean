import MetricsHarness.Proofs.SuiteSamples

/-!
# Documents as trees

A document without aliases whose keys are scalars is a tree of texts (`Document.tree?`). Its marks
are no part of the tree; they only say in a complaint where something is wrong.

What a reader answers to a node hangs on the tree of the node alone (`Reads`). A mapping is read by
adding its members to a draft, one after the other, but in the end each member is found by its names
(`member?`): what was known of the others plays no part. `Adds` says so of one member that is added,
and `Adds.reads` of them all.
-/

namespace MetricsHarness.Yaml

/-! ## Trees -/

/-- A node without its mark, if no aliases are in it and its keys are scalars. -/
inductive Tree where
  | scalar (tag : Option Tag) (style : Style) (text : String)
  | sequence (tag : Option Tag) (items : List Tree)
  | mapping (tag : Option Tag) (members : List (String × Tree))

namespace Tree

mutual

/-- Whether two trees are the same. -/
def decEq : (a b : Tree) → Decidable (a = b)
  | .scalar tag style text, .scalar tag' style' text' =>
    decidable_of_iff (tag = tag' ∧ style = style' ∧ text = text') (by simp)
  | .sequence tag items, .sequence tag' items' =>
    have := decEqItems items items'
    decidable_of_iff (tag = tag' ∧ items = items') (by simp)
  | .mapping tag members, .mapping tag' members' =>
    have := decEqMembers members members'
    decidable_of_iff (tag = tag' ∧ members = members') (by simp)
  | .scalar _ _ _, .sequence _ _ => isFalse (by simp)
  | .scalar _ _ _, .mapping _ _ => isFalse (by simp)
  | .sequence _ _, .scalar _ _ _ => isFalse (by simp)
  | .sequence _ _, .mapping _ _ => isFalse (by simp)
  | .mapping _ _, .scalar _ _ _ => isFalse (by simp)
  | .mapping _ _, .sequence _ _ => isFalse (by simp)

/-- Whether two lists of trees are the same. -/
def decEqItems : (as bs : List Tree) → Decidable (as = bs)
  | [], [] => isTrue rfl
  | a :: as, b :: bs =>
    have := decEq a b
    have := decEqItems as bs
    decidable_of_iff (a = b ∧ as = bs) (by simp)
  | [], _ :: _ => isFalse (by simp)
  | _ :: _, [] => isFalse (by simp)

/-- Whether two lists of members are the same. -/
def decEqMembers : (as bs : List (String × Tree)) → Decidable (as = bs)
  | [], [] => isTrue rfl
  | (name, a) :: as, (name', b) :: bs =>
    have := decEq a b
    have := decEqMembers as bs
    decidable_of_iff ((name = name' ∧ a = b) ∧ as = bs) (by simp)
  | [], _ :: _ => isFalse (by simp)
  | _ :: _, [] => isFalse (by simp)

end

instance : DecidableEq Tree := decEq

end Tree

mutual

/-- The tree of a node. -/
def Node.tree? : Node → Option Tree
  | .scalar _ tag style text => some (.scalar tag style text)
  | .sequence _ tag items => (treesOf? items).map (.sequence tag)
  | .mapping _ tag members => (membersOf? members).map (.mapping tag)
  | .reference _ _ => none

/-- The trees of items. -/
def treesOf? : List Node → Option (List Tree)
  | [] => some []
  | n :: rest => n.tree?.bind fun t => (treesOf? rest).map (t :: ·)

/-- The trees of members under their names. -/
def membersOf? : List (Node × Node) → Option (List (String × Tree))
  | [] => some []
  | (.scalar _ _ _ name, value) :: rest =>
    value.tree?.bind fun t => (membersOf? rest).map ((name, t) :: ·)
  | _ :: _ => none

end

/-- The tree of a document; one without content is an empty scalar. -/
def Document.tree? (d : Document) : Option Tree :=
  match d.root with
  | none => some (.scalar none .plain "")
  | some root => root.tree?

/-- The nodes that have a tree. -/
inductive HasTree : Node → Tree → Prop
  | scalar {mark : Mark} {tag : Option Tag} {style : Style} {text : String} :
      HasTree (.scalar mark tag style text) (.scalar tag style text)
  | sequence {mark : Mark} {tag : Option Tag} {nodes : List Node} {items : List Tree}
      (told : treesOf? nodes = some items) :
      HasTree (.sequence mark tag nodes) (.sequence tag items)
  | mapping {mark : Mark} {tag : Option Tag} {nodes : List (Node × Node)}
      {members : List (String × Tree)} (told : membersOf? nodes = some members) :
      HasTree (.mapping mark tag nodes) (.mapping tag members)

/-- A node has the tree that is told of it. -/
theorem Node.hasTree {n : Node} {t : Tree} (told : n.tree? = some t) : HasTree n t := by
  cases n with
  | scalar mark tag style text =>
    cases told
    exact .scalar
  | sequence mark tag nodes =>
    rw [Node.tree?, Option.map_eq_some_iff] at told
    obtain ⟨items, told, rfl⟩ := told
    exact .sequence told
  | mapping mark tag nodes =>
    rw [Node.tree?, Option.map_eq_some_iff] at told
    obtain ⟨members, told, rfl⟩ := told
    exact .mapping told
  | reference mark number => cases told

/-- A node that has a tree is no alias. -/
theorem Document.resolve_of_tree? (d : Document) {n : Node} {t : Tree} (told : n.tree? = some t) :
    d.resolve n = pure n := by
  cases Node.hasTree told <;> rfl

/-- The trees of nodes are told one by one. -/
theorem treesOf?_cons {n : Node} {rest : List Node} {trees : List Tree}
    (told : treesOf? (n :: rest) = some trees) :
    ∃ t more, trees = t :: more ∧ n.tree? = some t ∧ treesOf? rest = some more := by
  rw [treesOf?, Option.bind_eq_some_iff] at told
  obtain ⟨t, first, told⟩ := told
  obtain ⟨more, others, rfl⟩ := Option.map_eq_some_iff.mp told
  exact ⟨t, more, rfl, first, others⟩

/-- A member is told by its name and the tree of its value. -/
theorem membersOf?_cons {key value : Node} {rest : List (Node × Node)}
    {members : List (String × Tree)} (told : membersOf? ((key, value) :: rest) = some members) :
    ∃ mark tag style name t more, key = .scalar mark tag style name ∧
      members = (name, t) :: more ∧ value.tree? = some t ∧ membersOf? rest = some more := by
  cases key with
  | scalar mark tag style name =>
    rw [membersOf?, Option.bind_eq_some_iff] at told
    obtain ⟨t, first, told⟩ := told
    obtain ⟨more, others, rfl⟩ := Option.map_eq_some_iff.mp told
    exact ⟨mark, tag, style, name, t, more, rfl, rfl, first, others⟩
  | sequence mark tag items => cases told
  | mapping mark tag members => cases told
  | reference mark number => cases told

/-! ## Answers -/

section Answers

variable {α β : Type}

/-- A reading answers this value, or complains if there is none; it follows no alias. -/
def Answers (reading : Decoded α) (value? : Option α) : Prop :=
  ∀ left, (reading left).toOption = value?.map (·, left)

namespace Answers

variable {reading : Decoded α} {value? : Option α}

/-- An answer without reading is the answer. -/
theorem pure (a : α) : Answers (Pure.pure a) (some a) := fun _ => rfl

/-- A complaint answers nothing. -/
theorem complain (mark : Mark) (text : String) : Answers (complain mark text : Decoded α) none :=
  fun _ => rfl

/-- A refusal answers nothing. -/
theorem refuse (n : Node) (expected : String) : Answers (refuse n expected : Decoded α) none :=
  fun _ => rfl

/-- One reading behind another answers if both do. -/
theorem bind {next : α → Decoded β} {next? : α → Option β} (answers : Answers reading value?)
    (further : ∀ a, Answers (next a) (next? a)) :
    Answers (reading >>= next) (value?.bind next?) := by
  intro left
  rw [Suite.toOption_bind, answers left]
  cases value? with
  | none => rfl
  | some a => exact further a left

/-- What is made of an answer is answered. -/
theorem map (f : α → β) (answers : Answers reading value?) :
    Answers (reading >>= fun a => Pure.pure (f a)) (value?.map f) := by
  rw [Option.map_eq_bind]
  exact answers.bind fun a => Answers.pure (f a)

/-- Where a reading stands changes nothing about its answer. -/
theorem inside (step : Step) (answers : Answers reading value?) :
    Answers (inside step reading) value? := by
  intro left
  rw [Suite.toOption_inside]
  exact answers left

/-- A complaint about some condition comes before the reading. -/
theorem guarded (condition : Prop) [Decidable condition] (mark : Mark) (text : String)
    (answers : Answers reading value?) :
    Answers (if condition then Yaml.complain mark text else reading)
      (if condition then none else value?) := by
  by_cases holds : condition
  · simpa only [if_pos holds] using complain mark text
  · simpa only [if_neg holds] using answers

/-- A member that is required answers what is known of it. -/
theorem required (mark : Mark) (field : String) (known : Option α) :
    Answers (required mark field known) known := by
  cases known <;> intro left <;> rfl

end Answers

/-- A reader answers to a node what `read?` answers to its tree. -/
def Reads (read : Node → Decoded α) (read? : Tree → Option α) : Prop :=
  ∀ ⦃n t⦄, n.tree? = some t → Answers (read n) (read? t)

end Answers

/-! ## Scalars and sequences -/

namespace Tree

/-- The text of a scalar. -/
def text? : Tree → Option String
  | .scalar _ _ text => some text
  | .sequence _ _ => none
  | .mapping _ _ => none

/-- The signed number of 64 bits that a scalar is. -/
def signed? : Tree → Option Int64
  | .scalar tag style text =>
    (if Document.mayBeNumber tag style then Value.signed? text.toList else none).map Int64.ofInt
  | .sequence _ _ => none
  | .mapping _ _ => none

/-- The unsigned number of 16 bits that a scalar is. -/
def status? : Tree → Option UInt16
  | .scalar tag style text =>
    (if Document.mayBeNumber tag style then
      Value.unsigned? Text.nat64Greatest text.toList else none).bind fun i =>
        if i < 65536 then some (UInt16.ofNat i) else none
  | .sequence _ _ => none
  | .mapping _ _ => none

/-- Whether a scalar is nothing at all. -/
def isNothing (style : Style) (text : String) : Bool := style == .plain && text.isEmpty

@[simp] theorem isNothing_plain (text : String) : isNothing .plain text = text.isEmpty := rfl

/-- The items of a sequence; nothing at all has none. -/
def items? : Tree → Option (List Tree)
  | .scalar _ style text => if isNothing style text then some [] else none
  | .sequence _ items => some items
  | .mapping _ _ => none

/-- The members of a mapping; nothing at all has none. -/
def members? : Tree → Option (List (String × Tree))
  | .scalar _ style text => if isNothing style text then some [] else none
  | .sequence _ _ => none
  | .mapping _ members => some members

/-- The items of a sequence as they are read. -/
def list? {α : Type} (read? : Tree → Option α) (t : Tree) : Option (List α) :=
  t.items?.bind (·.mapM read?)

end Tree

section Reads

variable {α : Type} (d : Document)

/-- Texts are read as told by their trees. -/
theorem reads_text : Reads d.readText Tree.text? := by
  intro n t told
  unfold Document.readText
  rw [d.resolve_of_tree? told, pure_bind]
  cases Node.hasTree told with
  | scalar => exact .pure _
  | sequence _ => exact .refuse _ _
  | mapping _ => exact .refuse _ _

/-- Signed numbers are read as told by their trees. -/
theorem reads_signed : Reads d.readSigned Tree.signed? := by
  intro n t told
  unfold Document.readSigned
  rw [d.resolve_of_tree? told, pure_bind]
  cases Node.hasTree told with
  | @scalar mark tag style text =>
    simp only [Tree.signed?]
    cases if Document.mayBeNumber tag style then Value.signed? text.toList else none with
    | none => exact .refuse _ _
    | some i => exact .pure _
  | sequence _ => exact .refuse _ _
  | mapping _ => exact .refuse _ _

/-- Status numbers are read as told by their trees. -/
theorem reads_status : Reads d.readStatus Tree.status? := by
  intro n t told
  unfold Document.readStatus
  rw [d.resolve_of_tree? told, pure_bind]
  cases Node.hasTree told with
  | @scalar mark tag style text =>
    simp only [Tree.status?]
    cases if Document.mayBeNumber tag style then
      Value.unsigned? Text.nat64Greatest text.toList else none with
    | none => exact .refuse _ _
    | some i =>
      by_cases fits : i < 65536
      · simp only [Option.bind_some, if_pos fits]
        exact .pure _
      · simp only [Option.bind_some, if_neg fits]
        exact .complain _ _
  | sequence _ => exact .refuse _ _
  | mapping _ => exact .refuse _ _

variable {d} {read : Node → Decoded α} {read? : Tree → Option α}

/-- Items are read one by one, as told by their trees. -/
theorem Reads.readEach (reads : Reads read read?) {nodes : List Node} {items : List Tree} (i : Nat)
    (told : treesOf? nodes = some items) :
    Answers (Document.readEach read i nodes) (items.mapM read?) := by
  induction nodes generalizing i items with
  | nil =>
    cases told
    exact .pure _
  | cons n rest ih =>
    obtain ⟨t, more, rfl, first, others⟩ := treesOf?_cons told
    rw [List.mapM_cons]
    exact ((reads first).inside _).bind fun a => (ih (i + 1) others).bind fun as => .pure _

/-- A list is read as told by its tree. -/
theorem Reads.readItems (reads : Reads read read?) (d : Document) :
    Reads (d.readItems read) (Tree.list? read?) := by
  intro n t told
  unfold Document.readItems
  rw [d.resolve_of_tree? told, pure_bind]
  cases Node.hasTree told with
  | @scalar mark tag style text =>
    simp only [Tree.list?, Tree.items?]
    cases style with
    | plain =>
      cases empty : text.isEmpty with
      | true =>
        simp only [Tree.isNothing_plain, empty, if_true]
        exact .pure _
      | false =>
        simp only [Tree.isNothing_plain, empty, Bool.false_eq_true, if_false]
        exact .refuse _ _
    | quoted => exact .refuse _ _
    | literal => exact .refuse _ _
    | folded => exact .refuse _ _
  | sequence trees => exact reads.readEach 0 trees
  | mapping _ => exact .refuse _ _

/-! ## Mappings -/

/-- What becomes of the members of a mapping: they are read in their place, and their trees are
those of the mapping. -/
theorem answers_members (d : Document) (expected : String) {n : Node} {t : Tree}
    (told : n.tree? = some t) {next : Mark × List (Node × Node) → Decoded α}
    {next? : List (String × Tree) → Option α}
    (further : ∀ mark {nodes members}, membersOf? nodes = some members →
      Answers (next (mark, nodes)) (next? members)) :
    Answers (d.members expected n >>= next) (t.members?.bind next?) := by
  unfold Document.members
  rw [d.resolve_of_tree? told, pure_bind]
  cases Node.hasTree told with
  | @scalar mark tag style text =>
    simp only [Tree.members?]
    cases style with
    | plain =>
      cases empty : text.isEmpty with
      | true =>
        simp only [Tree.isNothing_plain, empty, if_true]
        exact further mark rfl
      | false =>
        simp only [Tree.isNothing_plain, empty, Bool.false_eq_true, if_false]
        exact .refuse _ _
    | quoted => exact .refuse _ _
    | literal => exact .refuse _ _
    | folded => exact .refuse _ _
  | sequence _ => exact .refuse _ _
  | mapping trees => exact further _ trees

end Reads

/-! ## Members by their names -/

section Members

variable {α : Type}

/-- What is known of a member after one more value of it: a second value is refused. -/
def once? (known value? : Option α) : Option (Option α) :=
  if known.isSome then none else value?.map some

/-- A member that stands once is read as told by its tree, and refused if it is known already. -/
theorem Reads.readOnce {read : Node → Decoded α} {read? : Tree → Option α}
    (reads : Reads read read?) (mark : Mark) (field : String) (known : Option α) (step : Step)
    {n : Node} {t : Tree} (told : n.tree? = some t) :
    Answers (readOnce mark field known step (read n)) (once? known (read? t)) := by
  cases known with
  | none => exact ((reads told).inside step).map some
  | some a => exact .complain _ _

/-- One more value may be looked at before anything else. -/
theorem once?_first {β γ : Type} (other? : Option β) (known value? : Option α)
    (next : β → Option α → Option γ) :
    (other?.bind fun b => (once? known value?).bind (next b)) =
      (once? known value?).bind fun known => other?.bind fun b => next b known :=
  Option.bind_comm other? _

/-- The value of a member among the members of a mapping, if this is known of it so far. It may
have any of its names, but only one of them and only once. -/
def member? (names : List String) (read? : Tree → Option α) (default : Option α) :
    Option α → List (String × Tree) → Option α
  | known, [] => known.or default
  | known, (name, t) :: rest =>
    if name ∈ names then
      (once? known (read? t)).bind fun known => member? names read? default known rest
    else member? names read? default known rest

/-- `becomes?` tells what a draft becomes with more members, by their trees. -/
def Adds {δ β : Type} (add : δ → Step → String → Node → Decoded δ)
    (becomes? : δ → List (String × Tree) → Option β) : Prop :=
  ∀ draft step name ⦃value t⦄, value.tree? = some t →
    ∃ added?, Answers (add draft step name value) added? ∧
      ∀ rest, becomes? draft ((name, t) :: rest) = added?.bind (becomes? · rest)

/-- Members are added one after the other, each under its name. -/
theorem Adds.reads {δ β : Type} {add : δ → Step → String → Node → Decoded δ}
    {becomes? : δ → List (String × Tree) → Option β} (adds : Adds add becomes?) (d : Document)
    (expected : String) {finish : δ → Decoded β}
    (done : ∀ draft, Answers (finish draft) (becomes? draft [])) (draft : δ)
    {nodes : List (Node × Node)} {members : List (String × Tree)}
    (told : membersOf? nodes = some members) :
    Answers (d.readMembers expected add draft nodes >>= finish) (becomes? draft members) := by
  induction nodes generalizing draft members with
  | nil =>
    cases told
    exact done draft
  | cons node rest ih =>
    obtain ⟨key, value⟩ := node
    obtain ⟨mark, tag, style, name, t, more, rfl, rfl, first, others⟩ := membersOf?_cons told
    obtain ⟨added?, answers, becomes⟩ := adds draft (.member name) name first
    have read : d.readMembers expected add draft
        ((.scalar mark tag style name, value) :: rest) >>= finish =
        add draft (.member name) name value >>= fun draft =>
          d.readMembers expected add draft rest >>= finish := by
      rw [← bind_assoc]
      rfl
    rw [read, becomes]
    exact answers.bind fun draft => ih draft others

end Members

end MetricsHarness.Yaml
