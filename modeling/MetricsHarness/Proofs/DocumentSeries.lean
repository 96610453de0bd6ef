import MetricsHarness.Proofs.DocumentSamples
import MetricsHarness.Proofs.DocumentTexts
import Mathlib.Data.String.Basic

/-!
# Series in a document

A written list of series is read series by series and member by member. Targets, timestamps and
tags come back as they were, the tags because their names ascend (`Tags.Ordered`): each is put
behind those that were read before it (`Tags.foldl_insert`). A value comes back as what the reader
of numbers makes of its text (`returned?`), which need not be the value, and the whole document is
refused if one value is (`toOption_seriesOfDocument`).
-/

namespace MetricsHarness

open Text

/-! ## Tags in order -/

namespace Tags

/-- The names ascend, so each stands once. -/
def Ordered (tags : Tags) : Prop := tags.entries.Pairwise fun a b => a.1 < b.1

theorem ordered_empty : empty.Ordered := List.Pairwise.nil

/-- Insertion adds the one entry and no other. -/
theorem mem_insertEntry {name value : String} {entries : List (String × String)}
    {e : String × String} (h : e ∈ insertEntry name value entries) :
    e = (name, value) ∨ e ∈ entries := by
  induction entries with
  | nil => exact .inl (List.mem_singleton.mp h)
  | cons first rest ih =>
    obtain ⟨n, v⟩ := first
    rw [insertEntry] at h
    split_ifs at h with before same
    · exact List.mem_cons.mp h
    · exact (List.mem_cons.mp h).imp_right (List.mem_cons_of_mem _)
    · rcases List.mem_cons.mp h with rfl | later
      · exact .inr List.mem_cons_self
      · exact (ih later).imp_right (List.mem_cons_of_mem _)

/-- Putting a value under a name keeps the order. -/
theorem Ordered.insert {tags : Tags} (h : tags.Ordered) (name value : String) :
    (tags.insert name value).Ordered := by
  obtain ⟨entries⟩ := tags
  change entries.Pairwise _ at h
  change (insertEntry name value entries).Pairwise _
  induction entries with
  | nil => exact List.pairwise_singleton _ _
  | cons first rest ih =>
    obtain ⟨n, v⟩ := first
    obtain ⟨behind, others⟩ := List.pairwise_cons.mp h
    rw [insertEntry]
    split_ifs with before same
    · refine List.pairwise_cons.mpr ⟨fun e mem => ?_, h⟩
      rcases List.mem_cons.mp mem with rfl | later
      · exact before
      · exact lt_trans before (behind e later)
    · subst same
      exact List.pairwise_cons.mpr ⟨behind, others⟩
    · refine List.pairwise_cons.mpr ⟨fun e mem => ?_, ih others⟩
      rcases mem_insertEntry mem with rfl | later
      · exact lt_of_le_of_ne (not_lt.mp before) (Ne.symm same)
      · exact behind e later

/-- A name after all others is inserted at the end. -/
theorem insertEntry_of_last {name value : String} {entries : List (String × String)}
    (last : ∀ e ∈ entries, e.1 < name) :
    insertEntry name value entries = entries ++ [(name, value)] := by
  induction entries with
  | nil => rfl
  | cons first rest ih =>
    obtain ⟨n, v⟩ := first
    obtain ⟨before, others⟩ := List.forall_mem_cons.mp last
    rw [insertEntry, if_neg (lt_asymm before), if_neg (ne_of_gt before), ih others]
    rfl

/-- Values put in the order of their names stay in this order. -/
theorem foldl_insert {front entries : List (String × String)}
    (ordered : (front ++ entries).Pairwise fun a b => a.1 < b.1) :
    entries.foldl (fun (tags : Tags) e => tags.insert e.1 e.2) ⟨front⟩ = ⟨front ++ entries⟩ := by
  induction entries generalizing front with
  | nil => rw [List.append_nil]; rfl
  | cons e more ih =>
    have last : ∀ b ∈ front, b.1 < e.1 := fun b mem =>
      (List.pairwise_append.mp ordered).2.2 b mem e List.mem_cons_self
    have split : front ++ e :: more = (front ++ [e]) ++ more := List.append_cons _ _ _
    rw [split] at ordered
    rw [List.foldl_cons, Tags.insert, insertEntry_of_last last, ih ordered, split]

/-- Tags in order are what putting them one after another gives. -/
theorem Ordered.foldl_insert {tags : Tags} (h : tags.Ordered) :
    tags.entries.foldl (fun (tags : Tags) e => tags.insert e.1 e.2) empty = tags :=
  Tags.foldl_insert (show ([] ++ tags.entries).Pairwise _ from h)

end Tags

/-! ## What comes back -/

/-- The double that comes back of a written one; none if its text is refused. -/
def Json.returned? (x : Binary64) : Option Binary64 :=
  match readNumber (Utf8.encode (Binary64.document.chars x)) with
  | .ok (.real y) [] => some y
  | _ => none

/-- The sample that comes back of a written one. -/
def Sample.returned? (s : Sample) : Option Sample :=
  (Json.returned? s.value).map fun value => { s with value }

/-- The series that comes back of a written one. -/
def Series.returned? (s : Series) : Option Series :=
  (s.points.mapM Sample.returned?).map fun points => { s with points }

namespace Json

open Binary64

/-- The text of a finite double is read as its digits, scaled. -/
theorem documentNumber_of_writes {t : NumberText} {x : Binary64} (writes : document.Writes t x) :
    t.documentNumber = ((scaled t.digits t.power).map (·.withSign x.negative)).map .real := by
  have real : ¬ (t.isInteger = true ∧ t.collected.2 = 0) := fun ⟨integer, _⟩ => by
    rw [writes.marked rfl] at integer
    cases integer
  have digits : t.digits ≤ nat64Greatest :=
    (writes.digits_le _ _ rfl (by decide)).trans (by decide)
  have small : ∀ e ∈ t.exponent, e.number ≤ exponentLimit ∧ t.power.natAbs ≤ exponentLimit :=
    fun e mem => (writes.exponent_le e mem).imp (·.trans (by decide)) (·.trans (by decide))
  rw [NumberText.documentNumber, if_neg real, t.documentReal_of_fits digits small, writes.negative]

/-- A written number is read back as the scaled number of its digits, with its sign. -/
theorem returned?_eq {t : NumberText} {x : Binary64} (writes : document.Writes t x) :
    returned? x = (scaled t.digits t.power).map (·.withSign x.negative) := by
  have number := reads_number t ends_nil.stops
  rw [List.append_nil, documentNumber_of_writes writes] at number
  unfold returned?
  rw [writes.chars]
  cases result : scaled t.digits t.power with
  | none =>
    rw [result] at number
    obtain ⟨cause, place, left, failed⟩ := number
    rw [failed]
    rfl
  | some y =>
    rw [result] at number
    have read : readNumber (Utf8.encode t.chars) = .ok (.real (y.withSign x.negative)) [] := number
    rw [read]
    rfl

/-- A written integer of 64 bits is read as a timestamp. -/
theorem timestamp_ofInt (t : Int64) :
    ((NumberText.ofInt t.toInt).documentNumber.bind Number.timestamp?) = some t := by
  have least := Int64.le_toInt t
  have greatest := Int64.toInt_lt t
  have fits : (NumberText.ofInt t.toInt).digits ≤ nat64Greatest := by
    rw [NumberText.digits_ofInt]
    simp only [nat64Greatest]
    omega
  have back : Int64.ofInt t.toInt = t := Int64.ofInt_toInt t
  rw [NumberText.documentNumber_of_integer _ rfl fits, NumberText.digits_ofInt, Option.bind_some,
    NumberText.timestamp?_integerOf]
  rcases lt_or_ge t.toInt 0 with below | above
  · have sign : (NumberText.ofInt t.toInt).negative = true := decide_eq_true below
    have size : -Int.ofNat t.toInt.natAbs = t.toInt := by
      rw [Int.ofNat_eq_natCast]
      omega
    rw [if_pos sign, if_neg (by simp only [int64Least]; omega), size, back]
  · have sign : ¬ (NumberText.ofInt t.toInt).negative = true := by
      rw [show (NumberText.ofInt t.toInt).negative = false from decide_eq_false (by omega)]
      exact Bool.false_ne_true
    rw [if_neg sign, if_pos (by simp only [int64Greatest]; omega), Int.natAbs_of_nonneg above, back]

/-! ## Samples -/

/-- A written point is read back as the point that is returned, or refused. -/
theorem reads_sample {s : Sample} (finite : s.value.isFinite = true) :
    Reads readSample (Utf8.encode (writeSample s)) s.returned? := by
  obtain ⟨t, writes⟩ := exists_writes document finite
  have none : ∀ b ∈ ([] : Bytes), isBlankByte b = true := fun _ mem => by cases mem
  have pair := reads_pair none t (.ofInt s.timestamp.toInt)
  have text : Utf8.encode (writeSample s) = pairBytes [] t (.ofInt s.timestamp.toInt) := by
    rw [writeSample, writes.chars, pairBytes, NumberText.chars_ofInt, List.nil_append,
      Utf8.encode_cons, Utf8.encode_append, Utf8.encode_cons, Utf8.encode_append]
    rfl
  rw [pair?_eq, timestamp_ofInt, documentNumber_of_writes writes, ← returned?_eq writes] at pair
  rw [text]
  have outcome : s.returned? = ((returned? s.value).map Number.real).bind fun a =>
      (some s.timestamp).map fun time => ⟨a.value, time⟩ := by
    rw [Sample.returned?]
    cases returned? s.value <;> rfl
  rw [outcome]
  exact pair

/-! ## Texts and tags -/

/-- A written text is read back. -/
theorem reads_text (s : String) : Reads readTextValue (Utf8.encode (writeText s)) (some s) := by
  intro rest _
  have text : (readText (Utf8.encode (writeText s) ++ rest)).Is (some s) rest :=
    readText_writeText s rest
  have plain : (readPlain (Utf8.encode (writeText s) ++ rest)).Is (some (.inr (.text s))) rest :=
    Reading.Is.map text
  exact Reading.Is.placed (Reading.Is.bind_ok plain rfl)

/-- The first name is moved to. -/
theorem nextKey_first (name : String) (s : Bytes) :
    nextKey true (Utf8.encode (writeText name) ++ s) =
      .ok true (Utf8.encode (writeText name) ++ s) := rfl

/-- The next name stands behind a comma. -/
theorem nextKey_comma (name : String) (s : Bytes) :
    nextKey false (0x2C :: (Utf8.encode (writeText name) ++ s)) =
      .ok true (Utf8.encode (writeText name) ++ s) := rfl

/-- At the brace there is no name. -/
theorem nextKey_close (first : Bool) (s : Bytes) :
    nextKey first (0x7D :: s) = .ok false (0x7D :: s) := rfl

theorem colon_cons (s : Bytes) : colon (0x3A :: s) = .ok () s := rfl

/-- The text of a tag. -/
def tagBytes (tag : String × String) : Bytes :=
  Utf8.encode (writeText tag.1) ++ 0x3A :: Utf8.encode (writeText tag.2)

/-- A tag is its name, a colon and its text. -/
theorem tagBytes_append (tag : String × String) (rest : Bytes) : tagBytes tag ++ rest =
    Utf8.encode (writeText tag.1) ++ 0x3A :: (Utf8.encode (writeText tag.2) ++ rest) := by
  rw [tagBytes, List.append_assoc, List.cons_append]

/-- A tag is read and put to those before it. -/
theorem readTagEntries_tag {fuel : Nat} {first : Bool} {s rest rest' : Bytes} {tags : Tags}
    {tag : String × String} {o : Option Tags} (ends : Ends rest)
    (key : nextKey first s = .ok true (Utf8.encode (writeText tag.1) ++
      0x3A :: (Utf8.encode (writeText tag.2) ++ rest)))
    (next : (readTagEntries fuel false (tags.insert tag.1 tag.2) rest).Is o rest') :
    (readTagEntries (fuel + 1) first tags s).Is o rest' :=
  Reading.Is.bind_ok key <| Reading.Is.bind_ok (readText_writeText _ _) <|
    Reading.Is.bind_ok (colon_cons _) <| Reading.Is.bind_ok (reads_text tag.2 rest ends) next

/-- The tags after the first are read and put to those before them. -/
theorem readTagEntries_commas {fuel : Nat} {entries : List (String × String)}
    (room : entries.length < fuel) (tags : Tags) (rest : Bytes) :
    (readTagEntries fuel false tags (commas [] tagBytes entries ++ 0x7D :: rest)).Is
      (some (entries.foldl (fun (tags : Tags) e => tags.insert e.1 e.2) tags)) (0x7D :: rest) := by
  induction entries generalizing fuel tags with
  | nil =>
    obtain ⟨fuel, rfl⟩ := Nat.exists_eq_succ_of_ne_zero (Nat.ne_of_gt room)
    exact Reading.Is.bind_ok (nextKey_close false rest) rfl
  | cons e more ih =>
    obtain ⟨fuel, rfl⟩ := Nat.exists_eq_succ_of_ne_zero (Nat.ne_zero_of_lt room)
    rw [commas_cons, List.nil_append, tagBytes_append, List.foldl_cons]
    exact readTagEntries_tag (ends_commas _ _ _ (ends_object _)) (nextKey_comma _ _)
      (ih (Nat.lt_of_succ_lt_succ room) _)

/-- Written items are joined by commas. -/
theorem encode_joined {β : Type} (write : β → List Char) (items : List β) :
    Utf8.encode (joined [','] (items.map write)) =
      listBytes [] (fun i => Utf8.encode (write i)) items := by
  induction items with
  | nil => rfl
  | cons i more ih =>
    cases more with
    | nil => exact (List.append_nil _).symm
    | cons j others =>
      have split : joined [','] ((i :: j :: others).map write) =
          write i ++ ',' :: joined [','] ((j :: others).map write) := by
        simp only [List.map_cons, joined, List.append_assoc, List.singleton_append]
      rw [split, Utf8.encode_append, Utf8.encode_cons, ih]
      rfl

/-- Tags are written between braces. -/
theorem encode_writeTags (tags : Tags) : Utf8.encode (writeTags tags) =
    0x7B :: (listBytes [] tagBytes tags.entries ++ [0x7D]) := by
  have tag : (fun e : String × String => Utf8.encode (writeText e.1 ++ ':' :: writeText e.2)) =
      tagBytes := by
    funext e
    rw [Utf8.encode_append, Utf8.encode_cons]
    rfl
  rw [writeTags, Utf8.encode_cons, Utf8.encode_append, encode_joined, tag]
  rfl

/-- Written tags are read, if their names ascend. -/
theorem reads_tags {tags : Tags} (ordered : tags.Ordered) :
    Reads readTags (Utf8.encode (writeTags tags)) (some tags) := by
  intro rest _
  have inside : (readTagEntries ((listBytes [] tagBytes tags.entries ++ 0x7D :: rest).length + 1)
      true Tags.empty (listBytes [] tagBytes tags.entries ++ 0x7D :: rest)).Is (some tags)
        (0x7D :: rest) := by
    have all := ordered.foldl_insert
    cases entries : tags.entries with
    | nil =>
      rw [entries] at all
      rw [show tags = ⟨[]⟩ from all.symm]
      exact Reading.Is.bind_ok (nextKey_close true rest) rfl
    | cons e more =>
      rw [entries] at all
      have size := length_le_commas [] tagBytes more
      have room : more.length < (listBytes [] tagBytes (e :: more) ++ 0x7D :: rest).length := by
        rw [listBytes, List.length_append, List.length_append, List.length_cons]
        omega
      have others := readTagEntries_commas room (Tags.empty.insert e.1 e.2) rest
      generalize (listBytes [] tagBytes (e :: more) ++ 0x7D :: rest).length = fuel at others ⊢
      rw [← List.foldl_cons, all] at others
      rw [listBytes, List.append_assoc, tagBytes_append]
      exact readTagEntries_tag (ends_commas _ _ _ (ends_object _)) (nextKey_first _ _) others
  rw [encode_writeTags, List.cons_append, List.append_assoc, List.singleton_append]
  refine Reading.Is.placed (Reading.Is.bind_ok (a := .inl .object) rfl ?_)
  exact Reading.Is.bind_ok (a := ()) rfl (Reading.Is.enclosed inside rfl)

/-! ## Series -/

/-- A written list is read back item by item, unless one of them is refused. -/
theorem reads_writeList {α β : Type} {element : Reader α} {write : β → List Char}
    {read : β → Option α} {items : List β}
    (reads : ∀ i ∈ items, Reads element (Utf8.encode (write i)) (read i))
    (begins : ∀ i ∈ items, ∃ b more, Utf8.encode (write i) = b :: more ∧ BeginsElement b) :
    Reads (readList element) (Utf8.encode (writeList (items.map write))) (items.mapM read) := by
  have none : ∀ b ∈ ([] : Bytes), isBlankByte b = true := fun _ mem => by cases mem
  have text : Utf8.encode (writeList (items.map write)) =
      0x5B :: (listBytes [] (fun i => Utf8.encode (write i)) items ++ [0x5D]) := by
    rw [writeList, Utf8.encode_cons, Utf8.encode_append, encode_joined]
    rfl
  rw [text]
  exact reads_list none reads begins

section Members

variable {fuel : Nat} {first : Bool} {s text rest rest' : Bytes} {m : SeriesMembers}
  (ends : Ends rest)
include ends

/-- A member that stands for the first time is read, and then the others. -/
theorem readMember {α β : Type} {held : Option β} {refused : Reader Series} {value : Reader α}
    {others : α → Reader Series} {o : Option α} {p : α → Option Series} (fresh : held = none)
    (reads : Reads value text o) (next : ∀ a, o = some a → (others a rest).Is (p a) rest') :
    ((if held.isSome = true then refused else colon >>= fun _ => value >>= others)
      (0x3A :: (text ++ rest))).Is (o.bind p) rest' := by
  have free : ¬ held.isSome = true := by
    rw [fresh]
    exact Bool.false_ne_true
  refine Reading.Is.branch_neg free (Reading.Is.bind_ok (colon_cons _) ?_)
  exact Reading.Is.bind (reads rest ends) next

/-- A target that is read first is kept for the members behind it. -/
theorem readMembers_target {target : String} {o : Option Series} (fresh : m.target = none)
    (key : nextKey first s = .ok true (Utf8.encode (writeText "target") ++ 0x3A :: (text ++ rest)))
    (reads : Reads readTextValue text (some target))
    (next : (readMembers fuel false { m with target := some target } rest).Is o rest') :
    (readMembers (fuel + 1) first m s).Is o rest' := by
  refine Reading.Is.bind_ok key (Reading.Is.bind_ok (readText_writeText "target" _) ?_)
  exact Reading.Is.branch_pos rfl
    (readMember ends (p := fun _ => o) fresh reads fun a same => Option.some.inj same ▸ next)

/-- Points that are read first are kept for the members behind them. -/
theorem readMembers_points {points : Option (List Sample)} {o : List Sample → Option Series}
    (fresh : m.points = none) (key : nextKey first s =
      .ok true (Utf8.encode (writeText "datapoints") ++ 0x3A :: (text ++ rest)))
    (reads : Reads (readList readSample) text points)
    (next : ∀ ps, (readMembers fuel false { m with points := some ps } rest).Is (o ps) rest') :
    (readMembers (fuel + 1) first m s).Is (points.bind o) rest' := by
  refine Reading.Is.bind_ok key (Reading.Is.bind_ok (readText_writeText "datapoints" _) ?_)
  refine Reading.Is.branch_neg (by decide) (Reading.Is.branch_pos rfl ?_)
  exact readMember ends fresh reads fun ps _ => next ps

/-- Tags that are read first are kept for the members behind them. -/
theorem readMembers_tags {tags : Tags} {o : Option Series} (fresh : m.tags = none)
    (key : nextKey first s = .ok true (Utf8.encode (writeText "tags") ++ 0x3A :: (text ++ rest)))
    (reads : Reads readTags text (some tags))
    (next : (readMembers fuel false { m with tags := some tags } rest).Is o rest') :
    (readMembers (fuel + 1) first m s).Is o rest' := by
  refine Reading.Is.bind_ok key (Reading.Is.bind_ok (readText_writeText "tags" _) ?_)
  refine Reading.Is.branch_neg (by decide) (Reading.Is.branch_neg (by decide) ?_)
  exact Reading.Is.branch_pos rfl
    (readMember ends (p := fun _ => o) fresh reads fun a same => Option.some.inj same ▸ next)

end Members

/-- A series is written as its target, its points and its tags, in this order. -/
theorem encode_writeSeries (s : Series) (rest : Bytes) : Utf8.encode (writeSeries s) ++ rest =
    0x7B :: (Utf8.encode (writeText "target") ++ 0x3A :: (Utf8.encode (writeText s.target) ++
    0x2C :: (Utf8.encode (writeText "datapoints") ++ 0x3A ::
      (Utf8.encode (writeList (s.points.map writeSample)) ++
    0x2C :: (Utf8.encode (writeText "tags") ++ 0x3A :: (Utf8.encode (writeTags s.tags) ++
    0x7D :: rest)))))) := by
  have target : "\x7b\"target\":".toList = '\x7b' :: (writeText "target" ++ [':']) := by rfl
  have points : ",\"datapoints\":".toList = ',' :: (writeText "datapoints" ++ [':']) := by rfl
  have tags : ",\"tags\":".toList = ',' :: (writeText "tags" ++ [':']) := by rfl
  have opening : Utf8.encodeChar '\x7b' = [0x7B] := rfl
  have closing : Utf8.encodeChar '\x7d' = [0x7D] := rfl
  have comma : Utf8.encodeChar ',' = [0x2C] := rfl
  have colon : Utf8.encodeChar ':' = [0x3A] := rfl
  unfold writeSeries
  rw [target, points, tags]
  simp [opening, closing, comma, colon]

/-- A written series is read, with the values that come back. -/
theorem reads_series {s : Series} (finite : ∀ p ∈ s.points, p.value.isFinite = true)
    (ordered : s.tags.Ordered) : Reads readSeries (Utf8.encode (writeSeries s)) s.returned? := by
  intro rest _
  have begins : ∀ p ∈ s.points, ∃ b more,
      Utf8.encode (writeSample p) = b :: more ∧ BeginsElement b := fun p _ =>
    ⟨0x5B, _, rfl, rfl, by decide⟩
  have points := reads_writeList (fun p mem => reads_sample (finite p mem)) begins
  have outcome : s.returned? = (s.points.mapM Sample.returned?).bind fun ps =>
      some { s with points := ps } := Option.map_eq_bind
  rw [encode_writeSeries, outcome]
  generalize hInside : Utf8.encode (writeText "target") ++ _ = inside
  -- There is room for three members and the closing brace.
  obtain ⟨fuel, room⟩ : ∃ fuel, inside.length + 1 = fuel + 1 + 1 + 1 + 1 := by
    have three : 3 ≤ (Utf8.encode (writeText "target")).length := by decide
    refine ⟨inside.length - 3, ?_⟩
    rw [← hInside, List.length_append]
    omega
  have members : (readMembers (inside.length + 1) true ⟨none, none, none⟩ inside).Is
      ((s.points.mapM Sample.returned?).bind fun ps => some { s with points := ps })
        (0x7D :: rest) := by
    rw [room, ← hInside]
    refine readMembers_target (ends_comma _) rfl (nextKey_first _ _) (reads_text _) ?_
    refine readMembers_points (ends_comma _) rfl (nextKey_comma _ _) points fun ps => ?_
    refine readMembers_tags (ends_object _) rfl (nextKey_comma _ _) (reads_tags ordered) ?_
    exact Reading.Is.bind_ok (nextKey_close false rest) rfl
  refine Reading.Is.placed (Reading.Is.bind_ok (a := .inl .object) rfl ?_)
  exact Reading.Is.bind_ok (a := ()) rfl (Reading.Is.enclosed members rfl)

/-! ## Documents -/

/-- **A written list of series is read as what comes back of it.** Targets, timestamps, tags and the
order of everything are the same; each value is what the reader of numbers makes of its text. The
document is refused if that is nothing for some value. -/
theorem toOption_seriesOfDocument {l : List Series}
    (finite : ∀ s ∈ l, ∀ p ∈ s.points, p.value.isFinite = true)
    (ordered : ∀ s ∈ l, s.tags.Ordered) :
    (seriesOfDocument (Utf8.encode (writeSeriesList l))).toOption = l.mapM Series.returned? := by
  have begins : ∀ s ∈ l, ∃ b more, Utf8.encode (writeSeries s) = b :: more ∧ BeginsElement b := by
    intro s _
    have text := encode_writeSeries s []
    rw [List.append_nil] at text
    exact ⟨0x7B, _, text, rfl, by decide⟩
  exact readDocument_of_reads
    (reads_writeList (fun s mem => reads_series (finite s mem) (ordered s mem)) begins)

end Json

end MetricsHarness
