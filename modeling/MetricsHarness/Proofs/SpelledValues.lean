import Mathlib.Data.List.DropRight
import MetricsHarness.Proofs.SampleShapes
import MetricsHarness.Proofs.SpelledTokens

/-!
# Values that are taken

A reader of values takes a value if it answers what goes with the value wherever it is spelled
(`Takes`). It is the converse of accepting, and kept by the same ways of putting readers together:
a list is taken if its elements are (`takes_readList`), a sample if its scalars are
(`takes_readSample`).

Blanks are out of the way first, then the front of the bytes decides (`Elements.stripped`). Behind
an element there are fewer bytes than before it, so the room that the readers get is enough.
-/

namespace MetricsHarness.Json

open Grammar

variable {α β : Type} {s rest : Bytes}

/-- What goes with a value is answered wherever the value is spelled, if no number goes on behind
it. -/
def Takes (r : Reader α) (R : α → Value → Prop) : Prop :=
  ∀ {s v rest a}, Spelled s v rest → Stops rest → R a v → r s = .ok a rest

/-! ## Fronts -/

/-- Behind the blanks the reader is given the byte that it looks at. -/
theorem bind_skipBlanks (f : Option UInt8 → Reader β) (s : Bytes) :
    (skipBlanks >>= f) s = f (s.dropWhile isBlankByte).head? (s.dropWhile isBlankByte) := rfl

/-- Blanks before a scalar or a bracket are skipped. -/
theorem readPlain_dropWhile (s : Bytes) : readPlain (s.dropWhile isBlankByte) = readPlain s := by
  unfold readPlain
  rw [bind_skipBlanks, bind_skipBlanks, List.dropWhile_idempotent]

/-- Without the blanks before it a value is spelled still. -/
theorem Grammar.Spelled.strips {v : Value} (h : Spelled s v rest) :
    Spelled (s.dropWhile isBlankByte) v rest :=
  (spelled_soleUpTo 0).strips h

/-- Behind the blanks stands none. -/
theorem not_blank_dropWhile {b : UInt8} {t : Bytes} (front : s.dropWhile isBlankByte = b :: t) :
    isBlankByte b ≠ true := by
  have ahead := List.head?_dropWhile_not isBlankByte s
  rw [front] at ahead
  simpa using ahead

/-- Behind the blanks an opening bracket begins a list. -/
theorem Grammar.Spelled.list_front {items : List Value} (h : Spelled s (.list items) rest) :
    ∃ tail, s.dropWhile isBlankByte = 0x5B :: tail ∧ Inside 0x5D Spelled tail items rest := by
  have value := h.strips
  generalize front : s.dropWhile isBlankByte = t at value
  cases value with
  | blank blank _ => exact absurd blank (not_blank_dropWhile front)
  | list inside => exact ⟨_, rfl, inside⟩

/-- An object begins with a brace and its members. -/
theorem Grammar.Spelled.object_front {members : List (Option String × Value)}
    (h : Spelled s (.object members) rest) :
    ∃ tail, s.dropWhile isBlankByte = 0x7B :: tail ∧
      Inside 0x7D (Member Spelled) tail members rest := by
  have value := h.strips
  generalize front : s.dropWhile isBlankByte = t at value
  cases value with
  | blank blank _ => exact absurd blank (not_blank_dropWhile front)
  | object inside => exact ⟨_, rfl, inside⟩

/-- In front of a bracket no plain value is read. -/
theorem readPlain_of_bracket {b : Bracket} {tail : Bytes}
    (front : s.dropWhile isBlankByte = b.opening :: tail) :
    readPlain s = .ok (.inl b) (b.opening :: tail) := by
  rw [← readPlain_dropWhile, front]
  cases b <;> rfl

/-- A minus sign or a digit begins a number. -/
theorem readPlain_number {b : UInt8} (first : b = 0x2D ∨ isDigitByte b = true) (s : Bytes) :
    readPlain (b :: s) = (readNumber >>= fun n => pure (.inr (.number n))) (b :: s) := by
  rcases first with rfl | digit
  · rfl
  · have blank : ¬isBlankByte b = true := by
      rw [isBlankByte_of_digit digit]
      exact Bool.false_ne_true
    have other {c : UInt8} (noDigit : isDigitByte c = false) : some b = some c → False :=
      some_ne_of_isDigitByte digit noDigit
    unfold readPlain
    rw [bind_skipBlanks, List.dropWhile_cons_of_neg blank, List.head?_cons]
    generalize same : some b = ahead
    split
    next => nomatch same
    next => exact (other rfl same).elim
    next => exact (other rfl same).elim
    next => exact (other rfl same).elim
    next => exact (other rfl same).elim
    next => exact (other rfl same).elim
    next => exact (other rfl same).elim
    next =>
      obtain rfl := Option.some.inj same
      rw [digit, Bool.or_true, if_pos rfl]

/-- Behind a quote a text is read. -/
theorem readPlain_quote (s : Bytes) :
    readPlain (0x22 :: s) = (readText >>= fun t => pure (.inr (.text t))) (0x22 :: s) := rfl

/-- What a number says is read. -/
theorem readNumber_of_numberSays {token : Bytes} {n : Number} (stated : NumberSays token n)
    (stops : Stops rest) : readNumber (token ++ rest) = .ok n rest := by
  obtain ⟨t, rfl, number⟩ := stated
  have read := reads_number t stops
  rw [number] at read
  exact read

/-- A scalar is read as what it is. -/
theorem readPlain_of_isPlain {p : Plain} {v : Value} (h : Spelled s v rest) (stops : Stops rest)
    (isPlain : IsPlain rest p v) : readPlain s = .ok (.inr p) rest := by
  rw [← readPlain_dropWhile]
  have value := h.strips
  generalize front : s.dropWhile isBlankByte = t at value
  have noBlank {b : UInt8} {u : Bytes} (eq : t = b :: u) (blank : isBlankByte b = true) : False :=
    not_blank_dropWhile (front.trans eq) blank
  cases isPlain with
  | null =>
    cases value with
    | blank blank _ => exact (noBlank rfl blank).elim
    | null => rfl
  | boolean b =>
    cases value with
    | blank blank _ => exact (noBlank rfl blank).elim
    | yes => rfl
    | no => rfl
  | number stated =>
    cases value with
    | blank blank _ => exact (noBlank rfl blank).elim
    | number number =>
      have read := readNumber_of_numberSays (stated stops) stops
      obtain ⟨b, more, rfl, first⟩ := number.front
      rw [List.cons_append] at read ⊢
      rw [readPlain_number first, bind_eq read]
      rfl
  | text t =>
    cases value with
    | blank blank _ => exact (noBlank rfl blank).elim
    | text _ denotes =>
      rw [readPlain_quote, bind_eq (readText_of_denotes denotes rest)]
      rfl

/-- A text is taken where one is asked for, and nothing else. -/
theorem takes_readTextValue : Takes readTextValue fun t v => v = .text (some t) := by
  rintro s v rest t value stops rfl
  have plain := readPlain_of_isPlain value stops (.text t)
  exact Reading.Is.placed (o := some t) (Reading.Is.bind_ok plain rfl)

section Brackets

variable {a : α} {tail : Bytes}

/-- A list in the place of any value is what its inside is. -/
theorem readAny_list {plain : Plain → Except String α} {list object : Reader α} {mid : Bytes}
    (front : s.dropWhile isBlankByte = 0x5B :: tail) (inside : list tail = .ok a mid)
    (closes : closeList mid = .ok () rest) : readAny plain list object s = .ok a rest := by
  have opens := readPlain_of_bracket (b := .list) front
  refine Reading.Is.placed (o := some a) (Reading.Is.bind_ok opens ?_)
  exact Reading.Is.bind_ok (a := ()) rfl (Reading.Is.enclosed (o := some a) inside closes)

/-- At a brace the members are read. -/
theorem readAny_object {plain : Plain → Except String α} {list object : Reader α}
    (front : s.dropWhile isBlankByte = 0x7B :: tail) (inside : object tail = .ok a (0x7D :: rest)) :
    readAny plain list object s = .ok a rest := by
  have opens := readPlain_of_bracket (b := .object) front
  refine Reading.Is.placed (o := some a) (Reading.Is.bind_ok opens ?_)
  exact Reading.Is.bind_ok (a := ()) rfl (Reading.Is.enclosed (o := some a) inside rfl)

/-- A plain value is taken by what takes such values. -/
theorem readAny_plain {plain : Plain → Except String α} {list object : Reader α} {p : Plain}
    {v : Value} (value : Spelled s v rest) (stops : Stops rest) (isPlain : IsPlain rest p v)
    (taken : plain p = .ok a) : readAny plain list object s = .ok a rest := by
  refine Reading.Is.placed (o := some a)
    (Reading.Is.bind_ok (readPlain_of_isPlain value stops isPlain) ?_)
  dsimp only
  rw [taken]
  exact rfl

/-- At a bracket the elements are read. -/
theorem readList_of_front {element : Reader α} {as : List α}
    (front : s.dropWhile isBlankByte = 0x5B :: tail)
    (inside : readAll element tail = .ok as (0x5D :: rest)) :
    readList element s = .ok as rest := by
  have opens := readPlain_of_bracket (b := .list) front
  refine Reading.Is.placed (o := some as) (Reading.Is.bind_ok opens ?_)
  exact Reading.Is.bind_ok (a := ()) rfl (Reading.Is.enclosed (o := some as) inside rfl)

end Brackets

/-! ## Elements -/

section Elements

variable {close : UInt8} {element : Bytes → β → Bytes → Prop} {first : Bool} {items : List β}

/-- Behind an element the sequence is closed, or a comma and the next element stand. -/
theorem Grammar.More.stripped (closing : IsClosing close)
    (more : More close element s items rest) :
    (items = [] ∧ s.dropWhile isBlankByte = close :: rest) ∨
      ∃ item others tail mid, items = item :: others ∧ s.dropWhile isBlankByte = 0x2C :: tail ∧
        element tail item mid ∧ More close element mid others rest := by
  induction more with
  | blank blank _ ih =>
    rw [List.dropWhile_cons_of_pos blank]
    exact ih
  | close =>
    refine .inl ⟨rfl, List.dropWhile_cons_of_neg ?_⟩
    rw [closing.other.1]
    exact Bool.false_ne_true
  | comma front more =>
    exact .inr ⟨_, _, _, _, rfl, List.dropWhile_cons_of_neg (by decide), front, more⟩

/-- Elements of a list are elements from its first one on. -/
theorem Elements.of_inside (inside : Inside close element s items rest) :
    Elements close element true s items rest := inside

/-- Elements behind others are elements behind a comma. -/
theorem Elements.of_more (more : More close element s items rest) :
    Elements close element false s items rest := more

/-- Elements are closed, or their first one is advanced to. -/
theorem Elements.stripped (closing : IsClosing close) (sole : SoleUpTo 0 close element)
    (elements : Elements close element first s items rest) :
    (items = [] ∧ s.dropWhile isBlankByte = close :: rest) ∨
      ∃ item others mid mid', items = item :: others ∧ Advances first s mid ∧
        mid.dropWhile isBlankByte = mid ∧ element mid item mid' ∧
        More close element mid' others rest := by
  cases first with
  | true =>
    refine (elements.stripped closing sole).imp_right ?_
    rintro ⟨item, mid', others, rfl, front, more⟩
    exact ⟨item, others, _, mid', rfl, .inl ⟨rfl, rfl⟩, List.dropWhile_idempotent _ _, front, more⟩
  | false =>
    refine (More.stripped closing elements).imp_right ?_
    rintro ⟨item, others, tail, mid', rfl, comma, front, more⟩
    exact ⟨item, others, _, mid', rfl, .inr ⟨rfl, tail, comma, rfl⟩, List.dropWhile_idempotent _ _,
      sole.strips front, more⟩

end Elements

/-- Moving to an element never goes back. -/
theorem Advances.length_le {first : Bool} {mid : Bytes} (advances : Advances first s mid) :
    mid.length ≤ s.length := by
  obtain ⟨-, rfl⟩ | ⟨-, tail, comma, rfl⟩ := advances
  · exact List.length_dropWhile_le _ _
  · have front := List.length_dropWhile_le isBlankByte s
    have back := List.length_dropWhile_le isBlankByte tail
    rw [comma, List.length_cons] at front
    omega

/-- The next element is where it has been advanced to. -/
theorem nextElement_of_advances {first : Bool} {b : UInt8} {t : Bytes}
    (advances : Advances first s (b :: t)) (inside : b ≠ 0x5D) :
    nextElement first s = .ok true (b :: t) := by
  have inside : b = 0x5D → False := inside
  unfold nextElement
  rw [bind_skipBlanks]
  obtain ⟨rfl, eq⟩ | ⟨rfl, tail, comma, eq⟩ := advances
  · rw [eq]
    simp only [List.head?_cons, if_true]
    rfl
  · rw [comma]
    show (Reader.skip >>= fun _ => skipBlanks >>= _) (0x2C :: tail) = _
    rw [bind_skip, List.drop_succ_cons, List.drop_zero, bind_skipBlanks, eq]
    simp only [List.head?_cons]
    rfl

/-- Behind the last element the list is closed. -/
theorem closeList_of_more (more : More 0x5D Spelled s [] rest) : closeList s = .ok () rest := by
  obtain ⟨-, closed⟩ | ⟨_, _, _, _, some, -⟩ := more.stripped (.inl rfl)
  · unfold closeList
    rw [bind_skipBlanks, closed]
    rfl
  · nomatch some

/-- At the bracket there is no element, blanks aside. -/
theorem nextElement_of_close {first : Bool} (front : s.dropWhile isBlankByte = 0x5D :: rest) :
    nextElement first s = .ok false (0x5D :: rest) := by
  unfold nextElement
  rw [bind_skipBlanks, front]
  rfl

/-- The next key is where it has been advanced to. -/
theorem nextKey_of_advances {first : Bool} {t : Bytes} (advances : Advances first s (0x22 :: t)) :
    nextKey first s = .ok true (0x22 :: t) := by
  unfold nextKey
  rw [bind_skipBlanks]
  obtain ⟨rfl, eq⟩ | ⟨rfl, tail, comma, eq⟩ := advances
  · rw [eq]
    rfl
  · rw [comma]
    show (Reader.skip >>= fun _ => skipBlanks >>= _) (0x2C :: tail) = _
    rw [bind_skip, List.drop_succ_cons, List.drop_zero, bind_skipBlanks, eq]
    rfl

/-- At the brace there is no name, blanks aside. -/
theorem nextKey_of_close {first : Bool} (front : s.dropWhile isBlankByte = 0x7D :: rest) :
    nextKey first s = .ok false (0x7D :: rest) := by
  unfold nextKey
  rw [bind_skipBlanks, front]
  rfl

/-- Before the bracket that closes a list there is no further element. -/
theorem nextElement_nil {first : Bool} (elements : Elements 0x5D Spelled first s [] rest) :
    nextElement first s = .ok false (0x5D :: rest) := by
  obtain ⟨-, closed⟩ | ⟨_, _, _, _, some, -⟩ := elements.stripped (.inl rfl) (spelled_soleUpTo 0)
  · exact nextElement_of_close closed
  · nomatch some

/-- The next element of a list is moved to. -/
theorem nextElement_cons {first : Bool} {item : Value} {items : List Value}
    (elements : Elements 0x5D Spelled first s (item :: items) rest) :
    ∃ mid mid', nextElement first s = .ok true mid ∧ Spelled mid item mid' ∧
      More 0x5D Spelled mid' items rest ∧ mid'.length < s.length := by
  have sole := spelled_soleUpTo
  obtain ⟨none, -⟩ | ⟨_, _, mid, mid', same, advances, -, value, more⟩ :=
    elements.stripped (.inl rfl) (sole 0)
  · nomatch none
  · obtain ⟨rfl, rfl⟩ := List.cons.inj same
    have shorter := (sole mid.length).shorter (Nat.le_refl _) value
    refine ⟨mid, mid', ?_, value, more, shorter.trans_le advances.length_le⟩
    cases mid with
    | nil => nomatch shorter
    | cons b t =>
      refine nextElement_of_advances advances ?_
      rintro rfl
      exact (sole 0).apart value

/-- Elements are read up to the closing bracket, if each of them is taken. -/
theorem readElements_of_elements {element : Reader α} {R : α → Value → Prop}
    (takes : Takes element R) {fuel : Nat} {first : Bool} {as : List α} {items : List Value}
    (elements : Elements 0x5D Spelled first s items rest) (pairs : List.Forall₂ R as items)
    (room : s.length < fuel) : readElements element fuel first s = .ok as (0x5D :: rest) := by
  induction pairs generalizing s first fuel with
  | nil =>
    obtain ⟨fuel, rfl⟩ := Nat.exists_eq_succ_of_ne_zero (Nat.ne_zero_of_lt room)
    unfold readElements
    rw [bind_eq (nextElement_nil elements)]
    rfl
  | cons related _ ih =>
    obtain ⟨fuel, rfl⟩ := Nat.exists_eq_succ_of_ne_zero (Nat.ne_zero_of_lt room)
    obtain ⟨mid, mid', next, value, more, shorter⟩ := nextElement_cons elements
    have read := takes value (More.stops (.inl rfl) more) related
    unfold readElements
    rw [bind_eq next]
    show (element >>= _) mid = _
    rw [bind_eq read, bind_eq (ih (.of_more more) (by omega))]
    rfl

/-- **A list is taken if its elements are.** -/
theorem takes_readList {element : Reader α} {R : α → Value → Prop} (takes : Takes element R) :
    Takes (readList element) fun as v => ∃ items, v = .list items ∧ List.Forall₂ R as items := by
  rintro s v rest as value - ⟨items, rfl, pairs⟩
  obtain ⟨tail, front, inside⟩ := value.list_front
  exact readList_of_front front
    (readElements_of_elements takes (.of_inside inside) pairs (Nat.lt_succ_self _))

/-! ## Samples -/

/-- A scalar is taken where one is asked for. -/
theorem takes_readScalar : Takes readScalar fun a v => IsScalar v a := by
  intro s v rest a value stops isScalar
  cases isScalar with
  | null => exact readAny_plain value stops .null rfl
  | boolean b => exact readAny_plain value stops (.boolean b) rfl
  | natural number => exact readAny_plain value stops (.number fun _ => number) rfl
  | negative number => exact readAny_plain value stops (.number fun _ => number) rfl
  | real number => exact readAny_plain value stops (.number fun _ => number) rfl
  | text t => exact readAny_plain value stops (.text t) rfl

/-- **A sample is taken,** as a pair or as a text. -/
theorem takes_readSample : Takes readSample fun p v => IsSample v p := by
  intro s v rest p value stops isSample
  cases isSample with
  | @pair value' timestamp a b _ first second reads =>
    obtain ⟨tail, front, inside⟩ := value.list_front
    have pairs : List.Forall₂ (fun a v => IsScalar v a) [a, b] [value', timestamp] :=
      .cons first (.cons second .nil)
    have read : readAll readScalar tail = .ok [a, b] (0x5D :: rest) :=
      readElements_of_elements takes_readScalar (.of_inside inside) pairs (Nat.lt_succ_self _)
    refine readAny_list front ?_ (rfl : closeList (0x5D :: rest) = .ok () rest)
    rw [bind_eq read, reads]
    rfl
  | @text t _ reads =>
    refine readAny_plain value stops (.text t) ?_
    rw [plainSample, reads]

/-! ## Members -/

/-- Blanks may stand before the colon. -/
theorem colon_of_gap {gap : Bytes} (blank : ∀ b ∈ gap, isBlankByte b = true) (s : Bytes) :
    colon (gap ++ 0x3A :: s) = .ok () s := by
  unfold colon
  rw [bind_eq (skipBlanks_append blank (by decide) s)]
  rfl

/-- A member without blanks before it is a key in quotes, a colon and a value. -/
theorem member_front {key : Option String} {v : Value}
    (stripped : s.dropWhile isBlankByte = s) (member : Member Spelled s (key, v) rest) :
    ∃ raw gap tail, s = 0x22 :: (raw ++ 0x22 :: (gap ++ 0x3A :: tail)) ∧ IsSpelling raw ∧
      Denotes raw key ∧ (∀ b ∈ gap, isBlankByte b = true) ∧ Spelled tail v rest := by
  generalize same : s = t at member
  cases member with
  | @mk gap raw gap' tail _ _ _ blank spelling denotes blank' value =>
    rw [same, List.dropWhile_append_of_pos blank] at stripped
    have none : gap = [] := by
      have size := congrArg List.length stripped
      have shorter := List.length_dropWhile_le isBlankByte
        (0x22 :: (raw ++ 0x22 :: (gap' ++ 0x3A :: tail)))
      rw [List.length_append] at size
      exact List.length_eq_zero_iff.mp (by omega)
    subst none
    exact ⟨raw, gap', tail, rfl, spelling, denotes, blank', value⟩

/-- Without further members there is no name. -/
theorem nextKey_nil {first : Bool}
    (members : Elements 0x7D (Member Spelled) first s [] rest) :
    nextKey first s = .ok false (0x7D :: rest) := by
  obtain ⟨-, closed⟩ | ⟨_, _, _, _, some, -⟩ :=
    members.stripped (.inr rfl) (spelled_soleUpTo 0).member
  · exact nextKey_of_close closed
  · nomatch some

/-- The next key of an object is moved to and read, if it says a string, and so is its colon. -/
theorem nextKey_cons {first : Bool} {name : String} {v : Value}
    {others : List (Option String × Value)}
    (members : Elements 0x7D (Member Spelled) first s ((some name, v) :: others) rest) :
    ∃ mid left tail last, nextKey first s = .ok true mid ∧ readText mid = .ok name left ∧
      colon left = .ok () tail ∧ Spelled tail v last ∧ More 0x7D (Member Spelled) last others rest ∧
      last.length < s.length := by
  obtain ⟨none, -⟩ | ⟨_, _, mid, last, same, advances, stripped, member, more⟩ :=
    members.stripped (.inr rfl) (spelled_soleUpTo 0).member
  · nomatch none
  · obtain ⟨rfl, rfl⟩ := List.cons.inj same
    have shorter := (spelled_soleUpTo mid.length).member.shorter (Nat.le_refl _) member
    obtain ⟨raw, gap, tail, rfl, spelling, denotes, blank, value⟩ := member_front stripped member
    exact ⟨_, _, tail, last, nextKey_of_advances advances, readText_of_denotes denotes _,
      colon_of_gap blank tail, value, more, shorter.trans_le advances.length_le⟩

end MetricsHarness.Json
