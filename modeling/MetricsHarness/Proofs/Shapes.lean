import Mathlib.Data.List.Forall2
import MetricsHarness.Json.Series
import MetricsHarness.Proofs.Passing
import MetricsHarness.Proofs.Unambiguous

/-!
# Values that are read

A reader of values accepts a value if what it answers stands at the front of the bytes, spelled as
the grammar has it (`Accepts`). The parts of a series are read by such readers, texts and lists
among them (`accepts_readTextValue`, `accepts_readList`). What a number says is known only if no
number goes on behind it (`AcceptsBefore`), which is so for the elements of a list.

Lists and objects are read from comma to comma. Each element is found where the reader has advanced
to (`Advances`), and the ones behind it are those of the rest of the run, so the elements are put
together from the last one on (`Advances.elements`).
-/

namespace MetricsHarness

namespace Json

open Grammar

variable {α β : Type} {s rest : Bytes}

/-! ## Readers of values -/

/-- What a reader answers stands at the front, and answer and value go together. -/
def Accepts (r : Reader α) (R : α → Value → Prop) : Prop :=
  ∀ {s a rest}, r s = .ok a rest → ∃ v, Spelled s v rest ∧ R a v

/-- What a reader answers stands at the front, and answer and value go together, if no number goes
on behind it. -/
def AcceptsBefore (r : Reader α) (R : α → Value → Prop) : Prop :=
  ∀ {s a rest}, r s = .ok a rest → Stops rest → ∃ v, Spelled s v rest ∧ R a v

/-- What accepts values accepts them before anything. -/
theorem Accepts.before {r : Reader α} {R : α → Value → Prop} (accepts : Accepts r R) :
    AcceptsBefore r R :=
  fun h _ => accepts h

/-- Adding a place to complaints changes no answer. -/
theorem placed_eq_ok {r : Reader α} {a : α} (h : r.placed s = .ok a rest) : r s = .ok a rest := by
  unfold Reader.placed at h
  split at h
  next => nomatch h
  next => exact h

/-- What is unexpected is never answered. -/
theorem unexpected_ne_ok {expected : String} {o : Sum Bracket Plain} {a : α} :
    unexpected expected o s ≠ .ok a rest := by
  intro h
  unfold unexpected at h
  split at h
  next => nomatch h
  next => nomatch h
  next => nomatch h

/-- Between brackets the inner reader answers, and the bracket is closed. -/
theorem enclosed_eq_ok {inside : Reader α} {close : Reader Unit} {a : α}
    (h : Reader.enclosed inside close s = .ok a rest) :
    ∃ mid, inside s = .ok a mid ∧ close mid = .ok () rest := by
  unfold Reader.enclosed at h
  split at h
  next b mid read =>
    split at h
    next closed =>
      injection h with value left
      subst value left
      exact ⟨mid, read, closed⟩
    next => nomatch h
  next =>
    split at h
    next => nomatch h
    next => nomatch h
  next => nomatch h

/-- What is read as a number is one by the grammar. -/
theorem readNumber_eq_ok {n : Number} (h : readNumber s = .ok n rest) :
    ∃ token, IsNumber token ∧ s = token ++ rest := by
  unfold readNumber at h
  obtain ⟨front, ahead, h⟩ := peek_eq_ok h
  split at h
  next =>
    obtain ⟨tail, rfl⟩ := List.head?_eq_some_iff.mp ahead
    rw [bind_skip] at h
    obtain ⟨w, f, e, whole, fraction, exponent, eq⟩ := readNumberDigits_eq_ok h
    refine ⟨[0x2D] ++ (w ++ (f ++ e)), .mk (by decide) whole fraction exponent, ?_⟩
    simpa using eq
  next =>
    obtain ⟨w, f, e, whole, fraction, exponent, eq⟩ := readNumberDigits_eq_ok h
    refine ⟨[] ++ (w ++ (f ++ e)), .mk (by decide) whole fraction exponent, ?_⟩
    simpa using eq

/-- What a number of the grammar says. -/
def NumberSays (token : Bytes) (n : Number) : Prop :=
  ∃ t : NumberText, token = Text.Utf8.encode t.chars ∧ t.documentNumber = some n

/-- What is read of a number before its end is what it says. -/
theorem numberSays_of_read {token : Bytes} {n : Number} (number : IsNumber token)
    (front : s = token ++ rest) (read : readNumber s = .ok n rest) (stops : Stops rest) :
    NumberSays token n := by
  obtain ⟨t, rfl⟩ := number.exists_numberText
  have answer := reads_number t stops
  rw [← front, read] at answer
  cases stated : t.documentNumber with
  | none =>
    rw [stated] at answer
    obtain ⟨_, _, _, failed⟩ := answer
    nomatch failed
  | some m =>
    rw [stated] at answer
    injection answer with same
    exact ⟨t, rfl, same ▸ stated⟩

/-- A scalar that is read, and the value that stands there. -/
inductive IsPlain (rest : Bytes) : Plain → Value → Prop
  | null : IsPlain rest .null .null
  | boolean (b : Bool) : IsPlain rest (.boolean b) (.boolean b)
  | number {n : Number} {token : Bytes} (stated : Stops rest → NumberSays token n) :
    IsPlain rest (.number n) (.number token)
  | text (t : String) : IsPlain rest (.text t) (.text (some t))

/-- At the front stands an opening bracket, or a scalar that is read. -/
theorem readPlain_eq_ok {o : Sum Bracket Plain} (h : readPlain s = .ok o rest) :
    (∃ b tail, o = .inl b ∧ rest = Bracket.opening b :: tail ∧ s.dropWhile isBlankByte = rest) ∨
      ∃ p v, o = .inr p ∧ Spelled s v rest ∧ IsPlain rest p v := by
  unfold readPlain at h
  obtain ⟨front, mid, blanks, ahead, h⟩ := skipBlanks_eq_ok h
  split at h
  next => nomatch h
  next =>
    obtain ⟨tail, rfl⟩ := List.head?_eq_some_iff.mp ahead
    obtain ⟨rfl, value⟩ := word_eq_ok blanks h fun _ => .null
    exact .inr ⟨_, _, rfl, value, .null⟩
  next =>
    obtain ⟨tail, rfl⟩ := List.head?_eq_some_iff.mp ahead
    obtain ⟨rfl, value⟩ := word_eq_ok blanks h fun _ => .yes
    exact .inr ⟨_, _, rfl, value, .boolean true⟩
  next =>
    obtain ⟨tail, rfl⟩ := List.head?_eq_some_iff.mp ahead
    obtain ⟨rfl, value⟩ := word_eq_ok blanks h fun _ => .no
    exact .inr ⟨_, _, rfl, value, .boolean false⟩
  next =>
    obtain ⟨tail, rfl⟩ := List.head?_eq_some_iff.mp ahead
    obtain ⟨t, left, read, h⟩ := bind_eq_ok h
    obtain ⟨rfl, rfl⟩ := pure_eq_ok h
    obtain ⟨raw, spelling, denotes, eq⟩ := readText_eq_ok read
    exact .inr ⟨_, _, rfl, spelled_of_blanks (blanks.trans (congrArg _ eq))
      (.text spelling denotes), .text t⟩
  next =>
    obtain ⟨tail, rfl⟩ := List.head?_eq_some_iff.mp ahead
    obtain ⟨rfl, rfl⟩ := pure_eq_ok h
    exact .inl ⟨.list, tail, rfl, rfl, blanks⟩
  next =>
    obtain ⟨tail, rfl⟩ := List.head?_eq_some_iff.mp ahead
    obtain ⟨rfl, rfl⟩ := pure_eq_ok h
    exact .inl ⟨.object, tail, rfl, rfl, blanks⟩
  next =>
    obtain ⟨-, h⟩ | ⟨-, h⟩ := branch_eq_ok h
    · obtain ⟨n, left, read, h⟩ := bind_eq_ok h
      obtain ⟨rfl, rfl⟩ := pure_eq_ok h
      obtain ⟨token, number, eq⟩ := readNumber_eq_ok read
      have value : Spelled mid (.number token) left := eq ▸ .number number
      exact .inr ⟨_, _, rfl, spelled_of_blanks blanks value,
        .number (numberSays_of_read number eq read)⟩
    · nomatch h

/-- An opening bracket is only looked at. -/
theorem readPlain_inl {b : Bracket} (h : readPlain s = .ok (.inl b) rest) :
    ∃ tail, rest = b.opening :: tail ∧ s.dropWhile isBlankByte = rest := by
  obtain ⟨_, tail, same, front, blanks⟩ | ⟨_, _, none, _⟩ := readPlain_eq_ok h
  · obtain rfl := Sum.inl.inj same
    exact ⟨tail, front, blanks⟩
  · nomatch none

/-- A scalar that is read is spelled. -/
theorem readPlain_inr {p : Plain} (h : readPlain s = .ok (.inr p) rest) :
    ∃ v, Spelled s v rest ∧ IsPlain rest p v := by
  obtain ⟨_, _, none, _⟩ | ⟨_, v, same, spelled⟩ := readPlain_eq_ok h
  · nomatch none
  · obtain rfl := Sum.inr.inj same
    exact ⟨v, spelled⟩

/-- A text value is read as what it says. -/
theorem accepts_readTextValue : Accepts readTextValue fun t v => v = .text (some t) := by
  intro s t rest h
  obtain ⟨o, mid, plain, h⟩ := bind_eq_ok (placed_eq_ok h)
  split at h
  next =>
    obtain ⟨rfl, rfl⟩ := pure_eq_ok h
    obtain ⟨v, value, isPlain⟩ := readPlain_inr plain
    cases isPlain
    exact ⟨_, value, rfl⟩
  next => exact absurd h unexpected_ne_ok

/-! ## Elements -/

/-- Elements behind an opening bracket, or behind an element. -/
def Elements (close : UInt8) (element : Bytes → β → Bytes → Prop) (first : Bool) :
    Bytes → List β → Bytes → Prop :=
  if first then Inside close element else More close element

/-- At the next element, which is the first or has a comma before it. -/
def Advances (first : Bool) (s mid : Bytes) : Prop :=
  first = true ∧ s.dropWhile isBlankByte = mid ∨
    first = false ∧ ∃ tail, s.dropWhile isBlankByte = 0x2C :: tail ∧
      tail.dropWhile isBlankByte = mid

section Elements

variable {close : UInt8} {element : Bytes → β → Bytes → Prop} {first : Bool} {mid : Bytes}

/-- An element that was moved to, and those behind it, are elements. -/
theorem Advances.elements {mid' : Bytes} {item : β} {items : List β}
    (advances : Advances first s mid) (front : element mid item mid')
    (blank : ∀ b s, isBlankByte b = true → element s item mid' → element (b :: s) item mid')
    (more : More close element mid' items rest) :
    Elements close element first s (item :: items) rest := by
  obtain ⟨rfl, eq⟩ | ⟨rfl, tail, comma, eq⟩ := advances
  · exact inside_of_blanks eq (.items front more)
  · have front : element tail item mid' := of_blanks (element · item mid') blank eq front
    exact more_of_blanks comma (.comma front more)

/-- At the bracket there are no elements. -/
theorem elements_nil (front : s.dropWhile isBlankByte = mid)
    (closing : mid.dropWhile isBlankByte = close :: rest) :
    Elements close element first s [] rest := by
  cases first with
  | true => exact inside_of_blanks front (inside_of_blanks closing .close)
  | false => exact more_of_blanks front (more_of_blanks closing .close)

end Elements

/-- Either the next element was moved to, or the bracket stands there. -/
theorem nextElement_eq_ok {first inside : Bool} (h : nextElement first s = .ok inside rest) :
    inside = true ∧ Advances first s rest ∨
      inside = false ∧ s.dropWhile isBlankByte = rest ∧ rest.head? = some 0x5D := by
  unfold nextElement at h
  obtain ⟨front, mid, blanks, ahead, h⟩ := skipBlanks_eq_ok h
  split at h
  next => nomatch h
  next =>
    obtain ⟨rfl, rfl⟩ := pure_eq_ok h
    exact .inr ⟨rfl, blanks, ahead⟩
  next b _ =>
    obtain ⟨rfl, h⟩ | ⟨notFirst, h⟩ := branch_eq_ok h
    · obtain ⟨rfl, rfl⟩ := pure_eq_ok h
      exact .inl ⟨rfl, .inl ⟨rfl, blanks⟩⟩
    · obtain ⟨comma, more⟩ | ⟨-, h⟩ := branch_eq_ok h
      · rw [comma] at ahead
        obtain ⟨tail, rfl⟩ := List.head?_eq_some_iff.mp ahead
        rw [bind_skip] at more
        obtain ⟨front, mid', blanks', ahead', more⟩ := skipBlanks_eq_ok more
        split at more
        next => nomatch more
        next =>
          obtain ⟨rfl, rfl⟩ := pure_eq_ok more
          exact .inl ⟨rfl, .inr ⟨eq_false_of_ne_true notFirst, tail, blanks, blanks'⟩⟩
        next => nomatch more
      · nomatch h

/-- Either the next name was moved to, or no name stands there. -/
theorem nextKey_eq_ok {first inside : Bool} (h : nextKey first s = .ok inside rest) :
    inside = true ∧ Advances first s rest ∧ rest.head? = some 0x22 ∨
      inside = false ∧ s.dropWhile isBlankByte = rest := by
  unfold nextKey at h
  obtain ⟨front, mid, blanks, ahead, h⟩ := skipBlanks_eq_ok h
  split at h
  next => nomatch h
  next =>
    obtain ⟨rfl, rfl⟩ := pure_eq_ok h
    exact .inr ⟨rfl, blanks⟩
  next b _ =>
    obtain ⟨isFirst, h⟩ | ⟨notFirst, h⟩ := branch_eq_ok h
    · obtain ⟨quote, h⟩ | ⟨-, h⟩ := branch_eq_ok h
      · obtain ⟨rfl, rfl⟩ := pure_eq_ok h
        rw [quote] at ahead
        exact .inl ⟨rfl, .inl ⟨isFirst, blanks⟩, ahead⟩
      · nomatch h
    · obtain ⟨comma, more⟩ | ⟨-, h⟩ := branch_eq_ok h
      · rw [comma] at ahead
        obtain ⟨tail, rfl⟩ := List.head?_eq_some_iff.mp ahead
        rw [bind_skip] at more
        obtain ⟨front, mid', blanks', ahead', more⟩ := skipBlanks_eq_ok more
        split at more
        next =>
          obtain ⟨rfl, rfl⟩ := pure_eq_ok more
          exact .inl ⟨rfl, .inr ⟨eq_false_of_ne_true notFirst, tail, blanks, blanks'⟩, ahead'⟩
        next => nomatch more
        next => nomatch more
        next => nomatch more
      · nomatch h

/-- A list is closed by its bracket. -/
theorem closeList_eq_ok (h : closeList s = .ok () rest) :
    s.dropWhile isBlankByte = 0x5D :: rest := by
  unfold closeList at h
  obtain ⟨front, mid, blanks, ahead, h⟩ := skipBlanks_eq_ok h
  split at h
  next =>
    obtain ⟨tail, rfl⟩ := List.head?_eq_some_iff.mp ahead
    injection h with _ left
    rw [blanks, ← left]
    rfl
  next =>
    rw [bind_skip] at h
    obtain ⟨front, mid', blanks', ahead', h⟩ := skipBlanks_eq_ok h
    split at h
    next => nomatch h
    next => nomatch h
  next => nomatch h
  next => nomatch h

/-- An object is closed by its brace. -/
theorem closeObject_eq_ok (h : closeObject s = .ok () rest) :
    s.dropWhile isBlankByte = 0x7D :: rest := by
  unfold closeObject at h
  obtain ⟨front, mid, blanks, ahead, h⟩ := skipBlanks_eq_ok h
  split at h
  next =>
    obtain ⟨tail, rfl⟩ := List.head?_eq_some_iff.mp ahead
    injection h with _ left
    rw [blanks, ← left]
    rfl
  next => nomatch h
  next => nomatch h
  next => nomatch h

/-- Elements that are read stand between the brackets, one for each answer. -/
theorem readElements_eq_ok {element : Reader α} {R : α → Value → Prop}
    (accepts : AcceptsBefore element R) {fuel : Nat} {first : Bool} {as : List α} {mid : Bytes}
    (h : readElements element fuel first s = .ok as mid) (closes : closeList mid = .ok () rest) :
    ∃ items, Elements 0x5D Spelled first s items rest ∧ List.Forall₂ R as items := by
  induction fuel generalizing s first as with
  | zero => nomatch h
  | succ fuel ih =>
    unfold readElements at h
    obtain ⟨inside, mid', next, h⟩ := bind_eq_ok h
    obtain ⟨rfl, advances⟩ | ⟨rfl, blanks, -⟩ := nextElement_eq_ok next
    · obtain ⟨a, mid'', read, h⟩ := bind_eq_ok h
      obtain ⟨more, last, readMore, h⟩ := bind_eq_ok h
      obtain ⟨rfl, rfl⟩ := pure_eq_ok h
      obtain ⟨items, others, pairs⟩ := ih readMore
      obtain ⟨v, value, related⟩ := accepts read (More.stops (.inl rfl) others)
      exact ⟨v :: items, advances.elements value (fun _ _ => .blank) others, .cons related pairs⟩
    · obtain ⟨rfl, rfl⟩ := pure_eq_ok h
      exact ⟨[], elements_nil blanks (closeList_eq_ok closes), .nil⟩

/-- A list is read as its elements. -/
theorem accepts_readList {element : Reader α} {R : α → Value → Prop}
    (accepts : AcceptsBefore element R) :
    Accepts (readList element) fun as v => ∃ items, v = .list items ∧ List.Forall₂ R as items := by
  intro s as rest h
  obtain ⟨o, mid, plain, h⟩ := bind_eq_ok (placed_eq_ok h)
  split at h
  next =>
    obtain ⟨tail, rfl, blanks⟩ := readPlain_inl plain
    rw [bind_skip] at h
    obtain ⟨left, read, closes⟩ := enclosed_eq_ok h
    obtain ⟨items, inside, pairs⟩ := readElements_eq_ok accepts read closes
    exact ⟨.list items, spelled_of_blanks blanks (.list inside), items, rfl, pairs⟩
  next => exact absurd h unexpected_ne_ok

/-- A value is read as a list, as an object or as a scalar. -/
theorem readAny_eq_ok {plain : Plain → Except String α} {list object : Reader α} {a : α}
    (h : readAny plain list object s = .ok a rest) :
    (∃ tail mid, s.dropWhile isBlankByte = 0x5B :: tail ∧ list tail = .ok a mid ∧
      closeList mid = .ok () rest) ∨
    (∃ tail mid, s.dropWhile isBlankByte = 0x7B :: tail ∧ object tail = .ok a mid ∧
      closeObject mid = .ok () rest) ∨
    ∃ p v, plain p = .ok a ∧ Spelled s v rest ∧ IsPlain rest p v := by
  obtain ⟨o, mid, read, h⟩ := bind_eq_ok (placed_eq_ok h)
  obtain ⟨b, tail, rfl, rfl, blanks⟩ | ⟨p, v, rfl, value, isPlain⟩ := readPlain_eq_ok read
  · cases b with
    | list =>
      obtain ⟨left, inside, closes⟩ := enclosed_eq_ok h
      exact .inl ⟨tail, left, blanks, inside, closes⟩
    | object =>
      obtain ⟨left, inside, closes⟩ := enclosed_eq_ok h
      exact .inr (.inl ⟨tail, left, blanks, inside, closes⟩)
  · dsimp only at h
    cases taken : plain p with
    | error text =>
      rw [taken] at h
      nomatch h
    | ok b =>
      rw [taken] at h
      obtain ⟨rfl, rfl⟩ := pure_eq_ok h
      exact .inr (.inr ⟨p, v, taken, value, isPlain⟩)

/-! ## Members -/

/-- A member may stand behind blanks. -/
theorem member_blank {b : UInt8} {m : Option String × Value} (isBlank : isBlankByte b = true)
    (member : Member Spelled s m rest) :
    Member Spelled (b :: s) m rest := by
  cases member with
  | mk blank spelling denotes blank' value =>
    exact .mk (List.forall_mem_cons.mpr ⟨isBlank, blank⟩) spelling denotes blank' value

/-- A key that is read, its colon and a value are a member of that name, in front of others. -/
theorem Advances.member {first : Bool} {name : String} {mid left left' last : Bytes} {v : Value}
    {members : List (Option String × Value)} (advances : Advances first s mid)
    (quote : mid.head? = some 0x22) (read : readText mid = .ok name left)
    (marked : colon left = .ok () left') (value : Spelled left' v last)
    (others : More 0x7D (Member Spelled) last members rest) :
    Elements 0x7D (Member Spelled) first s ((some name, v) :: members) rest := by
  obtain ⟨tail, rfl⟩ := List.head?_eq_some_iff.mp quote
  obtain ⟨raw, spelling, denotes, rfl⟩ := readText_eq_ok read
  have member : Member Spelled (0x22 :: (raw ++ 0x22 :: left)) (some name, v) last :=
    member_of spelling denotes rfl (colon_eq_ok marked) value
  exact advances.elements member (fun _ _ => member_blank) others

end Json

end MetricsHarness
