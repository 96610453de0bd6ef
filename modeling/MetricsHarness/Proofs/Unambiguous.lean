import Mathlib.Data.List.TakeWhile
import MetricsHarness.Proofs.DocumentNumbers
import MetricsHarness.Proofs.Grammar

/-!
# A document says one thing

The grammar of documents is unambiguous (`Document.unique`). The first byte of a value, blanks
aside, decides what kind of value it is (`frontOf`), and each kind ends in one place only: a word
after its letters, a text at its closing quote, a list or an object at its bracket. A number has no
end of its own. It ends where the digits, the point and the exponent do not go on, and in a document
a comma, a bracket, a blank or the end always comes after it (`More.stops`).

So a value is known as soon as no number goes on behind it (`SoleUpTo`). The induction is on the
length of the bytes: what stands in brackets is shorter than the brackets are.
-/

namespace MetricsHarness.Json.Grammar

open Text

/-! ## Numbers -/

/-- Bytes of one class end where one of another comes next. -/
theorem cut_unique {p : UInt8 → Bool} {t t' r r' : Bytes} (inside : ∀ b ∈ t, p b = true)
    (inside' : ∀ b ∈ t', p b = true) (stop : ∀ b ∈ r.head?, p b = false)
    (stop' : ∀ b ∈ r'.head?, p b = false) (same : t ++ r = t' ++ r') : t = t' ∧ r = r' := by
  obtain ⟨taken, left⟩ := takeWhile_dropWhile_append inside stop
  obtain ⟨taken', left'⟩ := takeWhile_dropWhile_append inside' stop'
  rw [same] at taken left
  exact ⟨taken.symm.trans taken', left.symm.trans left'⟩

/-- Digits begin with one. -/
theorem IsDigits.front {t : Bytes} (digits : IsDigits t) :
    ∃ d more, t = d :: more ∧ isDigitByte d = true := by
  obtain ⟨some, digit⟩ := digits
  obtain ⟨d, more, rfl⟩ := List.exists_cons_of_ne_nil some
  exact ⟨d, more, rfl, (List.forall_mem_cons.mp digit).1⟩

/-- A sign ends where the digits begin. -/
theorem sign_unique {signs : List Bytes}
    (signed : (signs.all fun sign => sign.all fun b => !isDigitByte b) = true)
    {sign sign' s s' : Bytes} (mem : sign ∈ signs) (mem' : sign' ∈ signs)
    (first : ∀ b ∈ s.head?, isDigitByte b = true) (first' : ∀ b ∈ s'.head?, isDigitByte b = true)
    (same : sign ++ s = sign' ++ s') : sign = sign' ∧ s = s' := by
  have other {sign : Bytes} (mem : sign ∈ signs) : ∀ b ∈ sign, (!isDigitByte b) = true :=
    List.all_eq_true.mp (List.all_eq_true.mp signed sign mem)
  have stop {s : Bytes} (first : ∀ b ∈ s.head?, isDigitByte b = true) :
      ∀ b ∈ s.head?, (!isDigitByte b) = false := by
    intro b ahead
    rw [first b ahead]
    rfl
  exact cut_unique (other mem) (other mem') (stop first) (stop first') same

section Numbers

variable {rest rest' : Bytes} (stops : Stops rest) (stops' : Stops rest')
include stops

/-- Before an exponent stands neither a digit nor a point. -/
theorem IsExponent.stop {e : Bytes} (exponent : IsExponent e) :
    ∀ b ∈ (e ++ rest).head?, isDigitByte b = false ∧ b ≠ 0x2E := by
  intro b ahead
  cases exponent with
  | none => exact ⟨(stops b ahead).1, (stops b ahead).2.1⟩
  | some mark signed digits =>
    obtain rfl := Option.some.inj ahead
    rcases mark with rfl | rfl <;> decide

/-- Before a fraction stands no digit. -/
theorem IsFraction.stop {f e : Bytes} (fraction : IsFraction f) (exponent : IsExponent e) :
    ∀ b ∈ (f ++ (e ++ rest)).head?, isDigitByte b = false := by
  intro b ahead
  cases fraction with
  | none => exact (exponent.stop stops b ahead).1
  | some digits =>
    obtain rfl := Option.some.inj ahead
    decide

include stops'

/-- An exponent ends in one place only. -/
theorem IsExponent.unique {e e' : Bytes} (exponent : IsExponent e) (exponent' : IsExponent e')
    (same : e ++ rest = e' ++ rest') : e = e' ∧ rest = rest' := by
  have noMark {r t s : Bytes} {m : UInt8} (stops : Stops r) (mark : m = 0x65 ∨ m = 0x45)
      (same : r = m :: (t ++ s)) : False := by
    have stop := (stops m (by rw [same]; rfl)).2.2
    rcases mark with rfl | rfl
    · exact stop.1 rfl
    · exact stop.2 rfl
  cases exponent with
  | none =>
    cases exponent' with
    | none => exact ⟨rfl, same⟩
    | some mark' _ _ => exact (noMark stops mark' same).elim
  | some mark signed digits =>
    cases exponent' with
    | none => exact (noMark stops' mark same.symm).elim
    | some mark' signed' digits' =>
      simp only [List.cons_append, List.append_assoc, List.cons.injEq] at same
      obtain ⟨rfl, same⟩ := same
      obtain ⟨d, more, rfl, digit⟩ := digits.front
      obtain ⟨d', more', rfl, digit'⟩ := digits'.front
      have front {d : UInt8} {s : Bytes} (digit : isDigitByte d = true) :
          ∀ b ∈ (d :: s).head?, isDigitByte b = true := by
        intro b ahead
        rwa [← Option.some.inj ahead]
      obtain ⟨sign, behind⟩ := sign_unique (by decide) signed signed' (front digit) (front digit')
        same
      obtain ⟨written, left⟩ := cut_unique digits.2 digits'.2 (fun b ahead => (stops b ahead).1)
        (fun b ahead => (stops' b ahead).1) behind
      rw [sign, written]
      exact ⟨rfl, left⟩

/-- A fraction and an exponent end in one place only. -/
theorem IsFraction.unique {f f' e e' : Bytes} (fraction : IsFraction f) (fraction' : IsFraction f')
    (exponent : IsExponent e) (exponent' : IsExponent e')
    (same : f ++ (e ++ rest) = f' ++ (e' ++ rest')) : f = f' ∧ e = e' ∧ rest = rest' := by
  have noPoint {r e t s : Bytes} (stops : Stops r) (exponent : IsExponent e)
      (same : e ++ r = 0x2E :: (t ++ s)) : False :=
    (exponent.stop stops 0x2E (by rw [same]; rfl)).2 rfl
  cases fraction with
  | none =>
    cases fraction' with
    | none => exact ⟨rfl, exponent.unique stops stops' exponent' same⟩
    | some _ => exact (noPoint stops exponent same).elim
  | some digits =>
    cases fraction' with
    | none => exact (noPoint stops' exponent' same.symm).elim
    | some digits' =>
      obtain ⟨written, left⟩ := cut_unique digits.2 digits'.2
        (fun b ahead => (exponent.stop stops b ahead).1)
        (fun b ahead => (exponent'.stop stops' b ahead).1) (List.cons.inj same).2
      rw [written]
      exact ⟨rfl, exponent.unique stops stops' exponent' left⟩

/-- A number ends where no number goes on. -/
theorem IsNumber.unique {token token' : Bytes} (number : IsNumber token)
    (number' : IsNumber token') (same : token ++ rest = token' ++ rest') :
    token = token' ∧ rest = rest' := by
  obtain @⟨sign, w, f, e, signed, whole, fraction, exponent⟩ := number
  obtain @⟨sign', w', f', e', signed', whole', fraction', exponent'⟩ := number'
  simp only [List.append_assoc] at same
  have front {w s : Bytes} (whole : IsWhole w) : ∀ b ∈ (w ++ s).head?, isDigitByte b = true := by
    intro b ahead
    cases whole with
    | zero =>
      obtain rfl := Option.some.inj ahead
      decide
    | digits digits _ =>
      obtain rfl := Option.some.inj ahead
      exact (List.forall_mem_cons.mp digits.2).1
  obtain ⟨rfl, unsigned⟩ := sign_unique (by decide) signed signed' (front whole) (front whole') same
  have digits {w : Bytes} (whole : IsWhole w) : ∀ b ∈ w, isDigitByte b = true := by
    cases whole with
    | zero => exact forall_mem_of_all (by decide)
    | digits digits _ => exact digits.2
  obtain ⟨rfl, behind⟩ := cut_unique (digits whole) (digits whole')
    (fraction.stop stops exponent) (fraction'.stop stops' exponent') unsigned
  obtain ⟨rfl, rfl, left⟩ := fraction.unique stops stops' fraction' exponent exponent' behind
  exact ⟨rfl, left⟩

end Numbers

/-! ## Texts -/

/-- A plain byte is neither a quote nor a backslash. -/
theorem ne_of_isPlainByte {b : UInt8} (plain : isPlainByte b = true) : b ≠ 0x22 ∧ b ≠ 0x5C := by
  simp only [isPlainByte, Bool.and_eq_true, bne_iff_ne] at plain
  exact plain.1

/-- A short escape is not the one of four digits. -/
theorem ne_of_mem_letters {l b : UInt8} (short : (l, b) ∈ letters) : l ≠ 0x75 := by
  rintro rfl
  simp [letters] at short

/-- A hexadecimal number has four digits, and they write one number. -/
theorem IsHex.unique {digits digits' s s' : Bytes} {n m : Nat} (hex : IsHex digits n)
    (hex' : IsHex digits' m) (same : digits ++ s = digits' ++ s') :
    digits = digits' ∧ n = m ∧ s = s' := by
  obtain ⟨a, b, c, d, w, x, y, z, rfl, ha, hb, hc, hd, rfl⟩ := hex
  obtain ⟨a', b', c', d', w', x', y', z', rfl, ha', hb', hc', hd', rfl⟩ := hex'
  simp only [List.cons_append, List.nil_append, List.cons.injEq] at same
  obtain ⟨rfl, rfl, rfl, rfl, rfl⟩ := same
  rw [ha] at ha'
  rw [hb] at hb'
  rw [hc] at hc'
  rw [hd] at hd'
  cases ha'
  cases hb'
  cases hc'
  cases hd'
  exact ⟨rfl, rfl, rfl⟩

/-- A text ends at its closing quote. -/
theorem IsSpelling.unique {raw raw' rest rest' : Bytes} (spelling : IsSpelling raw)
    (spelling' : IsSpelling raw') (same : raw ++ 0x22 :: rest = raw' ++ 0x22 :: rest') :
    raw = raw' ∧ rest = rest' := by
  induction spelling generalizing raw' with
  | nil =>
    cases spelling' with
    | nil => exact ⟨rfl, (List.cons.inj same).2⟩
    | plain plain _ => exact absurd (List.cons.inj same).1.symm (ne_of_isPlainByte plain).1
    | letter _ _ => exact absurd (List.cons.inj same).1 (by decide)
    | hex _ _ => exact absurd (List.cons.inj same).1 (by decide)
  | plain plain more ih =>
    cases spelling' with
    | nil => exact absurd (List.cons.inj same).1 (ne_of_isPlainByte plain).1
    | plain _ more' =>
      obtain ⟨rfl, tail⟩ := List.cons.inj same
      obtain ⟨rfl, left⟩ := ih more' tail
      exact ⟨rfl, left⟩
    | letter _ _ => exact absurd (List.cons.inj same).1 (ne_of_isPlainByte plain).2
    | hex _ _ => exact absurd (List.cons.inj same).1 (ne_of_isPlainByte plain).2
  | letter short more ih =>
    cases spelling' with
    | nil => exact absurd (List.cons.inj same).1 (by decide)
    | plain plain _ => exact absurd (List.cons.inj same).1.symm (ne_of_isPlainByte plain).2
    | letter _ more' =>
      obtain ⟨rfl, tail⟩ := List.cons.inj (List.cons.inj same).2
      obtain ⟨rfl, left⟩ := ih more' tail
      exact ⟨rfl, left⟩
    | hex _ _ =>
      exact absurd (List.cons.inj (List.cons.inj same).2).1 (ne_of_mem_letters short)
  | hex hex more ih =>
    cases spelling' with
    | nil => exact absurd (List.cons.inj same).1 (by decide)
    | plain plain _ => exact absurd (List.cons.inj same).1.symm (ne_of_isPlainByte plain).2
    | letter short _ =>
      exact absurd (List.cons.inj (List.cons.inj same).2).1.symm (ne_of_mem_letters short)
    | hex hex' more' =>
      simp only [List.cons_append, List.append_assoc, List.cons.injEq, true_and] at same
      obtain ⟨rfl, -, behind⟩ := hex.unique hex' same
      obtain ⟨rfl, left⟩ := ih more' behind
      exact ⟨rfl, left⟩

/-- The letter of a short escape stands for one byte. -/
theorem letters_unique {l b b' : UInt8} (short : (l, b) ∈ letters) (short' : (l, b') ∈ letters) :
    b = b' := by
  have pairs : letters.all (fun p => letters.all fun q => p.1 != q.1 || p.2 == q.2) = true := by
    decide
  have same := List.all_eq_true.mp (List.all_eq_true.mp pairs _ short) _ short'
  simpa using same

/-- A spelling stands for one text at most. -/
theorem StandsFor.unique {raw bytes bytes' : Bytes} (stands : StandsFor raw bytes)
    (stands' : StandsFor raw bytes') : bytes = bytes' := by
  generalize same : raw = raw' at stands'
  induction stands generalizing raw' bytes' with
  | nil =>
    cases stands' with
    | nil => rfl
    | plain _ _ => nomatch same
    | letter _ _ => nomatch same
    | hex _ _ _ _ => nomatch same
    | pair _ _ _ _ _ => nomatch same
  | plain plain more ih =>
    cases stands' with
    | nil => nomatch same
    | plain _ more' =>
      obtain ⟨rfl, tail⟩ := List.cons.inj same
      rw [ih _ tail more']
    | letter _ _ => exact absurd (List.cons.inj same).1 (ne_of_isPlainByte plain).2
    | hex _ _ _ _ => exact absurd (List.cons.inj same).1 (ne_of_isPlainByte plain).2
    | pair _ _ _ _ _ => exact absurd (List.cons.inj same).1 (ne_of_isPlainByte plain).2
  | letter short more ih =>
    cases stands' with
    | nil => nomatch same
    | plain plain _ => exact absurd (List.cons.inj same).1.symm (ne_of_isPlainByte plain).2
    | letter short' more' =>
      obtain ⟨rfl, tail⟩ := List.cons.inj (List.cons.inj same).2
      rw [ih _ tail more', letters_unique short short']
    | hex _ _ _ _ =>
      exact absurd (List.cons.inj (List.cons.inj same).2).1 (ne_of_mem_letters short)
    | pair _ _ _ _ _ =>
      exact absurd (List.cons.inj (List.cons.inj same).2).1 (ne_of_mem_letters short)
  | hex hex leading trailing more ih =>
    cases stands' with
    | nil => nomatch same
    | plain plain _ => exact absurd (List.cons.inj same).1.symm (ne_of_isPlainByte plain).2
    | letter short _ =>
      exact absurd (List.cons.inj (List.cons.inj same).2).1.symm (ne_of_mem_letters short)
    | hex hex' _ _ more' =>
      obtain ⟨-, rfl, tail⟩ := hex.unique hex' (List.cons.inj (List.cons.inj same).2).2
      rw [ih _ tail more']
    | pair first leading' _ _ _ =>
      obtain ⟨-, rfl, -⟩ := hex.unique first (List.cons.inj (List.cons.inj same).2).2
      rw [leading] at leading'
      nomatch leading'
  | pair first leading second trailing more ih =>
    cases stands' with
    | nil => nomatch same
    | plain plain _ => exact absurd (List.cons.inj same).1.symm (ne_of_isPlainByte plain).2
    | letter short _ =>
      exact absurd (List.cons.inj (List.cons.inj same).2).1.symm (ne_of_mem_letters short)
    | hex hex' leading' _ _ =>
      obtain ⟨-, rfl, -⟩ := first.unique hex' (List.cons.inj (List.cons.inj same).2).2
      rw [leading] at leading'
      nomatch leading'
    | pair first' _ second' _ more' =>
      obtain ⟨-, rfl, tail⟩ := first.unique first' (List.cons.inj (List.cons.inj same).2).2
      obtain ⟨-, rfl, tail⟩ := second.unique second' (List.cons.inj (List.cons.inj tail).2).2
      rw [ih _ tail more']

/-- Raw bytes denote one text. -/
theorem Denotes.unique {raw : Bytes} {t t' : Option String} (denotes : Denotes raw t)
    (denotes' : Denotes raw t') : t = t' := by
  cases denotes with
  | some stands text =>
    cases denotes' with
    | some stands' text' =>
      rw [stands.unique stands', text'] at text
      rw [Option.some.inj text]
    | none silent => exact absurd ⟨_, _, stands, text⟩ silent
  | none silent =>
    cases denotes' with
    | some stands text => exact absurd ⟨_, _, stands, text⟩ silent
    | none _ => rfl

/-! ## The first byte -/

/-- What the first byte of a value begins. -/
inductive Front where
  | blank
  | null
  | yes
  | no
  | number
  | text
  | list
  | object
  | nothing

/-- What a byte begins. -/
def frontOf : Option UInt8 → Front
  | none => .nothing
  | some b =>
    if isBlankByte b then .blank
    else if b = 0x6E then .null
    else if b = 0x74 then .yes
    else if b = 0x66 then .no
    else if b = 0x2D ∨ isDigitByte b = true then .number
    else if b = 0x22 then .text
    else if b = 0x5B then .list
    else if b = 0x7B then .object
    else .nothing

/-- A value with what its first byte begins. -/
inductive Opened : Front → Bytes → Value → Bytes → Prop
  | blank {b : UInt8} {s rest : Bytes} {v : Value} (value : Spelled s v rest) :
    Opened .blank (b :: s) v rest
  | null {rest : Bytes} : Opened .null (0x6E :: 0x75 :: 0x6C :: 0x6C :: rest) .null rest
  | yes {rest : Bytes} : Opened .yes (0x74 :: 0x72 :: 0x75 :: 0x65 :: rest) (.boolean true) rest
  | no {rest : Bytes} :
    Opened .no (0x66 :: 0x61 :: 0x6C :: 0x73 :: 0x65 :: rest) (.boolean false) rest
  | number {token s rest : Bytes} (number : IsNumber token) (front : s = token ++ rest) :
    Opened .number s (.number token) rest
  | text {raw s rest : Bytes} {t : Option String} (spelling : IsSpelling raw)
    (denotes : Denotes raw t) (front : s = raw ++ 0x22 :: rest) :
    Opened .text (0x22 :: s) (.text t) rest
  | list {s rest : Bytes} {items : List Value} (inside : Inside 0x5D Spelled s items rest) :
    Opened .list (0x5B :: s) (.list items) rest
  | object {s rest : Bytes} {members : List (Option String × Value)}
    (inside : Inside 0x7D (Member Spelled) s members rest) :
    Opened .object (0x7B :: s) (.object members) rest

/-- A digit is no blank. -/
theorem isBlankByte_of_digit {b : UInt8} (digit : isDigitByte b = true) :
    isBlankByte b = false := by
  have low : 0x30 ≤ b := by simp_all [isDigitByte]
  simp only [isBlankByte, Bool.or_eq_false_iff, beq_eq_false_iff_ne]
  refine ⟨⟨⟨?_, ?_⟩, ?_⟩, ?_⟩ <;> rintro rfl <;> exact absurd low (by decide)

/-- From a digit on only a number is spelled. -/
theorem frontOf_digit {b : UInt8} (digit : isDigitByte b = true) : frontOf (some b) = .number := by
  have high : b ≤ 0x39 := by simp_all [isDigitByte]
  have other {c : UInt8} (beyond : ¬c ≤ 0x39) : b ≠ c := by
    rintro rfl
    exact beyond high
  unfold frontOf
  dsimp only
  rw [isBlankByte_of_digit digit, if_neg Bool.false_ne_true, if_neg (other (by decide)),
    if_neg (other (by decide)), if_neg (other (by decide)), if_pos (.inr digit)]

/-- A value is one that its first byte begins. -/
theorem Spelled.opened {s rest : Bytes} {v : Value} (h : Spelled s v rest) :
    Opened (frontOf s.head?) s v rest := by
  cases h with
  | blank blank value =>
    have front : frontOf (some _) = .blank := if_pos blank
    rw [List.head?_cons, front]
    exact .blank value
  | null => exact .null
  | yes => exact .yes
  | no => exact .no
  | number number =>
    obtain ⟨b, more, rfl, rfl | digit⟩ := number.front
    · exact .number number rfl
    · rw [List.cons_append, List.head?_cons, frontOf_digit digit]
      exact .number number rfl
  | text spelling denotes => exact .text spelling denotes rfl
  | list inside => exact .list inside
  | object inside => exact .object inside

/-! ## Lists and objects -/

/-- A blank ends a number. -/
theorem stops_of_blank {b : UInt8} (blank : isBlankByte b = true) (s : Bytes) :
    Stops (b :: s) := by
  intro c ahead
  obtain rfl := Option.some.inj ahead
  simp only [isBlankByte, Bool.or_eq_true, beq_iff_eq] at blank
  rcases blank with ((rfl | rfl) | rfl) | rfl <;> decide

/-- No number goes on with blanks. -/
theorem stops_of_blanks {rest : Bytes} (blank : ∀ b ∈ rest, isBlankByte b = true) : Stops rest := by
  cases rest with
  | nil => exact ends_nil.stops
  | cons b rest => exact stops_of_blank (List.forall_mem_cons.mp blank).1 rest

/-- The bytes that close a list or an object. -/
def IsClosing (close : UInt8) : Prop := close = 0x5D ∨ close = 0x7D

/-- What closes is neither a blank nor a comma. -/
theorem IsClosing.other {close : UInt8} (closing : IsClosing close) :
    isBlankByte close = false ∧ close ≠ 0x2C := by
  rcases closing with rfl | rfl <;> decide

section Sequences

variable {α : Type} {close : UInt8} {element : Bytes → α → Bytes → Prop} {n : Nat}

/-- Up to a length of the bytes there is one element at the front, if no number goes on behind it.
Blanks may stand before it, and the byte that closes the sequence begins none. -/
structure SoleUpTo (n : Nat) (close : UInt8) (element : Bytes → α → Bytes → Prop) : Prop where
  strip {b : UInt8} {s rest : Bytes} {a : α} (blank : isBlankByte b = true)
    (front : element (b :: s) a rest) : element s a rest
  apart {s rest : Bytes} {a : α} : ¬element (close :: s) a rest
  shorter {s rest : Bytes} {a : α} (small : s.length ≤ n) (front : element s a rest) :
    rest.length < s.length
  unique {s rest rest' : Bytes} {a a' : α} (small : s.length ≤ n) (front : element s a rest)
    (front' : element s a' rest') (stops : Stops rest) (stops' : Stops rest') :
    a = a' ∧ rest = rest'

variable {s rest rest' : Bytes} {items items' : List α}

/-- Behind an element no number goes on. -/
theorem More.stops (closing : IsClosing close) (more : More close element s items rest) :
    Stops s := by
  cases more with
  | blank blank _ => exact stops_of_blank blank _
  | close =>
    rcases closing with rfl | rfl
    · exact (ends_list _).stops
    · exact (ends_object _).stops
  | comma _ _ => exact (ends_comma _).stops

/-- Elements behind others leave less than there was. -/
theorem More.shorter (sole : SoleUpTo n close element) (more : More close element s items rest)
    (small : s.length ≤ n) : rest.length < s.length := by
  induction more with
  | blank _ _ ih =>
    rw [List.length_cons] at small ⊢
    exact Nat.lt_succ_of_lt (ih (Nat.le_of_succ_le small))
  | close => exact Nat.lt_succ_self _
  | comma front _ ih =>
    rw [List.length_cons] at small ⊢
    have first := sole.shorter (Nat.le_of_succ_le small) front
    have others := ih (by omega)
    omega

/-- Elements behind others are spelled in one way only. -/
theorem More.unique (closing : IsClosing close) (sole : SoleUpTo n close element)
    (more : More close element s items rest) (more' : More close element s items' rest')
    (small : s.length ≤ n) : items = items' ∧ rest = rest' := by
  induction more generalizing items' rest' with
  | blank blank more ih =>
    cases more' with
    | blank _ more' => exact ih more' (Nat.le_of_succ_le small)
    | close => exact absurd blank (by rw [closing.other.1]; exact Bool.false_ne_true)
    | comma _ _ => exact absurd blank (by decide)
  | close =>
    cases more' with
    | blank blank _ => exact absurd blank (by rw [closing.other.1]; exact Bool.false_ne_true)
    | close => exact ⟨rfl, rfl⟩
    | comma _ _ => exact absurd rfl closing.other.2
  | comma front more ih =>
    cases more' with
    | blank blank _ => exact absurd blank (by decide)
    | close => exact absurd rfl closing.other.2
    | comma front' more' =>
      have inner := Nat.le_of_succ_le small
      obtain ⟨rfl, rfl⟩ := sole.unique inner front front' (more.stops closing) (more'.stops closing)
      have shorter := sole.shorter inner front
      obtain ⟨rfl, rfl⟩ := ih more' (by omega)
      exact ⟨rfl, rfl⟩

/-- Blanks before an element can be left out. -/
theorem SoleUpTo.strips (sole : SoleUpTo n close element) {a : α} (front : element s a rest) :
    element (s.dropWhile isBlankByte) a rest := by
  induction s with
  | nil => exact front
  | cons b s ih =>
    rw [List.dropWhile_cons]
    split
    next blank => exact ih (sole.strip blank front)
    next => exact front

/-- Behind blanks the sequence is closed, or its first element stands. -/
theorem Inside.stripped (closing : IsClosing close) (sole : SoleUpTo n close element)
    (inside : Inside close element s items rest) :
    (items = [] ∧ s.dropWhile isBlankByte = close :: rest) ∨
      ∃ item mid others, items = item :: others ∧ element (s.dropWhile isBlankByte) item mid ∧
        More close element mid others rest := by
  induction inside with
  | blank blank _ ih =>
    rw [List.dropWhile_cons_of_pos blank]
    exact ih
  | close =>
    refine .inl ⟨rfl, List.dropWhile_cons_of_neg ?_⟩
    rw [closing.other.1]
    exact Bool.false_ne_true
  | items front more => exact .inr ⟨_, _, _, rfl, sole.strips front, more⟩

/-- Elements leave less than there was. -/
theorem Inside.shorter (closing : IsClosing close) (sole : SoleUpTo n close element)
    (inside : Inside close element s items rest) (small : s.length ≤ n) :
    rest.length < s.length := by
  have fewer := List.length_dropWhile_le isBlankByte s
  obtain ⟨-, closed⟩ | ⟨item, mid, others, -, front, more⟩ := inside.stripped closing sole
  · rw [closed, List.length_cons] at fewer
    omega
  · have first := sole.shorter (by omega) front
    have others := more.shorter sole (by omega)
    omega

/-- Elements are spelled in one way only. -/
theorem Inside.unique (closing : IsClosing close) (sole : SoleUpTo n close element)
    (inside : Inside close element s items rest) (inside' : Inside close element s items' rest')
    (small : s.length ≤ n) : items = items' ∧ rest = rest' := by
  have fewer := List.length_dropWhile_le isBlankByte s
  obtain ⟨rfl, closed⟩ | ⟨item, mid, others, rfl, front, more⟩ := inside.stripped closing sole
  · obtain ⟨rfl, closed'⟩ | ⟨_, _, _, -, front', -⟩ := inside'.stripped closing sole
    · exact ⟨rfl, (List.cons.inj (closed.symm.trans closed')).2⟩
    · rw [closed] at front'
      exact absurd front' sole.apart
  · obtain ⟨-, closed'⟩ | ⟨item', mid', others', rfl, front', more'⟩ :=
      inside'.stripped closing sole
    · rw [closed'] at front
      exact absurd front sole.apart
    · obtain ⟨rfl, rfl⟩ := sole.unique (by omega) front front' (more.stops closing)
        (more'.stops closing)
      have shorter := sole.shorter (by omega) front
      obtain ⟨rfl, rfl⟩ := more.unique closing sole more' (by omega)
      exact ⟨rfl, rfl⟩

end Sequences

/-! ## Values -/

section Values

variable {n : Nat}

/-- Blanks end where another byte comes. -/
theorem gap_unique {gap gap' s s' : Bytes} {b : UInt8} (other : isBlankByte b = false)
    (blank : ∀ b ∈ gap, isBlankByte b = true) (blank' : ∀ b ∈ gap', isBlankByte b = true)
    (same : gap ++ b :: s = gap' ++ b :: s') : s = s' := by
  have stop (s : Bytes) : ∀ c ∈ (b :: s).head?, isBlankByte c = false := by
    intro c ahead
    rwa [← Option.some.inj ahead]
  exact (List.cons.inj (cut_unique blank blank' (stop s) (stop s') same).2).2

/-- Members of objects are known where values are. -/
theorem SoleUpTo.member (values : SoleUpTo n 0x5D Spelled) : SoleUpTo n 0x7D (Member Spelled) where
  strip := by
    intro b s rest m blank front
    generalize whole : b :: s = t at front
    cases front with
    | @mk gap _ _ _ _ _ _ blanks spelling denotes blanks' value =>
      cases gap with
      | nil =>
        obtain ⟨rfl, -⟩ := List.cons.inj whole
        exact absurd blank (by decide)
      | cons _ gap =>
        obtain ⟨rfl, rfl⟩ := List.cons.inj whole
        exact .mk (List.forall_mem_cons.mp blanks).2 spelling denotes blanks' value
  apart := by
    intro s rest m front
    generalize whole : 0x7D :: s = t at front
    cases front with
    | @mk gap _ _ _ _ _ _ blanks spelling denotes blanks' value =>
      cases gap with
      | nil => exact absurd (List.cons.inj whole).1 (by decide)
      | cons _ gap =>
        obtain ⟨rfl, -⟩ := List.cons.inj whole
        exact absurd (List.forall_mem_cons.mp blanks).1 (by decide)
  shorter := by
    intro s rest m small front
    cases front with
    | mk blanks spelling denotes blanks' value =>
      simp only [List.length_append, List.length_cons] at small ⊢
      have inner := values.shorter (by omega) value
      omega
  unique := by
    intro s rest rest' m m' small front front' stops stops'
    generalize whole : s = t at front'
    cases front with
    | mk blanks spelling denotes blanks' value =>
      cases front' with
      | mk blanks₂ spelling₂ denotes₂ blanks₂' value₂ =>
        have quoted := gap_unique (by decide) blanks blanks₂ whole
        obtain ⟨rfl, marked⟩ := spelling.unique spelling₂ quoted
        obtain rfl := gap_unique (by decide) blanks' blanks₂' marked
        simp only [List.length_append, List.length_cons] at small
        obtain ⟨rfl, rfl⟩ := values.unique (by omega) value value₂ stops stops'
        rw [denotes.unique denotes₂]
        exact ⟨rfl, rfl⟩

/-- A value is spelled behind its blanks too. -/
theorem Spelled.strip {b : UInt8} {s rest : Bytes} {v : Value} (blank : isBlankByte b = true)
    (h : Spelled (b :: s) v rest) : Spelled s v rest := by
  have opened := h.opened
  rw [List.head?_cons, show frontOf (some b) = .blank from if_pos blank] at opened
  cases opened with
  | blank value => exact value

/-- Values are known where shorter ones are. -/
theorem spelled_soleUpTo (n : Nat) : SoleUpTo n 0x5D Spelled := by
  induction n with
  | zero =>
    refine ⟨Spelled.strip, fun h => (nomatch h.opened), ?_, ?_⟩
    · intro s rest v small h
      obtain rfl := List.length_eq_zero_iff.mp (Nat.le_zero.mp small)
      nomatch h.opened
    · intro s rest rest' v v' small h _ _ _
      obtain rfl := List.length_eq_zero_iff.mp (Nat.le_zero.mp small)
      nomatch h.opened
  | succ n ih =>
    refine ⟨Spelled.strip, fun h => (nomatch h.opened), ?_, ?_⟩
    · intro s rest v small h
      have opened := h.opened
      generalize frontOf s.head? = front at opened
      cases opened with
      | blank value =>
        have inner := ih.shorter (Nat.le_of_succ_le_succ small) value
        exact Nat.lt_succ_of_lt inner
      | number number front =>
        obtain ⟨b, more, rfl, -⟩ := number.front
        simp only [front, List.length_append, List.length_cons]
        omega
      | text spelling denotes front =>
        rw [front]
        simp only [List.length_cons, List.length_append]
        omega
      | list inside =>
        have inner := inside.shorter (.inl rfl) ih (Nat.le_of_succ_le_succ small)
        exact Nat.lt_succ_of_lt inner
      | object inside =>
        have inner := inside.shorter (.inr rfl) ih.member (Nat.le_of_succ_le_succ small)
        exact Nat.lt_succ_of_lt inner
      | _ => simp only [List.length_cons]; omega
    · intro s rest rest' v v' small h h' stops stops'
      have opened := h.opened
      have opened' := h'.opened
      generalize frontOf s.head? = front at opened opened'
      cases opened with
      | blank value =>
        cases opened' with
        | blank value' =>
          exact ih.unique (Nat.le_of_succ_le_succ small) value value' stops stops'
      | null =>
        cases opened' with
        | null => exact ⟨rfl, rfl⟩
      | yes =>
        cases opened' with
        | yes => exact ⟨rfl, rfl⟩
      | no =>
        cases opened' with
        | no => exact ⟨rfl, rfl⟩
      | number number front =>
        cases opened' with
        | number number' front' =>
          obtain ⟨rfl, rfl⟩ := number.unique stops stops' number' (front.symm.trans front')
          exact ⟨rfl, rfl⟩
      | text spelling denotes front =>
        cases opened' with
        | text spelling' denotes' front' =>
          obtain ⟨rfl, rfl⟩ := spelling.unique spelling' (front.symm.trans front')
          rw [denotes.unique denotes']
          exact ⟨rfl, rfl⟩
      | list inside =>
        cases opened' with
        | list inside' =>
          obtain ⟨rfl, rfl⟩ := inside.unique (.inl rfl) ih inside' (Nat.le_of_succ_le_succ small)
          exact ⟨rfl, rfl⟩
      | object inside =>
        cases opened' with
        | object inside' =>
          obtain ⟨rfl, rfl⟩ :=
            inside.unique (.inr rfl) ih.member inside' (Nat.le_of_succ_le_succ small)
          exact ⟨rfl, rfl⟩

end Values

/-- **Documents are unambiguous.** -/
theorem Document.unique {body : Bytes} {v v' : Value} (document : Document body v)
    (document' : Document body v') : v = v' := by
  obtain ⟨rest, spelled, blank⟩ := document
  obtain ⟨rest', spelled', blank'⟩ := document'
  exact ((spelled_soleUpTo body.length).unique (Nat.le_refl _) spelled spelled'
    (stops_of_blanks blank) (stops_of_blanks blank')).1

end MetricsHarness.Json.Grammar
