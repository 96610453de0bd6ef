import Mathlib.Data.List.Basic
import MetricsHarness.Binary64.Reading
import MetricsHarness.Proofs.Numerals

/-!
# Number texts

A number text is a number as JSON writes it: an optional minus sign, digits without a leading zero,
then optionally a fraction and an exponent. The grammar is a structure here, so that a statement
can be about all number texts at once and a proof has the parts at hand.

The text of a double is a number text when the double is finite. Reading a number text as a double
gives the double nearest to what is written, all digits counted (`NumberText.read_chars`).
-/

namespace MetricsHarness

open Text

/-- What is written before the digits of an exponent. -/
inductive ExponentSign where
  | none
  | plus
  | minus
  deriving DecidableEq, Repr

namespace ExponentSign

/-- The sign as text. -/
def chars : ExponentSign → List Char
  | .none => []
  | .plus => ['+']
  | .minus => ['-']

/-- A number with the sign. -/
def apply : ExponentSign → Nat → Int
  | .none, n => n
  | .plus, n => n
  | .minus, n => -n

end ExponentSign

/-- An exponent of ten: `e` or `E`, an optional sign and digits. -/
structure ExponentText where
  upper : Bool
  sign : ExponentSign
  digits : List Char
  digits_some : digits ≠ []
  digits_digit : ∀ c ∈ digits, isDigit c = true

namespace ExponentText

/-- The letter of the exponent. -/
def mark (x : ExponentText) : Char := if x.upper then 'E' else 'e'

/-- The exponent as text. -/
def chars (x : ExponentText) : List Char := x.mark :: (x.sign.chars ++ x.digits)

/-- The number the digits spell. -/
def number (x : ExponentText) : Nat := Nat.ofDigitChars 10 x.digits 0

/-- The exponent as a number. -/
def value (x : ExponentText) : Int := x.sign.apply x.number

/-- The exponent text of a number, positive ones with a plus sign if asked for. -/
def ofInt (plus : Bool) (x : Int) : ExponentText where
  upper := false
  sign := if x < 0 then .minus else if plus then .plus else .none
  digits := numeralChars x.natAbs
  digits_some := numeralChars_ne_nil _
  digits_digit := fun _ => isDigit_of_mem_numeralChars

@[simp] theorem number_ofInt (plus : Bool) (x : Int) : (ofInt plus x).number = x.natAbs :=
  ofDigitChars_numeralChars _

@[simp] theorem value_ofInt (plus : Bool) (x : Int) : (ofInt plus x).value = x := by
  have number := number_ofInt plus x
  unfold value
  rw [number]
  simp only [ofInt]
  split_ifs <;> simp only [ExponentSign.apply] <;> omega

/-- The exponent of a whole number is written with its sign. -/
theorem chars_ofInt (plus : Bool) (x : Int) : (ofInt plus x).chars =
    'e' :: ((if plus && decide (0 ≤ x) then ['+'] else []) ++ signedNumeralChars x) := by
  cases x with
  | ofNat n => cases plus <;> rfl
  | negSucc n =>
    have signed : Int.negSucc n < 0 := Int.negSucc_lt_zero n
    rw [decide_eq_false (Int.not_le.mpr signed), Bool.and_false]
    simp only [chars, ofInt, if_pos signed]
    rfl

end ExponentText

/-- A number as JSON writes it; without a fraction, `fraction` is empty. -/
structure NumberText where
  negative : Bool
  whole : List Char
  fraction : List Char
  exponent : Option ExponentText
  whole_some : whole ≠ []
  whole_digit : ∀ c ∈ whole, isDigit c = true
  whole_zero : ∀ rest, whole = '0' :: rest → rest = []
  fraction_digit : ∀ c ∈ fraction, isDigit c = true

namespace NumberText

variable (t : NumberText)

/-- The sign as text. -/
def signChars : List Char := if t.negative then ['-'] else []

/-- The fraction as text, with its point. -/
def fractionChars : List Char := if t.fraction = [] then [] else '.' :: t.fraction

/-- The exponent as text, if there is one. -/
def exponentChars : List Char := t.exponent.elim [] ExponentText.chars

/-- What is written after the whole digits. -/
def tailChars : List Char := t.fractionChars ++ t.exponentChars

/-- The number as text. -/
def chars : List Char := t.signChars ++ (t.whole ++ t.tailChars)

/-- The digits before and after the point as one number. -/
def digits : Nat := Nat.ofDigitChars 10 (t.whole ++ t.fraction) 0

/-- The exponent that is written. -/
def raised : Int := t.exponent.elim 0 ExponentText.value

/-- The power of ten that the digits count. -/
def power : Int := t.raised - t.fraction.length

/-- The number is written as an integer. -/
def isInteger : Bool := t.fraction.isEmpty && t.exponent.isNone

/-- The number text of an integer. -/
def ofInt (i : Int) : NumberText where
  negative := i < 0
  whole := numeralChars i.natAbs
  fraction := []
  exponent := none
  whole_some := numeralChars_ne_nil _
  whole_digit := fun _ => isDigit_of_mem_numeralChars
  whole_zero := fun rest eq => by
    obtain ⟨c, more, same, -, zero⟩ := exists_numeralChars_cons i.natAbs
    rw [same] at eq
    obtain ⟨rfl, rfl⟩ := List.cons.inj eq
    have none : numeralChars i.natAbs = ['0'] := by rw [zero rfl]; rfl
    rw [same] at none
    exact (List.cons.inj none).2
  fraction_digit := fun _ none => by cases none

/-- A whole number is written with its sign. -/
theorem chars_ofInt (i : Int) : (ofInt i).chars = signedNumeralChars i := by
  have tail : (ofInt i).tailChars = [] := rfl
  rw [chars, tail, List.append_nil]
  cases i with
  | ofNat n => rfl
  | negSucc n =>
    rw [signChars, show (ofInt (Int.negSucc n)).negative = true from
      decide_eq_true (Int.negSucc_lt_zero n)]
    rfl

@[simp] theorem digits_ofInt (i : Int) : (ofInt i).digits = i.natAbs := by
  show Nat.ofDigitChars 10 (numeralChars i.natAbs ++ []) 0 = _
  rw [List.append_nil, ofDigitChars_numeralChars]

@[simp] theorem power_ofInt (i : Int) : (ofInt i).power = 0 := rfl

/-- An integer has neither a fraction nor an exponent. -/
theorem isInteger_iff : t.isInteger = true ↔ t.fraction = [] ∧ t.exponent = none := by
  rw [isInteger, Bool.and_eq_true, List.isEmpty_iff, Option.isNone_iff_eq_none]

/-- The digits of an integer are those of its whole part. -/
theorem whole_of_isInteger (h : t.isInteger = true) :
    t.whole ++ t.tailChars = t.whole ∧ Nat.ofDigitChars 10 t.whole 0 = t.digits := by
  obtain ⟨fraction, exponent⟩ := t.isInteger_iff.mp h
  rw [tailChars, fractionChars, exponentChars, digits, fraction, exponent, List.append_nil]
  exact ⟨List.append_nil _, rfl⟩

/-- The digits of an integer are not moved. -/
theorem power_of_isInteger (h : t.isInteger = true) : t.power = 0 := by
  obtain ⟨fraction, exponent⟩ := t.isInteger_iff.mp h
  rw [power, raised, exponent, fraction]
  rfl

/-! ## Characters -/

/-- A negative number is written behind a minus. -/
theorem chars_of_negative (h : t.negative = true) :
    t.chars = '-' :: (t.whole ++ t.tailChars) := by
  rw [chars, signChars, if_pos h]
  rfl

/-- Any other number is written without a sign. -/
theorem chars_of_not_negative (h : t.negative = false) : t.chars = t.whole ++ t.tailChars := by
  rw [chars, signChars, h]
  rfl

/-- Without its sign a number begins with a digit. -/
theorem exists_unsigned : ∃ c more, t.whole ++ t.tailChars = c :: more ∧ isDigit c = true := by
  obtain ⟨c, more, eq, digit⟩ := exists_digit t.whole_digit t.whole_some
  exact ⟨c, more ++ t.tailChars, by rw [eq, List.cons_append], digit⟩

/-- The characters of number texts beside digits. -/
def marks : List Char := ['-', '+', '.', 'e', 'E']

/-- A number text has no other characters than digits and marks. -/
theorem mem_chars {c : Char} (h : c ∈ t.chars) : isDigit c = true ∨ c ∈ marks := by
  simp only [chars, tailChars, List.mem_append] at h
  rcases h with sign | whole | fraction | exponent
  · right
    unfold signChars at sign
    split at sign
    · rw [List.mem_singleton.mp sign]
      decide
    · cases sign
  · exact .inl (t.whole_digit c whole)
  · unfold fractionChars at fraction
    split at fraction
    · cases fraction
    · rcases List.mem_cons.mp fraction with rfl | digit
      · exact .inr (by decide)
      · exact .inl (t.fraction_digit c digit)
  · cases present : t.exponent with
    | none =>
      rw [exponentChars, present] at exponent
      cases exponent
    | some x =>
      rw [exponentChars, present] at exponent
      simp only [Option.elim, ExponentText.chars, List.mem_cons, List.mem_append] at exponent
      rcases exponent with rfl | sign | digit
      · right
        unfold ExponentText.mark
        split <;> decide
      · right
        cases signed : x.sign <;> rw [signed] at sign
        · cases sign
        · rw [List.mem_singleton.mp sign]
          decide
        · rw [List.mem_singleton.mp sign]
          decide
      · exact .inl (x.digits_digit c digit)

/-- An exponent has one of two marks. -/
theorem mark_cases (x : ExponentText) : x.mark = 'e' ∨ x.mark = 'E' := by
  unfold ExponentText.mark
  cases x.upper
  · exact .inl rfl
  · exact .inr rfl

/-- An exponent begins with its mark. -/
theorem head_exponentChars {c : Char} (h : c ∈ t.exponentChars.head?) : c = 'e' ∨ c = 'E' := by
  unfold exponentChars at h
  cases present : t.exponent with
  | none =>
    rw [present] at h
    cases h
  | some x =>
    rw [present] at h
    cases Option.some.inj h
    exact mark_cases x

/-- What follows the whole digits begins with a point or with the letter of an exponent. -/
theorem head_tailChars {c : Char} (h : c ∈ t.tailChars.head?) : c = '.' ∨ c = 'e' ∨ c = 'E' := by
  unfold tailChars fractionChars at h
  split at h
  · exact .inr (t.head_exponentChars h)
  · exact .inl (Option.some.inj h).symm

/-! ## Reading number texts -/

/-- A written exponent is read back. -/
theorem readExponent?_exponentChars : Binary64.readExponent? t.exponentChars = some t.raised := by
  unfold exponentChars raised
  cases t.exponent with
  | none => rfl
  | some x =>
    have value := value?_of_digits x.digits_digit x.digits_some
    simp only [Option.elim, ExponentText.chars, ExponentText.value, ExponentText.number,
      Binary64.readExponent?, if_pos (mark_cases x)]
    cases x.sign with
    | plus =>
      simp only [ExponentSign.chars, List.cons_append, List.nil_append, value]
      rfl
    | minus =>
      simp only [ExponentSign.chars, List.cons_append, List.nil_append, value]
      rfl
    | none =>
      obtain ⟨c, rest, eq, digit⟩ := exists_digit x.digits_digit x.digits_some
      simp only [ExponentSign.chars, List.nil_append]
      split
      · next found => exact (cons_ne_of_isDigit digit rfl (eq ▸ found)).elim
      · next found => exact (cons_ne_of_isDigit digit rfl (eq ▸ found)).elim
      · rw [value]
        rfl

/-- Without its sign, a number text is read as the decimal that is written. -/
theorem readDecimal?_unsigned :
    Binary64.readDecimal? (t.whole ++ t.tailChars) = some ⟨t.digits, t.power⟩ := by
  have exponent := t.readExponent?_exponentChars
  have some : t.whole ++ t.fraction ≠ [] := fun none =>
    t.whole_some (List.append_eq_nil_iff.mp none).1
  have number : value? 10 (t.whole ++ t.fraction) = Option.some t.digits :=
    value?_of_digits (fun c mem => (List.mem_append.mp mem).elim (t.whole_digit c)
      (t.fraction_digit c)) some
  have stopWhole : ∀ c ∈ t.tailChars.head?, isDigit c = false := fun c mem => by
    rcases t.head_tailChars mem with rfl | rfl | rfl <;> decide
  have stopFraction : ∀ c ∈ t.exponentChars.head?, isDigit c = false := fun c mem => by
    rcases t.head_exponentChars mem with rfl | rfl <;> decide
  obtain ⟨whole, rest⟩ := takeWhile_dropWhile_append t.whole_digit stopWhole
  obtain ⟨fraction, others⟩ := takeWhile_dropWhile_append t.fraction_digit stopFraction
  simp only [Binary64.readDecimal?, whole, rest]
  unfold tailChars fractionChars
  by_cases empty : t.fraction = []
  · rw [if_pos empty, List.nil_append]
    rw [empty, List.append_nil] at number
    obtain eq | ⟨rest, eq | eq⟩ : t.exponentChars = [] ∨
        ∃ rest, t.exponentChars = 'e' :: rest ∨ t.exponentChars = 'E' :: rest := by
      cases shape : t.exponentChars with
      | nil => exact .inl rfl
      | cons c rest =>
        rcases t.head_exponentChars (by rw [shape]; rfl) with rfl | rfl
        · exact .inr ⟨rest, .inl rfl⟩
        · exact .inr ⟨rest, .inr rfl⟩
    all_goals
      rw [eq] at exponent ⊢
      simp [number, exponent, power, empty]
  · simp only [if_neg empty, List.cons_append, fraction, others, number, exponent, power]

/-- A number text is read as the double nearest to the decimal that is written. -/
theorem read_chars :
    Binary64.read t.chars = .ok (Binary64.ofDecimal t.negative t.digits t.power) := by
  have unsigned (negative : Bool) : Binary64.readUnsigned negative (t.whole ++ t.tailChars) =
      .ok (Binary64.ofDecimal negative t.digits t.power) := by
    rw [Binary64.readUnsigned, readDecimal?_unsigned]
  unfold chars signChars
  cases t.negative with
  | true => exact unsigned true
  | false =>
    obtain ⟨c, rest, eq, digit⟩ := exists_digit t.whole_digit t.whole_some
    have first := unsigned false
    rw [eq] at first ⊢
    simp only [Bool.false_eq_true, if_false, List.nil_append, List.cons_append] at first ⊢
    unfold Binary64.read
    split
    · next none => cases none
    · next found => exact (cons_ne_of_isDigit digit rfl found).elim
    · next found => exact (cons_ne_of_isDigit digit rfl found).elim
    · exact first

end NumberText

end MetricsHarness
