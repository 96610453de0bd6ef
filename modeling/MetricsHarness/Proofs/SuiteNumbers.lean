import MetricsHarness.Proofs.Samples
import MetricsHarness.Yaml.Value

/-!
# Numbers in a suite

A number text that stands in a suite as a plain scalar means an integer, if it is written as one and
fits 128 bits, and else the double nearest to it (`ofPlain_chars`). An integer of more than 64 bits
is kept apart (`isWide`): no element of a sample may be one. A double past the finite range is no
number to a suite, and the text stays a text; the reader of samples then makes infinity of it.
-/

namespace MetricsHarness

open Text Yaml

namespace NumberText

variable (t : NumberText)

/-! ## Meanings -/

/-- The digits fit below one of two limits, by the sign. -/
def fits (greatest least : Nat) : Prop := t.digits ≤ if t.negative then least else greatest

instance (greatest least : Nat) : Decidable (t.fits greatest least) := Nat.decLe _ _

/-- The integer of the digits and the sign. -/
def signed : Int := if t.negative then -Int.ofNat t.digits else t.digits

section Negative

variable {t} (h : t.negative = true) (greatest least : Nat)
include h

/-- A negative number fits above the least one. -/
theorem fits_of_negative : t.fits greatest least ↔ t.digits ≤ least := by
  rw [fits, if_pos h]

omit greatest least in
theorem signed_of_negative : t.signed = -Int.ofNat t.digits := if_pos h

end Negative

section NotNegative

variable {t} (h : t.negative = false) (greatest least : Nat)
include h

/-- Any other number fits below the greatest one. -/
theorem fits_of_not_negative : t.fits greatest least ↔ t.digits ≤ greatest := by
  rw [fits, if_neg (by rw [h]; exact Bool.false_ne_true)]

omit greatest least in
theorem signed_of_not_negative : t.signed = t.digits :=
  if_neg (by rw [h]; exact Bool.false_ne_true)

end NotNegative

/-- The text is an integer of 64 bits. -/
def isNarrow : Prop := t.isInteger = true ∧ t.fits nat64Greatest int64Least

instance : Decidable t.isNarrow := instDecidableAnd

/-- The text is an integer of more than 64 bits, up to 128. -/
def isWide : Prop :=
  t.isInteger = true ∧ ¬ t.fits nat64Greatest int64Least ∧
    t.fits (Nat.pow 2 128 - 1) (Nat.pow 2 127)

instance : Decidable t.isWide := instDecidableAnd

/-- The double nearest to the text. -/
def nearest : Binary64 := Binary64.ofDecimal t.negative t.digits t.power

/-- What the text means in a suite. -/
def meaning : Value :=
  if t.isNarrow then .whole t.signed
  else if t.isWide then .wide t.signed
  else if t.nearest.isFinite then .real t.nearest
  else .text (String.ofList t.chars)

/-! ## Digits -/

/-- After a zero in front there is no other digit. -/
theorem head_of_zero {rest : List Char} (h : t.whole ++ t.tailChars = '0' :: rest) :
    ∀ c ∈ rest.head?, c = '.' ∨ c = 'e' ∨ c = 'E' := by
  obtain ⟨c, more, eq⟩ := List.exists_cons_of_ne_nil t.whole_some
  rw [eq, List.cons_append] at h
  obtain ⟨rfl, rfl⟩ := List.cons.inj h
  rw [t.whole_zero more eq, List.nil_append]
  exact fun c mem => t.head_tailChars mem

/-- No zero stands in front of further digits. -/
theorem isZeroPadded_unsigned : Value.isZeroPadded (t.whole ++ t.tailChars) = false := by
  obtain ⟨c, more, eq, digit⟩ := t.exists_unsigned
  have plus (rest : List Char) : c :: more = '+' :: rest → False := cons_ne_of_isDigit digit rfl
  have minus (rest : List Char) : c :: more = '-' :: rest → False := cons_ne_of_isDigit digit rfl
  unfold Value.isZeroPadded
  rw [eq]
  simp only
  split
  · next d rest padded =>
    have other : isDigit d = false := by
      rcases t.head_of_zero (eq.trans padded) d rfl with rfl | rfl | rfl <;> decide
    rw [List.all_cons, other, Bool.false_and]
  · rfl

/-- The digits are decimal ones. -/
theorem radixDigits_unsigned :
    Value.radixDigits (t.whole ++ t.tailChars) = (10, t.whole ++ t.tailChars) := by
  unfold Value.radixDigits
  split
  · next digits eq => exact absurd (t.head_of_zero eq 'x' rfl) (by decide)
  · next digits eq => exact absurd (t.head_of_zero eq 'o' rfl) (by decide)
  · next digits eq => exact absurd (t.head_of_zero eq 'b' rfl) (by decide)
  · rfl

/-- Another number has a character that is no digit. -/
theorem exists_mark (h : t.isInteger = false) :
    ∃ c ∈ t.whole ++ t.tailChars, isDigit c = false := by
  unfold tailChars fractionChars exponentChars
  by_cases empty : t.fraction = []
  · cases exponent : t.exponent with
    | none =>
      rw [isInteger, empty, exponent] at h
      cases h
    | some x =>
      refine ⟨x.mark, List.mem_append_right _ (List.mem_append_right _ List.mem_cons_self), ?_⟩
      rcases mark_cases x with mark | mark <;> rw [mark] <;> decide
  · rw [if_neg empty]
    exact ⟨'.', List.mem_append_right _ List.mem_cons_self, by decide⟩

/-- Without its sign an integer has a value, and no other number has. -/
theorem value?_unsigned : value? 10 (t.whole ++ t.tailChars) =
    if t.isInteger then some t.digits else none := by
  cases integer : t.isInteger with
  | true =>
    obtain ⟨whole, digits⟩ := t.whole_of_isInteger integer
    rw [whole, value?_of_digits t.whole_digit t.whole_some, digits]
    rfl
  | false =>
    obtain ⟨c, mem, other⟩ := t.exists_mark integer
    rw [value?_of_mem mem other]
    rfl

/-- An integer within the limit has a magnitude. -/
theorem magnitude?_unsigned (limit : Nat) : Value.magnitude? limit (t.whole ++ t.tailChars) =
    if t.isInteger = true ∧ t.digits ≤ limit then some t.digits else none := by
  rw [Value.magnitude?, t.isZeroPadded_unsigned, t.radixDigits_unsigned]
  simp only [Bool.false_eq_true, if_false]
  rw [t.value?_unsigned]
  cases t.isInteger with
  | false => rfl
  | true => simp [Option.filter]

/-! ## Signs -/

/-- A number of a document is never written with a plus. -/
theorem withoutPlus_chars : Value.withoutPlus t.chars = t.chars := by
  cases sign : t.negative with
  | true =>
    rw [t.chars_of_negative sign]
    rfl
  | false =>
    obtain ⟨c, more, eq, digit⟩ := t.exists_unsigned
    rw [t.chars_of_not_negative sign, eq]
    unfold Value.withoutPlus
    split
    · next found => exact (cons_ne_of_isDigit digit rfl found).elim
    · rfl

/-- Nor with a zero in front of further digits. -/
theorem isZeroPadded_chars : Value.isZeroPadded t.chars = false := by
  cases sign : t.negative with
  | true =>
    obtain ⟨c, more, eq, digit⟩ := t.exists_unsigned
    have plus (rest : List Char) : c :: more = '+' :: rest → False := cons_ne_of_isDigit digit rfl
    have minus (rest : List Char) : c :: more = '-' :: rest → False := cons_ne_of_isDigit digit rfl
    have same : Value.isZeroPadded ('-' :: c :: more) = Value.isZeroPadded (c :: more) := by
      unfold Value.isZeroPadded
      simp only
    rw [t.chars_of_negative sign, eq, same, ← eq, t.isZeroPadded_unsigned]
  | false => rw [t.chars_of_not_negative sign, t.isZeroPadded_unsigned]

/-- An integer that is not negative and within the limit is an unsigned one. -/
theorem unsigned?_chars (limit : Nat) : Value.unsigned? limit t.chars =
    if t.negative = false ∧ t.isInteger = true ∧ t.digits ≤ limit then some t.digits else none := by
  rw [Value.unsigned?, t.withoutPlus_chars]
  cases sign : t.negative with
  | true =>
    have padded := t.isZeroPadded_chars
    rw [t.chars_of_negative sign] at padded ⊢
    have radix : Value.radixDigits ('-' :: (t.whole ++ t.tailChars)) =
        (10, '-' :: (t.whole ++ t.tailChars)) := rfl
    rw [Value.magnitude?, padded, radix]
    simp only [Bool.false_eq_true, if_false]
    rw [value?_of_mem List.mem_cons_self (by decide)]
    rfl
  | false =>
    rw [t.chars_of_not_negative sign, t.magnitude?_unsigned]
    simp only [true_and]

/-- A negative integer within the limit is a negative one. -/
theorem negative?_chars (limit : Nat) : Value.negative? limit t.chars =
    if t.negative = true ∧ t.isInteger = true ∧ t.digits ≤ limit then some (-Int.ofNat t.digits)
      else none := by
  cases sign : t.negative with
  | true =>
    rw [t.chars_of_negative sign]
    show (Value.magnitude? limit (t.whole ++ t.tailChars)).map _ = _
    rw [t.magnitude?_unsigned]
    simp only [true_and]
    split <;> rfl
  | false =>
    obtain ⟨c, more, eq, digit⟩ := t.exists_unsigned
    rw [t.chars_of_not_negative sign, eq]
    unfold Value.negative?
    split
    · next found => exact (cons_ne_of_isDigit digit rfl found).elim
    · simp

/-- A number text is an integer of a suite by the width it needs. -/
theorem integer?_chars : Value.integer? t.chars =
    if t.isNarrow then some (.whole t.signed)
    else if t.isWide then some (.wide t.signed) else none := by
  have unsigned := t.unsigned?_chars
  have negative := t.negative?_chars
  unfold Value.integer?
  cases sign : t.negative with
  | true =>
    simp only [sign, Bool.true_eq_false, false_and, if_false, true_and] at unsigned negative
    simp only [unsigned, negative, isNarrow, isWide, fits_of_negative sign,
      signed_of_negative sign]
    split_ifs <;> first | rfl | (exfalso; tauto)
  | false =>
    simp only [sign, Bool.false_eq_true, false_and, if_false, true_and] at unsigned negative
    simp only [unsigned, negative, isNarrow, isWide, fits_of_not_negative sign,
      signed_of_not_negative sign]
    split_ifs <;> first | rfl | (exfalso; tauto)

/-! ## Words -/

theorem chars_ne_nil : t.chars ≠ [] := fun none =>
  t.whole_some (List.append_eq_nil_iff.mp (List.append_eq_nil_iff.mp none).2).1

/-- A word with another character than digits and marks is no number text. -/
theorem notMem_words {words : List String}
    (other : ∀ w ∈ words, w.toList.any (fun c => !isDigit c && !marks.contains c) = true) :
    words.contains (String.ofList t.chars) = false := by
  rw [Bool.eq_false_iff]
  intro found
  have mem : String.ofList t.chars ∈ words := List.contains_iff_mem.mp found
  obtain ⟨c, inside, strange⟩ := List.any_eq_true.mp (other _ mem)
  rw [String.toList_ofList] at inside
  obtain ⟨digit, mark⟩ := Bool.and_eq_true_iff.mp strange
  rcases t.mem_chars inside with isDigit | isMark
  · rw [isDigit] at digit
    cases digit
  · rw [List.contains_iff_mem.mpr isMark] at mark
    cases mark

/-- A number text that is no integer is a double if it is finite. -/
theorem real?_chars :
    Value.real? t.chars = if t.nearest.isFinite then some t.nearest else none := by
  have positive : [".inf", ".Inf", ".INF"].contains (String.ofList t.chars) = false :=
    t.notMem_words (by decide)
  have negative : ["-.inf", "-.Inf", "-.INF"].contains (String.ofList t.chars) = false :=
    t.notMem_words (by decide)
  have none : [".nan", ".NaN", ".NAN"].contains (String.ofList t.chars) = false :=
    t.notMem_words (by decide)
  unfold Value.real?
  rw [t.withoutPlus_chars]
  simp only [Nat.lt_irrefl, decide_false, Bool.false_and, positive, negative, none,
    Bool.false_eq_true, if_false, t.read_chars]
  rfl

/-- **A number text in a suite.** As a plain scalar it has its meaning. -/
theorem ofPlain_chars : Value.ofPlain (String.ofList t.chars) = t.meaning := by
  have some : (String.ofList t.chars).isEmpty = false := by
    rw [Bool.eq_false_iff, ne_eq, String.isEmpty_iff]
    intro empty
    refine t.chars_ne_nil ?_
    rw [← String.toList_ofList (l := t.chars), empty]
    rfl
  have null : Value.isNull (String.ofList t.chars) = false := t.notMem_words (by decide)
  have yes : ["true", "True", "TRUE"].contains (String.ofList t.chars) = false :=
    t.notMem_words (by decide)
  have no : ["false", "False", "FALSE"].contains (String.ofList t.chars) = false :=
    t.notMem_words (by decide)
  have boolean : Value.boolean? (String.ofList t.chars) = none := by
    rw [Value.boolean?, yes, no]
    rfl
  rw [Value.ofPlain, some, null, boolean]
  simp only [Bool.or_false, Bool.false_eq_true, if_false, String.toList_ofList,
    t.integer?_chars, t.isZeroPadded_chars, t.real?_chars, meaning]
  split_ifs <;> rfl

end NumberText

end MetricsHarness
