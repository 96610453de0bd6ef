import MetricsHarness.Proofs.SuiteNumbers
import MetricsHarness.Suite.Reading

/-!
# Samples in a suite

A pair of number texts that stands in a suite as a list in brackets is read as a sample of the two
(`readSample_pair`). It is refused if the first is an integer of more than 64 bits, or if the second
is no integer of 64 bits. The value is the double nearest to the first text, infinity if that is
past the finite range; only minus zero, which is an integer here, loses its sign.
-/

namespace MetricsHarness

open Text Yaml

/-! ## Timestamps -/

theorem toOption_map {ε α β : Type} (f : α → β) (e : Except ε α) :
    (e.map f).toOption = e.toOption.map f := by
  cases e <;> rfl

namespace NumberText

variable (t : NumberText)

/-- The text as a timestamp: an integer of 64 bits. -/
def timestamp? : Option Int64 :=
  if t.isInteger = true ∧ t.fits int64Greatest int64Least then some (Int64.ofInt t.signed) else none

end NumberText

namespace NumberText

variable (t : NumberText)

/-- The digits of a text are an integer up to a limit if nothing else comes after them. -/
theorem readBounded_unsigned (limit : Nat) (beyond : IntegerFault) :
    (readBounded 10 limit beyond 0 (t.whole ++ t.tailChars)).toOption =
      if t.isInteger = true ∧ t.digits ≤ limit then some t.digits else none := by
  cases integer : t.isInteger with
  | true =>
    obtain ⟨whole, digits⟩ := t.whole_of_isInteger integer
    rw [whole]
    by_cases within : t.digits ≤ limit
    · rw [readBounded_of_le t.whole_digit (digits ▸ within), digits, if_pos ⟨rfl, within⟩]
      rfl
    · rw [readBounded_of_lt t.whole_digit (Nat.zero_le _) (by omega),
        if_neg fun both => within both.2]
      rfl
  | false =>
    obtain ⟨c, mem, other⟩ := t.exists_mark integer
    rw [readBounded_of_mem mem other]
    rfl

/-- An integer that fits is read, and nothing else. -/
theorem readInt64_chars : (readInt64 t.chars).toOption =
    if t.isInteger = true ∧ t.fits int64Greatest int64Least then some t.signed else none := by
  cases sign : t.negative with
  | true =>
    have some : t.whole ++ t.tailChars ≠ [] := fun none =>
      t.whole_some (List.append_eq_nil_iff.mp none).1
    rw [t.chars_of_negative sign, readInt64, readInteger_minus some, toOption_map,
      t.readBounded_unsigned, signed_of_negative sign]
    simp only [fits_of_negative sign]
    split <;> rfl
  | false =>
    obtain ⟨c, more, eq, digit⟩ := t.exists_unsigned
    rw [t.chars_of_not_negative sign, readInt64, eq, readInteger_of_isDigit digit, ← eq,
      toOption_map, t.readBounded_unsigned, signed_of_not_negative sign]
    simp only [fits_of_not_negative sign]
    split <;> rfl

/-- A number has no blanks. -/
theorem isBlank_of_mem {c : Char} (mem : c ∈ t.chars) : Text.isBlank c = false := by
  rcases t.mem_chars mem with digit | mark
  · exact isBlank_of_isDigit digit
  · exact forall_mem_of_all (p := fun c => Text.isBlank c = false) (by decide) c mark

/-- A number is read as the timestamp that it is. -/
theorem readTimestamp_chars : (Sample.readTimestamp t.chars).toOption = t.timestamp? := by
  have read := t.readInt64_chars
  rw [Sample.readTimestamp, trim_of_no_blank fun c => t.isBlank_of_mem, timestamp?]
  cases result : readInt64 t.chars with
  | error f =>
    rw [result] at read
    split_ifs at read ⊢
    · cases read
    · rfl
  | ok i =>
    rw [result] at read
    split_ifs at read ⊢
    · cases read
      rfl
    · cases read

/-! ## Elements -/

/-- The text is minus zero, written as an integer. -/
def isMinusZero : Prop := t.isInteger = true ∧ t.negative = true ∧ t.digits = 0

instance : Decidable t.isMinusZero := instDecidableAnd

/-- The value of the text in a sample of a suite. -/
def suiteValue : Binary64 := if t.isMinusZero then Binary64.zero false else t.nearest

/-- The element that the text is in a sample of a suite; none if it is wide. -/
def element? : Option Scalar := Suite.elementOf t.meaning

/-- A number of a suite is whole, a fraction or kept as text. -/
theorem element?_eq : t.element? =
    if t.isNarrow then some (.whole t.signed)
    else if t.isWide then none
    else if t.nearest.isFinite then some (.fraction t.nearest)
    else some (.text (String.ofList t.chars)) := by
  unfold element? meaning
  split_ifs <;> rfl

/-- A timestamp fits the narrow integers. -/
theorem isNarrow_of_timestamp (h : t.isInteger = true ∧ t.fits int64Greatest int64Least) :
    t.isNarrow := by
  refine ⟨h.1, ?_⟩
  cases sign : t.negative with
  | true => exact (fits_of_negative sign _ _).mpr ((fits_of_negative sign _ _).mp h.2)
  | false =>
    exact (fits_of_not_negative sign _ _).mpr
      (((fits_of_not_negative sign _ _).mp h.2).trans (by decide))

/-- A whole number has the value that suites give it. -/
theorem ofDecimal_signed (h : t.isInteger = true) :
    Binary64.ofDecimal (decide (t.signed < 0)) t.signed.natAbs 0 = t.suiteValue := by
  have power := t.power_of_isInteger h
  unfold suiteValue nearest
  rw [power]
  rcases Bool.eq_false_or_eq_true t.negative with sign | sign
  · rw [signed_of_negative sign, sign]
    by_cases zero : t.digits = 0
    · rw [if_pos ⟨h, sign, zero⟩, zero]
      rfl
    · have below : -Int.ofNat t.digits < 0 := by
        rw [Int.ofNat_eq_natCast]
        omega
      rw [if_neg fun both => zero both.2.2, decide_eq_true below, Int.natAbs_neg]
      rfl
  · have above : ¬ (t.digits : Int) < 0 := by omega
    have plus : ¬ t.isMinusZero := fun both => Bool.false_ne_true (sign.symm.trans both.2.1)
    rw [signed_of_not_negative sign, sign, if_neg plus, decide_eq_false above]
    rfl

/-- The value of an element is that of its text. -/
theorem readValue_element {a : Scalar} (h : t.element? = some a) :
    Sample.readValue a.asText.toList = .ok t.suiteValue := by
  rw [element?_eq] at h
  have notMinusZero (other : ¬ t.isNarrow) : ¬ t.isMinusZero := fun ⟨integer, negative, zero⟩ =>
    other ⟨integer, (fits_of_negative negative _ _).mpr (zero ▸ Nat.zero_le _)⟩
  -- An integer is written again, a finite double too, and any other text is kept.
  split_ifs at h with narrow wide finite
  · cases h
    rw [Scalar.asText, signedNumeral, String.toList_ofList, Sample.readValue_signedNumeralChars,
      t.ofDecimal_signed narrow.1]
  · cases h
    have number := Binary64.isNaN_of_isFinite finite
    rw [Scalar.asText, Binary64.Layout.text, String.toList_ofList, Sample.readValue_plain_chars,
      Sample.reread, number, suiteValue, if_neg (notMinusZero narrow)]
    rfl
  · cases h
    rw [Scalar.asText, String.toList_ofList, Sample.readValue,
      trim_of_no_blank fun c => t.isBlank_of_mem, t.read_chars, suiteValue,
      if_neg (notMinusZero narrow)]
    rfl

/-- Two elements are the value and the timestamp of a sample if the second can be one. -/
theorem ofScalars_elements (v : NumberText) {a b : Scalar} (value : v.element? = some a)
    (time : t.element? = some b) : (Sample.ofScalars [a, b]).toOption =
      t.timestamp?.map fun time => ⟨v.suiteValue, time⟩ := by
  have read := v.readValue_element value
  have pair (text : String) : (Sample.ofPair [a.asText, text]).toOption =
      (Sample.readTimestamp text.toList).toOption.map fun time => ⟨v.suiteValue, time⟩ := by
    rw [Sample.ofPair, Sample.ofTexts_toOption, read]
    cases Sample.readTimestamp text.toList <;> rfl
  rw [element?_eq] at time
  split_ifs at time with narrow wide finite
  · cases time
    show (Sample.ofPair [a.asText, signedNumeral t.signed]).toOption = _
    have limits : (-int64Least ≤ t.signed ∧ t.signed ≤ int64Greatest) ↔
        t.isInteger = true ∧ t.fits int64Greatest int64Least := by
      rw [narrow.1, eq_self, true_and]
      rcases Bool.eq_false_or_eq_true t.negative with sign | sign
      · rw [signed_of_negative sign, fits_of_negative sign, Int.ofNat_eq_natCast]
        omega
      · rw [signed_of_not_negative sign, fits_of_not_negative sign]
        omega
    rw [pair, signedNumeral, String.toList_ofList, Sample.readTimestamp_signedNumeralChars,
      timestamp?]
    simp only [limits]
  · cases time
    have no : t.timestamp? = none := if_neg fun both => narrow (t.isNarrow_of_timestamp both)
    rw [no]
    rfl
  · cases time
    show (Sample.ofPair [a.asText, String.ofList t.chars]).toOption = _
    rw [pair, String.toList_ofList, t.readTimestamp_chars]

end NumberText

/-! ## Nodes -/

namespace Suite

/-- The node of a number text that stands as a plain scalar. -/
def numberNode (mark : Mark) (t : NumberText) : Node :=
  .scalar mark none .plain (String.ofList t.chars)

/-- A number in a list of two is read as its element. -/
theorem readElement_numberNode (d : Document) (mark : Mark) (t : NumberText) (left : Nat) :
    (readElement d (numberNode mark t) left).toOption = t.element?.map (·, left) := by
  have resolved : d.resolve (numberNode mark t) = pure (numberNode mark t) := rfl
  have plain : isNamed (numberNode mark t) = false := rfl
  have value : scalarValue none .plain (String.ofList t.chars) = .ok t.meaning :=
    congrArg Except.ok t.ofPlain_chars
  unfold readElement
  rw [resolved, pure_bind, plain]
  unfold numberNode
  simp only [Bool.false_eq_true, if_false, value]
  rw [NumberText.element?]
  cases elementOf t.meaning <;> rfl

/-- The sample of two number texts in a suite. -/
def pair? (v t : NumberText) : Option Sample :=
  v.element?.bind fun a => t.element?.bind fun b => (Sample.ofScalars [a, b]).toOption

section Decoded

variable {α β : Type} (left : Nat)

@[simp] theorem toOption_bind (r : Decoded α) (f : α → Decoded β) : ((r >>= f) left).toOption =
    (r left).toOption.bind fun answer => (f answer.1 answer.2).toOption := by
  show (StateT.bind r f left).toOption = _
  unfold StateT.bind
  cases r left <;> rfl

@[simp] theorem toOption_inside (step : Step) (r : Decoded α) :
    (inside step r left).toOption = (r left).toOption := by
  unfold inside
  cases r left <;> rfl

end Decoded

/-- A list of two number texts is read as the sample of the two. -/
theorem readSample_pair (d : Document) (mark first second : Mark) (v t : NumberText) (left : Nat) :
    (readSample d (.sequence mark none [numberNode first v, numberNode second t]) left).toOption =
      (pair? v t).map (·, left) := by
  have value := readElement_numberNode d first v
  have time := readElement_numberNode d second t
  have read : readSample d (.sequence mark none [numberNode first v, numberNode second t]) =
      (Document.readEach (readElement d) 0 [numberNode first v, numberNode second t] >>=
        fun elements => acceptSample mark (Sample.ofScalars elements)) := rfl
  have elements : Document.readEach (readElement d) 0 [numberNode first v, numberNode second t] =
      (inside (.item 0) (readElement d (numberNode first v)) >>= fun a =>
        (inside (.item 1) (readElement d (numberNode second t)) >>= fun b =>
          pure [b]) >>= fun more => pure (a :: more)) := rfl
  rw [read, elements]
  simp only [toOption_bind, toOption_inside, value, time]
  unfold pair?
  cases v.element? with
  | none => rfl
  | some a =>
    cases t.element? with
    | none => rfl
    | some b =>
      show (acceptSample mark (Sample.ofScalars [a, b]) left).toOption =
        (Sample.ofScalars [a, b]).toOption.map (·, left)
      cases Sample.ofScalars [a, b] <;> rfl

/-- Two numbers are a sample if the first is not too wide and the second is a timestamp. -/
theorem pair?_eq (v t : NumberText) : pair? v t =
    if v.isWide then none else t.timestamp?.map fun time => ⟨v.suiteValue, time⟩ := by
  unfold pair?
  cases value : v.element? with
  | none =>
    rw [NumberText.element?_eq] at value
    split_ifs at value with narrow wide
    rw [if_pos wide]
    rfl
  | some a =>
    have notWide : ¬ v.isWide := fun wide => by
      rw [NumberText.element?_eq, if_neg fun narrow => wide.2.1 narrow.2, if_pos wide] at value
      cases value
    rw [if_neg notWide]
    cases time : t.element? with
    | none =>
      rw [NumberText.element?_eq] at time
      split_ifs at time with narrow wide
      have no : t.timestamp? = none := if_neg fun both => narrow (t.isNarrow_of_timestamp both)
      rw [no]
      rfl
    | some b => exact t.ofScalars_elements v value time

end Suite

end MetricsHarness
