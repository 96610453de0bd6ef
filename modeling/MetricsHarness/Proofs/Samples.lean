import MetricsHarness.Proofs.Layouts
import MetricsHarness.Proofs.Pieces
import MetricsHarness.Sample.Scalar

/-!
# Samples survive being written and read

An encoded sample is read as the sample (`Sample.ofText_encode`), for every pattern of a value and
every timestamp. The frame of brackets and comma cannot be mistaken: neither of the two texts in it
has a comma or a blank. The value is written with the shortest digits that read back, so nothing of
it is lost but the pattern of a value that is no number.
-/

namespace MetricsHarness

open Text

/-! ## Trimming -/

namespace Text

/-- What neither begins nor ends with a blank is not trimmed. -/
theorem trim_eq_self {cs : List Char} (first : ∀ c ∈ cs.head?, isBlank c = false)
    (last : ∀ c ∈ cs.getLast?, isBlank c = false) : trim cs = cs := by
  have keeps {ds : List Char} (h : ∀ c ∈ ds.head?, isBlank c = false) :
      ds.dropWhile isBlank = ds := by
    cases ds with
    | nil => rfl
    | cons c rest => exact List.dropWhile_cons_of_neg (by rw [h c rfl]; exact Bool.false_ne_true)
  rw [trim, keeps first, trimEnd, keeps, List.reverse_reverse]
  rwa [List.head?_reverse]

/-- Without blanks there is nothing to trim. -/
theorem trim_of_no_blank {cs : List Char} (h : ∀ c ∈ cs, isBlank c = false) : trim cs = cs :=
  trim_eq_self (fun c mem => h c (List.mem_of_mem_head? mem))
    fun c mem => h c (List.mem_of_mem_getLast? mem)

/-- A digit is no blank. -/
theorem isBlank_of_isDigit {c : Char} (h : isDigit c = true) : isBlank c = false :=
  forall_isDigit (p := fun c => isBlank c = false) (by decide) h

/-- A written integer has digits and at most a minus sign. -/
theorem mem_signedNumeralChars {i : Int} {c : Char} (h : c ∈ signedNumeralChars i) :
    isDigit c = true ∨ c = '-' := by
  cases i with
  | ofNat n => exact .inl (isDigit_of_mem_numeralChars h)
  | negSucc n =>
    rcases List.mem_cons.mp h with rfl | digit
    · exact .inr rfl
    · exact .inl (isDigit_of_mem_numeralChars digit)

/-- A written integer has no blanks. -/
@[simp] theorem trim_signedNumeralChars (i : Int) :
    trim (signedNumeralChars i) = signedNumeralChars i := by
  refine trim_of_no_blank fun c mem => ?_
  rcases mem_signedNumeralChars mem with digit | rfl
  · exact isBlank_of_isDigit digit
  · decide

end Text

/-! ## Values -/

namespace Binary64

/-- Up to infinity, a double is the one of its sign and ordinal. -/
theorem ofOrdinal_ordinal {x : Binary64} (number : x.isNaN = false) :
    ofOrdinal x.negative x.ordinal = x := by
  have le : x.ordinal.val ≤ infinityOrdinal := Nat.le_of_not_lt (of_decide_eq_false number)
  cases x
  simp only [ofOrdinal, Nat.min_eq_left le]

/-- A number that is not finite is infinite. -/
theorem eq_infinity {x : Binary64} (number : x.isNaN = false) (great : x.isFinite = false) :
    x = infinity x.negative := by
  have le : x.ordinal.val ≤ infinityOrdinal := Nat.le_of_not_lt (of_decide_eq_false number)
  have ge : infinityOrdinal ≤ x.ordinal.val := Nat.le_of_not_lt (of_decide_eq_false great)
  rw [← ofOrdinal_ordinal number, Nat.le_antisymm le ge]
  rfl

/-- Every double has its own value. -/
@[simp] theorem sameValue_self (x : Binary64) : x.sameValue x = true := by
  unfold sameValue
  cases x.isNaN <;> simp

/-- The two zeros are one number. -/
theorem sameValue_zero (x : Binary64) : x.sameValue (zero true) = x.sameValue (zero false) := by
  have ordinal : (zero true).ordinal = (zero false).ordinal := rfl
  have number : (zero true).isNaN = false ∧ (zero false).isNaN = false := ⟨rfl, rfl⟩
  unfold sameValue
  rw [ordinal, number.1, number.2]
  by_cases same : x.ordinal = (zero false).ordinal
  · have isZero : x.isZero = true := by
      rw [isZero, same]
      rfl
    rw [isZero, Bool.true_or, Bool.true_or]
  · simp only [beq_eq_false_iff_ne.mpr same, Bool.and_false, Bool.false_and]

/-- Finite doubles are numbers. -/
theorem isNaN_of_isFinite {x : Binary64} (finite : x.isFinite = true) : x.isNaN = false :=
  decide_eq_false (Nat.lt_asymm (of_decide_eq_true finite))

/-- What is not finite is written as a word. -/
theorem plain_chars_of_not_isFinite {x : Binary64} (h : x.isFinite = false) :
    plain.chars x = if x.isNaN then ['N', 'a', 'N']
      else if x.negative then ['-', 'i', 'n', 'f'] else ['i', 'n', 'f'] := by
  rw [Layout.chars, h]
  cases x.isNaN <;> cases x.negative <;> rfl

/-- The plain text of a double has neither blanks nor commas. -/
theorem mem_plain_chars {x : Binary64} {c : Char} (h : c ∈ plain.chars x) :
    isBlank c = false ∧ c ≠ ',' := by
  cases finite : x.isFinite with
  | true =>
    obtain ⟨t, writes⟩ := exists_writes plain finite
    rw [writes.chars] at h
    rcases t.mem_chars h with digit | mark
    · exact ⟨isBlank_of_isDigit digit, ne_of_isDigit digit (by decide)⟩
    · exact forall_mem_of_all (p := fun c => isBlank c = false ∧ c ≠ ',') (by decide) c mark
  | false =>
    rw [plain_chars_of_not_isFinite finite] at h
    split_ifs at h <;>
      exact forall_mem_of_all (p := fun c => isBlank c = false ∧ c ≠ ',') (by decide) c h

/-- The plain text of a double is read as the double, up to its pattern if it is no number. -/
theorem read_plain_chars (x : Binary64) :
    read (plain.chars x) = .ok (if x.isNaN then nan false else x) := by
  cases finite : x.isFinite with
  | true =>
    have number := isNaN_of_isFinite finite
    obtain ⟨t, writes⟩ := exists_writes plain finite
    rw [writes.chars, t.read_chars, writes.value, writes.negative, ofOrdinal_ordinal number,
      number]
    rfl
  | false =>
    rw [plain_chars_of_not_isFinite finite]
    cases number : x.isNaN with
    | true => rfl
    | false =>
      conv => rhs; rw [eq_infinity number finite]
      cases x.negative <;> rfl

/-- A pattern survives being split and joined. -/
theorem toBits_ofBits (bits : UInt64) : (ofBits bits).toBits = bits := by
  have size := bits.toNat_lt
  refine UInt64.toNat_inj.mp ?_
  simp only [toBits, ofBits, decide_eq_true_eq, UInt64.toNat_ofNat']
  split_ifs <;> simp only [signBit] at * <;> omega

end Binary64

/-! ## Samples -/

namespace Sample

/-- A written integer is read as a timestamp if it has 64 bits. -/
theorem readTimestamp_signedNumeralChars (i : Int) :
    (readTimestamp (signedNumeralChars i)).toOption =
      if -int64Least ≤ i ∧ i ≤ int64Greatest then some (Int64.ofInt i) else none := by
  rw [readTimestamp, trim_signedNumeralChars, readInt64_signedNumeralChars]
  by_cases small : i < -int64Least
  · rw [if_pos small, if_neg (by omega)]
    rfl
  · rw [if_neg small]
    by_cases large : int64Greatest < i
    · rw [if_pos large, if_neg (by omega)]
      rfl
    · rw [if_neg large, if_pos (by omega)]
      rfl

/-- A written timestamp is read back. -/
theorem readTimestamp_toInt (t : Int64) :
    readTimestamp (signedNumeralChars t.toInt) = .ok t := by
  have least := t.le_toInt
  have greatest := t.toInt_lt
  have read := readTimestamp_signedNumeralChars t.toInt
  rw [if_pos (by simp only [int64Least, int64Greatest]; omega), Int64.ofInt_toInt] at read
  cases found : readTimestamp (signedNumeralChars t.toInt) with
  | error f =>
    rw [found] at read
    cases read
  | ok u =>
    rw [found] at read
    rw [Option.some.inj read]

/-- What a value is after being written and read. -/
def reread (x : Binary64) : Binary64 := if x.isNaN then Binary64.nan false else x

/-- A written value is read back, up to the payload of what is no number. -/
theorem readValue_plain_chars (x : Binary64) :
    readValue (Binary64.plain.chars x) = .ok (reread x) := by
  rw [readValue, trim_of_no_blank fun c mem => (Binary64.mem_plain_chars mem).1,
    Binary64.read_plain_chars]
  rfl

/-- A written value and timestamp are read back as a sample. -/
theorem ofTexts_chars (x : Binary64) (t : Int64) :
    ofTexts (Binary64.plain.chars x) (signedNumeralChars t.toInt) = .ok ⟨reread x, t⟩ := by
  rw [ofTexts, readTimestamp_toInt, readValue_plain_chars]

/-- An integer is read as the double nearest to it. -/
theorem readValue_signedNumeralChars (i : Int) :
    readValue (signedNumeralChars i) = .ok (.ofDecimal (decide (i < 0)) i.natAbs 0) := by
  have read := (NumberText.ofInt i).read_chars
  rw [NumberText.chars_ofInt, NumberText.digits_ofInt, NumberText.power_ofInt] at read
  rw [readValue, trim_signedNumeralChars, read]
  rfl

/-- Two texts are a sample if the one is a value and the other a timestamp. -/
theorem ofTexts_toOption (value timestamp : List Char) : (ofTexts value timestamp).toOption =
    (readTimestamp timestamp).toOption.bind fun t =>
      (readValue value).toOption.map fun v => ⟨v, t⟩ := by
  unfold ofTexts
  cases readTimestamp timestamp with
  | error f => rfl
  | ok t => cases readValue value <;> rfl

/-- The frame of an encoded sample gives its two texts back. -/
theorem ofText_encode_eq (s : Sample) : ofText s.encode =
    ofTexts (Binary64.plain.chars s.value) (signedNumeralChars s.timestamp.toInt) := by
  -- The two texts are variables from here, as only their characters matter.
  obtain ⟨value, hValue⟩ : ∃ cs, cs = Binary64.plain.chars s.value := ⟨_, rfl⟩
  obtain ⟨stamp, hStamp⟩ : ∃ cs, cs = signedNumeralChars s.timestamp.toInt := ⟨_, rfl⟩
  have shape : s.encode.toList = ('[' :: value) ++ ',' :: (stamp ++ [']']) := by
    rw [encode, String.toList_ofList, encodeChars, ← hValue, ← hStamp]
    rfl
  have trimmed : trim s.encode.toList = s.encode.toList := by
    rw [shape]
    refine trim_eq_self (fun c mem => ?_) fun c mem => ?_
    · cases mem
      decide
    · rw [← List.cons_append, ← List.append_assoc, List.getLast?_concat] at mem
      cases mem
      decide
  have noComma : ',' ∉ '[' :: value := by
    rintro (_ | ⟨_, mem⟩)
    exact (Binary64.mem_plain_chars (hValue ▸ mem)).2 rfl
  have noComma' : ',' ∉ stamp ++ [']'] := fun mem => by
    rcases List.mem_append.mp mem with mem | mem
    · rcases mem_signedNumeralChars (hStamp ▸ mem) with digit | minus
      · exact absurd digit (by decide)
      · exact absurd minus (by decide)
    · exact absurd mem (by decide)
  have closes : dropClosing? (stamp ++ [']']) = some stamp := by
    rw [dropClosing?, List.getLast?_concat, List.dropLast_concat]
    rfl
  rw [ofText, trimmed, shape, pieces_append_cons noComma, pieces_of_notMem noComma']
  simp only [dropOpening?, closes, ← hValue, ← hStamp]
  rfl

/-- A sample that was read back is written as before. -/
theorem encode_reread (x : Binary64) (t : Int64) :
    encode ⟨reread x, t⟩ = encode ⟨x, t⟩ := by
  cases number : x.isNaN with
  | false => rw [reread, number, if_neg Bool.false_ne_true]
  | true =>
    have great : x.isFinite = false :=
      decide_eq_false (Nat.lt_asymm (of_decide_eq_true number))
    simp only [encode, encodeChars, reread, number, if_true]
    rw [Binary64.plain_chars_of_not_isFinite great, number]
    rfl

/-- **An encoded sample is read as the sample.** For every pattern of the value and every timestamp
the encoded text is accepted; the timestamp is the same, the value has the same pattern, or is no
number where it was none, and the sample that is read is encoded as the same text. -/
theorem ofText_encode (bits : UInt64) (t : Int64) :
    ∃ s, ofText (encode ⟨.ofBits bits, t⟩) = .ok s ∧ s.timestamp = t ∧
      (if (Binary64.ofBits bits).isNaN then s.value.isNaN = true else s.value.toBits = bits) ∧
      s.encode = encode ⟨.ofBits bits, t⟩ := by
  refine ⟨⟨reread (.ofBits bits), t⟩, ?_, rfl, ?_, encode_reread _ t⟩
  · rw [ofText_encode_eq, ofTexts_chars]
  · dsimp only [reread]
    split_ifs
    · exact (by decide : (Binary64.nan false).isNaN = true)
    · exact Binary64.toBits_ofBits bits

end Sample

end MetricsHarness
