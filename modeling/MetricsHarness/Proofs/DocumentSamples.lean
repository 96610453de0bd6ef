import MetricsHarness.Proofs.DocumentNumbers
import MetricsHarness.Proofs.Samples

/-!
# Samples in a document

A pair of number texts in brackets is read as a sample of the two numbers (`reads_pair`). It is
refused if one of the texts is, or if the second number is no integer of 64 bits; minus zero counts
as none. The value of the sample is the number of the first text, as the reader of numbers made it
(`pair?_eq`): being written as text and read again on the way does not change it.
-/

namespace MetricsHarness

open Text

namespace Json

/-! ## Numbers as elements -/

namespace Number

/-- A number as an element of a pair. -/
def scalar : Number → Scalar
  | .natural n => .whole n
  | .negative i => .whole i
  | .real x => .fraction x

/-- A number as a double. -/
def value : Number → Binary64
  | .natural n => Binary64.ofDecimal false n 0
  | .negative i => Binary64.ofDecimal (decide (i < 0)) i.natAbs 0
  | .real x => x

/-- A number as a timestamp, if it is an integer of 64 bits. -/
def timestamp? : Number → Option Int64
  | .natural n => if n ≤ int64Greatest then some (Int64.ofInt n) else none
  | .negative i => if -int64Least ≤ i ∧ i ≤ int64Greatest then some (Int64.ofInt i) else none
  | .real _ => none

end Number

end Json

/-- An integer within the limits is a timestamp. -/
theorem NumberText.timestamp?_integerOf (negative : Bool) (n : Nat) :
    (NumberText.integerOf negative n).timestamp? =
      if negative = true then
        if n = 0 ∨ int64Least < n then none else some (Int64.ofInt (-Int.ofNat n))
      else if n ≤ int64Greatest then some (Int64.ofInt n) else none := by
  unfold NumberText.integerOf
  cases negative with
  | true =>
    simp only [if_true]
    split_ifs with refused
    · rfl
    · have limits : -(int64Least : Int) ≤ -n ∧ -(n : Int) ≤ int64Greatest := by omega
      exact if_pos limits
  | false => rfl

namespace Json

/-- The bytes that a number begins with. -/
def numericBytes : Bytes := [0x2D, 0x30, 0x31, 0x32, 0x33, 0x34, 0x35, 0x36, 0x37, 0x38, 0x39]

/-- A digit may begin a number. -/
theorem mem_numericBytes_of_isDigit {c : Char} (digit : isDigit c = true) :
    UInt8.ofNat c.toNat ∈ numericBytes :=
  forall_isDigit (p := fun c => UInt8.ofNat c.toNat ∈ numericBytes) (by decide) digit

/-- What begins with such a byte is read as a number. -/
theorem readPlain_of_mem {b : UInt8} (h : b ∈ numericBytes) (s : Bytes) :
    readPlain (b :: s) = (readNumber >>= fun n => pure (.inr (.number n))) (b :: s) := by
  simp only [numericBytes, List.mem_cons, List.not_mem_nil, or_false] at h
  rcases h with rfl | rfl | rfl | rfl | rfl | rfl | rfl | rfl | rfl | rfl | rfl <;> rfl

/-- A number text begins with such a byte. -/
theorem exists_numeric (t : NumberText) :
    ∃ b more, Utf8.encode t.chars = b :: more ∧ b ∈ numericBytes := by
  cases sign : t.negative with
  | true =>
    rw [t.chars_of_negative sign]
    exact ⟨0x2D, _, rfl, by decide⟩
  | false =>
    obtain ⟨c, more, eq, digit⟩ := t.exists_unsigned
    rw [t.chars_of_not_negative sign, eq, encode_cons_of_isDigit digit]
    exact ⟨_, _, rfl, mem_numericBytes_of_isDigit digit⟩

/-- A number may begin an element. -/
theorem beginsElement_of_mem {b : UInt8} (h : b ∈ numericBytes) : BeginsElement b :=
  forall_mem_of_all (p := fun b => isBlankByte b = false ∧ b ≠ 0x5D) (by decide) b h

/-- A number is read as the scalar that it is. -/
theorem reads_scalar (t : NumberText) :
    Reads readScalar (Utf8.encode t.chars) (t.documentNumber.map Number.scalar) := by
  intro rest ends
  have number := reads_number t ends.stops
  obtain ⟨b, more, eq, numeric⟩ := exists_numeric t
  refine Reading.Is.placed ?_
  have plain : (readPlain (Utf8.encode t.chars ++ rest)).Is
      (t.documentNumber.map fun n => .inr (.number n)) rest := by
    have shape := readPlain_of_mem numeric (more ++ rest)
    rw [← List.cons_append, ← eq] at shape
    rw [shape]
    exact Reading.Is.map number
  cases read : t.documentNumber with
  | none =>
    rw [read] at plain
    exact Reading.Is.bind (g := fun _ => none) plain fun _ none => by cases none
  | some n =>
    rw [read] at plain
    refine Reading.Is.bind_ok plain ?_
    cases n <;> exact rfl

/-! ## Doubles that documents give -/

end Json

namespace Binary64

theorem isNaN_ofOrdinal (negative : Bool) (n : Nat) : (ofOrdinal negative n).isNaN = false :=
  decide_eq_false (Nat.not_lt.mpr (Nat.min_le_right n infinityOrdinal))

/-- A decimal number is a number. -/
theorem isNaN_ofDecimal (negative : Bool) (digits : Nat) (exponent : Int) :
    (ofDecimal negative digits exponent).isNaN = false := by
  rw [ofDecimal_eq]
  exact isNaN_ofOrdinal _ _

end Binary64

namespace Json

open Binary64

/-- What is scaled down stays a number. -/
theorem isNaN_scaledDown {x : Binary64} (number : x.isNaN = false) (fuel e : Nat) :
    (scaledDown fuel x e).isNaN = false := by
  induction fuel generalizing x e with
  | zero => exact number
  | succ fuel ih =>
    unfold scaledDown
    split_ifs
    · exact isNaN_ofOrdinal _ _
    · exact number
    · exact ih (isNaN_ofOrdinal _ _) _

/-- A scaled number is a number. -/
theorem isNaN_of_scaled {significand : Nat} {exponent : Int} {y : Binary64}
    (h : scaled significand exponent = some y) : y.isNaN = false := by
  unfold scaled at h
  cases exponent with
  | ofNat e =>
    dsimp only at h
    split_ifs at h
    · cases h
      exact isNaN_ofOrdinal _ _
    · cases h
      exact isNaN_ofOrdinal _ _
  | negSucc e =>
    cases h
    exact isNaN_scaledDown (isNaN_ofOrdinal _ _) _ _

/-- What a document's reader makes of a number text is a number. -/
theorem isNaN_of_documentNumber {t : NumberText} {n : Number} (h : t.documentNumber = some n) :
    n.value.isNaN = false := by
  have tail {significand : Nat} {start : Int} {y : Binary64}
      (h : t.scaledTail significand start = some y) : y.isNaN = false := by
    unfold NumberText.scaledTail at h
    cases exponent : t.exponent with
    | none =>
      rw [exponent] at h
      exact isNaN_of_scaled h
    | some x =>
      rw [exponent, Option.elim_some, ExponentText.scaled] at h
      split_ifs at h
      · cases h
        exact isNaN_ofOrdinal _ _
      · exact isNaN_of_scaled h
  unfold NumberText.documentNumber at h
  split_ifs at h
  · cases h
    unfold NumberText.integerOf
    split_ifs
    · exact isNaN_ofOrdinal _ _
    · exact isNaN_ofDecimal _ _ _
    · exact isNaN_ofDecimal _ _ _
  · obtain ⟨y, real, rfl⟩ := Option.map_eq_some_iff.mp h
    obtain ⟨z, scaled, rfl⟩ := Option.map_eq_some_iff.mp real
    unfold NumberText.scaledFrom at scaled
    exact show z.isNaN = false from tail scaled

/-! ## Pairs -/

/-- The text of a pair, with a gap behind the comma. -/
def pairBytes (gap : Bytes) (v t : NumberText) : Bytes :=
  0x5B :: (Utf8.encode v.chars ++ 0x2C :: (gap ++ (Utf8.encode t.chars ++ [0x5D])))

/-- The sample of two numbers, if the reader has made something of both. -/
def pair? (v t : Option Number) : Option Sample :=
  v.bind fun a => t.bind fun b => (Sample.ofScalars [a.scalar, b.scalar]).toOption

/-- A sample without a fault is accepted. -/
theorem acceptSample_is (result : Except Sample.Fault Sample) (rest : Bytes) :
    (acceptSample result rest).Is result.toOption rest := by
  cases result with
  | ok s => exact rfl
  | error f => exact ⟨_, _, _, rfl⟩

/-- A pair of number texts is read as the sample of its numbers. -/
theorem reads_pair {gap : Bytes} (blank : ∀ b ∈ gap, isBlankByte b = true) (v t : NumberText) :
    Reads readSample (pairBytes gap v t) (pair? v.documentNumber t.documentNumber) := by
  intro rest _
  have begins : ∀ i ∈ [v, t], ∃ b more, Utf8.encode i.chars = b :: more ∧ BeginsElement b := by
    intro i _
    obtain ⟨b, more, eq, numeric⟩ := exists_numeric i
    exact ⟨b, more, eq, beginsElement_of_mem numeric⟩
  have reads : ∀ i ∈ [v, t], Reads readScalar (Utf8.encode i.chars)
      (i.documentNumber.map Number.scalar) := fun i _ => reads_scalar i
  have elements := readAll_listBytes blank reads begins rest
  have text : pairBytes gap v t ++ rest =
      0x5B :: (listBytes gap (fun t => Utf8.encode t.chars) [v, t] ++ 0x5D :: rest) := by
    simp only [pairBytes, listBytes, commas, List.flatMap_cons, List.flatMap_nil, List.append_nil,
      List.cons_append, List.append_assoc, List.nil_append]
  have outcome : pair? v.documentNumber t.documentNumber =
      ([v, t].mapM fun i : NumberText => i.documentNumber.map Number.scalar).bind fun scalars =>
        (Sample.ofScalars scalars).toOption := by
    rw [List.mapM_cons, List.mapM_cons, List.mapM_nil]
    cases v.documentNumber <;> cases t.documentNumber <;> rfl
  rw [text, outcome]
  refine Reading.Is.placed (Reading.Is.bind_ok (a := .inl .list) rfl ?_)
  have sample := Reading.Is.bind elements fun scalars _ =>
    acceptSample_is (Sample.ofScalars scalars) _
  exact Reading.Is.bind_ok (a := ()) rfl (Reading.Is.enclosed sample rfl)

/-- A number is written as an element and read as a value without a change. -/
theorem readValue_scalar (a : Number) (number : a.value.isNaN = false) :
    Sample.readValue a.scalar.asText.toList = .ok a.value := by
  cases a with
  | natural n =>
    rw [Number.scalar, Scalar.asText, signedNumeral, String.toList_ofList]
    exact Sample.readValue_signedNumeralChars n
  | negative i =>
    rw [Number.scalar, Scalar.asText, signedNumeral, String.toList_ofList]
    exact Sample.readValue_signedNumeralChars i
  | real x =>
    have plain := Sample.readValue_plain_chars x
    rw [Sample.reread, if_neg (by rw [show x.isNaN = false from number]; exact Bool.false_ne_true)]
      at plain
    rw [Number.scalar, Scalar.asText, Binary64.Layout.text, String.toList_ofList]
    exact plain

/-- Two numbers are the value and the timestamp of a sample, if the second can be one. -/
theorem pair?_some (a b : Number) (number : a.value.isNaN = false) :
    pair? (some a) (some b) = b.timestamp?.map fun t => ⟨a.value, t⟩ := by
  have value := readValue_scalar a number
  have whole (i : Int) : (Sample.ofScalars [a.scalar, .whole i]).toOption =
      (if -int64Least ≤ i ∧ i ≤ int64Greatest then some (Int64.ofInt i) else none).map fun t =>
        ⟨a.value, t⟩ := by
    have pair : Sample.ofScalars [a.scalar, .whole i] =
        Sample.ofTexts a.scalar.asText.toList (signedNumeralChars i) := by
      show Sample.ofTexts a.scalar.asText.toList (signedNumeral i).toList = _
      rw [signedNumeral, String.toList_ofList]
    rw [pair, Sample.ofTexts_toOption, value, Sample.readTimestamp_signedNumeralChars]
    split <;> rfl
  show (Sample.ofScalars [a.scalar, b.scalar]).toOption = _
  cases b with
  | natural n =>
    rw [Number.scalar, whole]
    have least : -(int64Least : Int) ≤ n := by simp only [int64Least]; omega
    simp only [Number.timestamp?, least, true_and, Nat.cast_le]
  | negative i => exact whole i
  | real x => rfl

/-- Two numbers are a sample if the second is a timestamp. -/
theorem pair?_eq (v t : NumberText) : pair? v.documentNumber t.documentNumber =
    v.documentNumber.bind fun a => (t.documentNumber.bind Number.timestamp?).map fun time =>
      ⟨a.value, time⟩ := by
  cases value : v.documentNumber with
  | none => rfl
  | some a =>
    cases t.documentNumber with
    | none => rfl
    | some b => exact pair?_some a b (isNaN_of_documentNumber value)

end Json

end MetricsHarness
