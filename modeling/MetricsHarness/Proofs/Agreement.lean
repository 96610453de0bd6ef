import MetricsHarness.Proofs.DocumentSamples
import MetricsHarness.Proofs.Scaling
import MetricsHarness.Proofs.SuiteTexts
import MetricsHarness.Series.Compare

/-!
# One pair, two readers

A pair of number texts comes in a document, as what was observed, and in a suite, as what is
expected. The two readers are alike on it if they refuse it both, or make samples of it that agree.
Both take a pair of a value and a timestamp apart, so that the question is one about each of the two
texts (`alike_iff`), and there are four ways in which the readers differ:

* an integer past 64 bits, within 128, is a value in a document, and is refused in a suite
  (`exists_documentValue?_of_wide`);
* minus zero is a timestamp in a suite, and is refused in a document;
* a value past the finite range is infinity in a suite, and is refused in a document;
* the value of another number is the nearest double in a suite, and is rounded twice in a document.

They are alike on timestamps other than minus zero and on values that are integers of 64 bits, or
that have few digits and a small power of ten (`Sample.alike_readings`).
-/

namespace MetricsHarness

open Text

/-! ## Timestamps -/

namespace NumberText

variable (t : NumberText)

theorem le_of_fits {greatest least limit : Nat} (fits : t.fits greatest least)
    (h : greatest ≤ limit) (h' : least ≤ limit) : t.digits ≤ limit := by
  cases sign : t.negative with
  | true => exact ((fits_of_negative sign _ _).mp fits).trans h'
  | false => exact ((fits_of_not_negative sign _ _).mp fits).trans h

/-- A document takes the timestamps that a suite takes, except minus zero. -/
theorem timestamp?_document : t.documentNumber.bind Json.Number.timestamp? =
    if t.isMinusZero then none else t.timestamp? := by
  by_cases whole : t.isInteger = true ∧ t.digits ≤ nat64Greatest
  · obtain ⟨integer, fits⟩ := whole
    rw [t.documentNumber_of_integer integer fits, Option.bind_some, timestamp?_integerOf]
    cases sign : t.negative with
    | true =>
      simp only [isMinusZero, timestamp?, integer, sign, true_and, if_true, fits_of_negative sign,
        signed_of_negative sign]
      split_ifs <;> first | rfl | (exfalso; omega)
    | false =>
      simp only [isMinusZero, timestamp?, integer, sign, true_and, Bool.false_eq_true, false_and,
        and_false, if_false, fits_of_not_negative sign, signed_of_not_negative sign]
  · have real : t.documentNumber = t.documentReal.map .real :=
      t.documentNumber_of_real fun integer => Nat.lt_of_not_le fun fits => whole ⟨integer, fits⟩
    have none : t.timestamp? = none := if_neg fun both =>
      whole ⟨both.1, t.le_of_fits both.2 (by decide) (by decide)⟩
    rw [real, none, ite_self]
    cases t.documentReal <;> rfl

/-! ## Values -/

/-- The value that a document makes of the text. -/
def documentValue? : Option Binary64 := t.documentNumber.map Json.Number.value

/-- An integer past 64 bits is a value in a document. -/
theorem exists_documentValue?_of_wide (h : t.isWide) : ∃ x, t.documentValue? = some x := by
  obtain ⟨integer, -, fits⟩ := h
  unfold documentValue?
  rcases Nat.lt_or_ge nat64Greatest t.digits with beyond | within
  · obtain ⟨significand, left, collected, least, most, size⟩ :=
      t.collected_of_beyond integer beyond
    obtain ⟨noFraction, noExponent⟩ := t.isInteger_iff.mp integer
    have bound : t.digits < 2 ^ 128 :=
      (t.le_of_fits fits (Nat.le_refl _) (by decide)).trans_lt (by decide)
    -- As many digits as fit are collected, so that not many are left of 128 bits.
    have power : left + 1 ≤ 22 := by
      by_contra more
      have tens : 10 ^ 23 ≤ 10 ^ (left + 1) := Nat.pow_le_pow_right (by decide) (by omega)
      have product := Nat.mul_le_mul (show 10 ^ 18 ≤ significand by
        simp only [nat64Greatest] at most; omega) tens
      omega
    obtain ⟨x, scaled⟩ := Binary64.exists_scaled least power
    have real : t.documentReal = some (x.withSign t.negative) := by
      rw [documentReal, collected]
      unfold scaledFrom scaledTail
      rw [noFraction, noExponent]
      show (Json.scaled significand ((left + 1 : Nat) - (0 : Nat))).map _ = _
      rw [Nat.cast_zero, sub_zero, scaled]
      rfl
    rw [t.documentNumber_of_real fun _ => beyond, real]
    exact ⟨_, rfl⟩
  · rw [t.documentNumber_of_integer integer within]
    exact ⟨_, rfl⟩

/-- An integer of 64 bits is the nearest double in a document. -/
theorem documentValue?_of_narrow (h : t.isNarrow) : t.documentValue? = some t.nearest := by
  obtain ⟨integer, fits⟩ := h
  have within : t.digits ≤ nat64Greatest := t.le_of_fits fits (Nat.le_refl _) (by decide)
  rw [documentValue?, t.documentNumber_of_integer integer within, nearest,
    t.power_of_isInteger integer, Option.map_some, integerOf]
  cases sign : t.negative with
  | true =>
    have least := (fits_of_negative sign _ _).mp fits
    by_cases zero : t.digits = 0
    · rw [if_pos rfl, if_pos (.inl zero), zero]
      show some ((Binary64.ofNat 0).withSign true) = _
      rw [Binary64.ofNat_eq, Binary64.ofDecimal_eq, Binary64.ofDecimal_eq]
      rfl
    · have below : -(t.digits : Int) < 0 := by omega
      rw [if_pos rfl, if_neg (by omega)]
      show some (Binary64.ofDecimal (decide (-(t.digits : Int) < 0))
        (-(t.digits : Int)).natAbs 0) = _
      rw [decide_eq_true below, Int.natAbs_neg]
      rfl
  | false => rfl

/-- The text has few digits, a small power of ten and no exponent past the limit. -/
def isShort : Prop :=
  t.digits ≤ 2 ^ 53 ∧ t.power.natAbs ≤ 22 ∧ ∀ x ∈ t.exponent, x.number ≤ Json.exponentLimit

theorem isNarrow_of_short (h : t.isShort) (integer : t.isInteger = true) : t.isNarrow := by
  have digits := h.1
  refine ⟨integer, ?_⟩
  cases sign : t.negative with
  | true => exact (fits_of_negative sign _ _).mpr (digits.trans (by decide))
  | false => exact (fits_of_not_negative sign _ _).mpr (digits.trans (by decide))

theorem documentValue?_of_short (h : t.isShort) : t.documentValue? = some t.nearest := by
  cases integer : t.isInteger with
  | true => exact t.documentValue?_of_narrow (t.isNarrow_of_short h integer)
  | false =>
    obtain ⟨digits, power, exponent⟩ := h
    have real : t.documentReal = some t.nearest := by
      rw [t.documentReal_of_fits (digits.trans (by decide)) fun x mem =>
        ⟨exponent x mem, power.trans (by decide)⟩, Binary64.scaled_of_small digits power, nearest,
        Binary64.ofDecimal_eq, Binary64.ofDecimal_eq]
      rfl
    have number := t.documentNumber_of_real fun yes => by
      rw [integer] at yes
      cases yes
    rw [documentValue?, number, real]
    rfl

/-- The value that a document makes of the text is the same number as the nearest double. -/
def isReadAlike : Prop := ∃ x, t.documentValue? = some x ∧ x.sameValue t.nearest = true

theorem isReadAlike_of_nearest (h : t.documentValue? = some t.nearest) : t.isReadAlike :=
  ⟨t.nearest, h, Binary64.sameValue_self _⟩

/-- A suite drops the sign of minus zero, which makes no other number of it. -/
theorem sameValue_suiteValue (x : Binary64) : x.sameValue t.suiteValue = x.sameValue t.nearest := by
  unfold suiteValue
  split_ifs with minus
  · obtain ⟨integer, negative, zero⟩ := minus
    have nearest : t.nearest = Binary64.zero true := by
      rw [nearest, negative, zero, t.power_of_isInteger integer]
      rfl
    rw [nearest]
    exact (Binary64.sameValue_zero x).symm
  · rfl

end NumberText

/-! ## Pairs -/

theorem Json.pair?_texts (v t : NumberText) : Json.pair? v.documentNumber t.documentNumber =
    v.documentValue?.bind fun x => (if t.isMinusZero then none else t.timestamp?).map fun time =>
      ⟨x, time⟩ := by
  rw [Json.pair?_eq, t.timestamp?_document, NumberText.documentValue?]
  cases v.documentNumber <;> rfl

namespace Sample

/-- Two readers have refused both, or have made samples that agree. -/
def Alike : Option Sample → Option Sample → Prop
  | some a, some b => a.agrees b = true
  | none, none => True
  | _, _ => False

instance : (observed expected : Option Sample) → Decidable (Alike observed expected)
  | some a, some b => inferInstanceAs (Decidable (a.agrees b = true))
  | none, none => .isTrue trivial
  | some _, none => .isFalse id
  | none, some _ => .isFalse id

/-- Where the second text can be a timestamp, the readers are alike just if both refuse the pair or
both take it with one value. -/
theorem alike_iff (v t : NumberText) :
    Alike (Json.pair? v.documentNumber t.documentNumber) (Suite.pair? v t) ↔
      t.timestamp? = none ∨
        if v.isWide then t.isMinusZero else ¬ t.isMinusZero ∧ v.isReadAlike := by
  -- Both samples are told by the texts now: without a timestamp there are none, and with one it is
  -- the values that decide, unless minus zero has been refused.
  rw [Json.pair?_texts, Suite.pair?_eq]
  cases time : t.timestamp? with
  | none =>
    simp only [ite_self, Option.map_none, true_or, iff_true]
    cases v.documentValue? <;> exact trivial
  | some seconds =>
    simp only [reduceCtorEq, false_or]
    by_cases wide : v.isWide
    · obtain ⟨x, value⟩ := v.exists_documentValue?_of_wide wide
      rw [value, if_pos wide, if_pos wide, Option.bind_some]
      by_cases minus : t.isMinusZero
      · rw [if_pos minus]
        exact iff_of_true trivial minus
      · rw [if_neg minus]
        exact iff_of_false id minus
    · rw [if_neg wide, if_neg wide]
      by_cases minus : t.isMinusZero
      · rw [if_pos minus]
        have refused : (v.documentValue?.bind fun x => (none : Option Int64).map (Sample.mk x)) =
            none := by
          cases v.documentValue? <;> rfl
        rw [refused]
        exact iff_of_false id fun both => both.1 minus
      · rw [if_neg minus, NumberText.isReadAlike]
        simp only [minus, not_false_iff, true_and]
        cases v.documentValue? with
        | none => exact iff_of_false id fun ⟨x, value, _⟩ => by cases value
        | some x =>
          have agrees : (Sample.mk x seconds).agrees ⟨v.suiteValue, seconds⟩ =
              x.sameValue v.nearest := by
            simp [Sample.agrees, v.sameValue_suiteValue]
          show Sample.agrees _ _ = true ↔ _
          rw [agrees]
          simp only [Option.some.injEq, exists_eq_left']

/-- The text of a pair, with blanks behind the comma. -/
def pairText (n : Nat) (v t : NumberText) : List Char :=
  '[' :: (v.chars ++ ',' :: (List.replicate n ' ' ++ (t.chars ++ [']'])))

theorem encode_pairText (n : Nat) (v t : NumberText) :
    Utf8.encode (pairText n v t) = Json.pairBytes (List.replicate n 0x20) v t := by
  have blanks : Utf8.encode (List.replicate n ' ') = List.replicate n 0x20 := by
    induction n with
    | zero => rfl
    | succ n ih =>
      rw [List.replicate_succ, List.replicate_succ, Utf8.encode_cons, ih]
      rfl
  have opening : Utf8.encodeChar '[' = [0x5B] := rfl
  have closing : Utf8.encodeChar ']' = [0x5D] := rfl
  have comma : Utf8.encodeChar ',' = [0x2C] := rfl
  simp [pairText, Json.pairBytes, opening, closing, comma, blanks]

theorem pairChars_eq (n : Nat) (v t : NumberText) :
    Yaml.pairChars n v t = '[' :: (pairText n v t ++ [']']) := by
  simp only [Yaml.pairChars, pairText, List.cons_append, List.append_assoc, List.nil_append]

/-- **One text of a pair is read alike just if its two numbers are.** Wherever the text stands in a
document, it makes one sample or is refused; and so it does wherever it stands in a suite, and in
the text of a list of its own. Where the second number is an integer of 64 bits, the readers are
alike if it is not minus zero and the first is read as the nearest double; an integer past 64 bits
is read alike only with minus zero, as it is then refused by both. The values are read alike that
are integers of 64 bits, and those of digits up to 2 to the power 53 with a power of ten up to
22. -/
theorem alike_readings (n : Nat) (v t : NumberText) : ∃ observed expected : Option Sample,
    Json.Reads Json.readSample (Utf8.encode (pairText n v t)) observed ∧
      (Json.sampleOfDocument (Utf8.encode (pairText n v t))).toOption = observed ∧
      (∀ d mark first second left, (Suite.readSample d (.sequence mark none
        [Suite.numberNode first v, Suite.numberNode second t]) left).toOption =
          expected.map (·, left)) ∧
      (listOfText ('[' :: (pairText n v t ++ [']']))).toOption = expected.map ([·]) ∧
      (Alike observed expected ↔ t.timestamp? = none ∨
        if v.isWide then t.isMinusZero else ¬ t.isMinusZero ∧ v.isReadAlike) ∧
      (v.isNarrow ∨ v.isShort → ¬ t.isMinusZero → Alike observed expected) := by
  have blank : ∀ b ∈ List.replicate n (0x20 : UInt8), Json.isBlankByte b = true := fun b mem => by
    rw [List.eq_of_mem_replicate mem]
    rfl
  have document := Json.reads_pair blank v t
  have alike := alike_iff v t
  rw [encode_pairText, ← pairChars_eq]
  refine ⟨_, _, document, Json.readDocument_of_reads document, ?_, toOption_listOfText n v t, alike,
    ?_⟩
  · exact fun d mark first second left => Suite.readSample_pair d mark first second v t left
  · intro near plus
    have narrow : v.isNarrow → ¬ v.isWide := fun narrow wide => wide.2.1 narrow.2
    refine alike.mpr (.inr ?_)
    rcases near with integer | short
    · rw [if_neg (narrow integer)]
      exact ⟨plus, v.isReadAlike_of_nearest (v.documentValue?_of_narrow integer)⟩
    · rw [if_neg fun wide => narrow (v.isNarrow_of_short short wide.1) wide]
      exact ⟨plus, v.isReadAlike_of_nearest (v.documentValue?_of_short short)⟩

/-- The readers are alike on a text, which stands in a suite as a list of its own. -/
def AlikeOn (text : List Char) : Prop :=
  Alike (Json.sampleOfDocument (Utf8.encode text)).toOption
    ((listOfText ('[' :: (text ++ [']']))).toOption.bind (·.head?))

instance (text : List Char) : Decidable (AlikeOn text) :=
  inferInstanceAs (Decidable (Alike _ _))

/-- One pair for each way to differ: a value that is rounded twice, one past 64 bits, one past the
finite range, and a timestamp of minus zero. -/
theorem alike_readings_missed :
    ¬ AlikeOn "[7205759403792796.0, 60]".toList ∧ ¬ AlikeOn "[18446744073709551616, 60]".toList ∧
      ¬ AlikeOn "[1e400, 60]".toList ∧ ¬ AlikeOn "[1, -0]".toList := by
  decide +kernel

end Sample

end MetricsHarness
