import MetricsHarness.Proofs.NumberTexts

/-!
# Which texts are integers, and which are doubles

The two halves of a pair are read by the rules for integers of 64 bits and for doubles. Each rule is
a grammar, and its reader accepts exactly what the grammar says. An integer is an optional sign and
digits whose number has 64 bits (`IntegerText.readInt64_eq_ok_iff`). A double is an optional sign
and a decimal or one of three words, letters counting in either case (`Binary64.exists_read_iff`).

These are not the number texts of documents: a plus sign, zeros in front, and a point with digits on
one side only are all taken here.
-/

namespace MetricsHarness

open Text

/-! ## Digits -/

namespace Text

/-- A text has a value if it is digits only, and at least one. -/
theorem value?_eq_some_iff {cs : List Char} {n : Nat} : value? 10 cs = some n ↔
    cs ≠ [] ∧ (∀ c ∈ cs, isDigit c = true) ∧ Nat.ofDigitChars 10 cs 0 = n := by
  constructor
  · intro read
    have nonempty : cs ≠ [] := by
      rintro rfl
      simp [value?] at read
    have digits : ∀ c ∈ cs, isDigit c = true := by
      intro c mem
      by_contra other
      simp [value?_of_mem mem (by simpa using other)] at read
    simp only [value?_of_digits digits nonempty, Option.some.injEq] at read
    exact ⟨nonempty, digits, read⟩
  · rintro ⟨nonempty, digits, rfl⟩
    exact value?_of_digits digits nonempty

/-- Reading up to a limit accepts the digits of the numbers up to it. -/
theorem readBounded_eq_ok_iff {limit n : Nat} {beyond : IntegerFault} {cs : List Char} :
    readBounded 10 limit beyond 0 cs = .ok n ↔
      (∀ c ∈ cs, isDigit c = true) ∧ Nat.ofDigitChars 10 cs 0 = n ∧ n ≤ limit := by
  constructor
  · intro read
    have digits : ∀ c ∈ cs, isDigit c = true := by
      intro c mem
      by_contra other
      have refused : (readBounded 10 limit beyond 0 cs).toOption = none :=
        readBounded_of_mem mem (by simpa using other) 0
      simp [read, Except.toOption] at refused
    by_cases fits : Nat.ofDigitChars 10 cs 0 ≤ limit
    · have within : readBounded 10 limit beyond 0 cs = _ := readBounded_of_le digits fits
      obtain rfl := Except.ok.inj (within.symm.trans read)
      exact ⟨digits, rfl, fits⟩
    · have past : readBounded 10 limit beyond 0 cs = .error beyond :=
        readBounded_of_lt digits (Nat.zero_le limit) (by omega)
      simp [read] at past
  · rintro ⟨digits, rfl, fits⟩
    exact readBounded_of_le digits fits

theorem readBounded_map_eq_ok {limit : Nat} {beyond : IntegerFault} {cs : List Char}
    {f : Nat → Int} {i : Int} (read : (readBounded 10 limit beyond 0 cs).map f = .ok i) :
    (∀ c ∈ cs, isDigit c = true) ∧ Nat.ofDigitChars 10 cs 0 ≤ limit ∧
      f (Nat.ofDigitChars 10 cs 0) = i := by
  cases found : readBounded 10 limit beyond 0 cs with
  | error fault => simp [found, Except.map] at read
  | ok n =>
    obtain ⟨digits, rfl, fits⟩ := readBounded_eq_ok_iff.mp found
    simp only [found, Except.map, Except.ok.injEq] at read
    exact ⟨digits, fits, read⟩

end Text

/-! ## Integers -/

/-- An integer as it may stand in a pair: an optional sign and digits, with zeros in front or
without. -/
structure IntegerText where
  sign : ExponentSign
  digits : List Char
  digits_some : digits ≠ []
  digits_digit : ∀ c ∈ digits, isDigit c = true

namespace IntegerText

/-- The integer as text. -/
def chars (t : IntegerText) : List Char := t.sign.chars ++ t.digits

/-- The number that the digits spell. -/
def number (t : IntegerText) : Nat := Nat.ofDigitChars 10 t.digits 0

/-- The integer as a number. -/
def value (t : IntegerText) : Int := t.sign.apply t.number

/-- The integer has 64 bits. -/
def Fits (t : IntegerText) : Prop := -int64Least ≤ t.value ∧ t.value ≤ int64Greatest

/-- An integer that fits is read as its number. -/
theorem readInt64_chars {t : IntegerText} (fits : t.Fits) : readInt64 t.chars = .ok t.value := by
  obtain ⟨sign, digits, nonempty, all⟩ := t
  obtain ⟨least, greatest⟩ := fits
  obtain ⟨c, rest, rfl, digit⟩ := exists_digit all nonempty
  simp only [value, number] at least greatest ⊢
  cases sign with
  | none =>
    have read : readBounded 10 int64Greatest .tooLarge 0 (c :: rest) = _ :=
      readBounded_of_le all (Int.ofNat_le.mp greatest)
    simp [chars, ExponentSign.chars, readInt64, readInteger_of_isDigit digit, read, Except.map,
      ExponentSign.apply]
  | plus =>
    have read : readBounded 10 int64Greatest .tooLarge 0 (c :: rest) = _ :=
      readBounded_of_le all (Int.ofNat_le.mp greatest)
    simp [chars, ExponentSign.chars, readInt64, readInteger, read, Except.map, ExponentSign.apply]
  | minus =>
    have read : readBounded 10 int64Least .tooSmall 0 (c :: rest) = _ :=
      readBounded_of_le all (Int.ofNat_le.mp (Int.neg_le_neg_iff.mp least))
    simp [chars, ExponentSign.chars, readInt64, readInteger, read, Except.map, ExponentSign.apply]

/-- What is read as an integer is written as one that fits. -/
theorem exists_of_readInt64 {cs : List Char} {i : Int} (read : readInt64 cs = .ok i) :
    ∃ t : IntegerText, t.Fits ∧ t.chars = cs ∧ t.value = i := by
  unfold readInt64 readInteger at read
  split at read
  · cases read
  · cases read
  · cases read
  · next digits other =>
    obtain ⟨all, fits, rfl⟩ := readBounded_map_eq_ok read
    refine ⟨⟨.plus, digits, by simpa using other, all⟩, ⟨?_, ?_⟩, rfl, rfl⟩
    · simp [value, number, ExponentSign.apply, int64Least]
    · simpa [value, number, ExponentSign.apply] using fits
  · next digits other =>
    obtain ⟨all, fits, rfl⟩ := readBounded_map_eq_ok read
    refine ⟨⟨.minus, digits, by simpa using other, all⟩, ⟨?_, ?_⟩, rfl, rfl⟩
    · simpa [value, number, ExponentSign.apply] using fits
    · simp [value, number, ExponentSign.apply, int64Greatest]
  · next digits nonempty _ _ _ _ =>
    obtain ⟨all, fits, rfl⟩ := readBounded_map_eq_ok read
    refine ⟨⟨.none, cs, by simpa using nonempty, all⟩, ⟨?_, ?_⟩, rfl, rfl⟩
    · simp [value, number, ExponentSign.apply, int64Least]
    · simpa [value, number, ExponentSign.apply] using fits

/-- Reading accepts exactly the integers that fit. -/
theorem readInt64_eq_ok_iff {cs : List Char} {i : Int} :
    readInt64 cs = .ok i ↔ ∃ t : IntegerText, t.Fits ∧ t.chars = cs ∧ t.value = i := by
  constructor
  · exact exists_of_readInt64
  · rintro ⟨t, fits, rfl, rfl⟩
    exact readInt64_chars fits

end IntegerText

/-! ## Doubles -/

/-- A decimal without its sign: digits with at most one point among or around them, and perhaps an
exponent. -/
structure DecimalText where
  whole : List Char
  point : Bool
  fraction : List Char
  exponent : Option ExponentText
  digits_some : whole ++ fraction ≠ []
  whole_digit : ∀ c ∈ whole, isDigit c = true
  fraction_digit : ∀ c ∈ fraction, isDigit c = true
  fraction_pointed : point = false → fraction = []

namespace DecimalText

variable (t : DecimalText)

/-- The fraction as text, with its point. -/
def fractionChars : List Char := if t.point then '.' :: t.fraction else []

/-- The exponent as text, if there is one. -/
def exponentChars : List Char := t.exponent.elim [] ExponentText.chars

/-- The decimal as text. -/
def chars : List Char := t.whole ++ (t.fractionChars ++ t.exponentChars)

/-- The digits before and after the point as one number. -/
def digits : Nat := Nat.ofDigitChars 10 (t.whole ++ t.fraction) 0

/-- The power of ten that the digits count. -/
def power : Int := t.exponent.elim 0 ExponentText.value - t.fraction.length

end DecimalText

namespace Binary64

theorem readExponent?_chars (o : Option ExponentText) :
    readExponent? (o.elim [] ExponentText.chars) = some (o.elim 0 ExponentText.value) :=
  NumberText.readExponent?_exponentChars { NumberText.ofInt 0 with exponent := o }

theorem exists_of_readExponent? {cs : List Char} {e : Int} (read : readExponent? cs = some e) :
    ∃ o : Option ExponentText, o.elim [] ExponentText.chars = cs := by
  unfold readExponent? at read
  split at read
  · exact ⟨none, rfl⟩
  next c rest =>
    split at read
    next letter =>
      have mark : (if decide (c = 'E') then 'E' else 'e') = c := by
        rcases letter with rfl | rfl <;> rfl
      split at read
      next digits =>
        obtain ⟨n, value, -⟩ := Option.map_eq_some_iff.mp read
        obtain ⟨nonempty, all, -⟩ := value?_eq_some_iff.mp value
        refine ⟨some ⟨decide (c = 'E'), .plus, digits, nonempty, all⟩, ?_⟩
        simp only [Option.elim, ExponentText.chars, ExponentText.mark, mark]
        rfl
      next digits =>
        obtain ⟨n, value, -⟩ := Option.map_eq_some_iff.mp read
        obtain ⟨nonempty, all, -⟩ := value?_eq_some_iff.mp value
        refine ⟨some ⟨decide (c = 'E'), .minus, digits, nonempty, all⟩, ?_⟩
        simp only [Option.elim, ExponentText.chars, ExponentText.mark, mark]
        rfl
      next =>
        obtain ⟨n, value, -⟩ := Option.map_eq_some_iff.mp read
        obtain ⟨nonempty, all, -⟩ := value?_eq_some_iff.mp value
        refine ⟨some ⟨decide (c = 'E'), .none, rest, nonempty, all⟩, ?_⟩
        simp only [Option.elim, ExponentText.chars, ExponentText.mark, mark]
        rfl
    · simp at read

theorem head_exponentChars {o : Option ExponentText} {c : Char}
    (h : c ∈ (o.elim [] ExponentText.chars).head?) : c = 'e' ∨ c = 'E' :=
  NumberText.head_exponentChars { NumberText.ofInt 0 with exponent := o } h

/-- A decimal is read as its digits and the power of ten that they count. -/
theorem readDecimal?_chars (t : DecimalText) : readDecimal? t.chars = some ⟨t.digits, t.power⟩ := by
  have exponent : readExponent? t.exponentChars = _ := readExponent?_chars t.exponent
  have number : value? 10 (t.whole ++ t.fraction) = some t.digits := by
    refine value?_of_digits (fun c mem => ?_) t.digits_some
    exact (List.mem_append.mp mem).elim (t.whole_digit c) (t.fraction_digit c)
  have letter {c : Char} (h : c ∈ t.exponentChars.head?) : isDigit c = false := by
    rcases head_exponentChars h with rfl | rfl <;> decide
  cases pointed : t.point with
  | true =>
    have shape : t.chars = t.whole ++ '.' :: (t.fraction ++ t.exponentChars) := by
      simp [DecimalText.chars, DecimalText.fractionChars, pointed]
    have stop : ∀ c ∈ ('.' :: (t.fraction ++ t.exponentChars)).head?, isDigit c = false := by
      rintro c ⟨⟩
      decide
    obtain ⟨whole, rest⟩ := takeWhile_dropWhile_append t.whole_digit stop
    obtain ⟨fraction, tail⟩ := takeWhile_dropWhile_append t.fraction_digit fun c => letter
    simp [readDecimal?, shape, whole, rest, fraction, tail, number, exponent, DecimalText.power]
  | false =>
    have empty := t.fraction_pointed pointed
    have shape : t.chars = t.whole ++ t.exponentChars := by
      simp [DecimalText.chars, DecimalText.fractionChars, pointed]
    obtain ⟨whole, rest⟩ := takeWhile_dropWhile_append t.whole_digit fun c => letter
    rw [empty, List.append_nil] at number
    rw [readDecimal?, shape, whole, rest]
    cases tail : t.exponentChars with
    | nil =>
      rw [tail] at exponent
      simp [number, exponent, empty, DecimalText.power]
    | cons c more =>
      have other : c ≠ '.' := by
        rcases head_exponentChars (o := t.exponent) (c := c) (by
          change c ∈ t.exponentChars.head?; simp [tail]) with rfl | rfl <;> decide
      rw [tail] at exponent
      simp [number, exponent, empty, other, DecimalText.power]

/-- Digits, perhaps a point and more digits, and an exponent are a decimal. -/
theorem exists_decimal {whole fraction tail : List Char} {n : Nat} {e : Int} (point : Bool)
    (pointed : point = false → fraction = []) (digits : value? 10 (whole ++ fraction) = some n)
    (exponent : readExponent? tail = some e) :
    ∃ t : DecimalText, t.chars = whole ++ ((if point then '.' :: fraction else []) ++ tail) := by
  obtain ⟨nonempty, all, -⟩ := value?_eq_some_iff.mp digits
  obtain ⟨o, rfl⟩ := exists_of_readExponent? exponent
  exact ⟨⟨whole, point, fraction, o, nonempty, fun c mem => all c (by simp [mem]),
    fun c mem => all c (by simp [mem]), pointed⟩, rfl⟩

/-- What is read as a decimal is written as one. -/
theorem exists_of_readDecimal? {cs : List Char} {d : Decimal} (read : readDecimal? cs = some d) :
    ∃ t : DecimalText, t.chars = cs := by
  have cut : cs.takeWhile isDigit ++ cs.dropWhile isDigit = cs := List.takeWhile_append_dropWhile
  by_cases pointed : ∃ rest, cs.dropWhile isDigit = '.' :: rest
  · obtain ⟨rest, found⟩ := pointed
    simp only [readDecimal?, found] at read
    split at read
    next n e digits exponent =>
      obtain ⟨t, chars⟩ := exists_decimal true (by simp) digits exponent
      refine ⟨t, chars.trans ?_⟩
      simp [List.takeWhile_append_dropWhile, ← found, cut]
    next => cases read
  · simp only [readDecimal?] at read
    split at read
    next n e digits exponent =>
      split at digits
      next rest found => exact absurd ⟨rest, found⟩ pointed
      next =>
        obtain ⟨t, chars⟩ := exists_decimal false (fun _ => rfl) digits exponent
        exact ⟨t, chars.trans (by simp [cut])⟩
    next => cases read

/-- The words that are doubles. -/
def words : List String := ["nan", "inf", "infinity"]

/-- What may stand behind the sign of a double: a decimal, or a word with letters in either case. -/
inductive IsUnsigned : List Char → Prop
  | decimal (t : DecimalText) : IsUnsigned t.chars
  | word {w : String} {cs : List Char} (known : w ∈ words)
    (spelled : cs.map Char.toLower = w.toList) : IsUnsigned cs

/-- A text that is a double. -/
def IsLiteral (cs : List Char) : Prop :=
  ∃ (sign : ExponentSign) (rest : List Char), IsUnsigned rest ∧ cs = sign.chars ++ rest

theorem exists_readUnsigned_iff {negative : Bool} {cs : List Char} :
    (∃ x, readUnsigned negative cs = .ok x) ↔ IsUnsigned cs := by
  constructor
  · rintro ⟨x, read⟩
    unfold readUnsigned at read
    split at read
    next d found =>
      obtain ⟨t, rfl⟩ := exists_of_readDecimal? found
      exact .decimal t
    next =>
      split_ifs at read with nan infinity
      · exact .word (w := "nan") (by decide) (by simpa [spells] using nan)
      · rcases Bool.or_eq_true_iff.mp infinity with short | long
        · exact .word (w := "inf") (by decide) (by simpa [spells] using short)
        · exact .word (w := "infinity") (by decide) (by simpa [spells] using long)
  · intro isUnsigned
    cases isUnsigned with
    | decimal t => exact ⟨_, by rw [readUnsigned, readDecimal?_chars]⟩
    | @word w _ known spelled =>
      cases found : readDecimal? cs with
      | some d => exact ⟨_, by rw [readUnsigned, found]⟩
      | none =>
        simp only [words, List.mem_cons, List.not_mem_nil, or_false] at known
        rcases known with rfl | rfl | rfl
        · exact ⟨nan negative, by simp [readUnsigned, found, spells, spelled]⟩
        · exact ⟨infinity negative, by simp [readUnsigned, found, spells, spelled]⟩
        · exact ⟨infinity negative, by simp [readUnsigned, found, spells, spelled]⟩

/-- Behind the sign there is something, and no other sign. -/
theorem IsUnsigned.exists_front {cs : List Char} (h : IsUnsigned cs) :
    ∃ c rest, cs = c :: rest ∧ c ≠ '+' ∧ c ≠ '-' := by
  cases h with
  | decimal t =>
    cases whole : t.whole with
    | cons c more =>
      have digit := t.whole_digit c (by simp [whole])
      refine ⟨c, more ++ (t.fractionChars ++ t.exponentChars), ?_, ?_, ?_⟩
      · simp [DecimalText.chars, whole]
      · exact ne_of_isDigit digit (by decide)
      · exact ne_of_isDigit digit (by decide)
    | nil =>
      -- without digits in front there are some behind a point
      have pointed : t.point = true := by
        by_contra missing
        exact t.digits_some (by simp [whole, t.fraction_pointed (by simpa using missing)])
      refine ⟨'.', t.fraction ++ t.exponentChars, ?_, by decide, by decide⟩
      simp [DecimalText.chars, DecimalText.fractionChars, whole, pointed]
  | @word w cs known spelled =>
    cases cs with
    | nil =>
      simp only [words, List.mem_cons, List.not_mem_nil, or_false] at known
      rcases known with rfl | rfl | rfl <;> simp at spelled
    | cons c rest =>
      refine ⟨c, rest, rfl, ?_, ?_⟩
      all_goals
        rintro rfl
        simp only [words, List.mem_cons, List.not_mem_nil, or_false] at known
        rcases known with rfl | rfl | rfl <;> simp at spelled

/-- Reading accepts exactly the texts that are doubles. -/
theorem exists_read_iff {cs : List Char} : (∃ x, read cs = .ok x) ↔ IsLiteral cs := by
  constructor
  · rintro ⟨x, found⟩
    unfold read at found
    split at found
    next => cases found
    next rest => exact ⟨.plus, rest, exists_readUnsigned_iff.mp ⟨x, found⟩, rfl⟩
    next rest => exact ⟨.minus, rest, exists_readUnsigned_iff.mp ⟨x, found⟩, rfl⟩
    next => exact ⟨.none, cs, exists_readUnsigned_iff.mp ⟨x, found⟩, rfl⟩
  · rintro ⟨sign, rest, isUnsigned, rfl⟩
    cases sign with
    | none =>
      obtain ⟨x, found⟩ : ∃ x, readUnsigned false rest = .ok x :=
        exists_readUnsigned_iff.mpr isUnsigned
      obtain ⟨c, more, rfl, plus, minus⟩ := isUnsigned.exists_front
      refine ⟨x, ?_⟩
      simpa [ExponentSign.chars, read, plus, minus] using found
    | plus => exact exists_readUnsigned_iff.mpr isUnsigned
    | minus => exact exists_readUnsigned_iff.mpr isUnsigned

end Binary64

end MetricsHarness
