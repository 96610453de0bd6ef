import MetricsHarness.Json.Skip
import MetricsHarness.Proofs.Answers
import MetricsHarness.Proofs.DocumentNumbers
import MetricsHarness.Proofs.Grammar

/-!
# Numbers that are passed or read

Both the number that is passed over and the number that is read are numbers of the grammar. Digits,
fraction and exponent are consumed alike, whatever is made of them (`passNumberDigits_eq_ok`,
`readNumberDigits_eq_ok`). Every number of the grammar is the text of a number
(`IsNumber.exists_numberText`), so what it says is known too.
-/

namespace MetricsHarness.Json

open Grammar

variable {s rest : Bytes}

/-! ## Numbers that are passed -/

/-- Digits from a first one on. -/
theorem isDigits_takeWhile {d : UInt8} (digit : isDigitByte d = true) (s : Bytes) :
    IsDigits ((d :: s).takeWhile isDigitByte) := by
  constructor
  · rw [List.takeWhile_cons_of_pos digit]
    exact List.cons_ne_nil _ _
  · exact List.all_eq_true.mp List.all_takeWhile

/-- At most one sign is passed over. -/
theorem passSign_eq_ok (h : passSign s = .ok () rest) :
    ∃ sign ∈ [[], [0x2B], [0x2D]], s = sign ++ rest := by
  unfold passSign at h
  obtain ⟨front, ahead, h⟩ := peek_eq_ok h
  split at h
  next =>
    obtain ⟨tail, rfl⟩ := List.head?_eq_some_iff.mp ahead
    injection h with _ left
    exact ⟨[0x2B], by decide, congrArg _ left⟩
  next =>
    obtain ⟨tail, rfl⟩ := List.head?_eq_some_iff.mp ahead
    injection h with _ left
    exact ⟨[0x2D], by decide, congrArg _ left⟩
  next =>
    obtain ⟨-, rfl⟩ := pure_eq_ok h
    exact ⟨[], by decide, rfl⟩

/-- What is passed over behind its mark is an exponent. -/
theorem passExponent_eq_ok {e : UInt8} (mark : e = 0x65 ∨ e = 0x45)
    (h : passExponent (e :: s) = .ok () rest) : ∃ t, IsExponent t ∧ e :: s = t ++ rest := by
  unfold passExponent at h
  rw [bind_skip] at h
  obtain ⟨_, mid, signed, h⟩ := bind_eq_ok h
  obtain ⟨sign, mem, eq⟩ := passSign_eq_ok signed
  obtain ⟨front, ahead, h⟩ := peek_eq_ok h
  split at h
  next => nomatch h
  next d =>
    obtain ⟨tail, rfl⟩ := List.head?_eq_some_iff.mp ahead
    split at h
    next digit =>
      rw [bind_takeDigits] at h
      obtain ⟨-, rfl⟩ := pure_eq_ok h
      refine ⟨_, .some mark mem (isDigits_takeWhile digit tail), ?_⟩
      rw [List.cons_append, List.append_assoc, List.takeWhile_append_dropWhile, ← eq]
      rfl
    next => nomatch h

/-- What may follow the digits: an exponent or none. -/
theorem isExponent_of_passed {mid : Bytes} {front : Option UInt8} (ahead : mid.head? = front)
    (h : (match front with
      | some 0x65 => passExponent
      | some 0x45 => passExponent
      | _ => pure ()) mid = .ok () rest) : ∃ e, IsExponent e ∧ mid = e ++ rest := by
  split at h
  next =>
    obtain ⟨tail, rfl⟩ := List.head?_eq_some_iff.mp ahead
    exact passExponent_eq_ok (.inl rfl) h
  next =>
    obtain ⟨tail, rfl⟩ := List.head?_eq_some_iff.mp ahead
    exact passExponent_eq_ok (.inr rfl) h
  next =>
    obtain ⟨-, rfl⟩ := pure_eq_ok h
    exact ⟨[], .none, rfl⟩

/-- Digits behind a point are a fraction. -/
theorem isFraction_takeWhile {t : Bytes} (some : ¬ (t.takeWhile isDigitByte).isEmpty = true) :
    IsFraction (0x2E :: t.takeWhile isDigitByte) := by
  refine .some ⟨?_, List.all_eq_true.mp List.all_takeWhile⟩
  intro empty
  exact some (List.isEmpty_iff.mpr empty)

/-- What is passed over from the point on is a fraction, and an exponent behind it. -/
theorem passFraction_eq_ok (h : passFraction (0x2E :: s) = .ok () rest) :
    ∃ f e, IsFraction f ∧ IsExponent e ∧ 0x2E :: s = f ++ (e ++ rest) := by
  unfold passFraction at h
  rw [bind_skip, bind_takeDigits] at h
  split at h
  next => nomatch h
  next some =>
    obtain ⟨front, ahead, h⟩ := peek_eq_ok h
    obtain ⟨e, exponent, eq⟩ := isExponent_of_passed ahead h
    refine ⟨_, e, isFraction_takeWhile some, exponent, ?_⟩
    rw [← eq, List.cons_append, List.takeWhile_append_dropWhile]
    rfl

/-- What is passed over first is the whole part. -/
theorem passWhole_eq_ok (h : passWhole s = .ok () rest) : ∃ w, IsWhole w ∧ s = w ++ rest := by
  unfold passWhole at h
  obtain ⟨front, ahead, h⟩ := peek_eq_ok h
  split at h
  next => nomatch h
  next d =>
    obtain ⟨tail, rfl⟩ := List.head?_eq_some_iff.mp ahead
    split at h
    next zero =>
      subst zero
      rw [bind_skip] at h
      obtain ⟨front, ahead', h⟩ := peek_eq_ok h
      have left : tail = rest := by
        split at h
        next =>
          split at h
          next => nomatch h
          next => exact (pure_eq_ok h).2
        next => exact (pure_eq_ok h).2
      exact ⟨_, .zero, congrArg _ left⟩
    next nonzero =>
      split at h
      next digit =>
        rw [bind_takeDigits] at h
        obtain ⟨-, rfl⟩ := pure_eq_ok h
        refine ⟨(d :: tail).takeWhile isDigitByte, ?_, List.takeWhile_append_dropWhile.symm⟩
        have digits := isDigits_takeWhile digit tail
        rw [List.takeWhile_cons_of_pos digit] at digits ⊢
        exact .digits digits nonzero
      next => nomatch h

/-- What is passed over of a number without its sign is spelled by the grammar. -/
theorem passNumberDigits_eq_ok (h : passNumberDigits s = .ok () rest) :
    ∃ w f e, IsWhole w ∧ IsFraction f ∧ IsExponent e ∧ s = w ++ (f ++ (e ++ rest)) := by
  unfold passNumberDigits at h
  obtain ⟨_, mid, passed, more⟩ := bind_eq_ok h
  obtain ⟨w, whole, rfl⟩ := passWhole_eq_ok passed
  obtain ⟨front, ahead, more⟩ := peek_eq_ok more
  split at more
  next =>
    obtain ⟨tail, rfl⟩ := List.head?_eq_some_iff.mp ahead
    obtain ⟨f, e, fraction, exponent, eq⟩ := passFraction_eq_ok more
    exact ⟨w, f, e, whole, fraction, exponent, congrArg _ eq⟩
  next =>
    obtain ⟨tail, rfl⟩ := List.head?_eq_some_iff.mp ahead
    obtain ⟨e, exponent, eq⟩ := passExponent_eq_ok (.inl rfl) more
    exact ⟨w, [], e, whole, .none, exponent, congrArg _ eq⟩
  next =>
    obtain ⟨tail, rfl⟩ := List.head?_eq_some_iff.mp ahead
    obtain ⟨e, exponent, eq⟩ := passExponent_eq_ok (.inr rfl) more
    exact ⟨w, [], e, whole, .none, exponent, congrArg _ eq⟩
  next =>
    obtain ⟨-, rfl⟩ := pure_eq_ok more
    exact ⟨w, [], [], whole, .none, .none, rfl⟩

/-! ## Numbers that are read -/

/-- A double is made without reading on. -/
theorem finishReal_eq_ok {negative : Bool} {significand : Nat} {exponent : Int} {x : Binary64}
    (h : finishReal negative significand exponent s = .ok x rest) : s = rest := by
  unfold finishReal at h
  cases result : scaled significand exponent with
  | none =>
    rw [result] at h
    nomatch h
  | some y =>
    rw [result] at h
    injection h

/-- What is read behind its mark is an exponent. -/
theorem readExponent_eq_ok {e : UInt8} {negative : Bool} {significand : Nat} {start : Int}
    {x : Binary64} (mark : e = 0x65 ∨ e = 0x45)
    (h : readExponent negative significand start (e :: s) = .ok x rest) :
    ∃ t, IsExponent t ∧ e :: s = t ++ rest := by
  unfold readExponent at h
  rw [bind_skip] at h
  obtain ⟨raising, mid, signed, more⟩ := bind_eq_ok h
  have signs : ∃ sign ∈ [[], [0x2B], [0x2D]], s = sign ++ mid := by
    obtain ⟨front, ahead, signed⟩ := peek_eq_ok signed
    rw [List.drop_succ_cons, List.drop_zero] at ahead signed
    split at signed
    next =>
      obtain ⟨tail, rfl⟩ := List.head?_eq_some_iff.mp ahead
      rw [bind_skip] at signed
      exact ⟨[0x2B], by decide, congrArg _ (pure_eq_ok signed).2⟩
    next =>
      obtain ⟨tail, rfl⟩ := List.head?_eq_some_iff.mp ahead
      rw [bind_skip] at signed
      exact ⟨[0x2D], by decide, congrArg _ (pure_eq_ok signed).2⟩
    next => exact ⟨[], by decide, (pure_eq_ok signed).2⟩
  obtain ⟨sign, mem, rfl⟩ := signs
  obtain ⟨front, ahead, more⟩ := peek_eq_ok more
  split at more
  next => nomatch more
  next d =>
    obtain ⟨tail, rfl⟩ := List.head?_eq_some_iff.mp ahead
    obtain ⟨-, more⟩ | ⟨digit, more⟩ := branch_eq_ok more
    · nomatch more
    · have digits := isDigits_takeWhile (by simpa using digit) tail
      have left : (d :: tail).dropWhile isDigitByte = rest := by
        dsimp only at more
        split at more
        next =>
          split at more
          next => nomatch more
          next =>
            injection more
        next => exact finishReal_eq_ok more
      refine ⟨_, .some mark mem digits, ?_⟩
      rw [← left, List.cons_append, List.append_assoc, List.takeWhile_append_dropWhile]

/-- What is read behind the digits of a double is an exponent, or nothing. -/
theorem readTail_eq_ok {negative : Bool} {significand : Nat} {exponent : Int} {x : Binary64}
    (h : readTail negative significand exponent s = .ok x rest) :
    ∃ e, IsExponent e ∧ s = e ++ rest := by
  unfold readTail at h
  obtain ⟨front, ahead, h⟩ := peek_eq_ok h
  split at h
  next =>
    obtain ⟨tail, rfl⟩ := List.head?_eq_some_iff.mp ahead
    exact readExponent_eq_ok (.inl rfl) h
  next =>
    obtain ⟨tail, rfl⟩ := List.head?_eq_some_iff.mp ahead
    exact readExponent_eq_ok (.inr rfl) h
  next => exact ⟨[], .none, finishReal_eq_ok h⟩

/-- What is read from the point on is a fraction, and an exponent behind it. -/
theorem readFraction_eq_ok {negative : Bool} {significand : Nat} {exponent : Int} {x : Binary64}
    (h : readFraction negative significand exponent (0x2E :: s) = .ok x rest) :
    ∃ f e, IsFraction f ∧ IsExponent e ∧ 0x2E :: s = f ++ (e ++ rest) := by
  unfold readFraction at h
  rw [bind_skip, bind_takeDigits] at h
  split at h
  next =>
    obtain ⟨front, _, h⟩ := peek_eq_ok h
    split at h
    next => nomatch h
    next => nomatch h
  next some =>
    obtain ⟨e, exponent, eq⟩ := readTail_eq_ok h
    refine ⟨_, e, isFraction_takeWhile some, exponent, ?_⟩
    rw [← eq, List.cons_append, List.takeWhile_append_dropWhile]
    rfl

/-- What is read behind the whole digits is a fraction and an exponent, either of them or neither.
-/
theorem finish_eq_ok {negative : Bool} {significand extra : Nat} {n : Number}
    (h : readNumberDigits.finish negative significand extra s = .ok n rest) :
    ∃ f e, IsFraction f ∧ IsExponent e ∧ s = f ++ (e ++ rest) := by
  unfold readNumberDigits.finish at h
  obtain ⟨front, ahead, h⟩ := peek_eq_ok h
  split at h
  next =>
    obtain ⟨tail, rfl⟩ := List.head?_eq_some_iff.mp ahead
    obtain ⟨x, mid, read, h⟩ := bind_eq_ok h
    obtain ⟨-, rfl⟩ := pure_eq_ok h
    exact readFraction_eq_ok read
  next =>
    obtain ⟨tail, rfl⟩ := List.head?_eq_some_iff.mp ahead
    obtain ⟨x, mid, read, h⟩ := bind_eq_ok h
    obtain ⟨-, rfl⟩ := pure_eq_ok h
    obtain ⟨e, exponent, eq⟩ := readExponent_eq_ok (.inl rfl) read
    exact ⟨[], e, .none, exponent, eq⟩
  next =>
    obtain ⟨tail, rfl⟩ := List.head?_eq_some_iff.mp ahead
    obtain ⟨x, mid, read, h⟩ := bind_eq_ok h
    obtain ⟨-, rfl⟩ := pure_eq_ok h
    obtain ⟨e, exponent, eq⟩ := readExponent_eq_ok (.inr rfl) read
    exact ⟨[], e, .none, exponent, eq⟩
  next =>
    have left : s = rest := by
      split at h
      next =>
        obtain ⟨x, mid, finished, h⟩ := bind_eq_ok h
        obtain ⟨-, rfl⟩ := pure_eq_ok h
        exact finishReal_eq_ok finished
      next =>
        split at h
        next => exact (pure_eq_ok h).2
        next =>
          split at h
          next => exact (pure_eq_ok h).2
          next => exact (pure_eq_ok h).2
    exact ⟨[], [], .none, .none, left⟩

/-- What is read of a number without its sign is spelled by the grammar. -/
theorem readNumberDigits_eq_ok {negative : Bool} {n : Number}
    (h : readNumberDigits negative s = .ok n rest) :
    ∃ w f e, IsWhole w ∧ IsFraction f ∧ IsExponent e ∧ s = w ++ (f ++ (e ++ rest)) := by
  unfold readNumberDigits at h
  obtain ⟨front, ahead, h⟩ := peek_eq_ok h
  split at h
  next => nomatch h
  next d =>
    obtain ⟨tail, rfl⟩ := List.head?_eq_some_iff.mp ahead
    split at h
    next => nomatch h
    next digit =>
      split at h
      next zero =>
        subst zero
        rw [bind_skip] at h
        have finished : readNumberDigits.finish negative 0 0 tail = .ok n rest := by
          obtain ⟨front, ahead, h⟩ := peek_eq_ok h
          split at h
          next =>
            split at h
            next => nomatch h
            next => exact h
          next => exact h
        obtain ⟨f, e, fraction, exponent, eq⟩ := finish_eq_ok finished
        exact ⟨_, f, e, .zero, fraction, exponent, congrArg _ eq⟩
      next nonzero =>
        rw [bind_takeDigits] at h
        obtain ⟨f, e, fraction, exponent, eq⟩ := finish_eq_ok h
        have first : isDigitByte d = true := by simpa using digit
        have digits := isDigits_takeWhile first tail
        refine ⟨(d :: tail).takeWhile isDigitByte, f, e, ?_, fraction, exponent, ?_⟩
        · rw [List.takeWhile_cons_of_pos first] at digits ⊢
          exact .digits digits nonzero
        · rw [← eq, List.takeWhile_append_dropWhile]

/-! ## Numbers as number texts -/

section Texts

open Text

/-- A byte that is a digit is that of a character. -/
theorem exists_digitChar {b : UInt8} (digit : isDigitByte b = true) :
    ∃ c, isDigit c = true ∧ UInt8.ofNat c.toNat = b := by
  simp only [isDigitByte, Bool.and_eq_true, decide_eq_true_eq, UInt8.le_iff_toNat_le] at digit
  have low : 48 ≤ b.toNat := digit.1
  have high : b.toNat ≤ 57 := digit.2
  have number : (Char.ofNat b.toNat).toNat = b.toNat := by
    rw [Char.ofNat, dif_pos (.inl (by omega))]
    rfl
  refine ⟨Char.ofNat b.toNat, isDigit_iff.mpr ?_, ?_⟩
  · rw [number]
    exact ⟨low, high⟩
  · rw [number, UInt8.ofNat_toNat]

/-- Digit bytes are digits as text. -/
theorem exists_digitChars {ds : Bytes} (digits : ∀ b ∈ ds, isDigitByte b = true) :
    ∃ cs, (∀ c ∈ cs, isDigit c = true) ∧ Utf8.encode cs = ds := by
  induction ds with
  | nil => exact ⟨[], fun _ none => (nomatch none), rfl⟩
  | cons b ds ih =>
    obtain ⟨first, others⟩ := List.forall_mem_cons.mp digits
    obtain ⟨c, digit, rfl⟩ := exists_digitChar first
    obtain ⟨cs, more, rfl⟩ := ih others
    exact ⟨c :: cs, List.forall_mem_cons.mpr ⟨digit, more⟩, encode_cons_of_isDigit digit cs⟩

/-- A whole part is the bytes of digits that do not start with a further zero. -/
theorem Grammar.IsWhole.exists_chars {w : Bytes} (whole : IsWhole w) :
    ∃ cs, cs ≠ [] ∧ (∀ c ∈ cs, isDigit c = true) ∧ (∀ more, cs = '0' :: more → more = []) ∧
      Utf8.encode cs = w := by
  cases whole with
  | zero =>
    refine ⟨['0'], List.cons_ne_nil _ _, forall_mem_of_all (by decide), ?_, by decide⟩
    intro more same
    exact (List.cons.inj same).2.symm
  | digits digits nonzero =>
    obtain ⟨cs, digit, written⟩ := exists_digitChars digits.2
    refine ⟨cs, ?_, digit, ?_, written⟩
    · rintro rfl
      nomatch written
    · rintro more rfl
      rw [encode_cons_of_isDigit (by decide)] at written
      exact absurd (List.cons.inj written).1.symm nonzero

/-- A fraction is the bytes of a point and digits. -/
theorem Grammar.IsFraction.exists_chars {f : Bytes} (fraction : IsFraction f) :
    ∃ cs, (∀ c ∈ cs, isDigit c = true) ∧
      Utf8.encode (if cs = [] then [] else '.' :: cs) = f := by
  cases fraction with
  | none => exact ⟨[], fun _ none => (nomatch none), rfl⟩
  | some digits =>
    obtain ⟨cs, digit, written⟩ := exists_digitChars digits.2
    refine ⟨cs, digit, ?_⟩
    have filled : cs ≠ [] := by
      rintro rfl
      exact digits.1 written.symm
    rw [if_neg filled, Utf8.encode_cons, written]
    rfl

/-- An exponent is the bytes of its text. -/
theorem Grammar.IsExponent.exists_text {e : Bytes} (exponent : IsExponent e) :
    ∃ x : Option ExponentText, Utf8.encode (x.elim [] ExponentText.chars) = e := by
  cases exponent with
  | none => exact ⟨Option.none, rfl⟩
  | @some m sign t mark signed digits =>
    obtain ⟨cs, digit, written⟩ := exists_digitChars digits.2
    have filled : cs ≠ [] := by
      rintro rfl
      exact digits.1 written.symm
    have signs : ∃ x : ExponentSign, Utf8.encode x.chars = sign := by
      simp only [List.mem_cons, List.not_mem_nil, or_false] at signed
      rcases signed with rfl | rfl | rfl
      · exact ⟨.none, rfl⟩
      · exact ⟨.plus, rfl⟩
      · exact ⟨.minus, rfl⟩
    obtain ⟨x, rfl⟩ := signs
    have text (upper : Bool) : Utf8.encode (ExponentText.chars ⟨upper, x, cs, filled, digit⟩) =
        (if upper then 0x45 else 0x65) :: (Utf8.encode x.chars ++ t) := by
      rw [ExponentText.chars, Utf8.encode_cons, Utf8.encode_append, written]
      cases upper <;> rfl
    rcases mark with rfl | rfl
    · exact ⟨Option.some ⟨false, x, cs, filled, digit⟩, text false⟩
    · exact ⟨Option.some ⟨true, x, cs, filled, digit⟩, text true⟩

/-- A number is written as a number text. -/
theorem Grammar.IsNumber.exists_numberText {token : Bytes} (number : IsNumber token) :
    ∃ t : NumberText, token = Utf8.encode t.chars := by
  obtain ⟨signed, whole, fraction, exponent⟩ := number
  obtain ⟨w, some, digit, zero, rfl⟩ := whole.exists_chars
  obtain ⟨f, digit', rfl⟩ := fraction.exists_chars
  obtain ⟨x, rfl⟩ := exponent.exists_text
  have text (negative : Bool) : Utf8.encode
      (NumberText.chars ⟨negative, w, f, x, some, digit, zero, digit'⟩) =
      Utf8.encode (if negative then ['-'] else []) ++ (Utf8.encode w ++
        (Utf8.encode (if f = [] then [] else '.' :: f) ++
          Utf8.encode (x.elim [] ExponentText.chars))) := by
    rw [NumberText.chars, NumberText.signChars, NumberText.tailChars, NumberText.fractionChars,
      NumberText.exponentChars, Utf8.encode_append, Utf8.encode_append, Utf8.encode_append]
  simp only [List.mem_cons, List.not_mem_nil, or_false] at signed
  rcases signed with rfl | rfl
  · exact ⟨⟨false, w, f, x, some, digit, zero, digit'⟩, (text false).symm⟩
  · exact ⟨⟨true, w, f, x, some, digit, zero, digit'⟩, (text true).symm⟩

end Texts

end MetricsHarness.Json
