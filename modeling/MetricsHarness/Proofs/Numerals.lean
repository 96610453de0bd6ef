import Mathlib.Data.Nat.Basic
import MetricsHarness.Text.Numeral

/-!
# Numerals read back

Reading the numeral of a number gives the number. A text of digits is worth `Nat.ofDigitChars 10`
of it, in whichever way it is read: all at once (`value?_of_digits`) or digit by digit up to a limit
(`readBounded_of_le`, `readBounded_of_lt`). So an integer of 64 bits survives being written and
read, and the numeral of any other is refused (`readInt64_signedNumeralChars`).
-/

namespace MetricsHarness.Text

/-! ## Digits -/

/-- The digits stand next to each other. -/
theorem isDigit_iff {c : Char} : isDigit c = true ↔ 48 ≤ c.toNat ∧ c.toNat ≤ 57 := by
  rw [isDigit, Bool.and_eq_true, decide_eq_true_iff, decide_eq_true_iff]
  rfl

/-- What holds of a range of numbers holds of the characters in it. -/
theorem forall_between {p : Char → Prop} {least count : Nat}
    (all : ∀ n < count, p (Char.ofNat (least + n))) {c : Char} (low : least ≤ c.toNat)
    (high : c.toNat < least + count) : p c := by
  have inside := all (c.toNat - least) (by omega)
  rwa [Nat.add_sub_cancel' low, Char.ofNat_toNat] at inside

/-- What holds of the ten digits holds of every digit. -/
theorem forall_isDigit {p : Char → Prop} (all : ∀ n < 10, p (Char.ofNat (48 + n))) {c : Char}
    (digit : isDigit c = true) : p c := by
  obtain ⟨least, greatest⟩ := isDigit_iff.mp digit
  exact forall_between all least (by omega)

/-- What holds of the capital letters of ASCII holds of each of them. -/
theorem forall_capital {p : Char → Prop} (all : ∀ n < 26, p (Char.ofNat (65 + n))) {c : Char}
    (capital : 65 ≤ c.toNat ∧ c.toNat ≤ 90) : p c :=
  forall_between all capital.1 (by omega)

/-- The elements of a list have what is decided of one after the other. -/
theorem forall_mem_of_all {α : Type} {p : α → Prop} [DecidablePred p] {l : List α}
    (all : (l.all fun a => decide (p a)) = true) : ∀ a ∈ l, p a :=
  fun a mem => of_decide_eq_true (List.all_eq_true.mp all a mem)

theorem exists_digit {cs : List Char} (digits : ∀ c ∈ cs, isDigit c = true) (some : cs ≠ []) :
    ∃ c rest, cs = c :: rest ∧ isDigit c = true := by
  obtain ⟨c, rest, rfl⟩ := List.exists_cons_of_ne_nil some
  exact ⟨c, rest, rfl, digits c List.mem_cons_self⟩

/-- A digit counts from zero on. -/
theorem digitValue?_of_isDigit {c : Char} (h : isDigit c = true) :
    digitValue? 10 c = some (c.toNat - '0'.toNat) := by
  obtain ⟨least, greatest⟩ := isDigit_iff.mp h
  have range : '0' ≤ c ∧ c ≤ '9' := ⟨least, greatest⟩
  have zero : '0'.toNat = 48 := rfl
  rw [digitValue?, if_pos range]
  exact if_pos (by omega)

/-- Nothing else counts. -/
theorem digitValue?_of_not_isDigit {c : Char} (h : isDigit c = false) :
    digitValue? 10 c = none := by
  have range : ¬ ('0' ≤ c ∧ c ≤ '9') := fun ⟨least, greatest⟩ =>
    Bool.false_ne_true (h.symm.trans (isDigit_iff.mpr ⟨least, greatest⟩))
  rw [digitValue?, if_neg range]
  refine if_neg ?_
  split_ifs <;> omega

/-- What is in a class is taken up to what is not. -/
theorem takeWhile_dropWhile_append {α : Type} {p : α → Bool} {as rest : List α}
    (inside : ∀ a ∈ as, p a = true) (stop : ∀ a ∈ rest.head?, p a = false) :
    (as ++ rest).takeWhile p = as ∧ (as ++ rest).dropWhile p = rest := by
  rw [List.takeWhile_append_of_pos inside, List.dropWhile_append_of_pos inside]
  cases rest with
  | nil => exact ⟨List.append_nil _, rfl⟩
  | cons a more =>
    have other : ¬ p a = true := by
      rw [stop a rfl]
      exact Bool.false_ne_true
    rw [List.takeWhile_cons_of_neg other, List.dropWhile_cons_of_neg other, List.append_nil]
    exact ⟨rfl, rfl⟩

/-- Digits are worth their number, most significant first. -/
theorem digitsValue?_of_digits {cs : List Char} (digits : ∀ c ∈ cs, isDigit c = true) (acc : Nat) :
    digitsValue? 10 acc cs = some (Nat.ofDigitChars 10 cs acc) := by
  induction cs generalizing acc with
  | nil => rw [digitsValue?, Nat.ofDigitChars_nil]
  | cons c rest ih =>
    obtain ⟨first, others⟩ := List.forall_mem_cons.mp digits
    rw [digitsValue?, digitValue?_of_isDigit first, Nat.ofDigitChars_cons, Nat.mul_comm 10 acc]
    exact ih others _

/-- Digits have a value. -/
theorem value?_of_digits {cs : List Char} (digits : ∀ c ∈ cs, isDigit c = true) (some : cs ≠ []) :
    value? 10 cs = Option.some (Nat.ofDigitChars 10 cs 0) := by
  rw [value?, if_neg (by rwa [List.isEmpty_iff]), digitsValue?_of_digits digits]

/-- With anything else among them there is no value. -/
theorem value?_of_mem {c : Char} {cs : List Char} (mem : c ∈ cs) (other : isDigit c = false) :
    value? 10 cs = none := by
  have none (acc : Nat) : digitsValue? 10 acc cs = none := by
    induction cs generalizing acc with
    | nil => cases mem
    | cons d rest ih =>
      rw [digitsValue?]
      split
      · rfl
      · next v found =>
        rcases List.mem_cons.mp mem with rfl | later
        · rw [digitValue?_of_not_isDigit other] at found
          cases found
        · exact ih later _
  rw [value?]
  split
  · rfl
  · exact none 0

/-! ## Numerals -/

/-- A numeral consists of digits. -/
theorem isDigit_of_mem_numeralChars {n : Nat} {c : Char} (h : c ∈ numeralChars n) :
    isDigit c = true :=
  Nat.isDigit_of_mem_toDigits (by decide) (by decide) h

/-- A numeral has a digit. -/
theorem numeralChars_ne_nil (n : Nat) : numeralChars n ≠ [] := Nat.toDigits_ne_nil

/-- A numeral gives its number back. -/
theorem ofDigitChars_numeralChars (n : Nat) : Nat.ofDigitChars 10 (numeralChars n) 0 = n :=
  Nat.ofDigitChars_ten_toDigits

/-- Different numbers have different numerals. -/
theorem numeralChars_inj {n m : Nat} : numeralChars n = numeralChars m ↔ n = m := by
  constructor
  · intro same
    rw [← ofDigitChars_numeralChars n, same, ofDigitChars_numeralChars]
  · exact congrArg numeralChars

/-- A written integer is written for one integer only. -/
theorem signedNumeralChars_inj {i j : Int} :
    signedNumeralChars i = signedNumeralChars j ↔ i = j := by
  have minus (n m : Nat) : numeralChars n ≠ '-' :: numeralChars m := by
    intro same
    have digit : isDigit '-' = true := isDigit_of_mem_numeralChars (same ▸ List.mem_cons_self)
    exact absurd digit (by decide)
  constructor
  · intro same
    cases i with
    | ofNat n =>
      cases j with
      | ofNat m => exact congrArg Int.ofNat (numeralChars_inj.mp same)
      | negSucc m => exact absurd same (minus n (m + 1))
    | negSucc n =>
      cases j with
      | ofNat m => exact absurd same.symm (minus m (n + 1))
      | negSucc m =>
        have digits := numeralChars_inj.mp (List.cons.inj same).2
        exact congrArg Int.negSucc (Nat.succ.inj digits)
  · exact congrArg signedNumeralChars

/-- A numeral begins with a digit, which is zero only in the numeral of zero. -/
theorem exists_numeralChars_cons (n : Nat) :
    ∃ c rest, numeralChars n = c :: rest ∧ isDigit c = true ∧ (c = '0' → n = 0) := by
  induction n using Nat.strongRecOn with
  | ind n ih =>
    rcases Nat.lt_or_ge n 10 with one | more
    · refine ⟨n.digitChar, [], Nat.toDigits_of_lt_base one, ?_, Nat.digitChar_eq_zero.mp⟩
      exact Nat.isDigit_digitChar.trans (decide_eq_true one)
    · obtain ⟨c, rest, eq, digit, zero⟩ := ih (n / 10) (by omega)
      refine ⟨c, rest ++ [(n % 10).digitChar], ?_, digit, fun h => by have := zero h; omega⟩
      rw [numeralChars, Nat.toDigits_of_base_le (by decide) more]
      exact congrArg (· ++ _) eq

/-! ## Reading up to a limit -/

/-- Further digits never make a number less. -/
theorem le_ofDigitChars (cs : List Char) (acc : Nat) : acc ≤ Nat.ofDigitChars 10 cs acc := by
  rw [Nat.ofDigitChars_eq_ofDigitChars_zero]
  have := Nat.le_mul_of_pos_left acc (Nat.pow_pos (n := cs.length) (show 0 < 10 by decide))
  omega

/-- Digits within the limit are read. -/
theorem readBounded_of_le {limit : Nat} {beyond : IntegerFault} {cs : List Char}
    (digits : ∀ c ∈ cs, isDigit c = true) {acc : Nat} (h : Nat.ofDigitChars 10 cs acc ≤ limit) :
    readBounded 10 limit beyond acc cs = .ok (Nat.ofDigitChars 10 cs acc) := by
  induction cs generalizing acc with
  | nil => rw [readBounded, Nat.ofDigitChars_nil]
  | cons c rest ih =>
    obtain ⟨first, others⟩ := List.forall_mem_cons.mp digits
    rw [Nat.ofDigitChars_cons, Nat.mul_comm 10 acc] at h ⊢
    rw [readBounded, digitValue?_of_isDigit first]
    dsimp only
    rw [if_pos (Nat.le_trans (le_ofDigitChars rest _) h)]
    exact ih others h

/-- Digits beyond the limit are refused. -/
theorem readBounded_of_lt {limit : Nat} {beyond : IntegerFault} {cs : List Char}
    (digits : ∀ c ∈ cs, isDigit c = true) {acc : Nat} (start : acc ≤ limit)
    (h : limit < Nat.ofDigitChars 10 cs acc) :
    readBounded 10 limit beyond acc cs = .error beyond := by
  induction cs generalizing acc with
  | nil =>
    rw [Nat.ofDigitChars_nil] at h
    omega
  | cons c rest ih =>
    obtain ⟨first, others⟩ := List.forall_mem_cons.mp digits
    rw [Nat.ofDigitChars_cons, Nat.mul_comm 10 acc] at h
    rw [readBounded, digitValue?_of_isDigit first]
    dsimp only
    split
    · next within => exact ih others within h
    · rfl

/-- A character that is no digit is refused, if the limit has not been passed before. -/
theorem readBounded_of_mem {limit : Nat} {beyond : IntegerFault} {c : Char} {cs : List Char}
    (mem : c ∈ cs) (other : isDigit c = false) (acc : Nat) :
    (readBounded 10 limit beyond acc cs).toOption = none := by
  induction cs generalizing acc with
  | nil => cases mem
  | cons d rest ih =>
    rw [readBounded]
    split
    · rfl
    · next v found =>
      split
      · rcases List.mem_cons.mp mem with rfl | later
        · rw [digitValue?_of_not_isDigit other] at found
          cases found
        · exact ih later _
      · rfl

/-- A numeral is read if its number is within the limit. -/
theorem readBounded_numeralChars (limit : Nat) (beyond : IntegerFault) (n : Nat) :
    readBounded 10 limit beyond 0 (numeralChars n) =
      if n ≤ limit then .ok n else .error beyond := by
  have digits : ∀ c ∈ numeralChars n, isDigit c = true := fun _ => isDigit_of_mem_numeralChars
  have number := ofDigitChars_numeralChars n
  split
  · next within => rw [readBounded_of_le digits (number.symm ▸ within), number]
  · next past => exact readBounded_of_lt digits (Nat.zero_le _) (by omega)

/-- A digit is different from what is none. -/
theorem ne_of_isDigit {c d : Char} (digit : isDigit c = true) (other : isDigit d = false) :
    c ≠ d := fun same => Bool.false_ne_true (other.symm.trans (same ▸ digit))

theorem cons_ne_of_isDigit {c d : Char} (digit : isDigit c = true) (other : isDigit d = false)
    {cs ds : List Char} : c :: cs = d :: ds → False := fun same =>
  ne_of_isDigit digit other (List.cons.inj same).1

/-- From a digit on a number is read that is not negative. -/
theorem readInteger_of_isDigit {radix least greatest : Nat} {c : Char} {rest : List Char}
    (digit : isDigit c = true) : readInteger radix least greatest (c :: rest) =
      (readBounded radix greatest .tooLarge 0 (c :: rest)).map Int.ofNat := by
  unfold readInteger
  split
  · next eq => cases eq
  · next eq => exact (cons_ne_of_isDigit digit rfl eq).elim
  · next eq => exact (cons_ne_of_isDigit digit rfl eq).elim
  · next eq => exact (cons_ne_of_isDigit digit rfl eq).elim
  · next eq => exact (cons_ne_of_isDigit digit rfl eq).elim
  · rfl

/-- Behind a minus a negative number is read. -/
theorem readInteger_minus {radix least greatest : Nat} {digits : List Char} (some : digits ≠ []) :
    readInteger radix least greatest ('-' :: digits) =
      (readBounded radix least .tooSmall 0 digits).map fun n => -Int.ofNat n := by
  cases digits with
  | nil => exact absurd rfl some
  | cons c rest => rfl

/-- Written and read, an integer is the same if it has 64 bits, and is refused otherwise. -/
theorem readInt64_signedNumeralChars (i : Int) : readInt64 (signedNumeralChars i) =
    if i < -int64Least then .error .tooSmall
    else if int64Greatest < i then .error .tooLarge
    else .ok i := by
  have least : int64Least = 9223372036854775808 := rfl
  have greatest : int64Greatest = 9223372036854775807 := rfl
  cases i with
  | ofNat n =>
    obtain ⟨c, rest, eq, digit, -⟩ := exists_numeralChars_cons n
    have bounded := readBounded_numeralChars int64Greatest .tooLarge n
    rw [eq] at bounded
    rw [readInt64, signedNumeralChars, eq, readInteger_of_isDigit digit, bounded]
    simp only [Int.ofNat_eq_natCast]
    split_ifs <;> first | rfl | omega
  | negSucc n =>
    rw [readInt64, signedNumeralChars, readInteger_minus (numeralChars_ne_nil _),
      readBounded_numeralChars]
    simp only [Int.negSucc_eq]
    split_ifs <;> first | rfl | omega

end MetricsHarness.Text
