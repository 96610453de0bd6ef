import Mathlib.Algebra.Ring.Nat
import MetricsHarness.Proofs.NumberTexts
import MetricsHarness.Proofs.Readers

/-!
# Numbers in a document

What the reader of a document makes of a number text (`NumberText.documentNumber`). An integer that
fits 64 bits is taken as it is. Any other number is a significand of at most 64 bits, scaled by a
power of ten; it is refused when that leaves the finite range.

While the digits fit into the significand and the exponent into its limit, which all numbers that
are written do, the significand has all digits and nothing is dropped (`documentReal_of_fits`). What
the two roundings of the scaling do to the number is another matter.
-/

namespace MetricsHarness

open Text Json

namespace Json

/-! ## Digits as bytes -/

/-- Digits are of one byte. -/
theorem toNat_lt_of_isDigit {c : Char} (h : isDigit c = true) : c.toNat < 0x80 :=
  forall_isDigit (p := fun c => c.toNat < 0x80) (by decide) h

theorem encode_cons_of_isDigit {c : Char} (h : isDigit c = true) (cs : List Char) :
    Utf8.encode (c :: cs) = UInt8.ofNat c.toNat :: Utf8.encode cs := by
  rw [Utf8.encode_cons, Utf8.encodeChar_of_lt (toNat_lt_of_isDigit h), List.singleton_append]

/-- The byte of a digit is a digit byte. -/
theorem isDigitByte_of_isDigit {c : Char} (h : isDigit c = true) :
    isDigitByte (UInt8.ofNat c.toNat) = true :=
  forall_isDigit (p := fun c => isDigitByte (UInt8.ofNat c.toNat) = true) (by decide) h

/-- What is a digit is none of the other bytes. -/
theorem some_ne_of_isDigitByte {b c : UInt8} (digit : isDigitByte b = true)
    (other : isDigitByte c = false) : some b = some c → False := fun same => by
  rw [Option.some.inj same, other] at digit
  cases digit

/-- A digit has the same value as a byte. -/
theorem digitOf_of_isDigit {c : Char} (h : isDigit c = true) :
    digitOf (UInt8.ofNat c.toNat) = c.toNat - '0'.toNat :=
  forall_isDigit (p := fun c => digitOf (UInt8.ofNat c.toNat) = c.toNat - '0'.toNat) (by decide) h

section Digits

variable {cs : List Char} (digits : ∀ c ∈ cs, isDigit c = true)
include digits

/-- The bytes of digits are digit bytes. -/
theorem isDigitByte_of_mem_encode : ∀ b ∈ Utf8.encode cs, isDigitByte b = true := by
  induction cs with
  | nil => exact fun _ none => by cases none
  | cons c more ih =>
    obtain ⟨first, others⟩ := List.forall_mem_cons.mp digits
    rw [encode_cons_of_isDigit first]
    exact List.forall_mem_cons.mpr ⟨isDigitByte_of_isDigit first, ih others⟩

/-- Digits are as many as their bytes. -/
theorem length_encode : (Utf8.encode cs).length = cs.length := by
  induction cs with
  | nil => rfl
  | cons c more ih =>
    obtain ⟨first, others⟩ := List.forall_mem_cons.mp digits
    rw [encode_cons_of_isDigit first, List.length_cons,
      ih others, List.length_cons]

/-- Digits are taken up to what is none. -/
theorem takeDigits_encode {rest : Bytes} (stop : ∀ b ∈ rest.head?, isDigitByte b = false) :
    takeDigits (Utf8.encode cs ++ rest) = .ok (Utf8.encode cs) rest := by
  obtain ⟨taken, left⟩ := takeWhile_dropWhile_append (isDigitByte_of_mem_encode digits) stop
  rw [takeDigits, taken, left]

/-- Digits have the same value as bytes. -/
theorem foldl_digitOf (acc : Nat) :
    (Utf8.encode cs).foldl (fun acc b => acc * 10 + digitOf b) acc =
      Nat.ofDigitChars 10 cs acc := by
  induction cs generalizing acc with
  | nil => rw [Nat.ofDigitChars_nil]; rfl
  | cons c more ih =>
    obtain ⟨first, others⟩ := List.forall_mem_cons.mp digits
    rw [encode_cons_of_isDigit first, List.foldl_cons,
      digitOf_of_isDigit first, ih others, Nat.ofDigitChars_cons, Nat.mul_comm]

/-- Digits that fit are all collected. -/
theorem collect_of_le {acc : Nat} (fits : Nat.ofDigitChars 10 cs acc ≤ nat64Greatest) :
    collect acc (Utf8.encode cs) = (Nat.ofDigitChars 10 cs acc, cs.length, 0) := by
  induction cs generalizing acc with
  | nil => rw [Nat.ofDigitChars_nil]; rfl
  | cons c more ih =>
    obtain ⟨first, others⟩ := List.forall_mem_cons.mp digits
    rw [Nat.ofDigitChars_cons, Nat.mul_comm 10 acc] at fits ⊢
    rw [encode_cons_of_isDigit first, collect,
      digitOf_of_isDigit first, if_pos (Nat.le_trans (le_ofDigitChars more _) fits), ih others fits]
    rfl

/-- Of digits that do not fit, some are left over, and those that were collected are as many as
would fit. -/
theorem collect_of_lt {acc : Nat} (small : acc ≤ nat64Greatest)
    (beyond : nat64Greatest < Nat.ofDigitChars 10 cs acc) :
    ∃ significand taken left, collect acc (Utf8.encode cs) = (significand, taken, left + 1) ∧
      significand ≤ nat64Greatest ∧ nat64Greatest < significand * 10 + 10 ∧
      significand * 10 ^ (left + 1) ≤ Nat.ofDigitChars 10 cs acc := by
  induction cs generalizing acc with
  | nil =>
    rw [Nat.ofDigitChars_nil] at beyond
    omega
  | cons c more ih =>
    obtain ⟨first, others⟩ := List.forall_mem_cons.mp digits
    rw [Nat.ofDigitChars_cons, Nat.mul_comm 10 acc] at beyond ⊢
    rw [encode_cons_of_isDigit first, collect,
      digitOf_of_isDigit first]
    by_cases fits : acc * 10 + (c.toNat - '0'.toNat) ≤ nat64Greatest
    · obtain ⟨significand, taken, left, collected, least, bounds⟩ := ih others fits beyond
      exact ⟨significand, taken + 1, left, by rw [if_pos fits, collected], least, bounds⟩
    · -- The first digit that does not fit is dropped, and so are all behind it.
      have digit : c.toNat - '0'.toNat < 10 := by
        have := (isDigit_iff.mp first).2
        show c.toNat - 48 < 10
        omega
      refine ⟨acc, 0, (Utf8.encode more).length, if_neg fits, small, by omega, ?_⟩
      have width : (Utf8.encode more).length = more.length := length_encode others
      rw [width, Nat.ofDigitChars_eq_ofDigitChars_zero, Nat.pow_succ]
      calc acc * (10 ^ more.length * 10) = 10 ^ more.length * (acc * 10) := Nat.mul_left_comm _ _ _
        _ ≤ 10 ^ more.length * (acc * 10 + (c.toNat - '0'.toNat)) :=
          Nat.mul_le_mul_left _ (Nat.le_add_right _ _)
        _ ≤ _ := Nat.le_add_right _ _

/-- An exponent within the limit is read to its end. -/
theorem exponentOverflow_of_le {acc : Nat} (fits : Nat.ofDigitChars 10 cs acc ≤ exponentLimit) :
    exponentOverflow acc (Utf8.encode cs) = none := by
  induction cs generalizing acc with
  | nil => rfl
  | cons c more ih =>
    obtain ⟨first, others⟩ := List.forall_mem_cons.mp digits
    rw [Nat.ofDigitChars_cons, Nat.mul_comm 10 acc] at fits
    rw [encode_cons_of_isDigit first, exponentOverflow,
      digitOf_of_isDigit first, if_pos (Nat.le_trans (le_ofDigitChars more _) fits), ih others fits]
    rfl

end Digits

end Json

/-! ## The number of a text -/

/-- A double with another sign. -/
def Binary64.withSign (x : Binary64) (negative : Bool) : Binary64 := { x with negative }

/-- A significand with the exponent of a text; none if it is refused. An exponent past its limit
makes zero of a number, or is refused. -/
def ExponentText.scaled (x : ExponentText) (significand : Nat) (start : Int) : Option Binary64 :=
  if (exponentOverflow 0 (Utf8.encode x.digits)).isSome then
    if significand ≠ 0 ∧ x.sign ≠ .minus then none else some (Binary64.zero false)
  else Json.scaled significand (clampExponent (start + x.value))

namespace NumberText

variable (t : NumberText)

/-- The significand that is collected from the digits before the point, and how many of these are
dropped. -/
def collected : Nat × Nat :=
  let (significand, _, dropped) := collect 0 (Utf8.encode t.whole)
  (significand, dropped)

/-- A significand and its exponent with the exponent of the text; none if it is refused. -/
def scaledTail (significand : Nat) (start : Int) : Option Binary64 :=
  t.exponent.elim (scaled significand start) (·.scaled significand start)

/-- A significand and its exponent with the fraction and the exponent of the text; none if it is
refused. -/
def scaledFrom (significand dropped : Nat) : Option Binary64 :=
  let (all, taken, _) := collect significand (Utf8.encode t.fraction)
  t.scaledTail all (dropped - taken)

/-- The double that a document's reader makes of the text; none if it is refused. -/
def documentReal : Option Binary64 :=
  (t.scaledFrom t.collected.1 t.collected.2).map (·.withSign t.negative)

/-- An integer of 64 bits that a document's reader makes of a significand. Minus zero is none. -/
def integerOf (negative : Bool) (significand : Nat) : Number :=
  if negative then
    if significand = 0 ∨ int64Least < significand then
      .real { Binary64.ofNat significand with negative := true }
    else .negative (-(significand : Int))
  else .natural significand

/-- The number that a document's reader makes of the text; none if it is refused. -/
def documentNumber : Option Number :=
  if t.isInteger ∧ t.collected.2 = 0 then some (integerOf t.negative t.collected.1)
  else t.documentReal.map .real

/-- Of an integer that fits, all digits are collected. -/
theorem documentNumber_of_integer (integer : t.isInteger = true)
    (fits : t.digits ≤ nat64Greatest) :
    t.documentNumber = some (integerOf t.negative t.digits) := by
  have whole := (t.whole_of_isInteger integer).2
  have collected : t.collected = (t.digits, 0) := by
    rw [NumberText.collected, collect_of_le t.whole_digit (whole ▸ fits), whole]
  rw [documentNumber, collected, if_pos ⟨integer, rfl⟩]

/-- Of an integer that does not fit, digits are dropped. -/
theorem collected_of_beyond (integer : t.isInteger = true) (beyond : nat64Greatest < t.digits) :
    ∃ significand left, t.collected = (significand, left + 1) ∧ significand ≤ nat64Greatest ∧
      nat64Greatest < significand * 10 + 10 ∧ significand * 10 ^ (left + 1) ≤ t.digits := by
  have whole := (t.whole_of_isInteger integer).2
  rw [← whole] at beyond ⊢
  obtain ⟨significand, taken, left, collected, bounds⟩ :=
    collect_of_lt t.whole_digit (Nat.zero_le _) beyond
  exact ⟨significand, left, by rw [NumberText.collected, collected], bounds⟩

/-- Only an integer that fits is an integer to the reader. -/
theorem documentNumber_of_real (h : t.isInteger = true → nat64Greatest < t.digits) :
    t.documentNumber = t.documentReal.map .real := by
  rw [documentNumber, if_neg]
  rintro ⟨integer, kept⟩
  obtain ⟨significand, left, collected, -⟩ := t.collected_of_beyond integer (h integer)
  rw [collected] at kept
  exact Nat.succ_ne_zero left kept

/-- Where the digits and the exponent fit, nothing is dropped. -/
theorem documentReal_of_fits (fits : t.digits ≤ nat64Greatest)
    (small : ∀ x ∈ t.exponent, x.number ≤ exponentLimit ∧ t.power.natAbs ≤ exponentLimit) :
    t.documentReal = (scaled t.digits t.power).map (·.withSign t.negative) := by
  have whole : Nat.ofDigitChars 10 t.whole 0 ≤ t.digits := by
    rw [digits, Nat.ofDigitChars_append]
    exact le_ofDigitChars _ _
  have collected : t.collected = (Nat.ofDigitChars 10 t.whole 0, 0) := by
    rw [NumberText.collected, collect_of_le t.whole_digit (Nat.le_trans whole fits)]
  have all : Nat.ofDigitChars 10 t.fraction (Nat.ofDigitChars 10 t.whole 0) = t.digits := by
    rw [digits, Nat.ofDigitChars_append]
  have scaledFrom : t.scaledFrom (Nat.ofDigitChars 10 t.whole 0) 0 =
      t.scaledTail t.digits (0 - t.fraction.length) := by
    rw [NumberText.scaledFrom, collect_of_le t.fraction_digit (all ▸ fits), all]
    rfl
  rw [documentReal, collected, scaledFrom]
  congr 1
  unfold scaledTail
  cases exponent : t.exponent with
  | none =>
    rw [power, raised, exponent]
    rfl
  | some x =>
    obtain ⟨number, near⟩ := small x exponent
    have counted : (exponentOverflow 0 (Utf8.encode x.digits)).isSome = false := by
      rw [exponentOverflow_of_le x.digits_digit number]
      rfl
    have power : (0 : Int) - t.fraction.length + x.value = t.power := by
      rw [NumberText.power, raised, exponent, Option.elim_some]
      omega
    have clamped : clampExponent t.power = t.power := by
      simp only [clampExponent, exponentLimit] at near ⊢
      omega
    rw [Option.elim_some, ExponentText.scaled, counted, power, clamped]
    rfl

end NumberText

namespace Json

/-! ## Reading -/

/-- A significand and its exponent make the scaled number, with the sign, or are refused. -/
theorem finishReal_is (negative : Bool) (significand : Nat) (exponent : Int) (rest : Bytes) :
    (finishReal negative significand exponent rest).Is
      ((scaled significand exponent).map (·.withSign negative)) rest := by
  unfold finishReal
  cases scaled significand exponent with
  | none => exact ⟨_, _, _, rfl⟩
  | some x => exact rfl

/-- No number goes on with what comes next. -/
def Stops (rest : Bytes) : Prop := ∀ b ∈ rest.head?,
  isDigitByte b = false ∧ b ≠ 0x2E ∧ b ≠ 0x65 ∧ b ≠ 0x45

/-- What may come after a value is no part of a number. -/
theorem Ends.stops {rest : Bytes} (ends : Ends rest) : Stops rest := by
  intro b mem
  rcases ends b mem with rfl | rfl | rfl <;> decide

/-- The sign of an exponent is read, and says whether the exponent raises. -/
theorem readSign (sign : ExponentSign) {b : UInt8} (digit : isDigitByte b = true) (s : Bytes) :
    (do
      match ← Reader.peek with
      | some 0x2B => do Reader.skip; return true
      | some 0x2D => do Reader.skip; return false
      | _ => return true : Reader Bool) (Utf8.encode sign.chars ++ b :: s) =
      .ok (sign != .minus) (b :: s) := by
  cases sign with
  | plus => rfl
  | minus => rfl
  | none =>
    have noPlus : some b = some 0x2B → False := some_ne_of_isDigitByte digit rfl
    have noMinus : some b = some 0x2D → False := some_ne_of_isDigitByte digit rfl
    have ahead : Reader.peek (b :: s) = .ok (some b) (b :: s) := rfl
    show (Reader.peek >>= _) (b :: s) = _
    rw [bind_eq ahead]
    simp only
    rfl

/-- An exponent is read up to its end. -/
theorem readExponent_is (x : ExponentText) (negative : Bool) (significand : Nat) (start : Int)
    {rest : Bytes} (stops : Stops rest) :
    (readExponent negative significand start (Utf8.encode x.chars ++ rest)).Is
      ((x.scaled significand start).map (·.withSign negative)) rest := by
  obtain ⟨c, more, eq, first⟩ := exists_digit x.digits_digit x.digits_some
  have digit := isDigitByte_of_isDigit first
  obtain ⟨taken, left⟩ := takeWhile_dropWhile_append (isDigitByte_of_mem_encode x.digits_digit)
    fun b mem => (stops b mem).1
  have number : digitsValue (Utf8.encode x.digits) = x.number := foldl_digitOf x.digits_digit 0
  have front : Utf8.encode x.digits ++ rest =
      UInt8.ofNat c.toNat :: (Utf8.encode more ++ rest) := by
    rw [eq, encode_cons_of_isDigit first, List.cons_append]
  have mark : Reader.skip (Utf8.encode x.chars ++ rest) =
      .ok () (Utf8.encode x.sign.chars ++ UInt8.ofNat c.toNat :: (Utf8.encode more ++ rest)) := by
    have one : Utf8.encodeChar x.mark = [UInt8.ofNat x.mark.toNat] := by
      refine Utf8.encodeChar_of_lt ?_
      rcases NumberText.mark_cases x with mark | mark <;> rw [mark] <;> decide
    rw [ExponentText.chars, Utf8.encode_cons, Utf8.encode_append, one, ← front,
      List.append_assoc, List.append_assoc]
    rfl
  have ahead : Reader.peek (UInt8.ofNat c.toNat :: (Utf8.encode more ++ rest)) =
      .ok (some (UInt8.ofNat c.toNat)) (UInt8.ofNat c.toNat :: (Utf8.encode more ++ rest)) := rfl
  unfold readExponent
  rw [bind_eq mark]
  refine Reading.Is.bind_ok (readSign x.sign digit _) ?_
  rw [bind_eq ahead]
  refine Reading.Is.branch_neg (by rw [digit]; exact Bool.false_ne_true) ?_
  dsimp only
  rw [← front, taken, left, number]
  unfold ExponentText.scaled
  cases exponentOverflow 0 (Utf8.encode x.digits) with
  | none =>
    have value : (if (x.sign != .minus) = true then start + (x.number : Int)
        else start - (x.number : Int)) = start + x.value := by
      unfold ExponentText.value
      cases x.sign <;> rfl
    dsimp only
    rw [value]
    exact finishReal_is _ _ _ _
  | some used =>
    simp only [Option.isSome_some, if_true, bne_iff_ne]
    split
    · exact ⟨_, _, _, rfl⟩
    · exact rfl

theorem peek_of_head {s : Bytes} {o : Option UInt8} (head : s.head? = o) :
    Reader.peek s = .ok o s := by
  rw [Reader.peek, head]

/-- An exponent begins with its mark. -/
theorem head_exponent (x : ExponentText) (rest : Bytes) :
    (Utf8.encode x.chars ++ rest).head? = some (UInt8.ofNat x.mark.toNat) := by
  refine Utf8.head_encode_cons ?_ _ rest
  rcases NumberText.mark_cases x with mark | mark <;> rw [mark] <;> decide

/-- Digits that nothing follows are an integer, if none of them is dropped. -/
theorem finish_of_stops {rest : Bytes} (stops : Stops rest) (negative : Bool)
    (significand dropped : Nat) :
    (readNumberDigits.finish negative significand dropped rest).Is
      (if dropped = 0 then some (NumberText.integerOf negative significand)
        else ((scaled significand dropped).map (·.withSign negative)).map .real) rest := by
  have point : rest.head? = some 0x2E → False := fun same => (stops _ same).2.1 rfl
  have lower : rest.head? = some 0x65 → False := fun same => (stops _ same).2.2.1 rfl
  have upper : rest.head? = some 0x45 → False := fun same => (stops _ same).2.2.2 rfl
  unfold readNumberDigits.finish
  rw [bind_eq (peek_of_head rfl)]
  simp only
  by_cases zero : dropped = 0
  · rw [if_pos zero]
    refine Reading.Is.branch_neg (not_not_intro zero) ?_
    unfold NumberText.integerOf
    cases negative with
    | false => exact rfl
    | true =>
      refine Reading.Is.branch_neg Bool.false_ne_true ?_
      rw [if_pos rfl]
      by_cases wide : significand = 0 ∨ int64Least < significand
      · rw [if_pos wide, if_pos wide]
        exact Reading.Is.of_pure _ _
      · rw [if_neg wide, if_neg wide]
        exact Reading.Is.of_pure _ _
  · rw [if_neg zero]
    exact Reading.Is.branch_pos zero (Reading.Is.map (finishReal_is _ _ _ _))

/-- Digits before an exponent are a number that is scaled. -/
theorem finish_of_exponent {rest : Bytes} (stops : Stops rest) (x : ExponentText) (negative : Bool)
    (significand dropped : Nat) :
    (readNumberDigits.finish negative significand dropped (Utf8.encode x.chars ++ rest)).Is
      (((x.scaled significand dropped).map (·.withSign negative)).map .real) rest := by
  have read := readExponent_is x negative significand dropped stops
  unfold readNumberDigits.finish
  rw [bind_eq (peek_of_head (head_exponent x rest))]
  rcases NumberText.mark_cases x with mark | mark <;> rw [mark] <;> exact Reading.Is.map read

variable (t : NumberText) {rest : Bytes} (stops : Stops rest)
include stops

/-- Before an exponent or the end there is no digit. -/
theorem exponent_stop : ∀ b ∈ (Utf8.encode t.exponentChars ++ rest).head?,
    isDigitByte b = false := by
  intro b mem
  unfold NumberText.exponentChars at mem
  cases exponent : t.exponent with
  | none =>
    rw [exponent] at mem
    exact (stops b mem).1
  | some x =>
    rw [exponent, Option.elim_some, head_exponent] at mem
    rw [← Option.some.inj mem]
    rcases NumberText.mark_cases x with mark | mark <;> rw [mark] <;> decide

/-- Behind the whole digits there is no digit. -/
theorem tail_stop : ∀ b ∈ (Utf8.encode t.tailChars ++ rest).head?, isDigitByte b = false := by
  unfold NumberText.tailChars NumberText.fractionChars
  by_cases empty : t.fraction = []
  · rw [if_pos empty]
    exact exponent_stop t stops
  · intro b mem
    rw [if_neg empty, List.cons_append, Utf8.head_encode_cons (by decide)] at mem
    rw [← Option.some.inj mem]
    decide

/-- What may follow the digits of a double is read. -/
theorem readTail_is (negative : Bool) (significand : Nat) (start : Int) :
    (readTail negative significand start (Utf8.encode t.exponentChars ++ rest)).Is
      ((t.scaledTail significand start).map (·.withSign negative)) rest := by
  unfold NumberText.exponentChars NumberText.scaledTail
  cases t.exponent with
  | none =>
    have lower : rest.head? = some 0x65 → False := fun same => (stops _ same).2.2.1 rfl
    have upper : rest.head? = some 0x45 → False := fun same => (stops _ same).2.2.2 rfl
    show (readTail negative significand start rest).Is _ _
    unfold readTail
    rw [bind_eq (peek_of_head rfl)]
    simp only
    exact finishReal_is _ _ _ _
  | some x =>
    have exponent := readExponent_is x negative significand start stops
    have front := head_exponent x rest
    show (readTail negative significand start (Utf8.encode x.chars ++ rest)).Is _ _
    unfold readTail
    rw [bind_eq (peek_of_head front)]
    rcases NumberText.mark_cases x with mark | mark <;> rw [mark] <;> exact exponent

/-- A fraction is read, and an exponent behind it. -/
theorem readFraction_is (some : t.fraction ≠ []) (negative : Bool) (significand dropped : Nat) :
    (readFraction negative significand dropped (Utf8.encode t.tailChars ++ rest)).Is
      ((t.scaledFrom significand dropped).map (·.withSign negative)) rest := by
  have point : Reader.skip (Utf8.encode t.tailChars ++ rest) =
      .ok () (Utf8.encode t.fraction ++ (Utf8.encode t.exponentChars ++ rest)) := by
    rw [NumberText.tailChars, NumberText.fractionChars, if_neg some, List.cons_append,
      Utf8.encode_cons, Utf8.encode_append, List.append_assoc, List.append_assoc]
    rfl
  have digits := takeDigits_encode t.fraction_digit (exponent_stop t stops)
  have filled : ¬ (Utf8.encode t.fraction).isEmpty = true := by
    rw [List.isEmpty_iff_length_eq_zero, length_encode t.fraction_digit, List.length_eq_zero_iff]
    exact some
  unfold readFraction
  rw [bind_eq point, bind_eq digits]
  refine Reading.Is.branch_neg filled ?_
  exact readTail_is t stops _ _ _

/-- What follows the whole digits is read, and decides between an integer and a double. -/
theorem finish_is (negative : Bool) (significand dropped : Nat) :
    (readNumberDigits.finish negative significand dropped (Utf8.encode t.tailChars ++ rest)).Is
      (if t.isInteger ∧ dropped = 0 then some (NumberText.integerOf negative significand)
        else ((t.scaledFrom significand dropped).map (·.withSign negative)).map .real) rest := by
  by_cases empty : t.fraction = []
  · have tail : t.tailChars = t.exponentChars := by
      rw [NumberText.tailChars, NumberText.fractionChars, if_pos empty, List.nil_append]
    have all : t.scaledFrom significand dropped = t.scaledTail significand dropped := by
      rw [NumberText.scaledFrom, empty]
      show t.scaledTail significand ((dropped : Int) - 0) = _
      rw [Int.sub_zero]
    rw [tail, all]
    cases exponent : t.exponent with
    | none =>
      have integer : t.isInteger = true := t.isInteger_iff.mpr ⟨empty, exponent⟩
      have text : Utf8.encode t.exponentChars ++ rest = rest := by
        rw [NumberText.exponentChars, exponent]
        rfl
      have ended := finish_of_stops stops negative significand dropped
      rw [text, NumberText.scaledTail, exponent, integer]
      simp only [true_and]
      exact ended
    | some x =>
      have real : ¬ (t.isInteger = true ∧ dropped = 0) := fun both => by
        have none := (t.isInteger_iff.mp both.1).2
        rw [exponent] at none
        cases none
      have text : t.exponentChars = x.chars := by
        rw [NumberText.exponentChars, exponent]
        rfl
      rw [if_neg real, text, NumberText.scaledTail, exponent]
      exact finish_of_exponent stops x negative significand dropped
  · have fraction := readFraction_is t stops empty negative significand dropped
    have real : ¬ (t.isInteger = true ∧ dropped = 0) := fun both =>
      empty (t.isInteger_iff.mp both.1).1
    have front : (Utf8.encode t.tailChars ++ rest).head? = some 0x2E := by
      rw [NumberText.tailChars, NumberText.fractionChars, if_neg empty, List.cons_append,
        Utf8.head_encode_cons (by decide)]
      rfl
    unfold readNumberDigits.finish
    rw [if_neg real, bind_eq (peek_of_head front)]
    exact Reading.Is.map fraction

/-- The digits of a number text are read, and all that follows them. -/
theorem readNumberDigits_is :
    (readNumberDigits t.negative (Utf8.encode (t.whole ++ t.tailChars) ++ rest)).Is
      t.documentNumber rest := by
  obtain ⟨c, more, eq, first⟩ := exists_digit t.whole_digit t.whole_some
  have digit := isDigitByte_of_isDigit first
  have finish : (readNumberDigits.finish t.negative t.collected.1 t.collected.2
      (Utf8.encode t.tailChars ++ rest)).Is t.documentNumber rest := finish_is t stops _ _ _
  have front : (Utf8.encode (t.whole ++ t.tailChars) ++ rest).head? =
      some (UInt8.ofNat c.toNat) := by
    rw [eq, List.cons_append, encode_cons_of_isDigit first]
    rfl
  unfold readNumberDigits
  rw [bind_eq (peek_of_head front)]
  refine Reading.Is.branch_neg (by rw [digit]; exact Bool.false_ne_true) ?_
  by_cases zero : c = '0'
  · -- A leading zero stands alone.
    have alone : t.whole = ['0'] := by
      rw [zero] at eq
      rw [eq, t.whole_zero more eq]
    have collected : t.collected = (0, 0) := by
      rw [NumberText.collected, alone]
      rfl
    have after : Reader.skip (Utf8.encode (t.whole ++ t.tailChars) ++ rest) =
        .ok () (Utf8.encode t.tailChars ++ rest) := by
      rw [alone]
      rfl
    rw [collected] at finish
    refine Reading.Is.branch_pos (by rw [zero]; rfl) ?_
    rw [bind_eq after, bind_eq (peek_of_head rfl)]
    cases ahead : (Utf8.encode t.tailChars ++ rest).head? with
    | none => exact finish
    | some b =>
      have other := tail_stop t stops b ahead
      exact Reading.Is.branch_neg (by rw [other]; exact Bool.false_ne_true) finish
  · have some : UInt8.ofNat c.toNat ≠ 0x30 := forall_isDigit
      (p := fun c => c ≠ '0' → UInt8.ofNat c.toNat ≠ 0x30) (by decide) first zero
    have digits := takeDigits_encode t.whole_digit (tail_stop t stops)
    rw [← List.append_assoc, ← Utf8.encode_append] at digits
    refine Reading.Is.branch_neg some ?_
    rw [bind_eq digits]
    exact finish

/-- **A number text is read as its number.** -/
theorem reads_number : (readNumber (Utf8.encode t.chars ++ rest)).Is t.documentNumber rest := by
  have digits := readNumberDigits_is t stops
  unfold readNumber
  cases sign : t.negative with
  | true =>
    rw [sign] at digits
    rw [t.chars_of_negative sign]
    exact Reading.Is.bind_ok (peek_of_head rfl) (Reading.Is.bind_ok (a := ()) rfl digits)
  | false =>
    rw [sign] at digits
    rw [t.chars_of_not_negative sign]
    obtain ⟨c, more, eq, first⟩ := t.exists_unsigned
    have front : (Utf8.encode (t.whole ++ t.tailChars) ++ rest).head? =
        some (UInt8.ofNat c.toNat) := by
      rw [eq, encode_cons_of_isDigit first]
      rfl
    have noMinus : some (UInt8.ofNat c.toNat) = some 0x2D → False :=
      some_ne_of_isDigitByte (isDigitByte_of_isDigit first) rfl
    rw [bind_eq (peek_of_head front)]
    simp only
    exact digits

end Json

end MetricsHarness
