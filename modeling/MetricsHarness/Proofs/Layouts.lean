import Mathlib.Data.List.TakeWhile
import MetricsHarness.Binary64.Layout
import MetricsHarness.Proofs.NumberTexts
import MetricsHarness.Proofs.Shortest

/-!
# Layouts write number texts

Whatever its decisions, a layout writes a finite double as a number text (`exists_writes`). The
digits it writes are the shortest ones, with zeros it may add or drop at their end, and the power of
ten makes up for these zeros. So what is read from the text is the double.
-/

namespace MetricsHarness

open Text

/-- A number text writes digits times a power of ten, possibly with zeros behind the digits. -/
structure NumberText.Writes (t : NumberText) (cs : List Char) (digits : Nat) (exponent : Int)
    (zeros : Nat) : Prop where
  chars : t.chars = t.signChars ++ cs
  digits : t.digits = digits * 10 ^ zeros
  power : exponent = t.power + zeros

/-- Without an exponent, a number text writes its digits, the point before those of the fraction. -/
theorem NumberText.writes_of_positional {t : NumberText} {cs : List Char} {digits zeros : Nat}
    {exponent : Int} (positional : t.exponent = none) (chars : cs = t.whole ++ t.fractionChars)
    (value : t.digits = digits * 10 ^ zeros) (power : exponent = zeros - t.fraction.length) :
    t.Writes cs digits exponent zeros where
  chars := by
    rw [NumberText.chars, tailChars, exponentChars, positional, chars]
    exact congrArg _ (congrArg _ (List.append_nil _))
  digits := value
  power := by
    rw [NumberText.power, raised, positional, power]
    exact (by omega : (zeros : Int) - t.fraction.length = 0 - t.fraction.length + zeros)

/-- The zeros do not count. -/
theorem NumberText.Writes.ofDecimal {t : NumberText} {cs : List Char} {digits : Nat}
    {exponent : Int} {zeros : Nat} (h : t.Writes cs digits exponent zeros) (negative : Bool) :
    Binary64.ofDecimal negative t.digits t.power =
      Binary64.ofDecimal negative digits exponent := by
  rw [h.digits, Binary64.ofDecimal_mul_pow, ← h.power]

namespace Binary64

/-! ## Zeros at the end -/

/-- The zeros at the end are dropped, and the exponent makes up for them. -/
theorem dropZeros_cons {c : Char} (first : c ≠ '0') (rest : List Char) (e : Int) :
    ∃ more k, c :: rest = c :: more ++ List.replicate k '0' ∧
      dropZeros (c :: rest) e = (c :: more, e + k) := by
  obtain ⟨cs, whole⟩ : ∃ cs, cs = c :: rest := ⟨_, rfl⟩
  obtain ⟨tail, hTail⟩ : ∃ tail, tail = cs.reverse.takeWhile (· == '0') := ⟨_, rfl⟩
  obtain ⟨kept, hKept⟩ : ∃ kept, kept = cs.reverse.dropWhile (· == '0') := ⟨_, rfl⟩
  have zeros : tail = List.replicate tail.length '0' := by
    refine List.eq_replicate_iff.mpr ⟨rfl, fun d mem => ?_⟩
    rw [hTail] at mem
    exact eq_of_beq (List.mem_takeWhile_imp (p := (· == '0')) mem)
  have split : cs = kept.reverse ++ List.replicate tail.length '0' := by
    rw [← List.reverse_replicate, ← zeros, ← List.reverse_append, hTail, hKept,
      List.takeWhile_append_dropWhile, List.reverse_reverse]
  have dropped : dropZeros cs e = (kept.reverse, e + tail.length) := by
    rw [dropZeros, ← hTail]
    congr 1
    conv => lhs; rw [split]
    rw [List.take_left' (by simp)]
  cases front : kept.reverse with
  | nil =>
    -- All digits would be zeros, the first among them.
    rw [front, List.nil_append, whole] at split
    exact absurd (List.eq_of_mem_replicate (split ▸ List.mem_cons_self)) first
  | cons d more =>
    rw [front, whole, List.cons_append] at split
    obtain ⟨rfl, eq⟩ := List.cons.inj split
    rw [front, whole] at dropped
    exact ⟨more, tail.length, by rw [eq]; rfl, dropped⟩

/-! ## Forms -/

/-- A number text without an exponent that writes digits times a power of ten. After a whole number
it may show a zero behind the point. -/
def WrittenOut (negative pointZero : Bool) (ds : List Char) (e : Int) (cs : List Char) : Prop :=
  ∃ (t : NumberText) (zeros : Nat), t.negative = negative ∧ t.exponent = none ∧
    (pointZero = true → t.fraction ≠ []) ∧ zeros ≤ e.toNat + 1 ∧
    t.Writes cs (Nat.ofDigitChars 10 ds 0) e zeros

theorem isDigit_of_mem_zeros {n : Nat} {c : Char} (h : c ∈ List.replicate n '0') :
    isDigit c = true := by
  rw [List.eq_of_mem_replicate h]
  decide

section Forms

variable {ds : List Char} (some : ds ≠ []) (digits : ∀ c ∈ ds, isDigit c = true)
include some digits

/-- Zeros after the digits, and perhaps one behind the point. -/
theorem writtenOut_zeros_after (negative pointZero : Bool) (n : Nat)
    (lead : ∀ rest, ds = '0' :: rest → rest = [] ∧ n = 0) :
    WrittenOut negative pointZero ds n
      (ds ++ List.replicate n '0' ++ if pointZero then ['.', '0'] else []) := by
  have leadWhole : ∀ rest, ds ++ List.replicate n '0' = '0' :: rest → rest = [] :=
    fun rest eq => by
      obtain ⟨c, more, rfl⟩ := List.exists_cons_of_ne_nil some
      obtain ⟨rfl, rfl⟩ := List.cons.inj eq
      obtain ⟨rfl, rfl⟩ := lead _ rfl
      rfl
  refine ⟨{
    negative
    whole := ds ++ List.replicate n '0'
    fraction := if pointZero then ['0'] else []
    exponent := none
    whole_some := fun none => some (List.append_eq_nil_iff.mp none).1
    whole_digit := fun c mem => (List.mem_append.mp mem).elim (digits c) isDigit_of_mem_zeros
    whole_zero := leadWhole
    fraction_digit := fun c mem => by
      cases pointZero with
      | false => cases mem
      | true => exact isDigit_of_mem_zeros (n := 1) mem },
    if pointZero then n + 1 else n, rfl, rfl, ?_, ?_, NumberText.writes_of_positional rfl ?_ ?_ ?_⟩
  · rintro rfl
    exact List.cons_ne_nil _ _
  · cases pointZero <;> simp
  · cases pointZero <;> rfl
  · cases pointZero with
    | false =>
      simp only [NumberText.digits, Bool.false_eq_true, if_false, List.append_nil]
      rw [Nat.ofDigitChars_append, Nat.ofDigitChars_replicate_zero, Nat.mul_comm]
    | true =>
      simp only [NumberText.digits, if_true]
      rw [Nat.ofDigitChars_append, Nat.ofDigitChars_append, Nat.ofDigitChars_replicate_zero,
        show ['0'] = List.replicate 1 '0' from rfl, Nat.ofDigitChars_replicate_zero]
      ring
  · cases pointZero <;> simp

omit some in
/-- The point among the digits. -/
theorem writtenOut_point_within (negative pointZero : Bool) {n : Nat} (pos : 0 < n)
    (within : n < ds.length) (lead : ∀ rest, ds ≠ '0' :: rest) :
    WrittenOut negative pointZero ds (-n)
      (ds.take (ds.length - n) ++ '.' :: ds.drop (ds.length - n)) := by
  have count : (ds.drop (ds.length - n)).length = n := by
    rw [List.length_drop]
    omega
  have some : ds.drop (ds.length - n) ≠ [] := List.ne_nil_of_length_pos (by rwa [count])
  refine ⟨{
    negative
    whole := ds.take (ds.length - n)
    fraction := ds.drop (ds.length - n)
    exponent := none
    whole_some := List.ne_nil_of_length_pos (by rw [List.length_take]; omega)
    whole_digit := fun c mem => digits c (List.mem_of_mem_take mem)
    whole_zero := fun rest eq => ?_
    fraction_digit := fun c mem => digits c (List.mem_of_mem_drop mem) },
    0, rfl, rfl, fun _ => some, Nat.zero_le _, NumberText.writes_of_positional rfl ?_ ?_ ?_⟩
  · refine absurd ?_ (lead (rest ++ ds.drop (ds.length - n)))
    rw [← List.cons_append, ← eq, List.take_append_drop]
  · rw [NumberText.fractionChars, if_neg some]
  · rw [NumberText.digits, List.take_append_drop, Nat.pow_zero, Nat.mul_one]
  · rw [count]
    omega

/-- Zeros before the digits, all behind the point. -/
theorem writtenOut_zeros_before (negative pointZero : Bool) {n : Nat} (beyond : ds.length ≤ n) :
    WrittenOut negative pointZero ds (-n)
      ('0' :: '.' :: (List.replicate (n - ds.length) '0' ++ ds)) := by
  have behind : List.replicate (n - ds.length) '0' ++ ds ≠ [] :=
    fun none => some (List.append_eq_nil_iff.mp none).2
  refine ⟨{
    negative
    whole := ['0']
    fraction := List.replicate (n - ds.length) '0' ++ ds
    exponent := none
    whole_some := List.cons_ne_nil _ _
    whole_digit := fun c => isDigit_of_mem_zeros (n := 1)
    whole_zero := fun rest eq => (List.cons.inj eq).2.symm
    fraction_digit := fun c mem =>
      (List.mem_append.mp mem).elim isDigit_of_mem_zeros (digits c) },
    0, rfl, rfl, fun _ => behind, Nat.zero_le _, NumberText.writes_of_positional rfl ?_ ?_ ?_⟩
  · rw [NumberText.fractionChars, if_neg behind]
    rfl
  · rw [NumberText.digits, Nat.ofDigitChars_append, Nat.ofDigitChars_append,
      Nat.ofDigitChars_replicate_zero, Nat.pow_zero, Nat.mul_one]
    congr 1
  · rw [List.length_append, List.length_replicate]
    omega

/-- Digits in positional form are a number text. A leading zero is allowed to zero alone. -/
theorem writtenOut_positionalChars (negative pointZero : Bool) {e : Int}
    (lead : ∀ rest, ds = '0' :: rest → rest = [] ∧ e = 0) :
    WrittenOut negative pointZero ds e (positionalChars pointZero ds e) := by
  unfold positionalChars
  by_cases whole : 0 ≤ e
  · obtain ⟨n, rfl⟩ := Int.eq_ofNat_of_zero_le whole
    rw [if_pos whole, Int.toNat_natCast]
    refine writtenOut_zeros_after some digits negative pointZero n fun rest eq => ?_
    obtain ⟨alone, zero⟩ := lead rest eq
    exact ⟨alone, Int.natCast_eq_zero.mp zero⟩
  · obtain ⟨n, rfl⟩ : ∃ n : Nat, e = -(n : Int) := ⟨(-e).toNat, by omega⟩
    have leadSome : ∀ rest, ds ≠ '0' :: rest := fun rest eq => by
      have := (lead rest eq).2
      omega
    rw [if_neg whole, neg_neg, Int.toNat_natCast]
    dsimp only
    split
    · next within =>
      exact writtenOut_point_within digits negative pointZero (by omega) within leadSome
    · next beyond =>
      exact writtenOut_zeros_before some digits negative pointZero (Nat.le_of_not_lt beyond)

/-- Digits in scientific form are a number text. -/
theorem exists_scientific (negative plusExponent : Bool) (e : Int)
    (lead : ∀ rest, ds ≠ '0' :: rest) : ∃ t : NumberText, t.negative = negative ∧
      t.exponent = Option.some (.ofInt plusExponent (e + ds.length - 1)) ∧
      t.Writes (scientificChars plusExponent ds e) (Nat.ofDigitChars 10 ds 0) e 0 := by
  obtain ⟨d, more, rfl⟩ := List.exists_cons_of_ne_nil some
  refine ⟨{
    negative
    whole := [d]
    fraction := more
    exponent := Option.some (.ofInt plusExponent (e + (d :: more).length - 1))
    whole_some := List.cons_ne_nil _ _
    whole_digit := fun c mem => digits c (List.mem_singleton.mp mem ▸ List.mem_cons_self)
    whole_zero := fun rest eq => (List.cons.inj eq).2.symm
    fraction_digit := fun c mem => digits c (List.mem_cons_of_mem _ mem) }, rfl, rfl, ?_, ?_, ?_⟩
  · rw [NumberText.chars, NumberText.tailChars, NumberText.exponentChars, Option.elim_some,
      ExponentText.chars_ofInt, NumberText.fractionChars]
    cases more with
    | nil => rfl
    | cons c rest => rfl
  · rw [NumberText.digits, Nat.pow_zero, Nat.mul_one]
    rfl
  · rw [NumberText.power, NumberText.raised, Option.elim_some, ExponentText.value_ofInt,
      List.length_cons]
    push_cast
    ring

end Forms

/-! ## Doubles -/

/-- The digits that a layout keeps of a decimal begin with one that is not zero. -/
theorem exists_kept {d : Digits} (pos : 0 < d.digits) : ∃ c more k, c ≠ '0' ∧
    dropZeros (numeralChars d.digits) d.exponent = (c :: more, d.exponent + (k : Nat)) ∧
    (∀ b ∈ c :: more, isDigit b = true) ∧
    d.digits = Nat.ofDigitChars 10 (c :: more) 0 * 10 ^ k ∧
    (c :: more).length + k = digitCount d.digits := by
  obtain ⟨c, rest, eq, -, zero⟩ := exists_numeralChars_cons d.digits
  have first : c ≠ '0' := fun absurd => Nat.ne_of_gt pos (zero absurd)
  obtain ⟨more, k, split, kept⟩ := dropZeros_cons first rest d.exponent
  have all : numeralChars d.digits = c :: more ++ List.replicate k '0' := eq.trans split
  refine ⟨c, more, k, first, by rw [eq, kept], fun b mem => ?_, ?_, ?_⟩
  · exact isDigit_of_mem_numeralChars (all ▸ List.mem_append_left _ mem)
  · have number := ofDigitChars_numeralChars d.digits
    rw [all, Nat.ofDigitChars_append, Nat.ofDigitChars_replicate_zero, Nat.mul_comm] at number
    exact number.symm
  · rw [digitCount, all, List.length_append, List.length_replicate]

/-- What is kept has no more digits than the decimal, less its zeros. -/
theorem kept_lt {n kept k len : Nat} (split : n = kept * 10 ^ k) (count : len + k = digitCount n) :
    kept < 10 ^ len := by
  have below := lt_ten_pow_digitCount n
  rw [← count, pow_add, split] at below
  exact Nat.lt_of_mul_lt_mul_right below

/-- With its first digit at most at 10 to the power 16, what is kept is still small when it is
written out, and with a zero behind it. -/
theorem writtenOut_le {kept len : Nat} {e : Int} (below : kept < 10 ^ len) (most : kept ≤ 10 ^ 17)
    (leading : e + len - 1 ≤ 16) : kept * 10 ^ (e.toNat + 1) ≤ 10 ^ 18 := by
  rcases Int.le_total e 0 with before | behind
  · rw [Int.toNat_of_nonpos before]
    omega
  · calc kept * 10 ^ (e.toNat + 1) ≤ 10 ^ len * 10 ^ (e.toNat + 1) :=
          Nat.mul_le_mul_right _ below.le
      _ = 10 ^ (len + (e.toNat + 1)) := (pow_add _ _ _).symm
      _ ≤ 10 ^ 18 := Nat.pow_le_pow_right (by decide) (by omega)

/-- The exponent of a decimal that reads back is one that doubles have. -/
theorem exponent_of_readsBack {n : Nat} {d : Digits} (pos : 0 < n) (finite : n < infinityOrdinal)
    (h : readsBack n d = true) :
    -(400 + (d.digits.log2 : Int)) ≤ d.exponent ∧ d.exponent ≤ 310 := by
  have same : (ofDecimal false d.digits d.exponent).ordinal.val = n := eq_of_beq h
  unfold ofDecimal at same
  split_ifs at same with none great small
  · exact absurd same (Nat.ne_of_lt pos)
  · exact absurd same (Nat.ne_of_gt finite)
  · exact absurd same (Nat.ne_of_lt pos)
  · omega

/-- A number text is what a layout writes for a double, and is worth the double. Its parts are
small, if the layout does not write too many zeros. -/
structure Layout.Writes (l : Layout) (t : NumberText) (x : Binary64) : Prop where
  chars : l.chars x = t.chars
  negative : t.negative = x.negative
  value : ∀ negative, ofDecimal negative t.digits t.power = ofOrdinal negative x.ordinal
  marked : l.pointZero = true → t.isInteger = false
  digits_le : ∀ least greatest, l.positional = some (least, greatest) → greatest ≤ 16 →
    t.digits ≤ 10 ^ 18
  exponent_le : ∀ e ∈ t.exponent, e.number ≤ 1000 ∧ t.power.natAbs ≤ 1000

theorem Layout.chars_of_isFinite (l : Layout) {x : Binary64} (finite : x.isFinite = true) :
    l.chars x = (if x.negative then ['-'] else []) ++
      (if x.isZero then positionalChars l.pointZero ['0'] 0 else l.magnitude x.ordinal) := by
  rw [Layout.chars, if_pos finite]

section Written

variable {l : Layout} {x : Binary64} {cs ds : List Char} {e : Int}
  (chars : l.chars x = (if x.negative then ['-'] else []) ++ cs)
  (value : ∀ negative, ofDecimal negative (Nat.ofDigitChars 10 ds 0) e =
    ofOrdinal negative x.ordinal)
include chars value

theorem exists_writes_of_writtenOut (written : WrittenOut x.negative l.pointZero ds e cs)
    (small : ∀ least greatest, l.positional = some (least, greatest) → greatest ≤ 16 →
      Nat.ofDigitChars 10 ds 0 * 10 ^ (e.toNat + 1) ≤ 10 ^ 18) : ∃ t, l.Writes t x := by
  obtain ⟨t, zeros, sign, positional, marked, few, writes⟩ := written
  refine ⟨t, ?_, sign, fun negative => ?_, fun shown => ?_, fun least greatest range under => ?_,
    ?_⟩
  · rw [chars, writes.chars, NumberText.signChars, sign]
  · rw [writes.ofDecimal, value]
  · rw [NumberText.isInteger, List.isEmpty_eq_false_iff.mpr (marked shown), Bool.false_and]
  · rw [writes.digits]
    exact (Nat.mul_le_mul_left _ (Nat.pow_le_pow_right (by decide) few)).trans
      (small least greatest range under)
  · rw [positional]
    exact fun _ none => by cases none

theorem exists_writes_of_scientific {plusExponent : Bool}
    (written : ∃ t : NumberText, t.negative = x.negative ∧
      t.exponent = some (.ofInt plusExponent (e + ds.length - 1)) ∧
      t.Writes cs (Nat.ofDigitChars 10 ds 0) e 0)
    (digits : Nat.ofDigitChars 10 ds 0 ≤ 10 ^ 18)
    (near : (e + ds.length - 1).natAbs ≤ 1000 ∧ e.natAbs ≤ 1000) : ∃ t, l.Writes t x := by
  obtain ⟨t, sign, exponent, writes⟩ := written
  refine ⟨t, ?_, sign, fun negative => ?_, fun _ => ?_, fun _ _ _ _ => ?_, fun shown mem => ?_⟩
  · rw [chars, writes.chars, NumberText.signChars, sign]
  · rw [writes.ofDecimal, value]
  · rw [NumberText.isInteger, exponent, Option.isNone_some, Bool.and_false]
  · rwa [writes.digits, Nat.pow_zero, Nat.mul_one]
  · rw [exponent] at mem
    have power := writes.power
    rw [← Option.some.inj mem, ExponentText.number_ofInt]
    exact ⟨near.1, by omega⟩

end Written

theorem exists_writes_of_pos (l : Layout) {x : Binary64} (finite : x.isFinite = true)
    (pos : 0 < x.ordinal.val) : ∃ t, l.Writes t x := by
  have below : x.ordinal.val < infinityOrdinal := of_decide_eq_true finite
  have some : x.isZero = false := beq_eq_false_iff_ne.mpr (Nat.ne_of_gt pos)
  obtain ⟨d, hd⟩ : ∃ d, d = shortest l.tie x.ordinal.val := ⟨_, rfl⟩
  have readsBack : readsBack x.ordinal.val d = true := hd ▸ shortest_readsBack l.tie pos below
  have posDigits : 0 < d.digits := hd ▸ shortest_pos l.tie pos below
  have most : d.digits ≤ 10 ^ 17 := hd ▸ shortest_le l.tie pos below
  obtain ⟨least, greatest⟩ := exponent_of_readsBack pos below readsBack
  obtain ⟨c, more, k, first, kept, digits, split, count⟩ := exists_kept posDigits
  have chars := l.chars_of_isFinite finite
  rw [some, Layout.magnitude, ← hd] at chars
  simp only [Bool.false_eq_true, if_false, kept] at chars
  obtain ⟨D, hD⟩ : ∃ D, D = Nat.ofDigitChars 10 (c :: more) 0 := ⟨_, rfl⟩
  obtain ⟨e, he⟩ : ∃ e, e = d.exponent + k := ⟨_, rfl⟩
  rw [← he] at chars
  rw [← hD] at split
  have value : ∀ negative, ofDecimal negative (Nat.ofDigitChars 10 (c :: more) 0) e =
      ofOrdinal negative x.ordinal := fun negative => by
    rw [← hD, he, ← ofDecimal_mul_pow, ← split, ofDecimal_of_readsBack readsBack]
  -- The sizes of what is kept.
  have digitCount_le : digitCount d.digits ≤ 18 :=
    (Nat.length_toDigits_le_iff (by decide) (by decide)).mpr (lt_of_le_of_lt most (by decide))
  have log : d.digits.log2 ≤ 57 := by
    rw [← Nat.lt_succ_iff, Nat.log2_lt (Nat.ne_of_gt posDigits)]
    exact lt_of_le_of_lt most (by decide)
  have keptLe : D ≤ d.digits := split ▸ Nat.le_mul_of_pos_right D (Nat.pow_pos (by decide))
  have keptLt : D < 10 ^ (c :: more).length := kept_lt split count
  have lead : ∀ rest, c :: more ≠ '0' :: rest := fun rest eq => first (List.cons.inj eq).1
  have positional := writtenOut_positionalChars (List.cons_ne_nil c more) digits x.negative
    l.pointZero (e := e) fun rest eq => absurd eq (lead rest)
  cases range : l.positional with
  | none =>
    rw [range] at chars
    refine exists_writes_of_writtenOut chars value positional fun _ _ bounds => ?_
    rw [range] at bounds
    cases bounds
  | some bounds =>
    obtain ⟨low, high⟩ := bounds
    simp only [range] at chars
    obtain ⟨leading, hLeading⟩ : ∃ y, y = e + ((c :: more).length : Int) - 1 := ⟨_, rfl⟩
    rw [← hLeading] at chars
    by_cases within : (decide (low ≤ leading) && decide (leading ≤ high)) = true
    · rw [if_pos within] at chars
      refine exists_writes_of_writtenOut chars value positional fun _ _ same under => ?_
      rw [range] at same
      cases same
      have top : leading ≤ high := of_decide_eq_true (Bool.and_eq_true_iff.mp within).2
      rw [← hD]
      exact writtenOut_le keptLt (keptLe.trans most) (hLeading ▸ top.trans under)
    · rw [if_neg within] at chars
      refine exists_writes_of_scientific chars value
        (exists_scientific (List.cons_ne_nil c more) digits _ _ _ lead) ?_ (by omega)
      rw [← hD]
      omega

/-- A layout writes a finite double as a number text. -/
theorem exists_writes (l : Layout) {x : Binary64} (finite : x.isFinite = true) :
    ∃ t, l.Writes t x := by
  rcases Nat.eq_zero_or_pos x.ordinal.val with zero | pos
  · have chars := l.chars_of_isFinite finite
    have isZero : x.isZero = true := beq_iff_eq.mpr zero
    rw [isZero, if_pos rfl] at chars
    refine exists_writes_of_writtenOut chars (fun negative => ?_)
      (writtenOut_positionalChars (List.cons_ne_nil _ _) (fun c => isDigit_of_mem_zeros (n := 1))
        _ _ fun rest eq => ⟨(List.cons.inj eq).2.symm, rfl⟩) fun _ _ _ _ => by decide
    rw [zero]
    rfl
  · exact exists_writes_of_pos l finite pos

end Binary64

end MetricsHarness
