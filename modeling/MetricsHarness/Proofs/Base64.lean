import Mathlib.Data.List.Forall2
import Mathlib.Data.Nat.Bitwise
import MetricsHarness.Proofs.Utf8
import MetricsHarness.Text.Base64

/-!
# Base64 and the bits of a body

Standard Base64 is told by its bits (`Base64.IsStandard`): the bits of the bytes and less than a
digit of zeros are cut into digits of six, which stand at their place in the alphabet, and equals
signs fill up the last four. What is encoded has this form, a body has one text of this form, and
the texts of this form are the ones that are decoded, each to its body (`decode?_eq_some_iff`). So
nothing is lost for any length, and no quote is in such a text.
-/

namespace MetricsHarness.Text

/-! ## Bits -/

/-- The lowest bits of a number, the highest of them first. -/
def bits (width n : Nat) : List Bool := (List.range width).reverse.map n.testBit

@[simp] theorem length_bits (width n : Nat) : (bits width n).length = width := by simp [bits]

/-- The highest bit stands first. -/
theorem bits_succ (width n : Nat) : bits (width + 1) n = n.testBit width :: bits width n := by
  simp [bits, List.range_succ]

/-- Bits behind bits are the bits of one number. -/
theorem bits_append (high low : Nat) {n m : Nat} (small : m < 2 ^ low) :
    bits high n ++ bits low m = bits (high + low) (n * 2 ^ low + m) := by
  induction high with
  | zero =>
    rw [Nat.zero_add]
    refine List.map_congr_left fun i mem => ?_
    have inside : i < low := by simpa using mem
    rw [Nat.mul_comm, Nat.testBit_two_pow_mul_add n small, if_pos inside]
  | succ high ih =>
    have above : (n * 2 ^ low + m).testBit (high + low) = n.testBit high := by
      rw [Nat.mul_comm, Nat.testBit_two_pow_mul_add n small, if_neg (by omega),
        Nat.add_sub_cancel]
    rw [Nat.succ_add, bits_succ, bits_succ, above, List.cons_append, ih]

/-- A number below a power of two is known by its bits. -/
theorem bits_inj {width n m : Nat} (small : n < 2 ^ width) (small' : m < 2 ^ width)
    (same : bits width n = bits width m) : n = m := by
  refine Nat.eq_of_testBit_eq fun i => ?_
  by_cases inside : i < width
  · exact List.map_inj_left.mp same i (by simpa using inside)
  · have beyond : 2 ^ width ≤ 2 ^ i := Nat.pow_le_pow_right (by decide) (Nat.le_of_not_lt inside)
    rw [Nat.testBit_lt_two_pow (small.trans_le beyond),
      Nat.testBit_lt_two_pow (small'.trans_le beyond)]

/-- The bits of bytes, the highest of each first. -/
def byteBits (body : Bytes) : List Bool := body.flatMap fun b => bits 8 b.toNat

/-- A body has eight bits for each byte. -/
@[simp] theorem length_byteBits (body : Bytes) : (byteBits body).length = body.length * 8 := by
  simp [byteBits, List.length_flatMap]

namespace Base64

/-! ## Digits -/

/-- The digits in the order of their values. -/
def alphabet : List Char :=
  "ABCDEFGHIJKLMNOPQRSTUVWXYZabcdefghijklmnopqrstuvwxyz0123456789+/".toList

/-- The alphabet lists the digits in their order. -/
theorem alphabet_digit : ∀ n < 64, alphabet[n]? = some (digit n) := by decide

/-- A digit has its number as value. -/
theorem digitValue?_digit : ∀ n < 64, digitValue? (digit n) = some n := by decide

/-- No digit is the filling character or a quote. -/
theorem digit_ne : ∀ n < 64, digit n ≠ '=' ∧ digit n ≠ '\x27' := by decide

/-- What has a value is the digit of that value. -/
theorem digitValue?_spec : ∀ m < 128, ∀ n ∈ digitValue? (Char.ofNat m),
    n < 64 ∧ digit n = Char.ofNat m := by
  decide

/-- Only digits have a value. -/
theorem of_digitValue? {c : Char} {n : Nat} (value : digitValue? c = some n) :
    n < 64 ∧ digit n = c := by
  have ascii : c.toNat < 128 := by
    have bound {d : Char} (most : c ≤ d) : c.toNat ≤ d.toNat := most
    unfold digitValue? at value
    split_ifs at value with upper lower number plus slash
    · exact (bound upper.2).trans_lt (by decide)
    · exact (bound lower.2).trans_lt (by decide)
    · exact (bound number.2).trans_lt (by decide)
    · exact plus ▸ (by decide)
    · exact slash ▸ (by decide)
  have spec := digitValue?_spec c.toNat ascii n
  rw [Char.ofNat_toNat] at spec
  exact spec value

/-! ## The form of a text -/

/-- A text is the standard Base64 of a body. -/
inductive IsStandard : List Char → Bytes → Prop
  | intro {digits : List Char} {values : List Nat} {body : Bytes} {fill padding : Nat}
      (spelled : List.Forall₂ (fun c v => alphabet[v]? = some c) digits values)
      (same : values.flatMap (bits 6) = byteBits body ++ List.replicate fill false)
      (fewer : fill < 6) (whole : 4 ∣ digits.length + padding) (least : padding < 4) :
      IsStandard (digits ++ List.replicate padding '=') body

/-- Digits of some values stand at their places in the alphabet. -/
theorem spelled_iff {digits : List Char} {values : List Nat} :
    List.Forall₂ (fun c v => alphabet[v]? = some c) digits values ↔
      (∀ v ∈ values, v < 64) ∧ digits = values.map digit := by
  constructor
  · intro spelled
    induction spelled with
    | nil => simp
    | @cons c v digits values head _ ih =>
      have small : v < 64 := (List.getElem?_eq_some_iff.mp head).1
      rw [alphabet_digit v small] at head
      exact ⟨List.forall_mem_cons.mpr ⟨small, ih.1⟩, by simp [← ih.2, Option.some.inj head]⟩
  · rintro ⟨small, rfl⟩
    refine List.forall₂_map_left_iff.mpr (List.forall₂_same.mpr fun v mem => ?_)
    exact alphabet_digit v (small v mem)

/-- Each digit stands for six bits. -/
theorem length_flatMap_bits (values : List Nat) :
    (values.flatMap (bits 6)).length = values.length * 6 := by
  simp [List.length_flatMap]

/-- Different digits stand for different bits. -/
theorem flatMap_bits_inj {values values' : List Nat} (small : ∀ v ∈ values, v < 64)
    (small' : ∀ v ∈ values', v < 64) (same : values.flatMap (bits 6) = values'.flatMap (bits 6)) :
    values = values' := by
  induction values generalizing values' with
  | nil =>
    cases values' with
    | nil => rfl
    | cons w values' => simp [bits_succ] at same
  | cons v values ih =>
    cases values' with
    | nil => simp [bits_succ] at same
    | cons w values' =>
      obtain ⟨head, others⟩ := List.forall_mem_cons.mp small
      obtain ⟨head', others'⟩ := List.forall_mem_cons.mp small'
      rw [List.flatMap_cons, List.flatMap_cons] at same
      obtain ⟨first, rest⟩ := List.append_inj same (by simp)
      rw [bits_inj head head' first, ih others others' rest]

/-- A body has one text. -/
theorem IsStandard.unique {text text' : List Char} {body : Bytes} (standard : IsStandard text body)
    (standard' : IsStandard text' body) : text = text' := by
  obtain @⟨_, values, _, fill, padding, spelled, same, fewer, whole, least⟩ := standard
  obtain @⟨_, values', _, fill', padding', spelled', same', fewer', whole', least'⟩ := standard'
  obtain ⟨small, rfl⟩ := spelled_iff.mp spelled
  obtain ⟨small', rfl⟩ := spelled_iff.mp spelled'
  have count := congrArg List.length same
  have count' := congrArg List.length same'
  simp only [length_flatMap_bits, List.length_append, length_byteBits,
    List.length_replicate] at count count'
  rw [List.length_map] at whole whole'
  -- Less than a digit of zeros and less than four equals signs leave no choice.
  obtain rfl : fill = fill' := by omega
  obtain rfl : padding = padding' := by omega
  rw [flatMap_bits_inj small small' (same.trans same'.symm)]

/-- Four digits hold the bits of three bytes. -/
theorem bits_three (a b c : UInt8) :
    bits 6 (a.toNat / 4) ++ bits 6 (a.toNat % 4 * 16 + b.toNat / 16) ++
      bits 6 (b.toNat % 16 * 4 + c.toNat / 64) ++ bits 6 (c.toNat % 64) =
    bits 8 a.toNat ++ bits 8 b.toNat ++ bits 8 c.toNat := by
  have bound (b : UInt8) : b.toNat < 256 := b.toNat_lt
  have first := bound a
  have second := bound b
  have third := bound c
  rw [bits_append 6 6 (by omega), bits_append 12 6 (by omega), bits_append 18 6 (by omega),
    bits_append 8 8 (by omega), bits_append 16 8 (by omega)]
  congr 1
  omega

/-- Three digits hold the bits of two bytes, and two more that are zero. -/
theorem bits_two (a b : UInt8) :
    bits 6 (a.toNat / 4) ++ bits 6 (a.toNat % 4 * 16 + b.toNat / 16) ++
      bits 6 (b.toNat % 16 * 4) = bits 8 a.toNat ++ bits 8 b.toNat ++ List.replicate 2 false := by
  have zeros : List.replicate 2 false = bits 2 0 := by decide
  have bound (b : UInt8) : b.toNat < 256 := b.toNat_lt
  have first := bound a
  have second := bound b
  rw [zeros, bits_append 6 6 (by omega), bits_append 12 6 (by omega), bits_append 8 8 (by omega),
    bits_append 16 2 (by omega)]
  congr 1
  omega

/-- Two digits hold the bits of one byte, and four more that are zero. -/
theorem bits_one (a : UInt8) :
    bits 6 (a.toNat / 4) ++ bits 6 (a.toNat % 4 * 16) =
      bits 8 a.toNat ++ List.replicate 4 false := by
  have zeros : List.replicate 4 false = bits 4 0 := by decide
  have first : a.toNat < 256 := a.toNat_lt
  rw [zeros, bits_append 6 6 (by omega), bits_append 8 4 (by omega)]
  congr 1
  omega

/-- Digits that hold the bits of a body, filled up to a multiple of four, are its encoding. -/
theorem isStandard_of_values {values : List Nat} {body : Bytes} {fill padding : Nat}
    (small : ∀ v ∈ values, v < 64)
    (same : values.flatMap (bits 6) = byteBits body ++ List.replicate fill false)
    (fewer : fill < 6) (whole : 4 ∣ values.length + padding) (least : padding < 4) :
    IsStandard (values.map digit ++ List.replicate padding '=') body :=
  .intro (spelled_iff.mpr ⟨small, rfl⟩) same fewer (by rwa [List.length_map]) least

/-- Three bytes in front are four digits in front. -/
theorem IsStandard.group {text : List Char} {body : Bytes} (a b c : UInt8)
    (standard : IsStandard text body) :
    IsStandard (digit (a.toNat / 4) :: digit (a.toNat % 4 * 16 + b.toNat / 16) ::
      digit (b.toNat % 16 * 4 + c.toNat / 64) :: digit (c.toNat % 64) :: text)
      (a :: b :: c :: body) := by
  have bound (b : UInt8) : b.toNat < 256 := b.toNat_lt
  have first := bound a
  have second := bound b
  obtain @⟨_, values, _, fill, padding, spelled, same, fewer, whole, least⟩ := standard
  obtain ⟨small, rfl⟩ := spelled_iff.mp spelled
  have small' : ∀ v ∈ a.toNat / 4 :: (a.toNat % 4 * 16 + b.toNat / 16) ::
      (b.toNat % 16 * 4 + c.toNat / 64) :: c.toNat % 64 :: values, v < 64 := by
    simp only [List.forall_mem_cons]
    have third := bound c
    exact ⟨by omega, by omega, by omega, by omega, small⟩
  refine isStandard_of_values small' ?_ fewer ?_ least
  · have three := congrArg (· ++ values.flatMap (bits 6)) (bits_three a b c)
    simpa [byteBits, same] using three
  · rw [List.length_map] at whole
    simp only [List.length_cons]
    omega

/-- A body is encoded by the standard. -/
theorem isStandard_encode (body : Bytes) : IsStandard (encode body) body := by
  have bound (b : UInt8) : b.toNat < 256 := b.toNat_lt
  fun_induction encode body with
  | case1 =>
    have none : ∀ v ∈ ([] : List Nat), v < 64 := List.forall_mem_nil _
    exact isStandard_of_values none rfl (by decide : 0 < 6) ⟨0, rfl⟩ (by decide : 0 < 4)
  | case2 a =>
    have first := bound a
    have small : ∀ v ∈ [a.toNat / 4, a.toNat % 4 * 16], v < 64 := by
      simp only [List.forall_mem_cons]
      exact ⟨by omega, by omega, List.forall_mem_nil _⟩
    have same : [a.toNat / 4, a.toNat % 4 * 16].flatMap (bits 6) =
        byteBits [a] ++ List.replicate 4 false := by
      simpa [byteBits] using bits_one a
    exact isStandard_of_values small same (by decide) ⟨1, rfl⟩ (by decide : 2 < 4)
  | case3 a b =>
    have first := bound a
    have second := bound b
    have small : ∀ v ∈ [a.toNat / 4, a.toNat % 4 * 16 + b.toNat / 16, b.toNat % 16 * 4],
        v < 64 := by
      simp only [List.forall_mem_cons]
      exact ⟨by omega, by omega, by omega, List.forall_mem_nil _⟩
    have same : [a.toNat / 4, a.toNat % 4 * 16 + b.toNat / 16, b.toNat % 16 * 4].flatMap (bits 6) =
        byteBits [a, b] ++ List.replicate 2 false := by
      simpa [byteBits] using bits_two a b
    exact isStandard_of_values small same (by decide) ⟨1, rfl⟩ (by decide : 1 < 4)
  | case4 a b c rest ih => exact ih.group a b c

/-- The texts of the form are the ones that are encoded. -/
theorem isStandard_iff {text : List Char} {body : Bytes} :
    IsStandard text body ↔ text = encode body := by
  constructor
  · intro standard
    exact standard.unique (isStandard_encode body)
  · rintro rfl
    exact isStandard_encode body

/-! ## Reading -/

/-- An encoded body is decoded. -/
theorem decode?_encode (body : Bytes) : decode? (encode body) = some body := by
  have bound (b : UInt8) : b.toNat < 256 := b.toNat_lt
  fun_induction encode body with
  | case1 => rfl
  | case2 a =>
    have first := bound a
    have whole : a.toNat % 4 * 16 % 16 = 0 := by omega
    have back : UInt8.ofNat (a.toNat / 4 * 4 + a.toNat % 4 * 16 / 16) = a :=
      Utf8.ofNat_eq_of_toNat (by omega)
    rw [decode?, digitValue?_digit _ (by omega), digitValue?_digit _ (by omega)]
    dsimp only
    rw [if_pos whole, back]
  | case3 a b =>
    have first := bound a
    have second := bound b
    have whole : b.toNat % 16 * 4 % 4 = 0 := by omega
    have back : UInt8.ofNat (a.toNat / 4 * 4 + (a.toNat % 4 * 16 + b.toNat / 16) / 16) = a :=
      Utf8.ofNat_eq_of_toNat (by omega)
    have back' : UInt8.ofNat ((a.toNat % 4 * 16 + b.toNat / 16) % 16 * 16 +
        b.toNat % 16 * 4 / 4) = b := Utf8.ofNat_eq_of_toNat (by omega)
    rw [decode?, digitValue?_digit _ (by omega), digitValue?_digit _ (by omega),
      digitValue?_digit _ (by omega)]
    · dsimp only
      rw [if_pos whole, back, back']
    · exact (digit_ne _ (by omega)).1
  | case4 a b c rest ih =>
    have first := bound a
    have second := bound b
    have third := bound c
    have other := (digit_ne (c.toNat % 64) (by omega)).1
    have back : UInt8.ofNat (a.toNat / 4 * 4 + (a.toNat % 4 * 16 + b.toNat / 16) / 16) = a :=
      Utf8.ofNat_eq_of_toNat (by omega)
    have back' : UInt8.ofNat ((a.toNat % 4 * 16 + b.toNat / 16) % 16 * 16 +
        (b.toNat % 16 * 4 + c.toNat / 64) / 4) = b := Utf8.ofNat_eq_of_toNat (by omega)
    have back'' : UInt8.ofNat ((b.toNat % 16 * 4 + c.toNat / 64) % 4 * 64 + c.toNat % 64) = c :=
      Utf8.ofNat_eq_of_toNat (by omega)
    rw [decode?, digitValue?_digit _ (by omega), digitValue?_digit _ (by omega),
      digitValue?_digit _ (by omega), digitValue?_digit _ (by omega), ih]
    · dsimp only
      rw [back, back', back'']
    · exact fun _ last => absurd last other
    · exact fun last => absurd last other

/-- What is decoded was encoded. -/
theorem encode_of_decode? {text : List Char} {body : Bytes} (decodes : decode? text = some body) :
    encode body = text := by
  fun_induction decode? text generalizing body with
  | case1 =>
    cases decodes
    rfl
  | case2 a b x y second first whole =>
    obtain ⟨small₁, rfl⟩ := of_digitValue? first
    obtain ⟨small₂, rfl⟩ := of_digitValue? second
    cases decodes
    rw [encode, Utf8.toNat_ofNat_of_lt (by omega), show (x * 4 + y / 16) / 4 = x by omega,
      show (x * 4 + y / 16) % 4 * 16 = y by omega]
  | case5 a b c _ x y z third second first whole =>
    obtain ⟨small₁, rfl⟩ := of_digitValue? first
    obtain ⟨small₂, rfl⟩ := of_digitValue? second
    obtain ⟨small₃, rfl⟩ := of_digitValue? third
    cases decodes
    rw [encode, Utf8.toNat_ofNat_of_lt (by omega), Utf8.toNat_ofNat_of_lt (by omega),
      show (x * 4 + y / 16) / 4 = x by omega,
      show (x * 4 + y / 16) % 4 * 16 + (y % 16 * 16 + z / 4) / 16 = y by omega,
      show (y % 16 * 16 + z / 4) % 16 * 4 = z by omega]
  | case8 a b c d rest _ _ x y z w bytes more fourth third second first ih =>
    obtain ⟨small₁, rfl⟩ := of_digitValue? first
    obtain ⟨small₂, rfl⟩ := of_digitValue? second
    obtain ⟨small₃, rfl⟩ := of_digitValue? third
    obtain ⟨small₄, rfl⟩ := of_digitValue? fourth
    cases decodes
    rw [encode, ih more, Utf8.toNat_ofNat_of_lt (by omega), Utf8.toNat_ofNat_of_lt (by omega),
      Utf8.toNat_ofNat_of_lt (by omega),
      show (x * 4 + y / 16) / 4 = x by omega,
      show (x * 4 + y / 16) % 4 * 16 + (y % 16 * 16 + z / 4) / 16 = y by omega,
      show (y % 16 * 16 + z / 4) % 16 * 4 + (z % 4 * 64 + w) / 64 = z by omega,
      show (z % 4 * 64 + w) % 64 = w by omega]
  | _ => cases decodes

/-- The texts of the form are the ones that are decoded, each to the body that it stands for. -/
theorem decode?_eq_some_iff {text : List Char} {body : Bytes} :
    decode? text = some body ↔ IsStandard text body := by
  rw [isStandard_iff]
  constructor
  · intro decodes
    exact (encode_of_decode? decodes).symm
  · rintro rfl
    exact decode?_encode body

/-- A text stands for one body. -/
theorem IsStandard.body_unique {text : List Char} {body body' : Bytes}
    (standard : IsStandard text body) (standard' : IsStandard text body') : body = body' := by
  rw [← decode?_eq_some_iff] at standard standard'
  exact Option.some.inj (standard.symm.trans standard')

/-- No digit is a quote. -/
theorem IsStandard.quote_notMem {text : List Char} {body : Bytes}
    (standard : IsStandard text body) : '\x27' ∉ text := by
  obtain ⟨spelled, -, -, -, -⟩ := standard
  obtain ⟨small, rfl⟩ := spelled_iff.mp spelled
  intro mem
  rcases List.mem_append.mp mem with inside | padding
  · obtain ⟨v, found, quote⟩ := List.mem_map.mp inside
    exact (digit_ne v (small v found)).2 quote
  · exact absurd (List.eq_of_mem_replicate padding) (by decide)

end Base64

end MetricsHarness.Text
