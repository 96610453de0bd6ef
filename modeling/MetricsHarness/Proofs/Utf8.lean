import Mathlib.Tactic.SplitIfs
import MetricsHarness.Text.Utf8

/-!
# Texts survive as bytes

Decoding gives the text that has the bytes, and nothing if there is none (`decode?_eq_some_iff`). A
character is found again from its one to four bytes, whatever follows them (`scan_encodeChar`): the
first byte tells how many there are, and the number of the character, which is neither a surrogate
nor written too long, lets the second byte be in its range. By the same ranges a character that is
found is written as the bytes that were taken for it (`encodeChar_of_scan`).
-/

namespace MetricsHarness.Text.Utf8

/-! ## One character -/

theorem toNat_ofNat_of_lt {n : Nat} (h : n < 256) : (UInt8.ofNat n).toNat = n := by
  rw [UInt8.toNat_ofNat', Nat.mod_eq_of_lt h]

/-- The bytes behind the first of a character. -/
theorem isTail_iff {b : UInt8} : isTail b = true ↔ 0x80 ≤ b.toNat ∧ b.toNat ≤ 0xBF := by
  rw [isTail, Bool.and_eq_true, decide_eq_true_iff, decide_eq_true_iff]
  rfl

/-- Six bits under the mark of a tail are a tail. -/
theorem isTail_ofNat (n : Nat) : isTail (UInt8.ofNat (0x80 + n % 64)) = true := by
  rw [isTail_iff, toNat_ofNat_of_lt (by omega)]
  omega

theorem between_iff {a low high : UInt8} : (decide (low ≤ a) && decide (a ≤ high)) = true ↔
    low.toNat ≤ a.toNat ∧ a.toNat ≤ high.toNat := by
  rw [Bool.and_eq_true, decide_eq_true_iff, decide_eq_true_iff]
  rfl

theorem not_between {a low high : UInt8} (h : high.toNat < a.toNat) :
    ¬ (decide (low ≤ a) && decide (a ≤ high)) = true :=
  fun inside => Nat.not_le.mpr h (between_iff.mp inside).2

theorem not_lt_of_le {a b : UInt8} (h : b.toNat ≤ a.toNat) : ¬ a < b := Nat.not_lt.mpr h

/-- The second byte is in the range of the first, if the number that the two begin is neither a
surrogate nor one of fewer bytes, nor past the last. -/
theorem followsFirst_of {a b : UInt8} (tail : isTail b = true)
    (long : a.toNat = 0xE0 → 0xA0 ≤ b.toNat) (surrogate : a.toNat = 0xED → b.toNat ≤ 0x9F)
    (longer : a.toNat = 0xF0 → 0x90 ≤ b.toNat) (last : a.toNat = 0xF4 → b.toNat ≤ 0x8F) :
    followsFirst a b = true := by
  obtain ⟨least, most⟩ := isTail_iff.mp tail
  rw [followsFirst, between_iff]
  unfold secondRange
  split_ifs with e0 ed f0 f4
  · exact ⟨long (e0 ▸ rfl), most⟩
  · exact ⟨least, surrogate (ed ▸ rfl)⟩
  · exact ⟨longer (f0 ▸ rfl), most⟩
  · exact ⟨least, last (f4 ▸ rfl)⟩
  · exact ⟨least, most⟩

section Scan

variable {a b c d : UInt8} (rest : Bytes)

/-- A byte of seven bits is its character. -/
theorem scan_one (h : a.toNat < 0x80) : scan a rest = .char (Char.ofNat a.toNat) rest := if_pos h

/-- A character of two bytes is scanned. -/
theorem scan_two (least : 0xC2 ≤ a.toNat) (most : a.toNat ≤ 0xDF) (tail : isTail b = true) :
    scan a (b :: rest) = .char (Char.ofNat ((a.toNat - 0xC0) * 64 + (b.toNat - 0x80))) rest := by
  have one : ¬ a < 0x80 := not_lt_of_le (show 0x80 ≤ a.toNat by omega)
  have two : (decide (0xC2 ≤ a) && decide (a ≤ 0xDF)) = true := between_iff.mpr ⟨least, most⟩
  unfold scan
  rw [if_neg one, if_pos two]
  exact if_pos tail

/-- A character of three bytes is scanned. -/
theorem scan_three (least : 0xE0 ≤ a.toNat) (most : a.toNat ≤ 0xEF)
    (second : followsFirst a b = true) (tail : isTail c = true) :
    scan a (b :: c :: rest) = .char (Char.ofNat
      ((a.toNat - 0xE0) * 4096 + (b.toNat - 0x80) * 64 + (c.toNat - 0x80))) rest := by
  have one : ¬ a < 0x80 := not_lt_of_le (show 0x80 ≤ a.toNat by omega)
  have two : ¬ (decide (0xC2 ≤ a) && decide (a ≤ 0xDF)) = true :=
    not_between (show 0xDF < a.toNat by omega)
  have three : (decide (0xE0 ≤ a) && decide (a ≤ 0xEF)) = true := between_iff.mpr ⟨least, most⟩
  unfold scan
  rw [if_neg one, if_neg two, if_pos three]
  exact (if_pos second).trans (if_pos tail)

/-- A character of four bytes is scanned. -/
theorem scan_four (least : 0xF0 ≤ a.toNat) (most : a.toNat ≤ 0xF4)
    (second : followsFirst a b = true) (third : isTail c = true) (fourth : isTail d = true) :
    scan a (b :: c :: d :: rest) = .char (Char.ofNat ((a.toNat - 0xF0) * 262144 +
      (b.toNat - 0x80) * 4096 + (c.toNat - 0x80) * 64 + (d.toNat - 0x80))) rest := by
  have one : ¬ a < 0x80 := not_lt_of_le (show 0x80 ≤ a.toNat by omega)
  have two : ¬ (decide (0xC2 ≤ a) && decide (a ≤ 0xDF)) = true :=
    not_between (show 0xDF < a.toNat by omega)
  have three : ¬ (decide (0xE0 ≤ a) && decide (a ≤ 0xEF)) = true :=
    not_between (show 0xEF < a.toNat by omega)
  have four : (decide (0xF0 ≤ a) && decide (a ≤ 0xF4)) = true := between_iff.mpr ⟨least, most⟩
  unfold scan
  rw [if_neg one, if_neg two, if_neg three, if_pos four]
  exact (if_pos second).trans ((if_pos third).trans (if_pos fourth))

end Scan

/-- A character is found again from its bytes, and what follows them is left. -/
theorem scan_encodeChar (c : Char) (rest : Bytes) :
    ∃ a tail, encodeChar c = a :: tail ∧ scan a (tail ++ rest) = .char c rest := by
  have valid : c.toNat < 0xD800 ∨ 0xDFFF < c.toNat ∧ c.toNat < 0x110000 := c.valid
  have same {n : Nat} (h : n = c.toNat) : Char.ofNat n = c := h ▸ Char.ofNat_toNat c
  unfold encodeChar
  obtain ⟨n, hn⟩ : ∃ n, n = c.toNat := ⟨_, rfl⟩
  rw [← hn] at valid same ⊢
  dsimp only
  split_ifs with one two three
  · refine ⟨_, _, rfl, ?_⟩
    have first := toNat_ofNat_of_lt (n := n) (by omega)
    rw [List.nil_append, scan_one rest (by omega), first, same rfl]
  · refine ⟨_, _, rfl, ?_⟩
    have first := toNat_ofNat_of_lt (n := 0xC0 + n / 64) (by omega)
    have second := toNat_ofNat_of_lt (n := 0x80 + n % 64) (by omega)
    rw [List.singleton_append, scan_two rest (by omega) (by omega) (isTail_ofNat _), first, second,
      same (by omega)]
  · refine ⟨_, _, rfl, ?_⟩
    have first := toNat_ofNat_of_lt (n := 0xE0 + n / 4096) (by omega)
    have second := toNat_ofNat_of_lt (n := 0x80 + n / 64 % 64) (by omega)
    have third := toNat_ofNat_of_lt (n := 0x80 + n % 64) (by omega)
    rw [List.cons_append, List.singleton_append, scan_three rest (by omega) (by omega)
      (followsFirst_of (isTail_ofNat _) (by omega) (by omega) (by omega) (by omega))
      (isTail_ofNat _), first, second, third, same (by omega)]
  · refine ⟨_, _, rfl, ?_⟩
    have first := toNat_ofNat_of_lt (n := 0xF0 + n / 262144) (by omega)
    have second := toNat_ofNat_of_lt (n := 0x80 + n / 4096 % 64) (by omega)
    have third := toNat_ofNat_of_lt (n := 0x80 + n / 64 % 64) (by omega)
    have fourth := toNat_ofNat_of_lt (n := 0x80 + n % 64) (by omega)
    rw [List.cons_append, List.cons_append, List.singleton_append,
      scan_four rest (by omega) (by omega)
        (followsFirst_of (isTail_ofNat _) (by omega) (by omega) (by omega) (by omega))
        (isTail_ofNat _) (isTail_ofNat _), first, second, third, fourth, same (by omega)]

/-! ## Texts -/

/-- Texts are encoded one after another. -/
@[simp] theorem encode_append (first second : List Char) :
    encode (first ++ second) = encode first ++ encode second := List.flatMap_append

@[simp] theorem encode_nil : encode [] = [] := rfl

@[simp] theorem encode_cons (c : Char) (cs : List Char) :
    encode (c :: cs) = encodeChar c ++ encode cs := List.flatMap_cons

theorem encode_singleton (c : Char) : encode [c] = encodeChar c := List.flatMap_singleton _ _

/-- A character of seven bits is one byte. -/
theorem encodeChar_of_lt {c : Char} (h : c.toNat < 0x80) :
    encodeChar c = [UInt8.ofNat c.toNat] := if_pos h

theorem head_encode_cons {c : Char} (h : c.toNat < 0x80) (cs : List Char) (rest : Bytes) :
    (encode (c :: cs) ++ rest).head? = some (UInt8.ofNat c.toNat) := by
  rw [encode_cons, encodeChar_of_lt h]
  rfl

/-- A text has no more characters than bytes. -/
theorem length_le_length_encode (cs : List Char) : cs.length ≤ (encode cs).length := by
  induction cs with
  | nil => exact Nat.le_refl _
  | cons c rest ih =>
    obtain ⟨a, tail, eq, -⟩ := scan_encodeChar c []
    rw [encode_cons, eq]
    simp only [List.length_append, List.length_cons]
    omega

/-- An encoded text is decoded to the text, given room for its characters. -/
theorem decodeWithin_encode (replace : Option Char) {fuel : Nat} {cs : List Char}
    (room : cs.length ≤ fuel) : decodeWithin replace fuel (encode cs) = some cs := by
  induction cs generalizing fuel with
  | nil => cases fuel <;> rfl
  | cons c rest ih =>
    cases fuel with
    | zero => cases room
    | succ fuel =>
      obtain ⟨a, tail, eq, found⟩ := scan_encodeChar c (encode rest)
      rw [encode_cons, eq, List.cons_append, decodeWithin, found]
      dsimp only
      rw [ih (Nat.le_of_succ_le_succ room)]
      rfl

/-- The bytes of a text are decoded as the text. -/
theorem decode?_encode (cs : List Char) : decode? (encode cs) = some cs :=
  decodeWithin_encode none (length_le_length_encode cs)

/-- Nothing of an encoded text is lost. -/
theorem decodeLossy_encode (cs : List Char) : decodeLossy (encode cs) = cs := by
  rw [decodeLossy, decodeWithin_encode (some replacement) (length_le_length_encode cs)]
  rfl

/-- The bytes of a character are its number or belong to no character of seven bits. -/
theorem mem_encodeChar {c : Char} {b : UInt8} (h : b ∈ encodeChar c) :
    b.toNat = c.toNat ∨ 0x80 ≤ b.toNat := by
  have valid : c.toNat < 0xD800 ∨ 0xDFFF < c.toNat ∧ c.toNat < 0x110000 := c.valid
  have byte {n : Nat} (small : n < 256) (same : b = UInt8.ofNat n) : b.toNat = n := by
    rw [same, toNat_ofNat_of_lt small]
  unfold encodeChar at h
  dsimp only at h
  split_ifs at h with one two three <;>
    simp only [List.mem_cons, List.not_mem_nil, or_false] at h
  · exact .inl (byte (by omega) h)
  · right
    rcases h with h | h <;> rw [byte (by omega) h] <;> omega
  · right
    rcases h with h | h | h <;> rw [byte (by omega) h] <;> omega
  · right
    rcases h with h | h | h | h <;> rw [byte (by omega) h] <;> omega

/-- The byte of a character of seven bits is in no other character. -/
theorem mem_of_mem_encode {c : Char} {cs : List Char} (ascii : c.toNat < 0x80)
    (mem : UInt8.ofNat c.toNat ∈ encode cs) : c ∈ cs := by
  obtain ⟨d, found, inside⟩ := List.mem_flatMap.mp mem
  have number := mem_encodeChar inside
  rw [toNat_ofNat_of_lt (by omega)] at number
  obtain same | above := number
  · exact Char.toNat_inj.mp same ▸ found
  · omega

/-! ## Bytes that are a text -/

/-- The number of a character that is no surrogate gives it back. -/
theorem toNat_ofNat_of_valid {n : Nat} (valid : n < 0xD800 ∨ 0xDFFF < n ∧ n < 0x110000) :
    (Char.ofNat n).toNat = n := by
  rw [Char.ofNat, dif_pos valid]
  rfl

theorem ofNat_eq_of_toNat {n : Nat} {b : UInt8} (same : n = b.toNat) : UInt8.ofNat n = b := by
  rw [same, UInt8.ofNat_toNat]

/-- What the first byte asks of the second. -/
theorem of_followsFirst {a b : UInt8} (second : followsFirst a b = true) :
    (0x80 ≤ b.toNat ∧ b.toNat ≤ 0xBF) ∧ (a.toNat = 0xE0 → 0xA0 ≤ b.toNat) ∧
      (a.toNat = 0xED → b.toNat ≤ 0x9F) ∧ (a.toNat = 0xF0 → 0x90 ≤ b.toNat) ∧
      (a.toNat = 0xF4 → b.toNat ≤ 0x8F) := by
  rw [followsFirst, between_iff] at second
  unfold secondRange at second
  simp only [← UInt8.toNat_inj] at second
  split_ifs at second <;> simp only [UInt8.reduceToNat] at * <;> omega

section Encode

variable {n : Nat}

/-- A character of eleven bits is two bytes. -/
theorem encodeChar_two (least : 0x80 ≤ n) (most : n < 0x800) : encodeChar (Char.ofNat n) =
    [UInt8.ofNat (0xC0 + n / 64), UInt8.ofNat (0x80 + n % 64)] := by
  rw [encodeChar, toNat_ofNat_of_valid (by omega)]
  simp only [if_neg (Nat.not_lt.mpr least), if_pos most]

/-- A character of sixteen bits is three bytes. -/
theorem encodeChar_three (least : 0x800 ≤ n) (most : n < 0x10000)
    (valid : n < 0xD800 ∨ 0xDFFF < n) : encodeChar (Char.ofNat n) =
    [UInt8.ofNat (0xE0 + n / 4096), UInt8.ofNat (0x80 + n / 64 % 64),
      UInt8.ofNat (0x80 + n % 64)] := by
  have more : ¬ n < 0x80 := by omega
  rw [encodeChar, toNat_ofNat_of_valid (by omega)]
  simp only [if_neg more, if_neg (Nat.not_lt.mpr least), if_pos most]

/-- Any other character is four bytes. -/
theorem encodeChar_four (least : 0x10000 ≤ n) (most : n < 0x110000) :
    encodeChar (Char.ofNat n) =
    [UInt8.ofNat (0xF0 + n / 262144), UInt8.ofNat (0x80 + n / 4096 % 64),
      UInt8.ofNat (0x80 + n / 64 % 64), UInt8.ofNat (0x80 + n % 64)] := by
  have more : ¬ n < 0x80 ∧ ¬ n < 0x800 := by omega
  rw [encodeChar, toNat_ofNat_of_valid (by omega)]
  simp only [if_neg more.1, if_neg more.2, if_neg (Nat.not_lt.mpr least)]

end Encode

/-- The character at the front is written as the bytes that are taken for it. -/
theorem encodeChar_of_scan {a : UInt8} {rest r : Bytes} {ch : Char}
    (found : scan a rest = .char ch r) : encodeChar ch ++ r = a :: rest := by
  unfold scan at found
  -- One, two, three and four bytes, by the first; the others begin no character.
  split at found
  next one =>
    have small : a.toNat < 0x80 := one
    obtain ⟨rfl, rfl⟩ := Front.char.inj found
    rw [encodeChar_of_lt (by rwa [toNat_ofNat_of_valid (by omega)]),
      toNat_ofNat_of_valid (by omega), UInt8.ofNat_toNat]
    rfl
  split at found
  next two =>
    have first := between_iff.mp two
    simp only [UInt8.reduceToNat] at first
    split at found
    case h_2 => nomatch found
    rename_i b _
    split at found
    case isFalse => nomatch found
    rename_i tail
    have second := isTail_iff.mp tail
    obtain ⟨rfl, rfl⟩ := Front.char.inj found
    rw [encodeChar_two (by omega) (by omega), ofNat_eq_of_toNat (b := a) (by omega),
      ofNat_eq_of_toNat (b := b) (by omega)]
    rfl
  split at found
  next three =>
    have first := between_iff.mp three
    simp only [UInt8.reduceToNat] at first
    split at found
    case h_2 => nomatch found
    rename_i b _
    split at found
    case isFalse => nomatch found
    rename_i follows
    obtain ⟨second, long, surrogate, -, -⟩ := of_followsFirst follows
    split at found
    case h_2 => nomatch found
    rename_i c _
    split at found
    case isFalse => nomatch found
    rename_i tail
    have third := isTail_iff.mp tail
    obtain ⟨rfl, rfl⟩ := Front.char.inj found
    rw [encodeChar_three (by omega) (by omega) (by omega),
      ofNat_eq_of_toNat (b := a) (by omega), ofNat_eq_of_toNat (b := b) (by omega),
      ofNat_eq_of_toNat (b := c) (by omega)]
    rfl
  split at found
  case isFalse => nomatch found
  rename_i four
  have first := between_iff.mp four
  simp only [UInt8.reduceToNat] at first
  split at found
  case h_2 => nomatch found
  rename_i b _
  split at found
  case isFalse => nomatch found
  rename_i follows
  obtain ⟨second, -, -, longer, last⟩ := of_followsFirst follows
  split at found
  case h_2 => nomatch found
  rename_i c _
  split at found
  case isFalse => nomatch found
  rename_i tail
  split at found
  case h_2 => nomatch found
  rename_i d _
  split at found
  case isFalse => nomatch found
  rename_i tail'
  have third := isTail_iff.mp tail
  have fourth := isTail_iff.mp tail'
  obtain ⟨rfl, rfl⟩ := Front.char.inj found
  rw [encodeChar_four (by omega) (by omega), ofNat_eq_of_toNat (b := a) (by omega),
    ofNat_eq_of_toNat (b := b) (by omega), ofNat_eq_of_toNat (b := c) (by omega),
    ofNat_eq_of_toNat (b := d) (by omega)]
  rfl

/-- Bytes are decoded only as a text that has them. -/
theorem encode_of_decodeWithin {fuel : Nat} {bytes : Bytes} {cs : List Char}
    (decodes : decodeWithin none fuel bytes = some cs) : encode cs = bytes := by
  induction fuel generalizing bytes cs with
  | zero =>
    cases bytes with
    | nil => rw [← Option.some.inj decodes]; rfl
    | cons a rest => nomatch decodes
  | succ fuel ih =>
    cases bytes with
    | nil => rw [← Option.some.inj decodes]; rfl
    | cons a rest =>
      rw [decodeWithin] at decodes
      split at decodes
      next c r found =>
        obtain ⟨more, later, rfl⟩ := Option.map_eq_some_iff.mp decodes
        rw [encode_cons, ih later, encodeChar_of_scan found]
      next => nomatch decodes

/-- **Bytes are decoded as the text that has them**, and not at all if there is none. -/
theorem decode?_eq_some_iff {bytes : Bytes} {cs : List Char} :
    decode? bytes = some cs ↔ encode cs = bytes := by
  constructor
  · exact encode_of_decodeWithin
  · rintro rfl
    exact decode?_encode cs

/-- With replacements, what is decoded has the same bytes just if nothing was replaced. -/
theorem encode_decodeLossy_iff {bytes : Bytes} :
    encode (decodeLossy bytes) = bytes ↔ (decode? bytes).isSome = true := by
  rw [Option.isSome_iff_exists]
  constructor
  · intro same
    exact ⟨_, decode?_eq_some_iff.mpr same⟩
  · rintro ⟨cs, decodes⟩
    rw [← decode?_eq_some_iff.mp decodes, decodeLossy_encode]

end MetricsHarness.Text.Utf8
