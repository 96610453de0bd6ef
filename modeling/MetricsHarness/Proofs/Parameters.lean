import Mathlib.Tactic.SplitIfs
import MetricsHarness.Proofs.Pieces
import MetricsHarness.Proofs.Utf8
import MetricsHarness.Url.Form

/-!
# Parameters survive being written and read

Reading written parameters gives the parameters (`parameters_encodeParameters`), whatever characters
are in their keys and values. A byte in written form is a letter, a digit, one of `*-._`, a plus
sign or an escape, so no key or value is cut at a `&` or a `=` that is its own, and each byte is
found again (`decode_encodeByte`). The bytes of a text are the text again.
-/

namespace MetricsHarness.Url

open Text

/-! ## Escapes -/

namespace Percent

theorem decode_cons_of_ne {b : UInt8} (other : b ≠ 0x25) (rest : Bytes) :
    decode (b :: rest) = b :: decode rest := by
  rw [decode]
  intro _ _ _ escape
  exact absurd escape other

/-- The digit of a number below sixteen has the number as its value. -/
theorem upperDigit_spec : ∀ n < 16, (Hex.upperDigit n).toNat < 0x80 ∧
    UInt8.ofNat (Hex.upperDigit n).toNat ≠ 0x2B ∧
    Hex.digitValue? (Char.ofNat (UInt8.ofNat (Hex.upperDigit n).toNat).toNat) = some n := by
  decide

theorem upperDigit_ne : ∀ n < 16, Hex.upperDigit n ≠ '&' ∧ Hex.upperDigit n ≠ '=' := by
  decide

/-- The bytes of an escape. -/
theorem encode_escape (b : UInt8) : Utf8.encode (escape b) =
    [0x25, UInt8.ofNat (Hex.upperDigit (b.toNat / 16)).toNat,
      UInt8.ofNat (Hex.upperDigit (b.toNat % 16)).toNat] := by
  have bound := b.toNat_lt
  have high := (upperDigit_spec (b.toNat / 16) (by omega)).1
  have low := (upperDigit_spec (b.toNat % 16) (by omega)).1
  rw [escape, Utf8.encode_cons, Utf8.encode_cons, Utf8.encode_singleton,
    Utf8.encodeChar_of_lt (by decide), Utf8.encodeChar_of_lt high, Utf8.encodeChar_of_lt low]
  rfl

/-- An escape is read as its byte. -/
theorem decode_escape (b : UInt8) (rest : Bytes) :
    decode (Utf8.encode (escape b) ++ rest) = b :: decode rest := by
  have bound := b.toNat_lt
  obtain ⟨-, -, high⟩ := upperDigit_spec (b.toNat / 16) (by omega)
  obtain ⟨-, -, low⟩ := upperDigit_spec (b.toNat % 16) (by omega)
  have byte : UInt8.ofNat (16 * (b.toNat / 16) + b.toNat % 16) = b := by
    rw [Nat.div_add_mod]
    exact UInt8.ofNat_toNat
  rw [encode_escape]
  show decode (0x25 :: _ :: _ :: rest) = _
  rw [decode, high, low]
  simp only [byte]

end Percent

namespace Form

/-! ## Bytes -/

/-- A byte that stands for itself is one of an ASCII character that means nothing else. -/
theorem toNat_of_isKept {b : UInt8} (kept : isKept b = true) :
    b.toNat < 0x80 ∧ b ≠ 0x25 ∧ b ≠ 0x26 ∧ b ≠ 0x2B ∧ b ≠ 0x3D := by
  simp only [isKept, Bool.or_eq_true, Bool.and_eq_true, decide_eq_true_eq, beq_iff_eq,
    UInt8.le_iff_toNat_le, ← UInt8.toNat_inj] at kept
  simp only [ne_eq, ← UInt8.toNat_inj]
  simp at kept ⊢
  omega

theorem toNat_ofNat_of_ascii {n : Nat} (ascii : n < 0x80) : (Char.ofNat n).toNat = n := by
  have valid : n.isValidChar := .inl (by omega)
  unfold Char.ofNat
  rw [dif_pos valid]
  rfl

/-- No plus sign is in an escape. -/
theorem map_plusToBlank_escape (b : UInt8) :
    (Utf8.encode (Percent.escape b)).map plusToBlank = Utf8.encode (Percent.escape b) := by
  have bound := b.toNat_lt
  obtain ⟨-, high, -⟩ := Percent.upperDigit_spec (b.toNat / 16) (by omega)
  obtain ⟨-, low, -⟩ := Percent.upperDigit_spec (b.toNat % 16) (by omega)
  rw [Percent.encode_escape]
  simp only [List.map_cons, List.map_nil, plusToBlank, if_neg high, if_neg low]
  rfl

/-- A byte in written form is read as the byte. -/
theorem decode_encodeByte (b : UInt8) (rest : Bytes) :
    Percent.decode ((Utf8.encode (encodeByte b)).map plusToBlank ++ rest) =
      b :: Percent.decode rest := by
  unfold encodeByte
  split_ifs with kept blank
  · obtain ⟨ascii, percent, -, plus, -⟩ := toNat_of_isKept kept
    have same : Utf8.encode [Char.ofNat b.toNat] = [b] := by
      rw [Utf8.encode_singleton, Utf8.encodeChar_of_lt (by rwa [toNat_ofNat_of_ascii ascii]),
        toNat_ofNat_of_ascii ascii, UInt8.ofNat_toNat]
    rw [same, List.map_singleton, plusToBlank, if_neg plus]
    exact Percent.decode_cons_of_ne percent rest
  · subst blank
    exact Percent.decode_cons_of_ne (by decide) rest
  · rw [map_plusToBlank_escape]
    exact Percent.decode_escape b rest

/-- Bytes in written form are read as the bytes. -/
theorem decode_encodeBytes (bytes : Bytes) :
    Percent.decode ((Utf8.encode (bytes.flatMap encodeByte)).map plusToBlank) = bytes := by
  induction bytes with
  | nil => rfl
  | cons b rest ih =>
    rw [List.flatMap_cons, Utf8.encode_append, List.map_append, decode_encodeByte, ih]

/-- Neither of the two separators is in a written byte. -/
theorem ne_of_mem_encodeByte {b : UInt8} {c : Char} (mem : c ∈ encodeByte b) :
    c ≠ '&' ∧ c ≠ '=' := by
  have bound := b.toNat_lt
  unfold encodeByte at mem
  split_ifs at mem with kept blank
  · obtain ⟨ascii, -, ampersand, -, equals⟩ := toNat_of_isKept kept
    obtain rfl := List.mem_singleton.mp mem
    constructor
    · intro same
      have number := congrArg Char.toNat same
      rw [toNat_ofNat_of_ascii ascii] at number
      exact ampersand (UInt8.toNat_inj.mp number)
    · intro same
      have number := congrArg Char.toNat same
      rw [toNat_ofNat_of_ascii ascii] at number
      exact equals (UInt8.toNat_inj.mp number)
  · obtain rfl := List.mem_singleton.mp mem
    decide
  · simp only [Percent.escape, List.mem_cons, List.not_mem_nil, or_false] at mem
    obtain rfl | rfl | rfl := mem
    · decide
    · exact Percent.upperDigit_ne _ (by omega)
    · exact Percent.upperDigit_ne _ (by omega)

/-! ## Keys and values -/

theorem ne_of_mem_encodeText {cs : List Char} {c : Char} (mem : c ∈ encodeText cs) :
    c ≠ '&' ∧ c ≠ '=' := by
  obtain ⟨b, _, written⟩ := List.mem_flatMap.mp mem
  exact ne_of_mem_encodeByte written

/-- A written text stands for its bytes. -/
theorem decodeBytes_encodeText (cs : List Char) : decodeBytes (encodeText cs) = Utf8.encode cs :=
  decode_encodeBytes (Utf8.encode cs)

/-- A written text stands for the text. -/
theorem decodeText_encodeText (cs : List Char) : decodeText (encodeText cs) = cs := by
  rw [decodeText, decodeBytes_encodeText, Utf8.decodeLossy_encode]

/-- A written parameter is cut at its own equals sign. -/
theorem halves_encodeParameter (p : Parameter) :
    halves (encodeParameter p) = (encodeText p.key, encodeText p.value) := by
  have key : ∀ c ∈ encodeText p.key, (c != '=') = true := by
    intro c mem
    exact bne_iff_ne.mpr (ne_of_mem_encodeText mem).2
  rw [halves, encodeParameter, List.takeWhile_append_of_pos key, List.dropWhile_append_of_pos key]
  simp

theorem ampersand_notMem_encodeParameter (p : Parameter) : '&' ∉ encodeParameter p := by
  intro mem
  rcases List.mem_append.mp mem with inKey | inValue
  · exact (ne_of_mem_encodeText inKey).1 rfl
  · rcases List.mem_cons.mp inValue with mark | inValue
    · exact absurd mark (by decide)
    · exact (ne_of_mem_encodeText inValue).1 rfl

/-! ## Queries -/

/-- Written parameters are cut into their keys and values as they are written. -/
theorem rawParameters_encodeParameters (ps : List Parameter) :
    rawParameters (encodeParameters ps) =
      ps.map fun p => (encodeText p.key, encodeText p.value) := by
  cases ps with
  | nil => rfl
  | cons p rest =>
    have free : ∀ piece ∈ (p :: rest).map encodeParameter, '&' ∉ piece := by
      refine List.forall_mem_map.mpr fun q _ => ?_
      exact ampersand_notMem_encodeParameter q
    have filled : ∀ piece ∈ (p :: rest).map encodeParameter, (!piece.isEmpty) = true := by
      refine List.forall_mem_map.mpr fun q _ => ?_
      simp [encodeParameter]
    rw [rawParameters, encodeParameters, pieces_joined (by simp) free,
      List.filter_eq_self.mpr filled, List.map_map]
    exact List.map_congr_left fun q _ => halves_encodeParameter q

/-- **Parameters survive.** Whatever is in their keys and values, and in whichever order they are,
written parameters are read as they were. -/
theorem parameters_encodeParameters (ps : List Parameter) :
    parameters (encodeParameters ps) = ps := by
  rw [parameters, rawParameters_encodeParameters, List.map_map]
  refine (List.map_congr_left fun q _ => ?_).trans (List.map_id _)
  simp only [Function.comp_apply, decodeText_encodeText]
  rfl

end Form

end MetricsHarness.Url
