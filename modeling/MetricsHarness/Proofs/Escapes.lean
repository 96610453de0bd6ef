import MetricsHarness.Proofs.Parameters
import MetricsHarness.Proofs.Numerals
import MetricsHarness.Url.Tail

/-!
# Escaping twice is escaping once

Each part of a URL is escaped when it is read, so a part that was read before is escaped a second
time when its text is read again. That changes nothing: an escaped text is *written*
(`Percent.IsWritten`), which says that nothing in it is to be escaped. It rests on one property of
the sets of the parts, that they hold neither the percent sign nor a digit (`Percent.Spares`).

A written text holds no blank and no control character, so none is dropped from it either.
-/

namespace MetricsHarness.Url

open Text

namespace Percent

/-- A text in which nothing is to be escaped. -/
def IsWritten (isEscaped : Char → Bool) (cs : List Char) : Prop :=
  ∀ c ∈ cs, c.toNat < 0x80 ∧ isEscaped c = false

/-- The characters of escapes. -/
def escapeChars : List Char := "%0123456789ABCDEF".toList

/-- A set without the characters of escapes. -/
def Spares (isEscaped : Char → Bool) : Prop := ∀ c ∈ escapeChars, isEscaped c = false

variable {isEscaped : Char → Bool} {cs : List Char} {c : Char}

/-- The digits of escapes are capital ones. -/
theorem upperDigit_mem_escapeChars : ∀ n < 16, Hex.upperDigit n ∈ escapeChars := by
  decide

/-- An escape consists of the characters of escapes. -/
theorem mem_escapeChars_of_mem_escape {b : UInt8} (mem : c ∈ escape b) : c ∈ escapeChars := by
  have bound := b.toNat_lt
  simp only [escape, List.mem_cons, List.not_mem_nil, or_false] at mem
  obtain rfl | rfl | rfl := mem
  · decide
  · exact upperDigit_mem_escapeChars _ (by omega)
  · exact upperDigit_mem_escapeChars _ (by omega)

theorem toNat_of_mem_escapeChars : ∀ c ∈ escapeChars, c.toNat < 0x80 :=
  forall_mem_of_all (by decide)

/-- A character that is kept stands for itself. -/
theorem encodeChar_of_kept (kept : c.toNat < 0x80 ∧ isEscaped c = false) :
    encodeChar isEscaped c = [c] := by
  rw [encodeChar, kept.2, Bool.or_false, if_neg (by simpa using kept.1)]

/-- The bytes of any other character are escaped one by one. -/
theorem encodeChar_of_escaped (escaped : ¬ (c.toNat < 0x80 ∧ isEscaped c = false)) :
    encodeChar isEscaped c = (Utf8.encodeChar c).flatMap escape := by
  refine if_pos ?_
  rw [Bool.or_eq_true, decide_eq_true_eq]
  by_cases ascii : c.toNat < 0x80
  · exact .inr (Bool.of_not_eq_false fun kept => escaped ⟨ascii, kept⟩)
  · exact .inl (Nat.not_lt.mp ascii)

theorem encode_cons (c : Char) (cs : List Char) :
    encode isEscaped (c :: cs) = encodeChar isEscaped c ++ encode isEscaped cs :=
  List.flatMap_cons

/-- A character of an encoded text stood there before, or is one of an escape. -/
theorem mem_encode (mem : c ∈ encode isEscaped cs) :
    (c ∈ cs ∧ c.toNat < 0x80 ∧ isEscaped c = false) ∨ c ∈ escapeChars := by
  obtain ⟨d, before, written⟩ := List.mem_flatMap.mp mem
  by_cases kept : d.toNat < 0x80 ∧ isEscaped d = false
  · rw [encodeChar_of_kept kept, List.mem_singleton] at written
    subst written
    exact .inl ⟨before, kept⟩
  · rw [encodeChar_of_escaped kept] at written
    obtain ⟨b, -, inside⟩ := List.mem_flatMap.mp written
    exact .inr (mem_escapeChars_of_mem_escape inside)

/-- What was escaped holds nothing to escape. -/
theorem isWritten_encode (spares : Spares isEscaped) (cs : List Char) :
    IsWritten isEscaped (encode isEscaped cs) := by
  intro c mem
  obtain ⟨-, kept⟩ | inside := mem_encode mem
  · exact kept
  · exact ⟨toNat_of_mem_escapeChars c inside, spares c inside⟩

/-- What holds nothing to escape is left as it is. -/
theorem encode_of_isWritten (written : IsWritten isEscaped cs) : encode isEscaped cs = cs := by
  induction cs with
  | nil => rfl
  | cons c rest ih =>
    obtain ⟨first, others⟩ := List.forall_mem_cons.mp written
    rw [encode_cons, encodeChar_of_kept first, List.singleton_append, ih others]

/-! ## The sets of the parts -/

/-- Escapes may stand in a fragment. -/
theorem spares_inFragment : Spares inFragment := forall_mem_of_all (by decide)

/-- Escapes may stand in a path. -/
theorem spares_inPath : Spares inPath := forall_mem_of_all (by decide)

/-- Escapes may stand in the user part. -/
theorem spares_inUser : Spares inUser := forall_mem_of_all (by decide)

/-- Escapes may stand in a query. -/
theorem spares_inQuery (special : Bool) : Spares (inQuery special) := by
  cases special <;> exact forall_mem_of_all (by decide)

/-- Characters up to the blank are the blank and controls. -/
theorem blank_or_control (low : c ≤ ' ') : c = ' ' ∨ isControl c = true := by
  have number : c.toNat ≤ 32 := low
  rcases Nat.lt_or_eq_of_le number with control | blank
  · exact .inr (by simp [isControl, control])
  · exact .inl (Char.toNat_inj.mp blank)

theorem inFragment_of_le (low : c ≤ ' ') : inFragment c = true := by
  obtain rfl | control := blank_or_control low
  · decide
  · rw [inFragment, control, Bool.true_or]

theorem inPath_of_le (low : c ≤ ' ') : inPath c = true := by
  rw [inPath, inFragment_of_le low, Bool.true_or]

theorem inUser_of_le (low : c ≤ ' ') : inUser c = true := by
  rw [inUser, inPath_of_le low, Bool.true_or]

theorem inQuery_of_le {special : Bool} (low : c ≤ ' ') : inQuery special c = true := by
  obtain rfl | control := blank_or_control low
  · cases special <;> decide
  · rw [inQuery, control, Bool.true_or, Bool.true_or]

/-- A written text holds nothing that is dropped around or inside of a URL. -/
theorem IsWritten.visible (low : ∀ {c : Char}, c ≤ ' ' → isEscaped c = true)
    (written : IsWritten isEscaped cs) : ∀ c ∈ cs, ¬ c ≤ ' ' := by
  intro c mem blank
  have kept := (written c mem).2
  rw [low blank] at kept
  nomatch kept

/-- A character of the set is not in a written text. -/
theorem IsWritten.notMem (written : IsWritten isEscaped cs) (escaped : isEscaped c = true) :
    c ∉ cs := by
  intro mem
  rw [(written c mem).2] at escaped
  exact absurd escaped Bool.false_ne_true

end Percent

/-! ## Written parameters -/

namespace Form

open Percent

/-- A byte that stands for itself needs no escape in a query. -/
theorem inQuery_of_isKept : ∀ n < 128, isKept (UInt8.ofNat n) = true →
    inQuery true (Char.ofNat n) = false := by
  decide +kernel

theorem isWritten_encodeByte (b : UInt8) : IsWritten (inQuery true) (encodeByte b) := by
  intro c mem
  unfold encodeByte at mem
  split_ifs at mem with kept blank
  · have ascii := (toNat_of_isKept kept).1
    obtain rfl := List.mem_singleton.mp mem
    refine ⟨by rwa [toNat_ofNat_of_ascii ascii], ?_⟩
    exact inQuery_of_isKept b.toNat ascii (by rwa [UInt8.ofNat_toNat])
  · obtain rfl := List.mem_singleton.mp mem
    decide
  · have inside := mem_escapeChars_of_mem_escape mem
    exact ⟨toNat_of_mem_escapeChars c inside, spares_inQuery true c inside⟩

/-- An encoded text holds nothing that a query escapes. -/
theorem isWritten_encodeText (cs : List Char) : IsWritten (inQuery true) (encodeText cs) := by
  intro c mem
  obtain ⟨b, -, written⟩ := List.mem_flatMap.mp mem
  exact isWritten_encodeByte b c written

/-- An encoded parameter holds nothing that a query escapes. -/
theorem isWritten_encodeParameter (p : Parameter) :
    IsWritten (inQuery true) (encodeParameter p) := by
  intro c mem
  rcases List.mem_append.mp mem with key | more
  · exact isWritten_encodeText p.key c key
  · rcases List.mem_cons.mp more with rfl | value
    · decide
    · exact isWritten_encodeText p.value c value

/-- Parameters in written form need no escape in a query. -/
theorem isWritten_encodeParameters (ps : List Parameter) :
    IsWritten (inQuery true) (encodeParameters ps) := by
  intro c mem
  obtain rfl | ⟨piece, found, inside⟩ := mem_joined mem
  · decide
  · obtain ⟨p, -, rfl⟩ := List.mem_map.mp found
    exact isWritten_encodeParameter p c inside

end Form

end MetricsHarness.Url
