import MetricsHarness.Json.Skip
import MetricsHarness.Proofs.Answers
import MetricsHarness.Proofs.Grammar

/-!
# Texts that are passed or read

A text that is passed over is spelled as the grammar has it (`passTextBytes_eq_ok`), and a text that
is read says in addition what is answered (`readText_eq_ok`). Both go from escape to escape; the
bytes between them are plain.
-/

namespace MetricsHarness.Json

open Grammar

variable {s rest : Bytes}

/-- Plain bytes may stand before any spelling. -/
theorem isSpelling_append {t raw : Bytes} (plain : ∀ b ∈ t, isPlainByte b = true)
    (spelling : IsSpelling raw) : IsSpelling (t ++ raw) := by
  induction t with
  | nil => exact spelling
  | cons b t ih =>
    obtain ⟨first, others⟩ := List.forall_mem_cons.mp plain
    exact .plain first (ih others)

/-- Plain bytes stand for themselves. -/
theorem standsFor_append {t raw bytes : Bytes} (plain : ∀ b ∈ t, isPlainByte b = true)
    (stands : StandsFor raw bytes) : StandsFor (t ++ raw) (t ++ bytes) := by
  induction t with
  | nil => exact stands
  | cons b t ih =>
    obtain ⟨first, others⟩ := List.forall_mem_cons.mp plain
    exact .plain first (ih others)

/-! ## Escapes -/

theorem nextInText_eq_ok {b : UInt8} (h : nextInText s = .ok b rest) : s = b :: rest := by
  cases s with
  | nil => nomatch h
  | cons c s =>
    injection h with byte left
    rw [byte, ← left]
    rfl

theorem readHex_eq_ok {n : Nat} (h : readHex s = .ok n rest) :
    ∃ digits, IsHex digits n ∧ s = digits ++ rest := by
  unfold readHex at h
  split at h
  next a b c d tail =>
    split at h
    next w x y z ha hb hc hd =>
      injection h with value left
      subst left
      exact ⟨[a, b, c, d], ⟨a, b, c, d, w, x, y, z, rfl, ha, hb, hc, hd, value.symm⟩, rfl⟩
    next => nomatch h
  next => nomatch h

/-- An escape that is passed may stand before any spelling. -/
theorem passEscape_eq_ok (h : passEscape s = .ok () rest) :
    ∃ escape, s = escape ++ rest ∧
      ∀ raw, IsSpelling raw → IsSpelling (0x5C :: (escape ++ raw)) := by
  unfold passEscape at h
  obtain ⟨l, mid, read, h⟩ := bind_eq_ok h
  have front := nextInText_eq_ok read
  have short {l b : UInt8} (mem : (l, b) ∈ letters) (front : s = l :: mid)
      (h : (pure () : Reader Unit) mid = .ok () rest) : ∃ escape, s = escape ++ rest ∧
        ∀ raw, IsSpelling raw → IsSpelling (0x5C :: (escape ++ raw)) := by
    obtain ⟨-, rfl⟩ := pure_eq_ok h
    exact ⟨[l], front, fun raw spelling => .letter mem spelling⟩
  split at h
  next => exact short (b := 0x22) (by decide) front h
  next => exact short (b := 0x5C) (by decide) front h
  next => exact short (b := 0x2F) (by decide) front h
  next => exact short (b := 0x08) (by decide) front h
  next => exact short (b := 0x0C) (by decide) front h
  next => exact short (b := 0x0A) (by decide) front h
  next => exact short (b := 0x0D) (by decide) front h
  next => exact short (b := 0x09) (by decide) front h
  next =>
    obtain ⟨n, left, hex, h⟩ := bind_eq_ok h
    obtain ⟨-, rfl⟩ := pure_eq_ok h
    obtain ⟨digits, isHex, rfl⟩ := readHex_eq_ok hex
    exact ⟨0x75 :: digits, front, fun raw spelling => .hex isHex spelling⟩
  next => nomatch h

theorem readPartner_eq_ok {leading : Nat} {bytes : Bytes}
    (h : readPartner leading s = .ok bytes rest) :
    ∃ digits trailing, IsHex digits trailing ∧ isTrailing trailing = true ∧
      s = 0x5C :: 0x75 :: (digits ++ rest) ∧
      bytes = Text.Utf8.encodeChar
        (Char.ofNat ((leading - 0xD800) * 1024 + (trailing - 0xDC00) + 0x10000)) := by
  unfold readPartner at h
  obtain ⟨slash, mid, read, h⟩ := bind_eq_ok h
  have front := nextInText_eq_ok read
  dsimp only at h
  obtain ⟨-, h⟩ | ⟨slashed, h⟩ := branch_eq_ok h
  · nomatch h
  obtain ⟨letter, mid', read', h⟩ := bind_eq_ok h
  have second := nextInText_eq_ok read'
  obtain ⟨-, h⟩ | ⟨lettered, h⟩ := branch_eq_ok h
  · nomatch h
  obtain ⟨trailing, mid'', hex, h⟩ := bind_eq_ok h
  obtain ⟨digits, isHex, eq⟩ := readHex_eq_ok hex
  obtain ⟨isTrailing, h⟩ | ⟨-, h⟩ := branch_eq_ok h
  · obtain ⟨value, rfl⟩ := pure_eq_ok h
    refine ⟨digits, trailing, isHex, isTrailing, ?_, value.symm⟩
    rw [front, second, eq, Decidable.not_not.mp slashed, Decidable.not_not.mp lettered]
  · nomatch h

/-- An escape that is read may stand before any spelling and stands for its bytes there. -/
theorem readEscape_eq_ok {escaped : Bytes} (h : readEscape s = .ok escaped rest) :
    ∃ escape, s = escape ++ rest ∧
      ∀ raw bytes, StandsFor raw bytes →
        StandsFor (0x5C :: (escape ++ raw)) (escaped ++ bytes) := by
  unfold readEscape at h
  obtain ⟨l, mid, read, h⟩ := bind_eq_ok h
  have front := nextInText_eq_ok read
  have short {l b : UInt8} (mem : (l, b) ∈ letters) (front : s = l :: mid)
      (h : (pure [b] : Reader Bytes) mid = .ok escaped rest) : ∃ escape, s = escape ++ rest ∧
        ∀ raw bytes, StandsFor raw bytes →
          StandsFor (0x5C :: (escape ++ raw)) (escaped ++ bytes) := by
    obtain ⟨rfl, rfl⟩ := pure_eq_ok h
    exact ⟨[l], front, fun raw bytes stands => .letter mem stands⟩
  split at h
  next => exact short (by decide) front h
  next => exact short (by decide) front h
  next => exact short (by decide) front h
  next => exact short (by decide) front h
  next => exact short (by decide) front h
  next => exact short (by decide) front h
  next => exact short (by decide) front h
  next => exact short (by decide) front h
  next =>
    obtain ⟨n, left, hex, h⟩ := bind_eq_ok h
    obtain ⟨digits, isHex, eq⟩ := readHex_eq_ok hex
    obtain ⟨-, h⟩ | ⟨noTrailing, h⟩ := branch_eq_ok h
    · nomatch h
    obtain ⟨leading, h⟩ | ⟨noLeading, h⟩ := branch_eq_ok h
    · obtain ⟨digits', m, isHex', trailing, eq', value⟩ := readPartner_eq_ok h
      refine ⟨0x75 :: (digits ++ 0x5C :: 0x75 :: digits'), ?_, fun raw bytes stands => ?_⟩
      · rw [front, eq, eq', List.cons_append, List.append_assoc]
        rfl
      · have pair := StandsFor.pair isHex leading isHex' trailing stands
        rw [← value] at pair
        simpa only [List.cons_append, List.append_assoc] using pair
    · obtain ⟨rfl, rfl⟩ := pure_eq_ok h
      refine ⟨0x75 :: digits, ?_, fun raw bytes stands => ?_⟩
      · rw [front, eq]
        rfl
      · exact StandsFor.hex isHex (eq_false_of_ne_true noLeading)
          (eq_false_of_ne_true noTrailing) stands
  next => nomatch h

/-! ## Whole texts -/

/-- A text that is passed is spelled up to its closing quote. -/
theorem passTextBytes_eq_ok {fuel : Nat} (h : passTextBytes fuel s = .ok () rest) :
    ∃ raw, IsSpelling raw ∧ s = raw ++ 0x22 :: rest := by
  induction fuel generalizing s with
  | zero => nomatch h
  | succ fuel ih =>
    have cut := List.takeWhile_append_dropWhile (p := isPlainByte) (l := s)
    have plain : ∀ b ∈ s.takeWhile isPlainByte, isPlainByte b = true :=
      List.all_eq_true.mp List.all_takeWhile
    unfold passTextBytes at h
    split at h
    next => nomatch h
    next b tail eq =>
      rw [eq] at cut
      split at h
      next quote =>
        injection h with _ left
        refine ⟨_, isSpelling_append plain .nil, ?_⟩
        rw [List.append_nil, ← left, ← quote, cut]
      next =>
        split at h
        next slash =>
          split at h
          next => nomatch h
          next more passed =>
            obtain ⟨escape, rfl, spells⟩ := passEscape_eq_ok passed
            obtain ⟨raw, spelling, rfl⟩ := ih h
            refine ⟨_, isSpelling_append plain (spells raw spelling), ?_⟩
            rw [List.append_assoc, List.cons_append, List.append_assoc, ← slash, cut]
        next => nomatch h

/-- A text that is read is spelled up to its closing quote and stands for the bytes read. -/
theorem readTextBytes_eq_ok {fuel : Nat} {bytes : Bytes}
    (h : readTextBytes fuel s = .ok bytes rest) :
    ∃ raw, StandsFor raw bytes ∧ s = raw ++ 0x22 :: rest := by
  induction fuel generalizing s bytes with
  | zero => nomatch h
  | succ fuel ih =>
    have cut := List.takeWhile_append_dropWhile (p := isPlainByte) (l := s)
    have plain : ∀ b ∈ s.takeWhile isPlainByte, isPlainByte b = true :=
      List.all_eq_true.mp List.all_takeWhile
    unfold readTextBytes at h
    dsimp only at h
    split at h
    next => nomatch h
    next b tail eq =>
      rw [eq] at cut
      split at h
      next quote =>
        injection h with value left
        have stands : StandsFor (s.takeWhile isPlainByte ++ []) (s.takeWhile isPlainByte ++ []) :=
          standsFor_append plain .nil
        rw [List.append_nil, value] at stands
        refine ⟨_, stands, ?_⟩
        rw [← value, ← left, ← quote, cut]
      next =>
        split at h
        next slash =>
          split at h
          next => nomatch h
          next escaped left read =>
            split at h
            next => nomatch h
            next more left' readMore =>
              injection h with value last
              subst last
              obtain ⟨escape, rfl, stands⟩ := readEscape_eq_ok read
              obtain ⟨raw, standsMore, rfl⟩ := ih readMore
              have all := standsFor_append plain (stands raw more standsMore)
              rw [← List.append_assoc, value] at all
              refine ⟨_, all, ?_⟩
              rw [List.append_assoc, List.cons_append, List.append_assoc, ← slash, cut]
        next => nomatch h

/-- A text that is read says what is answered. -/
theorem readText_eq_ok {t : String} (h : readText (0x22 :: s) = .ok t rest) :
    ∃ raw, IsSpelling raw ∧ Denotes raw (some t) ∧ s = raw ++ 0x22 :: rest := by
  unfold readText at h
  split at h
  next => nomatch h
  next bytes left read =>
    split at h
    next cs text =>
      injection h with value last
      obtain ⟨raw, stands, eq⟩ := readTextBytes_eq_ok read
      refine ⟨raw, stands.isSpelling, ?_, ?_⟩
      · rw [← value]
        exact .some stands text
      · rw [← last]
        exact eq
    next => nomatch h

end MetricsHarness.Json
