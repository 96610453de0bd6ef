import MetricsHarness.Proofs.Readers

/-!
# Texts survive in a document

A written text is read as the text (`readText_writeText`), whatever characters it has. One character
at a time: it stands for itself, for a short escape, or for its number in four digits, and each of
the three is read as its bytes (`Spells.cons`).
-/

namespace MetricsHarness.Json

open Text

/-! ## Characters that stand for themselves -/

theorem isPlainByte_iff {b : UInt8} :
    isPlainByte b = true ↔ b.toNat ≠ 0x22 ∧ b.toNat ≠ 0x5C ∧ 0x20 ≤ b.toNat := by
  rw [isPlainByte, Bool.and_eq_true, Bool.and_eq_true, bne_iff_ne, bne_iff_ne,
    decide_eq_true_iff, and_assoc, Ne, Ne, ← UInt8.toNat_inj, ← UInt8.toNat_inj]
  rfl

theorem isPlainByte_of_mem {c : Char} (quote : c ≠ '"') (slash : c ≠ '\\') (great : 32 ≤ c.toNat)
    {b : UInt8} (h : b ∈ Utf8.encodeChar c) : isPlainByte b = true := by
  have notQuote : c.toNat ≠ 0x22 := fun same => quote (Char.toNat_inj.mp same)
  have notSlash : c.toNat ≠ 0x5C := fun same => slash (Char.toNat_inj.mp same)
  rw [isPlainByte_iff]
  rcases Utf8.mem_encodeChar h with same | above <;> omega

/-! ## Reading on -/

/-- Bytes that stand for themselves are read before what comes after them. -/
theorem readTextBytes_plain {p : Bytes} (plain : ∀ b ∈ p, isPlainByte b = true) {fuel : Nat}
    {s bytes rest : Bytes} (h : readTextBytes fuel s = .ok bytes rest) :
    readTextBytes fuel (p ++ s) = .ok (p ++ bytes) rest := by
  cases fuel with
  | zero => cases h
  | succ fuel =>
    unfold readTextBytes at h ⊢
    rw [List.takeWhile_append_of_pos plain, List.dropWhile_append_of_pos plain]
    dsimp only at h ⊢
    cases left : s.dropWhile isPlainByte with
    | nil =>
      rw [left] at h
      cases h
    | cons b after =>
      rw [left] at h
      dsimp only at h ⊢
      split_ifs at h ⊢
      · cases h
        rfl
      · split at h
        · cases h
        · next escaped r found =>
          split at h
          · cases h
          · cases h
            simp only [*, List.append_assoc]

/-- An escape is read before what comes after it. -/
theorem readTextBytes_escape {e escaped r more rest : Bytes} {fuel : Nat}
    (escape : readEscape (e ++ r) = .ok escaped r) (h : readTextBytes fuel r = .ok more rest) :
    readTextBytes (fuel + 1) (0x5C :: (e ++ r)) = .ok (escaped ++ more) rest := by
  unfold readTextBytes
  dsimp only
  have plain : isPlainByte 0x5C = false := rfl
  rw [List.dropWhile_cons_of_neg (by rw [plain]; exact Bool.false_ne_true),
    List.takeWhile_cons_of_neg (by rw [plain]; exact Bool.false_ne_true)]
  simp [escape, h]

/-- The digits of the number of a control character are read as the number. -/
theorem readHex_control : ∀ n < 32, ∀ r : Bytes,
    readHex (0x30 :: 0x30 :: UInt8.ofNat (Hex.digit (n / 16)).toNat ::
      UInt8.ofNat (Hex.digit (n % 16)).toNat :: r) = .ok n r := by
  intro n small r
  have digits : ∀ n < 32, hexValue? (UInt8.ofNat (Hex.digit (n / 16)).toNat) = some (n / 16) ∧
      hexValue? (UInt8.ofNat (Hex.digit (n % 16)).toNat) = some (n % 16) := by decide
  obtain ⟨high, low⟩ := digits n small
  have zero : hexValue? 0x30 = some 0 := rfl
  simp only [readHex, high, low, zero]
  congr 1
  omega

theorem nextInText_cons (b : UInt8) (s : Bytes) : nextInText (b :: s) = .ok b s := rfl

/-- A control character is read from its number in four digits. -/
theorem readEscape_control {c : Char} (small : c.toNat < 32) (r : Bytes) :
    readEscape (Utf8.encode ['u', '0', '0', Hex.digit (c.toNat / 16), Hex.digit (c.toNat % 16)] ++
      r) = .ok (Utf8.encodeChar c) r := by
  have digits : ∀ n < 32, (Hex.digit (n / 16)).toNat < 0x80 ∧
      (Hex.digit (n % 16)).toNat < 0x80 := by
    decide
  obtain ⟨high, low⟩ := digits _ small
  have bytes : Utf8.encode ['u', '0', '0', Hex.digit (c.toNat / 16), Hex.digit (c.toNat % 16)] ++ r
      = 0x75 :: 0x30 :: 0x30 :: UInt8.ofNat (Hex.digit (c.toNat / 16)).toNat ::
        UInt8.ofNat (Hex.digit (c.toNat % 16)).toNat :: r := by
    simp only [Utf8.encode_cons, Utf8.encodeChar_of_lt high, Utf8.encodeChar_of_lt low]
    rfl
  have trailing : isTrailing c.toNat = false := by
    simp only [isTrailing, Bool.and_eq_false_iff, decide_eq_false_iff_not]
    omega
  have leading : isLeading c.toNat = false := by
    simp only [isLeading, Bool.and_eq_false_iff, decide_eq_false_iff_not]
    omega
  have hex := readHex_control c.toNat small r
  rw [bytes]
  unfold readEscape
  rw [bind_eq (nextInText_cons _ _)]
  show (readHex >>= _) _ = _
  rw [bind_eq hex, trailing, leading, Char.ofNat_toNat]
  rfl

/-! ## Texts -/

/-- Bytes are read as the inside of a text, given room for `n` escapes. -/
def Spells (n : Nat) (s bytes rest : Bytes) : Prop :=
  ∀ fuel, n < fuel → readTextBytes fuel s = .ok bytes rest

theorem spells_quote (rest : Bytes) : Spells 0 (0x22 :: rest) [] rest := fun fuel some => by
  obtain ⟨fuel, rfl⟩ := Nat.exists_eq_succ_of_ne_zero (Nat.ne_of_gt some)
  rfl

/-- An escape is read before the rest of a text; it needs one round more. -/
theorem Spells.escape {n m : Nat} {e escaped s more rest : Bytes} (h : Spells n s more rest)
    (read : readEscape (e ++ s) = .ok escaped s) (longer : n < m) :
    Spells m (0x5C :: (e ++ s)) (escaped ++ more) rest := by
  intro fuel room
  obtain ⟨fuel, rfl⟩ := Nat.exists_eq_succ_of_ne_zero (Nat.ne_zero_of_lt room)
  exact readTextBytes_escape read (h fuel (by omega))

/-- A written character is read before what comes after it. -/
theorem Spells.cons {n : Nat} {s bytes rest : Bytes} (h : Spells n s bytes rest) (c : Char) :
    Spells (n + 1) (Utf8.encode (escapedChar c) ++ s) (Utf8.encodeChar c ++ bytes) rest := by
  have short {e escaped : Bytes} (escape : ∀ r, readEscape (e ++ r) = .ok escaped r) :
      Spells (n + 1) (0x5C :: (e ++ s)) (escaped ++ bytes) rest :=
    h.escape (escape s) (Nat.lt_succ_self n)
  unfold escapedChar
  split
  · exact short (e := [0x22]) fun _ => rfl
  · exact short (e := [0x5C]) fun _ => rfl
  · exact short (e := [0x62]) fun _ => rfl
  · exact short (e := [0x66]) fun _ => rfl
  · exact short (e := [0x6E]) fun _ => rfl
  · exact short (e := [0x72]) fun _ => rfl
  · exact short (e := [0x74]) fun _ => rfl
  · next quote slash _ _ _ _ _ =>
    split
    · next small =>
      rw [Utf8.encode_cons]
      exact short fun r => readEscape_control small r
    · next great =>
      have plain := fun b => isPlainByte_of_mem (b := b) quote slash (Nat.le_of_not_lt great)
      intro fuel room
      rw [Utf8.encode_singleton]
      exact readTextBytes_plain plain (h fuel (Nat.lt_of_succ_lt room))

/-- A written text without its opening quote is read as the bytes of the text. -/
theorem spells_text (cs : List Char) (rest : Bytes) :
    Spells cs.length (Utf8.encode (cs.flatMap escapedChar) ++ 0x22 :: rest) (Utf8.encode cs)
      rest := by
  induction cs with
  | nil => exact spells_quote rest
  | cons c more ih =>
    rw [List.flatMap_cons, Utf8.encode_append, List.append_assoc, Utf8.encode_cons]
    exact ih.cons c

theorem length_le_escaped (cs : List Char) : cs.length ≤ (cs.flatMap escapedChar).length := by
  induction cs with
  | nil => exact Nat.le_refl _
  | cons c more ih =>
    have one : 1 ≤ (escapedChar c).length := by
      unfold escapedChar
      split <;> try exact Nat.le_add_left 1 _
      split <;> exact Nat.le_add_left 1 _
    rw [List.flatMap_cons, List.length_append, List.length_cons]
    omega

/-- **A written text is read as the text.** -/
theorem readText_writeText (s : String) (rest : Bytes) :
    readText (Utf8.encode (writeText s) ++ rest) = .ok s rest := by
  have bytes : Utf8.encode (writeText s) ++ rest =
      0x22 :: (Utf8.encode (s.toList.flatMap escapedChar) ++ 0x22 :: rest) := by
    rw [writeText, Utf8.encode_cons, Utf8.encode_append, List.append_assoc, List.append_assoc]
    rfl
  have room : s.toList.length < (Utf8.encode (writeText s) ++ rest).length := by
    have escaped := length_le_escaped s.toList
    have size := Utf8.length_le_length_encode (s.toList.flatMap escapedChar)
    rw [bytes, List.length_cons, List.length_append]
    omega
  have inside := spells_text s.toList rest _ room
  rw [readText]
  generalize (Utf8.encode (writeText s) ++ rest).length = fuel at inside ⊢
  rw [bytes, List.drop_succ_cons, List.drop_zero, inside]
  dsimp only
  rw [Utf8.decode?_encode]
  dsimp only
  rw [String.ofList_toList]

end MetricsHarness.Json
