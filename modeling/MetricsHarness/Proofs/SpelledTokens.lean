import MetricsHarness.Proofs.DocumentTexts
import MetricsHarness.Proofs.NumberTokens
import MetricsHarness.Proofs.TextTokens
import MetricsHarness.Proofs.Unambiguous

/-!
# Tokens that are taken

Reading and passing refuse no token that the grammar has. A text that says a string is read as that
string (`readText_of_denotes`), and any spelling of a text is passed (`passText_of_isSpelling`),
also one that says none. A number is passed, if no number goes on behind it
(`passNumberDigits_of_isNumber`).

The induction over a text is on what it stands for: a plain byte, a short escape, a number in
hexadecimal digits, or two of them.
-/

namespace MetricsHarness.Json

open Grammar Text

variable {s rest : Bytes}

/-! ## Escapes -/

/-- Four digits are read as their number. -/
theorem readHex_of_isHex {digits : Bytes} {n : Nat} (hex : IsHex digits n) (s : Bytes) :
    readHex (digits ++ s) = .ok n s := by
  obtain ⟨a, b, c, d, w, x, y, z, rfl, ha, hb, hc, hd, rfl⟩ := hex
  simp only [List.cons_append, List.nil_append, readHex, ha, hb, hc, hd]

/-- A short escape is read as its byte. -/
theorem readEscape_letter {l b : UInt8} (short : (l, b) ∈ letters) (s : Bytes) :
    readEscape (l :: s) = .ok [b] s := by
  simp only [letters, List.mem_cons, Prod.mk.injEq, List.not_mem_nil, or_false] at short
  rcases short with ⟨rfl, rfl⟩ | ⟨rfl, rfl⟩ | ⟨rfl, rfl⟩ | ⟨rfl, rfl⟩ | ⟨rfl, rfl⟩ | ⟨rfl, rfl⟩ |
    ⟨rfl, rfl⟩ | ⟨rfl, rfl⟩ <;> rfl

/-- A short escape is passed over. -/
theorem passEscape_letter {l b : UInt8} (short : (l, b) ∈ letters) (s : Bytes) :
    passEscape (l :: s) = .ok () s := by
  simp only [letters, List.mem_cons, Prod.mk.injEq, List.not_mem_nil, or_false] at short
  rcases short with ⟨rfl, rfl⟩ | ⟨rfl, rfl⟩ | ⟨rfl, rfl⟩ | ⟨rfl, rfl⟩ | ⟨rfl, rfl⟩ | ⟨rfl, rfl⟩ |
    ⟨rfl, rfl⟩ | ⟨rfl, rfl⟩ <;> rfl

/-- The number of a character is read as the character. -/
theorem readEscape_hex {digits : Bytes} {n : Nat} (hex : IsHex digits n)
    (leading : isLeading n = false) (trailing : isTrailing n = false) (s : Bytes) :
    readEscape (0x75 :: (digits ++ s)) = .ok (Utf8.encodeChar (Char.ofNat n)) s := by
  unfold readEscape
  rw [bind_eq (nextInText_cons _ _)]
  show (readHex >>= _) _ = _
  rw [bind_eq (readHex_of_isHex hex s), trailing, leading]
  rfl

/-- An escape of four digits is passed over. -/
theorem passEscape_hex {digits : Bytes} {n : Nat} (hex : IsHex digits n) (s : Bytes) :
    passEscape (0x75 :: (digits ++ s)) = .ok () s := by
  unfold passEscape
  rw [bind_eq (nextInText_cons _ _)]
  show (readHex >>= _) _ = _
  rw [bind_eq (readHex_of_isHex hex s)]
  rfl

/-- The trailing half completes the leading one. -/
theorem readPartner_hex {digits : Bytes} {m : Nat} (hex : IsHex digits m)
    (trailing : isTrailing m = true) (leading : Nat) (s : Bytes) :
    readPartner leading (0x5C :: 0x75 :: (digits ++ s)) =
      .ok (Utf8.encodeChar (Char.ofNat ((leading - 0xD800) * 1024 + (m - 0xDC00) + 0x10000)))
        s := by
  unfold readPartner
  rw [bind_eq (nextInText_cons _ _)]
  show (nextInText >>= _) (0x75 :: (digits ++ s)) = _
  rw [bind_eq (nextInText_cons _ _)]
  show (readHex >>= _) _ = _
  rw [bind_eq (readHex_of_isHex hex s), trailing]
  rfl

/-- Two surrogates are read as their character. -/
theorem readEscape_pair {digits digits' : Bytes} {n m : Nat} (first : IsHex digits n)
    (leading : isLeading n = true) (second : IsHex digits' m) (trailing : isTrailing m = true)
    (s : Bytes) :
    readEscape (0x75 :: (digits ++ 0x5C :: 0x75 :: (digits' ++ s))) =
      .ok (Utf8.encodeChar (Char.ofNat ((n - 0xD800) * 1024 + (m - 0xDC00) + 0x10000))) s := by
  have noTrailing : isTrailing n = false := by
    simp only [isLeading, isTrailing, Bool.and_eq_true, Bool.and_eq_false_iff, decide_eq_true_eq,
      decide_eq_false_iff_not] at leading ⊢
    omega
  unfold readEscape
  rw [bind_eq (nextInText_cons _ _)]
  show (readHex >>= _) _ = _
  rw [bind_eq (readHex_of_isHex first _), noTrailing, leading]
  exact readPartner_hex second trailing n s

/-! ## Texts -/

/-- What a spelling stands for is read up to the closing quote. -/
theorem Grammar.StandsFor.spells {raw bytes : Bytes} (stands : StandsFor raw bytes) (rest : Bytes) :
    Spells raw.length (raw ++ 0x22 :: rest) bytes rest := by
  induction stands with
  | nil => exact spells_quote rest
  | @plain b raw bytes plain _ ih =>
    intro fuel room
    rw [List.length_cons] at room
    exact readTextBytes_plain (p := [b]) (List.forall_mem_singleton.mpr plain)
      (ih fuel (Nat.lt_of_succ_lt room))
  | @letter l b raw bytes short _ ih =>
    exact ih.escape (e := [l]) (readEscape_letter short _)
      (Nat.lt_succ_of_lt (Nat.lt_succ_self _))
  | @hex digits raw bytes n hex leading trailing _ ih =>
    have next := ih.escape (e := 0x75 :: digits) (readEscape_hex hex leading trailing _)
      (m := (0x5C :: 0x75 :: (digits ++ raw)).length)
      (by simp only [List.length_cons, List.length_append]; omega)
    rwa [List.cons_append, List.cons_append, List.append_assoc]
  | @pair digits digits' raw bytes n m first leading second trailing _ ih =>
    have next := Spells.escape (e := 0x75 :: (digits ++ 0x5C :: 0x75 :: digits')) ih
      (m := (0x5C :: 0x75 :: (digits ++ 0x5C :: 0x75 :: (digits' ++ raw))).length)
      (by
        rw [List.cons_append, List.append_assoc]
        exact readEscape_pair first leading second trailing _)
      (by simp only [List.length_cons, List.length_append]; omega)
    simpa only [List.cons_append, List.append_assoc] using next

/-- A text that says a string is read as the string. -/
theorem readText_of_denotes {raw : Bytes} {t : String} (denotes : Denotes raw (some t))
    (rest : Bytes) : readText (0x22 :: (raw ++ 0x22 :: rest)) = .ok t rest := by
  cases denotes with
  | some stands text =>
    have room : raw.length < (0x22 :: (raw ++ 0x22 :: rest)).length := by
      simp only [List.length_cons, List.length_append]
      omega
    have inside := stands.spells rest _ room
    rw [readText]
    generalize (0x22 :: (raw ++ 0x22 :: rest)).length = fuel at inside ⊢
    rw [List.drop_succ_cons, List.drop_zero, inside]
    dsimp only
    rw [text]

/-- A plain byte is passed over. -/
theorem passTextBytes_plain {b : UInt8} (plain : isPlainByte b = true) {fuel : Nat}
    (h : passTextBytes fuel s = .ok () rest) : passTextBytes fuel (b :: s) = .ok () rest := by
  cases fuel with
  | zero => nomatch h
  | succ fuel =>
    unfold passTextBytes at h ⊢
    rwa [List.dropWhile_cons_of_pos plain]

/-- An escape is passed over, at the price of one round. -/
theorem passTextBytes_escape {e : Bytes} (passed : passEscape (e ++ s) = .ok () s) {fuel : Nat}
    (h : passTextBytes fuel s = .ok () rest) :
    passTextBytes (fuel + 1) (0x5C :: (e ++ s)) = .ok () rest := by
  have special : ¬ isPlainByte 0x5C = true := by decide
  unfold passTextBytes
  rw [List.dropWhile_cons_of_neg special]
  simp [passed, h]

/-- A spelling is passed up to the closing quote. -/
theorem Grammar.IsSpelling.passes {raw : Bytes} (spelling : IsSpelling raw) (rest : Bytes) :
    ∀ fuel, raw.length < fuel → passTextBytes fuel (raw ++ 0x22 :: rest) = .ok () rest := by
  have escape {n : Nat} {e s : Bytes} (ih : ∀ fuel, n < fuel → passTextBytes fuel s = .ok () rest)
      (passed : passEscape (e ++ s) = .ok () s) {fuel : Nat} (room : n + 1 < fuel) :
      passTextBytes fuel (0x5C :: (e ++ s)) = .ok () rest := by
    obtain ⟨fuel, rfl⟩ := Nat.exists_eq_succ_of_ne_zero (Nat.ne_zero_of_lt room)
    exact passTextBytes_escape passed (ih fuel (Nat.lt_of_succ_lt_succ room))
  induction spelling with
  | nil =>
    intro fuel room
    obtain ⟨fuel, rfl⟩ := Nat.exists_eq_succ_of_ne_zero (Nat.ne_of_gt room)
    rfl
  | plain plain _ ih =>
    intro fuel room
    exact passTextBytes_plain plain (ih fuel (Nat.lt_of_succ_lt room))
  | letter short _ ih =>
    intro fuel room
    exact escape (e := [_]) ih (passEscape_letter short _) (Nat.lt_of_succ_lt room)
  | hex hex _ ih =>
    intro fuel room
    simp only [List.length_cons, List.length_append] at room
    rw [List.cons_append, List.cons_append, List.append_assoc]
    exact escape (e := 0x75 :: _) ih (passEscape_hex hex _) (by omega)

/-- A spelling is passed with its quotes, whether it says a string or not. -/
theorem passText_of_isSpelling {raw : Bytes} (spelling : IsSpelling raw) (rest : Bytes) :
    passText (0x22 :: (raw ++ 0x22 :: rest)) = .ok () rest := by
  refine spelling.passes rest _ ?_
  simp only [List.length_cons, List.length_append]
  omega

/-! ## Numbers -/

/-- Digits are taken up to what is none. -/
theorem takeDigits_append {t : Bytes} (digit : ∀ b ∈ t, isDigitByte b = true)
    (stop : ∀ b ∈ s.head?, isDigitByte b = false) : takeDigits (t ++ s) = .ok t s := by
  obtain ⟨taken, left⟩ := takeWhile_dropWhile_append digit stop
  rw [takeDigits, taken, left]

/-- A whole part is passed over up to what is no digit. -/
theorem passWhole_of_isWhole {w : Bytes} (whole : IsWhole w)
    (stop : ∀ b ∈ s.head?, isDigitByte b = false) : passWhole (w ++ s) = .ok () s := by
  cases whole with
  | zero =>
    unfold passWhole
    rw [bind_eq (peek_of_head rfl)]
    show (Reader.skip >>= fun _ => Reader.peek >>= _) (0x30 :: s) = _
    rw [bind_skip, List.drop_succ_cons, List.drop_zero, bind_eq (peek_of_head rfl)]
    cases ahead : s.head? with
    | none => rfl
    | some c =>
      dsimp only
      rw [stop c ahead]
      rfl
  | @digits d t digits nonzero =>
    obtain ⟨-, digit⟩ := digits
    have taken := takeDigits_append digit stop
    have first := (List.forall_mem_cons.mp digit).1
    unfold passWhole
    rw [bind_eq (peek_of_head rfl)]
    show (if d = 0x30 then _ else if isDigitByte d = true then _ else _ : Reader Unit) _ = _
    rw [if_neg nonzero, if_pos first, bind_eq taken]
    rfl

/-- At most one sign is passed over in front of digits. -/
theorem passSign_of_mem {sign : Bytes} (signed : sign ∈ [[], [0x2B], [0x2D]]) {d : UInt8}
    (digit : isDigitByte d = true) (s : Bytes) :
    passSign (sign ++ d :: s) = .ok () (d :: s) := by
  have noPlus : some d = some 0x2B → False := some_ne_of_isDigitByte digit rfl
  have noMinus : some d = some 0x2D → False := some_ne_of_isDigitByte digit rfl
  simp only [List.mem_cons, List.not_mem_nil, or_false] at signed
  rcases signed with rfl | rfl | rfl
  · unfold passSign
    rw [List.nil_append, bind_eq (peek_of_head rfl)]
    simp only [List.head?_cons]
    rfl
  · rfl
  · rfl

section Stops

variable (stops : Stops rest)
include stops

/-- The digits of an exponent are passed over. -/
theorem passExponent_of_digits {m : UInt8} {sign t : Bytes} (signed : sign ∈ [[], [0x2B], [0x2D]])
    (digits : IsDigits t) : passExponent (m :: (sign ++ (t ++ rest))) = .ok () rest := by
  obtain ⟨d, more, rfl, digit⟩ := digits.front
  have taken := takeDigits_append digits.2 fun b ahead => (stops b ahead).1
  unfold passExponent
  rw [bind_skip, List.drop_succ_cons, List.drop_zero, List.cons_append,
    bind_eq (passSign_of_mem signed digit _), bind_eq (peek_of_head rfl)]
  show (if isDigitByte d = true then _ else _ : Reader Unit) _ = _
  rw [if_pos digit, ← List.cons_append, bind_eq taken]
  rfl

/-- An exponent is passed, or there is none. -/
theorem passTail_of_isExponent {e : Bytes} (exponent : IsExponent e) :
    (Reader.peek >>= fun
      | some 0x65 => passExponent
      | some 0x45 => passExponent
      | _ => pure () : Reader Unit) (e ++ rest) = .ok () rest := by
  rw [bind_eq (peek_of_head rfl)]
  cases exponent with
  | none =>
    have lower : rest.head? = some 0x65 → False := fun same => (stops _ same).2.2.1 rfl
    have upper : rest.head? = some 0x45 → False := fun same => (stops _ same).2.2.2 rfl
    simp only [List.nil_append]
    rfl
  | @some m sign t mark signed digits =>
    have passed := passExponent_of_digits stops (m := m) signed digits
    rw [List.cons_append, List.append_assoc]
    rcases mark with rfl | rfl <;> exact passed

/-- The digits of a fraction are passed over, and an exponent behind them. -/
theorem passFraction_of_digits {t e : Bytes} (digits : IsDigits t) (exponent : IsExponent e) :
    passFraction (0x2E :: (t ++ (e ++ rest))) = .ok () rest := by
  have taken := takeDigits_append digits.2 fun b ahead => (exponent.stop stops b ahead).1
  have filled : ¬ t.isEmpty = true := fun empty => digits.1 (List.isEmpty_iff.mp empty)
  unfold passFraction
  rw [bind_skip, List.drop_succ_cons, List.drop_zero, bind_eq taken]
  dsimp only
  rw [if_neg filled]
  exact passTail_of_isExponent stops exponent

/-- A number without its sign is passed. -/
theorem passNumberDigits_of_parts {w f e : Bytes} (whole : IsWhole w) (fraction : IsFraction f)
    (exponent : IsExponent e) : passNumberDigits (w ++ (f ++ (e ++ rest))) = .ok () rest := by
  have passed := passWhole_of_isWhole whole (fraction.stop stops exponent)
  unfold passNumberDigits
  rw [bind_eq passed]
  cases fraction with
  | some digits => exact passFraction_of_digits stops digits exponent
  | none =>
    have tail := passTail_of_isExponent stops exponent
    have point : (e ++ rest).head? = some 0x2E → False := fun same =>
      (exponent.stop stops _ same).2 rfl
    rw [List.nil_append]
    rw [bind_eq (peek_of_head rfl)] at tail ⊢
    generalize (e ++ rest).head? = front at tail point ⊢
    split at tail
    next => exact tail
    next => exact tail
    next => simpa only using tail

end Stops

end MetricsHarness.Json
