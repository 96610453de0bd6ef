import Mathlib.Data.Char
import Mathlib.Data.List.Lex
import MetricsHarness.Proofs.Utf8

/-!
# Texts are ordered as their bytes

Of two texts the one that is less by its characters is less by its bytes (`encode_lt_encode_iff`).
The first bytes of a character tell how many bytes it has, and more of them for greater characters;
of characters with as many bytes the bytes are the digits, the highest first. So the bytes of
different characters differ before either comes to an end.
-/

namespace MetricsHarness.Text.Utf8

/-- The four digits of a number on the base of 64, the first of them without bound. -/
theorem digits_eq (n : Nat) :
    n / 262144 * 262144 + n / 4096 % 64 * 4096 + n / 64 % 64 * 64 + n % 64 = n := by
  have third : n / 4096 / 64 = n / 262144 := by omega
  have second : n / 64 / 64 = n / 4096 := by omega
  omega

/-- Of two numbers the lesser one has the lesser digits. -/
theorem digits_lt {n m : Nat} (less : n < m) :
    n / 262144 < m / 262144 ∨ n / 262144 = m / 262144 ∧ (n / 4096 % 64 < m / 4096 % 64 ∨
      n / 4096 % 64 = m / 4096 % 64 ∧ (n / 64 % 64 < m / 64 % 64 ∨
        n / 64 % 64 = m / 64 % 64 ∧ n % 64 < m % 64)) := by
  have first := digits_eq n
  have second := digits_eq m
  have bounds : n / 4096 % 64 < 64 ∧ n / 64 % 64 < 64 ∧ n % 64 < 64 :=
    ⟨Nat.mod_lt _ (by decide), Nat.mod_lt _ (by decide), Nat.mod_lt _ (by decide)⟩
  have others : m / 4096 % 64 < 64 ∧ m / 64 % 64 < 64 ∧ m % 64 < 64 :=
    ⟨Nat.mod_lt _ (by decide), Nat.mod_lt _ (by decide), Nat.mod_lt _ (by decide)⟩
  generalize n / 262144 = n₃, n / 4096 % 64 = n₂, n / 64 % 64 = n₁, n % 64 = n₀ at *
  generalize m / 262144 = m₃, m / 4096 % 64 = m₂, m / 64 % 64 = m₁, m % 64 = m₀ at *
  omega

theorem ofNat_lt_ofNat {n m : Nat} (bound : m < 256) (less : n < m) :
    UInt8.ofNat n < UInt8.ofNat m := by
  rw [UInt8.lt_iff_toNat_lt, toNat_ofNat_of_lt bound, toNat_ofNat_of_lt (less.trans bound)]
  exact less

/-- The bytes of the last characters are four digits, the first of them behind a mark. -/
theorem four_lt_four {n m : Nat} (less : n < m) (last : m < 0x110000) (x y : Bytes) :
    UInt8.ofNat (0xF0 + n / 262144) :: UInt8.ofNat (0x80 + n / 4096 % 64) ::
        UInt8.ofNat (0x80 + n / 64 % 64) :: UInt8.ofNat (0x80 + n % 64) :: x <
      UInt8.ofNat (0xF0 + m / 262144) :: UInt8.ofNat (0x80 + m / 4096 % 64) ::
        UInt8.ofNat (0x80 + m / 64 % 64) :: UInt8.ofNat (0x80 + m % 64) :: y := by
  rcases digits_lt less with first | ⟨eq, second | ⟨eq', third | ⟨eq'', fourth⟩⟩⟩
  · exact List.cons_lt_cons_iff.mpr (.inl (ofNat_lt_ofNat (by omega) (by omega)))
  · rw [eq]
    refine List.cons_lt_cons_iff.mpr (.inr ⟨rfl, ?_⟩)
    exact List.cons_lt_cons_iff.mpr (.inl (ofNat_lt_ofNat (by omega) (by omega)))
  · rw [eq, eq']
    refine List.cons_lt_cons_iff.mpr (.inr ⟨rfl, List.cons_lt_cons_iff.mpr (.inr ⟨rfl, ?_⟩)⟩)
    exact List.cons_lt_cons_iff.mpr (.inl (ofNat_lt_ofNat (by omega) (by omega)))
  · rw [eq, eq', eq'']
    refine List.cons_lt_cons_iff.mpr (.inr ⟨rfl, List.cons_lt_cons_iff.mpr (.inr ⟨rfl,
      List.cons_lt_cons_iff.mpr (.inr ⟨rfl, ?_⟩)⟩)⟩)
    exact List.cons_lt_cons_iff.mpr (.inl (ofNat_lt_ofNat (by omega) (by omega)))

/-- The bytes of a lesser character are less, whatever follows them. -/
theorem encodeChar_lt {c d : Char} (less : c < d) (x y : Bytes) :
    encodeChar c ++ x < encodeChar d ++ y := by
  have numbers : c.toNat < d.toNat := less
  have last : d.toNat < 0x110000 := by
    have valid : d.toNat < 0xD800 ∨ 0xDFFF < d.toNat ∧ d.toNat < 0x110000 := d.valid
    omega
  unfold encodeChar
  generalize c.toNat = n at numbers
  generalize d.toNat = m at numbers last
  dsimp only
  -- Characters of four bytes apart, the first byte decides or at most three digits do.
  by_cases long : n < 0x10000
  · split_ifs <;>
      simp only [List.cons_append, List.nil_append, List.cons_lt_cons_iff, UInt8.lt_iff_toNat_lt,
        ← UInt8.toNat_inj, UInt8.toNat_ofNat'] <;> omega
  · rw [if_neg (by omega), if_neg (by omega), if_neg long, if_neg (by omega), if_neg (by omega),
      if_neg (by omega)]
    exact four_lt_four numbers last x y

/-- A lesser text has lesser bytes. -/
theorem encode_lt_encode {cs ds : List Char} (less : cs < ds) : encode cs < encode ds := by
  induction cs generalizing ds with
  | nil =>
    cases ds with
    | nil => exact absurd less (List.lt_irrefl [])
    | cons d ds =>
      obtain ⟨a, tail, eq, -⟩ := scan_encodeChar d []
      rw [encode_cons, eq]
      exact List.nil_lt_cons _ _
  | cons c cs ih =>
    cases ds with
    | nil => exact absurd less (List.not_lt_nil _)
    | cons d ds =>
      rw [encode_cons, encode_cons]
      rcases List.cons_lt_cons_iff.mp less with first | ⟨rfl, others⟩
      · exact encodeChar_lt first _ _
      · exact List.append_left_lt (ih others)

/-- **Texts are ordered as their bytes.** -/
theorem encode_lt_encode_iff {cs ds : List Char} : encode cs < encode ds ↔ cs < ds := by
  refine ⟨fun less => ?_, encode_lt_encode⟩
  rcases lt_trichotomy cs ds with lesser | rfl | greater
  · exact lesser
  · exact absurd less (List.lt_irrefl _)
  · exact absurd (encode_lt_encode greater) (List.lt_asymm less)

end MetricsHarness.Text.Utf8
