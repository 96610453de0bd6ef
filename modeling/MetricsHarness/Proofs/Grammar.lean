import MetricsHarness.Json.Number
import MetricsHarness.Json.Texts

/-!
# The grammar of a document

What a document says is told here without a reader: `Spelled s v rest` means that the bytes `s`
begin with a spelling of the value `v`, blanks before it included, and that `rest` comes after.
The parts of a number and the spelling of a text are predicates on their bytes. Lists and objects
share their commas (`Inside`, `More`) and differ in their closing byte and in what stands between
the commas.

A text is the string it says. Bytes between quotes may say none: a surrogate can stand without its
partner, and the bytes need not be UTF-8. Where a document is UTF-8, which it has to be to be JSON,
the second does not happen.
-/

namespace MetricsHarness.Json

/-- A value of a document; a text or a key that says no string is none. -/
inductive Value where
  | null
  | boolean (b : Bool)
  | number (token : Bytes)
  | text (content : Option String)
  | list (items : List Value)
  | object (members : List (Option String × Value))

namespace Grammar

open Text

/-! ## Numbers -/

/-- One digit or more. -/
def IsDigits (t : Bytes) : Prop := t ≠ [] ∧ ∀ b ∈ t, isDigitByte b = true

/-- The digits before the point: zero alone, or any that do not begin with it. -/
inductive IsWhole : Bytes → Prop
  | zero : IsWhole [0x30]
  | digits {d : UInt8} {t : Bytes} (digits : IsDigits (d :: t)) (nonzero : d ≠ 0x30) :
    IsWhole (d :: t)

/-- A point and digits, or nothing. -/
inductive IsFraction : Bytes → Prop
  | none : IsFraction []
  | some {t : Bytes} (digits : IsDigits t) : IsFraction (0x2E :: t)

/-- An `e`, a sign or none, and digits, or nothing at all. -/
inductive IsExponent : Bytes → Prop
  | none : IsExponent []
  | some {e : UInt8} {sign t : Bytes} (mark : e = 0x65 ∨ e = 0x45)
    (signed : sign ∈ [[], [0x2B], [0x2D]]) (digits : IsDigits t) : IsExponent (e :: (sign ++ t))

/-- A number. -/
inductive IsNumber : Bytes → Prop
  | mk {sign w f e : Bytes} (signed : sign ∈ [[], [0x2D]]) (whole : IsWhole w)
    (fraction : IsFraction f) (exponent : IsExponent e) : IsNumber (sign ++ (w ++ (f ++ e)))

/-! ## Texts -/

/-- The letters of the short escapes and the bytes they stand for. -/
def letters : List (UInt8 × UInt8) :=
  [(0x22, 0x22), (0x5C, 0x5C), (0x2F, 0x2F), (0x62, 0x08), (0x66, 0x0C), (0x6E, 0x0A),
    (0x72, 0x0D), (0x74, 0x09)]

/-- The number that four hexadecimal digits write. -/
def IsHex (digits : Bytes) (n : Nat) : Prop :=
  ∃ a b c d w x y z, digits = [a, b, c, d] ∧ hexValue? a = some w ∧ hexValue? b = some x ∧
    hexValue? c = some y ∧ hexValue? d = some z ∧ n = ((w * 16 + x) * 16 + y) * 16 + z

/-- What may stand between the quotes of a text. -/
inductive IsSpelling : Bytes → Prop
  | nil : IsSpelling []
  | plain {b : UInt8} {raw : Bytes} (plain : isPlainByte b = true) (more : IsSpelling raw) :
    IsSpelling (b :: raw)
  | letter {l b : UInt8} {raw : Bytes} (short : (l, b) ∈ letters) (more : IsSpelling raw) :
    IsSpelling (0x5C :: l :: raw)
  | hex {digits raw : Bytes} {n : Nat} (hex : IsHex digits n) (more : IsSpelling raw) :
    IsSpelling (0x5C :: 0x75 :: (digits ++ raw))

/-- The bytes that a spelling stands for. Characters past 16 bits are escaped as two surrogates. -/
inductive StandsFor : Bytes → Bytes → Prop
  | nil : StandsFor [] []
  | plain {b : UInt8} {raw bytes : Bytes} (plain : isPlainByte b = true)
    (more : StandsFor raw bytes) : StandsFor (b :: raw) (b :: bytes)
  | letter {l b : UInt8} {raw bytes : Bytes} (short : (l, b) ∈ letters)
    (more : StandsFor raw bytes) : StandsFor (0x5C :: l :: raw) (b :: bytes)
  | hex {digits raw bytes : Bytes} {n : Nat} (hex : IsHex digits n)
    (leading : isLeading n = false) (trailing : isTrailing n = false) (more : StandsFor raw bytes) :
    StandsFor (0x5C :: 0x75 :: (digits ++ raw)) (Utf8.encodeChar (Char.ofNat n) ++ bytes)
  | pair {digits digits' raw bytes : Bytes} {n m : Nat} (first : IsHex digits n)
    (leading : isLeading n = true) (second : IsHex digits' m) (trailing : isTrailing m = true)
    (more : StandsFor raw bytes) :
    StandsFor (0x5C :: 0x75 :: (digits ++ 0x5C :: 0x75 :: (digits' ++ raw)))
      (Utf8.encodeChar (Char.ofNat ((n - 0xD800) * 1024 + (m - 0xDC00) + 0x10000)) ++ bytes)

/-- The string that a spelling says, none if there is no such string. -/
inductive Denotes (raw : Bytes) : Option String → Prop
  | some {bytes : Bytes} {cs : List Char} (stands : StandsFor raw bytes)
    (text : Utf8.decode? bytes = some cs) : Denotes raw (some (String.ofList cs))
  | none (silent : ¬ ∃ bytes cs, StandsFor raw bytes ∧ Utf8.decode? bytes = some cs) :
    Denotes raw none

theorem exists_denotes (raw : Bytes) : ∃ content, Denotes raw content := by
  by_cases silent : ∃ bytes cs, StandsFor raw bytes ∧ Utf8.decode? bytes = some cs
  · obtain ⟨bytes, cs, stands, text⟩ := silent
    exact ⟨_, .some stands text⟩
  · exact ⟨none, .none silent⟩

/-- Only a spelling stands for bytes. -/
theorem StandsFor.isSpelling {raw bytes : Bytes} (stands : StandsFor raw bytes) :
    IsSpelling raw := by
  induction stands with
  | nil => exact .nil
  | plain plain _ ih => exact .plain plain ih
  | letter letter _ ih => exact .letter letter ih
  | hex hex _ _ _ ih => exact .hex hex ih
  | pair first _ second _ _ ih => exact .hex first (.hex second ih)

/-! ## Values -/

section Sequences

variable {α : Type} (close : UInt8) (element : Bytes → α → Bytes → Prop)

/-- The elements after the first, each behind a comma, and the closing byte. -/
inductive More : Bytes → List α → Bytes → Prop
  | blank {b : UInt8} {s rest : Bytes} {items : List α} (blank : isBlankByte b = true)
    (more : More s items rest) : More (b :: s) items rest
  | close {rest : Bytes} : More (close :: rest) [] rest
  | comma {s mid rest : Bytes} {item : α} {items : List α} (front : element s item mid)
    (more : More mid items rest) : More (0x2C :: s) (item :: items) rest

/-- The elements between commas, and the closing byte. -/
inductive Inside : Bytes → List α → Bytes → Prop
  | blank {b : UInt8} {s rest : Bytes} {items : List α} (blank : isBlankByte b = true)
    (more : Inside s items rest) : Inside (b :: s) items rest
  | close {rest : Bytes} : Inside (close :: rest) [] rest
  | items {s mid rest : Bytes} {item : α} {items : List α} (front : element s item mid)
    (more : More close element mid items rest) : Inside s (item :: items) rest

end Sequences

/-- A key in quotes, a colon and a value. -/
inductive Member (value : Bytes → Value → Bytes → Prop) :
    Bytes → Option String × Value → Bytes → Prop
  | mk {gap raw gap' s rest : Bytes} {key : Option String} {v : Value}
    (blank : ∀ b ∈ gap, isBlankByte b = true) (spelling : IsSpelling raw)
    (denotes : Denotes raw key) (blank' : ∀ b ∈ gap', isBlankByte b = true)
    (next : value s v rest) :
    Member value (gap ++ 0x22 :: (raw ++ 0x22 :: (gap' ++ 0x3A :: s))) (key, v) rest

/-- The bytes begin with a spelling of a value, and others come after it. -/
inductive Spelled : Bytes → Value → Bytes → Prop
  | blank {b : UInt8} {s rest : Bytes} {v : Value} (blank : isBlankByte b = true)
    (value : Spelled s v rest) : Spelled (b :: s) v rest
  | null {rest : Bytes} : Spelled (0x6E :: 0x75 :: 0x6C :: 0x6C :: rest) .null rest
  | yes {rest : Bytes} : Spelled (0x74 :: 0x72 :: 0x75 :: 0x65 :: rest) (.boolean true) rest
  | no {rest : Bytes} :
    Spelled (0x66 :: 0x61 :: 0x6C :: 0x73 :: 0x65 :: rest) (.boolean false) rest
  | number {token rest : Bytes} (number : IsNumber token) :
    Spelled (token ++ rest) (.number token) rest
  | text {raw rest : Bytes} {t : Option String} (spelling : IsSpelling raw)
    (denotes : Denotes raw t) : Spelled (0x22 :: (raw ++ 0x22 :: rest)) (.text t) rest
  | list {s rest : Bytes} {items : List Value} (inside : Inside 0x5D Spelled s items rest) :
    Spelled (0x5B :: s) (.list items) rest
  | object {s rest : Bytes} {members : List (Option String × Value)}
    (inside : Inside 0x7D (Member Spelled) s members rest) :
    Spelled (0x7B :: s) (.object members) rest

/-- The digits before the point begin with one. -/
theorem IsWhole.front {w : Bytes} (whole : IsWhole w) :
    ∃ d more, w = d :: more ∧ isDigitByte d = true := by
  cases whole with
  | zero => exact ⟨0x30, [], rfl, by decide⟩
  | digits digits _ => exact ⟨_, _, rfl, (List.forall_mem_cons.mp digits.2).1⟩

/-- A number begins with a minus sign or a digit. -/
theorem IsNumber.front {token : Bytes} (number : IsNumber token) :
    ∃ b more, token = b :: more ∧ (b = 0x2D ∨ isDigitByte b = true) := by
  obtain ⟨signed, whole, fraction, exponent⟩ := number
  rcases List.mem_cons.mp signed with rfl | minus
  · obtain ⟨d, more, rfl, digit⟩ := whole.front
    exact ⟨d, _, rfl, .inr digit⟩
  · rw [List.mem_singleton.mp minus]
    exact ⟨0x2D, _, rfl, .inl rfl⟩

/-- Where an opening bracket stands there is a list. -/
theorem Spelled.of_bracket {s rest : Bytes} {v : Value} (h : Spelled (0x5B :: s) v rest) :
    ∃ items, v = .list items ∧ Inside 0x5D Spelled s items rest := by
  generalize front : 0x5B :: s = t at h
  cases h with
  | blank blank _ =>
    obtain ⟨rfl, -⟩ := List.cons.inj front
    exact absurd blank (by decide)
  | number number =>
    obtain ⟨b, more, rfl, first⟩ := number.front
    obtain ⟨rfl, -⟩ := List.cons.inj front
    exact absurd first (by decide)
  | list inside =>
    obtain ⟨-, rfl⟩ := List.cons.inj front
    exact ⟨_, rfl, inside⟩
  | null => exact absurd (List.cons.inj front).1 (by decide)
  | yes => exact absurd (List.cons.inj front).1 (by decide)
  | no => exact absurd (List.cons.inj front).1 (by decide)
  | text => exact absurd (List.cons.inj front).1 (by decide)
  | object => exact absurd (List.cons.inj front).1 (by decide)

/-- Where an opening bracket stands in a list its first element is a list. -/
theorem Inside.of_bracket {s rest : Bytes} {items : List Value}
    (h : Inside 0x5D Spelled (0x5B :: s) items rest) :
    ∃ inner more, items = .list inner :: more := by
  generalize front : 0x5B :: s = t at h
  cases h with
  | blank blank _ =>
    obtain ⟨rfl, -⟩ := List.cons.inj front
    exact absurd blank (by decide)
  | close => exact absurd (List.cons.inj front).1 (by decide)
  | items value _ =>
    rw [← front] at value
    obtain ⟨inner, rfl, -⟩ := value.of_bracket
    exact ⟨inner, _, rfl⟩

/-- A document spells a value, and nothing but blanks comes after it. -/
def Document (body : Bytes) (v : Value) : Prop :=
  ∃ rest, Spelled body v rest ∧ ∀ b ∈ rest, isBlankByte b = true

end Grammar

end MetricsHarness.Json
