import MetricsHarness.Json.Number

/-!
# What answers of readers tell

From the answer of a reader its steps are told one by one: a reader after another has answered
(`bind_eq_ok`), a choice has taken one of its branches (`branch_eq_ok`), and looking ahead has shown
the front of the bytes (`peek_eq_ok`). A failed step leaves no answer, so the faults of a reader
play no part here.
-/

namespace MetricsHarness.Json

variable {α β : Type}

variable {r : Reader α} {f : α → Reader β} {s rest : Bytes}

/-- Two readers one after another answer only if both do. -/
theorem bind_eq_ok {b : β} (h : (r >>= f) s = .ok b rest) :
    ∃ a mid, r s = .ok a mid ∧ f a mid = .ok b rest := by
  change Reader.bind r f s = _ at h
  rw [Reader.bind] at h
  cases first : r s with
  | ok a mid =>
    rw [first] at h
    exact ⟨a, mid, rfl, h⟩
  | failed c p left =>
    rw [first] at h
    nomatch h

theorem pure_eq_ok {a b : α} (h : (pure a : Reader α) s = .ok b rest) : a = b ∧ s = rest := by
  change Reading.ok a s = _ at h
  injection h with value left
  exact ⟨value, left⟩

/-- Looking ahead answers the front of the bytes and leaves them. -/
theorem peek_eq_ok {f : Option UInt8 → Reader β} {b : β}
    (h : (Reader.peek >>= f) s = .ok b rest) : ∃ o, s.head? = o ∧ f o s = .ok b rest :=
  ⟨s.head?, rfl, h⟩

/-- Behind blanks stands the front of what they leave. -/
theorem skipBlanks_eq_ok {f : Option UInt8 → Reader β} {b : β}
    (h : (skipBlanks >>= f) s = .ok b rest) :
    ∃ o mid, s.dropWhile isBlankByte = mid ∧ mid.head? = o ∧ f o mid = .ok b rest :=
  ⟨_, _, rfl, rfl, h⟩

/-- A choice of readers answers what the chosen one does. -/
theorem branch_eq_ok {c : Prop} [Decidable c] {r r' : Reader α} {a : α}
    (h : (if c then r else r') s = .ok a rest) :
    c ∧ r s = .ok a rest ∨ ¬ c ∧ r' s = .ok a rest := by
  by_cases chosen : c
  · rw [if_pos chosen] at h
    exact .inl ⟨chosen, h⟩
  · rw [if_neg chosen] at h
    exact .inr ⟨chosen, h⟩

theorem bind_skip (f : Unit → Reader β) (s : Bytes) :
    (Reader.skip >>= f) s = f () (s.drop 1) := rfl

theorem bind_takeDigits (f : List UInt8 → Reader β) (s : Bytes) :
    (takeDigits >>= f) s = f (s.takeWhile isDigitByte) (s.dropWhile isDigitByte) := rfl

end MetricsHarness.Json
