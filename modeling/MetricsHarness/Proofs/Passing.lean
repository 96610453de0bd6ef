import MetricsHarness.Proofs.NumberTokens
import MetricsHarness.Proofs.TextTokens

/-!
# Values that are passed

Moving past the value of a member that nobody asked for succeeds only if there is a value
(`passValue_eq_ok`). The brackets that are open are kept on a stack, so the induction is on the
rounds: each round finds a value inside the open brackets, and after it what closes them all
(`Closes`). Where a bracket has been opened or a comma has been passed, and the bracket is not
closed there, the next round goes on inside of it (`Continues`).
-/

namespace MetricsHarness.Json

open Grammar

variable {α : Type} {s rest : Bytes}

/-! ## Blanks, words and colons -/

/-- What may stand behind a blank may stand behind blanks. -/
theorem of_blanks (P : Bytes → Prop) (blank : ∀ b s, isBlankByte b = true → P s → P (b :: s))
    {t : Bytes} (front : s.dropWhile isBlankByte = t) (h : P t) : P s := by
  induction s with
  | nil =>
    rw [← front] at h
    exact h
  | cons b s ih =>
    rw [List.dropWhile_cons] at front
    split at front
    next isBlank => exact blank b s isBlank (ih front)
    next =>
      rw [← front] at h
      exact h

/-- A value may stand behind blanks. -/
theorem spelled_of_blanks {t : Bytes} {v : Value} (front : s.dropWhile isBlankByte = t)
    (h : Spelled t v rest) : Spelled s v rest :=
  of_blanks (Spelled · v rest) (fun _ _ => .blank) front h

section Sequences

variable {close : UInt8} {element : Bytes → α → Bytes → Prop} {items : List α} {t : Bytes}
  (front : s.dropWhile isBlankByte = t)
include front

/-- Further elements may stand behind blanks. -/
theorem more_of_blanks (h : More close element t items rest) : More close element s items rest :=
  of_blanks (More close element · items rest) (fun _ _ => .blank) front h

/-- Elements may stand behind blanks. -/
theorem inside_of_blanks (h : Inside close element t items rest) :
    Inside close element s items rest :=
  of_blanks (Inside close element · items rest) (fun _ _ => .blank) front h

end Sequences

/-- A word is passed over whole. -/
theorem finishWord_eq_ok {word : Bytes} (h : finishWord word s = .ok () rest) :
    s = word ++ rest := by
  induction word generalizing s with
  | nil => exact (pure_eq_ok h).2
  | cons expected word ih =>
    cases s with
    | nil => nomatch h
    | cons b s =>
      have h : (if b = expected then finishWord word else Reader.fail .expectedIdent) s =
        .ok () rest := h
      obtain ⟨eq, h⟩ | ⟨-, h⟩ := branch_eq_ok h
      · rw [eq, ih h]
        rfl
      · nomatch h

/-- A colon is passed over behind blanks. -/
theorem colon_eq_ok (h : colon s = .ok () rest) : s.dropWhile isBlankByte = 0x3A :: rest := by
  unfold colon at h
  obtain ⟨front, mid, blanks, ahead, h⟩ := skipBlanks_eq_ok h
  split at h
  next =>
    obtain ⟨tail, rfl⟩ := List.head?_eq_some_iff.mp ahead
    injection h with _ left
    rw [blanks, ← left]
    rfl
  next => nomatch h
  next => nomatch h

/-- A key in quotes, a colon and a value are a member. -/
theorem member_of {raw mid mid' : Bytes} {key : Option String} {v : Value}
    (spelling : IsSpelling raw) (denotes : Denotes raw key)
    (front : s.dropWhile isBlankByte = 0x22 :: (raw ++ 0x22 :: mid))
    (marked : mid.dropWhile isBlankByte = 0x3A :: mid') (value : Spelled mid' v rest) :
    Member Spelled s (key, v) rest := by
  have blank (t : Bytes) : ∀ b ∈ t.takeWhile isBlankByte, isBlankByte b = true :=
    List.all_eq_true.mp List.all_takeWhile
  have member := Member.mk (blank s) spelling denotes (blank mid) value
  rw [← marked, List.takeWhile_append_dropWhile, ← front, List.takeWhile_append_dropWhile] at member
  exact member

/-! ## Fronts of values -/

/-- The byte that opens a bracket. -/
def Bracket.opening : Bracket → UInt8
  | .list => 0x5B
  | .object => 0x7B

/-- The parts of a number spell it. -/
theorem spelled_of_number {w f e : Bytes} (whole : IsWhole w) (fraction : IsFraction f)
    (exponent : IsExponent e) (eq : s = w ++ (f ++ (e ++ rest))) :
    Spelled s (.number (w ++ (f ++ e))) rest := by
  have number : IsNumber ([] ++ (w ++ (f ++ e))) := .mk (by decide) whole fraction exponent
  rw [eq, ← List.append_assoc f, ← List.append_assoc w]
  exact .number number

/-- Behind a minus the parts of a number spell it too. -/
theorem spelled_of_negative {w f e : Bytes} (whole : IsWhole w) (fraction : IsFraction f)
    (exponent : IsExponent e) (eq : s = w ++ (f ++ (e ++ rest))) :
    Spelled (0x2D :: s) (.number (0x2D :: (w ++ (f ++ e)))) rest := by
  have number : IsNumber ([0x2D] ++ (w ++ (f ++ e))) := .mk (by decide) whole fraction exponent
  rw [eq, ← List.append_assoc f, ← List.append_assoc w, ← List.cons_append]
  exact .number number

/-- A word at the front is a value with what its first letter begins. -/
theorem word_eq_ok {front : UInt8} {tail word : Bytes} {v : Value} {done a : α}
    (blanks : s.dropWhile isBlankByte = front :: tail)
    (h : (Reader.skip >>= fun _ => finishWord word >>= fun _ => pure done) (front :: tail) =
      .ok a rest)
    (value : ∀ rest, Spelled (front :: (word ++ rest)) v rest) : done = a ∧ Spelled s v rest := by
  rw [bind_skip] at h
  obtain ⟨_, left, finished, h⟩ := bind_eq_ok h
  obtain ⟨rfl, rfl⟩ := pure_eq_ok h
  rw [List.drop_one, List.tail_cons] at finished
  rw [finishWord_eq_ok finished] at blanks
  exact ⟨rfl, spelled_of_blanks blanks (value left)⟩

/-- At the front stands a scalar, which is passed, or an opening bracket. -/
theorem passFront_eq_ok {o : Option Bracket} (h : passFront s = .ok o rest) :
    (∃ v, o = none ∧ Spelled s v rest) ∨
      ∃ b, o = some b ∧ s.dropWhile isBlankByte = Bracket.opening b :: rest := by
  unfold passFront at h
  obtain ⟨front, mid, blanks, ahead, h⟩ := skipBlanks_eq_ok h
  split at h
  next => nomatch h
  next =>
    obtain ⟨tail, rfl⟩ := List.head?_eq_some_iff.mp ahead
    obtain ⟨rfl, value⟩ := word_eq_ok blanks h fun _ => .null
    exact .inl ⟨_, rfl, value⟩
  next =>
    obtain ⟨tail, rfl⟩ := List.head?_eq_some_iff.mp ahead
    obtain ⟨rfl, value⟩ := word_eq_ok blanks h fun _ => .yes
    exact .inl ⟨_, rfl, value⟩
  next =>
    obtain ⟨tail, rfl⟩ := List.head?_eq_some_iff.mp ahead
    obtain ⟨rfl, value⟩ := word_eq_ok blanks h fun _ => .no
    exact .inl ⟨_, rfl, value⟩
  next =>
    obtain ⟨tail, rfl⟩ := List.head?_eq_some_iff.mp ahead
    obtain ⟨_, left, digits, h⟩ := bind_eq_ok (bind_skip _ _ ▸ h)
    obtain ⟨rfl, rfl⟩ := pure_eq_ok h
    obtain ⟨w, f, e, whole, fraction, exponent, eq⟩ := passNumberDigits_eq_ok digits
    exact .inl ⟨_, rfl, spelled_of_blanks blanks (spelled_of_negative whole fraction exponent eq)⟩
  next =>
    obtain ⟨tail, rfl⟩ := List.head?_eq_some_iff.mp ahead
    obtain ⟨_, left, text, h⟩ := bind_eq_ok h
    obtain ⟨rfl, rfl⟩ := pure_eq_ok h
    obtain ⟨raw, spelling, eq⟩ := passTextBytes_eq_ok text
    obtain ⟨content, denotes⟩ := exists_denotes raw
    exact .inl ⟨.text content, rfl,
      spelled_of_blanks (blanks.trans (congrArg _ eq)) (.text spelling denotes)⟩
  next =>
    obtain ⟨tail, rfl⟩ := List.head?_eq_some_iff.mp ahead
    rw [bind_skip] at h
    obtain ⟨rfl, rfl⟩ := pure_eq_ok h
    exact .inr ⟨.list, rfl, blanks⟩
  next =>
    obtain ⟨tail, rfl⟩ := List.head?_eq_some_iff.mp ahead
    rw [bind_skip] at h
    obtain ⟨rfl, rfl⟩ := pure_eq_ok h
    exact .inr ⟨.object, rfl, blanks⟩
  next =>
    obtain ⟨-, h⟩ | ⟨-, h⟩ := branch_eq_ok h
    · obtain ⟨_, left, digits, h⟩ := bind_eq_ok h
      obtain ⟨rfl, rfl⟩ := pure_eq_ok h
      obtain ⟨w, f, e, whole, fraction, exponent, eq⟩ := passNumberDigits_eq_ok digits
      exact .inl ⟨_, rfl, spelled_of_blanks blanks (spelled_of_number whole fraction exponent eq)⟩
    · nomatch h

/-- What is passed over is a name and a colon, and makes a member of any value behind it. -/
theorem passKey_eq_ok (h : passKey s = .ok () rest) :
    ∃ key, ∀ v last, Spelled rest v last → Member Spelled s (key, v) last := by
  unfold passKey at h
  obtain ⟨front, mid, blanks, ahead, h⟩ := skipBlanks_eq_ok h
  split at h
  next =>
    obtain ⟨tail, rfl⟩ := List.head?_eq_some_iff.mp ahead
    obtain ⟨_, left, text, marked⟩ := bind_eq_ok h
    obtain ⟨raw, spelling, eq⟩ := passTextBytes_eq_ok text
    obtain ⟨key, denotes⟩ := exists_denotes raw
    exact ⟨key, fun v last value =>
      member_of spelling denotes (blanks.trans (congrArg _ eq)) (colon_eq_ok marked) value⟩
  next => nomatch h
  next => nomatch h

/-! ## Open brackets -/

/-- What comes after a value inside open brackets up to the end of the outermost. -/
inductive Closes : List Bracket → Bytes → Bytes → Prop
  | nil {s : Bytes} : Closes [] s s
  | list {s mid rest : Bytes} {stack : List Bracket} {items : List Value}
    (more : More 0x5D Spelled s items mid) (outer : Closes stack mid rest) :
    Closes (.list :: stack) s rest
  | object {s mid rest : Bytes} {stack : List Bracket} {members : List (Option String × Value)}
    (more : More 0x7D (Member Spelled) s members mid) (outer : Closes stack mid rest) :
    Closes (.object :: stack) s rest

/-- What comes after an opening bracket or a comma, if it does not close the bracket. -/
inductive Continues : List Bracket → Bytes → Bytes → Prop
  | list {s mid rest : Bytes} {stack : List Bracket} {v : Value} (value : Spelled s v mid)
    (closes : Closes (.list :: stack) mid rest) : Continues (.list :: stack) s rest
  | object {s mid rest : Bytes} {stack : List Bracket} {m : Option String × Value}
    (member : Member Spelled s m mid) (closes : Closes (.object :: stack) mid rest) :
    Continues (.object :: stack) s rest

/-- A closing bracket ends the innermost one. -/
theorem Closes.close {b : Bracket} {stack : List Bracket} {tail : Bytes}
    (front : s.dropWhile isBlankByte = b.closing :: tail) (outer : Closes stack tail rest) :
    Closes (b :: stack) s rest := by
  cases b with
  | list => exact .list (more_of_blanks front .close) outer
  | object => exact .object (more_of_blanks front .close) outer

/-- A comma goes on with the innermost one. -/
theorem Continues.closes {stack : List Bracket} {tail : Bytes}
    (front : s.dropWhile isBlankByte = 0x2C :: tail) (continues : Continues stack tail rest) :
    Closes stack s rest := by
  cases continues with
  | list value closes =>
    cases closes with
    | list more outer => exact .list (more_of_blanks front (.comma value more)) outer
  | object member closes =>
    cases closes with
    | object more outer => exact .object (more_of_blanks front (.comma member more)) outer

/-- After a value brackets are closed until a comma comes or none is left. -/
theorem passClosings_eq_ok {stack left : List Bracket}
    (h : passClosings stack true s = .ok left rest) :
    (left = [] → Closes stack s rest) ∧ ∀ last, Continues left rest last → Closes stack s last := by
  induction stack generalizing s with
  | nil =>
    obtain ⟨rfl, rfl⟩ := pure_eq_ok h
    exact ⟨fun _ => .nil, fun last continues => nomatch continues⟩
  | cons b outer ih =>
    unfold passClosings at h
    obtain ⟨front, mid, blanks, ahead, h⟩ := skipBlanks_eq_ok h
    split at h
    next => nomatch h
    next c =>
      obtain ⟨tail, rfl⟩ := List.head?_eq_some_iff.mp ahead
      obtain ⟨comma, h⟩ | ⟨-, h⟩ := branch_eq_ok h
      · rw [bind_skip] at h
        obtain ⟨rfl, rfl⟩ := pure_eq_ok h
        have comma : c = 0x2C := by simpa using comma
        rw [comma] at blanks
        exact ⟨fun none => absurd none (List.cons_ne_nil _ _),
          fun last continues => continues.closes blanks⟩
      · obtain ⟨closing, h⟩ | ⟨-, h⟩ := branch_eq_ok h
        · rw [bind_skip] at h
          rw [closing] at blanks
          obtain ⟨ended, goesOn⟩ := ih h
          exact ⟨fun none => .close blanks (ended none),
            fun last continues => .close blanks (goesOn last continues)⟩
        · nomatch h

/-- After an opening bracket it is closed, or something stands in it. -/
theorem passClosings_opened {b : Bracket} {stack left : List Bracket}
    (h : passClosings (b :: stack) false s = .ok left rest) :
    (∃ tail, s.dropWhile isBlankByte = b.closing :: tail ∧
      passClosings stack true tail = .ok left rest) ∨
    left = b :: stack ∧ s.dropWhile isBlankByte = rest := by
  unfold passClosings at h
  obtain ⟨front, mid, blanks, ahead, h⟩ := skipBlanks_eq_ok h
  split at h
  next => nomatch h
  next c =>
    obtain ⟨tail, rfl⟩ := List.head?_eq_some_iff.mp ahead
    obtain ⟨none, h⟩ | ⟨-, h⟩ := branch_eq_ok h
    · nomatch none
    · obtain ⟨closing, h⟩ | ⟨-, h⟩ := branch_eq_ok h
      · rw [bind_skip] at h
        rw [closing] at blanks
        exact .inl ⟨tail, blanks, h⟩
      · obtain ⟨none, -⟩ | ⟨-, h⟩ := branch_eq_ok h
        · nomatch none
        · obtain ⟨rfl, rfl⟩ := pure_eq_ok h
          exact .inr ⟨rfl, blanks⟩

/-- What stands in a bracket after it was opened makes it a value. -/
theorem Continues.spelled {b : Bracket} {stack : List Bracket} {tail : Bytes}
    (front : s.dropWhile isBlankByte = b.opening :: tail)
    (continues : Continues (b :: stack) (tail.dropWhile isBlankByte) rest) :
    ∃ v mid, Spelled s v mid ∧ Closes stack mid rest := by
  cases continues with
  | list value closes =>
    cases closes with
    | list more outer =>
      have inside := inside_of_blanks rfl (.items value more)
      exact ⟨_, _, spelled_of_blanks front (.list inside), outer⟩
  | object member closes =>
    cases closes with
    | object more outer =>
      have inside := inside_of_blanks rfl (.items member more)
      exact ⟨_, _, spelled_of_blanks front (.object inside), outer⟩

/-- Two brackets spell an empty list or object. -/
theorem spelled_of_empty {b : Bracket} {tail : Bytes}
    (front : s.dropWhile isBlankByte = b.opening :: tail)
    (closing : tail.dropWhile isBlankByte = b.closing :: rest) : ∃ v, Spelled s v rest := by
  cases b with
  | list => exact ⟨_, spelled_of_blanks front (.list (inside_of_blanks closing .close))⟩
  | object => exact ⟨_, spelled_of_blanks front (.object (inside_of_blanks closing .close))⟩

/-- Inside open brackets a value is passed, and what comes after it up to the last bracket. -/
theorem passNested_eq_ok {fuel : Nat} {stack : List Bracket}
    (h : passNested fuel stack s = .ok () rest) :
    ∃ v mid, Spelled s v mid ∧ Closes stack mid rest := by
  induction fuel generalizing s stack with
  | zero => nomatch h
  | succ fuel ih =>
    unfold passNested at h
    obtain ⟨opened, mid, front, h⟩ := bind_eq_ok h
    obtain ⟨left, mid', closings, h⟩ := bind_eq_ok h
    -- With brackets left, the next value is passed in the next round.
    have goesOn : left = [] ∧ mid' = rest ∨ Continues left mid' rest := by
      split at h
      next => exact .inl ⟨rfl, (pure_eq_ok h).2⟩
      next =>
        obtain ⟨v, next, value, closes⟩ := ih h
        exact .inr (.list value closes)
      next =>
        obtain ⟨_, mid'', passed, h⟩ := bind_eq_ok h
        obtain ⟨key, member⟩ := passKey_eq_ok passed
        obtain ⟨v, next, value, closes⟩ := ih h
        exact .inr (.object (member v next value) closes)
    have closes {t : Bytes} (closings : passClosings stack true t = .ok left mid') :
        Closes stack t rest := by
      obtain ⟨ended, further⟩ := passClosings_eq_ok closings
      obtain ⟨none, rfl⟩ | continues := goesOn
      · exact ended none
      · exact further rest continues
    obtain ⟨v, rfl, value⟩ | ⟨b, rfl, opening⟩ := passFront_eq_ok front
    · exact ⟨v, mid, value, closes closings⟩
    · obtain ⟨tail, closing, closings⟩ | ⟨rfl, eq⟩ := passClosings_opened closings
      · obtain ⟨v, value⟩ := spelled_of_empty opening closing
        exact ⟨v, tail, value, closes closings⟩
      · obtain ⟨none, -⟩ | continues := goesOn
        · nomatch none
        · rw [← eq] at continues
          exact continues.spelled opening

/-- What is passed is a value. -/
theorem passValue_eq_ok (h : passValue s = .ok () rest) : ∃ v, Spelled s v rest := by
  obtain ⟨v, mid, value, closes⟩ := passNested_eq_ok h
  cases closes
  exact ⟨v, value⟩

end MetricsHarness.Json
