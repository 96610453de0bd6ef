import MetricsHarness.Proofs.SpelledValues

/-!
# Values that nobody asked for

What nobody asked for is passed whatever it is (`passValue_of_spelled`), a text that says no string
and a number past every range included.

The brackets that are open stand for what is still to come behind a value (`Ended`). If that is
passed, it is passed from the value on (`Nested`). The induction is on the bytes: what stands in
brackets is shorter than the brackets are, and behind an element the brackets are ended if they are
behind the last one (`More.ended`).
-/

namespace MetricsHarness.Json

open Grammar

variable {α : Type} {s mid rest : Bytes} {stack : List Bracket}

/-! ## Fronts -/

/-- Blanks in front are passed over. -/
theorem passFront_dropWhile (s : Bytes) : passFront (s.dropWhile isBlankByte) = passFront s := by
  unfold passFront
  rw [bind_skipBlanks, bind_skipBlanks, List.dropWhile_idempotent]

/-- At a bracket it is entered. -/
theorem passFront_of_bracket {b : Bracket} {tail : Bytes}
    (front : s.dropWhile isBlankByte = b.opening :: tail) : passFront s = .ok (some b) tail := by
  rw [← passFront_dropWhile, front]
  cases b <;> rfl

/-- A digit begins a number that is passed. -/
theorem passFront_digit {b : UInt8} (digit : isDigitByte b = true) (s : Bytes) :
    passFront (b :: s) = (passNumberDigits >>= fun _ => pure none) (b :: s) := by
  have blank : ¬isBlankByte b = true := by
    rw [isBlankByte_of_digit digit]
    exact Bool.false_ne_true
  have other {c : UInt8} (noDigit : isDigitByte c = false) : some b = some c → False :=
    some_ne_of_isDigitByte digit noDigit
  unfold passFront
  rw [bind_skipBlanks, List.dropWhile_cons_of_neg blank, List.head?_cons]
  generalize same : some b = ahead
  split
  next => nomatch same
  next => exact (other rfl same).elim
  next => exact (other rfl same).elim
  next => exact (other rfl same).elim
  next => exact (other rfl same).elim
  next => exact (other rfl same).elim
  next => exact (other rfl same).elim
  next => exact (other rfl same).elim
  next =>
    obtain rfl := Option.some.inj same
    rw [if_pos digit]

/-- Behind a minus a number is passed over. -/
theorem passFront_minus (s : Bytes) :
    passFront (0x2D :: s) = (passNumberDigits >>= fun _ => pure none) s := rfl

/-- A number is passed. -/
theorem passFront_of_isNumber {token : Bytes} (number : IsNumber token) (stops : Stops rest) :
    passFront (token ++ rest) = .ok none rest := by
  obtain ⟨signed, whole, fraction, exponent⟩ := number
  have passed := passNumberDigits_of_parts stops whole fraction exponent
  simp only [List.append_assoc]
  rcases List.mem_cons.mp signed with rfl | minus
  · obtain ⟨d, more, rfl, digit⟩ := whole.front
    rw [List.cons_append] at passed
    rw [List.nil_append, List.cons_append, passFront_digit digit, bind_eq passed]
    rfl
  · rw [List.mem_singleton.mp minus, List.singleton_append, passFront_minus, bind_eq passed]
    rfl

/-- Behind a quote a text is passed over. -/
theorem passFront_quote (s : Bytes) :
    passFront (0x22 :: s) = (passText >>= fun _ => pure none) (0x22 :: s) := rfl

/-! ## Open brackets -/

/-- The next round, with the brackets that are left: none ends it, and inside an object the key of
the next member comes before its value. -/
def passOn (fuel : Nat) (left : List Bracket) : Reader Unit :=
  match left with
  | [] => pure ()
  | .list :: _ => passNested fuel left
  | .object :: _ => passKey >>= fun _ => passNested fuel left

/-- One round passes over a front and what it closes, and goes on. -/
theorem passNested_succ (fuel : Nat) (stack : List Bracket) :
    passNested (fuel + 1) stack = (passFront >>= fun opened =>
      passClosings (opened.toList ++ stack) opened.isNone >>= passOn fuel) := by
  rfl

/-- What comes behind a value inside the open brackets is passed up to the end. -/
def Ended (stack : List Bracket) (s rest : Bytes) : Prop :=
  ∀ fuel, s.length ≤ fuel → (passClosings stack true >>= passOn fuel) s = .ok () rest

/-- A value inside the open brackets is passed, and all that comes behind it. -/
def Nested (stack : List Bracket) (s rest : Bytes) : Prop :=
  ∀ fuel, s.length < fuel → passNested fuel stack s = .ok () rest

/-- An element of the innermost bracket is passed, and all that comes behind it. -/
def Entered (b : Bracket) (stack : List Bracket) (s rest : Bytes) : Prop :=
  ∀ fuel, s.length < fuel → passOn fuel (b :: stack) s = .ok () rest

/-! ### Behind a value -/

/-- Readers that answer alike go on alike. -/
theorem bind_congr {r r' : Reader α} {f : α → Reader Unit} {s' : Bytes} (same : r s = r' s') :
    (r >>= f) s = (r' >>= f) s' := by
  show Reader.bind r f s = Reader.bind r' f s'
  rw [Reader.bind, Reader.bind, same]

/-- A comma or a closing bracket is looked for behind blanks. -/
theorem passClosings_dropWhile (b : Bracket) (outer : List Bracket) (valueBefore : Bool)
    (s : Bytes) : passClosings (b :: outer) valueBefore (s.dropWhile isBlankByte) =
      passClosings (b :: outer) valueBefore s := by
  unfold passClosings
  rw [bind_skipBlanks, bind_skipBlanks, List.dropWhile_idempotent]

/-- A closing bracket leaves the innermost one. -/
theorem passClosings_close (b : Bracket) (outer : List Bracket) (valueBefore : Bool) (s : Bytes) :
    passClosings (b :: outer) valueBefore (b.closing :: s) = passClosings outer true s := by
  cases b <;> cases valueBefore <;> rfl

/-- Behind a value a comma leads to the next one. -/
theorem passClosings_comma (b : Bracket) (outer : List Bracket) (s : Bytes) :
    passClosings (b :: outer) true (0x2C :: s) = .ok (b :: outer) s := rfl

/-- What does not close a bracket that was just opened stands in it. -/
theorem passClosings_inside {b : Bracket} {c : UInt8} (outer : List Bracket)
    (blank : isBlankByte c ≠ true) (inside : c ≠ b.closing) (s : Bytes) :
    passClosings (b :: outer) false (c :: s) = .ok (b :: outer) (c :: s) := by
  unfold passClosings
  rw [bind_skipBlanks, List.dropWhile_cons_of_neg blank]
  dsimp only [List.head?_cons]
  rw [if_neg (by simp), if_neg inside, if_neg Bool.false_ne_true]
  rfl

theorem isClosing_closing (b : Bracket) : IsClosing b.closing := by
  cases b
  · exact .inl rfl
  · exact .inr rfl

theorem Ended.nil (s : Bytes) : Ended [] s s := fun _ _ => rfl

/-- Blanks may stand before what ends a value. -/
theorem Ended.blank {b : Bracket} {c : UInt8} (blank : isBlankByte c = true)
    (ended : Ended (b :: stack) s rest) : Ended (b :: stack) (c :: s) rest := by
  have same : passClosings (b :: stack) true (c :: s) = passClosings (b :: stack) true s := by
    rw [← passClosings_dropWhile, List.dropWhile_cons_of_pos blank, passClosings_dropWhile]
  intro fuel room
  rw [bind_congr same]
  exact ended fuel (Nat.le_of_succ_le room)

/-- A closing bracket is what ends the innermost list or object. -/
theorem Ended.close (b : Bracket) (ended : Ended stack s rest) :
    Ended (b :: stack) (b.closing :: s) rest := by
  intro fuel room
  rw [bind_congr (passClosings_close b stack true s)]
  exact ended fuel (Nat.le_of_succ_le room)

/-- A comma leads to the next value of the innermost list or object. -/
theorem Ended.comma {b : Bracket} (entered : Entered b stack s rest) :
    Ended (b :: stack) (0x2C :: s) rest := by
  intro fuel room
  rw [bind_eq (passClosings_comma b stack s)]
  exact entered fuel room

section Sequences

variable {b : Bracket} {element : Bytes → α → Bytes → Prop} {items : List α} {n : Nat}
  (sole : SoleUpTo n b.closing element)
  (enters : ∀ {s item mid}, s.length ≤ n → element s item mid → Stops mid →
    Ended (b :: stack) mid rest → Entered b stack s rest)
  (outer : Ended stack mid rest)
include sole enters outer

/-- Where each element of a bracket is passed, so is what comes behind it. -/
theorem ended_of_more (more : More b.closing element s items mid) (small : s.length ≤ n) :
    Ended (b :: stack) s rest := by
  induction more with
  | blank blank _ ih => exact (ih outer (Nat.le_of_succ_le small)).blank blank
  | close => exact outer.close b
  | comma front more ih =>
    have inner := Nat.le_of_succ_le small
    have shorter := sole.shorter inner front
    have later := ih outer (by omega)
    exact .comma (enters inner front (more.stops (isClosing_closing b)) later)

/-- And so is what stands behind the opening of the bracket. -/
theorem passed_of_inside (inside : Inside b.closing element s items mid) (small : s.length ≤ n)
    {fuel : Nat} (room : s.length < fuel) :
    (passClosings (b :: stack) false >>= passOn fuel) s = .ok () rest := by
  have fewer := List.length_dropWhile_le isBlankByte s
  rw [← bind_congr (passClosings_dropWhile b stack false s)]
  obtain ⟨-, closed⟩ | ⟨item, mid', others, -, front, more⟩ :=
    inside.stripped (isClosing_closing b) sole
  · rw [closed, List.length_cons] at fewer
    rw [closed, bind_congr (passClosings_close b stack false mid)]
    exact outer fuel (by omega)
  · have shorter := sole.shorter (fewer.trans small) front
    have later := ended_of_more sole enters outer more (by omega)
    have entered := enters (fewer.trans small) front (more.stops (isClosing_closing b)) later fuel
      (fewer.trans_lt room)
    generalize stripped : s.dropWhile isBlankByte = t at shorter front entered
    cases t with
    | nil => nomatch shorter
    | cons c t =>
      have inside : c ≠ b.closing := by
        rintro rfl
        exact sole.apart front
      rw [bind_eq (passClosings_inside stack (not_blank_dropWhile stripped) inside t)]
      exact entered

end Sequences

/-! ## Values -/

/-- A name and its colon are passed over, which leaves the value. -/
theorem passKey_of_member {m : Option String × Value} (member : Member Spelled s m rest) :
    ∃ tail v, passKey s = .ok () tail ∧ Spelled tail v rest ∧ tail.length < s.length := by
  cases member with
  | @mk gap raw gap' tail _ _ v blank spelling denotes blank' value =>
    refine ⟨tail, v, ?_, value, ?_⟩
    · unfold passKey
      rw [bind_eq (skipBlanks_append blank (by decide) _)]
      show (passText >>= fun _ => colon) _ = _
      rw [bind_eq (passText_of_isSpelling spelling _)]
      exact colon_of_gap blank' tail
    · simp only [List.length_append, List.length_cons]
      omega

/-- **A value is passed inside any brackets,** if what comes behind it is. -/
theorem nested_of_spelled {n : Nat} {v : Value} (small : s.length ≤ n) (value : Spelled s v mid)
    (stops : Stops mid) (ended : Ended stack mid rest) : Nested stack s rest := by
  induction n generalizing s mid v stack with
  | zero =>
    obtain rfl := List.length_eq_zero_iff.mp (Nat.le_zero.mp small)
    nomatch value.opened
  | succ n ih =>
    have shorter := (spelled_soleUpTo s.length).shorter (Nat.le_refl _) value
    have fewer := List.length_dropWhile_le isBlankByte s
    intro fuel room
    obtain ⟨fuel, rfl⟩ := Nat.exists_eq_succ_of_ne_zero (Nat.ne_zero_of_lt room)
    have scalar (passed : passFront s = .ok none mid) :
        passNested (fuel + 1) stack s = .ok () rest := by
      rw [passNested_succ, bind_eq passed]
      exact ended fuel (by omega)
    have bracket {b : Bracket} {tail : Bytes} (front : s.dropWhile isBlankByte = b.opening :: tail)
        (inside : tail.length ≤ n → tail.length < fuel →
          (passClosings (b :: stack) false >>= passOn fuel) tail = .ok () rest) :
        passNested (fuel + 1) stack s = .ok () rest := by
      rw [front, List.length_cons] at fewer
      rw [passNested_succ, bind_eq (passFront_of_bracket front)]
      exact inside (by omega) (by omega)
    have stripped := value.strips
    generalize front : s.dropWhile isBlankByte = t at stripped
    have whole : passFront s = passFront t := by rw [← front, passFront_dropWhile]
    cases stripped with
    | blank blank _ => exact absurd blank (not_blank_dropWhile front)
    | null => exact scalar whole
    | yes => exact scalar whole
    | no => exact scalar whole
    | number number => exact scalar (whole.trans (passFront_of_isNumber number stops))
    | text spelling _ =>
      refine scalar (whole.trans ?_)
      rw [passFront_quote, bind_eq (passText_of_isSpelling spelling mid)]
      rfl
    | list inside =>
      refine bracket (b := .list) front fun smaller =>
        passed_of_inside (b := .list) (spelled_soleUpTo n) ?_ ended inside smaller
      intro s item mid small value stops ended
      exact ih small value stops ended
    | object inside =>
      refine bracket (b := .object) front fun smaller =>
        passed_of_inside (b := .object) (spelled_soleUpTo n).member ?_ ended inside smaller
      intro s m mid small member stops ended fuel room
      obtain ⟨tail, v, passed, value, fewer⟩ := passKey_of_member member
      have nested := ih (by omega) value stops ended
      show (passKey >>= fun _ => passNested fuel _) s = _
      rw [bind_eq passed]
      exact nested fuel (by omega)

/-- **Every value is passed.** -/
theorem passValue_of_spelled {v : Value} (value : Spelled s v rest) (stops : Stops rest) :
    passValue s = .ok () rest :=
  nested_of_spelled (Nat.le_refl _) value stops (.nil rest) _ (Nat.lt_succ_self _)

end MetricsHarness.Json
