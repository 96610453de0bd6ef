import MetricsHarness.Json.Series
import MetricsHarness.Json.Writer
import MetricsHarness.Proofs.Utf8

/-!
# Readers on written text

What a reader makes of a text is told without the rest of the document: `Reads r text o` says that,
whatever comes after the text, the reader answers the value of `o` and leaves what comes after, or
fails if `o` is none. What may come after a value is a comma, a closing bracket or the end (`Ends`),
which no number goes on with.

This is kept by every way of putting readers together: one after another (`Reading.Is.bind`), in
brackets (`Reading.Is.enclosed`) and as the elements of a list (`reads_list`). A list is refused if
one of its elements is.
-/

namespace MetricsHarness.Json

open Text

/-! ## Outcomes -/

/-- What may come after a value in a document. -/
def Ends (rest : Bytes) : Prop := ∀ b ∈ rest.head?, b = 0x2C ∨ b = 0x5D ∨ b = 0x7D

theorem ends_nil : Ends [] := fun _ none => by cases none

theorem ends_comma (rest : Bytes) : Ends (0x2C :: rest) := fun _ mem =>
  .inl (Option.some.inj mem).symm

theorem ends_list (rest : Bytes) : Ends (0x5D :: rest) := fun _ mem =>
  .inr (.inl (Option.some.inj mem).symm)

theorem ends_object (rest : Bytes) : Ends (0x7D :: rest) := fun _ mem =>
  .inr (.inr (Option.some.inj mem).symm)

variable {α β : Type}

/-- An answer is a value with the bytes left, or some failure. -/
def Reading.Is (answer : Reading α) : Option α → Bytes → Prop
  | some a, rest => answer = .ok a rest
  | none, _ => ∃ cause place left, answer = .failed cause place left

/-- After a reader that answered the next one goes on. -/
theorem bind_eq {r : Reader α} {f : α → Reader β} {a : α} {s rest : Bytes}
    (first : r s = .ok a rest) : (r >>= f) s = f a rest := by
  show Reader.bind r f s = _
  rw [Reader.bind, first]

namespace Reading.Is

variable {r : Reader α} {f : α → Reader β} {o : Option α} {s rest rest' : Bytes}

/-- Without reading there is an answer. -/
theorem of_pure (a : α) (rest : Bytes) : ((pure a : Reader α) rest).Is (some a) rest := rfl

/-- Two readers one after another answer if both do, and fail if one of them does. -/
theorem bind {g : α → Option β} (first : (r s).Is o rest)
    (second : ∀ a, o = some a → (f a rest).Is (g a) rest') : ((r >>= f) s).Is (o.bind g) rest' := by
  cases o with
  | none =>
    obtain ⟨cause, place, left, failed⟩ := first
    refine ⟨cause, place, left, ?_⟩
    show Reader.bind r f s = _
    rw [Reader.bind, failed]
  | some a =>
    have read : r s = .ok a rest := first
    have next := second a rfl
    rw [Option.bind_some, bind_eq read]
    exact next

/-- After a first answer the outcome is that of the second reader. -/
theorem bind_ok {a : α} {p : Option β} (first : r s = .ok a rest)
    (second : (f a rest).Is p rest') : ((r >>= f) s).Is p rest' := by
  rwa [bind_eq first]

/-- What is made of an answer changes nothing else. -/
theorem map {g : α → β} (first : (r s).Is o rest) :
    ((r >>= fun a => pure (g a)) s).Is (o.map g) rest := by
  rw [Option.map_eq_bind]
  exact bind first fun a _ => rfl

/-- A choice has the outcome of the branch that is taken. -/
theorem branch_pos {c : Prop} [Decidable c] {r' : Reader α} (h : c) (first : (r s).Is o rest) :
    ((if c then r else r') s).Is o rest := by
  rwa [if_pos h]

theorem branch_neg {c : Prop} [Decidable c] {r' : Reader α} (h : ¬ c) (second : (r' s).Is o rest) :
    ((if c then r else r') s).Is o rest := by
  rwa [if_neg h]

/-- The place of a fault does not make an answer another. -/
theorem placed (inside : (r s).Is o rest) : (r.placed s).Is o rest := by
  cases o with
  | none =>
    obtain ⟨cause, place, left, failed⟩ := inside
    rw [Reader.placed, failed]
    cases place with
    | none => exact ⟨_, _, _, rfl⟩
    | some p => exact ⟨_, _, _, rfl⟩
  | some a =>
    have read : r s = .ok a rest := inside
    rw [Reader.placed, read]
    exact rfl

/-- What is read in brackets is answered after the closing one. -/
theorem enclosed {close : Reader Unit} (inside : (r s).Is o rest)
    (closes : close rest = .ok () rest') : (Reader.enclosed r close s).Is o rest' := by
  cases o with
  | some a =>
    have read : r s = .ok a rest := inside
    rw [Reader.enclosed, read]
    dsimp only
    rw [closes]
    exact rfl
  | none =>
    obtain ⟨cause, place, left, failed⟩ := inside
    rw [Reader.enclosed, failed]
    cases place with
    | some p => exact ⟨_, _, _, rfl⟩
    | none =>
      dsimp only
      cases close left with
      | ok u after => exact ⟨_, _, _, rfl⟩
      | failed c p after => exact ⟨_, _, _, rfl⟩

end Reading.Is

/-- What a reader makes of a text, whatever comes after it. -/
def Reads (r : Reader α) (text : Bytes) (o : Option α) : Prop :=
  ∀ rest, Ends rest → (r (text ++ rest)).Is o rest

/-! ## Blanks and brackets -/

/-- Blanks are skipped up to what is none. -/
theorem skipBlanks_append {gap : Bytes} (blank : ∀ b ∈ gap, isBlankByte b = true) {b : UInt8}
    (other : isBlankByte b = false) (s : Bytes) :
    skipBlanks (gap ++ b :: s) = .ok (some b) (b :: s) := by
  rw [skipBlanks, List.dropWhile_append_of_pos blank,
    List.dropWhile_cons_of_neg (by rw [other]; exact Bool.false_ne_true)]
  rfl

theorem skipBlanks_cons {b : UInt8} (other : isBlankByte b = false) (s : Bytes) :
    skipBlanks (b :: s) = .ok (some b) (b :: s) := by
  have none : ∀ b ∈ ([] : Bytes), isBlankByte b = true := fun _ none => by cases none
  exact skipBlanks_append none other s

/-- A byte that begins an element of a list. -/
def BeginsElement (b : UInt8) : Prop := isBlankByte b = false ∧ b ≠ 0x5D

/-- The first element is moved to. -/
theorem nextElement_first {b : UInt8} (begins : BeginsElement b) (s : Bytes) :
    nextElement true (b :: s) = .ok true (b :: s) := by
  have inside : b = 0x5D → False := begins.2
  unfold nextElement
  rw [bind_eq (skipBlanks_cons begins.1 s)]
  simp only [if_true]
  rfl

/-- The next element is moved to behind its comma and blanks. -/
theorem nextElement_comma {gap : Bytes} (blank : ∀ b ∈ gap, isBlankByte b = true) {b : UInt8}
    (begins : BeginsElement b) (s : Bytes) :
    nextElement false (0x2C :: (gap ++ b :: s)) = .ok true (b :: s) := by
  have inside : b = 0x5D → False := begins.2
  have next : Reader.skip (0x2C :: (gap ++ b :: s)) = .ok () (gap ++ b :: s) := rfl
  unfold nextElement
  rw [bind_eq (skipBlanks_cons rfl _)]
  show (Reader.skip >>= fun _ => skipBlanks >>= _) (0x2C :: (gap ++ b :: s)) = _
  rw [bind_eq next, bind_eq (skipBlanks_append blank begins.1 s)]
  simp only
  rfl

/-- At the bracket there is no element. -/
theorem nextElement_close (first : Bool) (s : Bytes) :
    nextElement first (0x5D :: s) = .ok false (0x5D :: s) := rfl

/-! ## Lists -/

/-- Elements after the first, each with the comma and the blanks before it. -/
def commas (gap : Bytes) (write : β → Bytes) (items : List β) : Bytes :=
  items.flatMap fun i => 0x2C :: (gap ++ write i)

/-- The inside of a list of elements. -/
def listBytes (gap : Bytes) (write : β → Bytes) : List β → Bytes
  | [] => []
  | i :: more => write i ++ commas gap write more

/-- The next element stands behind a comma. -/
theorem commas_cons (gap : Bytes) (write : β → Bytes) (i : β) (more : List β) (rest : Bytes) :
    commas gap write (i :: more) ++ rest =
      0x2C :: (gap ++ (write i ++ (commas gap write more ++ rest))) := by
  simp only [commas, List.flatMap_cons, List.cons_append, List.append_assoc]

/-- Behind an element a comma stands, or what ends the list. -/
theorem ends_commas (gap : Bytes) (write : β → Bytes) (items : List β) {rest : Bytes}
    (ends : Ends rest) : Ends (commas gap write items ++ rest) := by
  cases items with
  | nil => exact ends
  | cons i more =>
    rw [commas_cons]
    exact ends_comma _

/-- Elements are as many as their commas. -/
theorem length_le_commas (gap : Bytes) (write : β → Bytes) (items : List β) :
    items.length ≤ (commas gap write items).length := by
  induction items with
  | nil => exact Nat.le_refl _
  | cons i more ih =>
    have size := congrArg List.length (commas_cons gap write i more [])
    simp only [List.append_nil, List.length_cons, List.length_append] at size ⊢
    omega

section Lists

variable {gap : Bytes} {element : Reader α} {write : β → Bytes} {read : β → Option α}
  {items : List β} (blank : ∀ b ∈ gap, isBlankByte b = true)
  (reads : ∀ i ∈ items, Reads element (write i) (read i))
  (begins : ∀ i ∈ items, ∃ b more, write i = b :: more ∧ BeginsElement b)
include blank reads begins

/-- Elements behind commas are read up to the bracket, unless one of them is refused. -/
theorem readElements_commas {fuel : Nat} (room : items.length < fuel) (rest : Bytes) :
    (readElements element fuel false (commas gap write items ++ 0x5D :: rest)).Is
      (items.mapM read) (0x5D :: rest) := by
  induction items generalizing fuel with
  | nil =>
    obtain ⟨fuel, rfl⟩ := Nat.exists_eq_succ_of_ne_zero (Nat.ne_of_gt room)
    exact Reading.Is.bind_ok (nextElement_close false rest) rfl
  | cons i more ih =>
    obtain ⟨fuel, rfl⟩ := Nat.exists_eq_succ_of_ne_zero (Nat.ne_zero_of_lt room)
    obtain ⟨readsFirst, readsMore⟩ := List.forall_mem_cons.mp reads
    obtain ⟨⟨b, text, eq, front⟩, beginsMore⟩ := List.forall_mem_cons.mp begins
    have tail := ih readsMore beginsMore (Nat.lt_of_succ_lt_succ room)
    have next : nextElement false
        (0x2C :: (gap ++ (write i ++ (commas gap write more ++ 0x5D :: rest)))) =
          .ok true (write i ++ (commas gap write more ++ 0x5D :: rest)) := by
      rw [eq]
      exact nextElement_comma blank front _
    rw [List.mapM_cons, commas_cons]
    refine Reading.Is.bind_ok next ?_
    refine Reading.Is.bind (readsFirst _ (ends_commas _ _ _ (ends_list _))) ?_
    intro a _
    exact Reading.Is.bind tail fun others _ => rfl

/-- Elements are read up to the closing bracket. -/
theorem readAll_listBytes (rest : Bytes) :
    (readAll element (listBytes gap write items ++ 0x5D :: rest)).Is (items.mapM read)
      (0x5D :: rest) := by
  cases items with
  | nil => exact Reading.Is.bind_ok (nextElement_close true rest) rfl
  | cons i more =>
    obtain ⟨readsFirst, readsMore⟩ := List.forall_mem_cons.mp reads
    obtain ⟨⟨b, text, eq, front⟩, beginsMore⟩ := List.forall_mem_cons.mp begins
    have size := length_le_commas gap write more
    have room : more.length < (listBytes gap write (i :: more) ++ 0x5D :: rest).length := by
      rw [listBytes, eq]
      simp only [List.length_append, List.length_cons]
      omega
    have tail := readElements_commas blank readsMore beginsMore room rest
    have next : nextElement true (write i ++ (commas gap write more ++ 0x5D :: rest)) =
        .ok true (write i ++ (commas gap write more ++ 0x5D :: rest)) := by
      rw [eq]
      exact nextElement_first front _
    unfold readAll
    rw [List.mapM_cons]
    generalize (listBytes gap write (i :: more) ++ 0x5D :: rest).length = fuel at tail ⊢
    rw [listBytes, List.append_assoc]
    refine Reading.Is.bind_ok next ?_
    refine Reading.Is.bind (readsFirst _ (ends_commas _ _ _ (ends_list _))) ?_
    intro a _
    exact Reading.Is.bind tail fun others _ => rfl

/-- A list in brackets is read as its elements. -/
theorem reads_list : Reads (readList element) (0x5B :: (listBytes gap write items ++ [0x5D]))
    (items.mapM read) := by
  intro rest _
  have inside := readAll_listBytes blank reads begins rest
  rw [List.cons_append, List.append_assoc, List.singleton_append]
  refine Reading.Is.placed (Reading.Is.bind_ok (a := .inl .list) rfl ?_)
  refine Reading.Is.bind_ok (a := ()) rfl (Reading.Is.enclosed inside ?_)
  rfl

end Lists

/-! ## Documents -/

/-- What is read of a text is read of a document. -/
theorem readDocument_of_reads {r : Reader α} {text : Bytes} {o : Option α}
    (reads : Reads r text o) : (readDocument r text).toOption = o := by
  have read := reads [] ends_nil
  rw [List.append_nil] at read
  unfold readDocument
  dsimp only
  cases o with
  | none =>
    have whole (f : α → Reader α) : ((r >>= f) text).Is none [] :=
      Reading.Is.bind (g := fun _ => none) read fun _ none => by cases none
    obtain ⟨cause, place, left, failed⟩ := whole _
    rw [failed]
    rfl
  | some a =>
    rw [bind_eq (show r text = .ok a [] from read)]
    rfl

end MetricsHarness.Json
