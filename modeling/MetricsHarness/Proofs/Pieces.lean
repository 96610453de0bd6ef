import Mathlib.Data.List.Basic
import MetricsHarness.Text.Pieces

/-!
# Pieces and joined texts

Cutting a joined text at its separator gives back what was joined, as long as there is something
and no separator is in it (`pieces_joined`). Every text has one piece more than it has separators
(`length_pieces`).
-/

namespace MetricsHarness.Text

theorem pieces_of_notMem {sep : Char} {cs : List Char} (h : sep ∉ cs) : pieces sep cs = [cs] := by
  induction cs with
  | nil => rfl
  | cons c rest ih =>
    obtain ⟨other, others⟩ := List.ne_and_not_mem_of_not_mem_cons h
    rw [pieces, if_neg (Ne.symm other), ih others]

theorem pieces_append_cons {sep : Char} {cs : List Char} (h : sep ∉ cs) (rest : List Char) :
    pieces sep (cs ++ sep :: rest) = cs :: pieces sep rest := by
  induction cs with
  | nil => rw [List.nil_append, pieces, if_pos rfl]
  | cons c more ih =>
    obtain ⟨other, others⟩ := List.ne_and_not_mem_of_not_mem_cons h
    rw [List.cons_append, pieces, if_neg (Ne.symm other), ih others]

theorem joined_cons_cons (sep : Char) (p q : List Char) (rest : List (List Char)) :
    joined [sep] (p :: q :: rest) = p ++ sep :: joined [sep] (q :: rest) := by
  rw [joined, List.append_assoc]
  · rfl
  · exact List.cons_ne_nil q rest

/-- A joined text is its first piece, and the others each behind a separator. -/
theorem joined_cons (sep : Char) (p : List Char) (rest : List (List Char)) :
    joined [sep] (p :: rest) = p ++ rest.flatMap (sep :: ·) := by
  induction rest generalizing p with
  | nil => exact (List.append_nil p).symm
  | cons q more ih => rw [joined_cons_cons, ih, List.flatMap_cons, List.cons_append]

/-- A text is cut at its first separator in one way only. -/
theorem append_cons_inj {sep : Char} {before before' after after' : List Char}
    (free : sep ∉ before) (free' : sep ∉ before')
    (same : before ++ sep :: after = before' ++ sep :: after') :
    before = before' ∧ after = after' := by
  have cut := congrArg (pieces sep) same
  rw [pieces_append_cons free, pieces_append_cons free'] at cut
  obtain rfl := (List.cons.inj cut).1
  exact ⟨rfl, (List.cons.inj (List.append_cancel_left same)).2⟩

/-- Texts without the separator in them are the pieces of what they are joined to. -/
theorem pieces_joined {sep : Char} {ps : List (List Char)} (some : ps ≠ [])
    (free : ∀ p ∈ ps, sep ∉ p) : pieces sep (joined [sep] ps) = ps := by
  induction ps with
  | nil => exact absurd rfl some
  | cons p rest ih =>
    obtain ⟨freeFirst, freeRest⟩ := List.forall_mem_cons.mp free
    cases rest with
    | nil => exact pieces_of_notMem freeFirst
    | cons q more =>
      have tail := ih (List.cons_ne_nil q more) freeRest
      rw [joined_cons_cons, pieces_append_cons freeFirst, tail]

/-- A character of a joined text is the separator or in one of the texts. -/
theorem mem_joined {sep c : Char} {ps : List (List Char)} (mem : c ∈ joined [sep] ps) :
    c = sep ∨ ∃ p ∈ ps, c ∈ p := by
  induction ps with
  | nil => nomatch mem
  | cons p rest ih =>
    cases rest with
    | nil => exact .inr ⟨p, List.mem_singleton_self p, mem⟩
    | cons q more =>
      rw [joined_cons_cons, List.mem_append, List.mem_cons] at mem
      obtain first | mark | later := mem
      · exact .inr ⟨p, List.mem_cons_self, first⟩
      · exact .inl mark
      · refine (ih later).imp_right ?_
        rintro ⟨r, found, inside⟩
        exact ⟨r, List.mem_cons_of_mem p found, inside⟩

/-- A piece holds no separator, and what it holds is in the text. -/
theorem mem_pieces {sep : Char} {cs p : List Char} (mem : p ∈ pieces sep cs) :
    sep ∉ p ∧ ∀ c ∈ p, c ∈ cs := by
  induction cs generalizing p with
  | nil =>
    obtain rfl := List.mem_singleton.mp mem
    exact ⟨List.not_mem_nil, fun _ => id⟩
  | cons c rest ih =>
    rw [pieces] at mem
    split at mem
    next =>
      rcases List.mem_cons.mp mem with rfl | later
      · exact ⟨List.not_mem_nil, fun _ none => nomatch none⟩
      · exact ⟨(ih later).1, fun d inside => List.mem_cons_of_mem c ((ih later).2 d inside)⟩
    next other =>
      split at mem
      next =>
        obtain rfl := List.mem_singleton.mp mem
        exact ⟨by simpa using Ne.symm other, by simp⟩
      next head tail eq =>
        rw [eq] at ih
        rcases List.mem_cons.mp mem with rfl | later
        · obtain ⟨free, known⟩ := ih List.mem_cons_self
          refine ⟨by simpa using ⟨Ne.symm other, free⟩, ?_⟩
          intro d inside
          rcases List.mem_cons.mp inside with rfl | inside
          · exact List.mem_cons_self
          · exact List.mem_cons_of_mem c (known d inside)
        · obtain ⟨free, known⟩ := ih (List.mem_cons_of_mem head later)
          exact ⟨free, fun d inside => List.mem_cons_of_mem c (known d inside)⟩

theorem pieces_ne_nil (sep : Char) (cs : List Char) : pieces sep cs ≠ [] := by
  cases cs with
  | nil => exact List.cons_ne_nil [] []
  | cons c rest =>
    rw [pieces]
    split
    · exact List.cons_ne_nil _ _
    · split <;> exact List.cons_ne_nil _ _

/-- There is one piece more than there are separators. -/
theorem length_pieces (sep : Char) (cs : List Char) :
    (pieces sep cs).length = cs.count sep + 1 := by
  induction cs with
  | nil => rfl
  | cons c rest ih =>
    rw [pieces]
    by_cases same : c = sep
    · simp [same, ih]
    · rw [if_neg same, List.count_cons_of_ne same]
      cases shape : pieces sep rest with
      | nil => exact absurd shape (pieces_ne_nil sep rest)
      | cons head tail =>
        rw [shape] at ih
        simpa using ih

/-- A text with one separator is cut in two there. -/
theorem exists_halves {sep : Char} {cs : List Char} (one : cs.count sep = 1) :
    ∃ first last, cs = first ++ sep :: last ∧ sep ∉ first ∧ sep ∉ last := by
  have mem : sep ∈ cs := List.count_pos_iff.mp (by omega)
  obtain ⟨first, last, rfl, free⟩ := List.eq_append_cons_of_mem mem
  refine ⟨first, last, rfl, free, ?_⟩
  rw [List.count_append, List.count_cons_self, List.count_eq_zero.mpr free] at one
  exact List.count_eq_zero.mp (by omega)

theorem pieces_halves {sep : Char} {first last : List Char} (free : sep ∉ first)
    (free' : sep ∉ last) : pieces sep (first ++ sep :: last) = [first, last] := by
  rw [pieces_append_cons free, pieces_of_notMem free']

end MetricsHarness.Text
