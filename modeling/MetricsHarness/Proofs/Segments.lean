import MetricsHarness.Proofs.Escapes
import MetricsHarness.Url.Reading

/-!
# Segments that are read again

The segments of a path that was read are written without a piece that stands for nothing or for a
removal (`IsSegment`), so to read them again removes none (`segmentsOf_chars`).

An escape could only spoil this by looking like a dot that the text did not have. It never does: a
text whose encoded form is nothing but dots, escaped or not, is its own encoded form
(`Percent.encode_eq_self_of_dots`).
-/

namespace MetricsHarness.Url

open Text

/-! ## Dots and escapes -/

/-- An escaped dot is plain afterwards; any other first character stays. -/
theorem plainDots_cons (c : Char) (cs : List Char) :
    (∃ e rest, c = '%' ∧ cs = '2' :: e :: rest ∧ (e == 'e' || e == 'E') = true) ∨
      (plainDots (c :: cs)).head? = some c := by
  by_cases dot : ∃ e rest, c = '%' ∧ cs = '2' :: e :: rest
  · obtain ⟨e, rest, rfl, rfl⟩ := dot
    by_cases last : (e == 'e' || e == 'E') = true
    · exact .inl ⟨e, rest, rfl, rfl, last⟩
    · refine .inr ?_
      rw [plainDots, if_neg last]
      rfl
  · refine .inr ?_
    rw [plainDots]
    · rfl
    · exact fun e rest percent eq => dot ⟨e, rest, percent, eq⟩

/-- Nothing but an escape is taken for a dot. -/
theorem plainDots_cons_of_ne {c : Char} (other : c ≠ '%') (cs : List Char) :
    plainDots (c :: cs) = c :: plainDots cs := by
  rw [plainDots]
  exact fun _ _ percent => absurd percent other

namespace Percent

variable {isEscaped : Char → Bool} {cs : List Char} {c : Char}

/-- Only one byte has the escape that stands for a dot. -/
theorem toNat_of_escape_dot {b : UInt8} {e : Char} {rest : List Char}
    (eq : escape b ++ rest = '%' :: '2' :: e :: cs) (dot : (e == 'e' || e == 'E') = true) :
    b.toNat = 46 := by
  have digits : ∀ high < 16, ∀ low < 16, Hex.upperDigit high = '2' →
      (Hex.upperDigit low == 'e' || Hex.upperDigit low == 'E') = true → high = 2 ∧ low = 14 := by
    decide
  have bound := b.toNat_lt
  simp only [escape, List.cons_append, List.cons.injEq, true_and] at eq
  obtain ⟨high, low, -⟩ := eq
  have found := digits (b.toNat / 16) (by omega) (b.toNat % 16) (by omega) high (by rwa [low])
  omega

/-- The first byte of a character is its number or none of ASCII. -/
theorem exists_encodeChar_cons (c : Char) : ∃ b rest, Utf8.encodeChar c = b :: rest ∧
    (b.toNat = c.toNat ∨ 0x80 ≤ c.toNat ∧ 0x80 ≤ b.toNat) := by
  have valid : c.toNat < 0x110000 := by
    rcases c.valid with low | ⟨-, high⟩
    · exact Nat.lt_trans low (by decide)
    · exact high
  unfold Utf8.encodeChar
  simp only
  split_ifs with one two three
  · exact ⟨_, _, rfl, .inl (Utf8.toNat_ofNat_of_lt (by omega))⟩
  all_goals
    refine ⟨_, _, rfl, .inr ⟨by omega, ?_⟩⟩
    rw [Utf8.toNat_ofNat_of_lt (by omega)]
    omega

/-- A character whose encoded form is not itself begins with an escape that is no dot. -/
theorem plainDots_of_escaped (dotFree : isEscaped '.' = false)
    (escaped : ¬ (c.toNat < 0x80 ∧ isEscaped c = false)) (rest : List Char) :
    (plainDots (encodeChar isEscaped c ++ rest)).head? = some '%' := by
  obtain ⟨b, more, bytes, number⟩ := exists_encodeChar_cons c
  have written : encodeChar isEscaped c = escape b ++ more.flatMap escape := by
    rw [encodeChar_of_escaped escaped, bytes, List.flatMap_cons]
  rw [written, List.append_assoc]
  rcases plainDots_cons '%' (_ :: _ :: (more.flatMap escape ++ rest)) with dot | head
  · obtain ⟨e, after, -, eq, last⟩ := dot
    have dotByte := toNat_of_escape_dot (b := b) (congrArg ('%' :: ·) eq) last
    have isDot : c = '.' := Char.toNat_inj.mp (show c.toNat = 46 by omega)
    subst isDot
    exact absurd ⟨by decide, dotFree⟩ escaped
  · exact head

/-- An encoded text that begins with no escape begins as the text does. -/
theorem exists_of_encode_eq_cons {d : Char} {more : List Char}
    (eq : encode isEscaped cs = d :: more) (other : d ≠ '%') :
    ∃ rest, cs = d :: rest ∧ encode isEscaped rest = more := by
  cases cs with
  | nil => nomatch eq
  | cons c rest =>
    rw [encode_cons] at eq
    by_cases kept : c.toNat < 0x80 ∧ isEscaped c = false
    · rw [encodeChar_of_kept kept, List.singleton_append] at eq
      obtain ⟨rfl, tail⟩ := List.cons.inj eq
      exact ⟨rest, rfl, tail⟩
    · obtain ⟨b, bytes, same, -⟩ := exists_encodeChar_cons c
      rw [encodeChar_of_escaped kept, same] at eq
      exact absurd (List.cons.inj eq).1.symm other

/-- A text whose encoded form is nothing but dots is its own encoded form. An escaped dot takes
three characters, so the induction is on the length. -/
theorem encode_eq_self_of_dots (dotFree : isEscaped '.' = false)
    (dots : ∀ c ∈ plainDots (encode isEscaped cs), c = '.') : encode isEscaped cs = cs := by
  induction length : cs.length using Nat.strongRecOn generalizing cs with
  | ind n ih =>
    subst length
    cases cs with
    | nil => rfl
    | cons c rest =>
      rw [encode_cons] at dots ⊢
      by_cases kept : c.toNat < 0x80 ∧ isEscaped c = false
      · rw [encodeChar_of_kept kept, List.singleton_append] at dots ⊢
        by_cases percent : c = '%'
        · subst percent
          rcases plainDots_cons '%' (encode isEscaped rest) with escaped | head
          · obtain ⟨e, more, -, eq, last⟩ := escaped
            have letter : e ≠ '%' := by
              rintro rfl
              exact absurd last (by decide)
            obtain ⟨second, rfl, next⟩ := exists_of_encode_eq_cons eq (by decide)
            obtain ⟨third, rfl, tail⟩ := exists_of_encode_eq_cons next letter
            rw [eq, plainDots, if_pos last, ← tail] at dots
            have same := ih third.length (by simp only [List.length_cons]; omega)
              (List.forall_mem_cons.mp dots).2 rfl
            rw [eq, ← tail, same]
          · exact absurd (dots '%' (List.mem_of_mem_head? head)) (by decide)
        · rw [plainDots_cons_of_ne percent] at dots
          exact congrArg (c :: ·)
            (ih rest.length (by simp) (List.forall_mem_cons.mp dots).2 rfl)
      · have head := plainDots_of_escaped dotFree kept (encode isEscaped rest)
        exact absurd (dots '%' (List.mem_of_mem_head? head)) (by decide)

/-- A text whose encoded form stands for dots stands for them itself. -/
theorem plainDots_of_encode {dots : List Char} (dotFree : isEscaped '.' = false)
    (only : ∀ c ∈ dots, c = '.') (eq : plainDots (encode isEscaped cs) = dots) :
    plainDots cs = dots := by
  have same : encode isEscaped cs = cs := encode_eq_self_of_dots dotFree (by rwa [eq])
  rwa [same] at eq

end Percent

/-! ## Segments -/

/-- A segment of a path that was read. -/
structure IsSegment (s : List Char) : Prop where
  written : Percent.IsWritten Percent.inPath s
  slash : '/' ∉ s
  backslash : '\\' ∉ s
  here : isHere s = false
  up : isUp s = false

theorem isSegment_nil : IsSegment [] where
  written := fun _ none => nomatch none
  slash := List.not_mem_nil
  backslash := List.not_mem_nil
  here := rfl
  up := rfl

/-- A piece that stands for itself is a segment once it is escaped. -/
theorem isSegment_encode {p : List Char} (slash : '/' ∉ p) (backslash : '\\' ∉ p)
    (here : isHere p = false) (up : isUp p = false) :
    IsSegment (Percent.encode Percent.inPath p) where
  written := Percent.isWritten_encode Percent.spares_inPath p
  slash := by
    intro mem
    rcases Percent.mem_encode mem with ⟨before, -⟩ | inside
    · exact slash before
    · exact absurd inside (by decide)
  backslash := by
    intro mem
    rcases Percent.mem_encode mem with ⟨before, -⟩ | inside
    · exact backslash before
    · exact absurd inside (by decide)
  here := by
    rw [isHere, beq_eq_false_iff_ne] at here ⊢
    exact fun dots => here (Percent.plainDots_of_encode (by decide) (by simp) dots)
  up := by
    rw [isUp, beq_eq_false_iff_ne] at up ⊢
    exact fun dots => up (Percent.plainDots_of_encode (by decide) (by simp) dots)

/-- Leaving a directory adds no segment. -/
theorem mem_of_mem_withoutLast {before : List (List Char)} {s : List Char}
    (mem : s ∈ withoutLast before) : s ∈ before := by
  cases before with
  | nil => nomatch mem
  | cons first more =>
    rw [withoutLast] at mem
    split at mem
    · exact mem
    · exact List.mem_cons_of_mem first mem

section Resolving

variable {before : List (List Char)} {p : List Char}

/-- The segments after a piece are segments. -/
theorem forall_enter (settled : ∀ s ∈ before, IsSegment s) (slash : '/' ∉ p)
    (backslash : '\\' ∉ p) : ∀ s ∈ enter before p, IsSegment s := by
  unfold enter
  split
  next => exact fun s mem => settled s (mem_of_mem_withoutLast mem)
  next up =>
    split
    next => exact settled
    next here =>
      have new := isSegment_encode slash backslash (Bool.of_not_eq_true here)
        (Bool.of_not_eq_true up)
      exact List.forall_mem_cons.mpr ⟨new, settled⟩

/-- The segments after the last piece are segments. -/
theorem forall_finish (settled : ∀ s ∈ before, IsSegment s) (slash : '/' ∉ p)
    (backslash : '\\' ∉ p) : ∀ s ∈ finish before p, IsSegment s := by
  unfold finish
  split
  next =>
    refine List.forall_mem_cons.mpr ⟨isSegment_nil, ?_⟩
    exact fun s mem => settled s (mem_of_mem_withoutLast mem)
  next up =>
    split
    next => exact List.forall_mem_cons.mpr ⟨isSegment_nil, settled⟩
    next here =>
      have new := isSegment_encode slash backslash (Bool.of_not_eq_true here)
        (Bool.of_not_eq_true up)
      exact List.forall_mem_cons.mpr ⟨new, settled⟩

/-- A path has a segment. -/
theorem finish_ne_nil : finish before p ≠ [] := by
  unfold finish
  split_ifs <;> exact List.cons_ne_nil _ _

/-- What the pieces of a path give are segments. -/
theorem forall_resolve {pieces : List (List Char)} (settled : ∀ s ∈ before, IsSegment s)
    (free : ∀ p ∈ pieces, '/' ∉ p ∧ '\\' ∉ p) : ∀ s ∈ resolve before pieces, IsSegment s := by
  induction before, pieces using resolve.induct with
  | case1 before =>
    exact fun s mem => settled s (List.mem_reverse.mp mem)
  | case2 before p =>
    obtain ⟨slash, backslash⟩ := free p List.mem_cons_self
    exact fun s mem => forall_finish settled slash backslash s (List.mem_reverse.mp mem)
  | case3 before p q rest ih =>
    obtain ⟨⟨slash, backslash⟩, others⟩ := List.forall_mem_cons.mp free
    exact ih (forall_enter settled slash backslash) others

/-- A path stays one when its dots are resolved. -/
theorem resolve_ne_nil {pieces : List (List Char)} (some : pieces ≠ []) :
    resolve before pieces ≠ [] := by
  induction before, pieces using resolve.induct with
  | case1 before => exact absurd rfl some
  | case2 before p => exact List.reverse_ne_nil_iff.mpr finish_ne_nil
  | case3 before p q rest ih => exact ih (List.cons_ne_nil q rest)

/-- Segments are their own pieces. -/
theorem resolve_of_isSegment {list : List (List Char)} (some : list ≠ [])
    (segments : ∀ s ∈ list, IsSegment s) : resolve before list = before.reverse ++ list := by
  induction before, list using resolve.induct with
  | case1 before => exact absurd rfl some
  | case2 before p =>
    have segment := segments p List.mem_cons_self
    rw [resolve, finish, segment.up, segment.here,
      Percent.encode_of_isWritten segment.written]
    exact List.reverse_cons
  | case3 before p q rest ih =>
    obtain ⟨segment, others⟩ := List.forall_mem_cons.mp segments
    have entered : enter before p = p :: before := by
      rw [enter, segment.up, segment.here, Percent.encode_of_isWritten segment.written]
      rfl
    rw [entered] at ih
    rw [resolve, entered, ih (List.cons_ne_nil q rest) others, List.reverse_cons,
      List.append_assoc, List.singleton_append]

end Resolving

/-! ## Paths -/

/-- No backslash is left. -/
theorem backslash_notMem_forwardSlashes (cs : List Char) : '\\' ∉ forwardSlashes cs := by
  intro mem
  obtain ⟨c, -, eq⟩ := List.mem_map.mp mem
  split_ifs at eq with same
  · nomatch eq
  · exact same eq

/-- Without a backslash nothing is replaced. -/
theorem forwardSlashes_of_notMem {cs : List Char} (free : '\\' ∉ cs) : forwardSlashes cs = cs := by
  refine (List.map_congr_left fun c mem => if_neg ?_).trans (List.map_id cs)
  rintro rfl
  exact free mem

/-- What stands behind the root stood in the path. -/
theorem mem_of_mem_withoutRoot {cs : List Char} {c : Char} (mem : c ∈ withoutRoot cs) :
    c ∈ cs := by
  unfold withoutRoot at mem
  split at mem
  · exact List.mem_cons_of_mem _ mem
  · exact mem

/-- The segments of a path without backslashes. -/
theorem forall_segmentsOf {cs : List Char} (free : '\\' ∉ cs) :
    segmentsOf cs ≠ [] ∧ ∀ s ∈ segmentsOf cs, IsSegment s := by
  refine ⟨resolve_ne_nil (pieces_ne_nil '/' cs), forall_resolve (fun _ none => nomatch none) ?_⟩
  intro p mem
  obtain ⟨slash, inside⟩ := mem_pieces mem
  exact ⟨slash, fun backslash => free (inside _ backslash)⟩

/-- Segments after slashes are joined by slashes behind the first one. -/
theorem chars_segments {list : List (List Char)} (some : list ≠ []) :
    (Path.segments list).chars = '/' :: joined ['/'] list := by
  induction list with
  | nil => exact absurd rfl some
  | cons s rest ih =>
    cases rest with
    | nil => exact congrArg ('/' :: ·) (List.append_nil s)
    | cons next more =>
      have tail := ih (List.cons_ne_nil next more)
      rw [Path.chars] at tail ⊢
      rw [List.flatMap_cons, tail, joined_cons_cons]
      rfl

/-- A path consists of slashes and its segments. -/
theorem mem_chars_segments {list : List (List Char)} {c : Char}
    (mem : c ∈ (Path.segments list).chars) : c = '/' ∨ ∃ s ∈ list, c ∈ s := by
  obtain ⟨s, found, inside⟩ := List.mem_flatMap.mp mem
  exact (List.mem_cons.mp inside).imp_right fun inside => ⟨s, found, inside⟩

/-- **Paths are read again.** The segments of a path that was read are those of its text. -/
theorem segmentsOf_chars {list : List (List Char)} (some : list ≠ [])
    (segments : ∀ s ∈ list, IsSegment s) :
    segmentsOf (withoutRoot (forwardSlashes (Path.segments list).chars)) = list := by
  have free : '\\' ∉ (Path.segments list).chars := by
    intro mem
    rcases mem_chars_segments mem with slash | ⟨s, found, inside⟩
    · exact absurd slash (by decide)
    · exact (segments s found).backslash inside
  rw [forwardSlashes_of_notMem free, chars_segments some]
  show resolve [] (pieces '/' (joined ['/'] list)) = list
  rw [pieces_joined some fun s mem => (segments s mem).slash, resolve_of_isSegment some segments]
  rfl

end MetricsHarness.Url
