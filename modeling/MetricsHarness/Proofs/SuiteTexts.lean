import MetricsHarness.Proofs.SuiteSamples

/-!
# Lists of numbers in the text of a suite

The text `[[v, t]]` of two number texts has seven tokens (`tokensOf_pair`). Between two tokens the
scanner is at some characters that are left, inside some brackets and after some lexemes
(`Scan.At`); a possible key is noted but none is required, since no block is open, so a text of any
length goes through. Each token is one step from such a state to the next (`Scan.At.step`).
-/

namespace MetricsHarness.Yaml

open Text

/-! ## Spots -/

/-- Inside a line, spots are characters one by one. -/
theorem charsOf_spotsFrom {cs : List Char} (line : ∀ c ∈ cs, isBreak c = false) (m : Mark) :
    charsOf (spotsFrom m cs) = cs := by
  induction cs generalizing m with
  | nil => rfl
  | cons c rest ih =>
    obtain ⟨first, others⟩ := List.forall_mem_cons.mp line
    obtain ⟨feed, separator⟩ := Bool.or_eq_false_iff.mp first
    unfold spotsFrom
    split
    · next none => cases none
    · next more found =>
      cases found
      cases first
    · next d more _ found =>
      cases found
      rw [if_neg (by rw [feed]; exact Bool.false_ne_true),
        if_neg (by rw [separator]; exact Bool.false_ne_true)]
      exact congrArg (c :: ·) (ih others _)

/-- A character is at a spot. -/
theorem exists_spot {spots : List Spot} {c : Char} {more : List Char}
    (h : charsOf spots = c :: more) :
    ∃ s rest, spots = s :: rest ∧ s.char = c ∧ charsOf rest = more := by
  cases spots with
  | nil => cases h
  | cons s rest =>
    obtain ⟨char, chars⟩ := List.cons.inj h
    exact ⟨s, rest, rfl, char, chars⟩

/-- A character that may begin a token. -/
def Solid (c : Char) : Prop :=
  isBlank c = false ∧ isBreak c = false ∧ c ≠ '#' ∧ c ≠ '\ufeff'

instance (c : Char) : Decidable (Solid c) := instDecidableAnd

/-- Blanks before a character are dropped. -/
theorem charsOf_dropWhile {p : Char → Bool} {spots : List Spot} {n : Nat} {c : Char}
    {more : List Char} (h : charsOf spots = List.replicate n ' ' ++ c :: more)
    (blank : p ' ' = true) (other : p c = false) :
    charsOf (spots.dropWhile (p ·.char)) = c :: more := by
  have drop : charsOf (spots.dropWhile (p ·.char)) = (charsOf spots).dropWhile p :=
    List.dropWhile_map.symm
  have blanks : ∀ b ∈ List.replicate n ' ', p b = true := fun b mem => by
    rw [List.eq_of_mem_replicate mem, blank]
  rw [drop, h, List.dropWhile_append_of_pos blanks, List.dropWhile_cons_of_neg]
  rw [other]
  exact Bool.false_ne_true

namespace Scan

/-! ## States -/

/-- A possible key that need not be one. -/
def Optional (key : Option PossibleKey) : Prop := ∀ k ∈ key, k.required = false

/-- The scanner is at characters, inside brackets and after lexemes, the last first. -/
structure At (s : Scan) (cs : List Char) (depth : Nat) (lexemes : List Lexeme) : Prop where
  chars : charsOf s.rest = cs
  lexemes : s.tokens.map (·.lexeme) = lexemes
  depth : s.flow.length = depth
  blocks : s.blocks = []
  room : 0 < s.room
  key : Optional s.key
  flow : ∀ key ∈ s.flow, Optional key

theorem optional_none : Optional none := fun _ none => by cases none

/-- A key that may be missing is never missed. -/
theorem freshKey_of_optional (here : Mark) {key : Option PossibleKey} (h : Optional key) :
    ∃ kept, freshKey here key = .ok kept ∧ Optional kept := by
  unfold freshKey
  cases key with
  | none => exact ⟨none, rfl, h⟩
  | some k =>
    dsimp only
    by_cases fresh : isFresh here k = true
    · exact ⟨some k, if_pos fresh, h⟩
    · have free : ¬ k.required = true := by
        rw [h k rfl]
        exact Bool.false_ne_true
      exact ⟨none, by rw [if_neg fresh, if_neg free], optional_none⟩

/-- Keys that may be missing are never missed, at any depth. -/
theorem mapM_freshKey (here : Mark) {flow : List (Option PossibleKey)}
    (h : ∀ key ∈ flow, Optional key) : ∃ kept, flow.mapM (freshKey here) = .ok kept ∧
      kept.length = flow.length ∧ ∀ key ∈ kept, Optional key := by
  induction flow with
  | nil => exact ⟨[], rfl, rfl, h⟩
  | cons key more ih =>
    obtain ⟨first, others⟩ := List.forall_mem_cons.mp h
    obtain ⟨kept, fresh, optional⟩ := freshKey_of_optional here first
    obtain ⟨keptMore, freshMore, size, optionalMore⟩ := ih others
    refine ⟨kept :: keptMore, ?_, congrArg (· + 1) size,
      List.forall_mem_cons.mpr ⟨optional, optionalMore⟩⟩
    rw [List.mapM_cons, fresh, freshMore]
    rfl

namespace At

variable {s : Scan} {cs : List Char} {depth : Nat} {lexemes : List Lexeme}
  (h : s.At cs depth lexemes)
include h

/-- Keys that went stale are dropped without a fault. -/
theorem dropStale : ∃ next, s.dropStale = .ok next ∧ next.At cs depth lexemes := by
  obtain ⟨key, fresh, optional⟩ := freshKey_of_optional s.mark h.key
  obtain ⟨flow, freshFlow, size, optionalFlow⟩ := mapM_freshKey s.mark h.flow
  refine ⟨{ s with key := key, flow := flow }, ?_, ?_⟩
  · unfold Scan.dropStale
    rw [fresh, freshFlow]
  · exact { h with depth := size.trans h.depth, key := optional, flow := optionalFlow }

/-- Inside of brackets no block is closed. -/
theorem closeBlocks (column : Option Nat) : (s.closeBlocks column).At cs depth lexemes := by
  unfold Scan.closeBlocks
  split_ifs
  · exact h
  · rw [h.blocks]
    exact { h with blocks := rfl }

theorem withKey {key : Option PossibleKey} (optional : Optional key) :
    (s.withKey key).At cs depth lexemes := by
  unfold Scan.withKey
  split
  · next k outer flow =>
    have inner := h.flow
    have size := h.depth
    rw [flow] at inner size
    exact { h with
      depth := size
      flow := List.forall_mem_cons.mpr ⟨optional, (List.forall_mem_cons.mp inner).2⟩ }
  · exact { h with key := optional }

theorem currentKey : Optional s.currentKey := by
  unfold Scan.currentKey
  split
  · next k outer flow => exact h.flow k (by rw [flow]; exact List.mem_cons_self)
  · exact h.key

/-- The key of this depth is dropped without a fault. -/
theorem dropKey : ∃ next, s.dropKey = .ok next ∧ next.At cs depth lexemes := by
  have optional := h.currentKey
  unfold Scan.dropKey
  cases key : s.currentKey with
  | none => exact ⟨s, rfl, h⟩
  | some k =>
    have free : ¬ k.required = true := by
      rw [optional k key]
      exact Bool.false_ne_true
    exact ⟨s.withKey none, if_neg free, h.withKey optional_none⟩

/-- Where a key may begin it is noted without a fault. -/
theorem noteKey : ∃ next, s.noteKey = .ok next ∧ next.At cs depth lexemes := by
  unfold Scan.noteKey
  split_ifs
  · obtain ⟨next, dropped, there⟩ := h.dropKey
    rw [dropped]
    refine ⟨_, rfl, there.withKey ?_⟩
    intro k mem
    rw [← Option.some.inj mem]
    dsimp only
    rw [there.blocks]
    exact Bool.and_false _
  · exact ⟨s, rfl, h⟩

/-- A node begins where the scanner stands. -/
theorem beginNode : ∃ next, s.beginNode = .ok next ∧ next.At cs depth lexemes := by
  obtain ⟨next, noted, there⟩ := h.noteKey
  refine ⟨{ next with keyAllowed := false }, ?_, { there with }⟩
  rw [Scan.beginNode, noted]

/-- A token is put down and the scanner moves on. -/
theorem push (lexeme : Lexeme) (rest : List Spot) :
    (s.push lexeme rest).At (charsOf rest) depth (lexeme :: lexemes) :=
  { h with chars := rfl, lexemes := congrArg (lexeme :: ·) h.lexemes }

end At

/-! ## Gaps -/

/-- A spot has the character that it has. -/
theorem atChar_of_chars {spots : List Spot} {c d : Char} {more : List Char}
    (h : charsOf spots = c :: more) (other : c ≠ d) : atChar d spots = false := by
  obtain ⟨s, rest, rfl, rfl, -⟩ := exists_spot h
  exact beq_eq_false_iff_ne.mpr other

/-- Blanks before a token are passed. -/
theorem At.skipGap {s : Scan} {n : Nat} {c : Char} {more : List Char} {depth : Nat}
    {lexemes : List Lexeme} (h : s.At (List.replicate n ' ' ++ c :: more) depth lexemes)
    (solid : Solid c) : (s.skipGap s.room).At (c :: more) depth lexemes := by
  obtain ⟨fuel, room⟩ := Nat.exists_eq_succ_of_ne_zero (Nat.ne_of_gt h.room)
  obtain ⟨notBlank, notBreak, notComment, notMark⟩ := solid
  obtain ⟨blankFirst, tabFirst⟩ := Bool.or_eq_false_iff.mp notBlank
  have unmarked : atChar '\ufeff' s.rest = false := by
    cases n with
    | zero => exact atChar_of_chars h.chars notMark
    | succ n => exact atChar_of_chars h.chars (by decide)
  have left := charsOf_dropWhile (p := fun c =>
    c == ' ' || ((s.inFlow || !s.keyAllowed) && c == '\t')) h.chars rfl (by
      rw [blankFirst, tabFirst, Bool.and_false]
      rfl)
  obtain ⟨e, rest, spots, char, chars⟩ := exists_spot left
  rw [room, Scan.skipGap]
  simp only [unmarked, Bool.and_false, Bool.false_eq_true, if_false,
    atChar_of_chars left notComment]
  rw [spots]
  dsimp only
  rw [if_neg (by rw [char, notBreak]; exact Bool.false_ne_true)]
  exact { h with chars := List.cons_eq_cons.mpr ⟨char, chars⟩ }

/-- At the end there is no gap. -/
theorem At.skipGap_end {s : Scan} {depth : Nat} {lexemes : List Lexeme}
    (h : s.At [] depth lexemes) : (s.skipGap s.room).At [] depth lexemes := by
  obtain ⟨fuel, room⟩ := Nat.exists_eq_succ_of_ne_zero (Nat.ne_of_gt h.room)
  have none : s.rest = [] := List.map_eq_nil_iff.mp h.chars
  rw [room, Scan.skipGap, none]
  simp only [atChar, Bool.and_false, Bool.false_eq_true, if_false, List.dropWhile_nil]
  exact { h with chars := rfl }

/-! ## Tokens -/

section Tokens

variable {s : Scan} {c : Char} {more : List Char} {depth : Nat} {lexemes : List Lexeme}

theorem charsOf_drop (spots : List Spot) (n : Nat) :
    charsOf (spots.drop n) = (charsOf spots).drop n := List.map_drop

/-- A token of one character is put down. -/
theorem At.pushChars (h : s.At (c :: more) depth lexemes) (lexeme : Lexeme) :
    (s.pushChars lexeme 1).At more depth (lexeme :: lexemes) := by
  have next := h.push lexeme (s.rest.drop 1)
  rw [charsOf_drop, h.chars] at next
  exact next

/-- An opening bracket goes one level deeper. -/
theorem At.openFlow (h : s.At (c :: more) depth lexemes) (lexeme : Lexeme) :
    ∃ next, s.openFlow lexeme = .ok next ∧ next.At more (depth + 1) (lexeme :: lexemes) := by
  obtain ⟨noted, note, there⟩ := h.noteKey
  have pushed := there.pushChars lexeme
  refine ⟨{ noted.pushChars lexeme 1 with flow := none :: noted.flow, keyAllowed := true }, ?_, ?_⟩
  · rw [Scan.openFlow, note]
    rfl
  · exact { pushed with
      depth := congrArg (· + 1) there.depth
      flow := List.forall_mem_cons.mpr ⟨optional_none, there.flow⟩ }

/-- A closing bracket goes one level back. -/
theorem At.closeFlow (h : s.At (c :: more) (depth + 1) lexemes) (lexeme : Lexeme) :
    ∃ next, s.closeFlow lexeme = .ok next ∧ next.At more depth (lexeme :: lexemes) := by
  obtain ⟨dropped, drop, there⟩ := h.dropKey
  have pushed := there.pushChars lexeme
  refine ⟨{ dropped.pushChars lexeme 1 with flow := dropped.flow.drop 1, keyAllowed := false }, ?_,
    ?_⟩
  · rw [Scan.closeFlow, drop]
    rfl
  · exact { pushed with
      depth := by rw [List.length_drop, there.depth, Nat.add_sub_cancel]
      flow := fun key mem => there.flow key (List.mem_of_mem_drop mem) }

/-- A comma is put down. -/
theorem At.readComma (h : s.At (c :: more) depth lexemes) :
    ∃ next, s.readComma = .ok next ∧ next.At more depth (.comma :: lexemes) := by
  obtain ⟨dropped, drop, there⟩ := h.dropKey
  refine ⟨{ dropped.pushChars .comma 1 with keyAllowed := true }, ?_,
    { there.pushChars .comma with }⟩
  rw [Scan.readComma, drop]
  rfl

end Tokens

end Scan

/-- A character of a word in brackets. -/
def InWord (c : Char) : Prop :=
  isBlank c = false ∧ isBreak c = false ∧ c ≠ ':' ∧ isFlowMark c = false

instance (c : Char) : Decidable (InWord c) := instDecidableAnd

/-- Digits may stand in a word. -/
theorem inWord_of_isDigit {c : Char} (digit : isDigit c = true) : InWord c :=
  forall_isDigit (by decide) digit

/-- The characters of a number text are all in a word. -/
theorem inWord_of_mem {t : NumberText} {c : Char} (mem : c ∈ t.chars) : InWord c := by
  rcases t.mem_chars mem with digit | mark
  · exact inWord_of_isDigit digit
  · exact forall_mem_of_all (p := InWord) (by decide) c mark

/-- In brackets, a word ends before a mark of the brackets. -/
theorem scanPlain_word {word : List Char} (inside : ∀ c ∈ word, InWord c) {spots : List Spot}
    {c : Char} {more : List Char} (h : charsOf spots = word ++ c :: more)
    (mark : c ∈ [',', ']']) (indent : Nat) (since : Mark) :
    ∃ rest, scanPlain true indent since .nothing spots = .ok ⟨word, rest, false⟩ ∧
      charsOf rest = c :: more := by
  induction word generalizing spots with
  | nil =>
    obtain ⟨s, rest, rfl, rfl, chars⟩ := exists_spot h
    refine ⟨s :: rest, ?_, List.cons_eq_cons.mpr ⟨rfl, chars⟩⟩
    obtain ⟨blank, brk, colon, flow⟩ : isBlank s.char = false ∧ isBreak s.char = false ∧
        (s.char == ':') = false ∧ isFlowMark s.char = true :=
      forall_mem_of_all (p := fun c => isBlank c = false ∧ isBreak c = false ∧
        (c == ':') = false ∧ isFlowMark c = true) (by decide) _ mark
    rw [scanPlain]
    simp only [blank, brk, Gap.isSome, isLooseColon, colon, endsInWord, flow, Bool.or_self,
      Bool.false_eq_true, if_false, Bool.false_and, Bool.and_false, Bool.true_and, Bool.false_or,
      if_true]
    rfl
  | cons d word ih =>
    obtain ⟨⟨blank, brk, colon, flow⟩, others⟩ := List.forall_mem_cons.mp inside
    obtain ⟨s, rest, rfl, rfl, chars⟩ := exists_spot h
    obtain ⟨left, scanned, end_⟩ := ih others chars
    have noColon : (s.char == ':') = false := beq_eq_false_iff_ne.mpr colon
    refine ⟨left, ?_, end_⟩
    rw [scanPlain]
    simp only [blank, brk, Gap.isSome, isLooseColon, noColon, endsInWord, flow, Bool.or_self,
      Bool.false_eq_true, if_false, Bool.false_and, Bool.and_false, scanned]
    rfl

namespace Scan

/-- A word in brackets is a plain scalar. -/
theorem At.readPlain {s : Scan} {word : List Char} {c : Char} {more : List Char} {depth : Nat}
    {lexemes : List Lexeme} (h : s.At (word ++ c :: more) (depth + 1) lexemes)
    (inside : ∀ c ∈ word, InWord c) (mark : c ∈ [',', ']']) :
    ∃ next, s.readPlain = .ok next ∧
      next.At (c :: more) (depth + 1) (.scalar (String.ofList word) .plain :: lexemes) := by
  obtain ⟨begun, begin, there⟩ := h.beginNode
  obtain ⟨rest, scanned, left⟩ := scanPlain_word inside there.chars mark 0 begun.mark
  have flow : begun.inFlow = true := by
    have some : begun.flow ≠ [] := List.ne_nil_of_length_pos (by rw [there.depth]; omega)
    unfold Scan.inFlow
    rw [List.isEmpty_eq_false_iff.mpr some]
    rfl
  have pushed := there.push (.scalar (String.ofList word) .plain) rest
  rw [left] at pushed
  refine ⟨{ begun.push (.scalar (String.ofList word) .plain) rest with keyAllowed := false }, ?_,
    { pushed with }⟩
  unfold Scan.readPlain
  rw [begin]
  dsimp only [bind, Except.bind]
  rw [there.blocks, flow]
  dsimp only
  rw [scanned]
  rfl

/-! ## Steps -/

/-- A text that begins like a number begins no line between documents. -/
theorem atDocumentLine_of_chars {spots : List Spot} {c : Char} {more : List Char}
    (h : charsOf spots = c :: more) (point : c ≠ '.') (minus : c = '-' → more.head? ≠ some '-') :
    atDocumentLine spots = false := by
  obtain ⟨a, rest, rfl, rfl, chars⟩ := exists_spot h
  unfold atDocumentLine
  split
  · next a b d rest found =>
    cases found
    have noPoint : (a.char == '.') = false := beq_eq_false_iff_ne.mpr point
    by_cases dash : a.char = '-'
    · have other : a.char ≠ b.char := fun same =>
        minus dash (by rw [← chars]; exact congrArg some (same.symm.trans dash))
      rw [beq_eq_false_iff_ne.mpr other, Bool.and_false, Bool.false_and, Bool.false_and,
        Bool.false_and]
    · rw [beq_eq_false_iff_ne.mpr dash, noPoint, Bool.or_self, Bool.and_false, Bool.false_and]
  · rfl

/-- One token is read, with the blanks before it. -/
theorem At.step {s : Scan} {n : Nat} {c : Char} {more : List Char} {depth : Nat}
    {lexemes : List Lexeme} {reached : Scan → Prop}
    (h : s.At (List.replicate n ' ' ++ c :: more) depth lexemes) (solid : Solid c)
    (read : ∀ (s' : Scan) (rest : List Spot), s'.At (c :: more) depth lexemes →
      charsOf rest = more → ∃ next, s'.readAt c rest = .ok next ∧ reached next) :
    ∃ next, reached next ∧ ∀ fuel, run (fuel + 1) s = run fuel next := by
  -- What happens before the token is read moves past the blanks and keeps the rest of the state.
  obtain ⟨fresh, kept, there⟩ := (h.skipGap solid).dropStale
  have closed := there.closeBlocks (some fresh.mark.column)
  obtain ⟨e, rest, spots, char, chars⟩ := exists_spot closed.chars
  obtain ⟨next, found, reached⟩ := read _ rest closed chars
  refine ⟨next, reached, fun fuel => ?_⟩
  rw [run, kept]
  dsimp only
  rw [spots]
  dsimp only
  rw [char, found]

/-- At the end, outside of brackets, the scanner is done. -/
theorem At.finish {s : Scan} {lexemes : List Lexeme} (h : s.At [] 0 lexemes) (fuel : Nat) :
    ∃ done, run (fuel + 1) s = .ok done ∧ done.tokens.map (·.lexeme) = lexemes := by
  obtain ⟨fresh, kept, there⟩ := h.skipGap_end.dropStale
  have closed := there.closeBlocks (some fresh.mark.column)
  have none : (fresh.closeBlocks (some fresh.mark.column)).rest = [] :=
    List.map_eq_nil_iff.mp closed.chars
  obtain ⟨finish, hFinish⟩ : ∃ m, m = if (fresh.closeBlocks (some fresh.mark.column)).finish.column
    = 0 then (fresh.closeBlocks (some fresh.mark.column)).finish
      else (fresh.closeBlocks (some fresh.mark.column)).finish.nextLine 0 := ⟨_, rfl⟩
  have ended : ({ fresh.closeBlocks (some fresh.mark.column) with finish := finish } : Scan).At
    [] 0 lexemes := { closed with }
  obtain ⟨done, dropped, at_⟩ := (ended.closeBlocks Option.none).dropKey
  refine ⟨done, ?_, at_.lexemes⟩
  rw [run, kept]
  dsimp only
  rw [none]
  dsimp only
  rw [atEnd, ← hFinish]
  exact dropped

section Readings

variable {s : Scan} {more : List Char} {depth : Nat} {lexemes : List Lexeme}

theorem At.readAt_opening (h : s.At ('[' :: more) depth lexemes) (rest : List Spot) :
    ∃ next, s.readAt '[' rest = .ok next ∧
      next.At more (depth + 1) (.flowSequence :: lexemes) := by
  have line := atDocumentLine_of_chars h.chars (by decide) fun dash => absurd dash (by decide)
  obtain ⟨next, opened, there⟩ := h.openFlow .flowSequence
  refine ⟨next, ?_, there⟩
  rw [← opened]
  simp [Scan.readAt, line]

theorem At.readAt_closing (h : s.At (']' :: more) (depth + 1) lexemes) (rest : List Spot) :
    ∃ next, s.readAt ']' rest = .ok next ∧
      next.At more depth (.flowSequenceEnd :: lexemes) := by
  have line := atDocumentLine_of_chars h.chars (by decide) fun dash => absurd dash (by decide)
  obtain ⟨next, closed, there⟩ := h.closeFlow .flowSequenceEnd
  refine ⟨next, ?_, there⟩
  rw [← closed]
  simp [Scan.readAt, line]

theorem At.readAt_comma (h : s.At (',' :: more) depth lexemes) (rest : List Spot) :
    ∃ next, s.readAt ',' rest = .ok next ∧ next.At more depth (.comma :: lexemes) := by
  have line := atDocumentLine_of_chars h.chars (by decide) fun dash => absurd dash (by decide)
  obtain ⟨next, passed, there⟩ := h.readComma
  refine ⟨next, ?_, there⟩
  rw [← passed]
  simp [Scan.readAt, line]

end Readings

/-- Where a digit begins a token, it begins a word. -/
theorem readAt_digit {s : Scan} {c : Char} (digit : isDigit c = true) (rest : List Spot)
    (line : atDocumentLine s.rest = false) : s.readAt c rest = s.readPlain := by
  -- A digit is none of the characters that begin another token, so only the last branch is left.
  have differs (d : Char) (other : isDigit d = false) : (c == d) = false :=
    beq_eq_false_iff_ne.mpr (ne_of_isDigit digit other)
  have blank : isBlank c = false := by
    rw [isBlank, differs ' ' rfl, differs '\t' rfl]
    rfl
  have free : ("-?:,[]\x7b\x7d#&*!|>'\"%@\x60".toList.contains c) = false := by
    rw [Bool.eq_false_iff]
    intro found
    have none : isDigit c = false := forall_mem_of_all (p := fun d => isDigit d = false)
      (by decide) c (List.contains_iff_mem.mp found)
    exact Bool.false_ne_true (none.symm.trans digit)
  have begins : beginsPlain s.inFlow c rest = true := by
    unfold beginsPlain
    rw [differs '-' rfl, differs '?' rfl, differs ':' rfl, blank, free]
    rfl
  unfold Scan.readAt
  simp (disch := decide) only [differs, line, begins, Bool.and_false, Bool.false_and,
    Bool.false_eq_true, if_false, if_true]

/-- Where a minus sign begins a token and no blank follows, it begins a word. -/
theorem readAt_minus {s : Scan} {rest : List Spot} {d : Char} {more : List Char}
    (follows : charsOf rest = d :: more) (digit : isDigit d = true)
    (line : atDocumentLine s.rest = false) : s.readAt '-' rest = s.readPlain := by
  obtain ⟨e, others, rfl, rfl, -⟩ := exists_spot follows
  obtain ⟨blank, brk, -⟩ := inWord_of_isDigit digit
  have gap : atGap (e :: others) = false := by
    rw [atGap, blank, brk]
    rfl
  have begins : beginsPlain s.inFlow '-' (e :: others) = true := by
    simp [beginsPlain, blank]
  unfold Scan.readAt
  simp [line, gap, begins]

/-- A number text begins with a digit, or with a minus sign and a digit. -/
theorem exists_front (t : NumberText) : ∃ c others, t.chars = c :: others ∧
    (isDigit c = true ∨ c = '-' ∧ ∃ d more, others = d :: more ∧ isDigit d = true) := by
  obtain ⟨d, more, eq, digit⟩ := t.exists_unsigned
  rcases Bool.eq_false_or_eq_true t.negative with sign | sign
  · exact ⟨'-', d :: more, by rw [t.chars_of_negative sign, eq], .inr ⟨rfl, d, more, rfl, digit⟩⟩
  · exact ⟨d, more, by rw [t.chars_of_not_negative sign, eq], .inl digit⟩

/-- A number text is one token, with the blanks before it. -/
theorem At.number {s : Scan} {n : Nat} {t : NumberText} {c : Char} {more : List Char} {depth : Nat}
    {lexemes : List Lexeme}
    (h : s.At (List.replicate n ' ' ++ (t.chars ++ c :: more)) (depth + 1) lexemes)
    (mark : c ∈ [',', ']']) : ∃ next : Scan,
      next.At (c :: more) (depth + 1) (.scalar (String.ofList t.chars) .plain :: lexemes) ∧
        ∀ fuel, run (fuel + 1) s = run fuel next := by
  have inside : ∀ b ∈ t.chars, InWord b := fun b => inWord_of_mem
  obtain ⟨first, others, eq, front⟩ := exists_front t
  have solid : Solid first := by
    obtain ⟨blank, brk, -⟩ := inside first (by rw [eq]; exact List.mem_cons_self)
    refine ⟨blank, brk, ?_, ?_⟩ <;> rintro rfl
    · rcases front with digit | ⟨minus, -⟩
      · exact absurd digit (by decide)
      · exact absurd minus (by decide)
    · rcases front with digit | ⟨minus, -⟩
      · exact absurd digit (by decide)
      · exact absurd minus (by decide)
  have word : t.chars ++ c :: more = first :: (others ++ c :: more) := by rw [eq, List.cons_append]
  rw [word] at h
  refine h.step solid fun s' rest there left => ?_
  have chars := there.chars
  rw [← word] at there
  obtain ⟨next, read, reached⟩ := there.readPlain inside mark
  refine ⟨next, ?_, reached⟩
  rw [← read]
  rcases front with digit | ⟨rfl, d, more', rfl, digit⟩
  · refine readAt_digit digit rest (atDocumentLine_of_chars chars ?_ ?_)
    · exact ne_of_isDigit digit (by decide)
    · exact fun minus => absurd minus (ne_of_isDigit digit (by decide))
  · refine readAt_minus left digit (atDocumentLine_of_chars chars (by decide) fun _ same => ?_)
    exact ne_of_isDigit digit (by decide) (Option.some.inj same)

end Scan

/-! ## Documents -/

/-- The text of a pair in a list of pairs, with blanks behind the comma. -/
def pairChars (n : Nat) (v t : NumberText) : List Char :=
  '[' :: '[' :: (v.chars ++ ',' :: (List.replicate n ' ' ++ (t.chars ++ [']', ']'])))

/-- A written pair has digits, the marks of numbers, brackets, a comma and blanks. -/
theorem mem_pairChars {n : Nat} {v t : NumberText} {c : Char} (h : c ∈ pairChars n v t) :
    isDigit c = true ∨ c ∈ NumberText.marks ∨ c ∈ ['[', ']', ',', ' '] := by
  simp only [pairChars, List.mem_cons, List.mem_append, List.mem_replicate, List.not_mem_nil,
    or_false] at h
  rcases h with rfl | rfl | value | rfl | ⟨-, rfl⟩ | time | rfl | rfl
  · exact .inr (.inr (by decide))
  · exact .inr (.inr (by decide))
  · exact (v.mem_chars value).imp_right .inl
  · exact .inr (.inr (by decide))
  · exact .inr (.inr (by decide))
  · exact (t.mem_chars time).imp_right .inl
  · exact .inr (.inr (by decide))
  · exact .inr (.inr (by decide))

/-- The lexemes of the text. -/
def pairLexemes (v t : NumberText) : List Lexeme :=
  [.flowSequence, .flowSequence, .scalar (String.ofList v.chars) .plain, .comma,
    .scalar (String.ofList t.chars) .plain, .flowSequenceEnd, .flowSequenceEnd]

/-- A written pair is scanned to its tokens. -/
theorem run_pair {s : Scan} {n : Nat} {v t : NumberText} (h : s.At (pairChars n v t) 0 [])
    (fuel : Nat) : ∃ done, Scan.run (fuel + 8) s = .ok done ∧
      done.tokens.map (·.lexeme) = (pairLexemes v t).reverse := by
  have bracket : Solid '[' := by decide
  obtain ⟨s1, h1, run1⟩ := Scan.At.step (n := 0) h bracket fun s' rest there _ =>
    there.readAt_opening rest
  obtain ⟨s2, h2, run2⟩ := Scan.At.step (n := 0) h1 bracket fun s' rest there _ =>
    there.readAt_opening rest
  obtain ⟨s3, h3, run3⟩ := Scan.At.number (n := 0) h2 (by decide)
  obtain ⟨s4, h4, run4⟩ := Scan.At.step (n := 0) h3 (by decide) fun s' rest there _ =>
    there.readAt_comma rest
  obtain ⟨s5, h5, run5⟩ := h4.number (by decide)
  obtain ⟨s6, h6, run6⟩ := Scan.At.step (n := 0) h5 (by decide) fun s' rest there _ =>
    there.readAt_closing rest
  obtain ⟨s7, h7, run7⟩ := Scan.At.step (n := 0) h6 (by decide) fun s' rest there _ =>
    there.readAt_closing rest
  obtain ⟨done, last, lexemes⟩ := h7.finish fuel
  refine ⟨done, ?_, lexemes⟩
  rw [run1, run2, run3, run4, run5, run6, run7, last]

/-- A written pair has its brackets, its words and its comma for tokens. -/
theorem tokensOf_pair (n : Nat) (v t : NumberText) : ∃ tokens finish,
    tokensOf (pairChars n v t) = .ok (tokens, finish) ∧
      tokens.map (·.lexeme) = pairLexemes v t := by
  have allowed : ∀ c ∈ pairChars n v t, isAllowed c = true ∧ isBreak c = false := fun c mem => by
    rcases mem_pairChars mem with digit | mark | bracket
    · exact forall_isDigit (p := fun c => isAllowed c = true ∧ isBreak c = false) (by decide) digit
    · exact forall_mem_of_all (p := fun c => isAllowed c = true ∧ isBreak c = false) (by decide) c
        mark
    · exact forall_mem_of_all (p := fun c => isAllowed c = true ∧ isBreak c = false) (by decide) c
        bracket
  have clean : (pairChars n v t).any (!isAllowed ·) = false := by
    rw [List.any_eq_false]
    intro c mem
    rw [(allowed c mem).1]
    exact Bool.false_ne_true
  have chars := charsOf_spotsFrom (fun c mem => (allowed c mem).2) Mark.origin
  -- There is room for seven tokens and the end.
  obtain ⟨fuel, size⟩ : ∃ fuel, (spotsFrom .origin (pairChars n v t)).length + 1 = fuel + 8 := by
    have length := congrArg List.length chars
    have value := List.length_pos_of_ne_nil v.chars_ne_nil
    have time := List.length_pos_of_ne_nil t.chars_ne_nil
    simp only [charsOf, List.length_map, pairChars, List.length_cons, List.length_append,
      List.length_nil] at length
    refine ⟨(spotsFrom .origin (pairChars n v t)).length - 7, ?_⟩
    simp only [pairChars]
    omega
  have start : Scan.At ⟨markAfter .origin (pairChars n v t), fuel + 8,
      spotsFrom .origin (pairChars n v t), [], 0, [], none, [], true⟩ (pairChars n v t) 0 [] :=
    { chars := chars
      lexemes := rfl
      depth := rfl
      blocks := rfl
      room := Nat.succ_pos _
      key := Scan.optional_none
      flow := fun _ none => by cases none }
  obtain ⟨done, run, lexemes⟩ := run_pair start fuel
  refine ⟨done.tokens.reverse, done.finish, ?_, ?_⟩
  · unfold tokensOf
    rw [clean]
    simp only [Bool.false_eq_true, if_false, size, run]
  · rw [List.map_reverse, lexemes, List.reverse_reverse]

theorem exists_token {tokens : List Token} {lexeme : Lexeme} {more : List Lexeme}
    (h : tokens.map (·.lexeme) = lexeme :: more) :
    ∃ start stop rest, tokens = ⟨lexeme, start, stop⟩ :: rest ∧ rest.map (·.lexeme) = more := by
  cases tokens with
  | nil => cases h
  | cons token rest =>
    obtain ⟨rfl, chars⟩ := List.cons.inj h
    exact ⟨token.start, token.stop, rest, rfl, chars⟩

/-- The document of the text: a list of one list of two plain scalars. -/
theorem ofText_pair (n : Nat) (v t : NumberText) : ∃ a b first second,
    Document.ofText (pairChars n v t) = .ok ⟨some (.sequence a none
      [.sequence b none [Suite.numberNode first v, Suite.numberNode second t]]), [], []⟩ := by
  obtain ⟨tokens, finish, scanned, lexemes⟩ := tokensOf_pair n v t
  obtain ⟨a, _, _, rfl, inner⟩ := exists_token lexemes
  obtain ⟨b, _, _, rfl, value⟩ := exists_token inner
  obtain ⟨first, _, _, rfl, comma⟩ := exists_token value
  obtain ⟨_, _, _, rfl, time⟩ := exists_token comma
  obtain ⟨second, _, _, rfl, closing⟩ := exists_token time
  obtain ⟨_, _, _, rfl, last⟩ := exists_token closing
  obtain ⟨_, _, _, rfl, nothing⟩ := exists_token last
  obtain rfl := List.map_eq_nil_iff.mp nothing
  refine ⟨a, b, first, second, ?_⟩
  unfold Document.ofText
  rw [scanned]
  rfl

end MetricsHarness.Yaml

namespace MetricsHarness

open Yaml

/-- The text of a pair is read as a list of its sample. -/
theorem Sample.toOption_listOfText (n : Nat) (v t : NumberText) :
    (Sample.listOfText (pairChars n v t)).toOption = (Suite.pair? v t).map fun s => [s] := by
  obtain ⟨a, b, first, second, document⟩ := ofText_pair n v t
  obtain ⟨pair, hPair⟩ : ∃ node, node =
    Node.sequence b none [Suite.numberNode first v, Suite.numberNode second t] := ⟨_, rfl⟩
  obtain ⟨d, hd⟩ : ∃ d : Document, d = ⟨some (.sequence a none [pair]), [], []⟩ := ⟨_, rfl⟩
  rw [← hPair, ← hd] at document
  have sample := Suite.readSample_pair d b first second v t d.allowance
  have items : d.readItems (Suite.readSample d) (.sequence a none [pair]) =
      (inside (.item 0) (Suite.readSample d pair) >>= fun s => pure [s]) := rfl
  have value : d.value (d.readItems (Suite.readSample d)) [] =
      (d.readItems (Suite.readSample d) (.sequence a none [pair]) d.allowance).map (·.1) := by
    rw [hd]
    rfl
  have read : (d.value (d.readItems (Suite.readSample d)) []).toOption =
      (Suite.pair? v t).map fun s => [s] := by
    rw [value, toOption_map, items, Suite.toOption_bind, Suite.toOption_inside, hPair, sample]
    cases Suite.pair? v t <;> rfl
  unfold Sample.listOfText Suite.ofContent
  rw [document]
  dsimp only
  rw [← read]
  cases d.value (d.readItems (Suite.readSample d)) [] <;> rfl

end MetricsHarness
