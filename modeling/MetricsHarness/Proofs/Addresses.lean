import Mathlib.Data.List.Induction
import MetricsHarness.Proofs.Numerals
import MetricsHarness.Proofs.Pieces
import MetricsHarness.Url.Host

/-!
# Addresses that are read again

An address of four bytes is written as four decimal numbers, the plainest of its spellings, and read
as their bytes (`readFour_fourChars`).

An address of eight groups is written with its longest run of zero groups left out and read as its
groups (`readSix_sixChars`). The texts around the gap hold no gap themselves
(`aroundGap?_groupLine`), and what is left out are zeros (`longestZeros_spec`), as many as are
missing then.
-/

namespace MetricsHarness.Url

open Text

/-! ## Addresses of four bytes -/

/-- The four bytes of an address, first byte first. -/
def fourNumbers (address : UInt32) : List Nat :=
  [16777216, 65536, 256, 1].map fun unit => address.toNat / unit % 256

theorem fourChars_eq (address : UInt32) :
    fourChars address = joined ['.'] ((fourNumbers address).map numeralChars) := by
  rw [fourChars, fourNumbers, List.map_map]
  rfl

/-- A numeral has no leading zero that would make it octal. -/
theorem addressNumber?_numeralChars (n : Nat) : addressNumber? (numeralChars n) = some n := by
  obtain ⟨c, rest, eq, digit, zero⟩ := exists_numeralChars_cons n
  have value : value? 10 (c :: rest) = some n := by
    rw [← eq, value?_of_digits (fun _ mem => isDigit_of_mem_numeralChars mem)
      (numeralChars_ne_nil n), ofDigitChars_numeralChars]
  by_cases isZero : c = '0'
  · rw [zero isZero]
    decide
  · rw [eq, addressNumber?]
    · exact value
    · exact fun _ same => absurd (List.cons.inj same).1 isZero
    · exact fun _ same => absurd (List.cons.inj same).1 isZero
    · exact fun _ _ same => absurd (List.cons.inj same).1 isZero

/-- A numeral holds no dot. -/
theorem dot_notMem_numeralChars (n : Nat) : '.' ∉ numeralChars n := by
  intro mem
  exact absurd (isDigit_of_mem_numeralChars mem) (by decide)

/-- The labels of numerals between dots are the numerals. -/
theorem labels_joined {numbers : List Nat} (some : numbers ≠ []) :
    labels (joined ['.'] (numbers.map numeralChars)) = numbers.map numeralChars := by
  have pieces : pieces '.' (joined ['.'] (numbers.map numeralChars)) =
      numbers.map numeralChars :=
    pieces_joined (by simpa using some)
      (List.forall_mem_map.mpr fun n _ => dot_notMem_numeralChars n)
  unfold labels
  rw [pieces]
  extract_lets ls
  split
  next before eq =>
    have empty : [] ∈ (numbers.map numeralChars).reverse := by
      rw [eq]
      exact List.mem_cons_self
    obtain ⟨n, -, same⟩ := List.mem_map.mp (List.mem_reverse.mp empty)
    exact absurd same (numeralChars_ne_nil n)
  next => rfl

/-- The four numbers of an address give it back. -/
theorem fourOfNumbers_fourNumbers (address : UInt32) :
    fourOfNumbers 4294967296 (fourNumbers address) = some address.toNat := by
  have bound := address.toNat_lt
  simp only [fourNumbers, List.map_cons, List.map_nil, fourOfNumbers]
  rw [if_pos (Nat.mod_lt _ (by decide)), if_pos (Nat.mod_lt _ (by decide)),
    if_pos (Nat.mod_lt _ (by decide)), if_pos (Nat.mod_lt _ (by decide))]
  refine congrArg some ?_
  show address.toNat / 16777216 % 256 * 16777216 + (address.toNat / 65536 % 256 * 65536 +
    (address.toNat / 256 % 256 * 256 + address.toNat / 1 % 256)) = address.toNat
  omega

/-- An address of four bytes is read as itself. -/
theorem readFour_fourChars (address : UInt32) : readFour (fourChars address) = .ok address := by
  have numbers : ((fourNumbers address).map numeralChars).mapM addressNumber? =
      some (fourNumbers address) := by
    rw [List.mapM_map]
    simp only [Function.comp_def, addressNumber?_numeralChars]
    exact List.mapM_pure
  rw [fourChars_eq, readFour, labels_joined (by simp [fourNumbers])]
  simp only [numbers, fourOfNumbers_fourNumbers, UInt32.ofNat_toNat]
  rfl

/-- An address is written in digits and dots. -/
theorem mem_fourChars {address : UInt32} {c : Char} (mem : c ∈ fourChars address) :
    c = '.' ∨ isDigit c = true := by
  rw [fourChars_eq] at mem
  refine (mem_joined mem).imp_right ?_
  rintro ⟨piece, found, inside⟩
  obtain ⟨n, -, rfl⟩ := List.mem_map.mp found
  exact isDigit_of_mem_numeralChars inside

theorem fourChars_ne_nil (address : UInt32) : fourChars address ≠ [] := by
  intro empty
  have read := readFour_fourChars address
  rw [empty] at read
  nomatch read

/-- The last label of a written address is a number. -/
theorem endsInNumber_fourChars (address : UInt32) : endsInNumber (fourChars address) = true := by
  have last : (labels (fourChars address)).getLast? =
      some (numeralChars (address.toNat / 1 % 256)) := by
    rw [fourChars_eq, labels_joined (by simp [fourNumbers])]
    rfl
  rw [endsInNumber, last]
  simp only [addressNumber?_numeralChars, Option.isSome_some, Bool.or_true]

/-! ## Addresses of eight groups -/

/-- The characters of groups. -/
def groupDigits : List Char := "0123456789abcdef".toList

/-- The last digit counts once, those before it by the radix. -/
theorem digitsValue?_append {radix : Nat} (cs : List Char) (c : Char) (acc : Nat) :
    digitsValue? radix acc (cs ++ [c]) = (digitsValue? radix acc cs).bind fun n =>
      (digitValue? radix c).map (n * radix + ·) := by
  induction cs generalizing acc with
  | nil =>
    simp only [List.nil_append, digitsValue?, Option.bind_some]
    cases digitValue? radix c <;> rfl
  | cons d rest ih =>
    rw [List.cons_append, digitsValue?, digitsValue?]
    cases digitValue? radix d with
    | none => rfl
    | some v => exact ih _

/-- The digits up to fifteen stand for their numbers. -/
theorem digitChar_spec : ∀ n < 16,
    n.digitChar ∈ groupDigits ∧ digitValue? 16 n.digitChar = some n := by
  decide

/-- A number in hexadecimal is read as itself. -/
theorem digits16_spec (n : Nat) : (∀ c ∈ Nat.toDigits 16 n, c ∈ groupDigits) ∧
    digitsValue? 16 0 (Nat.toDigits 16 n) = some n := by
  induction n using Nat.strongRecOn with
  | ind n ih =>
    rcases Nat.lt_or_ge n 16 with one | more
    · obtain ⟨known, value⟩ := digitChar_spec n one
      rw [Nat.toDigits_of_lt_base one]
      refine ⟨by simpa using known, ?_⟩
      rw [digitsValue?, value]
      simp [digitsValue?]
    · obtain ⟨known, value⟩ := digitChar_spec (n % 16) (Nat.mod_lt n (by decide))
      obtain ⟨before, rest⟩ := ih (n / 16) (by omega)
      rw [Nat.toDigits_of_base_le (by decide) more]
      refine ⟨?_, ?_⟩
      · intro c mem
        rcases List.mem_append.mp mem with early | last
        · exact before c early
        · rwa [List.mem_singleton.mp last]
      · rw [digitsValue?_append, rest, value]
        simp only [Option.bind_some, Option.map_some, Option.some.injEq]
        omega

/-- A group is written in the digits of groups. -/
theorem mem_groupDigits {group : UInt16} {c : Char} (mem : c ∈ groupChars group) :
    c ∈ groupDigits :=
  (digits16_spec group.toNat).1 c mem

theorem groupChars_ne_nil (group : UInt16) : groupChars group ≠ [] := Nat.toDigits_ne_nil

/-- A group holds no colon. -/
theorem colon_notMem_groupChars (group : UInt16) : ':' ∉ groupChars group := by
  intro mem
  exact absurd (mem_groupDigits mem) (by decide)

/-- A written group is read as the group. -/
theorem readGroup?_groupChars (group : UInt16) : readGroup? (groupChars group) = some [group] := by
  have short : (groupChars group).length ≤ 4 :=
    (Nat.length_toDigits_le_iff (by decide) (by decide)).mpr group.toNat_lt
  have value : value? 16 (groupChars group) = some group.toNat := by
    rw [value?, if_neg (by simpa using groupChars_ne_nil group)]
    exact (digits16_spec group.toNat).2
  rw [readGroup?, if_pos short, value, Option.map_some, UInt16.ofNat_toNat]

/-- Groups are read as themselves. -/
theorem readGroups?_groupChars (ending : Bool) (groups : List UInt16) :
    readGroups? ending (groups.map groupChars) = some groups := by
  induction groups with
  | nil => rfl
  | cons g rest ih =>
    cases rest with
    | nil =>
      have noDot : (groupChars g).contains '.' = false := by
        rw [List.contains_eq_mem, decide_eq_false_iff_not]
        intro mem
        exact absurd (mem_groupDigits mem) (by decide)
      rw [List.map_singleton, readGroups?, noDot, Bool.and_false]
      exact readGroup?_groupChars g
    | cons next more =>
      rw [List.map_cons, List.map_cons, readGroups?, readGroup?_groupChars, ← List.map_cons, ih]
      · rfl
      · exact List.cons_ne_nil _ _

/-- Groups with colons between them. -/
def groupLine (groups : List UInt16) : List Char := joined [':'] (groups.map groupChars)

/-- A colon stands between two groups. -/
theorem groupLine_cons_cons (g next : UInt16) (more : List UInt16) :
    groupLine (g :: next :: more) = groupChars g ++ ':' :: groupLine (next :: more) :=
  joined_cons_cons ':' _ _ _

/-- A line of groups begins with a digit. -/
theorem exists_groupLine_cons (g : UInt16) (more : List UInt16) :
    ∃ c rest, groupLine (g :: more) = c :: rest ∧ c ≠ ':' := by
  obtain ⟨c, rest, eq⟩ := List.exists_cons_of_ne_nil (groupChars_ne_nil g)
  have other : c ≠ ':' := by
    rintro rfl
    exact colon_notMem_groupChars g (eq ▸ List.mem_cons_self)
  cases more with
  | nil => exact ⟨c, rest, eq, other⟩
  | cons next more =>
    rw [groupLine_cons_cons, eq]
    exact ⟨c, _, rfl, other⟩

/-- What is no colon stands before the gap. -/
theorem aroundGap?_cons_of_ne {c : Char} (other : c ≠ ':') (cs : List Char) :
    aroundGap? (c :: cs) = (aroundGap? cs).map fun (before, after) => (c :: before, after) := by
  rw [aroundGap?]
  exact fun _ colon => absurd colon other

/-- A single colon stands before the gap. -/
theorem aroundGap?_colon {c : Char} (other : c ≠ ':') (cs : List Char) :
    aroundGap? (':' :: c :: cs) =
      (aroundGap? (c :: cs)).map fun (before, after) => (':' :: before, after) := by
  rw [aroundGap?]
  exact fun _ _ eq => absurd (List.cons.inj eq).1 other

/-- A text without colons is passed over. -/
theorem aroundGap?_append {cs : List Char} (free : ':' ∉ cs) (rest : List Char) :
    aroundGap? (cs ++ rest) = (aroundGap? rest).map fun (before, after) =>
      (cs ++ before, after) := by
  induction cs with
  | nil => exact Option.map_id'.symm
  | cons c more ih =>
    obtain ⟨other, others⟩ := List.ne_and_not_mem_of_not_mem_cons free
    rw [List.cons_append, aroundGap?_cons_of_ne (Ne.symm other), ih others, Option.map_map]
    rfl

/-- The gap behind a line of groups is its first, and without one there is none. -/
theorem aroundGap?_groupLine (groups : List UInt16) :
    aroundGap? (groupLine groups) = none ∧ ∀ rest,
      aroundGap? (groupLine groups ++ ':' :: ':' :: rest) = some (groupLine groups, rest) := by
  induction groups with
  | nil => exact ⟨rfl, fun _ => rfl⟩
  | cons g more ih =>
    cases more with
    | nil =>
      have free := colon_notMem_groupChars g
      refine ⟨?_, fun rest => ?_⟩
      · have passed := aroundGap?_append free []
        rwa [List.append_nil] at passed
      · rw [groupLine, List.map_singleton, joined, aroundGap?_append free, aroundGap?,
          Option.map_some]
        simp only [List.append_nil]
    | cons next more =>
      obtain ⟨c, tail, eq, other⟩ := exists_groupLine_cons next more
      have free := colon_notMem_groupChars g
      obtain ⟨none, some⟩ := ih
      refine ⟨?_, fun rest => ?_⟩
      · rw [groupLine_cons_cons, aroundGap?_append free, eq, aroundGap?_colon other, ← eq, none]
        rfl
      · have found := some rest
        rw [eq, List.cons_append] at found
        rw [groupLine_cons_cons, List.append_assoc, List.cons_append, aroundGap?_append free, eq,
          List.cons_append, aroundGap?_colon other, found]
        rfl

/-- Groups in a line are cut at their colons. -/
theorem pieces_groupLine {groups : List UInt16} (some : groups ≠ []) :
    pieces ':' (groupLine groups) = groups.map groupChars :=
  pieces_joined (by simpa using some)
    (List.forall_mem_map.mpr fun g _ => colon_notMem_groupChars g)

theorem groupPieces_groupLine (groups : List UInt16) :
    groupPieces (groupLine groups) = groups.map groupChars := by
  cases groups with
  | nil => rfl
  | cons g more =>
    obtain ⟨c, rest, eq, -⟩ := exists_groupLine_cons g more
    rw [groupPieces, if_neg (by simp [eq]), pieces_groupLine (List.cons_ne_nil g more)]

/-! ### The run that is left out -/

/-- The zeros in front are split off. -/
theorem exists_of_le_leadingZeros {n : Nat} {groups : List UInt16}
    (le : n ≤ leadingZeros groups) : groups = List.replicate n 0 ++ groups.drop n := by
  induction n generalizing groups with
  | zero => rfl
  | succ n ih =>
    cases groups with
    | nil => nomatch le
    | cons g rest =>
      by_cases zero : g = 0
      · subst zero
        have shorter : n ≤ leadingZeros rest := by
          rw [leadingZeros, List.takeWhile_cons_of_pos (by rfl), List.length_cons] at le
          exact Nat.le_of_succ_le_succ le
        rw [List.replicate_succ, List.cons_append, List.drop_succ_cons, ← ih shorter]
      · rw [leadingZeros, List.takeWhile_cons_of_neg (by simpa using zero)] at le
        nomatch le

/-- The run that is chosen is one of zero groups. -/
theorem longestZeros_spec (groups : List UInt16) :
    (longestZeros groups).2 ≤ leadingZeros (groups.drop (longestZeros groups).1) := by
  rw [longestZeros]
  refine List.foldlRecOn (motive := fun best : Nat × Nat =>
    best.2 ≤ leadingZeros (groups.drop best.1)) _ _ (Nat.zero_le _) ?_
  intro best run i _
  simp only
  split
  · exact le_rfl
  · exact run

/-- Groups are those around a run of zero groups and the run between them. -/
theorem eq_of_le_leadingZeros {groups : List UInt16} {start count : Nat}
    (run : count ≤ leadingZeros (groups.drop start)) :
    groups.take start ++ (List.replicate count 0 ++ groups.drop (start + count)) = groups := by
  rw [← List.drop_drop, ← exists_of_le_leadingZeros run, List.take_append_drop]

/-- An address without a gap is read as itself. -/
theorem readSix_groupLine {groups : List UInt16} (eight : groups.length = 8) :
    readSix (groupLine groups) = .ok groups := by
  have some : groups ≠ [] := by
    rintro rfl
    nomatch eight
  rw [readSix, (aroundGap?_groupLine groups).1]
  simp only [pieces_groupLine some, readGroups?_groupChars, Option.bind_some, if_pos eight]

/-- The groups around a gap are filled up to eight. -/
theorem readSix_gap (front back : List UInt16) (short : front.length + back.length ≤ 7) :
    readSix (groupLine front ++ ':' :: ':' :: groupLine back) =
      .ok (front ++ List.replicate (8 - front.length - back.length) 0 ++ back) := by
  rw [readSix, (aroundGap?_groupLine front).2]
  simp only [groupPieces_groupLine, readGroups?_groupChars, if_pos short]

/-- An address of eight groups is read as itself. -/
theorem readSix_sixChars {groups : List UInt16} (eight : groups.length = 8) :
    readSix (sixChars groups) = .ok groups := by
  have run := longestZeros_spec groups
  rw [sixChars]
  generalize longestZeros groups = best at run ⊢
  obtain ⟨start, count⟩ := best
  simp only at run ⊢
  split
  next => exact readSix_groupLine eight
  next =>
    have total := congrArg List.length (eq_of_le_leadingZeros run)
    simp only [List.length_append, List.length_take, List.length_replicate,
      List.length_drop] at total
    have around := readSix_gap (groups.take start) (groups.drop (start + count))
      (by rw [List.length_take, List.length_drop]; omega)
    have missing : 8 - (groups.take start).length - (groups.drop (start + count)).length =
        count := by
      rw [List.length_take, List.length_drop]
      omega
    rw [missing, List.append_assoc, eq_of_le_leadingZeros run] at around
    rw [List.append_assoc]
    exact around

/-- An address of eight groups is written in their digits and colons. -/
theorem mem_sixChars {groups : List UInt16} {c : Char} (mem : c ∈ sixChars groups) :
    c = ':' ∨ c ∈ groupDigits := by
  have inLine {gs : List UInt16} (mem : c ∈ groupLine gs) : c = ':' ∨ c ∈ groupDigits := by
    obtain rfl | ⟨piece, found, inside⟩ := mem_joined mem
    · exact .inl rfl
    · obtain ⟨g, -, rfl⟩ := List.mem_map.mp found
      exact .inr (mem_groupDigits inside)
  rw [sixChars] at mem
  generalize longestZeros groups = best at mem
  obtain ⟨start, count⟩ := best
  simp only at mem
  split at mem
  next => exact inLine mem
  next =>
    rcases List.mem_append.mp mem with early | late
    · rcases List.mem_append.mp early with front | gap
      · exact inLine front
      · simp only [List.mem_cons, List.not_mem_nil, or_false, or_self] at gap
        exact .inl gap
    · exact inLine late

/-- What is read has eight groups. -/
theorem length_of_readSix {cs : List Char} {groups : List UInt16}
    (read : readSix cs = .ok groups) : groups.length = 8 := by
  unfold readSix at read
  extract_lets result at read
  have found : result = some groups := by
    revert read
    cases result with
    | none => exact nofun
    | some other => exact fun read => congrArg some (Except.ok.inj read)
  revert found
  unfold result
  split
  next =>
    intro found
    obtain ⟨all, -, taken⟩ := Option.bind_eq_some_iff.mp found
    split_ifs at taken with eight
    rwa [← Option.some.inj taken]
  next before after _ =>
    split
    next front back _ _ =>
      intro found
      split_ifs at found with short
      rw [← Option.some.inj found, List.length_append, List.length_append, List.length_replicate]
      omega
    next => exact nofun

end MetricsHarness.Url
