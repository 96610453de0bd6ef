import MetricsHarness.Proofs.CanonicalTargets
import MetricsHarness.Url.LiteralDomain

/-!
# Requests stay at their endpoint

An endpoint and a path are joined as texts before anything is read. Still a path that begins with a
slash cannot lead to another place: the target has the scheme, the user, the host and the port of
the endpoint alone, whatever else is in the path (`Query.targetOf_authority`). The slash ends the
authority, and what stands before the slash is the endpoint.

One thing can come between. Blanks and control characters at the end of an endpoint are dropped when
it is read alone, but not in front of a path. If the authority has ended before them they are in the
path; otherwise they are in its last part, and neither a host (`readWebHost_concat`) nor a port can
hold them, so there is no target at all. An endpoint without them always gives a target.
-/

namespace MetricsHarness

open Text

namespace Url

/-! ## Cutting a text that goes on -/

/-- A text that is cut somewhere is cut there when it goes on. -/
theorem cut_append {α : Type} {p : α → Bool} {as : List α} (stops : as.dropWhile p ≠ [])
    (more : List α) : (as ++ more).takeWhile p = as.takeWhile p ∧
      (as ++ more).dropWhile p = as.dropWhile p ++ more := by
  have inside : ∀ a ∈ as.takeWhile p, p a = true := fun a => List.mem_takeWhile_imp
  have stop : ∀ a ∈ (as.dropWhile p ++ more).head?, p a = false := by
    obtain ⟨b, rest, eq⟩ := List.exists_cons_of_ne_nil stops
    rw [eq]
    intro a mem
    obtain rfl : b = a := Option.some.inj mem
    have first := List.head_dropWhile_not p stops
    simp only [eq, List.head_cons] at first
    exact first
  have cut := takeWhile_dropWhile_append inside stop
  rwa [← List.append_assoc, List.takeWhile_append_dropWhile] at cut

/-- Nothing is dropped from the end up to what is kept there. -/
theorem rdropWhile_append_cons {α : Type} {p : α → Bool} {a : α} (stop : ¬ p a = true)
    (front more : List α) :
    (front ++ a :: more).rdropWhile p = front ++ a :: more.rdropWhile p := by
  induction more using List.reverseRecOn with
  | nil => exact List.rdropWhile_concat_neg p front a stop
  | append_singleton more b ih =>
    rw [← List.cons_append, ← List.append_assoc, List.rdropWhile_concat, List.rdropWhile_concat]
    split
    next => exact ih
    next => rw [List.append_assoc, List.cons_append]

/-- What is dropped around a text is dropped around the longer one, but for what stood between the
two. -/
theorem trimmed_append {cs : List Char} (some : trimmed cs ≠ []) {c : Char} (visible : ¬ c ≤ ' ')
    (more : List Char) : ∃ blanks rest,
      trimmed (cs ++ c :: more) = trimmed cs ++ (blanks ++ c :: rest) ∧
      (∀ b ∈ blanks, b ≤ ' ') ∧ ((∀ d ∈ cs.getLast?, ¬ d ≤ ' ') → blanks = []) := by
  have trims (ds : List Char) :
      trimmed ds = (ds.dropWhile (· ≤ ' ')).rdropWhile (· ≤ ' ') := rfl
  obtain ⟨front, hFront⟩ : ∃ front, front = cs.dropWhile (· ≤ ' ') := ⟨_, rfl⟩
  have kept : cs.dropWhile (· ≤ ' ') ≠ [] := by
    intro none
    rw [trims, none] at some
    exact some rfl
  refine ⟨front.rtakeWhile (· ≤ ' '), more.rdropWhile (· ≤ ' '), ?_, ?_, ?_⟩
  · rw [trims, trims, (cut_append kept _).2, ← hFront,
      rdropWhile_append_cons (by simpa using visible), ← List.append_assoc,
      List.rdropWhile_append_rtakeWhile]
  · intro b mem
    exact of_decide_eq_true (List.mem_rtakeWhile_imp (p := (· ≤ ' ')) mem)
  · intro last
    refine List.rtakeWhile_eq_nil_iff.mpr fun some low => ?_
    refine last (front.getLast some) ?_ (of_decide_eq_true low)
    rw [← List.takeWhile_append_dropWhile (p := (· ≤ ' ')) (l := cs), ← hFront,
      List.getLast?_append, List.getLast?_eq_some_getLast some]
    rfl

theorem solid_append (cs ds : List Char) : solid (cs ++ ds) = solid cs ++ solid ds :=
  List.filter_append ..

theorem readScheme?_append {cs scheme rest : List Char}
    (found : readScheme? cs = some (scheme, rest)) (more : List Char) :
    readScheme? (cs ++ more) = some (scheme, rest ++ more) := by
  unfold readScheme? at found
  split at found
  next c after head colon =>
    have stops : cs.dropWhile isSchemeChar ≠ [] := by
      rw [colon]
      exact List.cons_ne_nil _ _
    obtain ⟨taken, left⟩ := cut_append stops more
    have headMore : (cs ++ more).head? = some c := by
      rw [List.head?_append, head]
      rfl
    rw [readScheme?, headMore, left, colon, taken]
    simp only [List.cons_append]
    split_ifs at found ⊢ with letter
    · obtain ⟨rfl, rfl⟩ := Prod.mk.inj (Option.some.inj found)
      rfl
  next => nomatch found

/-! ## Blanks at the end of an authority -/

namespace Percent

/-- A byte that is in no escape stays. -/
theorem mem_decode {b : UInt8} {bytes : Bytes} (mem : b ∈ bytes) (percent : b ≠ 0x25)
    (other : Hex.digitValue? (Char.ofNat b.toNat) = none) : b ∈ decode bytes := by
  fun_induction decode bytes with
  | case1 => nomatch mem
  | case2 a b' rest x y second first ih =>
    simp only [List.mem_cons] at mem
    obtain rfl | rfl | rfl | mem := mem
    · exact absurd rfl percent
    · rw [other] at first
      nomatch first
    · rw [other] at second
      nomatch second
    · exact List.mem_cons_of_mem _ (ih mem)
  | case3 a b' rest _ ih =>
    rcases List.mem_cons.mp mem with rfl | mem
    · exact absurd rfl percent
    · exact List.mem_cons_of_mem _ (ih mem)
  | case4 c rest _ ih =>
    rcases List.mem_cons.mp mem with rfl | mem
    · exact List.mem_cons_self
    · exact List.mem_cons_of_mem _ (ih mem)

end Percent

/-- A blank or a control character is no digit of an escape, and no host of the web holds it. -/
theorem low_spec : ∀ n ≤ 32, Hex.digitValue? (Char.ofNat n) = none ∧
    isNameBreaker (Char.ofNat n) = true := by
  decide

/-- A blank or a control character is still there when escapes are undone. -/
theorem mem_decoded_of_low {cs decoded : List Char} {c : Char} (low : c ≤ ' ') (mem : c ∈ cs)
    (decodes : Utf8.decode? (Percent.decode (Utf8.encode cs)) = some decoded) : c ∈ decoded := by
  have bound : c.toNat ≤ 32 := low
  refine Utf8.mem_of_mem_encode (by omega) ?_
  rw [Utf8.decode?_eq_some_iff.mp decodes]
  refine Percent.mem_decode ?_ ?_ ?_
  · refine List.mem_flatMap.mpr ⟨c, mem, ?_⟩
    rw [Utf8.encodeChar_of_lt (by omega)]
    exact List.mem_singleton_self _
  · intro same
    have number : c.toNat = 0x25 := by
      rw [← Utf8.toNat_ofNat_of_lt (n := c.toNat) (by omega), same]
      rfl
    omega
  · rw [Utf8.toNat_ofNat_of_lt (by omega)]
    exact (low_spec c.toNat bound).1

/-- No host ends in a blank or a control character. -/
theorem readWebHost_concat [Idna] {cs : List Char} {c : Char} (low : c ≤ ' ') (host : Host) :
    readWebHost (cs ++ [c]) ≠ .ok host := by
  intro ok
  unfold readWebHost at ok
  split at ok
  next result bracketed =>
    subst ok
    unfold readBracketed? at bracketed
    split at bracketed
    next rest eq =>
      have last : rest.getLast? ≠ some ']' := by
        intro closed
        have whole := congrArg List.getLast? eq
        rw [List.getLast?_concat, List.getLast?_cons, closed] at whole
        cases Option.some.inj whole
        exact absurd low (by decide)
      rw [if_neg last] at bracketed
      nomatch bracketed
    next => nomatch bracketed
  next =>
    split at ok
    next => nomatch ok
    next domain decodes =>
      have found := mem_decoded_of_low low (List.mem_append_right cs (List.mem_singleton_self c))
        decodes
      have breaker := (low_spec c.toNat low).2
      rw [Char.ofNat_toNat] at breaker
      rw [if_pos (List.any_eq_true.mpr ⟨c, found, breaker⟩)] at ok
      nomatch ok

/-- What is cut off as a host and what follows it are the whole. -/
theorem cutHost_join (inside : Bool) (cs : List Char) :
    (cutHost inside cs).1 ++ (cutHost inside cs).2 = cs := by
  induction cs generalizing inside with
  | nil => rfl
  | cons c rest ih =>
    rw [cutHost]
    split
    next => rfl
    next => exact congrArg (c :: ·) (ih _)

theorem colon_of_head_cutHost {inside : Bool} {cs : List Char} :
    ∀ c ∈ (cutHost inside cs).2.head?, c = ':' := by
  induction cs generalizing inside with
  | nil => nofun
  | cons c rest ih =>
    rw [cutHost]
    split
    next colon =>
      intro d mem
      obtain rfl : c = d := Option.some.inj mem
      simp only [Bool.and_eq_true, beq_iff_eq] at colon
      exact colon.1
    next => exact ih

/-- No port ends in a blank or a control character. -/
theorem readPort_concat {default : Option UInt16} {mark c : Char} {cs : List Char} (low : c ≤ ' ')
    (free : '\\' ∉ cs) (result : Option UInt16 × List Char) :
    readPort default (mark :: (cs ++ [c])) ≠ .ok result := by
  have digit : ¬ isDigit c = true := by
    intro digit
    have bound : c.toNat ≤ 32 := low
    have range := isDigit_iff.mp digit
    omega
  have ends : (cs ++ [c]).dropWhile isDigit = cs.dropWhile isDigit ++ [c] := by
    rw [List.dropWhile_append]
    split
    next empty => rw [List.isEmpty_iff.mp empty, List.dropWhile_cons_of_neg digit, List.nil_append]
    next => rfl
  have first : (cs.dropWhile isDigit ++ [c]).head? ≠ some '\\' := by
    intro head
    rcases List.mem_append.mp (List.mem_of_mem_head? head) with mem | mem
    · exact free ((List.dropWhile_sublist _).subset mem)
    · cases List.mem_singleton.mp mem
      exact absurd low (by decide)
  intro ok
  rw [readPort] at ok
  simp only [ends] at ok
  rw [if_pos (by simpa using first)] at ok
  cases ok

/-- What follows the user of an authority ends where the authority does. -/
theorem cutUser_concat {cs : List Char} {c : Char} {more : Bool}
    {user password after : List Char} (mark : c ≠ '@')
    (ok : cutUser (cs ++ [c]) more = .ok (user, password, after)) :
    ∃ front, after = front ++ [c] ∧ ∀ d ∈ front, d ∈ cs := by
  have shape : (cs ++ [c]).reverse.takeWhile (· != '@') =
      c :: cs.reverse.takeWhile (· != '@') := by
    rw [List.reverse_append, List.reverse_singleton, List.singleton_append,
      List.takeWhile_cons_of_pos (by simpa using mark)]
  unfold cutUser at ok
  split at ok
  next =>
    cases ok
    exact ⟨cs, rfl, fun _ => id⟩
  next before behind around =>
    split at ok
    next => nomatch ok
    next =>
      cases ok
      unfold aroundLastAt? at around
      split at around
      next =>
        have found := (Prod.mk.inj (Option.some.inj around)).2
        rw [shape, List.reverse_cons] at found
        refine ⟨_, found.symm, fun d mem => ?_⟩
        have inside := (List.takeWhile_sublist _).subset (List.mem_reverse.mp mem)
        exact List.mem_reverse.mp inside
      next => nomatch around

/-! ## The authority of a text -/

/-- Reads an authority; `more` says whether something follows it. -/
def readAuthority [Idna] (default : UInt16) (cs : List Char) (more : Bool) :
    Except Fault Authority := do
  let (user, password, hostAndPort) ← cutUser cs more
  let (hostText, portText) := cutHost false hostAndPort
  if hostText.isEmpty then .error .emptyHost
  let host ← readWebHost hostText
  let (port, _) ← readPort (some default) portText
  return ⟨user, password, some host, port⟩

/-- A text without the slashes in front of an authority. -/
def afterSlashes (cs : List Char) : List Char := cs.dropWhile fun c => c == '/' || c == '\\'

/-- The text of an authority. -/
def authorityChars (cs : List Char) : List Char := cs.takeWhile (!isAuthorityEnd true ·)

/-- What follows an authority. -/
def behindAuthority (cs : List Char) : List Char := cs.dropWhile (!isAuthorityEnd true ·)

/-- The URL of an authority and what follows it. -/
def ofAuthority (scheme : List Char) (a : Authority) (behind : List Char) : Url :=
  assemble true scheme (some a)
    (.segments (segmentsOf (withoutRoot (forwardSlashes (cutTail behind).path)))) (cutTail behind)

/-- A URL of the web is read in two parts: the authority, and what follows it. -/
theorem readWeb_eq [Idna] (scheme : List Char) (default : UInt16) (cs : List Char) :
    readWeb scheme default cs =
      (readAuthority default (authorityChars (afterSlashes cs))
          (!(behindAuthority (afterSlashes cs)).isEmpty)).map
        (ofAuthority scheme · (behindAuthority (afterSlashes cs))) := by
  unfold readWeb readAuthority authorityChars behindAuthority afterSlashes
  dsimp only
  cases cutUser _ _ with
  | error fault => rfl
  | ok parts =>
    simp only [ok_bind]
    split
    next => rfl
    next =>
      cases readWebHost _ with
      | error fault => rfl
      | ok host =>
        simp only [ok_bind]
        cases readPort _ _ with
        | error fault => rfl
        | ok result => rfl

theorem readWeb_eq_ok_iff [Idna] {scheme cs : List Char} {default : UInt16} {u : Url} :
    readWeb scheme default cs = .ok u ↔
      ∃ a, readAuthority default (authorityChars (afterSlashes cs))
          (!(behindAuthority (afterSlashes cs)).isEmpty) = .ok a ∧
        u = ofAuthority scheme a (behindAuthority (afterSlashes cs)) := by
  rw [readWeb_eq]
  cases readAuthority _ _ _ with
  | error fault =>
    constructor
    · nofun
    · rintro ⟨a, none, -⟩
      nomatch none
  | ok a =>
    constructor
    · intro ok
      exact ⟨a, rfl, (Except.ok.inj ok).symm⟩
    · rintro ⟨b, same, rfl⟩
      rw [Except.ok.inj same]
      rfl

section

variable {default : UInt16} {cs : List Char} {more : Bool} {a : Authority}

/-- An authority is a user, a host and a port, and the host is not left out. -/
theorem readAuthority_eq_ok_iff [Idna] : readAuthority default cs more = .ok a ↔
    ∃ after, cutUser cs more = .ok (a.user, a.password, after) ∧
      (cutHost false after).1 ≠ [] ∧
      (∃ host, readWebHost (cutHost false after).1 = .ok host ∧ a.host = some host) ∧
      ∃ rest, readPort (some default) (cutHost false after).2 = .ok (a.port, rest) := by
  constructor
  · intro ok
    unfold readAuthority at ok
    obtain ⟨⟨user, password, after⟩, cut, ok⟩ := bind_eq_ok ok
    dsimp only at ok
    split at ok
    next => nomatch ok
    next named =>
      obtain ⟨host, hostRead, ok⟩ := bind_eq_ok ok
      obtain ⟨⟨port, rest⟩, portRead, ok⟩ := bind_eq_ok ok
      cases ok
      exact ⟨after, cut, by simpa using named, ⟨host, hostRead, rfl⟩, rest, portRead⟩
  · obtain ⟨user, password, hostOf, port⟩ := a
    rintro ⟨after, cut, named, ⟨host, hostRead, rfl⟩, rest, portRead⟩
    rw [readAuthority, cut, ok_bind]
    dsimp only
    rw [if_neg (by simpa using named), hostRead, ok_bind, portRead]
    rfl

/-- Nothing is no authority. -/
theorem ne_nil_of_readAuthority [Idna] (ok : readAuthority default cs more = .ok a) : cs ≠ [] := by
  rintro rfl
  obtain ⟨after, cut, named, -⟩ := readAuthority_eq_ok_iff.mp ok
  have empty : [] = after := (Prod.mk.inj (Prod.mk.inj (Except.ok.inj cut)).2).2
  subst empty
  exact named rfl

/-- An authority may be followed by something. -/
theorem readAuthority_followed [Idna] (ok : readAuthority default cs false = .ok a) :
    readAuthority default cs true = .ok a := by
  obtain ⟨after, cut, named, parts⟩ := readAuthority_eq_ok_iff.mp ok
  refine readAuthority_eq_ok_iff.mpr ⟨after, ?_, named, parts⟩
  unfold cutUser at cut ⊢
  split at cut
  next => exact cut
  next before behind _ =>
    -- A lone mark of a user is an authority without a host.
    have some : (before.isEmpty && behind.isEmpty && true) = false := by
      rw [← Bool.not_eq_true]
      intro empty
      simp only [Bool.and_true, Bool.and_eq_true, List.isEmpty_iff] at empty
      obtain ⟨-, rfl⟩ := empty
      rw [Bool.and_false, if_neg Bool.false_ne_true] at cut
      have empty : [] = after := (Prod.mk.inj (Prod.mk.inj (Except.ok.inj cut)).2).2
      subst empty
      exact named rfl
    rw [some, if_neg Bool.false_ne_true]
    rwa [Bool.and_false, if_neg Bool.false_ne_true] at cut

/-- No authority ends in a blank or a control character. -/
theorem readAuthority_concat [Idna] {c : Char} (low : c ≤ ' ') (free : '\\' ∉ cs) :
    readAuthority default (cs ++ [c]) more ≠ .ok a := by
  intro ok
  have other {d : Char} (visible : ¬ d ≤ ' ') : c ≠ d := by
    rintro rfl
    exact visible low
  obtain ⟨after, cut, -, ⟨host, hostRead, -⟩, rest, portRead⟩ := readAuthority_eq_ok_iff.mp ok
  obtain ⟨front, rfl, inside⟩ := cutUser_concat (other (by decide)) cut
  have whole := cutHost_join false (front ++ [c])
  rcases List.eq_nil_or_concat (cutHost false (front ++ [c])).2 with none | ⟨port, d, some⟩
  · rw [none, List.append_nil] at whole
    rw [whole] at hostRead
    exact readWebHost_concat low host hostRead
  · rw [List.concat_eq_append] at some
    rw [some, ← List.append_assoc] at whole
    obtain ⟨front', last⟩ := List.append_inj' whole rfl
    cases last
    have colon : ∀ d ∈ (port ++ [c]).head?, d = ':' := some ▸ colon_of_head_cutHost
    rw [some] at portRead
    cases port with
    | nil => exact other (by decide) (colon c rfl)
    | cons mark digits =>
      refine readPort_concat low (fun mem => free (inside _ ?_)) _ portRead
      rw [← front']
      exact List.mem_append_right _ (List.mem_cons_of_mem _ mem)

end

/-! ## Going on behind an authority -/

section

variable {default : UInt16} {cs blanks : List Char} (low : ∀ b ∈ blanks, b ≤ ' ')
include low

theorem inside_of_low : ∀ b ∈ blanks, (!isAuthorityEnd true b) = true := by
  intro b mem
  have small := low b mem
  simp only [isAuthorityEnd, Bool.true_and, Bool.not_eq_true', Bool.or_eq_false_iff,
    beq_eq_false_iff_ne]
  refine ⟨⟨⟨?_, ?_⟩, ?_⟩, ?_⟩ <;>
    · rintro rfl
      exact absurd small (by decide)

/-- A text that goes on with a slash has the authority that it had, and something behind it. If the
authority was all there was, it has the blanks in addition. -/
theorem cut_afterSlashes_append (some : authorityChars (afterSlashes cs) ≠ []) (more : List Char) :
    behindAuthority (afterSlashes (cs ++ (blanks ++ '/' :: more))) ≠ [] ∧
      authorityChars (afterSlashes (cs ++ (blanks ++ '/' :: more))) =
        authorityChars (afterSlashes cs) ++
          if behindAuthority (afterSlashes cs) = [] then blanks else [] := by
  have begun : afterSlashes cs ≠ [] := by
    intro none
    rw [none] at some
    exact some rfl
  have goesOn : afterSlashes (cs ++ (blanks ++ '/' :: more)) =
      afterSlashes cs ++ (blanks ++ '/' :: more) := (cut_append begun _).2
  rw [goesOn]
  by_cases all : behindAuthority (afterSlashes cs) = []
  · have whole : authorityChars (afterSlashes cs) = afterSlashes cs := by
      have parts := List.takeWhile_append_dropWhile (p := (!isAuthorityEnd true ·))
        (l := afterSlashes cs)
      rwa [show (afterSlashes cs).dropWhile (!isAuthorityEnd true ·) = [] from all,
        List.append_nil] at parts
    have inside : ∀ c ∈ afterSlashes cs ++ blanks, (!isAuthorityEnd true c) = true := by
      intro c mem
      rcases List.mem_append.mp mem with early | late
      · rw [← whole] at early
        exact List.mem_takeWhile_imp (p := (!isAuthorityEnd true ·)) early
      · exact inside_of_low low c late
    have stop : ∀ c ∈ ('/' :: more).head?, (!isAuthorityEnd true c) = false := by
      intro c mem
      obtain rfl : '/' = c := Option.some.inj mem
      decide
    obtain ⟨taken, left⟩ := takeWhile_dropWhile_append inside stop
    rw [if_pos all, whole, ← List.append_assoc, authorityChars, behindAuthority, taken, left]
    exact ⟨List.cons_ne_nil _ _, rfl⟩
  · obtain ⟨taken, left⟩ := cut_append all (blanks ++ '/' :: more)
    rw [if_neg all, List.append_nil, behindAuthority, left]
    exact ⟨List.append_ne_nil_of_left_ne_nil all _, taken⟩

/-- An authority that goes on with a slash is read as before, or not at all because of the blanks
before the slash. -/
theorem readAuthority_append [Idna] {a : Authority} (alone : readAuthority default
      (authorityChars (afterSlashes cs)) (!(behindAuthority (afterSlashes cs)).isEmpty) = .ok a)
    (more : List Char) :
    let goesOn := afterSlashes (cs ++ (blanks ++ '/' :: more))
    let joined := readAuthority default (authorityChars goesOn) (!(behindAuthority goesOn).isEmpty)
    joined = .ok a ∨ (blanks ≠ [] ∧ ∀ b, joined ≠ .ok b) := by
  intro goesOn joined
  obtain ⟨behind, same⟩ := cut_afterSlashes_append low (ne_nil_of_readAuthority alone) more
  have followed : (!(behindAuthority goesOn).isEmpty) = true := by
    simpa using behind
  have reads : joined = readAuthority default (authorityChars goesOn) true := by
    rw [← followed]
  rw [reads, same]
  by_cases all : behindAuthority (afterSlashes cs) = []
  · rw [all] at alone
    rw [if_pos all]
    rcases List.eq_nil_or_concat blanks with rfl | ⟨front, c, rfl⟩
    · rw [List.append_nil]
      exact .inl (readAuthority_followed alone)
    · rw [List.concat_eq_append] at low ⊢
      refine .inr ⟨by simp, fun b => ?_⟩
      rw [← List.append_assoc]
      refine readAuthority_concat (low c (by simp)) fun mem => ?_
      rcases List.mem_append.mp mem with early | late
      · have inside := List.mem_takeWhile_imp (p := (!isAuthorityEnd true ·)) early
        exact absurd inside (by decide)
      · have inside := inside_of_low low '\\' (List.mem_append_left _ late)
        exact absurd inside (by decide)
  · have alone' : (!(behindAuthority (afterSlashes cs)).isEmpty) = true := by
      simpa using all
    rw [alone'] at alone
    rw [if_neg all, List.append_nil]
    exact .inl alone

/-- A URL of the web that goes on with a slash stays where it is, and only blanks before the slash
can keep it from being one. -/
theorem readWeb_append [Idna] {scheme : List Char} {u : Url}
    (alone : readWeb scheme default cs = .ok u) (more : List Char) :
    (∀ v, readWeb scheme default (cs ++ (blanks ++ '/' :: more)) = .ok v →
      v.authority = u.authority) ∧
    (blanks = [] → ∃ v, readWeb scheme default (cs ++ (blanks ++ '/' :: more)) = .ok v) := by
  obtain ⟨a, read, rfl⟩ := readWeb_eq_ok_iff.mp alone
  obtain joined | ⟨some, none⟩ := readAuthority_append low read more
  · refine ⟨?_, fun _ => ⟨_, readWeb_eq_ok_iff.mpr ⟨a, joined, rfl⟩⟩⟩
    intro v ok
    obtain ⟨b, same, rfl⟩ := readWeb_eq_ok_iff.mp ok
    rw [← Except.ok.inj (joined.symm.trans same)]
    rfl
  · refine ⟨?_, fun empty => absurd empty some⟩
    intro v ok
    obtain ⟨b, same, -⟩ := readWeb_eq_ok_iff.mp ok
    exact absurd same (none b)

end

theorem scheme_of_readWeb [Idna] {scheme cs : List Char} {default : UInt16} {u : Url}
    (ok : readWeb scheme default cs = .ok u) : u.scheme = scheme := by
  obtain ⟨a, -, rfl⟩ := readWeb_eq_ok_iff.mp ok
  rfl

/-- **A URL of the web that goes on with a slash stays where it is.** Whatever follows the slash,
the scheme and the authority are the same; and it stays a URL unless it goes on behind a blank or a
control character. -/
theorem read_append [Idna] {text : List Char} {u : Url} (alone : read text = .ok u) (web : u.IsWeb)
    (more : List Char) :
    (∀ v, read (text ++ '/' :: more) = .ok v →
      v.scheme = u.scheme ∧ v.authority = u.authority) ∧
    ((∀ c ∈ text.getLast?, ¬ c ≤ ' ') → ∃ v, read (text ++ '/' :: more) = .ok v) := by
  obtain ⟨scheme, default, rest, found, notFile, isWeb, ok⟩ := exists_readWeb alone web
  have some : trimmed text ≠ [] := by
    intro none
    rw [none] at found
    nomatch found
  obtain ⟨blanks, tail, trims, low, clean⟩ :=
    trimmed_append some (show ¬ '/' ≤ ' ' by decide) more
  have goesOn : readScheme? (solid (trimmed (text ++ '/' :: more))) =
      Option.some (scheme, rest ++ (solid blanks ++ '/' :: solid tail)) := by
    have slash : solid ('/' :: tail) = '/' :: solid tail := List.filter_cons_of_pos (by decide)
    rw [trims, solid_append, solid_append, slash]
    exact readScheme?_append found _
  rw [read_eq_readWeb goesOn notFile isWeb]
  have lowSolid : ∀ b ∈ solid blanks, b ≤ ' ' := fun b mem => low b (List.mem_filter.mp mem).1
  obtain ⟨stays, reads⟩ := readWeb_append lowSolid ok (solid tail)
  refine ⟨?_, ?_⟩
  · intro v joined
    rw [scheme_of_readWeb joined, scheme_of_readWeb ok]
    exact ⟨rfl, stays v joined⟩
  · intro visible
    exact reads (by rw [clean visible]; rfl)

end Url

namespace Query

open Url

/-- **A request stays at its endpoint.** If an endpoint alone is a URL of the web and the path is
empty or begins with a slash, then every target of the two has the scheme, the user, the host and
the port of the endpoint. There is a target unless the endpoint ends in a blank or a control
character. -/
theorem targetOf_authority [Idna] {endpoint path : String} {base : Url}
    (alone : Url.read endpoint.toList = .ok base) (web : base.IsWeb)
    (below : ∀ c ∈ path.toList.head?, c = '/') :
    (∀ target, targetOf endpoint path = .ok target →
      target.scheme = base.scheme ∧ target.authority = base.authority) ∧
    ((∀ c ∈ endpoint.toList.getLast?, ¬ c ≤ ' ') →
      ∃ target, targetOf endpoint path = .ok target) := by
  have reads : (∀ url, Url.read (endpoint ++ path).toList = .ok url →
      url.scheme = base.scheme ∧ url.authority = base.authority) ∧
      ((∀ c ∈ endpoint.toList.getLast?, ¬ c ≤ ' ') →
        ∃ url, Url.read (endpoint ++ path).toList = .ok url) := by
    rw [String.toList_append]
    cases shape : path.toList with
    | nil =>
      rw [List.append_nil, alone]
      refine ⟨?_, fun _ => ⟨base, rfl⟩⟩
      intro url same
      cases same
      exact ⟨rfl, rfl⟩
    | cons c more =>
      rw [shape] at below
      obtain rfl := below c rfl
      exact read_append alone web more
  refine ⟨?_, ?_⟩
  · intro target ok
    obtain ⟨url, read, rfl⟩ := targetOf_eq_ok_iff.mp ok
    rw [scheme_sorted, authority_sorted]
    exact reads.1 url read
  · intro visible
    obtain ⟨url, read⟩ := reads.2 visible
    exact ⟨url.sorted, targetOf_eq_ok_iff.mpr ⟨url, read, rfl⟩⟩

open LiteralDomain in
/-- Without the slash a path can lead away. -/
example : (Url.read ("http://h" ++ "@evil/a").toList).toOption.bind (·.host?) =
    some (.name "evil".toList) := by
  decide +kernel

open LiteralDomain in
/-- Neither a mark of a user, a colon, a backslash, two dots, an escape nor a tab in a path leads
away from the endpoint. -/
theorem targetOf_authority_of_marks : ∃ base target : Url,
    Url.read "http://u:p@h:81/a".toList = .ok base ∧
    targetOf "http://u:p@h:81/a" "/@evil:82\\..\\..//\t@x%2F?#" = .ok target ∧
    target.authority = some ⟨['u'], ['p'], some (.name ['h']), some 81⟩ ∧
    target.authority = base.authority := by
  have alone : Url.read "http://u:p@h:81/a".toList =
      .ok ⟨"http".toList, some ⟨['u'], ['p'], some (.name ['h']), some 81⟩, .segments [['a']],
        none, none⟩ := by decide +kernel
  have first : ("/@evil:82\\..\\..//\t@x%2F?#" : String).toList.head? = some '/' := by decide
  have last : ("http://u:p@h:81/a" : String).toList.getLast? = some 'a' := by decide
  obtain ⟨stays, exists_⟩ := targetOf_authority alone (by decide) (by rw [first]; rintro _ ⟨⟩; rfl)
  obtain ⟨target, ok⟩ := exists_ (by rw [last]; rintro _ ⟨⟩; decide)
  have same := (stays target ok).2
  exact ⟨_, target, alone, ok, same, same⟩

end Query

end MetricsHarness
