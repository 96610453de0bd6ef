import MetricsHarness.Proofs.Addresses
import MetricsHarness.Proofs.Escapes
import MetricsHarness.Url.Reading

/-!
# Hosts that are read again

A host of the web is decoded, put into ASCII and told from an address when it is read. What is left
(`Host.IsRead`) is written as a text that reads as the same host (`readWebHost_chars`): a name has
no escape and no capital left, is the name of the domain that it spells and is no address, and
addresses are read again.

In the text of an authority a host is found again because it holds none of the marks around it
(`Host.mem_chars`), but for the colons in brackets, which are passed over (`cutHost_chars`).
-/

namespace MetricsHarness.Url

open Text

/-! ## Names -/

/-- A character that a name of the web may hold once it is read. -/
structure IsNameChar (c : Char) : Prop where
  free : isNameBreaker c = false
  ascii : c.toNat < 0x80
  lower : c.toLower = c

/-- A host that was read. -/
def Host.IsRead [Idna] : Host → Prop
  | .name text => text ≠ [] ∧ (∀ c ∈ text, IsNameChar c) ∧ domainName? text = some text ∧
      endsInNumber text = false
  | .four _ => True
  | .six groups => groups.length = 8

theorem IsNameChar.ne {c d : Char} (allowed : IsNameChar c) (breaker : isNameBreaker d = true) :
    c ≠ d := by
  rintro rfl
  rw [allowed.free] at breaker
  nomatch breaker

/-- A text without escapes stands for itself. -/
theorem decode_encode_of_plain {cs : List Char} (plain : ∀ c ∈ cs, c.toNat < 0x80 ∧ c ≠ '%') :
    Percent.decode (Utf8.encode cs) = Utf8.encode cs := by
  induction cs with
  | nil => rfl
  | cons c rest ih =>
    obtain ⟨⟨ascii, percent⟩, others⟩ := List.forall_mem_cons.mp plain
    rw [Utf8.encode_cons, Utf8.encodeChar_of_lt ascii, List.singleton_append,
      Percent.decode_cons_of_ne, ih others]
    intro same
    have number : c.toNat = 37 := by
      rw [← Utf8.toNat_ofNat_of_lt (n := c.toNat) (by omega), same]
      rfl
    exact percent (Char.toNat_inj.mp number)

/-- A name that may stand as it is, is read as the address that it ends like or as itself. -/
theorem readWebHost_of_name [Idna] {name : List Char} (some : name ≠ [])
    (allowed : ∀ c ∈ name, IsNameChar c) (own : domainName? name = .some name) :
    readWebHost name =
      if endsInNumber name then (readFour name).map Host.four else .ok (.name name) := by
  obtain ⟨c, rest, rfl⟩ := List.exists_cons_of_ne_nil some
  have open_ : c ≠ '[' := (allowed c List.mem_cons_self).ne (by decide)
  have bare : readBracketed? (c :: rest) = none := by
    unfold readBracketed?
    split
    next eq => exact absurd (List.cons.inj eq).1 open_
    next => rfl
  have plain : ∀ d ∈ c :: rest, d.toNat < 0x80 ∧ d ≠ '%' := fun d mem =>
    ⟨(allowed d mem).ascii, (allowed d mem).ne (by decide)⟩
  have unbroken : ¬ (c :: rest).any isNameBreaker = true := by
    rw [Bool.not_eq_true, List.any_eq_false]
    intro d mem
    rw [(allowed d mem).free]
    exact Bool.false_ne_true
  rw [readWebHost, bare, decode_encode_of_plain plain, Utf8.decode?_encode]
  show (if (c :: rest).any isNameBreaker = true then _ else readDomain (c :: rest)) = _
  rw [if_neg unbroken, readDomain, own]
  show (if (c :: rest).any isNameBreaker = true then _ else _) = _
  rw [if_neg unbroken]
  rfl

theorem isNameChar_of_isDigit {c : Char} (digit : isDigit c = true) : IsNameChar c := by
  refine forall_isDigit (p := IsNameChar) ?_ digit
  intro n bound
  have all : ∀ n < 10, isNameBreaker (Char.ofNat (48 + n)) = false ∧
      (Char.ofNat (48 + n)).toNat < 0x80 ∧
      (Char.ofNat (48 + n)).toLower = Char.ofNat (48 + n) := by decide
  obtain ⟨free, ascii, lower⟩ := all n bound
  exact ⟨free, ascii, lower⟩

theorem isNameChar_of_mem_fourChars {address : UInt32} {c : Char} (mem : c ∈ fourChars address) :
    IsNameChar c := by
  rcases mem_fourChars mem with rfl | digit
  · exact ⟨by decide, by decide, by decide⟩
  · exact isNameChar_of_isDigit digit

/-- What holds no `x` is ASCII that stands for nothing else. -/
theorem isPlainDomain_of_notMem {name : List Char} (allowed : ∀ c ∈ name, IsNameChar c)
    (free : 'x' ∉ name) : isPlainDomain name = true := by
  have lower : name.map Char.toLower = name :=
    map_toLower_of_lower fun c mem => (allowed c mem).lower
  refine Bool.and_eq_true_iff.mpr ⟨List.all_eq_true.mpr fun c mem =>
    decide_eq_true (allowed c mem).ascii, List.all_eq_true.mpr fun label found => ?_⟩
  rw [lower] at found
  cases label with
  | nil => rfl
  | cons c rest =>
    have other : 'x' ≠ c := by
      rintro rfl
      exact free ((mem_pieces found).2 _ List.mem_cons_self)
    rw [startsWith, labelMark]
    show (!(after? ('x' :: _) (c :: rest)).isSome) = true
    rw [after?, if_neg other]
    rfl

/-- The text of an address is its own name. -/
theorem domainName?_fourChars [Idna] (address : UInt32) :
    domainName? (fourChars address) = some (fourChars address) := by
  have allowed : ∀ c ∈ fourChars address, IsNameChar c := fun _ mem =>
    isNameChar_of_mem_fourChars mem
  have free : 'x' ∉ fourChars address := by
    intro mem
    rcases mem_fourChars mem with dot | digit
    · exact absurd dot (by decide)
    · exact absurd digit (by decide)
  rw [domainName?, if_pos (isPlainDomain_of_notMem allowed free),
    map_toLower_of_lower fun c mem => (allowed c mem).lower]

/-! ## Reading a host again -/

theorem readWebHost_six [Idna] {groups : List UInt16} (eight : groups.length = 8) :
    readWebHost (Host.six groups).chars = .ok (.six groups) := by
  have bracketed : readBracketed? (Host.six groups).chars = some (.ok (.six groups)) := by
    rw [Host.chars, readBracketed?, if_pos List.getLast?_concat, List.dropLast_concat,
      readSix_sixChars eight]
    rfl
  rw [readWebHost, bracketed]

/-- **Hosts are read again.** A host that was read is the host of its text. -/
theorem readWebHost_chars [Idna] {host : Host} (read : host.IsRead) :
    readWebHost host.chars = .ok host := by
  cases host with
  | name text =>
    obtain ⟨some, allowed, own, plain⟩ := read
    rw [Host.chars, readWebHost_of_name some allowed own, plain]
    rfl
  | four address =>
    rw [Host.chars, readWebHost_of_name (fourChars_ne_nil address)
      (fun _ mem => isNameChar_of_mem_fourChars mem) (domainName?_fourChars address),
      endsInNumber_fourChars, readFour_fourChars]
    rfl
  | six groups => exact readWebHost_six read

/-- What is read of a domain is a host that was read. -/
theorem isRead_of_readDomain [Idna] {domain : List Char} {host : Host}
    (ok : readDomain domain = .ok host) : host.IsRead := by
  unfold readDomain at ok
  split at ok
  next => nomatch ok
  next name given =>
    split_ifs at ok with broken empty number
    · cases read : readFour name with
      | error fault =>
        rw [read] at ok
        nomatch ok
      | ok address =>
        rw [read] at ok
        cases ok
        trivial
    · cases ok
      refine ⟨by simpa using empty, fun c mem => ?_, domainName?_of_domainName? given,
        Bool.of_not_eq_true number⟩
      obtain ⟨ascii, lower⟩ := isLower_of_domainName? given c mem
      exact ⟨Bool.of_not_eq_true (List.any_eq_false.mp (Bool.of_not_eq_true broken) c mem),
        of_decide_eq_true ascii, lower⟩

/-- What is read is a host that was read. -/
theorem isRead_of_readWebHost [Idna] {cs : List Char} {host : Host}
    (ok : readWebHost cs = .ok host) :
    host.IsRead := by
  unfold readWebHost at ok
  split at ok
  next result bracketed =>
    subst ok
    unfold readBracketed? at bracketed
    split at bracketed
    next rest =>
      split_ifs at bracketed
      · have six := Option.some.inj bracketed
        cases read : readSix rest.dropLast with
        | error fault =>
          rw [read] at six
          nomatch six
        | ok groups =>
          rw [read] at six
          cases six
          exact length_of_readSix read
      · nomatch bracketed
    next => nomatch bracketed
  next =>
    split at ok
    next => nomatch ok
    next domain _ =>
      split at ok
      next => nomatch ok
      next => exact isRead_of_readDomain ok

/-! ## The text of a host -/

/-- A character that ends no authority and is not dropped from a URL. -/
structure IsInner (c : Char) : Prop where
  inside : isAuthorityEnd true c = false
  visible : ¬ c ≤ ' '

theorem IsNameChar.isInner {c : Char} (allowed : IsNameChar c) : IsInner c where
  inside := by
    simp [isAuthorityEnd, allowed.ne (d := '/') (by decide), allowed.ne (d := '?') (by decide),
      allowed.ne (d := '#') (by decide), allowed.ne (d := '\\') (by decide)]
  visible := by
    intro low
    have small : c.toNat ≤ 32 := low
    have free := allowed.free
    simp only [isNameBreaker, Bool.or_eq_false_iff, decide_eq_false_iff_not] at free
    have blank : c = ' ' := Char.toNat_inj.mp (show c.toNat = 32 by omega)
    exact allowed.ne (by decide) blank

/-- No character of a host ends the authority, or the user before it. -/
theorem Host.mem_chars [Idna] {host : Host} (read : host.IsRead) {c : Char} (mem : c ∈ host.chars) :
    IsInner c ∧ c ≠ '@' := by
  have ofName (allowed : IsNameChar c) : IsInner c ∧ c ≠ '@' :=
    ⟨allowed.isInner, allowed.ne (by decide)⟩
  cases host with
  | name text => exact ofName (read.2.1 c mem)
  | four address => exact ofName (isNameChar_of_mem_fourChars mem)
  | six groups =>
    have known : c ∈ '[' :: ']' :: ':' :: groupDigits := by
      rw [Host.chars, List.mem_cons, List.mem_append, List.mem_singleton] at mem
      rcases mem with rfl | inside | rfl
      · decide
      · rcases mem_sixChars inside with rfl | digit
        · decide
        · exact List.mem_cons_of_mem _ (List.mem_cons_of_mem _ (List.mem_cons_of_mem _ digit))
      · decide
    obtain ⟨inside, visible, other⟩ :=
      forall_mem_of_all (p := fun c => isAuthorityEnd true c = false ∧ ¬ c ≤ ' ' ∧ c ≠ '@')
        (by decide) c known
    exact ⟨⟨inside, visible⟩, other⟩

theorem Host.chars_ne_nil [Idna] {host : Host} (read : host.IsRead) : host.chars ≠ [] := by
  cases host with
  | name text => exact read.1
  | four address => exact fourChars_ne_nil address
  | six groups => exact List.cons_ne_nil _ _

/-- A text without colons and brackets is passed over. -/
theorem cutHost_append {cs : List Char} (free : ∀ c ∈ cs, c ≠ ':' ∧ c ≠ '[') (rest : List Char) :
    cutHost false (cs ++ rest) = (cs ++ (cutHost false rest).1, (cutHost false rest).2) := by
  induction cs with
  | nil => rfl
  | cons c more ih =>
    obtain ⟨⟨colon, bracket⟩, others⟩ := List.forall_mem_cons.mp free
    have outside : (c == '[' || (false && c != ']')) = false := by simpa using bracket
    rw [List.cons_append, cutHost, if_neg (by simpa using colon), outside, ih others]
    rfl

/-- What stands in brackets is passed over, colons included. -/
theorem cutHost_brackets {cs : List Char} (free : ']' ∉ cs) (rest : List Char) :
    cutHost true (cs ++ ']' :: rest) =
      (cs ++ ']' :: (cutHost false rest).1, (cutHost false rest).2) := by
  induction cs with
  | nil => rfl
  | cons c more ih =>
    obtain ⟨other, others⟩ := List.ne_and_not_mem_of_not_mem_cons free
    have inside : (c == '[' || (true && c != ']')) = true := by simp [Ne.symm other]
    rw [List.cons_append, cutHost, if_neg (by simp), inside, ih others]
    rfl

/-- The text of a host is cut off at the colon behind it. -/
theorem cutHost_chars [Idna] {host : Host} (read : host.IsRead) {port : List Char}
    (begins : ∀ c ∈ port.head?, c = ':') : cutHost false (host.chars ++ port) =
      (host.chars, port) := by
  have atPort : cutHost false port = ([], port) := by
    cases port with
    | nil => rfl
    | cons c rest =>
      obtain rfl := begins c rfl
      rfl
  have ofName {cs : List Char} (allowed : ∀ c ∈ cs, IsNameChar c) :
      cutHost false (cs ++ port) = (cs, port) := by
    rw [cutHost_append, atPort, List.append_nil]
    exact fun c mem => ⟨(allowed c mem).ne (by decide), (allowed c mem).ne (by decide)⟩
  cases host with
  | name text => exact ofName read.2.1
  | four address => exact ofName fun _ mem => isNameChar_of_mem_fourChars mem
  | six groups =>
    have free : ']' ∉ sixChars groups := by
      intro mem
      exact absurd (mem_sixChars mem) (by decide)
    rw [Host.chars, List.cons_append, List.append_assoc, List.singleton_append, cutHost,
      if_neg (by decide)]
    show ('[' :: (cutHost true _).1, (cutHost true _).2) = _
    rw [cutHost_brackets free, atPort]

end MetricsHarness.Url
