import MetricsHarness.Proofs.Hosts
import MetricsHarness.Proofs.Segments

/-!
# URLs of the web that are read again

What is read from a text as a URL of the web is what is read from its own text (`read_chars`). The
parts of such a URL are canonical (`IsRead`): user and password, the segments of the path, the query
and the fragment are escaped already, the host is one that was read, and the port is not the default
of the scheme. Reading gives only such URLs (`isRead_of_read`).

In the text of a URL each part is found where it was written, because no part holds the mark that
the next one begins with.
-/

namespace MetricsHarness.Url

open Text Percent

/-- A URL of the web. -/
def IsWeb (u : Url) : Prop := (webPort? u.scheme).isSome = true

instance (u : Url) : Decidable u.IsWeb := inferInstanceAs (Decidable (_ = true))

/-- The parts before the path, as they are once they are read. -/
structure Authority.IsRead [Idna] (default : UInt16) (a : Authority) : Prop where
  user : IsWritten inUser a.user
  password : IsWritten inUser a.password
  host : ∃ host, a.host = some host ∧ host.IsRead
  port : a.port ≠ some default

/-- A URL of the web that was read. -/
structure IsRead [Idna] (u : Url) : Prop where
  web : ∃ default, webPort? u.scheme = some default ∧
    ∃ a, u.authority = some a ∧ a.IsRead default
  path : ∃ list, u.path = .segments list ∧ list ≠ [] ∧ ∀ s ∈ list, IsSegment s
  query : ∀ q ∈ u.query, IsWritten (inQuery true) q
  fragment : ∀ f ∈ u.fragment, IsWritten inFragment f

/-! ## User and port -/

/-- Without an at sign there is no user part. -/
theorem aroundLastAt?_of_notMem {cs : List Char} (free : '@' ∉ cs) : aroundLastAt? cs = none :=
  if_neg (by simpa using free)

/-- The last `@` is the one with none behind it. -/
theorem aroundLastAt?_append {before after : List Char} (free : '@' ∉ after) :
    aroundLastAt? (before ++ '@' :: after) = some (before, after) := by
  have inside : ∀ c ∈ after.reverse, (c != '@') = true := by
    intro c mem
    rw [bne_iff_ne]
    rintro rfl
    exact free (List.mem_reverse.mp mem)
  have stop : ∀ c ∈ ('@' :: before.reverse).head?, (c != '@') = false := by
    simp
  obtain ⟨taken, left⟩ := takeWhile_dropWhile_append inside stop
  have back : (before ++ '@' :: after).reverse = after.reverse ++ '@' :: before.reverse := by
    simp
  rw [aroundLastAt?, if_pos (by simp)]
  simp only [back, taken, left, List.drop_succ_cons, List.drop_zero, List.reverse_reverse]

/-- A user and a password are read again as they are. -/
theorem readUser_of_isWritten {user password : List Char} (writtenUser : IsWritten inUser user)
    (writtenPassword : IsWritten inUser password) :
    readUser (user ++ if password.isEmpty then [] else ':' :: password) = (user, password) := by
  have inside : ∀ c ∈ user, (c != ':') = true := by
    intro c mem
    rw [bne_iff_ne]
    rintro rfl
    exact writtenUser.notMem (by decide) mem
  have stop : ∀ c ∈ (if password.isEmpty then [] else ':' :: password).head?,
      (c != ':') = false := by
    split <;> simp
  obtain ⟨taken, left⟩ := takeWhile_dropWhile_append inside stop
  have dropped : (if password.isEmpty then [] else ':' :: password).drop 1 = password := by
    split
    next empty => exact (List.isEmpty_iff.mp empty).symm
    next => rfl
  rw [readUser, taken, left, dropped, encode_of_isWritten writtenUser,
    encode_of_isWritten writtenPassword]

/-- The user of an authority is cut off at its mark. -/
theorem cutUser_userChars {a : Authority} (user : IsWritten inUser a.user)
    (password : IsWritten inUser a.password) {after : List Char} (free : '@' ∉ after)
    (more : Bool) : cutUser (a.userChars ++ after) more = .ok (a.user, a.password, after) := by
  rw [Authority.userChars]
  split
  next empty =>
    rw [Bool.and_eq_true, List.isEmpty_iff, List.isEmpty_iff] at empty
    rw [List.nil_append, cutUser, aroundLastAt?_of_notMem free, empty.1, empty.2]
  next some =>
    rw [List.append_assoc, List.append_assoc, List.singleton_append, ← List.append_assoc, cutUser,
      aroundLastAt?_append free]
    have named : (a.user ++ if a.password.isEmpty then [] else ':' :: a.password).isEmpty =
        false := by
      cases userEq : a.user with
      | cons c rest => rfl
      | nil =>
        cases passwordEq : a.password with
        | cons c rest => rfl
        | nil => exact absurd (by rw [userEq, passwordEq]; rfl) some
    simp only [named, Bool.false_and, readUser_of_isWritten user password]
    rfl

/-- A port that is not the default is read again. -/
theorem readPort_portChars {default : UInt16} {a : Authority} (port : a.port ≠ some default) :
    readPort (some default) a.portChars = .ok (a.port, []) := by
  rw [Authority.portChars]
  cases eq : a.port with
  | none => rfl
  | some p =>
    rw [eq] at port
    have digits : ∀ c ∈ numeralChars p.toNat, isDigit c = true :=
      fun _ mem => isDigit_of_mem_numeralChars mem
    have nothing : ∀ c ∈ ([] : List Char).head?, isDigit c = false := nofun
    obtain ⟨taken, left⟩ := takeWhile_dropWhile_append digits nothing
    rw [List.append_nil] at taken left
    have value : value? 10 (numeralChars p.toNat) = some p.toNat := by
      rw [value?_of_digits digits (numeralChars_ne_nil _), ofDigitChars_numeralChars]
    have bound := p.toNat_lt
    rw [readPort]
    simp only [taken, left, value]
    rw [if_neg (by simp), if_neg (by omega), UInt16.ofNat_toNat, if_neg port]

/-- A port begins with a colon. -/
theorem colon_of_head_portChars {a : Authority} : ∀ c ∈ a.portChars.head?, c = ':' := by
  rw [Authority.portChars]
  split <;> simp

/-- A port is a colon and digits. -/
theorem mem_portChars {a : Authority} {c : Char} (mem : c ∈ a.portChars) :
    c = ':' ∨ isDigit c = true := by
  rw [Authority.portChars] at mem
  split at mem
  next => nomatch mem
  next => exact (List.mem_cons.mp mem).imp_right isDigit_of_mem_numeralChars

/-! ## The text of an authority -/

/-- Digits may stand within an authority. -/
theorem isInner_of_isDigit {c : Char} (digit : isDigit c = true) : IsInner c :=
  (isNameChar_of_isDigit digit).isInner

/-- Written user parts may stand within an authority. -/
theorem isInner_of_isWritten {cs : List Char} (written : IsWritten inUser cs) {c : Char}
    (mem : c ∈ cs) : IsInner c where
  inside := by
    have kept := (written c mem).2
    rw [← Bool.not_eq_true]
    intro ends
    simp only [isAuthorityEnd, Bool.true_and, Bool.or_eq_true, beq_iff_eq] at ends
    obtain ((rfl | rfl) | rfl) | rfl := ends <;> exact absurd kept (by decide)
  visible := written.visible inUser_of_le c mem

/-- The user part consists of its two parts, a colon and the at sign. -/
theorem mem_userChars {a : Authority} {c : Char} (mem : c ∈ a.userChars) :
    c ∈ a.user ∨ c ∈ a.password ∨ c = ':' ∨ c = '@' := by
  rw [Authority.userChars] at mem
  split at mem
  next => nomatch mem
  next =>
    rw [List.mem_append, List.mem_append, List.mem_singleton] at mem
    obtain (user | password) | mark := mem
    · exact .inl user
    · split at password
      next => nomatch password
      next => exact (List.mem_cons.mp password).elim (.inr ∘ .inr ∘ .inl) (.inr ∘ .inl)
    · exact .inr (.inr (.inr mark))

namespace Authority.IsRead

variable {default : UInt16} {a : Authority}

/-- An authority that was read has a host, which is written as it is. -/
theorem hostChars [Idna] (read : a.IsRead default) :
    ∃ host, a.host = some host ∧ host.IsRead ∧ a.hostChars = host.chars := by
  obtain ⟨host, eq, hostRead⟩ := read.host
  refine ⟨host, eq, hostRead, ?_⟩
  rw [Authority.hostChars, eq]

/-- Behind the user part there is no at sign. -/
theorem at_notMem [Idna] (read : a.IsRead default) : '@' ∉ a.hostChars ++ a.portChars := by
  obtain ⟨host, -, hostRead, eq⟩ := read.hostChars
  intro mem
  rcases List.mem_append.mp mem with inHost | inPort
  · exact (Host.mem_chars hostRead (eq ▸ inHost)).2 rfl
  · exact absurd (mem_portChars inPort) (by decide)

/-- No character of an authority that was read ends it. -/
theorem isInner [Idna] (read : a.IsRead default) : ∀ c ∈ a.chars, IsInner c := by
  obtain ⟨host, -, hostRead, eq⟩ := read.hostChars
  intro c mem
  rw [Authority.chars, eq, List.mem_append, List.mem_append] at mem
  obtain (inUser | inHost) | inPort := mem
  · obtain user | password | rfl | rfl := mem_userChars inUser
    · exact isInner_of_isWritten read.user user
    · exact isInner_of_isWritten read.password password
    · exact ⟨by decide, by decide⟩
    · exact ⟨by decide, by decide⟩
  · exact (Host.mem_chars hostRead inHost).1
  · rcases mem_portChars inPort with rfl | digit
    · exact ⟨by decide, by decide⟩
    · exact isInner_of_isDigit digit

/-- An authority that was read is not empty. -/
theorem chars_ne_nil [Idna] (read : a.IsRead default) : a.chars ≠ [] := by
  obtain ⟨host, -, hostRead, eq⟩ := read.hostChars
  rw [Authority.chars, eq]
  simp [Host.chars_ne_nil hostRead]

end Authority.IsRead

/-! ## The text behind the authority -/

/-- Path, query and fragment are cut apart at their marks. -/
theorem cutTail_chars {path : List Char} {query fragment : Option (List Char)}
    (pathFree : ∀ c ∈ path, c ≠ '?' ∧ c ≠ '#') (queryFree : ∀ q ∈ query, '#' ∉ q) :
    cutTail (path ++ (query.elim [] ('?' :: ·) ++ fragment.elim [] ('#' :: ·))) =
      ⟨path, query, fragment⟩ := by
  have inPath : ∀ c ∈ path, (c != '#') = true := fun c mem => bne_iff_ne.mpr (pathFree c mem).2
  have inBoth : ∀ c ∈ path ++ query.elim [] ('?' :: ·), (c != '#') = true := by
    intro c mem
    rcases List.mem_append.mp mem with early | late
    · exact inPath c early
    · cases query with
      | none => nomatch late
      | some q =>
        rcases List.mem_cons.mp late with rfl | inside
        · decide
        · rw [bne_iff_ne]
          rintro rfl
          exact queryFree q rfl inside
  have beforeQuery : ∀ c ∈ path, (c != '?') = true :=
    fun c mem => bne_iff_ne.mpr (pathFree c mem).1
  have fragmentStop : ∀ c ∈ (fragment.elim [] ('#' :: ·)).head?, (c != '#') = false := by
    cases fragment <;> simp
  have queryStop : ∀ c ∈ (query.elim [] ('?' :: ·)).head?, (c != '?') = false := by
    cases query <;> simp
  obtain ⟨before, behind⟩ := takeWhile_dropWhile_append inBoth fragmentStop
  obtain ⟨first, second⟩ := takeWhile_dropWhile_append beforeQuery queryStop
  rw [← List.append_assoc, cutTail]
  simp only [before, behind, first, second]
  cases query <;> cases fragment <;> rfl

theorem queryChars_eq (u : Url) : u.queryChars = u.query.elim [] ('?' :: ·) := by
  rw [queryChars]
  cases u.query <;> rfl

theorem fragmentChars_eq (u : Url) : u.fragmentChars = u.fragment.elim [] ('#' :: ·) := by
  rw [fragmentChars]
  cases u.fragment <;> rfl

/-- A written address is cut into its path, its query and its fragment. -/
theorem cutTail_of_isRead [Idna] {u : Url} (read : u.IsRead) :
    cutTail (u.path.chars ++ (u.queryChars ++ u.fragmentChars)) =
      ⟨u.path.chars, u.query, u.fragment⟩ := by
  obtain ⟨list, path, -, segments⟩ := read.path
  rw [queryChars_eq, fragmentChars_eq]
  refine cutTail_chars ?_ fun q mem => (read.query q mem).notMem (by decide)
  intro c mem
  rw [path] at mem
  rcases mem_chars_segments mem with rfl | ⟨s, found, inside⟩
  · decide
  · have kept := ((segments s found).written c inside).2
    constructor
    · rintro rfl
      exact absurd kept (by decide)
    · rintro rfl
      exact absurd kept (by decide)

/-! ## Reading a URL again -/

/-- An authority is cut off at the slash of the path. -/
theorem cut_authority {cs rest : List Char} (some : cs ≠ []) (inner : ∀ c ∈ cs, IsInner c)
    (slash : ∀ c ∈ rest.head?, c = '/') :
    ('/' :: '/' :: (cs ++ rest)).dropWhile (fun c => c == '/' || c == '\\') = cs ++ rest ∧
      (cs ++ rest).takeWhile (!isAuthorityEnd true ·) = cs ∧
      (cs ++ rest).dropWhile (!isAuthorityEnd true ·) = rest := by
  obtain ⟨first, more, rfl⟩ := List.exists_cons_of_ne_nil some
  have stop : ∀ c ∈ (first :: more ++ rest).head?, (c == '/' || c == '\\') = false := by
    intro c mem
    obtain rfl : first = c := Option.some.inj mem
    have inside := (inner first List.mem_cons_self).inside
    simp only [isAuthorityEnd, Bool.true_and, Bool.or_eq_false_iff] at inside
    rw [inside.1.1.1, inside.2]
    rfl
  refine ⟨?_, takeWhile_dropWhile_append ?_ ?_⟩
  · have slashes : ∀ c ∈ ['/', '/'], (c == '/' || c == '\\') = true :=
      forall_mem_of_all (by decide)
    exact (takeWhile_dropWhile_append slashes stop).2
  · intro c mem
    rw [(inner c mem).inside]
    rfl
  · intro c mem
    obtain rfl := slash c mem
    rfl

/-- What follows a successful step is what follows its result. -/
theorem ok_bind {α β : Type} (a : α) (f : α → Except Fault β) : (Except.ok a >>= f) = f a := rfl

/-- Of two steps that succeed both do. -/
theorem bind_eq_ok {α β : Type} {x : Except Fault α} {f : α → Except Fault β} {b : β}
    (ok : (x >>= f) = .ok b) : ∃ a, x = .ok a ∧ f a = .ok b := by
  cases x with
  | error fault => nomatch ok
  | ok a => exact ⟨a, rfl, ok⟩

/-- The parts of a URL are found again in the text behind its scheme. -/
theorem readWeb_chars [Idna] {u : Url} (read : u.IsRead) {default : UInt16}
    (web : webPort? u.scheme = some default) :
    readWeb u.scheme default
      (u.leadChars ++ u.path.chars ++ u.queryChars ++ u.fragmentChars) = .ok u := by
  obtain ⟨default', web', a, authority, parts⟩ := read.web
  obtain rfl : default' = default := Option.some.inj (web'.symm.trans web)
  obtain ⟨host, hostEq, hostRead, hostChars⟩ := parts.hostChars
  obtain ⟨list, path, some, segments⟩ := read.path
  have lead : u.leadChars ++ u.path.chars ++ u.queryChars ++ u.fragmentChars =
      '/' :: '/' :: (a.chars ++ (u.path.chars ++ (u.queryChars ++ u.fragmentChars))) := by
    rw [leadChars, authority]
    simp only [List.append_assoc, List.cons_append]
  have slash : ∀ c ∈ (u.path.chars ++ (u.queryChars ++ u.fragmentChars)).head?, c = '/' := by
    rw [path, chars_segments some]
    intro c mem
    exact (Option.some.inj mem).symm
  obtain ⟨slashes, front, back⟩ := cut_authority parts.chars_ne_nil parts.isInner slash
  have user (more : Bool) : cutUser a.chars more =
      .ok (a.user, a.password, host.chars ++ a.portChars) := by
    rw [Authority.chars, List.append_assoc, cutUser_userChars parts.user parts.password
      parts.at_notMem, hostChars]
  have cut := cutHost_chars hostRead (colon_of_head_portChars (a := a))
  have named : host.chars.isEmpty = false := by
    simpa using Host.chars_ne_nil hostRead
  have resolved : segmentsOf (withoutRoot (forwardSlashes u.path.chars)) = list := by
    rw [path]
    exact segmentsOf_chars some segments
  have assembled : assemble true u.scheme
      (Option.some ⟨a.user, a.password, Option.some host, a.port⟩) (.segments list)
      ⟨u.path.chars, u.query, u.fragment⟩ = u := by
    have query : u.query.map (encode (inQuery true)) = u.query :=
      (Option.map_congr fun q mem => encode_of_isWritten (read.query q mem)).trans Option.map_id'
    have fragment : u.fragment.map (encode inFragment) = u.fragment :=
      (Option.map_congr fun f mem => encode_of_isWritten (read.fragment f mem)).trans Option.map_id'
    rw [assemble, query, fragment, ← hostEq, ← path, ← authority]
  rw [lead, readWeb]
  simp only [slashes, front, back, user, ok_bind, cut, named, readWebHost_chars hostRead,
    readPort_portChars parts.port, cutTail_of_isRead read, resolved]
  exact congrArg Except.ok assembled

/-- Nothing is dropped from a text in which all is visible. -/
theorem solid_trimmed {cs : List Char} (visible : ∀ c ∈ cs, ¬ c ≤ ' ') :
    solid (trimmed cs) = cs := by
  have kept {ds : List Char} (inside : ∀ c ∈ ds, c ∈ cs) : ds.dropWhile (· ≤ ' ') = ds := by
    cases ds with
    | nil => rfl
    | cons c rest =>
      have low := visible c (inside c List.mem_cons_self)
      exact List.dropWhile_cons_of_neg (by rwa [decide_eq_true_eq])
  rw [trimmed, kept fun _ => id, kept fun _ => List.mem_reverse.mp, List.reverse_reverse, solid,
    List.filter_eq_self]
  intro c mem
  have blanks : isDropped c = false := by
    rw [← Bool.not_eq_true]
    intro dropped
    simp only [isDropped, Bool.or_eq_true, beq_iff_eq] at dropped
    obtain (rfl | rfl) | rfl := dropped <;> exact visible _ mem (by decide)
  rw [blanks]
  rfl

/-- The schemes of the web. -/
theorem scheme_of_webPort? {scheme : List Char} {default : UInt16}
    (web : webPort? scheme = some default) :
    scheme ∈ ["http", "ws", "https", "wss", "ftp"].map String.toList := by
  unfold webPort? at web
  split_ifs at web with first second third
  · rcases first with rfl | rfl <;> simp
  · rcases second with rfl | rfl <;> simp
  · subst third
    simp

/-- A web scheme is read up to its colon. -/
theorem readScheme?_of_web {scheme : List Char} {default : UInt16}
    (web : webPort? scheme = some default) (rest : List Char) :
    readScheme? (scheme ++ ':' :: rest) = some (scheme, rest) ∧ scheme ≠ "file".toList ∧
      ∀ c ∈ scheme, ¬ c ≤ ' ' := by
  have known := scheme_of_webPort? web
  simp only [List.map_cons, List.map_nil, List.mem_cons, List.not_mem_nil, or_false] at known
  obtain rfl | rfl | rfl | rfl | rfl := known
  all_goals exact ⟨rfl, by decide, forall_mem_of_all (by decide)⟩

/-- A URL that was read holds no blank and no control character. -/
theorem visible_chars [Idna] {u : Url} (read : u.IsRead) : ∀ c ∈ u.chars, ¬ c ≤ ' ' := by
  obtain ⟨default, web, a, authority, parts⟩ := read.web
  obtain ⟨list, path, -, segments⟩ := read.path
  obtain ⟨-, -, scheme⟩ := readScheme?_of_web web []
  intro c mem
  rw [chars, leadChars, authority, queryChars_eq, fragmentChars_eq] at mem
  simp only [List.mem_append, List.mem_cons] at mem
  obtain inScheme | rfl | (((rfl | rfl | inAuthority) | inPath) | inQuery) | inFragment := mem
  · exact scheme c inScheme
  · decide
  · decide
  · decide
  · exact (parts.isInner c inAuthority).visible
  · rw [path] at inPath
    rcases mem_chars_segments inPath with rfl | ⟨s, found, inside⟩
    · decide
    · exact (segments s found).written.visible inPath_of_le c inside
  · cases eq : u.query with
    | none =>
      rw [eq] at inQuery
      nomatch inQuery
    | some q =>
      rw [eq] at inQuery
      rcases List.mem_cons.mp inQuery with rfl | inside
      · decide
      · exact (read.query q eq).visible inQuery_of_le c inside
  · cases eq : u.fragment with
    | none =>
      rw [eq] at inFragment
      nomatch inFragment
    | some f =>
      rw [eq] at inFragment
      rcases List.mem_cons.mp inFragment with rfl | inside
      · decide
      · exact (read.fragment f eq).visible inFragment_of_le c inside

/-- Behind the scheme of the web stands a URL of the web. -/
theorem read_eq_readWeb [Idna] {text scheme rest : List Char} {default : UInt16}
    (found : readScheme? (solid (trimmed text)) = some (scheme, rest))
    (notFile : scheme ≠ "file".toList) (web : webPort? scheme = some default) :
    read text = readWeb scheme default rest := by
  rw [read, found]
  simp only [if_neg notFile, web]

/-- **URLs are read again.** A URL of the web that was read is the URL of its own text. -/
theorem read_chars [Idna] {u : Url} (canonical : u.IsRead) : read u.chars = .ok u := by
  obtain ⟨default, web, -⟩ := canonical.web
  obtain ⟨scheme, notFile, -⟩ := readScheme?_of_web web
    (u.leadChars ++ u.path.chars ++ u.queryChars ++ u.fragmentChars)
  rw [read_eq_readWeb (by rw [solid_trimmed (visible_chars canonical), chars, scheme]) notFile web]
  exact readWeb_chars canonical web

/-! ## What is read -/

/-- User and password are escaped when they are cut off. -/
theorem isWritten_of_cutUser {cs : List Char} {more : Bool}
    {user password after : List Char} (ok : cutUser cs more = .ok (user, password, after)) :
    IsWritten inUser user ∧ IsWritten inUser password := by
  unfold cutUser at ok
  split at ok
  next =>
    cases ok
    exact ⟨nofun, nofun⟩
  next before _ _ =>
    split at ok
    next => nomatch ok
    next =>
      cases ok
      exact ⟨isWritten_encode spares_inUser _, isWritten_encode spares_inUser _⟩

/-- The default port is left out. -/
theorem ne_default_of_readPort {default : UInt16} {cs after : List Char} {port : Option UInt16}
    (ok : readPort (some default) cs = .ok (port, after)) : port ≠ some default := by
  unfold readPort at ok
  split at ok
  next =>
    cases ok
    nofun
  next =>
    extract_lets digits rest at ok
    split at ok
    next => nomatch ok
    next =>
      split at ok
      next =>
        obtain ⟨rfl, -⟩ := Prod.mk.inj (Except.ok.inj ok)
        nofun
      next n _ =>
        split at ok
        next => nomatch ok
        next =>
          obtain ⟨rfl, -⟩ := Prod.mk.inj (Except.ok.inj ok)
          split
          next => nofun
          next other => exact other

/-- What is read as a URL of the web is canonical. -/
theorem isRead_of_readWeb [Idna] {scheme cs : List Char} {default : UInt16} {u : Url}
    (web : webPort? scheme = some default) (ok : readWeb scheme default cs = .ok u) :
    u.IsRead := by
  unfold readWeb at ok
  extract_lets authority rest tail path at ok
  obtain ⟨⟨user, password, hostAndPort⟩, cut, ok⟩ := bind_eq_ok ok
  obtain ⟨writtenUser, writtenPassword⟩ := isWritten_of_cutUser cut
  simp only at ok
  split at ok
  next => nomatch ok
  next =>
    obtain ⟨host, hostRead, ok⟩ := bind_eq_ok ok
    obtain ⟨⟨port, after⟩, portRead, ok⟩ := bind_eq_ok ok
    cases ok
    obtain ⟨some, segments⟩ :=
      forall_segmentsOf fun mem =>
        backslash_notMem_forwardSlashes tail.path (mem_of_mem_withoutRoot mem)
    refine ⟨⟨default, web, _, rfl, ?_⟩, ⟨path, rfl, some, segments⟩, ?_, ?_⟩
    · exact ⟨writtenUser, writtenPassword, ⟨host, rfl, isRead_of_readWebHost hostRead⟩,
        ne_default_of_readPort portRead⟩
    · intro q mem
      obtain ⟨raw, -, rfl⟩ := Option.map_eq_some_iff.mp mem
      exact isWritten_encode (spares_inQuery true) raw
    · intro f mem
      obtain ⟨raw, -, rfl⟩ := Option.map_eq_some_iff.mp mem
      exact isWritten_encode spares_inFragment raw

/-- What is read as a file has the scheme of files. -/
theorem scheme_of_readFile [Idna] {cs : List Char} {u : Url} (ok : readFile cs = .ok u) :
    u.scheme = "file".toList := by
  unfold readFile at ok
  extract_lets tail path at ok
  split at ok
  next rest _ =>
    split at ok
    next more _ =>
      unfold readHostedFile at ok
      extract_lets hostText hosted at ok
      split at ok
      next =>
        cases ok
        rfl
      next =>
        split at ok
        next => nomatch ok
        all_goals
          cases ok
          rfl
    next =>
      cases ok
      rfl
  next =>
    cases ok
    rfl

/-- Any other address keeps its scheme. -/
theorem scheme_of_readOther {scheme cs : List Char} {u : Url} (ok : readOther scheme cs = .ok u) :
    u.scheme = scheme := by
  unfold readOther at ok
  split at ok
  next rest =>
    unfold readOtherAuthority at ok
    extract_lets behind at ok
    obtain ⟨⟨user, password, hostAndPort⟩, -, ok⟩ := bind_eq_ok ok
    obtain ⟨host, -, ok⟩ := bind_eq_ok ok
    simp only at ok
    split at ok
    next => nomatch ok
    next =>
      obtain ⟨⟨port, after⟩, -, ok⟩ := bind_eq_ok ok
      simp only at ok
      split at ok
      next => nomatch ok
      next =>
        cases ok
        rfl
  all_goals
    cases ok
    rfl

/-- A URL of the web is read behind its scheme. -/
theorem exists_readWeb [Idna] {text : List Char} {u : Url} (ok : read text = .ok u)
    (web : u.IsWeb) :
    ∃ scheme default rest, readScheme? (solid (trimmed text)) = some (scheme, rest) ∧
      scheme ≠ "file".toList ∧ webPort? scheme = some default ∧
      readWeb scheme default rest = .ok u := by
  unfold read at ok
  split at ok
  next => nomatch ok
  next scheme rest found =>
    split at ok
    next =>
      rw [IsWeb, scheme_of_readFile ok] at web
      nomatch web
    next notFile =>
      split at ok
      next default isWeb => exact ⟨scheme, default, rest, found, notFile, isWeb, ok⟩
      next other =>
        rw [IsWeb, scheme_of_readOther ok, other] at web
        nomatch web

/-- **What is read is canonical.** -/
theorem isRead_of_read [Idna] {text : List Char} {u : Url} (ok : read text = .ok u)
    (web : u.IsWeb) :
    u.IsRead := by
  obtain ⟨scheme, default, rest, -, -, isWeb, ok⟩ := exists_readWeb ok web
  exact isRead_of_readWeb isWeb ok

end MetricsHarness.Url
