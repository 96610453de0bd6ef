import Mathlib.Data.List.DropRight
import MetricsHarness.Proofs.Targets
import MetricsHarness.Proofs.WebUrls
import MetricsHarness.Url.LiteralDomain

/-!
# Targets are a canonical form

Two inputs whose URLs differ in their queries and fragments only have the same target exactly if
every key has the same values in the same order (`Query.targetOf_canonical`). So the order of
parameters across keys, their escapes, empty pieces and the fragment do not show in a target, and
nothing else is lost.

One direction is that a list in the order of its keys is known from the values of each key
(`Url.eq_of_ordered`); the other is that parameters survive being written
(`Form.parameters_encodeParameters`).

A target of the web is its own target: its text is read as it was written (`Url.read_chars`), and to
sort what is sorted changes nothing (`Url.sorted_sorted`).
-/

namespace MetricsHarness

open Text

namespace Url

/-! ## Parameters from the values of each key -/

theorem valuesOf_cons (key : List Char) (p : Parameter) (ps : List Parameter) :
    valuesOf key (p :: ps) = (if p.key = key then [p.value] else []) ++ valuesOf key ps := by
  rw [valuesOf, List.filter_cons]
  by_cases same : p.key = key
  · rw [if_pos (decide_eq_true same), if_pos same]
    rfl
  · rw [if_neg (by simpa using same), if_neg same]
    rfl

theorem valuesOf_ne_nil_iff {key : List Char} {ps : List Parameter} :
    valuesOf key ps ≠ [] ↔ ∃ p ∈ ps, p.key = key := by
  rw [valuesOf, ne_eq, List.map_eq_nil_iff, List.filter_eq_nil_iff]
  simp

/-- Of two lists with the same values for each key, the key at the front of an ordered one is not
above that of the other. -/
theorem front_le {p q : Parameter} {ps qs : List Parameter}
    (ordered : (q :: qs).Pairwise fun a b => a.key ≤ b.key)
    (same : ∀ key, valuesOf key (p :: ps) = valuesOf key (q :: qs)) : q.key ≤ p.key := by
  have some : valuesOf p.key (p :: ps) ≠ [] :=
    valuesOf_ne_nil_iff.mpr ⟨p, List.mem_cons_self, rfl⟩
  rw [same] at some
  obtain ⟨r, found, key⟩ := valuesOf_ne_nil_iff.mp some
  rcases List.mem_cons.mp found with rfl | later
  · exact key.le
  · rw [← key]
    exact List.rel_of_pairwise_cons ordered later

/-- A list in the order of its keys is known from the values of each key. -/
theorem eq_of_ordered {ps qs : List Parameter}
    (first : ps.Pairwise fun a b => a.key ≤ b.key)
    (second : qs.Pairwise fun a b => a.key ≤ b.key)
    (same : ∀ key, valuesOf key ps = valuesOf key qs) : ps = qs := by
  induction ps generalizing qs with
  | nil =>
    cases qs with
    | nil => rfl
    | cons q rest =>
      have some := valuesOf_ne_nil_iff.mpr ⟨q, List.mem_cons_self (l := rest), rfl⟩
      exact absurd (same q.key).symm some
  | cons p ps ih =>
    cases qs with
    | nil =>
      have some := valuesOf_ne_nil_iff.mpr ⟨p, List.mem_cons_self (l := ps), rfl⟩
      exact absurd (same p.key) some
    | cons q qs =>
      have key : p.key = q.key :=
        le_antisymm (front_le first fun key => (same key).symm) (front_le second same)
      have value : p.value = q.value := by
        have values := same p.key
        rw [valuesOf_cons, valuesOf_cons, if_pos rfl, if_pos key.symm] at values
        exact (List.cons.inj values).1
      obtain rfl : p = q := by
        cases p
        cases q
        cases key
        cases value
        rfl
      have rest : ∀ key, valuesOf key ps = valuesOf key qs := by
        intro key
        have values := same key
        rw [valuesOf_cons, valuesOf_cons] at values
        exact List.append_cancel_left values
      rw [ih first.of_cons second.of_cons rest]

/-- Sorted parameters are the same exactly if the values of each key are. -/
theorem sortedByKey_eq_iff {ps qs : List Parameter} :
    sortedByKey ps = sortedByKey qs ↔ ∀ key, valuesOf key ps = valuesOf key qs := by
  constructor
  · intro same key
    rw [← valuesOf_sortedByKey, same, valuesOf_sortedByKey]
  · intro same
    refine eq_of_ordered (sortedByKey_ordered ps) (sortedByKey_ordered qs) fun key => ?_
    rw [valuesOf_sortedByKey, valuesOf_sortedByKey, same]

/-! ## The text of a sorted URL -/

theorem queryChars_injective {u v : Url} (same : u.queryChars = v.queryChars) :
    u.query = v.query := by
  rw [queryChars_eq, queryChars_eq] at same
  cases first : u.query <;> cases second : v.query
  · rfl
  · rw [first, second] at same
    nomatch same
  · rw [first, second] at same
    nomatch same
  · rw [first, second] at same
    exact congrArg some (List.cons.inj same).2

/-- The sorted URLs have the same query exactly if their parameters are the same. -/
theorem query_sorted_eq_iff {u v : Url} : u.sorted.query = v.sorted.query ↔
    sortedByKey u.parameters = sortedByKey v.parameters := by
  constructor
  · intro same
    rw [← parameters_sorted, ← parameters_sorted, parameters, parameters, same]
  · intro same
    by_cases none : u.parameters = []
    · have alsoNone : v.parameters = [] := by
        rwa [← sortedByKey_eq_nil_iff, ← same, sortedByKey_eq_nil_iff]
      rw [(query_sorted_eq_none_iff u).mpr none, (query_sorted_eq_none_iff v).mpr alsoNone]
    · have alsoSome : v.parameters ≠ [] := by
        rwa [ne_eq, ← sortedByKey_eq_nil_iff, ← same, sortedByKey_eq_nil_iff]
      rw [sorted_of_ne_nil none, sorted_of_ne_nil alsoSome, same]

/-- Of URLs with the same parts before the query, the sorted ones have the same text exactly if the
values of each key are the same. -/
theorem text_sorted_eq_iff {u v : Url} (scheme : u.scheme = v.scheme)
    (authority : u.authority = v.authority) (path : u.sorted.path = v.sorted.path) :
    u.sorted.text = v.sorted.text ↔
      ∀ key, valuesOf key u.parameters = valuesOf key v.parameters := by
  rw [← sortedByKey_eq_iff, ← query_sorted_eq_iff]
  have lead : u.sorted.leadChars = v.sorted.leadChars := by
    rw [leadChars, leadChars, authority_sorted, authority_sorted, authority, path]
  have bare (w : Url) : w.sorted.fragmentChars = [] := by
    rw [fragmentChars, fragment_sorted]
  rw [text, text, String.ofList_inj, chars, chars, bare, bare, scheme_sorted, scheme_sorted,
    scheme, lead, path]
  constructor
  · intro same
    simp only [List.append_cancel_left_eq, List.cons.injEq, true_and, List.append_nil] at same
    exact queryChars_injective same
  · intro same
    rw [queryChars_eq, queryChars_eq, same]

/-! ## Sorting twice -/

theorem sortedByKey_sortedByKey (ps : List Parameter) :
    sortedByKey (sortedByKey ps) = sortedByKey ps :=
  sortedByKey_eq_iff.mpr fun key => valuesOf_sortedByKey key ps

theorem Path.withoutTrailing_withoutTrailing (path : Path) :
    path.withoutTrailing.withoutTrailing = path.withoutTrailing := by
  cases path with
  | whole text => simp only [withoutTrailing, List.reverse_reverse, List.dropWhile_idempotent]
  | segments list => rfl

/-- To sort what is sorted changes nothing. -/
theorem sorted_sorted (u : Url) : u.sorted.sorted = u.sorted := by
  by_cases none : u.parameters = []
  · have still : u.sorted.parameters = [] := by
      rw [parameters_sorted, sortedByKey_eq_nil_iff.mpr none]
    rw [sorted_of_nil still, sorted_of_nil none]
    simp only [Path.withoutTrailing_withoutTrailing]
  · have still : u.sorted.parameters ≠ [] := by
      rwa [parameters_sorted, ne_eq, sortedByKey_eq_nil_iff]
    rw [sorted_of_ne_nil still, parameters_sorted, sortedByKey_sortedByKey, sorted_of_ne_nil none]

theorem IsRead.isHierarchical [Idna] {u : Url} (canonical : u.IsRead) :
    u.path.isHierarchical = true := by
  obtain ⟨list, path, -⟩ := canonical.path
  rw [path]
  rfl

/-- A canonical URL stays canonical. -/
theorem IsRead.sorted [Idna] {u : Url} (canonical : u.IsRead) : u.sorted.IsRead := by
  obtain ⟨list, path, some, segments⟩ := canonical.path
  by_cases none : u.parameters = []
  · rw [sorted_of_nil none]
    refine ⟨canonical.web, ⟨list, ?_, some, segments⟩, nofun, nofun⟩
    rw [path]
    rfl
  · rw [sorted_of_ne_nil none]
    refine ⟨canonical.web, canonical.path, ?_, nofun⟩
    intro q mem
    obtain rfl := Option.some.inj mem
    exact Form.isWritten_encodeParameters _

end Url

namespace Query

open Url

theorem targetOf_eq_ok_iff [Idna] {endpoint path : String} {target : Url} :
    targetOf endpoint path = .ok target ↔
      ∃ url, Url.read (endpoint ++ path).toList = .ok url ∧ target = url.sorted := by
  unfold targetOf
  cases Url.read (endpoint ++ path).toList with
  | error fault => exact ⟨nofun, nofun⟩
  | ok url =>
    constructor
    · intro ok
      exact ⟨url, rfl, (Except.ok.inj ok).symm⟩
    · rintro ⟨other, eq, rfl⟩
      rw [Except.ok.inj eq]

/-- **Targets are a canonical form.** Two inputs with URLs of the web that agree before their
queries have targets with the same text exactly if the values of each key are the same in both. And
the text of a target of the web is an input of its own, with this target. -/
theorem targetOf_canonical [Idna] :
    (∀ {endpoint₁ path₁ endpoint₂ path₂ : String} {url₁ url₂ target₁ target₂ : Url},
      Url.read (endpoint₁ ++ path₁).toList = .ok url₁ →
      Url.read (endpoint₂ ++ path₂).toList = .ok url₂ →
      targetOf endpoint₁ path₁ = .ok target₁ → targetOf endpoint₂ path₂ = .ok target₂ →
      url₁.IsWeb → url₁.scheme = url₂.scheme → url₁.authority = url₂.authority →
      url₁.path = url₂.path →
      (target₁.text = target₂.text ↔
        ∀ key, valuesOf key url₁.parameters = valuesOf key url₂.parameters)) ∧
    ∀ {endpoint path : String} {target : Url}, targetOf endpoint path = .ok target →
      target.IsWeb → targetOf target.text "" = .ok target := by
  constructor
  · intro endpoint₁ path₁ endpoint₂ path₂ url₁ url₂ target₁ target₂ read₁ read₂ ok₁ ok₂ web₁
      scheme authority path
    obtain ⟨_, same₁, rfl⟩ := targetOf_eq_ok_iff.mp ok₁
    obtain ⟨_, same₂, rfl⟩ := targetOf_eq_ok_iff.mp ok₂
    obtain rfl := Except.ok.inj (read₁.symm.trans same₁)
    obtain rfl := Except.ok.inj (read₂.symm.trans same₂)
    have web₂ : url₂.IsWeb := by rwa [IsWeb, ← scheme]
    have kept₁ := path_sorted (isRead_of_read read₁ web₁).sorted.isHierarchical
    have kept₂ := path_sorted (isRead_of_read read₂ web₂).sorted.isHierarchical
    exact text_sorted_eq_iff scheme authority (by rw [kept₁, kept₂, path])
  · intro endpoint path target ok web
    obtain ⟨url, read, rfl⟩ := targetOf_eq_ok_iff.mp ok
    have urlWeb : url.IsWeb := by rwa [IsWeb, ← scheme_sorted]
    have canonical := (isRead_of_read read urlWeb).sorted
    refine targetOf_eq_ok_iff.mpr ⟨url.sorted, ?_, (sorted_sorted url).symm⟩
    rw [String.append_empty, text, String.toList_ofList]
    exact read_chars canonical

open LiteralDomain in
/-- The default port, a dot segment, an empty piece, the spelling of a blank, a fragment and the
order of parameters do not show in a target. The order of the values of one key does. -/
theorem targetOf_canonical_of_spellings : ∃ url₁ url₂ url₃ target₁ target₂ target₃ : Url,
    Url.read ("http://u@H:80" ++ "/a/./p?b=2&a=x+y&&b=1#f").toList = .ok url₁ ∧
    Url.read ("http://u@h" ++ "/a/p?b=2&b=%31&a=x%20y").toList = .ok url₂ ∧
    Url.read ("http://u@h" ++ "/a/p?b=1&a=x%20y&b=2").toList = .ok url₃ ∧
    targetOf "http://u@H:80" "/a/./p?b=2&a=x+y&&b=1#f" = .ok target₁ ∧
    targetOf "http://u@h" "/a/p?b=2&b=%31&a=x%20y" = .ok target₂ ∧
    targetOf "http://u@h" "/a/p?b=1&a=x%20y&b=2" = .ok target₃ ∧
    url₁ ≠ url₂ ∧ target₁.text = target₂.text ∧ target₁.text ≠ target₃.text ∧
    targetOf target₁.text "" = .ok target₁ := by
  let authority : Authority := ⟨['u'], [], some (.name ['h']), none⟩
  have read₁ : Url.read ("http://u@H:80" ++ "/a/./p?b=2&a=x+y&&b=1#f").toList =
      .ok ⟨"http".toList, some authority, .segments [['a'], ['p']],
        some "b=2&a=x+y&&b=1".toList, some ['f']⟩ := by decide +kernel
  have read₂ : Url.read ("http://u@h" ++ "/a/p?b=2&b=%31&a=x%20y").toList =
      .ok ⟨"http".toList, some authority, .segments [['a'], ['p']],
        some "b=2&b=%31&a=x%20y".toList, none⟩ := by decide +kernel
  have read₃ : Url.read ("http://u@h" ++ "/a/p?b=1&a=x%20y&b=2").toList =
      .ok ⟨"http".toList, some authority, .segments [['a'], ['p']],
        some "b=1&a=x%20y&b=2".toList, none⟩ := by decide +kernel
  have ok₁ := targetOf_eq_ok_iff.mpr ⟨_, read₁, rfl⟩
  have ok₂ := targetOf_eq_ok_iff.mpr ⟨_, read₂, rfl⟩
  have ok₃ := targetOf_eq_ok_iff.mpr ⟨_, read₃, rfl⟩
  have parameters₁ : Form.parameters "b=2&a=x+y&&b=1".toList =
      [⟨['b'], ['2']⟩, ⟨['a'], ['x', ' ', 'y']⟩, ⟨['b'], ['1']⟩] := by decide +kernel
  have parameters₂ : Form.parameters "b=2&b=%31&a=x%20y".toList =
      [⟨['b'], ['2']⟩, ⟨['b'], ['1']⟩, ⟨['a'], ['x', ' ', 'y']⟩] := by decide +kernel
  have parameters₃ : Form.parameters "b=1&a=x%20y&b=2".toList =
      [⟨['b'], ['1']⟩, ⟨['a'], ['x', ' ', 'y']⟩, ⟨['b'], ['2']⟩] := by decide +kernel
  have values (key : List Char) : valuesOf key (Form.parameters "b=2&a=x+y&&b=1".toList) =
      valuesOf key (Form.parameters "b=2&b=%31&a=x%20y".toList) := by
    rw [parameters₁, parameters₂]
    simp only [valuesOf_cons]
    by_cases isA : ['a'] = key
    · subst isA
      rfl
    · rw [if_neg isA]
      rfl
  have web : Url.IsWeb ⟨"http".toList, some authority, .segments [['a'], ['p']],
      some "b=2&a=x+y&&b=1".toList, some ['f']⟩ := by decide
  have turned : valuesOf ['b'] (Form.parameters "b=2&a=x+y&&b=1".toList) ≠
      valuesOf ['b'] (Form.parameters "b=1&a=x%20y&b=2".toList) := by
    rw [parameters₁, parameters₃]
    decide
  refine ⟨_, _, _, _, _, _, read₁, read₂, read₃, ok₁, ok₂, ok₃, by decide, ?_, ?_, ?_⟩
  · exact (targetOf_canonical.1 read₁ read₂ ok₁ ok₂ web rfl rfl rfl).mpr values
  · intro same
    exact turned ((targetOf_canonical.1 read₁ read₃ ok₁ ok₃ web rfl rfl rfl).mp same ['b'])
  · exact targetOf_canonical.2 ok₁ (by rwa [IsWeb, scheme_sorted])

end Query

end MetricsHarness
