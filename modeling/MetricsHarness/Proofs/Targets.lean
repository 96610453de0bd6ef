import MetricsHarness.Proofs.Parameters
import MetricsHarness.Proofs.TextOrder
import MetricsHarness.Query.Target
import MetricsHarness.Url.LiteralDomain

/-!
# What becomes of a URL as a target

The target of a query is not the URL of its endpoint and path as it is written, but it asks for the
same thing (`Url.SortedOf`): the parts before the query are the same, the parameters are the same
ones in the order of their keys, those of one key in the order in which they stood, and the fragment
is gone. A URL is no target only if it cannot be read (`Query.targetOf_eq`).

That the sorted parameters are also what the target says, once they are written and read again, is
`Form.parameters_encodeParameters`.
-/

namespace MetricsHarness

open Text

namespace Url

/-- The values of a key, in their order. -/
def valuesOf (key : List Char) (ps : List Parameter) : List (List Char) :=
  (ps.filter (·.key = key)).map (·.value)

/-- Whether a path has a structure. -/
def Path.isHierarchical : Path → Bool
  | .segments _ => true
  | .whole _ => false

/-- A URL that asks for what another asks for, with its parameters in the order of their keys, which
is that of their characters and that of their bytes. -/
structure SortedOf (u target : Url) : Prop where
  scheme : target.scheme = u.scheme
  authority : target.authority = u.authority
  path : target.path = u.path
  fragment : target.fragment = none
  permuted : target.parameters.Perm u.parameters
  ordered : target.parameters.Pairwise fun p q =>
    p.key ≤ q.key ∧ Utf8.encode p.key ≤ Utf8.encode q.key
  stable : ∀ key, valuesOf key target.parameters = valuesOf key u.parameters
  bare : target.query = none ↔ u.parameters = []

/-! ## Sorting by key -/

/-- A parameter stands before another if its key does not come later. -/
theorem Parameter.before_iff {p q : Parameter} : p.before q = true ↔ p.key ≤ q.key := by
  rw [before, Bool.not_eq_true', decide_eq_false_iff_not]
  exact not_lt

theorem Parameter.before_trans (p q r : Parameter) (first : p.before q = true)
    (second : q.before r = true) : p.before r = true := by
  rw [before_iff] at *
  exact le_trans first second

theorem Parameter.before_total (p q : Parameter) : (p.before q || q.before p) = true := by
  rw [Bool.or_eq_true, before_iff, before_iff]
  exact le_total p.key q.key

/-- Sorting keeps the parameters. -/
theorem sortedByKey_perm (ps : List Parameter) : (sortedByKey ps).Perm ps :=
  List.mergeSort_perm ps Parameter.before

/-- Sorted parameters are in the order of their keys. -/
theorem sortedByKey_ordered (ps : List Parameter) :
    (sortedByKey ps).Pairwise fun p q => p.key ≤ q.key := by
  have sorted := List.pairwise_mergeSort Parameter.before_trans Parameter.before_total ps
  refine sorted.imp ?_
  intro p q before
  exact Parameter.before_iff.mp before

/-- Parameters of one key stay in their order: they are in order as they stand, so all of them are
found in this order among the sorted ones, and the sorted ones have no more of them. -/
theorem filter_sortedByKey (key : List Char) (ps : List Parameter) :
    (sortedByKey ps).filter (·.key = key) = ps.filter (·.key = key) := by
  have alike : (ps.filter (·.key = key)).Pairwise fun p q => p.before q = true := by
    refine List.pairwise_of_forall_mem_list ?_
    intro p hp q hq
    have pKey : p.key = key := of_decide_eq_true (List.mem_filter.mp hp).2
    have qKey : q.key = key := of_decide_eq_true (List.mem_filter.mp hq).2
    rw [Parameter.before_iff, pKey, qKey]
  have kept : (ps.filter (·.key = key)).Sublist (sortedByKey ps) :=
    List.sublist_mergeSort Parameter.before_trans Parameter.before_total alike
      List.filter_sublist
  have found := kept.filter (·.key = key)
  rw [List.filter_filter] at found
  simp only [Bool.and_self] at found
  have count := ((sortedByKey_perm ps).filter (·.key = key)).length_eq
  exact (found.eq_of_length count.symm).symm

/-- Sorting keeps the order of the values of a key. -/
theorem valuesOf_sortedByKey (key : List Char) (ps : List Parameter) :
    valuesOf key (sortedByKey ps) = valuesOf key ps := by
  rw [valuesOf, filter_sortedByKey, valuesOf]

theorem sortedByKey_eq_nil_iff {ps : List Parameter} : sortedByKey ps = [] ↔ ps = [] := by
  rw [← List.length_eq_zero_iff, (sortedByKey_perm ps).length_eq, List.length_eq_zero_iff]

/-! ## The sorted URL -/

/-- A URL without parameters loses its query. -/
theorem sorted_of_nil {u : Url} (h : u.parameters = []) :
    u.sorted = { u with path := u.path.withoutTrailing, query := none, fragment := none } := by
  rw [sorted, sortedByKey_eq_nil_iff.mpr h]

/-- Parameters are written again in their order. -/
theorem sorted_of_ne_nil {u : Url} (h : u.parameters ≠ []) :
    u.sorted = { u with
      query := some (Form.encodeParameters (sortedByKey u.parameters)), fragment := none } := by
  rw [sorted]
  split
  next empty => exact absurd (sortedByKey_eq_nil_iff.mp empty) h
  next => rfl

/-- The parameters of the sorted URL are the sorted parameters. -/
theorem parameters_sorted (u : Url) : u.sorted.parameters = sortedByKey u.parameters := by
  by_cases h : u.parameters = []
  · rw [sorted_of_nil h, sortedByKey_eq_nil_iff.mpr h]
    rfl
  · rw [sorted_of_ne_nil h]
    exact Form.parameters_encodeParameters (sortedByKey u.parameters)

/-- A sorted address has no query exactly if there are no parameters. -/
theorem query_sorted_eq_none_iff (u : Url) : u.sorted.query = none ↔ u.parameters = [] := by
  by_cases h : u.parameters = []
  · rw [sorted_of_nil h]
    exact iff_of_true rfl h
  · rw [sorted_of_ne_nil h]
    exact iff_of_false (Option.some_ne_none _) h

/-- The path of the sorted URL has a structure only if it is the path of the URL. -/
theorem path_sorted {u : Url} (structured : u.sorted.path.isHierarchical = true) :
    u.sorted.path = u.path := by
  by_cases h : u.parameters = []
  · rw [sorted_of_nil h] at structured ⊢
    revert structured
    cases u.path with
    | segments list =>
      intro _
      rfl
    | whole text =>
      intro structured
      exact absurd structured Bool.false_ne_true
  · rw [sorted_of_ne_nil h]

theorem scheme_sorted (u : Url) : u.sorted.scheme = u.scheme := by
  unfold sorted
  split <;> rfl

theorem authority_sorted (u : Url) : u.sorted.authority = u.authority := by
  unfold sorted
  split <;> rfl

/-- A sorted address has no fragment. -/
theorem fragment_sorted (u : Url) : u.sorted.fragment = none := by
  unfold sorted
  split <;> rfl

/-- Texts in order have their bytes in order. -/
theorem encode_le_encode {cs ds : List Char} (le : cs ≤ ds) : Utf8.encode cs ≤ Utf8.encode ds := by
  intro less
  exact absurd (Utf8.encode_lt_encode_iff.mp less) (not_lt.mpr le)

/-- Sorting keeps what a URL asks for. -/
theorem sortedOf_sorted {u : Url} (structured : u.sorted.path.isHierarchical = true) :
    SortedOf u u.sorted where
  scheme := u.scheme_sorted
  authority := u.authority_sorted
  path := path_sorted structured
  fragment := u.fragment_sorted
  permuted := by
    rw [parameters_sorted]
    exact sortedByKey_perm u.parameters
  ordered := by
    rw [parameters_sorted]
    refine (sortedByKey_ordered u.parameters).imp ?_
    intro p q le
    exact ⟨le, encode_le_encode le⟩
  stable := by
    intro key
    rw [parameters_sorted]
    exact valuesOf_sortedByKey key u.parameters
  bare := u.query_sorted_eq_none_iff

end Url

namespace Query

/-- **Targets keep what is asked for.** Endpoint and path give a target unless their text is not a
URL, which is then named; and a target with a structured path has the parts and the parameters of
that URL, the parameters sorted by key without a change among those of one key. -/
theorem targetOf_eq [Idna] (endpoint path : String) :
    (∀ failure, targetOf endpoint path = .error failure ↔
      ∃ fault, Url.read (endpoint ++ path).toList = .error fault ∧
        failure = .url (endpoint ++ path) fault.message) ∧
    ∀ target, targetOf endpoint path = .ok target → target.path.isHierarchical = true →
      ∃ url, Url.read (endpoint ++ path).toList = .ok url ∧ url.SortedOf target := by
  unfold targetOf
  cases read : Url.read (endpoint ++ path).toList with
  | error fault =>
    refine ⟨fun failure => ⟨?_, ?_⟩, ?_⟩
    · intro failed
      injection failed with eq
      exact ⟨fault, rfl, eq.symm⟩
    · rintro ⟨other, eq, rfl⟩
      injection eq with eq
      rw [eq]
    · intro target ok
      nomatch ok
  | ok url =>
    refine ⟨fun failure => ⟨?_, ?_⟩, ?_⟩
    · intro failed
      nomatch failed
    · rintro ⟨fault, eq, -⟩
      nomatch eq
    · intro target ok structured
      injection ok with eq
      subst eq
      exact ⟨url, rfl, Url.sortedOf_sorted structured⟩

open LiteralDomain in
/-- The values of a key that stands twice stay in their order; an empty piece is no parameter, a
lone equals sign is one, and a separator in an escape is no separator. -/
theorem targetOf_eq_of_mixed : ∃ url target : Url,
    Url.read ("http://u@h:81" ++ "/p?b=2&a=x+y&&b=1&=&%26=%3D#f").toList = .ok url ∧
      targetOf "http://u@h:81" "/p?b=2&a=x+y&&b=1&=&%26=%3D#f" = .ok target ∧
      url.SortedOf target ∧
      target.text = "http://u@h:81/p?=&%26=%3D&a=x+y&b=2&b=1" := by
  have read : Url.read ("http://u@h:81" ++ "/p?b=2&a=x+y&&b=1&=&%26=%3D#f").toList =
      .ok ⟨"http".toList, some ⟨['u'], [], some (.name ['h']), some 81⟩, .segments [['p']],
        some "b=2&a=x+y&&b=1&=&%26=%3D".toList, some ['f']⟩ := by decide +kernel
  have parameters : Url.Form.parameters "b=2&a=x+y&&b=1&=&%26=%3D".toList =
      [⟨['b'], ['2']⟩, ⟨['a'], ['x', ' ', 'y']⟩, ⟨['b'], ['1']⟩, ⟨[], []⟩, ⟨['&'], ['=']⟩] := by
    decide +kernel
  have sorting : Url.sortedByKey
      [⟨['b'], ['2']⟩, ⟨['a'], ['x', ' ', 'y']⟩, ⟨['b'], ['1']⟩, ⟨[], []⟩, ⟨['&'], ['=']⟩] =
      [⟨[], []⟩, ⟨['&'], ['=']⟩, ⟨['a'], ['x', ' ', 'y']⟩, ⟨['b'], ['2']⟩, ⟨['b'], ['1']⟩] := by
    have aFirst : ['a'] ≤ ['b'] ∧ ¬ ['b'] ≤ ['a'] := by decide
    have signFirst : ¬ ['a'] ≤ ['&'] := by decide
    simp [Url.sortedByKey, List.mergeSort, List.MergeSort.Internal.splitInTwo, List.merge,
      Url.Parameter.before, aFirst, signFirst]
  have ok : targetOf "http://u@h:81" "/p?b=2&a=x+y&&b=1&=&%26=%3D#f" = .ok ⟨"http".toList,
      some ⟨['u'], [], some (.name ['h']), some 81⟩, .segments [['p']],
      some "=&%26=%3D&a=x+y&b=2&b=1".toList, none⟩ := by
    simp only [targetOf, read, Url.sorted, Url.parameters, parameters, sorting]
    decide +kernel
  obtain ⟨url, read, sorted⟩ :=
    (targetOf_eq "http://u@h:81" "/p?b=2&a=x+y&&b=1&=&%26=%3D#f").2 _ ok rfl
  exact ⟨url, _, read, ok, sorted, by decide +kernel⟩

end Query

end MetricsHarness
