import MetricsHarness.Proofs.CanonicalTargets
import MetricsHarness.Url.LiteralDomain

/-!
# Parameters as bytes

The keys and values of a query are bytes: a plus sign is a blank, an escape is its byte. The target
of a query keeps them only as far as they are text (`Query.targetOf_bytes`). On the way to the
target each key and each value is read as a text and written again, which puts the replacement
character in place of what is not UTF-8. So the target asks for the same bytes exactly if all of
them are UTF-8, and an escape such as `%FF` becomes three others.

Order plays no part here; what becomes of it is told by `Url.SortedOf`.
-/

namespace MetricsHarness

open Text

namespace Url

/-- A key and a value as bytes. -/
structure RawParameter where
  key : Bytes
  value : Bytes
  deriving DecidableEq

namespace RawParameter

/-- The text that is made of the bytes. -/
def decoded (p : RawParameter) : Parameter :=
  ⟨Utf8.decodeLossy p.key, Utf8.decodeLossy p.value⟩

/-- The bytes of a text. -/
def ofParameter (p : Parameter) : RawParameter := ⟨Utf8.encode p.key, Utf8.encode p.value⟩

/-- Key and value are UTF-8. -/
def IsText (p : RawParameter) : Prop :=
  (Utf8.decode? p.key).isSome = true ∧ (Utf8.decode? p.value).isSome = true

instance (p : RawParameter) : Decidable p.IsText := inferInstanceAs (Decidable (_ ∧ _))

theorem isText_ofParameter (p : Parameter) : (ofParameter p).IsText := by
  rw [IsText, ofParameter, Utf8.decode?_encode, Utf8.decode?_encode]
  exact ⟨rfl, rfl⟩

/-- Bytes survive being read as a text just if they are one. -/
theorem ofParameter_decoded_iff {p : RawParameter} : ofParameter p.decoded = p ↔ p.IsText := by
  rw [IsText, ← Utf8.encode_decodeLossy_iff, ← Utf8.encode_decodeLossy_iff]
  exact iff_of_eq (RawParameter.mk.injEq ..)

end RawParameter

/-- The parameters of a URL as bytes: the pieces of its query that are not empty, cut at the first
equals sign, with blanks for plus signs and escapes undone. -/
def byteParameters (u : Url) : List RawParameter :=
  match u.query with
  | none => []
  | some q => (Form.rawParameters q).map fun (k, v) => ⟨Form.decodeBytes k, Form.decodeBytes v⟩

/-- The parameters of a URL are the texts that are made of the bytes. -/
theorem parameters_eq (u : Url) : u.parameters = u.byteParameters.map RawParameter.decoded := by
  rw [parameters, byteParameters]
  cases u.query with
  | none => rfl
  | some q =>
    rw [List.map_map]
    rfl

/-- The parameters of the sorted URL are the bytes of the sorted texts. -/
theorem byteParameters_sorted (u : Url) :
    u.sorted.byteParameters = (sortedByKey u.parameters).map RawParameter.ofParameter := by
  by_cases h : u.parameters = []
  · rw [sorted_of_nil h, sortedByKey_eq_nil_iff.mpr h]
    rfl
  · rw [sorted_of_ne_nil h, byteParameters]
    simp only [Form.rawParameters_encodeParameters, List.map_map]
    refine List.map_congr_left fun p _ => ?_
    simp only [Function.comp_apply, Form.decodeBytes_encodeText]
    rfl

/-- Up to their order, the parameters of the sorted URL are those of the URL, each read as a text
and written again. -/
theorem byteParameters_sorted_perm (u : Url) : u.sorted.byteParameters.Perm
    (u.byteParameters.map fun p => .ofParameter p.decoded) := by
  rw [byteParameters_sorted]
  refine ((sortedByKey_perm u.parameters).map _).trans ?_
  rw [parameters_eq, List.map_map]
  rfl

/-- Sorting keeps the bytes exactly if all of them are UTF-8. -/
theorem byteParameters_sorted_perm_iff (u : Url) :
    u.sorted.byteParameters.Perm u.byteParameters ↔ ∀ p ∈ u.byteParameters, p.IsText := by
  constructor
  · intro kept p mem
    have found := kept.mem_iff.mpr mem
    rw [byteParameters_sorted] at found
    obtain ⟨q, -, rfl⟩ := List.mem_map.mp found
    exact RawParameter.isText_ofParameter q
  · intro texts
    refine (byteParameters_sorted_perm u).trans ?_
    rw [List.map_congr_left fun p mem => RawParameter.ofParameter_decoded_iff.mpr (texts p mem),
      List.map_id']

end Url

namespace Query

/-- **What becomes of the bytes of parameters.** The target of an endpoint and a path has the
parameters of their URL up to order, each key and each value read as a text and written again. So
none of their bytes is altered exactly if all of them are UTF-8. -/
theorem targetOf_bytes [Idna] {endpoint path : String} {target : Url}
    (ok : targetOf endpoint path = .ok target) :
    ∃ url, Url.read (endpoint ++ path).toList = .ok url ∧
      target.byteParameters.Perm (url.byteParameters.map fun p => .ofParameter p.decoded) ∧
      (target.byteParameters.Perm url.byteParameters ↔ ∀ p ∈ url.byteParameters, p.IsText) := by
  obtain ⟨url, read, rfl⟩ := targetOf_eq_ok_iff.mp ok
  exact ⟨url, read, url.byteParameters_sorted_perm, url.byteParameters_sorted_perm_iff⟩

open LiteralDomain in
/-- Escapes of a separator and of a character of two bytes, a plus sign and an empty piece leave
the bytes as they are. -/
theorem targetOf_bytes_of_escapes : ∃ url target : Url,
    Url.read ("http://h" ++ "/p?b=%C3%A9&&a=+%26").toList = .ok url ∧
      targetOf "http://h" "/p?b=%C3%A9&&a=+%26" = .ok target ∧
      url.byteParameters = [⟨[0x62], [0xC3, 0xA9]⟩, ⟨[0x61], [0x20, 0x26]⟩] ∧
      target.byteParameters.Perm url.byteParameters := by
  let parsed : Url := ⟨"http".toList, some ⟨[], [], some (.name ['h']), none⟩, .segments [['p']],
    some "b=%C3%A9&&a=+%26".toList, none⟩
  have read : Url.read ("http://h" ++ "/p?b=%C3%A9&&a=+%26").toList = .ok parsed := by
    decide +kernel
  have bytes : parsed.byteParameters = [⟨[0x62], [0xC3, 0xA9]⟩, ⟨[0x61], [0x20, 0x26]⟩] := by
    decide +kernel
  have ok := targetOf_eq_ok_iff.mpr ⟨parsed, read, rfl⟩
  obtain ⟨url, same, -, kept⟩ := targetOf_bytes ok
  obtain rfl := Except.ok.inj (read.symm.trans same)
  refine ⟨_, _, read, ok, bytes, kept.mpr ?_⟩
  rw [bytes]
  decide

open LiteralDomain in
/-- A value that is no text is altered: an escape of one byte becomes those of the replacement
character. -/
theorem not_bytes_of_escape : ¬ ∀ (endpoint path : String) (url target : Url),
    Url.read (endpoint ++ path).toList = .ok url → targetOf endpoint path = .ok target →
      target.scheme = "http".toList → target.byteParameters.Perm url.byteParameters := by
  intro claim
  have read : Url.read ("http://localhost" ++ "/?a=%FF").toList =
      .ok ⟨"http".toList, some ⟨[], [], some (.name "localhost".toList), none⟩, .segments [[]],
        some "a=%FF".toList, none⟩ := by decide +kernel
  have kept := claim _ _ _ _ read (targetOf_eq_ok_iff.mpr ⟨_, read, rfl⟩)
    (Url.scheme_sorted _)
  have texts := (Url.byteParameters_sorted_perm_iff _).mp kept ⟨[0x61], [0xFF]⟩ (by decide +kernel)
  exact absurd texts (by decide +kernel)

end Query

end MetricsHarness
