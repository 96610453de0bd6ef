import MetricsHarness.Payload.Validate
import MetricsHarness.Proofs.Base64
import MetricsHarness.Proofs.Numerals
import MetricsHarness.Proofs.Pieces

/-!
# What an image is told

An image passes just if its digest is among the expected ones, letter case aside
(`judge_image_decides`). So nothing matters of the expected digests but which there are: neither
their order nor their number nor their letter case, and no expected series.

An image that does not pass is told once, with its digest and its whole body in Base64. The body is
the last thing between quotes and no Base64 digit is a quote, so it can be read off the message:
different bodies that do not pass are told differently, whatever digests were expected.
-/

namespace MetricsHarness

open Text

/-! ## Hexadecimal digests -/

namespace Text.Hex

/-- The sixteen digits of a digest, letters small. -/
def alphabet : List Char := "0123456789abcdef".toList

/-- Digits are of the alphabet and count from zero on. -/
theorem digit_spec : ∀ n < 16, digit n ∈ alphabet ∧ digitValue? (digit n) = some n := by decide

/-- An encoded body consists of digits. -/
theorem mem_alphabet_of_mem_encode {bytes : Bytes} {c : Char} (mem : c ∈ encode bytes) :
    c ∈ alphabet := by
  obtain ⟨b, -, inside⟩ := List.mem_flatMap.mp mem
  have bound : b.toNat < 256 := b.toNat_lt
  rcases List.mem_pair.mp inside with rfl | rfl
  · exact (digit_spec _ (by omega)).1
  · exact (digit_spec _ (by omega)).1

/-- Two digits stand for each byte. -/
theorem length_encode (bytes : Bytes) : (encode bytes).length = 2 * bytes.length := by
  simp [encode, List.length_flatMap, Nat.mul_comm]

/-- An encoded body is decoded. -/
theorem decode?_encode (bytes : Bytes) : decode? (encode bytes) = some bytes := by
  induction bytes with
  | nil => rfl
  | cons b rest ih =>
    have bound : b.toNat < 256 := b.toNat_lt
    have back : UInt8.ofNat (16 * (b.toNat / 16) + b.toNat % 16) = b :=
      Utf8.ofNat_eq_of_toNat (by omega)
    have shape : encode (b :: rest) =
        digit (b.toNat / 16) :: digit (b.toNat % 16) :: encode rest := rfl
    rw [shape, decode?, (digit_spec _ (by omega)).2, (digit_spec _ (by omega)).2, ih]
    dsimp only
    rw [back]

end Text.Hex

namespace Sha256

/-- A text is a digest in sixty-four small hexadecimal digits. -/
structure Spells (text : String) (digest : Bytes) : Prop where
  count : text.length = 64
  small {c : Char} : c ∈ text.toList → c ∈ Hex.alphabet
  value : Hex.decode? text.toList = some digest

/-- The digest of a body has thirty-two bytes, each of two digits. -/
theorem spells_hexDigest (body : Bytes) : Spells (hexDigest body) (digest body) where
  count := by
    have bytes : (digest body).length = 32 := rfl
    rw [hexDigest, String.length_ofList, Hex.length_encode, bytes]
  small mem := by
    rw [hexDigest, String.toList_ofList] at mem
    exact Hex.mem_alphabet_of_mem_encode mem
  value := by rw [hexDigest, String.toList_ofList, Hex.decode?_encode]

example : hexDigest [0x61, 0x62, 0x63] =
    "ba7816bf8f01cfea414140de5dae2223b00361a396177a9cb410ff61f20015ad" := by
  decide +kernel

end Sha256

/-! ## Letter case -/

/-- A capital letter of ASCII and its small letter. -/
def IsCapitalOf (capital small : Char) : Prop :=
  65 ≤ capital.toNat ∧ capital.toNat ≤ 90 ∧ small.toNat = capital.toNat + 32

/-- Lower case moves the capital letters only. -/
theorem toNat_toLower (c : Char) :
    c.toLower.toNat = if 65 ≤ c.toNat ∧ c.toNat ≤ 90 then c.toNat + 32 else c.toNat := by
  split_ifs with capital
  · exact forall_capital (p := fun c => c.toLower.toNat = c.toNat + 32) (by decide) capital
  · have same : c.toLower = c := dif_neg capital
    rw [same]

/-- Characters that are the same, or one letter in two cases. -/
def SameButCase (c d : Char) : Prop := c = d ∨ IsCapitalOf c d ∨ IsCapitalOf d c

/-- Letters are equal in lower case if they are the same but for their case. -/
theorem toLower_eq_iff {c d : Char} : c.toLower = d.toLower ↔ SameButCase c d := by
  rw [← Char.toNat_inj, toNat_toLower, toNat_toLower, SameButCase, ← Char.toNat_inj]
  unfold IsCapitalOf
  split_ifs <;> omega

/-- Texts that are the same up to the case of ASCII letters. -/
def Recased (s t : String) : Prop := List.Forall₂ SameButCase s.toList t.toList

/-- Texts are the same but for case if they are equal in lower case. -/
theorem recased_iff {s t : String} :
    Recased s t ↔ s.toList.map Char.toLower = t.toList.map Char.toLower := by
  rw [← List.forall₂_eq_eq_eq, List.forall₂_map_left_iff, List.forall₂_map_right_iff]
  constructor
  · exact List.Forall₂.imp fun _ _ => toLower_eq_iff.mpr
  · exact List.Forall₂.imp fun _ _ => toLower_eq_iff.mp

/-- The same candidates up to letter case, in any order and any number. -/
structure SameCandidates (these those : List String) : Prop where
  left : ∀ s ∈ these, ∃ t ∈ those, Recased s t
  right : ∀ t ∈ those, ∃ s ∈ these, Recased t s

namespace SameCandidates

variable {these those : List String}

theorem symm (same : SameCandidates these those) : SameCandidates those these :=
  ⟨same.right, same.left⟩

/-- Candidates can be exchanged and repeated. -/
theorem of_mem_iff (same : ∀ s, s ∈ these ↔ s ∈ those) : SameCandidates these those where
  left s mem := ⟨s, (same s).mp mem, recased_iff.mpr rfl⟩
  right s mem := ⟨s, (same s).mpr mem, recased_iff.mpr rfl⟩

/-- Candidates can be written in other letters, each in its place. -/
theorem of_recased (recased : List.Forall₂ Recased these those) : SameCandidates these those := by
  induction recased with
  | nil => exact ⟨List.forall_mem_nil _, List.forall_mem_nil _⟩
  | @cons s t _ _ head _ ih =>
    refine ⟨List.forall_mem_cons.mpr ⟨⟨t, List.mem_cons_self, head⟩, fun s mem => ?_⟩,
      List.forall_mem_cons.mpr ⟨⟨s, List.mem_cons_self, ?_⟩, fun t mem => ?_⟩⟩
    · obtain ⟨t, found, recased⟩ := ih.left s mem
      exact ⟨t, List.mem_cons_of_mem _ found, recased⟩
    · exact recased_iff.mpr (recased_iff.mp head).symm
    · obtain ⟨s, found, recased⟩ := ih.right t mem
      exact ⟨s, List.mem_cons_of_mem _ found, recased⟩

end SameCandidates

namespace Payload

/-! ## The digest of a body -/

/-- A digest is among the candidates, letter case aside. -/
def Listed (digests : List String) (body : Bytes) : Prop :=
  ∃ candidate ∈ digests, Recased candidate (Sha256.hexDigest body)

/-- A digest is found among candidates exactly if it is listed, case aside. -/
theorem listed_iff {digests : List String} {body : Bytes} :
    digests.any (sameLetters · (Sha256.hexDigest body)) = true ↔ Listed digests body := by
  simp [Listed, sameLetters, recased_iff]

/-- What is listed is listed among the same candidates. -/
theorem Listed.transfer {these those : List String} {body : Bytes} (listed : Listed these body)
    (same : SameCandidates these those) : Listed those body := by
  obtain ⟨s, mem, recased⟩ := listed
  obtain ⟨t, found, other⟩ := same.left s mem
  rw [recased_iff] at recased other
  exact ⟨t, found, recased_iff.mpr (other.symm.trans recased)⟩

/-- An image is judged by the candidates. -/
theorem judge_image {type : String} (image : type = "image/png" ∨ type = "image/svg+xml")
    (body : Bytes) (expected : ExpectedResult) :
    judge type body expected = judgeDigest body expected.digests := by
  have kind : kind? type = some .image := if_pos image
  rw [judge, kind]

/-- Nothing is objected exactly if the digest of the body is listed. -/
theorem judgeDigest_eq_nil_iff {body : Bytes} {digests : List String} :
    judgeDigest body digests = [] ↔ Listed digests body := by
  rw [← listed_iff, judgeDigest]
  split_ifs with listed
  · simp [listed]
  · simp [listed]

/-- A digest that is not listed is objected with all candidates and the body. -/
theorem judgeDigest_of_not_listed {body : Bytes} {digests : List String}
    (missing : ¬Listed digests body) :
    judgeDigest body digests = [.digest (Sha256.hexDigest body) digests body] := by
  rw [← listed_iff] at missing
  exact if_neg missing

/-! ## What is told -/

/-- The objection tells the digest, the candidates and the encoded body. -/
theorem message_digest (got : String) (digests : List String) (body : Bytes) :
    (PayloadFailure.digest got digests body).message = "sha256 mismatch, got '" ++ got ++
      "', expected " ++ quotedList digests ++ ", encoded body: '" ++
        String.ofList (Base64.encode body) ++ "'" := rfl

/-- The text between the last two quotes is known from the whole. -/
theorem lastQuoted_inj {front front' text text' : List Char} (free : '\x27' ∉ text)
    (free' : '\x27' ∉ text')
    (same : front ++ '\x27' :: (text ++ ['\x27']) = front' ++ '\x27' :: (text' ++ ['\x27'])) :
    text = text' := by
  have back := congrArg List.reverse same
  simp only [List.reverse_append, List.reverse_cons, List.reverse_nil, List.append_assoc,
    List.nil_append, List.cons_append, List.cons.injEq, true_and] at back
  obtain ⟨last, -⟩ := append_cons_inj (by simpa using free) (by simpa using free') back
  exact List.reverse_injective last

/-- The body is known from the message. -/
theorem body_of_message {got got' : String} {digests digests' : List String} {body body' : Bytes}
    (same : (PayloadFailure.digest got digests body).message =
      (PayloadFailure.digest got' digests' body').message) : body = body' := by
  have standard := Base64.isStandard_encode body
  have standard' := Base64.isStandard_encode body'
  -- The last text in front of the Base64 ends with the quote that opens it.
  have front (got : String) (digests : List String) (body : Bytes) :
      (PayloadFailure.digest got digests body).message.toList =
        ("sha256 mismatch, got '" ++ got ++ "', expected " ++ quotedList digests ++
          ", encoded body: ").toList ++ '\x27' :: (Base64.encode body ++ ['\x27']) := by
    simp [message_digest]
  have texts := congrArg String.toList same
  rw [front, front] at texts
  rw [← lastQuoted_inj standard.quote_notMem standard'.quote_notMem texts] at standard'
  exact standard.body_unique standard'

/-- **An image is judged by its digest alone.** Under both content types of images no failure is
told just if some candidate is the digest of the body in sixty-four small hexadecimal digits, up to
the case of ASCII letters. So the same candidates in another order or number, or each in other
letters, pass the same bodies, and expected series do not count. Otherwise there is one failure, and
its text holds the digest and, between the last two quotes, the standard Base64 of the body, which
is decoded to the body. Hence two different bodies are never told alike, whatever is expected. -/
theorem judge_image_decides {type : String} (image : type = "image/png" ∨ type = "image/svg+xml")
    (body : Bytes) (expected : ExpectedResult) :
    Sha256.Spells (Sha256.hexDigest body) (Sha256.digest body) ∧
    (judge type body expected = [] ↔
      ∃ candidate ∈ expected.digests, Recased candidate (Sha256.hexDigest body)) ∧
    (∀ other : ExpectedResult, (∀ s, s ∈ expected.digests ↔ s ∈ other.digests) →
      (judge type body other = [] ↔ judge type body expected = [])) ∧
    (∀ other : ExpectedResult, List.Forall₂ Recased expected.digests other.digests →
      (judge type body other = [] ↔ judge type body expected = [])) ∧
    (∀ series, judge type body { expected with series } = judge type body expected) ∧
    (judge type body expected ≠ [] → ∃ failure text, judge type body expected = [failure] ∧
      failure.message = "sha256 mismatch, got '" ++ Sha256.hexDigest body ++ "', expected " ++
        quotedList expected.digests ++ ", encoded body: '" ++ String.ofList text ++ "'" ∧
      Base64.IsStandard text body ∧ Base64.decode? text = some body) ∧
    ∀ type' body' expected', type' = "image/png" ∨ type' = "image/svg+xml" → body' ≠ body →
      judge type body expected ≠ [] →
      (judge type' body' expected').map PayloadFailure.message ≠
        (judge type body expected).map PayloadFailure.message := by
  have rejects {digests : List String} (fails : judgeDigest body digests ≠ []) :
      judgeDigest body digests = [.digest (Sha256.hexDigest body) digests body] :=
    judgeDigest_of_not_listed (judgeDigest_eq_nil_iff.not.mp fails)
  have unchanged {these those : List String} (same : SameCandidates these those) :
      judgeDigest body those = [] ↔ judgeDigest body these = [] := by
    rw [judgeDigest_eq_nil_iff, judgeDigest_eq_nil_iff]
    exact ⟨fun listed => listed.transfer same.symm, fun listed => listed.transfer same⟩
  simp only [judge_image image]
  refine ⟨Sha256.spells_hexDigest body, judgeDigest_eq_nil_iff, fun other same => ?_,
    fun other recased => ?_, fun _ => trivial, ?_, ?_⟩
  · exact unchanged (.of_mem_iff same)
  · exact unchanged (.of_recased recased)
  · intro fails
    exact ⟨_, Base64.encode body, rejects fails, message_digest _ _ _,
      Base64.isStandard_encode body, Base64.decode?_encode body⟩
  · intro type' body' expected' image' different fails same
    rw [judge_image image', rejects fails, List.map_singleton] at same
    obtain ⟨failure, judged, message⟩ := List.map_eq_singleton_iff.mp same
    have fails' : ¬Listed expected'.digests body' := fun listed => by
      rw [judgeDigest_eq_nil_iff.mpr listed] at judged
      cases judged
    rw [judgeDigest_of_not_listed fails'] at judged
    cases judged
    exact different (body_of_message message)

/-- Three bytes under their digest in capital letters, and under no digest; and 56 bytes, which fill
two blocks, under theirs, and under the digest of the three. -/
theorem judge_image_of_three :
    ("image/png" = "image/png" ∨ "image/png" = "image/svg+xml") ∧
      judge "image/png" [0x61, 0x62, 0x63]
        ⟨["", "BA7816BF8F01CFEA414140DE5DAE2223B00361A396177A9CB410FF61F20015AD"], []⟩ = [] ∧
      judge "image/png" [0x61, 0x62, 0x63] ⟨[], []⟩ ≠ [] ∧
      judge "image/png"
        (Utf8.encodeString "abcdbcdecdefdefgefghfghighijhijkijkljklmklmnlmnomnopnopq")
        ⟨["248d6a61d20638b8e5c026930c3e6039a33ce45964ff2167f6ecedd419db06c1"], []⟩ = [] ∧
      judge "image/png"
        (Utf8.encodeString "abcdbcdecdefdefgefghfghighijhijkijkljklmklmnlmnomnopnopq")
        ⟨["ba7816bf8f01cfea414140de5dae2223b00361a396177a9cb410ff61f20015ad"], []⟩ ≠ [] := by
  have image : "image/png" = "image/png" ∨ "image/png" = "image/svg+xml" := .inl rfl
  refine ⟨image, (judge_image_decides image _ _).2.1.mpr ?_, fun passes => ?_,
    (judge_image_decides image _ _).2.1.mpr ?_, fun passes => ?_⟩
  · refine ⟨_, List.mem_cons_of_mem _ List.mem_cons_self, ?_⟩
    rw [recased_iff]
    decide +kernel
  · obtain ⟨_, none, -⟩ := (judge_image_decides image _ _).2.1.mp passes
    cases none
  · refine ⟨_, List.mem_cons_self, ?_⟩
    rw [recased_iff]
    decide +kernel
  · obtain ⟨_, only, recased⟩ := (judge_image_decides image _ _).2.1.mp passes
    rw [List.mem_singleton.mp only, recased_iff] at recased
    revert recased
    decide +kernel

end Payload

end MetricsHarness
