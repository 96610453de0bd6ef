import MetricsHarness.Proofs.Comparison
import MetricsHarness.Proofs.SpelledSeries

/-!
# What a body of series is told

A body is decoded as a whole or not at all, and only then compared. Which bodies decode, and into
which series, is said by the grammar of documents (`Json.Decodes`). Three outcomes exclude each
other (`judge_series_decides`): a body that decodes to nothing is told once, and so is a wrong
number of series; otherwise there is one failure for each position where the series differ, from the
first position to the last. Expected digests play no part.

There is no half-read series. One value among the points of one series that is no sample is enough
to refuse the body (`Json.not_decodes_of_noSample`): a document says one thing only, so no other
reading could have passed it.
-/

namespace MetricsHarness

/-! ## Positions -/

section Positions

variable {α β γ : Type} {f : α → β → List γ}

/-- The positions where two lists are told about, with what is told there. -/
structure ToldAt (f : α → β → List γ) (as : List α) (bs : List β) (places : List Nat)
    (told : List γ) : Prop where
  ascending : places.Pairwise (· < ·)
  place {i : Nat} : i ∈ places ↔ ∃ a b, as[i]? = some a ∧ bs[i]? = some b ∧ f a b ≠ []
  each : List.Forall₂ (fun i c => ∃ a b, as[i]? = some a ∧ bs[i]? = some b ∧ f a b = [c])
    places told

namespace ToldAt

variable {as : List α} {bs : List β} {places : List Nat} {told : List γ} {a : α} {b : β}

/-- Positions move by one behind a first pair. -/
theorem each_shift (at' : ToldAt f as bs places told) (a : α) (b : β) :
    List.Forall₂ (fun i c => ∃ x y, (a :: as)[i]? = some x ∧ (b :: bs)[i]? = some y ∧ f x y = [c])
      (places.map (· + 1)) told :=
  List.forall₂_map_left_iff.mpr at'.each

theorem ascending_shift (at' : ToldAt f as bs places told) :
    (places.map (· + 1)).Pairwise (· < ·) :=
  List.pairwise_map.mpr (at'.ascending.imp Nat.succ_lt_succ)

theorem succ_mem_shift (at' : ToldAt f as bs places told) (i : Nat) :
    i + 1 ∈ places.map (· + 1) ↔
      ∃ x y, (a :: as)[i + 1]? = some x ∧ (b :: bs)[i + 1]? = some y ∧ f x y ≠ [] := by
  simp only [List.mem_map, Nat.add_right_cancel_iff, exists_eq_right, List.getElem?_cons_succ]
  exact at'.place

/-- Nothing is told of a first pair. -/
theorem skip (at' : ToldAt f as bs places told) (silent : f a b = []) :
    ToldAt f (a :: as) (b :: bs) (places.map (· + 1)) told where
  ascending := at'.ascending_shift
  place {i} := by
    cases i with
    | zero => simp [silent]
    | succ i => exact at'.succ_mem_shift i
  each := at'.each_shift a b

/-- Something is told of a first pair. -/
theorem tell (at' : ToldAt f as bs places told) {c : γ} (spoken : f a b = [c]) :
    ToldAt f (a :: as) (b :: bs) (0 :: places.map (· + 1)) (c :: told) where
  ascending := List.pairwise_cons.mpr ⟨by simp, at'.ascending_shift⟩
  place {i} := by
    cases i with
    | zero => simp [spoken]
    | succ i =>
      rw [List.mem_cons, or_iff_right (Nat.succ_ne_zero i)]
      exact at'.succ_mem_shift i
  each := .cons ⟨a, b, rfl, rfl, spoken⟩ (at'.each_shift a b)

end ToldAt

/-- Where at most one thing is told of a pair, what is told of two lists is told at positions. -/
theorem exists_toldAt (single : ∀ a b, f a b = [] ∨ ∃ c, f a b = [c]) (as : List α) (bs : List β) :
    ∃ places, ToldAt f as bs places ((as.zip bs).flatMap fun p => f p.1 p.2) := by
  induction as generalizing bs with
  | nil => exact ⟨[], .nil, by simp, .nil⟩
  | cons a as ih =>
    cases bs with
    | nil => exact ⟨[], .nil, by simp, .nil⟩
    | cons b bs =>
      obtain ⟨places, at'⟩ := ih bs
      rcases single a b with silent | ⟨c, spoken⟩
      · refine ⟨places.map (· + 1), ?_⟩
        rw [List.zip_cons_cons, List.flatMap_cons, silent, List.nil_append]
        exact at'.skip silent
      · refine ⟨0 :: places.map (· + 1), ?_⟩
        rw [List.zip_cons_cons, List.flatMap_cons, spoken, List.singleton_append]
        exact at'.tell spoken

end Positions

/-! ## Decoding -/

namespace Json

open Grammar

/-- A body decodes to nothing if something among the points of one of its series is no sample. -/
theorem not_decodes_of_noSample {body : Bytes} {items : List Value} {v w : Value}
    (document : Document body (.list items)) (series : v ∈ items) (point : HasPoint v w)
    (noSample : ∀ p, ¬IsSample w p) : ¬∃ observed, Decodes body observed := by
  rintro ⟨observed, items', document', pairs⟩
  cases document.unique document'
  obtain ⟨_, -, means⟩ := exists_of_forall₂ pairs series
  obtain ⟨p, -, sample⟩ := means.exists_sample point
  exact noSample p sample

/-- The decoder has a fault where a body decodes to nothing. -/
theorem exists_fault_of_not_decodes {body : Bytes} (nothing : ¬∃ observed, Decodes body observed) :
    ∃ fault, seriesOfDocument body = .error fault := by
  cases decoded : seriesOfDocument body with
  | error fault => exact ⟨fault, rfl⟩
  | ok observed => exact absurd ⟨observed, seriesOfDocument_eq_ok_iff.mp decoded⟩ nothing

end Json

namespace Payload

open Json Grammar

/-- A body of series is judged by what it decodes to. -/
theorem judge_eq (body : Bytes) (expected : ExpectedResult) :
    judge "application/json" body expected = judgeSeries body expected.series := by
  have kind : kind? "application/json" = some .series := by decide
  rw [judge, kind]

/-- A body that decodes to nothing is told once. -/
theorem judge_of_not_decodes {body : Bytes} (nothing : ¬∃ observed, Decodes body observed)
    (expected : ExpectedResult) :
    ∃ fault, judge "application/json" body expected = [.unreadable fault] := by
  obtain ⟨fault, fails⟩ := exists_fault_of_not_decodes nothing
  refine ⟨fault, ?_⟩
  rw [judge_eq, judgeSeries, fails]

/-- A wrong number of series is told once. -/
theorem judge_of_count {body : Bytes} {observed : List Series} {expected : ExpectedResult}
    (decodes : Decodes body observed) (different : observed.length ≠ expected.series.length) :
    judge "application/json" body expected =
      [.count observed.length expected.series.length] := by
  rw [judge_eq, judgeSeries, seriesOfDocument_eq_ok_iff.mpr decodes]
  exact if_pos different

/-- As many series as expected are told position by position. -/
theorem exists_toldAt_judge {body : Bytes} {observed : List Series} {expected : ExpectedResult}
    (decodes : Decodes body observed) (count : observed.length = expected.series.length) :
    ∃ places, ToldAt (fun got want => (Series.compare got want).map .series) observed
      expected.series places (judge "application/json" body expected) := by
  have single (got want : Series) : (Series.compare got want).map PayloadFailure.series = [] ∨
      ∃ failure, (Series.compare got want).map PayloadFailure.series = [failure] := by
    rcases Series.mismatch?_cases got want with ⟨none, -⟩ | ⟨m, some, -⟩
    · exact .inl (by rw [Series.compare, none]; rfl)
    · exact .inr ⟨.series m, by rw [Series.compare, some]; rfl⟩
  have judged : judge "application/json" body expected = (observed.zip expected.series).flatMap
      fun p => (Series.compare p.1 p.2).map .series := by
    rw [judge_eq, judgeSeries, seriesOfDocument_eq_ok_iff.mpr decodes]
    exact if_neg (not_not_intro count)
  rw [judged]
  exact exists_toldAt single observed expected.series

/-! ## Texts -/

theorem message_unreadable (fault : Json.Fault) :
    (PayloadFailure.unreadable fault).message = "failed to parse response: " ++ fault.message :=
  rfl

theorem message_count (got expected : Nat) :
    (PayloadFailure.count got expected).message = "unexpected amount of results, got " ++
      Text.numeral got ++ ", expected " ++ Text.numeral expected :=
  rfl

theorem message_series (m : Mismatch) :
    (PayloadFailure.series m).message = "metrics are not equal: " ++ m.message :=
  rfl

/-! ## Judging -/

/-- **A body of series is told in one of three ways.** What a body decodes to is one list of series,
if it decodes at all; it does not if among the points of one of its series there is something that
is no sample. A body that decodes to nothing has one failure, which tells that it cannot be parsed.
One that decodes to another number of series than expected has one failure, which tells both
numbers. Otherwise the failures are told in ascending positions, one for each position where the
series differ, with their mismatch. Expected digests play no part. -/
theorem judge_series_decides (body : Bytes) (expected : ExpectedResult) :
    (∀ observed observed', Decodes body observed → Decodes body observed' →
      observed = observed') ∧
    (∀ items v w, Document body (.list items) → v ∈ items → HasPoint v w →
      (∀ p, ¬IsSample w p) → ¬∃ observed, Decodes body observed) ∧
    ((¬∃ observed, Decodes body observed) →
      ∃ fault, judge "application/json" body expected = [.unreadable fault] ∧
        (judge "application/json" body expected).map PayloadFailure.message =
          ["failed to parse response: " ++ fault.message]) ∧
    (∀ observed, Decodes body observed → observed.length ≠ expected.series.length →
      judge "application/json" body expected =
        [.count observed.length expected.series.length] ∧
      (judge "application/json" body expected).map PayloadFailure.message =
        ["unexpected amount of results, got " ++ Text.numeral observed.length ++ ", expected " ++
          Text.numeral expected.series.length]) ∧
    (∀ observed, Decodes body observed → observed.length = expected.series.length →
      ∃ places : List Nat, places.Pairwise (· < ·) ∧
        (∀ i, i ∈ places ↔ ∃ got want, observed[i]? = some got ∧ expected.series[i]? = some want ∧
          Series.compare got want ≠ []) ∧
        List.Forall₂ (fun i failure => ∃ got want m, observed[i]? = some got ∧
          expected.series[i]? = some want ∧ Series.compare got want = [m] ∧ failure = .series m ∧
          failure.message = "metrics are not equal: " ++ m.message)
          places (judge "application/json" body expected)) ∧
    ∀ digests, judge "application/json" body { expected with digests } =
      judge "application/json" body expected := by
  refine ⟨fun _ _ => Decodes.unique, fun _ _ _ => not_decodes_of_noSample, ?_, ?_, ?_, ?_⟩
  · intro nothing
    obtain ⟨fault, told⟩ := judge_of_not_decodes nothing expected
    refine ⟨fault, told, ?_⟩
    rw [told, List.map_singleton, message_unreadable]
  · intro observed decodes different
    have told := judge_of_count decodes different
    refine ⟨told, ?_⟩
    rw [told, List.map_singleton, message_count]
  · intro observed decodes count
    obtain ⟨places, ascending, place, each⟩ := exists_toldAt_judge decodes count
    refine ⟨places, ascending, fun i => ?_, each.imp ?_⟩
    · rw [place]
      simp only [ne_eq, List.map_eq_nil_iff]
    · rintro i failure ⟨got, want, first, second, told⟩
      obtain ⟨m, mismatch, rfl⟩ := List.map_eq_singleton_iff.mp told
      exact ⟨got, want, m, first, second, mismatch, rfl, message_series m⟩
  · intro digests
    rw [judge_eq, judge_eq]

/-- A series of two points, one without points, and one as a list. -/
def threeSeries : Bytes := Text.Utf8.encodeString
  ("[\x7b\"target\":\"a\",\"datapoints\":[[1,60],[2,120]]\x7d," ++
    "\x7b\"target\":\"b\"\x7d,[\"c\",[]]]")

/-- The second point ten seconds after the first, a second series alike, and another target last. -/
def twoOthers : ExpectedResult :=
  ⟨[], [⟨"a", [⟨.ofBits 0x3FF0000000000000, 60⟩, ⟨.ofBits 0x4000000000000000, 70⟩], .empty⟩,
    ⟨"b", [], .empty⟩, ⟨"d", [], .empty⟩]⟩

/-- A point without a timestamp. -/
def halfPoint : Bytes :=
  Text.Utf8.encodeString "[\x7b\"target\":\"a\",\"datapoints\":[[1]]\x7d]"

/-- Series that differ first and last are told at these two positions. Without the last of the
expected series the numbers are told, and a half point makes a body that is not decoded. -/
theorem judge_series_decides_three :
    (∃ (observed : List Series) (places : List Nat), Decodes threeSeries observed ∧
      places.Pairwise (· < ·) ∧ 0 ∈ places ∧ 1 ∉ places ∧ 2 ∈ places ∧
      (judge "application/json" threeSeries twoOthers).map PayloadFailure.message =
        ["metrics are not equal: series 'a' has unexpected step, got 60, expected 10",
          "metrics are not equal: target mismatch, got 'c', expected 'd'"]) ∧
    (judge "application/json" threeSeries ⟨[], twoOthers.series.dropLast⟩).map
      PayloadFailure.message = ["unexpected amount of results, got 3, expected 2"] ∧
    ∃ fault, (judge "application/json" halfPoint twoOthers).map PayloadFailure.message =
      ["failed to parse response: " ++ Json.Fault.message fault] := by
  have decodes : Decodes threeSeries
      [⟨"a", [⟨.ofBits 0x3FF0000000000000, 60⟩, ⟨.ofBits 0x4000000000000000, 120⟩], .empty⟩,
        ⟨"b", [], .empty⟩, ⟨"c", [], .empty⟩] :=
    seriesOfDocument_eq_ok_iff.mp (by decide +kernel)
  have half : ¬∃ observed, Decodes halfPoint observed := by
    rintro ⟨observed, decodes⟩
    have decoded : (Json.seriesOfDocument halfPoint).toOption = none := by decide +kernel
    rw [seriesOfDocument_eq_ok_iff.mpr decodes] at decoded
    nomatch decoded
  obtain ⟨-, -, -, -, differ, -⟩ := judge_series_decides threeSeries twoOthers
  obtain ⟨-, -, -, count, -⟩ := judge_series_decides threeSeries ⟨[], twoOthers.series.dropLast⟩
  obtain ⟨-, -, unreadable, -⟩ := judge_series_decides halfPoint twoOthers
  obtain ⟨places, ascending, place, -⟩ := differ _ decodes rfl
  obtain ⟨fault, -, told⟩ := unreadable half
  refine ⟨⟨_, places, decodes, ascending, (place 0).mpr ⟨_, _, rfl, rfl, ?_⟩, ?_,
    (place 2).mpr ⟨_, _, rfl, rfl, ?_⟩, ?_⟩, ?_, fault, told⟩
  · decide
  · rintro mem
    obtain ⟨got, want, first, second, differ⟩ := (place 1).mp mem
    obtain rfl := Option.some.inj first
    obtain rfl := Option.some.inj second
    exact absurd differ (by decide)
  · decide
  · decide +kernel
  · exact (count _ decodes (by decide)).2

end Payload

end MetricsHarness
