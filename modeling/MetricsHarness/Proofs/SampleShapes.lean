import MetricsHarness.Proofs.Shapes

/-!
# Values that are samples

A sample stands in a document as a list of two scalars or as a bracketed text, and the rules for
samples say which sample that is (`IsSample`). What is read as a sample is one
(`accepts_readSample`); the elements of the list have a comma or the closing bracket behind them, so
what their numbers say is known.
-/

namespace MetricsHarness.Json

open Grammar

variable {s rest : Bytes}

/-- A value that can stand in a pair, and the element it is. -/
inductive IsScalar : Value → Scalar → Prop
  | null : IsScalar .null .absent
  | boolean (b : Bool) : IsScalar (.boolean b) (.ofBool b)
  | natural {token : Bytes} {n : Nat} (number : NumberSays token (.natural n)) :
    IsScalar (.number token) (.whole n)
  | negative {token : Bytes} {i : Int} (number : NumberSays token (.negative i)) :
    IsScalar (.number token) (.whole i)
  | real {token : Bytes} {x : Binary64} (number : NumberSays token (.real x)) :
    IsScalar (.number token) (.fraction x)
  | text (t : String) : IsScalar (.text (some t)) (.text t)

/-- A value that is a sample. -/
inductive IsSample : Value → Sample → Prop
  | pair {value timestamp : Value} {a b : Scalar} {p : Sample} (first : IsScalar value a)
    (second : IsScalar timestamp b) (reads : Sample.ofScalars [a, b] = .ok p) :
    IsSample (.list [value, timestamp]) p
  | text {t : String} {p : Sample} (reads : Sample.ofText t = .ok p) :
    IsSample (.text (some t)) p

theorem accepts_readScalar : AcceptsBefore readScalar fun a v => IsScalar v a := by
  intro s a rest h stops
  obtain ⟨_, _, _, failed, _⟩ | ⟨_, _, _, failed, _⟩ | ⟨p, v, taken, value, isPlain⟩ :=
    readAny_eq_ok h
  · nomatch failed
  · nomatch failed
  · refine ⟨v, value, ?_⟩
    cases isPlain with
    | null =>
      obtain rfl := Except.ok.inj taken
      exact .null
    | boolean b =>
      obtain rfl := Except.ok.inj taken
      exact .boolean b
    | @number n token stated =>
      cases n with
      | natural n =>
        obtain rfl := Except.ok.inj taken
        exact .natural (stated stops)
      | negative i =>
        obtain rfl := Except.ok.inj taken
        exact .negative (stated stops)
      | real x =>
        obtain rfl := Except.ok.inj taken
        exact .real (stated stops)
    | text t =>
      obtain rfl := Except.ok.inj taken
      exact .text t

/-- Only two elements are a sample. -/
theorem exists_pair_of_ofScalars {elements : List Scalar} {p : Sample}
    (reads : Sample.ofScalars elements = .ok p) : ∃ a b, elements = [a, b] := by
  rcases elements with _ | ⟨a, _ | ⟨b, _ | ⟨c, more⟩⟩⟩
  · simp [Sample.ofScalars, Sample.ofPair] at reads
  · simp [Sample.ofScalars, Sample.ofPair] at reads
  · exact ⟨a, b, rfl⟩
  · simp [Sample.ofScalars, Sample.ofPair] at reads

theorem accepts_readSample : Accepts readSample fun p v => IsSample v p := by
  intro s p rest h
  obtain ⟨tail, mid, blanks, read, closes⟩ | ⟨_, _, _, failed, _⟩ | ⟨q, v, taken, value, isPlain⟩ :=
    readAny_eq_ok h
  · obtain ⟨scalars, left, elements, accepted⟩ := bind_eq_ok read
    obtain ⟨reads, rfl⟩ : Sample.ofScalars scalars = .ok p ∧ left = mid := by
      unfold acceptSample at accepted
      cases reads : Sample.ofScalars scalars with
      | error f =>
        rw [reads] at accepted
        nomatch accepted
      | ok b =>
        rw [reads] at accepted
        obtain ⟨rfl, rfl⟩ := pure_eq_ok accepted
        exact ⟨rfl, rfl⟩
    obtain ⟨a, b, rfl⟩ := exists_pair_of_ofScalars reads
    obtain ⟨items, inside, pairs⟩ := readElements_eq_ok accepts_readScalar elements closes
    cases pairs with
    | cons first more =>
      cases more with
      | cons second none =>
        cases none
        exact ⟨_, spelled_of_blanks blanks (.list inside), .pair first second reads⟩
  · nomatch failed
  · refine ⟨v, value, ?_⟩
    cases isPlain with
    | null => nomatch taken
    | boolean => nomatch taken
    | number => nomatch taken
    | text t =>
      unfold plainSample at taken
      cases reads : Sample.ofText t with
      | error f =>
        simp only [reads] at taken
        nomatch taken
      | ok b =>
        simp only [reads] at taken
        obtain rfl := Except.ok.inj taken
        exact .text reads

end MetricsHarness.Json
