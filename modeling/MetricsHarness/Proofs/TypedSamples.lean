import MetricsHarness.Proofs.EmbeddedSamples
import MetricsHarness.Proofs.Nearest

/-!
# Which typed lists are samples

A document hands a pair over as a list of elements that know their kind. Every number among them is
written and read again before it is a value or a timestamp, and the pair is looked at only after the
last element. Here it is shown that nothing is lost on the way (`Sample.ofScalars_decides`): a
timestamp is exactly the integer that was given, a value has the pattern of the double that was
given or is the double nearest to the integer that was given.

A number with a fraction or an exponent may be written as digits only (`60.0` is written `60`), so
it is refused as a timestamp before it is written. That a boolean or an absent value is refused is
left to its text, which is no number.
-/

namespace MetricsHarness

open Text

/-- An element of a list as a document hands it over. -/
inductive Element where
  | signed (i : Int64)
  | unsigned (n : UInt64)
  | real (x : Binary64)
  | text (s : String)
  | boolean (b : Bool)
  | absent

namespace Element

/-- The element that a sample is read from. -/
def scalar : Element → Scalar
  | .signed i => .whole i.toInt
  | .unsigned n => .whole n.toNat
  | .real x => .fraction x
  | .text s => .text s
  | .boolean b => .ofBool b
  | .absent => .absent

/-- The text that an element is read from. -/
def chars (e : Element) : List Char := e.scalar.asText.toList

/-- An element that can be a value: any number, or the text of a double with blanks around it. -/
inductive IsValue : Element → Prop
  | signed (i : Int64) : IsValue (.signed i)
  | unsigned (n : UInt64) : IsValue (.unsigned n)
  | real (x : Binary64) : IsValue (.real x)
  | text {s : String} (literal : Binary64.IsLiteral (trim s.toList)) : IsValue (.text s)

/-- An element that can be a timestamp: an integer of 64 bits with a sign, as a number or as a text
with blanks around it. -/
inductive IsTimestamp : Element → Prop
  | signed (i : Int64) : IsTimestamp (.signed i)
  | unsigned {n : UInt64} (fits : n.toNat ≤ int64Greatest) : IsTimestamp (.unsigned n)
  | text {s : String} {t : IntegerText} (fits : t.Fits) (chars : t.chars = trim s.toList) :
    IsTimestamp (.text s)

/-- The value that an element is. A pattern of no number is one of no number. -/
inductive HasValue : Element → Binary64 → Prop
  | signed {i : Int64} {x : Binary64} (nearest : Binary64.IsNearest i.toInt x)
    (sign : x.negative = decide (i.toInt < 0)) : HasValue (.signed i) x
  | unsigned {n : UInt64} {x : Binary64} (nearest : Binary64.IsNearest n.toNat x)
    (sign : x.negative = false) : HasValue (.unsigned n) x
  | real {x : Binary64} (number : x.isNaN = false) : HasValue (.real x) x
  | none {x y : Binary64} (given : x.isNaN = true) (kept : y.isNaN = true) : HasValue (.real x) y
  | text {s : String} {x : Binary64} (read : Binary64.read (trim s.toList) = .ok x) :
    HasValue (.text s) x

/-- The timestamp that an element is. -/
inductive HasTimestamp : Element → Int64 → Prop
  | signed (i : Int64) : HasTimestamp (.signed i) i
  | unsigned {n : UInt64} {i : Int64} (same : (n.toNat : Int) = i.toInt) :
    HasTimestamp (.unsigned n) i
  | text {s : String} {t : IntegerText} {i : Int64} (chars : t.chars = trim s.toList)
    (same : t.value = i.toInt) : HasTimestamp (.text s) i

/-- A boolean or an absent value. -/
inductive IsWord : Element → Prop
  | boolean (b : Bool) : IsWord (.boolean b)
  | absent : IsWord .absent

/-! ## What elements are read as -/

theorem chars_signed (i : Int64) : (signed i).chars = signedNumeralChars i.toInt :=
  String.toList_ofList

theorem chars_unsigned (n : UInt64) : (unsigned n).chars = signedNumeralChars n.toNat :=
  String.toList_ofList

theorem chars_real (x : Binary64) : (real x).chars = Binary64.plain.chars x :=
  String.toList_ofList

/-- A written integer is read as itself, and only if it has 64 bits with its sign. -/
theorem readInt64_whole {i j : Int} : readInt64 (trim (signedNumeralChars i)) = .ok j ↔
    j = i ∧ -int64Least ≤ i ∧ i ≤ int64Greatest := by
  rw [trim_signedNumeralChars, readInt64_signedNumeralChars]
  split_ifs with small large
  · simp
    omega
  · simp
    omega
  · rw [Except.ok.injEq, eq_comm]
    exact ⟨fun same => ⟨same, by omega, by omega⟩, fun both => both.1⟩

/-- A signed integer lies between the two limits. -/
theorem limits (i : Int64) : -int64Least ≤ i.toInt ∧ i.toInt ≤ int64Greatest :=
  ⟨i.le_toInt, Int.le_of_lt_add_one i.toInt_lt⟩

/-- Whatever is no number with a fraction or an exponent is read as the timestamp that it is. -/
theorem hasTimestamp_of_read {e : Element} (other : ∀ x, e ≠ .real x) {i : Int64}
    (read : readInt64 (trim e.chars) = .ok i.toInt) : e.HasTimestamp i := by
  cases e with
  | signed j =>
    rw [chars_signed, readInt64_whole] at read
    obtain rfl := Int64.toInt_inj.mp read.1
    exact .signed i
  | unsigned n =>
    rw [chars_unsigned, readInt64_whole] at read
    exact .unsigned read.1.symm
  | real x => exact absurd rfl (other x)
  | text s =>
    obtain ⟨t, -, chars, same⟩ := IntegerText.readInt64_eq_ok_iff.mp read
    exact .text chars same
  | boolean b => cases b <;> cases read
  | absent => cases read

/-- What is no fraction is read as a timestamp exactly if it is one. -/
theorem exists_timestamp_iff {e : Element} (other : ∀ x, e ≠ .real x) :
    (∃ i, readInt64 (trim e.chars) = .ok i) ↔ e.IsTimestamp := by
  constructor
  · rintro ⟨i, read⟩
    cases e with
    | signed j => exact .signed j
    | unsigned n =>
      rw [chars_unsigned, readInt64_whole] at read
      exact .unsigned (Int.ofNat_le.mp read.2.2)
    | real x => exact absurd rfl (other x)
    | text s =>
      obtain ⟨t, fits, chars, -⟩ := IntegerText.readInt64_eq_ok_iff.mp read
      exact .text fits chars
    | boolean b => cases b <;> cases read
    | absent => cases read
  · intro stamped
    cases stamped with
    | signed j => exact ⟨j.toInt, by rw [chars_signed, readInt64_whole]; exact ⟨rfl, limits j⟩⟩
    | @unsigned n fits =>
      refine ⟨n.toNat, ?_⟩
      rw [chars_unsigned, readInt64_whole]
      exact ⟨rfl, by omega, Int.ofNat_le.mpr fits⟩
    | @text s t fits chars =>
      exact ⟨t.value, IntegerText.readInt64_eq_ok_iff.mpr ⟨t, fits, chars, rfl⟩⟩

/-- A written integer is read as the double nearest to it. -/
theorem read_whole (i : Int) : Binary64.read (trim (signedNumeralChars i)) =
    .ok (.ofDecimal (decide (i < 0)) i.natAbs 0) :=
  Sample.readValue_eq_ok_iff.mp (Sample.readValue_signedNumeralChars i)

/-- A written double is read back. -/
theorem read_real (x : Binary64) :
    Binary64.read (trim (real x).chars) = .ok (Sample.reread x) := by
  rw [chars_real]
  exact Sample.readValue_eq_ok_iff.mp (Sample.readValue_plain_chars x)

theorem negative_ofDecimal (negative : Bool) (digits : Nat) (exponent : Int) :
    (Binary64.ofDecimal negative digits exponent).negative = negative := by
  rw [Binary64.ofDecimal_eq]
  rfl

/-- Every element is read as the value that it is. -/
theorem hasValue_of_read {e : Element} {x : Binary64}
    (read : Binary64.read (trim e.chars) = .ok x) : e.HasValue x := by
  cases e with
  | signed i =>
    rw [chars_signed, read_whole] at read
    obtain rfl := Except.ok.inj read
    refine .signed (Binary64.isNearest_ofDecimal_whole i.le_toInt ?_) (negative_ofDecimal ..)
    have := i.toInt_lt
    omega
  | unsigned n =>
    rw [chars_unsigned, read_whole] at read
    obtain rfl := Except.ok.inj read
    have size := n.toNat_lt
    have nearest := Binary64.isNearest_ofDecimal_whole (i := n.toNat) (by omega) (by omega)
    refine .unsigned (by exact_mod_cast nearest) ?_
    rw [negative_ofDecimal]
    exact decide_eq_false (by omega)
  | real y =>
    rw [read_real] at read
    obtain rfl := Except.ok.inj read
    unfold Sample.reread
    split_ifs with none
    · exact .none none (by decide)
    · exact .real (by simpa using none)
  | text s => exact .text read
  | boolean b => cases b <;> cases read
  | absent => cases read

/-- A scalar is read as a value exactly if it is one. -/
theorem exists_value_iff {e : Element} :
    (∃ x, Binary64.read (trim e.chars) = .ok x) ↔ e.IsValue := by
  constructor
  · rintro ⟨x, read⟩
    cases e with
    | signed i => exact .signed i
    | unsigned n => exact .unsigned n
    | real y => exact .real y
    | text s => exact .text (Binary64.exists_read_iff.mp ⟨x, read⟩)
    | boolean b => cases b <;> cases read
    | absent => cases read
  · intro valued
    cases valued with
    | signed i => exact ⟨_, by rw [chars_signed, read_whole]⟩
    | unsigned n => exact ⟨_, by rw [chars_unsigned, read_whole]⟩
    | real y => exact ⟨_, read_real y⟩
    | text literal => exact Binary64.exists_read_iff.mpr literal

end Element

namespace Sample

open Element

variable {es : List Element} {first second : Element}

/-! ## Lists -/

/-- A list of another length than two is refused for its count. -/
theorem ofScalars_of_length (other : es.length ≠ 2) :
    ofScalars (es.map scalar) = .error (.pairCount es.length) := by
  rcases es with _ | ⟨a, _ | ⟨b, _ | ⟨c, more⟩⟩⟩
  · rfl
  · rfl
  · exact absurd rfl other
  · simp [ofScalars, ofPair]

/-- A pair whose second element has no fraction and no exponent is read from its two texts. -/
theorem ofScalars_pair (other : ∀ x, second ≠ .real x) :
    ofScalars [first.scalar, second.scalar] = ofTexts first.chars second.chars := by
  cases second with
  | real x => exact absurd rfl (other x)
  | signed i => rfl
  | unsigned n => rfl
  | text s => rfl
  | boolean b => rfl
  | absent => rfl

/-- The first rule that a list breaks, in the order: two elements, a second element without a
fraction or an exponent, a timestamp, a value. -/
inductive ListFault (es : List Element) : Fault → Prop
  | count (other : es.length ≠ 2) : ListFault es (.pairCount es.length)
  | fractional {first : Element} {x : Binary64} (pair : es = [first, .real x]) :
    ListFault es (.fractionalTimestamp x)
  | timestamp {first second : Element} {f : IntegerFault} (pair : es = [first, second])
    (other : ∀ x, second ≠ .real x) (refused : readInt64 (trim second.chars) = .error f) :
    ListFault es (.timestamp (String.ofList second.chars) f)
  | value {first second : Element} {f : Binary64.Fault} (pair : es = [first, second])
    (stamped : second.IsTimestamp) (refused : Binary64.read (trim first.chars) = .error f) :
    ListFault es (.value (String.ofList first.chars) f)

theorem ne_real_of_isTimestamp (stamped : second.IsTimestamp) (x : Binary64) :
    second ≠ .real x := by
  rintro rfl
  cases stamped

/-- A list is no pair, has a number with a fraction or an exponent as its timestamp, or is read from
two texts. -/
theorem list_cases (es : List Element) : es.length ≠ 2 ∨
    (∃ first x, es = [first, .real x]) ∨
    ∃ first second, es = [first, second] ∧ ∀ x, second ≠ .real x := by
  rcases es with _ | ⟨a, _ | ⟨b, _ | ⟨c, more⟩⟩⟩
  · exact .inl (by simp)
  · exact .inl (by simp)
  · by_cases real : ∃ x, b = .real x
    · obtain ⟨x, rfl⟩ := real
      exact .inr (.inl ⟨a, x, rfl⟩)
    · exact .inr (.inr ⟨a, b, rfl, fun x same => real ⟨x, same⟩⟩)
  · exact .inl (by simp)

/-- A list is refused for the fault that it has. -/
theorem ofScalars_of_listFault {f : Fault} (fault : ListFault es f) :
    ofScalars (es.map scalar) = .error f := by
  cases fault with
  | count other => exact ofScalars_of_length other
  | fractional pair =>
    subst pair
    rfl
  | timestamp pair other refused =>
    subst pair
    refine (ofScalars_pair other).trans (ofTexts_eq_error_iff.mpr ?_)
    exact .inl ⟨_, refused, rfl⟩
  | value pair stamped refused =>
    subst pair
    have other := ne_real_of_isTimestamp stamped
    obtain ⟨i, read⟩ := (exists_timestamp_iff other).mpr stamped
    refine (ofScalars_pair other).trans (ofTexts_eq_error_iff.mpr ?_)
    exact .inr ⟨i, _, read, refused, rfl⟩

/-- Every refusal is for a fault of the list. -/
theorem ofScalars_eq_error_iff {f : Fault} :
    ofScalars (es.map scalar) = .error f ↔ ListFault es f := by
  constructor
  · intro failed
    rcases list_cases es with other | ⟨a, x, rfl⟩ | ⟨a, b, rfl, other⟩
    · rw [ofScalars_of_length other] at failed
      obtain rfl := Except.error.inj failed
      exact .count other
    · obtain rfl := Except.error.inj failed
      exact .fractional rfl
    · have read := (ofScalars_pair other).symm.trans failed
      rcases ofTexts_eq_error_iff.mp read with ⟨g, refused, rfl⟩ | ⟨i, g, stamp, refused, rfl⟩
      · exact .timestamp rfl other refused
      · exact .value rfl ((exists_timestamp_iff other).mp ⟨i, stamp⟩) refused
  · exact ofScalars_of_listFault

/-- What is read is a pair of a value and a timestamp. -/
theorem exists_pair {s : Sample} (read : ofScalars (es.map scalar) = .ok s) :
    ∃ first second, es = [first, second] ∧ (∀ x, second ≠ .real x) ∧
      readInt64 (trim second.chars) = .ok s.timestamp.toInt ∧
      Binary64.read (trim first.chars) = .ok s.value := by
  rcases list_cases es with other | ⟨a, x, rfl⟩ | ⟨a, b, rfl, other⟩
  · rw [ofScalars_of_length other] at read
    cases read
  · cases read
  · have texts := (ofScalars_pair other).symm.trans read
    exact ⟨a, b, rfl, other, ofTexts_eq_ok_iff.mp texts⟩

/-- **Typed lists are read without a loss.** A list is read as a sample exactly if it has two
elements, the first can be a value and the second can be a timestamp; then the value and the
timestamp are those of the elements. A number with a fraction or an exponent is refused as a
timestamp before anything else is looked at, a boolean or an absent value is refused in either
place, and a list of another length is refused for its length. -/
theorem ofScalars_decides (es : List Element) :
    ((∃ s, ofScalars (es.map scalar) = .ok s) ↔
      ∃ first second, es = [first, second] ∧ first.IsValue ∧ second.IsTimestamp) ∧
    (∀ s, ofScalars (es.map scalar) = .ok s → ∃ first second, es = [first, second] ∧
      first.HasValue s.value ∧ second.HasTimestamp s.timestamp) ∧
    (∀ first x, es = [first, .real x] →
      ofScalars (es.map scalar) = .error (.fractionalTimestamp x)) ∧
    (∀ e ∈ es, e.IsWord → ∀ s, ofScalars (es.map scalar) ≠ .ok s) ∧
    (es.length ≠ 2 → ofScalars (es.map scalar) = .error (.pairCount es.length)) ∧
    ∀ f, ofScalars (es.map scalar) = .error f ↔ ListFault es f := by
  have decides : (∃ s, ofScalars (es.map scalar) = .ok s) ↔
      ∃ first second, es = [first, second] ∧ first.IsValue ∧ second.IsTimestamp := by
    constructor
    · rintro ⟨s, read⟩
      obtain ⟨a, b, pair, other, stamp, value⟩ := exists_pair read
      exact ⟨a, b, pair, exists_value_iff.mp ⟨_, value⟩, (exists_timestamp_iff other).mp ⟨_, stamp⟩⟩
    · rintro ⟨a, b, rfl, valued, stamped⟩
      have other := ne_real_of_isTimestamp stamped
      obtain ⟨x, value⟩ := exists_value_iff.mpr valued
      obtain ⟨i, stamp⟩ := (exists_timestamp_iff other).mpr stamped
      obtain ⟨s, read⟩ := exists_ofTexts value stamp
      exact ⟨s, (ofScalars_pair other).trans read⟩
  refine ⟨decides, ?_, ?_, ?_, ofScalars_of_length, fun f => ofScalars_eq_error_iff⟩
  · intro s read
    obtain ⟨a, b, pair, other, stamp, value⟩ := exists_pair read
    exact ⟨a, b, pair, hasValue_of_read value, hasTimestamp_of_read other stamp⟩
  · intro a x pair
    exact ofScalars_of_listFault (.fractional pair)
  · intro e mem word s read
    obtain ⟨a, b, rfl, valued, stamped⟩ := decides.mp ⟨s, read⟩
    simp only [List.mem_cons, List.not_mem_nil, or_false] at mem
    rcases mem with rfl | rfl
    · cases word <;> cases valued
    · cases word <;> cases stamped

end Sample

end MetricsHarness
