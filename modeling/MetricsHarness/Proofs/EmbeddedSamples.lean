import MetricsHarness.Proofs.Literals
import MetricsHarness.Proofs.Samples

/-!
# Which bracketed texts are samples

A bracketed text is trimmed, cut at its commas, freed of one bracket on either side, and its halves
are trimmed again and read as numbers. Taken together the steps accept one grammar
(`EmbeddedText`): two numbers in a frame of one opening bracket, one comma and one closing bracket,
with blanks around each of the three. No number has a blank, a comma or a bracket in it
(`isFrame`), so the frame is found in one place only and its marks are all that the text has.

A text that is framed is read as the pair of its two halves, whatever they are
(`Sample.ofText_of_framed`). What is refused breaks a rule, and the first in order is the fault that
is told (`Sample.FirstFault`).
-/

namespace MetricsHarness

open Text

/-! ## Trimming -/

namespace Text

/-- A text is its blanks in front, what trimming leaves, and its blanks behind. -/
theorem exists_trim (cs : List Char) : ∃ before behind, (∀ c ∈ before, isBlank c = true) ∧
    (∀ c ∈ behind, isBlank c = true) ∧ cs = before ++ (trim cs ++ behind) := by
  refine ⟨cs.takeWhile isBlank, ((cs.dropWhile isBlank).reverse.takeWhile isBlank).reverse,
    ?_, ?_, ?_⟩
  · intro c mem
    exact List.mem_takeWhile_imp mem
  · intro c mem
    exact List.mem_takeWhile_imp (List.mem_reverse.mp mem)
  · rw [trim, trimEnd, ← List.reverse_append, List.takeWhile_append_dropWhile, List.reverse_reverse,
      List.takeWhile_append_dropWhile]

/-- Blanks are dropped up to what is none. -/
theorem dropWhile_isBlank_append {before cs : List Char} (blank : ∀ c ∈ before, isBlank c = true)
    (front : ∀ c ∈ cs.head?, isBlank c = false) : (before ++ cs).dropWhile isBlank = cs :=
  (takeWhile_dropWhile_append blank front).2

/-- Blanks around a text that has none at its ends are what trimming removes. -/
theorem trim_append {before cs behind : List Char} (before_blank : ∀ c ∈ before, isBlank c = true)
    (behind_blank : ∀ c ∈ behind, isBlank c = true) (some : cs ≠ [])
    (front : ∀ c ∈ cs.head?, isBlank c = false) (last : ∀ c ∈ cs.getLast?, isBlank c = false) :
    trim (before ++ (cs ++ behind)) = cs := by
  have head : (cs ++ behind).head? = cs.head? := by
    cases cs with
    | nil => exact absurd rfl some
    | cons c rest => rfl
  rw [trim, dropWhile_isBlank_append before_blank (by rwa [head]), trimEnd, List.reverse_append,
    dropWhile_isBlank_append, List.reverse_reverse]
  · intro c mem
    exact behind_blank c (List.mem_reverse.mp mem)
  · rwa [List.head?_reverse]

/-- Nothing that is dropped is left in front. -/
theorem head?_dropWhile_isBlank (cs : List Char) :
    ∀ c ∈ (cs.dropWhile isBlank).head?, isBlank c = false := by
  intro c mem
  have stop := List.head?_dropWhile_not isBlank cs
  rw [Option.mem_def.mp mem] at stop
  simpa using stop

/-- What trimming leaves begins with no blank and ends with none. -/
theorem ends_trim (cs : List Char) : (∀ c ∈ (trim cs).head?, isBlank c = false) ∧
    ∀ c ∈ (trim cs).getLast?, isBlank c = false := by
  constructor
  · intro c mem
    refine head?_dropWhile_isBlank cs c ?_
    have kept : trim cs <+: cs.dropWhile isBlank := by
      rw [trim, trimEnd, ← List.reverse_suffix, List.reverse_reverse]
      exact List.dropWhile_suffix _
    obtain ⟨more, split⟩ := kept
    rw [← split]
    cases left : trim cs with
    | nil => simp [left] at mem
    | cons d rest => simpa [left] using mem
  · intro c mem
    rw [trim, trimEnd, List.getLast?_reverse] at mem
    exact head?_dropWhile_isBlank _ c mem

/-- The first character that is no blank stands at the front of what is between the blanks. -/
theorem find?_append {before cs behind : List Char} (before_blank : ∀ c ∈ before, isBlank c = true)
    (behind_blank : ∀ c ∈ behind, isBlank c = true)
    (front : ∀ c ∈ cs.head?, isBlank c = false) :
    (before ++ (cs ++ behind)).find? (!isBlank ·) = cs.head? := by
  have none {part : List Char} (h : ∀ c ∈ part, isBlank c = true) :
      part.find? (!isBlank ·) = none := by
    simpa using h
  rw [List.find?_append, none before_blank, List.find?_append, none behind_blank]
  cases cs with
  | nil => rfl
  | cons c rest => simp [front c rfl]

/-- Trimmed text begins with the first character that is no blank. -/
theorem head?_trim (cs : List Char) : (trim cs).head? = cs.find? (!isBlank ·) := by
  obtain ⟨before, behind, blank, blank', split⟩ := exists_trim cs
  conv_rhs => rw [split]
  exact (find?_append blank blank' (ends_trim cs).1).symm

/-- Trimmed text ends with the last character that is no blank. -/
theorem getLast?_trim (cs : List Char) : (trim cs).getLast? = cs.reverse.find? (!isBlank ·) := by
  obtain ⟨before, behind, blank, blank', split⟩ := exists_trim cs
  have turned : cs.reverse = behind.reverse ++ ((trim cs).reverse ++ before.reverse) := by
    conv_lhs => rw [split]
    simp
  rw [turned, find?_append, List.head?_reverse]
  · simpa using blank'
  · simpa using blank
  · rw [List.head?_reverse]
    exact (ends_trim cs).2

/-- Trimming takes no character that is no blank. -/
theorem count_trim {sep : Char} (ink : isBlank sep = false) (cs : List Char) :
    (trim cs).count sep = cs.count sep := by
  obtain ⟨before, behind, blank, blank', split⟩ := exists_trim cs
  have none {part : List Char} (h : ∀ c ∈ part, isBlank c = true) : part.count sep = 0 := by
    refine List.count_eq_zero.mpr fun mem => ?_
    simp [h sep mem] at ink
  conv_rhs => rw [split]
  simp [none blank, none blank']

end Text

/-! ## Characters of numbers -/

/-- A comma or a bracket. -/
def isMark (c : Char) : Bool := c == ',' || Sample.isOpening c || Sample.isClosing c

/-- A character that stands around the numbers of a pair: a blank, a comma or a bracket. -/
def isFrame (c : Char) : Bool := isBlank c || isMark c

theorem isFrame_of_isDigit {c : Char} (digit : isDigit c = true) : isFrame c = false :=
  forall_isDigit (p := fun c => isFrame c = false) (by decide) digit

/-- A capital frames no more than its small letter does. -/
theorem isFrame_of_toLower {c : Char} (lower : isFrame c.toLower = false) : isFrame c = false := by
  by_cases capital : 65 ≤ c.toNat ∧ c.toNat ≤ 90
  · exact forall_capital (p := fun c => isFrame c = false) (by decide) capital
  · have same : c.toLower = c := dif_neg capital
    rwa [same] at lower

/-- Signs are none of the characters that frame a sample. -/
theorem ExponentSign.isFrame_of_mem {sign : ExponentSign} {c : Char} (mem : c ∈ sign.chars) :
    isFrame c = false := by
  cases sign <;> simp only [chars, List.mem_singleton, List.not_mem_nil] at mem
  all_goals
    subst mem
    decide

/-- The characters of an exponent do not frame a sample. -/
theorem ExponentText.isFrame_of_mem {x : ExponentText} {c : Char} (mem : c ∈ x.chars) :
    isFrame c = false := by
  simp only [chars, List.mem_cons, List.mem_append] at mem
  rcases mem with rfl | sign | digit
  · unfold mark
    split <;> decide
  · exact ExponentSign.isFrame_of_mem sign
  · exact isFrame_of_isDigit (x.digits_digit c digit)

/-- The characters of a decimal number do not frame a sample. -/
theorem DecimalText.isFrame_of_mem {t : DecimalText} {c : Char} (mem : c ∈ t.chars) :
    isFrame c = false := by
  simp only [chars, fractionChars, exponentChars, List.mem_append] at mem
  rcases mem with whole | fraction | exponent
  · exact isFrame_of_isDigit (t.whole_digit c whole)
  · split at fraction
    · rcases List.mem_cons.mp fraction with rfl | digit
      · decide
      · exact isFrame_of_isDigit (t.fraction_digit c digit)
    · exact absurd fraction List.not_mem_nil
  · cases present : t.exponent with
    | none => simp [present] at exponent
    | some x => exact x.isFrame_of_mem (by simpa [present] using exponent)

/-- The text of a double has nothing of a frame. -/
theorem Binary64.IsLiteral.isFrame_of_mem {cs : List Char} (h : IsLiteral cs) {c : Char}
    (mem : c ∈ cs) : isFrame c = false := by
  obtain ⟨sign, rest, isUnsigned, rfl⟩ := h
  rcases List.mem_append.mp mem with sign | later
  · exact ExponentSign.isFrame_of_mem sign
  · cases isUnsigned with
    | decimal t => exact t.isFrame_of_mem later
    | @word w _ known spelled =>
      have lower : c.toLower ∈ w.toList := spelled ▸ List.mem_map_of_mem later
      have all : words.all (fun w => w.toList.all fun c => !isFrame c) = true := by decide
      have free := List.all_eq_true.mp (List.all_eq_true.mp all w known) _ lower
      exact isFrame_of_toLower (by simpa using free)

/-- The characters of an integer do not frame a sample. -/
theorem IntegerText.isFrame_of_mem {t : IntegerText} {c : Char} (mem : c ∈ t.chars) :
    isFrame c = false := by
  rcases List.mem_append.mp mem with sign | digit
  · exact ExponentSign.isFrame_of_mem sign
  · exact isFrame_of_isDigit (t.digits_digit c digit)

/-- What does not frame a sample is no blank. -/
theorem isBlank_of_isFrame {c : Char} (free : isFrame c = false) : isBlank c = false :=
  (Bool.or_eq_false_iff.mp free).1

/-- What does not frame a sample is no comma and no bracket. -/
theorem isMark_of_isFrame {c : Char} (free : isFrame c = false) : isMark c = false :=
  (Bool.or_eq_false_iff.mp free).2

theorem isBlank_of_isOpening {c : Char} (opens : Sample.isOpening c = true) :
    isBlank c = false := by
  simp only [Sample.isOpening, Bool.or_eq_true, beq_iff_eq] at opens
  rcases opens with (rfl | rfl) | rfl <;> decide

theorem isBlank_of_isClosing {c : Char} (closes : Sample.isClosing c = true) :
    isBlank c = false := by
  simp only [Sample.isClosing, Bool.or_eq_true, beq_iff_eq] at closes
  rcases closes with (rfl | rfl) | rfl <;> decide

/-- A blank is no comma and no bracket. -/
theorem isMark_of_isBlank {c : Char} (blank : isBlank c = true) : isMark c = false := by
  rw [Bool.eq_false_iff]
  intro mark
  simp only [isMark, Bool.or_eq_true, beq_iff_eq] at mark
  rcases mark with (rfl | opens) | closes
  · exact absurd blank (by decide)
  · simp [isBlank_of_isOpening opens] at blank
  · simp [isBlank_of_isClosing closes] at blank

section Padded

variable {before cs behind : List Char} (blank : ∀ c ∈ before ++ behind, isBlank c = true)
  (free : ∀ c ∈ cs, isFrame c = false)

include blank free

/-- Blanks around a number bring no mark. -/
theorem isMark_of_mem_padded {c : Char} (mem : c ∈ before ++ (cs ++ behind)) :
    isMark c = false := by
  simp only [List.mem_append] at mem
  rcases mem with before | number | behind
  · exact isMark_of_isBlank (blank c (by simp [before]))
  · exact isMark_of_isFrame (free c number)
  · exact isMark_of_isBlank (blank c (by simp [behind]))

/-- Blanks around a number are what trimming removes. -/
theorem trim_padded (some : cs ≠ []) : trim (before ++ (cs ++ behind)) = cs := by
  refine trim_append ?_ ?_ some ?_ ?_
  · intro c mem
    exact blank c (List.mem_append_left _ mem)
  · intro c mem
    exact blank c (List.mem_append_right _ mem)
  · intro c mem
    exact isBlank_of_isFrame (free c (List.mem_of_mem_head? mem))
  · intro c mem
    exact isBlank_of_isFrame (free c (List.mem_of_mem_getLast? mem))

end Padded

namespace Sample

/-! ## Frames -/

/-- Two texts in their frame: brackets around them, a comma between them, blanks around it all. -/
inductive Framed (value stamp : List Char) : List Char → Prop
  | intro (before behind : List Char) {opening closing : Char}
    (before_blank : ∀ c ∈ before, isBlank c = true) (behind_blank : ∀ c ∈ behind, isBlank c = true)
    (opens : isOpening opening = true) (closes : isClosing closing = true)
    (value_free : ',' ∉ value) (stamp_free : ',' ∉ stamp) :
    Framed value stamp (before ++ (opening :: (value ++ ',' :: (stamp ++ [closing])) ++ behind))

variable {raw : String} {value stamp : List Char}

/-- An opening bracket in front is dropped. -/
theorem dropOpening?_eq_some {c : Char} {rest : List Char} (opens : isOpening c = true) :
    dropOpening? (c :: rest) = some rest := by
  rw [dropOpening?, if_pos opens]

/-- A closing bracket at the end is dropped. -/
theorem dropClosing?_eq_some {c : Char} {front : List Char} (closes : isClosing c = true) :
    dropClosing? (front ++ [c]) = some front := by
  simp [dropClosing?, closes]

/-- A text with one comma is read from its two pieces. -/
theorem ofText_of_halves {first last : List Char} (cut : trim raw.toList = first ++ ',' :: last)
    (first_free : ',' ∉ first) (last_free : ',' ∉ last) : ofText raw =
      ((dropOpening? first).elim (.error (.noOpening raw)) fun value =>
        (dropClosing? last).elim (.error (.noClosing raw)) fun stamp => ofTexts value stamp) := by
  rw [ofText, cut, pieces_halves first_free last_free]
  dsimp only
  cases dropOpening? first with
  | none => rfl
  | some value => cases dropClosing? last <;> rfl

/-- What is framed is read as two texts. -/
theorem ofText_of_framed (framed : Framed value stamp raw.toList) :
    ofText raw = ofTexts value stamp := by
  generalize text : raw.toList = cs at framed
  obtain @⟨before, behind, opening, closing, before_blank, behind_blank, opens, closes, value_free,
    stamp_free⟩ := framed
  have cut : trim raw.toList = (opening :: value) ++ ',' :: (stamp ++ [closing]) := by
    rw [text]
    refine trim_append before_blank behind_blank (by simp) ?_ ?_
    · rintro c ⟨⟩
      exact isBlank_of_isOpening opens
    · intro c last
      have same : closing = c := by simpa [List.getLast?_cons, List.getLast?_append] using last
      exact same ▸ isBlank_of_isClosing closes
  have first_free : ',' ∉ opening :: value := by
    rintro (_ | ⟨_, mem⟩)
    · exact absurd opens (by decide)
    · exact value_free mem
  have last_free : ',' ∉ stamp ++ [closing] := by
    intro mem
    rcases List.mem_append.mp mem with mem | mem
    · exact stamp_free mem
    · rw [← List.mem_singleton.mp mem] at closes
      exact absurd closes (by decide)
  rw [ofText_of_halves cut first_free last_free, dropOpening?_eq_some opens,
    dropClosing?_eq_some closes]
  rfl

/-- A value is read without the blanks around it. -/
theorem readValue_eq_ok_iff {x : Binary64} :
    readValue value = .ok x ↔ Binary64.read (trim value) = .ok x := by
  unfold readValue
  cases Binary64.read (trim value) <;> simp

/-- Two texts are read as a sample if the second is its timestamp and the first its value. -/
theorem ofTexts_eq_ok_iff {s : Sample} : ofTexts value stamp = .ok s ↔
    readInt64 (trim stamp) = .ok s.timestamp.toInt ∧
      Binary64.read (trim value) = .ok s.value := by
  unfold ofTexts readTimestamp readValue
  cases time : readInt64 (trim stamp) with
  | error f => simp
  | ok i =>
    obtain ⟨t, ⟨least, greatest⟩, -, rfl⟩ := IntegerText.readInt64_eq_ok_iff.mp time
    have whole : (Int64.ofInt t.value).toInt = t.value :=
      Int64.toInt_ofInt_of_le least (Int.lt_add_one_of_le greatest)
    cases number : Binary64.read (trim value) with
    | error f => simp
    | ok x =>
      constructor
      · rintro ⟨⟩
        exact ⟨congrArg Except.ok whole.symm, rfl⟩
      · rintro ⟨stamped, valued⟩
        have same := Except.ok.inj stamped
        simp [same, Except.ok.inj valued]

/-- A number and an integer are a sample. -/
theorem exists_ofTexts {x : Binary64} {i : Int} (number : Binary64.read (trim value) = .ok x)
    (time : readInt64 (trim stamp) = .ok i) : ∃ s, ofTexts value stamp = .ok s := by
  unfold ofTexts readTimestamp readValue
  rw [number, time]
  exact ⟨_, rfl⟩

/-- Of two texts the second is looked at first. -/
theorem ofTexts_eq_error_iff {f : Fault} : ofTexts value stamp = .error f ↔
    (∃ g, readInt64 (trim stamp) = .error g ∧ f = .timestamp (String.ofList stamp) g) ∨
    ∃ i g, readInt64 (trim stamp) = .ok i ∧ Binary64.read (trim value) = .error g ∧
      f = .value (String.ofList value) g := by
  unfold ofTexts readTimestamp readValue
  cases readInt64 (trim stamp) with
  | error g => simp [eq_comm]
  | ok i => cases Binary64.read (trim value) <;> simp [eq_comm]

/-! ## Faults -/

/-- The first rule that a text breaks, in the order: one comma, an opening bracket in front, a
closing bracket behind, a timestamp, a value. -/
inductive FirstFault (raw : String) : Fault → Prop
  | pieces (commas : raw.toList.count ',' ≠ 1) :
    FirstFault raw (.pieceCount raw (raw.toList.count ',' + 1))
  | opening (comma : raw.toList.count ',' = 1)
    (other : ∀ c ∈ raw.toList.find? (!isBlank ·), isOpening c = false) :
    FirstFault raw (.noOpening raw)
  | closing (comma : raw.toList.count ',' = 1)
    (opens : ∃ c ∈ raw.toList.find? (!isBlank ·), isOpening c = true)
    (other : ∀ c ∈ raw.toList.reverse.find? (!isBlank ·), isClosing c = false) :
    FirstFault raw (.noClosing raw)
  | timestamp {value stamp : List Char} {f : IntegerFault} (framed : Framed value stamp raw.toList)
    (refused : readInt64 (trim stamp) = .error f) :
    FirstFault raw (.timestamp (String.ofList stamp) f)
  | value {value stamp : List Char} {i : Int} {f : Binary64.Fault}
    (framed : Framed value stamp raw.toList) (read : readInt64 (trim stamp) = .ok i)
    (refused : Binary64.read (trim value) = .error f) :
    FirstFault raw (.value (String.ofList value) f)

/-- Without an opening bracket nothing is dropped in front. -/
theorem dropOpening?_eq_none {first more : List Char}
    (other : ∀ c ∈ (first ++ ',' :: more).head?, isOpening c = false) :
    dropOpening? first = none := by
  cases first with
  | nil => rfl
  | cons c rest => simp [dropOpening?, other c rfl]

/-- Without a closing bracket nothing is dropped at the end. -/
theorem dropClosing?_eq_none {front last : List Char}
    (other : ∀ c ∈ (front ++ ',' :: last).getLast?, isClosing c = false) :
    dropClosing? last = none := by
  rw [dropClosing?]
  cases found : last.getLast? with
  | none => rfl
  | some c =>
    have known : isClosing c = false := by
      refine other c ?_
      rw [List.append_cons, List.getLast?_append, found]
      rfl
    simp [known]

/-- A text whose first and last character are no blanks is framed if it has one comma and brackets
at its ends. -/
theorem exists_framed {first last : List Char} (cut : trim raw.toList = first ++ ',' :: last)
    (first_free : ',' ∉ first) (last_free : ',' ∉ last)
    (opens : ∃ c ∈ (first ++ ',' :: last).head?, isOpening c = true)
    (closes : ∃ c ∈ (first ++ ',' :: last).getLast?, isClosing c = true) :
    ∃ value stamp, Framed value stamp raw.toList := by
  obtain ⟨before, behind, before_blank, behind_blank, split⟩ := exists_trim raw.toList
  obtain ⟨opening, atFront, opens⟩ := opens
  obtain ⟨closing, atEnd, closes⟩ := closes
  cases first with
  | nil =>
    obtain rfl : ',' = opening := by simpa using atFront
    exact absurd opens (by decide)
  | cons c value =>
    obtain rfl : c = opening := by simpa using atFront
    rcases last.eq_nil_or_concat' with rfl | ⟨stamp, d, rfl⟩
    · rw [List.getLast?_concat] at atEnd
      obtain rfl : ',' = closing := by simpa using atEnd
      exact absurd closes (by decide)
    · rw [← List.cons_append, ← List.append_assoc, List.getLast?_concat] at atEnd
      obtain rfl : d = closing := by simpa using atEnd
      refine ⟨value, stamp, ?_⟩
      rw [split, cut]
      have framed := Framed.intro before behind before_blank behind_blank opens closes
        (fun mem => first_free (List.mem_cons_of_mem _ mem))
        (fun mem => last_free (List.mem_append_left _ mem))
      simpa using framed

/-- A text breaks one of the first three rules, or is framed. -/
theorem firstFault_or_framed (raw : String) :
    (∃ f, FirstFault raw f) ∨ ∃ value stamp, Framed value stamp raw.toList := by
  by_cases comma : raw.toList.count ',' = 1
  · obtain ⟨first, last, cut, first_free, last_free⟩ :=
      exists_halves ((count_trim (by decide) raw.toList).trans comma)
    have head := cut ▸ head?_trim raw.toList
    have end_ := cut ▸ getLast?_trim raw.toList
    by_cases opens : ∃ c ∈ raw.toList.find? (!isBlank ·), isOpening c = true
    · by_cases closes : ∃ c ∈ raw.toList.reverse.find? (!isBlank ·), isClosing c = true
      · right
        exact exists_framed cut first_free last_free (head ▸ opens) (end_ ▸ closes)
      · left
        exact ⟨_, .closing comma opens (by simpa using closes)⟩
    · left
      exact ⟨_, .opening comma (by simpa using opens)⟩
  · left
    exact ⟨_, .pieces comma⟩

/-- The fault of a text is the first rule that it breaks. -/
theorem ofText_of_firstFault {f : Fault} (fault : FirstFault raw f) : ofText raw = .error f := by
  cases fault with
  | pieces commas =>
    have count : (pieces ',' (trim raw.toList)).length = raw.toList.count ',' + 1 := by
      rw [length_pieces, count_trim (by decide)]
    unfold ofText
    split
    next shape =>
      rw [shape] at count
      exact absurd (Nat.succ.inj count).symm commas
    next => rw [count]
  | opening comma other =>
    obtain ⟨first, last, cut, first_free, last_free⟩ :=
      exists_halves ((count_trim (by decide) raw.toList).trans comma)
    rw [← head?_trim, cut] at other
    rw [ofText_of_halves cut first_free last_free, dropOpening?_eq_none other]
    rfl
  | closing comma opens other =>
    obtain ⟨first, last, cut, first_free, last_free⟩ :=
      exists_halves ((count_trim (by decide) raw.toList).trans comma)
    rw [← head?_trim, cut] at opens
    rw [← getLast?_trim, cut] at other
    obtain ⟨c, front, opens⟩ := opens
    rw [ofText_of_halves cut first_free last_free, dropClosing?_eq_none other]
    cases first with
    | nil =>
      obtain rfl : ',' = c := by simpa using front
      exact absurd opens (by decide)
    | cons d rest =>
      obtain rfl : d = c := by simpa using front
      rw [dropOpening?_eq_some opens]
      rfl
  | timestamp framed refused =>
    rw [ofText_of_framed framed, ofTexts_eq_error_iff]
    exact .inl ⟨_, refused, rfl⟩
  | value framed read refused =>
    rw [ofText_of_framed framed, ofTexts_eq_error_iff]
    exact .inr ⟨_, _, read, refused, rfl⟩

/-- A text is refused for the first rule that it breaks. -/
theorem ofText_eq_error_iff {f : Fault} : ofText raw = .error f ↔ FirstFault raw f := by
  constructor
  · intro failed
    rcases firstFault_or_framed raw with ⟨g, fault⟩ | ⟨value, stamp, framed⟩
    · obtain rfl := Except.error.inj ((ofText_of_firstFault fault).symm.trans failed)
      exact fault
    · rw [ofText_of_framed framed, ofTexts_eq_error_iff] at failed
      rcases failed with ⟨g, refused, rfl⟩ | ⟨i, g, read, refused, rfl⟩
      · exact .timestamp framed refused
      · exact .value framed read refused
  · exact ofText_of_firstFault

end Sample

/-! ## The grammar -/

/-- A bracketed text that is a sample: two numbers in a frame, with blanks wherever there may be
some. -/
structure EmbeddedText where
  before : List Char
  opening : Char
  numberBefore : List Char
  number : List Char
  numberBehind : List Char
  timestampBefore : List Char
  timestamp : IntegerText
  timestampBehind : List Char
  closing : Char
  behind : List Char
  blank : ∀ c ∈ before ++ numberBefore ++ numberBehind ++ timestampBefore ++ timestampBehind ++
    behind, isBlank c = true
  opens : Sample.isOpening opening = true
  closes : Sample.isClosing closing = true
  literal : Binary64.IsLiteral number
  fits : timestamp.Fits

namespace EmbeddedText

variable (t : EmbeddedText)

/-- The text of the value, with the blanks around it. -/
def valueChars : List Char := t.numberBefore ++ (t.number ++ t.numberBehind)

/-- The text of the timestamp, with the blanks around it. -/
def stampChars : List Char := t.timestampBefore ++ (t.timestamp.chars ++ t.timestampBehind)

/-- The whole text. -/
def chars : List Char :=
  t.before ++ (t.opening :: (t.valueChars ++ ',' :: (t.stampChars ++ [t.closing])) ++ t.behind)

/-- What a text says: the value of its number, and its timestamp. -/
structure Tells (s : Sample) : Prop where
  value : Binary64.read t.number = .ok s.value
  timestamp : t.timestamp.value = s.timestamp.toInt

/-- Around the number stand blanks only. -/
theorem blank_around_number : ∀ c ∈ t.numberBefore ++ t.numberBehind, isBlank c = true := by
  intro c mem
  refine t.blank c ?_
  rcases List.mem_append.mp mem with before | behind
  · simp [before]
  · simp [behind]

/-- Around the timestamp stand blanks only. -/
theorem blank_around_timestamp :
    ∀ c ∈ t.timestampBefore ++ t.timestampBehind, isBlank c = true := by
  intro c mem
  refine t.blank c ?_
  rcases List.mem_append.mp mem with before | behind
  · simp [before]
  · simp [behind]

theorem isMark_of_mem_valueChars {c : Char} (mem : c ∈ t.valueChars) : isMark c = false :=
  isMark_of_mem_padded t.blank_around_number (fun _ => t.literal.isFrame_of_mem) mem

theorem isMark_of_mem_stampChars {c : Char} (mem : c ∈ t.stampChars) : isMark c = false :=
  isMark_of_mem_padded t.blank_around_timestamp (fun _ => t.timestamp.isFrame_of_mem) mem

/-- A comma and brackets frame the two parts. -/
theorem framed : Sample.Framed t.valueChars t.stampChars t.chars := by
  refine .intro t.before t.behind ?_ ?_ t.opens t.closes ?_ ?_
  · intro c mem
    exact t.blank c (by simp [mem])
  · intro c mem
    exact t.blank c (by simp [mem])
  · intro mem
    exact absurd (t.isMark_of_mem_valueChars mem) (by decide)
  · intro mem
    exact absurd (t.isMark_of_mem_stampChars mem) (by decide)

/-- The commas and brackets of a text are those of its frame. -/
theorem filter_isMark_chars : t.chars.filter isMark = [t.opening, ',', t.closing] := by
  have none {part : List Char} (h : ∀ c ∈ part, isMark c = false) : part.filter isMark = [] := by
    simpa using h
  have before := none fun c (mem : c ∈ t.before) => isMark_of_isBlank (t.blank c (by simp [mem]))
  have behind := none fun c (mem : c ∈ t.behind) => isMark_of_isBlank (t.blank c (by simp [mem]))
  have value := none fun c => t.isMark_of_mem_valueChars
  have stamp := none fun c => t.isMark_of_mem_stampChars
  have opening : isMark t.opening = true := by simp [isMark, t.opens]
  have closing : isMark t.closing = true := by simp [isMark, t.closes]
  have comma : isMark ',' = true := by decide
  simp [chars, before, behind, value, stamp, opening, closing, comma]

/-- Without its blanks the first part is the number. -/
theorem trim_valueChars : trim t.valueChars = t.number := by
  refine trim_padded t.blank_around_number (fun _ => t.literal.isFrame_of_mem) fun empty => ?_
  obtain ⟨x, read⟩ := Binary64.exists_read_iff.mpr t.literal
  rw [empty] at read
  cases read

/-- Without its blanks the second part is the timestamp. -/
theorem trim_stampChars : trim t.stampChars = t.timestamp.chars := by
  refine trim_padded t.blank_around_timestamp (fun _ => t.timestamp.isFrame_of_mem) fun empty => ?_
  exact t.timestamp.digits_some (List.append_eq_nil_iff.mp empty).2

/-- Every text of the grammar tells a sample. -/
theorem exists_told : ∃ s, t.Tells s := by
  obtain ⟨x, read⟩ := Binary64.exists_read_iff.mpr t.literal
  have whole : (Int64.ofInt t.timestamp.value).toInt = t.timestamp.value :=
    Int64.toInt_ofInt_of_le t.fits.1 (Int.lt_add_one_of_le t.fits.2)
  exact ⟨⟨x, Int64.ofInt t.timestamp.value⟩, read, whole.symm⟩

end EmbeddedText

namespace Sample

variable {raw : String} {s : Sample}

/-- A text of the grammar is read as what it says. -/
theorem ofText_of_tells {t : EmbeddedText} (chars : t.chars = raw.toList) (told : t.Tells s) :
    ofText raw = .ok s := by
  have read := IntegerText.readInt64_chars t.fits
  rw [ofText_of_framed (chars ▸ t.framed), ofTexts_eq_ok_iff, t.trim_stampChars, t.trim_valueChars,
    read, told.timestamp]
  exact ⟨rfl, told.value⟩

/-- A framed text whose halves are numbers is of the grammar. -/
theorem exists_embedded_of_framed {value stamp cs : List Char} {x : Binary64} {i : Int}
    (framed : Framed value stamp cs) (number : Binary64.read (trim value) = .ok x)
    (time : readInt64 (trim stamp) = .ok i) : ∃ t : EmbeddedText,
      t.chars = cs ∧ t.number = trim value ∧ t.timestamp.value = i := by
  obtain ⟨t, fits, chars, rfl⟩ := IntegerText.readInt64_eq_ok_iff.mp time
  obtain ⟨a, b, blankA, blankB, valueSplit⟩ := exists_trim value
  obtain ⟨c, d, blankC, blankD, stampSplit⟩ := exists_trim stamp
  obtain @⟨before, behind, opening, closing, blankBefore, blankBehind, opens, closes, -, -⟩ :=
    framed
  refine ⟨⟨before, opening, a, trim value, b, c, t, d, closing, behind, ?_, opens, closes,
    Binary64.exists_read_iff.mp ⟨x, number⟩, fits⟩, ?_, rfl, rfl⟩
  · simp only [List.mem_append]
    rintro e (((((mem | mem) | mem) | mem) | mem) | mem)
    · exact blankBefore e mem
    · exact blankA e mem
    · exact blankB e mem
    · exact blankC e mem
    · exact blankD e mem
    · exact blankBehind e mem
  · simp only [EmbeddedText.chars, EmbeddedText.valueChars, EmbeddedText.stampChars, chars,
      ← valueSplit, ← stampSplit]

/-- A text that is read is of the grammar. -/
theorem exists_embedded (read : ofText raw = .ok s) :
    ∃ t : EmbeddedText, t.chars = raw.toList ∧ t.Tells s := by
  rcases firstFault_or_framed raw with ⟨f, fault⟩ | ⟨value, stamp, framed⟩
  · rw [ofText_of_firstFault fault] at read
    cases read
  · rw [ofText_of_framed framed, ofTexts_eq_ok_iff] at read
    obtain ⟨t, chars, number, timestamp⟩ := exists_embedded_of_framed framed read.2 read.1
    exact ⟨t, chars, number ▸ read.2, timestamp⟩

/-- **Bracketed texts are read by their grammar.** A text is read exactly if it is of the grammar,
and as what it tells. Then an opening bracket, a comma and a closing bracket are the only marks in
it, so a second one anywhere is refused. Two texts without a comma are read in a frame as they are
read as a pair, faults included. A text that is refused is told the first rule that it breaks. -/
theorem ofText_decides (raw : String) :
    ((∃ s, ofText raw = .ok s) ↔ ∃ t : EmbeddedText, t.chars = raw.toList) ∧
    (∀ s, ofText raw = .ok s ↔ ∃ t : EmbeddedText, t.chars = raw.toList ∧ t.Tells s) ∧
    (∀ s, ofText raw = .ok s → ∃ opening closing, isOpening opening = true ∧
      isClosing closing = true ∧ raw.toList.filter isMark = [opening, ',', closing]) ∧
    (∀ (value timestamp : String) (opening closing : Char), isOpening opening = true →
      isClosing closing = true → ',' ∉ value.toList → ',' ∉ timestamp.toList →
      raw.toList = opening :: (value.toList ++ ',' :: (timestamp.toList ++ [closing])) →
      ofText raw = ofPair [value, timestamp]) ∧
    ∀ f, ofText raw = .error f ↔ FirstFault raw f := by
  have exactly (s : Sample) : ofText raw = .ok s ↔
      ∃ t : EmbeddedText, t.chars = raw.toList ∧ t.Tells s := by
    constructor
    · exact exists_embedded
    · rintro ⟨t, chars, told⟩
      exact ofText_of_tells chars told
  refine ⟨⟨?_, ?_⟩, exactly, ?_, ?_, fun f => ofText_eq_error_iff⟩
  · rintro ⟨s, read⟩
    obtain ⟨t, chars, -⟩ := exists_embedded read
    exact ⟨t, chars⟩
  · rintro ⟨t, chars⟩
    obtain ⟨s, told⟩ := t.exists_told
    exact ⟨s, ofText_of_tells chars told⟩
  · intro s read
    obtain ⟨t, chars, -⟩ := exists_embedded read
    exact ⟨t.opening, t.closing, t.opens, t.closes, chars ▸ t.filter_isMark_chars⟩
  · intro value timestamp opening closing opens closes value_free timestamp_free shape
    refine ofText_of_framed ?_
    have framed := Framed.intro [] [] (by simp) (by simp) opens closes value_free timestamp_free
    rw [shape]
    simpa using framed

end Sample

end MetricsHarness
