import MetricsHarness.Proofs.Effects
import MetricsHarness.Proofs.Utf8
import MetricsHarness.Query.Attempt
import MetricsHarness.Url.LiteralDomain

/-!
# The verdict on a query

An attempt at a query takes one of five courses (`Query.Course`): four of them end before there is
a response, with one failure each, and the last judges a response. The courses are told apart by
conditions on the query and on what the client answers, stated without the attempt, and each says
its failures in words. They are exactly the courses of the attempt (`course_attempt`,
`Course.eq_attempt`), with the seconds waited and the requests of each.

The content type of a response is that of the first header that tells one, as far as it can be read
(`Response.HasType`). What holds of a query that passes is stated on its own (`Query.Meets`). So no
combination of conditions gives a pass that is none, and none loses a failure.

The client is whatever answers a request; how it comes by a response plays no part here.
-/

namespace MetricsHarness

variable {σ η : Type}

/-! ## Numbers in messages -/

/-- A signed numeral is an integer as it is usually written. -/
theorem Text.signedNumeral_eq (i : Int) : Text.signedNumeral i = s!"{i}" := by
  cases i with
  | ofNat n => rfl
  | negSucc n =>
    apply String.toList_inj.mp
    simp [Text.signedNumeral, Text.signedNumeralChars, ToString.toString, Int.repr, Nat.repr,
      Text.numeralChars]

/-! ## The content type of a response -/

/-- A byte of a value that can be read as a text: a printable character of ASCII, or a tab. -/
def IsReadable (b : UInt8) : Prop := b = 0x09 ∨ (0x20 ≤ b ∧ b ≤ 0x7E)

/-- A header that tells the content type; letter case plays no part in its name. -/
def Header.TellsType (h : Header) : Prop :=
  h.name.toList.map Char.toLower = "content-type".toList

/-- The content type that a response comes with: the text of the first header that tells one. It is
empty if there is no such header, or if the first is not readable, whatever comes behind it. -/
inductive Response.HasType (r : Response) : String → Prop
  | readable {front h back text} (cut : r.headers = front ++ h :: back)
    (first : ∀ g ∈ front, ¬ Header.TellsType g) (tells : h.TellsType)
    (clean : ∀ b ∈ h.value, IsReadable b) (spells : Text.Utf8.encodeString text = h.value) :
    HasType r text
  | unreadable {front h back} (cut : r.headers = front ++ h :: back)
    (first : ∀ g ∈ front, ¬ Header.TellsType g) (tells : h.TellsType)
    (torn : ∃ b ∈ h.value, ¬ IsReadable b) : HasType r ""
  | missing (none : ∀ h ∈ r.headers, ¬ h.TellsType) : HasType r ""

namespace Response

/-- The bytes of which a header may consist as text are the readable ones. -/
theorem isHeaderText_iff {b : UInt8} : isHeaderText b = true ↔ IsReadable b := by
  simp only [isHeaderText, IsReadable, Bool.or_eq_true, Bool.and_eq_true, beq_iff_eq,
    decide_eq_true_eq, UInt8.le_iff_toNat_le, UInt8.lt_iff_toNat_lt]
  refine or_congr Iff.rfl (and_congr Iff.rfl ?_)
  exact Nat.lt_succ_iff

/-- Readable bytes are below the ones that belong to longer encodings. -/
theorem toNat_of_isReadable {b : UInt8} (h : IsReadable b) : b.toNat < 0x80 := by
  rcases h with rfl | ⟨-, most⟩
  · decide
  · exact Nat.lt_of_le_of_lt (UInt8.le_iff_toNat_le.mp most) (by decide)

/-- Readable bytes encode the characters with their numbers. -/
theorem encode_of_isReadable {value : Bytes} (clean : ∀ b ∈ value, IsReadable b) :
    Text.Utf8.encode (value.map fun b => Char.ofNat b.toNat) = value := by
  induction value with
  | nil => rfl
  | cons b rest ih =>
    obtain ⟨first, others⟩ := List.forall_mem_cons.mp clean
    have low := toNat_of_isReadable first
    have number : (Char.ofNat b.toNat).toNat = b.toNat :=
      Text.Utf8.toNat_ofNat_of_valid (.inl (by omega))
    rw [List.map_cons, Text.Utf8.encode_cons, Text.Utf8.encodeChar_of_lt (by rwa [number]), number,
      UInt8.ofNat_toNat, List.singleton_append, ih others]

/-- A header tells the content type if it is looked at for it. -/
theorem isNamed_contentType_iff {h : Header} :
    h.isNamed "content-type" = true ↔ h.TellsType := by
  rw [Header.isNamed, beq_iff_eq]
  exact Iff.rfl

/-- The header that counts is the first that tells the content type. -/
theorem header?_of_first {r : Response} {front back : List Header} {h : Header}
    (cut : r.headers = front ++ h :: back) (first : ∀ g ∈ front, ¬ Header.TellsType g)
    (tells : h.TellsType) : r.header? "content-type" = some h.value := by
  have skipped : front.find? (·.isNamed "content-type") = none := by
    apply List.find?_eq_none.mpr
    intro g mem named
    exact first g mem (isNamed_contentType_iff.mp named)
  have found : (h :: back).find? (·.isNamed "content-type") = some h :=
    List.find?_cons_of_pos (isNamed_contentType_iff.mpr tells)
  rw [header?, cut, List.find?_append, skipped, Option.none_or, found]
  rfl

/-- The content type of a response is the text that its headers come with. -/
theorem HasType.eq_contentType {r : Response} {type : String} (h : r.HasType type) :
    type = r.contentType := by
  cases h with
  | readable cut first tells clean spells =>
    have all : _ = true := List.all_eq_true.mpr fun b mem => isHeaderText_iff.mpr (clean b mem)
    simp only [contentType, header?_of_first cut first tells, all, if_true]
    apply String.toList_inj.mp
    apply Option.some.inj
    rw [String.toList_ofList, ← Text.Utf8.decode?_encode, ← Text.Utf8.decode?_encode,
      encode_of_isReadable clean]
    exact congrArg _ spells
  | unreadable cut first tells torn =>
    obtain ⟨b, mem, bad⟩ := torn
    have some : ¬ _ = true := fun all =>
      bad (isHeaderText_iff.mp (List.all_eq_true.mp all b mem))
    simp only [contentType, header?_of_first cut first tells, some]
    rfl
  | missing none =>
    have skipped : r.headers.find? (·.isNamed "content-type") = .none := by
      apply List.find?_eq_none.mpr
      intro g mem named
      exact none g mem (isNamed_contentType_iff.mp named)
    simp only [contentType, header?, skipped, Option.map_none]

/-- Every response comes with a content type. -/
theorem hasType_contentType (r : Response) : r.HasType r.contentType := by
  cases found : r.headers.find? (·.isNamed "content-type") with
  | none =>
    have none : ∀ h ∈ r.headers, ¬ h.TellsType := fun h mem tells =>
      List.find?_eq_none.mp found h mem (isNamed_contentType_iff.mpr tells)
    have missing := HasType.missing none
    rwa [missing.eq_contentType] at missing
  | some h =>
    obtain ⟨named, front, back, cut, skipped⟩ := List.find?_eq_some_iff_append.mp found
    have tells := isNamed_contentType_iff.mp named
    have first : ∀ g ∈ front, ¬ Header.TellsType g := by
      intro g mem tells
      have other := skipped g mem
      rw [isNamed_contentType_iff.mpr tells] at other
      cases other
    cases all : h.value.all isHeaderText with
    | true =>
      have clean : ∀ b ∈ h.value, IsReadable b := fun b mem =>
        isHeaderText_iff.mp (List.all_eq_true.mp all b mem)
      have spells : Text.Utf8.encodeString
          (String.ofList (h.value.map fun b => Char.ofNat b.toNat)) = h.value := by
        rw [Text.Utf8.encodeString, String.toList_ofList, encode_of_isReadable clean]
      have typed := HasType.readable cut first tells clean spells
      rwa [typed.eq_contentType] at typed
    | false =>
      obtain ⟨b, mem, bad⟩ := List.all_eq_false.mp all
      have typed := HasType.unreadable cut first tells
        ⟨b, mem, fun clean => bad (isHeaderText_iff.mpr clean)⟩
      rwa [typed.eq_contentType] at typed

/-- A response has one content type. -/
theorem hasType_iff {r : Response} {type : String} : r.HasType type ↔ type = r.contentType := by
  constructor
  · exact HasType.eq_contentType
  · rintro rfl
    exact r.hasType_contentType

end Response

/-! ## What the parts of an attempt answer -/

/-- Whether a text is a token: it has characters, and all of them are token characters. -/
def Method.IsToken (text : String) : Prop :=
  text.toList ≠ [] ∧ ∀ c ∈ text.toList, isTokenChar c = true

/-- A text names the method that has it as its text. -/
theorem Method.ofText?_eq_some_iff {text : String} {method : Method} :
    Method.ofText? text = some method ↔ method.text = text := by
  unfold Method.ofText?
  constructor
  · intro h
    split at h
    · cases h
    · split at h
      · rw [← Option.some.inj h]
      · cases h
  · rintro rfl
    rw [dif_neg method.nonempty, dif_pos method.token]

/-- Exactly the texts that are no tokens name no method. -/
theorem Method.ofText?_eq_none_iff {text : String} :
    Method.ofText? text = none ↔ ¬ Method.IsToken text := by
  unfold Method.ofText? Method.IsToken
  rw [← List.all_eq_true]
  by_cases empty : text.toList = []
  · simp [empty]
  · by_cases token : text.toList.all isTokenChar = true
    · simp [empty, token]
    · simp [empty, token]

/-- A text unless something holds. -/
def saidUnless (met : Prop) [Decidable met] (text : String) : List String :=
  if met then [] else [text]

/-- Nothing is said exactly where it holds. -/
theorem saidUnless_eq_nil_iff {met : Prop} [Decidable met] {text : String} :
    saidUnless met text = [] ↔ met := by
  unfold saidUnless
  split
  · next h => exact iff_of_true rfl h
  · next h => exact iff_of_false (List.cons_ne_nil _ _) h

namespace Query

theorem secondsOf_of_nonneg {delay : Int64} (h : 0 ≤ delay.toInt) :
    secondsOf delay = .ok delay.toInt.toNat := by
  unfold secondsOf
  split
  · next n hn => rw [hn]; rfl
  · next n hn => rw [hn] at h; exact absurd h (Int.not_le.mpr (Int.negSucc_lt_zero n))

theorem secondsOf_of_neg {delay : Int64} (h : delay.toInt < 0) :
    secondsOf delay = .error (.negativeDelay delay) := by
  unfold secondsOf
  split
  · next n hn => rw [hn] at h; exact absurd h (Int.not_lt.mpr (Int.natCast_nonneg n))
  · rfl

/-- A query with a negative delay is over at once. -/
theorem attempt_of_neg [Idna] {q : Query} (h : q.delay.toInt < 0) (client : Client σ) (state : σ) :
    (q.attempt client state : Attempt σ η) = ⟨[.delay (.negativeDelay q.delay)], [], state⟩ := by
  unfold attempt
  rw [secondsOf_of_neg h]

/-- Any other query fails as it does after its wait. -/
theorem failures_attempt [Idna] {q : Query} (h : 0 ≤ q.delay.toInt) (client : Client σ)
    (state : σ) :
    (q.attempt client state : Attempt σ η).failures =
      (q.proceed client state : Attempt σ η).failures := by
  simp only [attempt, secondsOf_of_nonneg h]

theorem proceed_of_unreadable [Idna] {q : Query} {fault : Url.Fault}
    (read : Url.read (q.endpoint ++ q.path).toList = .error fault) (client : Client σ) (state : σ) :
    (q.proceed client state : Attempt σ η) =
      ⟨[.target (.url (q.endpoint ++ q.path) fault.message)], [], state⟩ := by
  simp only [proceed, targetOf, read]

theorem proceed_of_no_token [Idna] {q : Query} {url : Url}
    (read : Url.read (q.endpoint ++ q.path).toList = .ok url) (bad : ¬ Method.IsToken q.method)
    (client : Client σ) (state : σ) :
    (q.proceed client state : Attempt σ η) = ⟨[.method], [], state⟩ := by
  simp only [proceed, targetOf, read, Method.ofText?_eq_none_iff.mpr bad]

theorem proceed_of_token [Idna] {q : Query} {url : Url} {method : Method}
    (read : Url.read (q.endpoint ++ q.path).toList = .ok url) (named : method.text = q.method)
    (client : Client σ) (state : σ) :
    (q.proceed client state : Attempt σ η) = q.exchange client method url.sorted state := by
  simp only [proceed, targetOf, read, Method.ofText?_eq_some_iff.mpr named]

/-- A negative delay in words. -/
theorem message_delay (q : Query) : (QueryFailure.delay (.negativeDelay q.delay)).message =
    "failed parse duration: " ++ s!"delay must not be negative, got {q.delay.toInt}s" := by
  rw [← Text.signedNumeral_eq]
  rfl

/-- A target that cannot be read, in words. -/
theorem message_target (q : Query) (reason : String) :
    (QueryFailure.target (.url (q.endpoint ++ q.path) reason)).message =
      "failed to parse URL: " ++ s!"invalid request URL '{q.endpoint ++ q.path}': {reason}" := rfl

/-- An exchange without a response fails for the reason that its client gives. -/
theorem exchange_of_error {client : Client σ} {q : Query} {method : Method} {url : Url} {state : σ}
    {reason : String}
    (sent : (client.send ⟨method, url, q.sentBody⟩ state).result = .error reason) :
    (q.exchange client method url state : Attempt σ η).failures = [.exchange reason] := by
  simp only [exchange, sent]

/-- An exchange with a response fails for what there is to object to in it. -/
theorem exchange_of_ok {client : Client σ} {q : Query} {method : Method} {url : Url} {state : σ}
    {response : Response}
    (sent : (client.send ⟨method, url, q.sentBody⟩ state).result = .ok response) :
    (q.exchange client method url state : Attempt σ η).failures = q.expected.judge response := by
  simp only [exchange, sent]

/-! ## What is done on the way -/

/-- The wait of a query as a deed; a delay of no seconds is none. -/
def waited (q : Query) : List (Effect η) :=
  if q.delay.toInt = 0 then [] else [.wait q.delay.toInt.toNat]

theorem deeds_waitFor {q : Query} (h : 0 ≤ q.delay.toInt) :
    Effect.deeds (waitFor (η := η) q.delay.toInt.toNat) = q.waited := by
  unfold waitFor waited
  by_cases none : q.delay.toInt = 0
  · rw [if_pos none, if_pos (by omega)]
    rfl
  · rw [if_neg none, if_neg (by omega)]
    rfl

theorem deeds_attempt [Idna] {q : Query} (h : 0 ≤ q.delay.toInt) (client : Client σ) (state : σ) :
    Effect.deeds (q.attempt client state : Attempt σ η).effects =
      q.waited ++ Effect.deeds (q.proceed client state : Attempt σ η).effects := by
  simp only [attempt, secondsOf_of_nonneg h, Effect.deeds_append, deeds_waitFor h]

/-- The deeds of an exchange are the requests that its client sends. -/
theorem deeds_exchange (client : Client σ) (q : Query) (method : Method) (url : Url) (state : σ) :
    Effect.deeds (q.exchange client method url state : Attempt σ η).effects =
      (client.send ⟨method, url, q.sentBody⟩ state).requests.map .request := by
  have told : Effect.deeds ([.log (.sending q.endpoint q.path method.text), .log (.target url)] ++
      (client.send ⟨method, url, q.sentBody⟩ state).requests.map (.request (η := η))) =
      (client.send ⟨method, url, q.sentBody⟩ state).requests.map .request := by
    rw [List.cons_append, Effect.deeds_log_cons, List.cons_append, Effect.deeds_log_cons]
    refine Effect.deeds_eq_self fun effect h => ?_
    obtain ⟨request, _, rfl⟩ := List.mem_map.mp h
    rfl
  unfold exchange
  dsimp only
  split
  · exact told
  · next response _ =>
    rw [Effect.deeds_append, told]
    unfold receivedEvents
    cases response.body with
    | error reason => exact List.append_nil _
    | ok body => exact List.append_nil _

/-! ## The courses of an attempt -/

/-- What there is to say against the body of a response that comes with a content type: that it did
not come, that nothing is expected of it, or what judging it under this content type gives. -/
inductive BodyCourse (q : Query) (response : Response) (type : String) : List String → Prop
  | unread {reason} (lost : response.body = .error reason) :
    BodyCourse q response type [s!"failed to read body: {reason}"]
  | unexpected {body} (whole : response.body = .ok body) (bare : q.expected.results = []) :
    BodyCourse q response type ["no expected results configured"]
  | judged {body result rest} (whole : response.body = .ok body)
    (first : q.expected.results = result :: rest) :
    BodyCourse q response type ((Payload.judge type body result).map (·.message))

/-- The courses that a query takes with a client: what is said against it, and what was done on the
way. -/
inductive Course [Idna] (client : Client σ) (q : Query) (state : σ) :
    List String → List (Effect η) → Prop
  | negativeDelay (early : q.delay.toInt < 0) :
    Course client q state
      ["failed parse duration: " ++ s!"delay must not be negative, got {q.delay.toInt}s"] []
  | unreadable {fault} (delayed : 0 ≤ q.delay.toInt)
    (read : Url.read (q.endpoint ++ q.path).toList = .error fault) :
    Course client q state
      ["failed to parse URL: " ++
        s!"invalid request URL '{q.endpoint ++ q.path}': {fault.message}"]
      q.waited
  | noToken {url} (delayed : 0 ≤ q.delay.toInt)
    (read : Url.read (q.endpoint ++ q.path).toList = .ok url) (bad : ¬ Method.IsToken q.method) :
    Course client q state ["failed to prepare the request: invalid HTTP method"] q.waited
  | unanswered {url method reason} (delayed : 0 ≤ q.delay.toInt)
    (read : Url.read (q.endpoint ++ q.path).toList = .ok url)
    (named : Method.text method = q.method)
    (sent : (client.send ⟨method, url.sorted, q.sentBody⟩ state).result = .error reason) :
    Course client q state [s!"failed to perform the request: {reason}"] (q.waited ++
      (client.send ⟨method, url.sorted, q.sentBody⟩ state).requests.map .request)
  | answered {url method response type body} (delayed : 0 ≤ q.delay.toInt)
    (read : Url.read (q.endpoint ++ q.path).toList = .ok url)
    (named : Method.text method = q.method)
    (sent : (client.send ⟨method, url.sorted, q.sentBody⟩ state).result = .ok response)
    (typed : response.HasType type) (rest : q.BodyCourse response type body) :
    Course client q state
      (saidUnless (response.status = q.expected.status) ("unexpected status code, " ++
          s!"got {response.status.toNat}, expected {q.expected.status.toNat}") ++
        saidUnless (type = q.expected.contentType)
          s!"unexpected content-type, got {type}, expected {q.expected.contentType}" ++ body)
      (q.waited ++ (client.send ⟨method, url.sorted, q.sentBody⟩ state).requests.map .request)

/-- What is said against a response is about its status, its content type and its body. -/
theorem bodyCourse_judge (q : Query) (response : Response) : ∃ body,
    q.BodyCourse response response.contentType body ∧
      (q.expected.judge response).map (·.message) =
        saidUnless (response.status = q.expected.status) ("unexpected status code, " ++
          s!"got {response.status.toNat}, expected {q.expected.status.toNat}") ++
        saidUnless (response.contentType = q.expected.contentType)
          s!"unexpected content-type, got {response.contentType}, expected {q.expected.contentType}"
        ++ body := by
  have status : (q.expected.judgeStatus response.status).map (·.message) =
      saidUnless (response.status = q.expected.status) ("unexpected status code, " ++
        s!"got {response.status.toNat}, expected {q.expected.status.toNat}") := by
    unfold ExpectedResponse.judgeStatus saidUnless
    split
    · rfl
    · rfl
  have type (got : String) : (q.expected.judgeContentType got).map (·.message) =
      saidUnless (got = q.expected.contentType)
        s!"unexpected content-type, got {got}, expected {q.expected.contentType}" := by
    unfold ExpectedResponse.judgeContentType saidUnless
    split
    · rfl
    · rfl
  rw [ExpectedResponse.judge, List.map_append, List.map_append, status, type]
  cases whole : response.body with
  | error reason => exact ⟨_, .unread whole, rfl⟩
  | ok body =>
    cases first : q.expected.results with
    | nil =>
      refine ⟨_, .unexpected whole first, ?_⟩
      simp only [ExpectedResponse.judgeBody, first]
      rfl
    | cons result rest =>
      refine ⟨_, .judged whole first, ?_⟩
      simp only [ExpectedResponse.judgeBody, first, List.map_map]
      rfl

/-- A response has one course. -/
theorem BodyCourse.unique {q : Query} {response : Response} {type : String}
    {first second : List String} (h : q.BodyCourse response type first)
    (h' : q.BodyCourse response type second) : first = second := by
  cases h with
  | unread lost => cases h' with
    | unread lost' =>
      rw [lost] at lost'
      cases lost'
      rfl
    | unexpected whole | judged whole => rw [lost] at whole; cases whole
  | unexpected whole bare => cases h' with
    | unread lost => rw [lost] at whole; cases whole
    | unexpected => rfl
    | judged _ other => rw [bare] at other; cases other
  | judged whole first => cases h' with
    | unread lost => rw [lost] at whole; cases whole
    | unexpected _ bare => rw [first] at bare; cases bare
    | judged whole' first' =>
      rw [whole] at whole'
      rw [first] at first'
      cases whole'
      cases first'
      rfl

/-- An attempt takes a course. -/
theorem course_attempt [Idna] (client : Client σ) (q : Query) (state : σ) :
    q.Course client state ((q.attempt client state : Attempt σ η).failures.map (·.message))
      (Effect.deeds (q.attempt client state : Attempt σ η).effects) := by
  rcases Int.lt_or_le q.delay.toInt 0 with early | delayed
  · rw [attempt_of_neg early, List.map_singleton, message_delay]
    exact .negativeDelay early
  · rw [failures_attempt delayed, deeds_attempt delayed]
    cases read : Url.read (q.endpoint ++ q.path).toList with
    | error fault =>
      rw [proceed_of_unreadable read, List.map_singleton, message_target]
      exact (List.append_nil (waited (η := η) q)).symm ▸ .unreadable delayed read
    | ok url =>
      by_cases token : Method.IsToken q.method
      · obtain ⟨method, named⟩ : ∃ method : Method, method.text = q.method :=
          ⟨⟨q.method, token.1, List.all_eq_true.mpr token.2⟩, rfl⟩
        rw [proceed_of_token read named, deeds_exchange]
        cases sent : (client.send ⟨method, url.sorted, q.sentBody⟩ state).result with
        | error reason =>
          rw [exchange_of_error sent]
          exact .unanswered delayed read named sent
        | ok response =>
          obtain ⟨body, rest, judged⟩ := bodyCourse_judge q response
          rw [exchange_of_ok sent, judged]
          exact .answered delayed read named sent response.hasType_contentType rest
      · rw [proceed_of_no_token read token]
        exact (List.append_nil (waited (η := η) q)).symm ▸ .noToken delayed read token

/-- A course is that of the attempt. -/
theorem Course.eq_attempt [Idna] {client : Client σ} {q : Query} {state : σ} {texts : List String}
    {deeds : List (Effect η)} (h : q.Course client state texts deeds) :
    texts = (q.attempt client state : Attempt σ η).failures.map (·.message) ∧
      deeds = Effect.deeds (q.attempt client state : Attempt σ η).effects := by
  cases h with
  | negativeDelay early =>
    rw [attempt_of_neg early, List.map_singleton, message_delay]
    exact ⟨rfl, rfl⟩
  | unreadable delayed read =>
    rw [failures_attempt delayed, deeds_attempt delayed, proceed_of_unreadable read,
      List.map_singleton, message_target]
    exact ⟨rfl, (List.append_nil _).symm⟩
  | noToken delayed read bad =>
    rw [failures_attempt delayed, deeds_attempt delayed, proceed_of_no_token read bad]
    exact ⟨rfl, (List.append_nil _).symm⟩
  | unanswered delayed read named sent =>
    rw [failures_attempt delayed, deeds_attempt delayed, proceed_of_token read named,
      deeds_exchange, exchange_of_error sent]
    exact ⟨rfl, rfl⟩
  | answered delayed read named sent typed rest =>
    obtain rfl := typed.eq_contentType
    obtain ⟨body', rest', judged⟩ := bodyCourse_judge q _
    rw [failures_attempt delayed, deeds_attempt delayed, proceed_of_token read named,
      deeds_exchange, exchange_of_ok sent, judged, rest.unique rest']
    exact ⟨rfl, rfl⟩

/-! ## Passing -/

/-- What holds of a query with a client where the response is as expected. -/
def Meets [Idna] (client : Client σ) (q : Query) (state : σ) : Prop :=
  ∃ (url : Url) (method : Method) (response : Response) (body : Bytes) (result : ExpectedResult)
    (rest : List ExpectedResult),
    0 ≤ q.delay.toInt ∧
    Url.read (q.endpoint ++ q.path).toList = .ok url ∧
    method.text = q.method ∧
    (client.send ⟨method, url.sorted, q.sentBody⟩ state).result = .ok response ∧
    response.body = .ok body ∧
    response.status = q.expected.status ∧
    response.HasType q.expected.contentType ∧
    q.expected.results = result :: rest ∧
    Payload.judge q.expected.contentType body result = []

/-- A course in which nothing is said is that of a query whose response is as expected. -/
theorem Course.meets [Idna] {client : Client σ} {q : Query} {state : σ} {texts : List String}
    {deeds : List (Effect η)} (h : q.Course client state texts deeds) (clean : texts = []) :
    q.Meets client state := by
  cases h with
  | answered delayed read named sent typed rest =>
    obtain ⟨good, fine⟩ := List.append_eq_nil_iff.mp clean
    obtain ⟨status, type⟩ := List.append_eq_nil_iff.mp good
    obtain rfl := saidUnless_eq_nil_iff.mp type
    cases rest with
    | judged whole first =>
      exact ⟨_, _, _, _, _, _, delayed, read, named, sent, whole, saidUnless_eq_nil_iff.mp status,
        typed, first, List.map_eq_nil_iff.mp fine⟩
    | _ => cases fine
  | _ => cases clean

/-- A query whose response is as expected has no failures. -/
theorem failures_of_meets [Idna] {client : Client σ} {q : Query} {state : σ}
    (h : q.Meets client state) :
    (q.attempt client state : Attempt σ η).failures = [] := by
  obtain ⟨url, method, response, body, result, rest, delayed, read, named, sent, whole, status,
    typed, first, fine⟩ := h
  have course : q.Course client state _ _ :=
    .answered (η := η) delayed read named sent typed (.judged whole first)
  apply List.map_eq_nil_iff.mp
  rw [← course.eq_attempt.1, saidUnless_eq_nil_iff.mpr status, saidUnless_eq_nil_iff.mpr rfl, fine]
  rfl

/-- **The verdict on a query.** An attempt has no failures exactly where its delay is not negative,
its target can be read, its method is a token, the client brings a whole response, and status,
content type and body are as expected, the body under the content type that was observed. In every
case the failures, as they are worded, and the deeds are those of the course that the query takes,
and there is one. -/
theorem attempt_verdict [Idna] (client : Client σ) (q : Query) (state : σ) :
    let attempt : Attempt σ η := q.attempt client state
    (attempt.failures = [] ↔ q.Meets client state) ∧
      ∀ texts deeds, q.Course client state texts deeds ↔
        texts = attempt.failures.map (·.message) ∧ deeds = Effect.deeds attempt.effects := by
  refine ⟨⟨fun clean => (course_attempt (η := η) client q state).meets ?_, failures_of_meets⟩,
    fun texts deeds => ?_⟩
  · rw [clean, List.map_nil]
  · constructor
    · exact Course.eq_attempt
    · rintro ⟨rfl, rfl⟩
      exact course_attempt client q state

end Query

/-- A client that answers every request with one response. -/
def Client.answering (response : Response) : Client Unit where
  send request state := ⟨[request], .ok response, state⟩

namespace Query

open LiteralDomain in
/-- A query whose response is as expected passes. Another response to it is refused for its status,
for its content type and for its body, in this order; its content type is empty, since the first of
its two headers is not readable. -/
theorem attempt_verdict_answering :
    let type (value : Bytes) : Header := ⟨"Content-Type", value⟩
    let png := Text.Utf8.encodeString "image/png"
    let body := Text.Utf8.encodeString "abc"
    let q : Query := ⟨"http://h", "/a", 0, "GET", "", ⟨200, "image/png",
      [⟨["BA7816BF8F01CFEA414140DE5DAE2223B00361A396177A9CB410FF61F20015AD"], []⟩]⟩⟩
    (q.attempt (.answering ⟨200, [type png], .ok body⟩) () : Attempt Unit Empty).failures = [] ∧
    ["unexpected status code, got 404, expected 200",
      "unexpected content-type, got , expected image/png", "unsupported content-type: got ''"] =
    (q.attempt (.answering ⟨404, [type [0xFF], type png], .ok body⟩) () :
      Attempt Unit Empty).failures.map (·.message) := by
  intro type png body q
  have readable : (Url.read "http://h/a".toList).toOption.isSome = true := by decide +kernel
  obtain ⟨url, read⟩ : ∃ url, Url.read (q.endpoint ++ q.path).toList = .ok url := by
    cases read : Url.read "http://h/a".toList with
    | error fault =>
      rw [read] at readable
      cases readable
    | ok url => exact ⟨url, read⟩
  have named : "Content-Type".toList.map Char.toLower = "content-type".toList := by decide
  have tells (value : Bytes) : (type value).TellsType := named
  have texts : ∀ b ∈ png, isHeaderText b = true := List.all_eq_true.mp (by decide +kernel)
  have clean : ∀ b ∈ png, IsReadable b := fun b mem => Response.isHeaderText_iff.mp (texts b mem)
  have torn : ∃ b ∈ [(0xFF : UInt8)], ¬ IsReadable b :=
    ⟨0xFF, List.mem_singleton_self _, fun readable =>
      absurd (Response.isHeaderText_iff.mpr readable) (by decide)⟩
  have typed : (⟨200, [type png], .ok body⟩ : Response).HasType "image/png" :=
    .readable (List.nil_append _).symm (by simp) (tells png) clean rfl
  have untyped : (⟨404, [type [0xFF], type png], .ok body⟩ : Response).HasType "" :=
    .unreadable (List.nil_append _).symm (by simp) (tells _) torn
  have verdict (response : Response) :=
    attempt_verdict (η := Empty) (Client.answering response) q ()
  constructor
  · exact (verdict _).1.mpr ⟨url, .get, _, body, _, [], by decide, read, rfl, rfl, rfl, rfl, typed,
      rfl, by decide +kernel⟩
  · have named : Method.get.text = q.method := rfl
    refine Eq.trans ?_ (((verdict _).2 _ _).mp
      (.answered (by decide) read named rfl untyped (.judged rfl rfl))).1
    decide +kernel

end Query

end MetricsHarness
