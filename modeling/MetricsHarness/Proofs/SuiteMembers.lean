import MetricsHarness.Proofs.Trees

/-!
# Suites by the names of their members

What a suite says, record by record, as lookups in the tree of its document: each member of a record
is the value under its name, or under either of its two names, or its default. A draft becomes the
record that its members and those still to be read make together (`QueryDraft.becomes?`).

The readers answer just that, whatever the order of the members is (`reads_query`), and so does the
file of a suite (`ofFile_of_treeOf?`).
-/

namespace MetricsHarness.Suite

open Yaml

/-! ## Samples and tags -/

/-- Whether a tree is something of the document's own. -/
def isNamedTree : Tree → Bool
  | .scalar tag _ _ => tag == some .named
  | .sequence tag _ => tag == some .named
  | .mapping tag _ => tag == some .named

/-- A node is given by names just if its tree is. -/
theorem isNamed_of_tree? {n : Node} {t : Tree} (told : n.tree? = some t) :
    isNamed n = isNamedTree t := by
  cases Node.hasTree told <;> rfl

/-- The element of a sample that a tree is. -/
def element? (t : Tree) : Option Scalar :=
  if isNamedTree t then none
  else match t with
    | .scalar tag style text => (scalarValue tag style text).toOption.bind elementOf
    | .sequence _ _ => none
    | .mapping _ _ => none

/-- An element of a pair is read as the one of its tree. -/
theorem reads_element (d : Document) : Reads (readElement d) element? := by
  intro n t told
  unfold readElement
  rw [d.resolve_of_tree? told, pure_bind, isNamed_of_tree? told]
  refine .guarded _ _ _ ?_
  cases Node.hasTree told with
  | @scalar mark tag style text =>
    cases value : scalarValue tag style text with
    | error wrong =>
      simp only [value]
      exact .complain _ _
    | ok v =>
      simp only [value, Except.toOption, Option.bind_some]
      cases elementOf v with
      | none => exact .complain _ _
      | some s => exact .pure s
  | sequence _ => exact .refuse _ _
  | mapping _ => exact .refuse _ _

/-- The text that a value is. -/
def textOf? : Value → Option String
  | .text s => some s
  | _ => none

/-- The sample that a tree is. -/
def sample? (t : Tree) : Option Sample :=
  if isNamedTree t then none
  else match t with
    | .scalar tag style text =>
      (scalarValue tag style text).toOption.bind fun v =>
        (textOf? v).bind fun s => (Sample.ofText s).toOption
    | .sequence _ items =>
      (items.mapM element?).bind fun elements => (Sample.ofScalars elements).toOption
    | .mapping _ _ => none

/-- A sample is answered unless it has a fault. -/
theorem answers_acceptSample (mark : Mark) (result : Except Sample.Fault Sample) :
    Answers (acceptSample mark result) result.toOption := by
  cases result with
  | ok s => exact .pure s
  | error f => exact .complain _ _

/-- A sample is read as the one of its tree. -/
theorem reads_sample (d : Document) : Reads (readSample d) sample? := by
  intro n t told
  unfold readSample
  rw [d.resolve_of_tree? told, pure_bind, isNamed_of_tree? told]
  refine .guarded _ _ _ ?_
  cases Node.hasTree told with
  | @scalar mark tag style text =>
    cases value : scalarValue tag style text with
    | error wrong =>
      simp only [value]
      exact .complain _ _
    | ok v =>
      simp only [value]
      cases v with
      | text s => exact answers_acceptSample mark _
      | null => exact .complain _ _
      | boolean b => exact .complain _ _
      | whole i => exact .complain _ _
      | wide i => exact .complain _ _
      | real x => exact .complain _ _
  | sequence trees =>
    exact ((reads_element d).readEach 0 trees).bind fun elements => answers_acceptSample _ _
  | mapping _ => exact .refuse _ _

/-- The tags that a tree is; of a name that is given again the last value stays. -/
def tags? (t : Tree) : Option Tags :=
  t.members?.bind (List.foldlM (fun tags m => m.2.text?.map (tags.insert m.1)) Tags.empty)

/-- Tags are read as those of their tree. -/
theorem reads_tags (d : Document) : Reads (readTags d) tags? := by
  intro n t told
  refine answers_members d _ told fun mark nodes members trees => ?_
  have adds : Adds
      (fun (tags : Tags) step name value => do
        let text ← inside step (d.readText value)
        return tags.insert name text)
      (List.foldlM fun tags m => m.2.text?.map (tags.insert m.1)) := by
    intro tags step name value t told
    refine ⟨_, ((reads_text d told).inside step).map (tags.insert name), fun rest => ?_⟩
    rw [List.foldlM_cons]
    rfl
  have read := adds.reads d "a string" (fun tags => Answers.pure tags) Tags.empty trees
  rwa [bind_pure] at read

/-! ## Series -/

namespace SeriesDraft

/-- The series that a draft becomes with more members. -/
def becomes? (draft : SeriesDraft) (ms : List (String × Tree)) : Option Series := do
  let target ← member? ["target"] Tree.text? none draft.target ms
  let points ← member? ["datapoints"] (Tree.list? sample?) (some []) draft.points ms
  let tags ← member? ["tags"] tags? (some Tags.empty) draft.tags ms
  return ⟨target, points, tags⟩

/-- A member of a series makes of the draft what it makes of the tree's. -/
theorem adds (d : Document) (mark : Mark) : Adds (add d mark) becomes? := by
  intro draft step name value t told
  unfold add
  -- One case for each name. The lookups before that of the member come after its new value, which
  -- does not meet theirs.
  split
  · refine ⟨_, ((reads_text d).readOnce mark _ draft.target step told).map _, fun rest => ?_⟩
    simp [becomes?, member?, Option.bind_assoc, Option.bind_map]
  · refine ⟨_, (((reads_sample d).readItems d).readOnce mark _ draft.points step told).map _,
      fun rest => ?_⟩
    simp [becomes?, member?, once?_first, Option.bind_assoc, Option.bind_map]
  · refine ⟨_, ((reads_tags d).readOnce mark _ draft.tags step told).map _, fun rest => ?_⟩
    simp [becomes?, member?, once?_first, Option.bind_assoc, Option.bind_map]
  · refine ⟨_, .pure _, fun rest => ?_⟩
    simp only [imp_false] at *
    simp [becomes?, member?, *]

end SeriesDraft

/-- The series that a tree is. -/
def series? (t : Tree) : Option Series :=
  t.members?.bind (SeriesDraft.becomes? ⟨none, none, none⟩)

/-- A series is read as the one of its tree. -/
theorem reads_series (d : Document) : Reads (readSeries d) series? := by
  intro n t told
  refine answers_members d _ told fun mark nodes members trees => ?_
  refine (SeriesDraft.adds d mark).reads d memberName (fun draft => ?_) _ trees
  simp only [SeriesDraft.becomes?, member?, Option.or_none, Option.or_some]
  refine (Answers.required mark _ draft.target).bind fun target => ?_
  exact .pure _

/-! ## Expected results -/

namespace ResultDraft

/-- The expected result that a draft becomes with more members. -/
def becomes? (draft : ResultDraft) (ms : List (String × Tree)) : Option ExpectedResult := do
  let digests ← member? ["sha256"] (Tree.list? Tree.text?) (some []) draft.digests ms
  let series ← member? ["metrics"] (Tree.list? series?) (some []) draft.series ms
  return ⟨digests, series⟩

/-- A member of an expected result makes of the draft what it makes of the tree's. -/
theorem adds (d : Document) (mark : Mark) : Adds (add d mark) becomes? := by
  intro draft step name value t told
  unfold add
  split
  · refine ⟨_, (((reads_text d).readItems d).readOnce mark _ draft.digests step told).map _,
      fun rest => ?_⟩
    simp [becomes?, member?, Option.bind_assoc, Option.bind_map]
  · refine ⟨_, (((reads_series d).readItems d).readOnce mark _ draft.series step told).map _,
      fun rest => ?_⟩
    simp [becomes?, member?, once?_first, Option.bind_assoc, Option.bind_map]
  · refine ⟨_, .pure _, fun rest => ?_⟩
    simp only [imp_false] at *
    simp [becomes?, member?, *]

end ResultDraft

/-- The expected result that a tree is. -/
def result? (t : Tree) : Option ExpectedResult :=
  t.members?.bind (ResultDraft.becomes? ⟨none, none⟩)

/-- An expected result is read as the one of its tree. -/
theorem reads_result (d : Document) : Reads (readResult d) result? := by
  intro n t told
  refine answers_members d _ told fun mark nodes members trees => ?_
  refine (ResultDraft.adds d mark).reads d memberName (fun draft => ?_) _ trees
  simp only [ResultDraft.becomes?, member?, Option.or_some]
  exact .pure _

/-! ## Expected responses -/

namespace ResponseDraft

/-- The expected response that a draft becomes with more members. -/
def becomes? (draft : ResponseDraft) (ms : List (String × Tree)) : Option ExpectedResponse := do
  let status ← member? ["httpCode"] Tree.status? none draft.status ms
  let contentType ← member? ["contentType"] Tree.text? none draft.contentType ms
  let results ← member? ["expectedResults"] (Tree.list? result?) (some []) draft.results ms
  return ⟨status, contentType, results⟩

/-- A member of an expected response makes of the draft what it makes of the tree's. -/
theorem adds (d : Document) (mark : Mark) : Adds (add d mark) becomes? := by
  intro draft step name value t told
  unfold add
  split
  · refine ⟨_, ((reads_status d).readOnce mark _ draft.status step told).map _, fun rest => ?_⟩
    simp [becomes?, member?, Option.bind_assoc, Option.bind_map]
  · refine ⟨_, ((reads_text d).readOnce mark _ draft.contentType step told).map _, fun rest => ?_⟩
    simp [becomes?, member?, once?_first, Option.bind_assoc, Option.bind_map]
  · refine ⟨_, (((reads_result d).readItems d).readOnce mark _ draft.results step told).map _,
      fun rest => ?_⟩
    simp [becomes?, member?, once?_first, Option.bind_assoc, Option.bind_map]
  · refine ⟨_, .pure _, fun rest => ?_⟩
    simp only [imp_false] at *
    simp [becomes?, member?, *]

end ResponseDraft

/-- The expected response that a tree is. -/
def response? (t : Tree) : Option ExpectedResponse :=
  t.members?.bind (ResponseDraft.becomes? ⟨none, none, none⟩)

/-- An expected response is read as the one of its tree. -/
theorem reads_response (d : Document) : Reads (readResponse d) response? := by
  intro n t told
  refine answers_members d _ told fun mark nodes members trees => ?_
  refine (ResponseDraft.adds d mark).reads d memberName (fun draft => ?_) _ trees
  simp only [ResponseDraft.becomes?, member?, Option.or_none, Option.or_some]
  refine (Answers.required mark _ draft.status).bind fun status => ?_
  refine (Answers.required mark _ draft.contentType).bind fun contentType => ?_
  exact .pure _

/-! ## Queries -/

namespace QueryDraft

/-- The query that a draft becomes with more members. -/
def becomes? (draft : QueryDraft) (ms : List (String × Tree)) : Option Query := do
  let endpoint ← member? ["endpoint"] Tree.text? none draft.endpoint ms
  let path ← member? ["URL", "path"] Tree.text? none draft.path ms
  let delay ← member? ["delay"] Tree.signed? (some 0) draft.delay ms
  let method ← member? ["type", "method"] Tree.text? (some Query.defaultMethod) draft.method ms
  let body ← member? ["body"] Tree.text? (some "") draft.body ms
  let expected ← member? ["expectedResponse"] response? none draft.expected ms
  return ⟨endpoint, path, delay, method, body, expected⟩

/-- A member of a query makes of the draft what it makes of the tree's. -/
theorem adds (d : Document) (mark : Mark) : Adds (add d mark) becomes? := by
  intro draft step name value t told
  unfold add
  split
  · refine ⟨_, ((reads_text d).readOnce mark _ draft.endpoint step told).map _, fun rest => ?_⟩
    simp [becomes?, member?, Option.bind_assoc, Option.bind_map]
  · refine ⟨_, ((reads_text d).readOnce mark _ draft.path step told).map _, fun rest => ?_⟩
    simp [becomes?, member?, once?_first, Option.bind_assoc, Option.bind_map]
  · refine ⟨_, ((reads_text d).readOnce mark _ draft.path step told).map _, fun rest => ?_⟩
    simp [becomes?, member?, once?_first, Option.bind_assoc, Option.bind_map]
  · refine ⟨_, ((reads_signed d).readOnce mark _ draft.delay step told).map _, fun rest => ?_⟩
    simp [becomes?, member?, once?_first, Option.bind_assoc, Option.bind_map]
  · refine ⟨_, ((reads_text d).readOnce mark _ draft.method step told).map _, fun rest => ?_⟩
    simp [becomes?, member?, once?_first, Option.bind_assoc, Option.bind_map]
  · refine ⟨_, ((reads_text d).readOnce mark _ draft.method step told).map _, fun rest => ?_⟩
    simp [becomes?, member?, once?_first, Option.bind_assoc, Option.bind_map]
  · refine ⟨_, ((reads_text d).readOnce mark _ draft.body step told).map _, fun rest => ?_⟩
    simp [becomes?, member?, once?_first, Option.bind_assoc, Option.bind_map]
  · refine ⟨_, ((reads_response d).readOnce mark _ draft.expected step told).map _, fun rest => ?_⟩
    simp [becomes?, member?, once?_first, Option.bind_assoc, Option.bind_map]
  · refine ⟨_, .pure _, fun rest => ?_⟩
    simp only [imp_false] at *
    simp [becomes?, member?, *]

end QueryDraft

/-- The query that a tree is. -/
def query? (t : Tree) : Option Query :=
  t.members?.bind (QueryDraft.becomes? ⟨none, none, none, none, none, none⟩)

/-- A query is read as the one of its tree. -/
theorem reads_query (d : Document) : Reads (readQuery d) query? := by
  intro n t told
  refine answers_members d _ told fun mark nodes members trees => ?_
  refine (QueryDraft.adds d mark).reads d memberName (fun draft => ?_) _ trees
  simp only [QueryDraft.becomes?, member?, Option.or_none, Option.or_some]
  refine (Answers.required mark _ draft.endpoint).bind fun endpoint => ?_
  refine (Answers.required mark _ draft.path).bind fun path => ?_
  refine (Answers.required mark _ draft.expected).bind fun expected => ?_
  exact .pure _

/-! ## Apps -/

namespace AppDraft

/-- The app that a draft becomes with more members. -/
def becomes? (draft : AppDraft) (ms : List (String × Tree)) : Option App := do
  let name ← member? ["name"] Tree.text? none draft.name ms
  let binary ← member? ["binary"] Tree.text? none draft.binary ms
  let args ← member? ["args"] (Tree.list? Tree.text?) (some []) draft.args ms
  return ⟨name, binary, args⟩

/-- A member of an app makes of the draft what it makes of the tree's. -/
theorem adds (d : Document) (mark : Mark) : Adds (add d mark) becomes? := by
  intro draft step name value t told
  unfold add
  split
  · refine ⟨_, ((reads_text d).readOnce mark _ draft.name step told).map _, fun rest => ?_⟩
    simp [becomes?, member?, Option.bind_assoc, Option.bind_map]
  · refine ⟨_, ((reads_text d).readOnce mark _ draft.binary step told).map _, fun rest => ?_⟩
    simp [becomes?, member?, once?_first, Option.bind_assoc, Option.bind_map]
  · refine ⟨_, (((reads_text d).readItems d).readOnce mark _ draft.args step told).map _,
      fun rest => ?_⟩
    simp [becomes?, member?, once?_first, Option.bind_assoc, Option.bind_map]
  · refine ⟨_, .pure _, fun rest => ?_⟩
    simp only [imp_false] at *
    simp [becomes?, member?, *]

end AppDraft

/-- The app that a tree is. -/
def app? (t : Tree) : Option App :=
  t.members?.bind (AppDraft.becomes? ⟨none, none, none⟩)

/-- An app is read as the one of its tree. -/
theorem reads_app (d : Document) : Reads (readApp d) app? := by
  intro n t told
  refine answers_members d _ told fun mark nodes members trees => ?_
  refine (AppDraft.adds d mark).reads d memberName (fun draft => ?_) _ trees
  simp only [AppDraft.becomes?, member?, Option.or_none, Option.or_some]
  refine (Answers.required mark _ draft.name).bind fun name => ?_
  refine (Answers.required mark _ draft.binary).bind fun binary => ?_
  exact .pure _

/-! ## Suites -/

namespace Draft

/-- The suite that a draft becomes with more members. -/
def becomes? (draft : Draft) (ms : List (String × Tree)) : Option Suite := do
  let apps ← member? ["apps"] (Tree.list? app?) (some []) draft.apps ms
  let queries ← member? ["queries"] (Tree.list? query?) (some []) draft.queries ms
  return ⟨apps, queries⟩

/-- A member of a suite makes of the draft what it makes of the tree's. -/
theorem adds (d : Document) (mark : Mark) : Adds (add d mark) becomes? := by
  intro draft step name value t told
  unfold add
  split
  · refine ⟨_, (((reads_app d).readItems d).readOnce mark _ draft.apps step told).map _,
      fun rest => ?_⟩
    simp [becomes?, member?, Option.bind_assoc, Option.bind_map]
  · refine ⟨_, (((reads_query d).readItems d).readOnce mark _ draft.queries step told).map _,
      fun rest => ?_⟩
    simp [becomes?, member?, once?_first, Option.bind_assoc, Option.bind_map]
  · refine ⟨_, .pure _, fun rest => ?_⟩
    simp only [imp_false] at *
    simp [becomes?, member?, *]

end Draft

/-- The suite that a tree is. -/
def suite? (t : Tree) : Option Suite :=
  t.members?.bind (Draft.becomes? ⟨none, none⟩)

/-- A suite is read as the one of its tree. -/
theorem reads_suite (d : Document) : Reads (ofNode d) suite? := by
  intro n t told
  refine answers_members d _ told fun mark nodes members trees => ?_
  refine (Draft.adds d mark).reads d memberName (fun draft => ?_) _ trees
  simp only [Draft.becomes?, member?, Option.or_some]
  exact .pure _

/-! ## Files -/

/-- The tree of the document that the bytes of a file are. -/
def treeOf? (bytes : Bytes) : Option Tree :=
  (Text.Utf8.decode? bytes).bind fun text => (Document.ofText text).toOption.bind (·.tree?)

/-- The value of a document is that of its tree. -/
theorem value_ofNode {d : Document} {t : Tree} (told : d.tree? = some t) :
    (d.value (ofNode d) ⟨[], []⟩).toOption = suite? t := by
  unfold Document.tree? at told
  unfold Document.value
  cases root : d.root with
  | none =>
    rw [root] at told
    cases told
    rfl
  | some node =>
    rw [root] at told
    have read := reads_suite d told d.allowance
    simp only [toOption_map, read, Option.map_map, Function.comp_def, Option.map_id']

/-- The file of a suite is read as the suite that its tree is; if that is none, the fault is one of
the suite. -/
theorem ofFile_of_treeOf? (path : String) {bytes : Bytes} {t : Tree}
    (told : treeOf? bytes = some t) :
    (∃ suite, suite? t = some suite ∧ ofFile path (.ok bytes) = .ok suite) ∨
    (suite? t = none ∧ ∃ fault, ofFile path (.ok bytes) = .error (.suite fault)) := by
  obtain ⟨text, decodes, told⟩ := Option.bind_eq_some_iff.mp told
  obtain ⟨d, document, told⟩ := Option.bind_eq_some_iff.mp told
  have content : textOfFile (.ok bytes) = .ok text := by simp only [textOfFile, decodes]
  simp only [ofFile, ofText, ofContent, content]
  cases parsed : Document.ofText text with
  | error f =>
    rw [parsed] at document
    cases document
  | ok d' =>
    rw [parsed] at document
    cases document
    simp only [← value_ofNode told]
    cases d.value (ofNode d) ⟨[], []⟩ with
    | ok suite => exact .inl ⟨suite, rfl, rfl⟩
    | error c => exact .inr ⟨rfl, _, rfl⟩

/-- A file gives the suite that its tree is. -/
theorem ofFile_eq_ok_iff (path : String) {bytes : Bytes} {t : Tree} (told : treeOf? bytes = some t)
    (suite : Suite) : ofFile path (.ok bytes) = .ok suite ↔ suite? t = some suite := by
  rcases ofFile_of_treeOf? path told with ⟨suite', is, read⟩ | ⟨none, fault, read⟩
  · rw [is, read, Except.ok.injEq, Option.some.injEq]
  · simp [none, read]

/-- A file is refused just if its tree is no suite. -/
theorem exists_ofFile_eq_error_iff (path : String) {bytes : Bytes} {t : Tree}
    (told : treeOf? bytes = some t) :
    (∃ fault, ofFile path (.ok bytes) = .error (.suite fault)) ↔ suite? t = none := by
  rcases ofFile_of_treeOf? path told with ⟨suite, is, read⟩ | ⟨none, fault, read⟩
  · simp [is, read]
  · simp [none, read]

end MetricsHarness.Suite
