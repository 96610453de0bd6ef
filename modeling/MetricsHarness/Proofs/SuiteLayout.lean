import MetricsHarness.Proofs.SuiteMembers
import MetricsHarness.Proofs.TreeShapes

/-!
# The layout of a suite

Each record of a suite has a shape, which names its members and their defaults, and the shape fits
what the record is read as (`query_fits`). So the names of a document decide what suite it is, and
its layout plays no part (`ofFile_layout`): documents that are alike are read as the same suite, in
whichever texts they are written. A document that gives a member twice is refused.

Documents with aliases, or with keys that are no scalars, have no tree, and nothing is said of them
here. The tags of a series have no names that are known in advance: of a tag that is given again
the last value stays, and in what order tags stand is no matter of this layout.
-/

namespace MetricsHarness.Suite

open Yaml

/-! ## Shapes of records -/

/-- The members of a series. -/
def seriesShape : Shape where
  fields := [.required ["target"], .optional ["datapoints"] (Tree.list? sample?) [],
    .optional ["tags"] tags? Tags.empty]
  apart := by decide

theorem series_fits : seriesShape.Fits series? := by
  apply Asks.fits
  refine .next Field.required_fits fun target => ?_
  refine .next Field.optional_fits fun points => ?_
  refine .next Field.optional_fits fun tags => ?_
  exact .done _

/-- The members of an expected result. -/
def resultShape : Shape where
  fields := [.optional ["sha256"] (Tree.list? Tree.text?) [], .list ["metrics"] seriesShape]
  apart := by decide

theorem result_fits : resultShape.Fits result? := by
  apply Asks.fits
  refine .next Field.optional_fits fun digests => ?_
  refine .next (Field.list_fits series_fits) fun series => ?_
  exact .done _

/-- The members of an expected response. -/
def responseShape : Shape where
  fields := [.required ["httpCode"], .required ["contentType"],
    .list ["expectedResults"] resultShape]
  apart := by decide

theorem response_fits : responseShape.Fits response? := by
  apply Asks.fits
  refine .next Field.required_fits fun status => ?_
  refine .next Field.required_fits fun contentType => ?_
  refine .next (Field.list_fits result_fits) fun results => ?_
  exact .done _

/-- The members of a query. -/
def queryShape : Shape where
  fields := [.required ["endpoint"], .required ["URL", "path"],
    .optional ["delay"] Tree.signed? 0,
    .optional ["type", "method"] Tree.text? Query.defaultMethod,
    .optional ["body"] Tree.text? "", .record ["expectedResponse"] responseShape]
  apart := by decide

/-- The shape of a query is the one that is read. -/
theorem query_fits : queryShape.Fits query? := by
  apply Asks.fits
  refine .next Field.required_fits fun endpoint => ?_
  refine .next Field.required_fits fun path => ?_
  refine .next Field.optional_fits fun delay => ?_
  refine .next Field.optional_fits fun method => ?_
  refine .next Field.optional_fits fun body => ?_
  refine .next (Field.record_fits response_fits) fun expected => ?_
  exact .done _

/-- The members of an app. -/
def appShape : Shape where
  fields := [.required ["name"], .required ["binary"],
    .optional ["args"] (Tree.list? Tree.text?) []]
  apart := by decide

/-- The shape of an app is the one that is read. -/
theorem app_fits : appShape.Fits app? := by
  apply Asks.fits
  refine .next Field.required_fits fun name => ?_
  refine .next Field.required_fits fun binary => ?_
  refine .next Field.optional_fits fun args => ?_
  exact .done _

/-- The members of a suite. -/
def suiteShape : Shape where
  fields := [.list ["apps"] appShape, .list ["queries"] queryShape]
  apart := by decide

/-- The shape of a suite is the one that is read. -/
theorem suite_fits : suiteShape.Fits suite? := by
  apply Asks.fits
  refine .next (Field.list_fits app_fits) fun apps => ?_
  refine .next (Field.list_fits query_fits) fun queries => ?_
  exact .done _

/-! ## Documents -/

/-- **The layout of a suite plays no part.** Documents between which there are changes of layout
only are read as the same suite: members in another order, under another of their names, more of
them that nobody asks for, or that are their own defaults, on any level. A document that gives a
member twice, under whichever of its names and on whichever level, is refused as a suite. -/
theorem ofFile_layout {bytes : Bytes} {t : Tree} (told : treeOf? bytes = some t) :
    (∀ path path' bytes' t' suite, treeOf? bytes' = some t' → suiteShape.Alike t t' →
      ofFile path (.ok bytes) = .ok suite → ofFile path' (.ok bytes') = .ok suite) ∧
    (suiteShape.Repeats t → ∀ path, ∃ fault, ofFile path (.ok bytes) = .error (.suite fault)) := by
  constructor
  · intro path path' bytes' t' suite told' alike accepted
    have same : suite? t = suite? t' := suite_fits.alike alike
    rw [ofFile_eq_ok_iff path told, same] at accepted
    exact (ofFile_eq_ok_iff path' told' suite).mpr accepted
  · intro repeats path
    rw [exists_ofFile_eq_error_iff path told]
    exact suite_fits.repeats repeats

/-! ## A query in two layouts -/

namespace TwoLayouts

/-- The bytes of a file of lines. -/
def bytesOf (lines : List String) : Bytes := Text.Utf8.encodeString ("\n".intercalate lines)

/-- The tree of a text without quotes. -/
def plain (text : String) : Tree := .scalar none .plain text

/-- The tree of a suite of one query. -/
def treeOf (members : List (String × Tree)) : Tree :=
  .mapping none [("queries", .sequence none [.mapping none members])]

/-- A query with the members it needs. -/
def short : Bytes :=
  bytesOf ["queries:", "- URL: u", "  endpoint: e", "  expectedResponse:", "    httpCode: 200",
    "    contentType: c"]

def shortMembers : List (String × Tree) :=
  [("URL", plain "u"), ("endpoint", plain "e"),
    ("expectedResponse", .mapping none [("httpCode", plain "200"), ("contentType", plain "c")])]

/-- The query in another order, with its path under the other name, a default and a note. -/
def long : Bytes :=
  bytesOf ["queries:", "- note: n", "  delay: 0", "  expectedResponse:", "    contentType: c",
    "    httpCode: 200", "  endpoint: e", "  path: u"]

def longMembers : List (String × Tree) :=
  [("note", plain "n"), ("delay", plain "0"),
    ("expectedResponse", .mapping none [("contentType", plain "c"), ("httpCode", plain "200")]),
    ("endpoint", plain "e"), ("path", plain "u")]

/-- A query that gives its path under both names. -/
def twice : Bytes := bytesOf ["queries:", "- URL: u", "  path: u"]

def twiceMembers : List (String × Tree) := [("URL", plain "u"), ("path", plain "u")]

/-- The suite of the query. -/
def suite : Suite := ⟨[], [⟨"e", "u", 0, "GET", "", ⟨200, "c", []⟩⟩]⟩

/-- The two layouts of a query differ by changes that its shape allows. -/
theorem members_alike : Relation.EqvGen (Change queryShape) shortMembers longMembers := by
  have name : Change queryShape shortMembers (("path", plain "u") :: shortMembers.tail) :=
    .name (f := .required ["URL", "path"]) (by simp [queryShape]) (by decide) (by decide) _ _
  have order : Change queryShape (("path", plain "u") :: shortMembers.tail)
      (("path", plain "u") :: shortMembers.tail).reverse :=
    .order (List.reverse_perm _).symm
  have response : responseShape.Alike
      (.mapping none [("httpCode", plain "200"), ("contentType", plain "c")])
      (.mapping none [("contentType", plain "c"), ("httpCode", plain "200")]) :=
    ⟨_, _, rfl, rfl, .rel _ _ (.order (.swap _ _ _))⟩
  have value : Change queryShape (("path", plain "u") :: shortMembers.tail).reverse
      (longMembers.drop 2) :=
    .value (f := .record ["expectedResponse"] responseShape) (by simp [queryShape]) (by decide)
      response _
  have default : Change queryShape (longMembers.drop 2) longMembers.tail :=
    .default (f := .optional ["delay"] Tree.signed? 0) (by simp [queryShape]) (by decide)
      (by decide) (by decide)
  have unknown : Change queryShape longMembers.tail longMembers := .unknown (by decide) _ _
  exact .trans _ _ _ (.rel _ _ name) (.trans _ _ _ (.rel _ _ order) (.trans _ _ _ (.rel _ _ value)
    (.trans _ _ _ (.rel _ _ default) (.rel _ _ unknown))))

/-- The two suites are alike. -/
theorem alike : suiteShape.Alike (treeOf shortMembers) (treeOf longMembers) := by
  have query : queryShape.Alike (.mapping none shortMembers) (.mapping none longMembers) :=
    ⟨_, _, rfl, rfl, members_alike⟩
  have queries : (Field.list ["queries"] queryShape).Alike
      (.sequence none [.mapping none shortMembers]) (.sequence none [.mapping none longMembers]) :=
    ⟨_, _, rfl, rfl, .cons query .nil⟩
  exact ⟨_, _, rfl, rfl, .rel _ _ (.value (.tail _ (.head _)) (.head _) queries _)⟩

/-- The third suite repeats a member. -/
theorem repeats : suiteShape.Repeats (treeOf twiceMembers) := by
  have query : queryShape.Repeats (.mapping none twiceMembers) :=
    ⟨_, rfl, .required ["URL", "path"], by simp [queryShape], .inl (by decide)⟩
  exact ⟨_, rfl, .list ["queries"] queryShape, by simp [suiteShape],
    .inr ⟨_, .head _, _, rfl, _, .head _, query⟩⟩

/-- Both layouts of the query are read as one suite, and giving its path twice is a fault. -/
theorem ofFile_layout_of_query :
    (treeOf? short = some (treeOf shortMembers) ∧ treeOf? long = some (treeOf longMembers) ∧
      suiteShape.Alike (treeOf shortMembers) (treeOf longMembers) ∧
      ofFile "short" (.ok short) = .ok suite ∧ ofFile "long" (.ok long) = .ok suite) ∧
    treeOf? twice = some (treeOf twiceMembers) ∧ suiteShape.Repeats (treeOf twiceMembers) ∧
      ∃ fault, ofFile "twice" (.ok twice) = .error (.suite fault) := by
  have isShort : treeOf? short = some (treeOf shortMembers) := by decide +kernel
  have isLong : treeOf? long = some (treeOf longMembers) := by decide +kernel
  have isTwice : treeOf? twice = some (treeOf twiceMembers) := by decide +kernel
  have read : ofFile "short" (.ok short) = .ok suite := by decide +kernel
  refine ⟨⟨isShort, isLong, alike, read, ?_⟩, isTwice, repeats, ?_⟩
  · exact (ofFile_layout isShort).1 _ _ _ _ _ isLong alike read
  · exact (ofFile_layout isTwice).2 repeats _

end TwoLayouts

end MetricsHarness.Suite
