import MetricsHarness.Proofs.Numerals
import MetricsHarness.Proofs.Pieces
import MetricsHarness.Report.Line

/-!
# Rows of a printed text

A text that is printed is cut into rows at its line breaks (`Text.rows`). A line that the harness
prints is meant to be a row, but it is one only if what it shows holds no line break: labels and
objections are printed as they are. In general rows that are printed come back with each of them cut
at the line breaks it holds (`Text.rows_ofRows`).

The rows of a query are the one with its mark and those of the objections below it. Marks are told
from anything else by what a row begins with.
-/

namespace MetricsHarness

/-! ## Rows -/

namespace Text

/-- The rows of a text. -/
def rows (text : String) : List String := (pieces '\n' text.toList).map String.ofList

/-- A numeral is written without line breaks. -/
theorem free_numeral (n : Nat) : '\n' ∉ (numeral n).toList := by
  rw [numeral, String.toList_ofList]
  intro mem
  exact absurd (isDigit_of_mem_numeralChars mem) (by decide)

end Text

/-! ## Lines and their rows -/

namespace Line

/-- The lines about a query with objections. -/
def onQuery (number : Nat) (label : String) : List String → List Line
  | [] => [.passed number label]
  | objections => .failed number label :: objections.map .objection

/-- The row of a text with the mark of a query. -/
def markRow (number : Nat) (label : String) : List String → String
  | [] => s!"  ✓ Query {Text.numeral number}: {label}"
  | _ => s!"  ✗ Query {Text.numeral number}: {label}"

/-- The row of a text with an objection. -/
def objectionRow (objection : String) : String := s!"      {objection}"

/-- The rows about a query: the one with its mark, and below it the objections. -/
def queryRows (number : Nat) (label : String) (objections : List String) : List String :=
  markRow number label objections :: objections.map objectionRow

/-- The row with the verdict on a run. -/
def summaryRow (broken total : Nat) : String :=
  if broken = 0 then s!"✓ All {Text.numeral total} queries passed"
  else s!"✗ {Text.numeral broken} of {Text.numeral total} queries failed"

/-- A row with a mark holds no line break but those of its label. -/
theorem free_markRow {number : Nat} {label : String} (free : '\n' ∉ label.toList)
    (objections : List String) : '\n' ∉ (markRow number label objections).toList := by
  cases objections with
  | nil => simp [markRow, ToString.toString, Text.free_numeral, free]
  | cons first rest => simp [markRow, ToString.toString, Text.free_numeral, free]

/-- An objection without line breaks stays within its row. -/
theorem free_objectionRow {o : String} (free : '\n' ∉ o.toList) :
    '\n' ∉ (objectionRow o).toList := by
  simp [objectionRow, ToString.toString, free]

/-- A label and objections without line breaks stay within their rows. -/
theorem free_queryRows {number : Nat} {label : String} {objections : List String}
    (free : '\n' ∉ label.toList) (others : ∀ o ∈ objections, '\n' ∉ o.toList) :
    ∀ row ∈ queryRows number label objections, '\n' ∉ row.toList := by
  refine List.forall_mem_cons.mpr ⟨free_markRow free objections, ?_⟩
  intro row mem
  obtain ⟨o, within, rfl⟩ := List.mem_map.mp mem
  exact free_objectionRow (others o within)

theorem free_heading {path : String} (free : '\n' ∉ path.toList) :
    '\n' ∉ s!"Running Suite: {path}".toList := by
  simp [ToString.toString, free]

/-- The summary stays within its row. -/
theorem free_summaryRow (broken total : Nat) : '\n' ∉ (summaryRow broken total).toList := by
  unfold summaryRow
  split
  · simp [ToString.toString, Text.free_numeral]
  · simp [ToString.toString, Text.free_numeral]

end Line

end MetricsHarness
