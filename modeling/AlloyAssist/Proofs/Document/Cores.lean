import AlloyAssist.Document.Check
import AlloyAssist.Document.Outline
import AlloyAssist.Proofs.Line.Core

/-!
# Documents with the same cores

Checking and outlining ask every line for its core only, so two documents whose lines
have the same cores, one by one, have the same issues and the same outline. How a line
is indented, and what blanks it ends with, never matters.
-/

namespace AlloyAssist

open Text

namespace Check

@[simp] theorem lineProblems_trim (catalog : Catalog) (seen : List String) (line : List Char) :
    lineProblems catalog seen (trim line) = lineProblems catalog seen line := by
  simp only [lineProblems, attributeProblems, quoteProblems, Declaration.read?_trim,
    Attribute.read?_trim, Line.quoteCount_trim, LineKind.classify_trim, trim_trim]

@[simp] theorem declaredLabels_trim (line : List Char) :
    declaredLabels (trim line) = declaredLabels line := by
  simp only [declaredLabels, Declaration.read?_trim]

theorem lineIssues_map_trim (catalog : Catalog) (index : Nat) (seen : List String)
    (lines : List (List Char)) :
    lineIssues catalog index seen (lines.map trim) = lineIssues catalog index seen lines := by
  induction lines generalizing index seen with
  | nil => rfl
  | cons line lines ih =>
      simp only [List.map_cons, lineIssues, Line.isCode_trim, lineProblems_trim,
        declaredLabels_trim, ih]

theorem braceBalance_map_trim (lines : List (List Char)) :
    braceBalance (lines.map trim) = braceBalance lines := by
  have codeLines : (Line.isCode ∘ trim) = Line.isCode := funext Line.isCode_trim
  have deltas : (Line.braceDelta ∘ trim) = Line.braceDelta := funext Line.braceDelta_trim
  rw [braceBalance, List.filter_map, codeLines, List.map_map, deltas, braceBalance]

theorem issues_map_trim (catalog : Catalog) (lines : List (List Char)) :
    issues catalog (lines.map trim) = issues catalog lines := by
  rw [issues, lineIssues_map_trim, braceBalance_map_trim, List.length_map, issues]

/-- Documents with the same cores have the same issues. -/
theorem issues_congr {left right : List (List Char)} (cores : left.map trim = right.map trim)
    (catalog : Catalog) : issues catalog left = issues catalog right := by
  rw [← issues_map_trim, cores, issues_map_trim]

end Check

namespace Outline

theorem closingLine?_map_trim (depth : Int) (index : Nat) (lines : List (List Char)) :
    closingLine? depth index (lines.map trim) = closingLine? depth index lines := by
  induction lines generalizing depth index with
  | nil => rfl
  | cons line lines ih =>
      simp only [List.map_cons, closingLine?, Line.isCode_trim, Line.braceDelta_trim, ih]

theorem symbolsFrom_map_trim (lastLine index : Nat) (lines : List (List Char)) :
    symbolsFrom lastLine index (lines.map trim) = symbolsFrom lastLine index lines := by
  induction lines generalizing index with
  | nil => rfl
  | cons line lines ih =>
      simp only [List.map_cons, symbolsFrom, closingLineFrom?, Line.isCode_trim,
        Line.braceDelta_trim, Declaration.read?_trim, closingLine?_map_trim, ih]

/-- Documents with the same cores have the same outline. -/
theorem symbols_congr {left right : List (List Char)} (cores : left.map trim = right.map trim) :
    symbols left = symbols right := by
  have length : left.length = right.length := by
    simpa only [List.length_map] using congrArg List.length cores
  rw [symbols, ← symbolsFrom_map_trim, cores, symbolsFrom_map_trim, length, symbols]

end Outline

end AlloyAssist
