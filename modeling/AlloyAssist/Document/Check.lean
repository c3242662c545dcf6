import AlloyAssist.Catalog.Basic
import AlloyAssist.Document.Issue
import AlloyAssist.Line.Declaration
import AlloyAssist.Line.Kind
import AlloyAssist.Text.Lines

/-!
# Checking a document

Code lines are looked at one by one. What a line is blamed for depends on the
line, on the catalog and on the labels that code lines above it declare; the
braces of the whole document are weighed once, at its end.
-/

namespace AlloyAssist

open Text

namespace Check

/-- What is wrong with a declaration, given the full labels declared above. -/
def declarationProblems (catalog : Catalog) (seen : List String)
    (declaration : Declaration) : List Problem :=
  (if declaration.fullLabel ∈ seen then [.duplicateLabel declaration.fullLabel] else []) ++
    (if catalog.accepts declaration.typeName then [] else [.unknownType declaration.typeName]) ++
    (if trim declaration.label.toList = [] then [.emptyLabel] else [])

/-- An attribute whose line ends at the equals sign has no value. -/
def attributeProblems (line : List Char) : List Problem :=
  match Attribute.read? line with
  | some name => if (trim line).getLast? = some '=' then [.missingValue name] else []
  | none => []

/-- Quotes pair up on their line, unless it is a comment. -/
def quoteProblems (line : List Char) : List Problem :=
  if Line.quoteCount line % 2 = 1 ∧ LineKind.classify line ≠ .lineComment then
    [.unclosedString]
  else []

/-- All that is wrong with a code line, given the full labels declared above. -/
def lineProblems (catalog : Catalog) (seen : List String) (line : List Char) : List Problem :=
  (match Declaration.read? line with
    | some declaration => declarationProblems catalog seen declaration
    | none => []) ++
    attributeProblems line ++ quoteProblems line

/-- The full label that a line declares, if any. -/
def declaredLabels (line : List Char) : List String :=
  ((Declaration.read? line).map Declaration.fullLabel).toList

/-- The issues of consecutive lines. `index` numbers the first of them and `seen`
holds the full labels declared above it. -/
def lineIssues (catalog : Catalog) (index : Nat) (seen : List String) :
    List (List Char) → List Issue
  | [] => []
  | line :: lines =>
      if Line.isCode line then
        (lineProblems catalog seen line).map (Problem.toIssue index) ++
          lineIssues catalog (index + 1) (declaredLabels line ++ seen) lines
      else lineIssues catalog (index + 1) seen lines

/-- Opening braces less closing braces over all code lines. -/
def braceBalance (lines : List (List Char)) : Int :=
  ((lines.filter Line.isCode).map Line.braceDelta).foldr (· + ·) 0

@[simp] theorem braceBalance_nil : braceBalance [] = 0 := rfl

/-- A code line counts with its own braces. -/
theorem braceBalance_cons_of_isCode {line : List Char} (code : Line.isCode line = true)
    (lines : List (List Char)) :
    braceBalance (line :: lines) = Line.braceDelta line + braceBalance lines := by
  rw [braceBalance, List.filter_cons_of_pos code]
  rfl

/-- Any other line does not count. -/
theorem braceBalance_cons_of_not_isCode {line : List Char} (skipped : ¬Line.isCode line = true)
    (lines : List (List Char)) : braceBalance (line :: lines) = braceBalance lines := by
  rw [braceBalance, List.filter_cons_of_neg skipped]
  rfl

/-- What an uneven brace balance means. -/
def balanceProblems (balance : Int) : List Problem :=
  if 0 < balance then [.unclosedBlock]
  else if balance < 0 then [.unexpectedClosingBrace]
  else []

/-- The issues of all lines of a document, followed by the verdict on its braces,
which is put on the last line. -/
def issues (catalog : Catalog) (lines : List (List Char)) : List Issue :=
  lineIssues catalog 0 [] lines ++
    (balanceProblems (braceBalance lines)).map (Problem.toIssue (lines.length - 1))

end Check

/-- Check a document against a catalog. -/
def Report.ofText (catalog : Catalog) (text : String) : Report :=
  ⟨Check.issues catalog (Lines.split text.toList).contents⟩

end AlloyAssist
