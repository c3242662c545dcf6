import AlloyAssist.Document.Basic
import AlloyAssist.Document.Check
import AlloyAssist.Document.Position

/-!
# Diagnostics

An editor shows an issue as a diagnostic that marks the whole line it is about.
-/

namespace AlloyAssist

/-- A remark that an editor shows at a place in a document. -/
structure Diagnostic where
  span : Span
  severity : Severity
  message : String
  deriving DecidableEq, Repr

namespace Diagnostic

/-- Who the remark comes from. -/
def source : String := "Grafana Alloy"

/-- Mark the line of an issue. An issue behind the last line is shown on it. -/
def ofIssue (lines : List (List Char)) (issue : Issue) : Diagnostic :=
  let line := min issue.line (lines.length - 1)
  { span := Span.ofLine line (lines[line]?.getD [])
    severity := issue.severity
    message := issue.message }

end Diagnostic

namespace Document

/-- What to show for a document. Documents in other languages are not checked. -/
def diagnostics (document : Document) (catalog : Catalog) (url : Url) : List Diagnostic :=
  if document.isAlloy url then
    (Report.ofText catalog document.content).issues.map (Diagnostic.ofIssue document.lines)
  else []

end Document

end AlloyAssist
