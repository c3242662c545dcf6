import AlloyAssist.Document.Indentation
import AlloyAssist.Document.Position

/-!
# Edits

Laying a document out again is offered as one edit that replaces all of it, or as
none when nothing would change.
-/

namespace AlloyAssist

open Text

/-- A span of text and what to put in its place. -/
structure TextEdit where
  span : Span
  newText : String
  deriving DecidableEq, Repr

namespace Span

/-- A whole text. Carriage returns count as columns of the last line. -/
def ofWhole (text : List Char) : Span :=
  ⟨⟨0, 0⟩, .sent (text.count '\n') (columns (cut text).2)⟩

end Span

namespace Indentation

/-- The edits that lay a document out. -/
def edits (text : String) : List TextEdit :=
  if format text = text then [] else [⟨Span.ofWhole text.toList, format text⟩]

end Indentation

end AlloyAssist
