import AlloyAssist.Catalog.Suggestion
import AlloyAssist.Document.Edit
import AlloyAssist.Document.Outline
import AlloyAssist.Line.Word
import AlloyAssist.Workspace.Basic

/-!
# Questions and answers

An editor asks about open documents: what the name under the pointer is, what could
be typed, what the document declares and how it should be laid out. About a document
that is not open there is nothing to say.
-/

namespace AlloyAssist

/-- What an editor may ask. -/
inductive Question where
  | hover (url : Url) (position : Position)
  | completion (url : Url)
  | outline (url : Url)
  | formatting (url : Url)
  deriving DecidableEq, Repr

/-- A declaration in the outline that an editor shows. -/
structure OutlineItem where
  name : String
  detail : Option String
  /-- The whole block. -/
  span : Span
  /-- The line of the declaration. -/
  selection : Span
  deriving DecidableEq, Repr

/-- What an editor is told. -/
inductive Answer where
  /-- There is nothing to say. -/
  | nothing
  /-- What the session can do, told once at its start. -/
  | greeting
  | hover (card : String)
  | completion (suggestions : List Suggestion)
  | outline (items : List OutlineItem)
  | formatting (edits : List TextEdit)
  deriving DecidableEq, Repr

namespace OutlineItem

/-- Show a symbol of a document. The description comes from the catalog. -/
def ofSymbol (catalog : Catalog) (document : Document) (symbol : OutlineSymbol) : OutlineItem :=
  { name := symbol.declaration.title
    detail := (catalog.component? symbol.declaration.typeName).bind Entry.description
    span := Span.ofLines symbol.startLine symbol.endLine (document.line symbol.endLine)
    selection := Span.ofLine symbol.startLine (document.line symbol.startLine) }

end OutlineItem

namespace Document

/-- The card for the name at a position. -/
def hoverCard? (document : Document) (catalog : Catalog) (position : Position) :
    Option String :=
  (Line.wordAt? (document.line position.line) position.character).bind catalog.hoverCard?

/-- The outline of a document as an editor shows it. -/
def outlineItems (document : Document) (catalog : Catalog) : List OutlineItem :=
  (Outline.ofText document.content).map (OutlineItem.ofSymbol catalog document)

end Document

namespace Catalog

/-- Everything there is to suggest. -/
def completionAnswer (catalog : Catalog) : Answer :=
  match catalog.suggestions with
  | [] => .nothing
  | suggestions => .completion suggestions

end Catalog

namespace Workspace

/-- Answer a question. -/
def answer (workspace : Workspace) (catalog : Catalog) : Question → Answer
  | .hover url position =>
      ((workspace.document? url).bind fun document =>
        document.hoverCard? catalog position).elim .nothing .hover
  | .completion url =>
      (workspace.document? url).elim .nothing fun _ => catalog.completionAnswer
  | .outline url =>
      (workspace.document? url).elim .nothing fun document =>
        .outline (document.outlineItems catalog)
  | .formatting url =>
      (workspace.document? url).elim .nothing fun document =>
        if document.isAlloy url then .formatting (Indentation.edits document.content)
        else .nothing

end Workspace

end AlloyAssist
