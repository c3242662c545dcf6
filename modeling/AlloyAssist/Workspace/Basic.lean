import AlloyAssist.Document.Diagnostic
import Std.Data.HashMap

/-!
# The documents of an editor

The editor tells which documents are open and what they hold. Whenever a document is
opened, changed or saved its diagnostics are published anew; when it is closed they
are taken back. Nothing that happens to one document touches another.
-/

namespace AlloyAssist

/-- What an editor tells about a document. -/
inductive DocumentEvent where
  | opened (url : Url) (languageId : String) (text : String)
  /-- The texts that the document held one after the other. -/
  | changed (url : Url) (texts : List String)
  /-- The text that was saved, if the editor sends it along. -/
  | saved (url : Url) (text : Option String)
  | closed (url : Url)
  deriving DecidableEq, Repr

namespace DocumentEvent

/-- The document an event is about. -/
def url : DocumentEvent → Url
  | opened url _ _ => url
  | changed url _ => url
  | saved url _ => url
  | closed url => url

end DocumentEvent

/-- The diagnostics that an editor is to show for a document from now on. -/
structure Publication where
  url : Url
  diagnostics : List Diagnostic
  deriving DecidableEq, Repr

/-- The open documents. -/
structure Workspace where
  documents : Std.HashMap Url Document

namespace Workspace

/-- No document is open. -/
def empty : Workspace := ⟨∅⟩

/-- The document that is open under a URL. -/
def document? (workspace : Workspace) (url : Url) : Option Document :=
  workspace.documents[url]?

/-- Open a document, or replace it. -/
def put (workspace : Workspace) (url : Url) (document : Document) : Workspace :=
  ⟨workspace.documents.insert url document⟩

/-- Close a document. -/
def remove (workspace : Workspace) (url : Url) : Workspace :=
  ⟨workspace.documents.erase url⟩

@[simp] theorem document?_empty (url : Url) : empty.document? url = none := by
  simp [document?, empty]

/-- Opening a document changes what is open under its own URL only. -/
theorem document?_put (workspace : Workspace) (url other : Url) (document : Document) :
    (workspace.put url document).document? other =
      if url = other then some document else workspace.document? other := by
  simp [document?, put, Std.HashMap.getElem?_insert]

/-- Closing a document changes what is open under its own URL only. -/
theorem document?_remove (workspace : Workspace) (url other : Url) :
    (workspace.remove url).document? other =
      if url = other then none else workspace.document? other := by
  simp [document?, remove, Std.HashMap.getElem?_erase]

/-- The open documents in the order of their URLs. -/
def listing (workspace : Workspace) : List (Url × Document) :=
  workspace.documents.toList.mergeSort fun left right => left.1.href ≤ right.1.href

/-- Publish what is to be shown for a document, if it is open. -/
def publication? (workspace : Workspace) (catalog : Catalog) (url : Url) : Option Publication :=
  (workspace.document? url).map fun document => ⟨url, document.diagnostics catalog url⟩

/-- Give a document a new text. A document that is not open is opened, in no
language. -/
def setText (workspace : Workspace) (url : Url) (text : String) : Workspace :=
  match workspace.document? url with
  | some document => workspace.put url { document with content := text }
  | none => workspace.put url { content := text, languageId := "" }

/-- Give a document a new text if it is open. -/
def updateText (workspace : Workspace) (url : Url) (text : String) : Workspace :=
  match workspace.document? url with
  | some document => workspace.put url { document with content := text }
  | none => workspace

/-- Follow an event, and publish what it changes. -/
def apply (catalog : Catalog) (workspace : Workspace) (event : DocumentEvent) :
    Workspace × Option Publication :=
  match event with
  | .opened url languageId text =>
      let workspace := workspace.put url { content := text, languageId }
      (workspace, workspace.publication? catalog url)
  | .changed url texts =>
      match texts.getLast? with
      | some text =>
          let workspace := workspace.setText url text
          (workspace, workspace.publication? catalog url)
      | none => (workspace, none)
  | .saved url text =>
      let workspace := text.elim workspace (workspace.updateText url)
      (workspace, workspace.publication? catalog url)
  | .closed url => (workspace.remove url, some ⟨url, []⟩)

end Workspace

end AlloyAssist
