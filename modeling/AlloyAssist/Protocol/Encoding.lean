import AlloyAssist.Protocol.Message
import AlloyAssist.Workspace.Answer

/-!
# Answers as JSON

The forms in which an editor expects diagnostics, edits, completion items and outline
items. What is absent is left out.
-/

namespace AlloyAssist

/-- A member that is left out when there is no value. -/
def Json.optionalMember (name : String) (value : Option String) : List (String × Json) :=
  (value.map fun text => (name, Json.string text)).toList

/-- A position as JSON. -/
def Position.toJson (position : Position) : Json :=
  .object [("line", .int position.line), ("character", .int position.character)]

/-- A span as JSON. -/
def Span.toJson (span : Span) : Json :=
  .object [("start", span.start.toJson), ("end", span.stop.toJson)]

/-- The number that stands for a severity. -/
def Severity.code : Severity → Nat
  | error => 1
  | warning => 2

/-- A diagnostic as JSON. -/
def Diagnostic.toJson (diagnostic : Diagnostic) : Json :=
  .object
    [("range", diagnostic.span.toJson),
      ("severity", .int diagnostic.severity.code),
      ("source", .string Diagnostic.source),
      ("message", .string diagnostic.message)]

/-- An edit as JSON. -/
def TextEdit.toJson (edit : TextEdit) : Json :=
  .object [("range", edit.span.toJson), ("newText", .string edit.newText)]

/-- The number that stands for a kind of suggestion. -/
def SuggestionKind.code : SuggestionKind → Nat
  | component => 7
  | property => 10

/-- The number that says that the inserted text is a snippet. -/
def Suggestion.snippetFormat : Nat := 2

/-- A suggestion as JSON. -/
def Suggestion.toJson (suggestion : Suggestion) : Json :=
  .object
    ([("label", .string suggestion.name),
        ("kind", .int suggestion.kind.code),
        ("detail", .string suggestion.detail)] ++
      Json.optionalMember "documentation" suggestion.description ++
      [("insertText", .string suggestion.snippet),
        ("insertTextFormat", .int Suggestion.snippetFormat)])

/-- The number that stands for components in an outline. -/
def OutlineItem.kindCode : Nat := 5

/-- An outline item as JSON. -/
def OutlineItem.toJson (item : OutlineItem) : Json :=
  .object
    ([("name", .string item.name)] ++
      Json.optionalMember "detail" item.detail ++
      [("kind", .int OutlineItem.kindCode),
        ("deprecated", .bool false),
        ("range", item.span.toJson),
        ("selectionRange", item.selection.toJson)])

/-- The characters that make an editor ask for completion. -/
def Catalog.triggerCharacters : List String := [".", "\""]

/-- What the session can do: documents are sent whole, and saved ones with their
text. -/
def Answer.capabilities : Json :=
  .object
    [("textDocumentSync",
        .object
          [("openClose", .bool true), ("change", .int 1),
            ("save", .object [("includeText", .bool true)])]),
      ("hoverProvider", .bool true),
      ("completionProvider",
        .object
          [("resolveProvider", .bool false),
            ("triggerCharacters", .array (Catalog.triggerCharacters.map .string))]),
      ("documentSymbolProvider", .bool true),
      ("documentFormattingProvider", .bool true)]

/-- How the session introduces itself. -/
def Answer.serverName : String := "alloy-language-server"

/-- The version that the session tells. -/
def Answer.serverVersion : String := "0.1.0"

/-- An answer as JSON. -/
def Answer.toJson : Answer → Json
  | nothing => .null
  | greeting =>
      .object
        [("capabilities", capabilities),
          ("serverInfo",
            .object [("name", .string serverName), ("version", .string serverVersion)])]
  | hover card =>
      .object
        [("contents", .object [("kind", .string "markdown"), ("value", .string card)])]
  | completion suggestions => .array (suggestions.map Suggestion.toJson)
  | outline items => .array (items.map OutlineItem.toJson)
  | formatting edits => .array (edits.map TextEdit.toJson)

/-- A publication as JSON. -/
def Publication.toJson (publication : Publication) : Json :=
  .object
    [("uri", .string publication.url.href),
      ("diagnostics", .array (publication.diagnostics.map Diagnostic.toJson))]

namespace Protocol

/-- What the session sends without being asked. -/
inductive Notification where
  | published (publication : Publication)
  | logged (message : String)
  deriving DecidableEq, Repr

/-- A reply to a call. -/
structure Reply where
  id : CallId
  outcome : Except Fault Answer

/-- A message with its version. -/
def withVersion (members : List (String × Json)) : Json :=
  .object (("jsonrpc", .string Incoming.version) :: members)

/-- The number that marks a log message as information. -/
def infoType : Nat := 3

/-- A notification as JSON. -/
def Notification.toJson : Notification → Json
  | published publication =>
      withVersion
        [("method", .string "textDocument/publishDiagnostics"), ("params", publication.toJson)]
  | logged message =>
      withVersion
        [("method", .string "window/logMessage"),
          ("params", .object [("type", .int infoType), ("message", .string message)])]

/-- A reply as JSON. -/
def Reply.toJson (reply : Reply) : Json :=
  withVersion
    [match reply.outcome with
      | .ok answer => ("result", answer.toJson)
      | .error fault => ("error", fault.toJson),
      ("id", reply.id.toJson)]

end Protocol

end AlloyAssist
