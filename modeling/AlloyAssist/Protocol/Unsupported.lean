import AlloyAssist.Protocol.Parts

/-!
# Calls that nothing answers

An editor may use calls that the protocol defines and this session does not offer.
They are told apart from calls that nobody has heard of: their parameters are looked
at, and they depend on the state of the session like any other.
-/

namespace AlloyAssist.Protocol

open Shape

/-! ## Parts -/

/-- A hint on the signatures of a call. -/
def signatureHint : Shape :=
  record
    [required "signatures"
      (list
        (record
          [required "label" text,
            optional "documentation" markup,
            optional "parameters"
              (list
                (record
                  [required "label" (oneOf [text, pair unsigned32 unsigned32]),
                    optional "documentation" markup])),
            optional "activeParameter" unsigned32])),
      optional "activeSignature" unsigned32,
      optional "activeParameter" unsigned32]

/-- What made an editor ask for such a hint. -/
def signatureTrigger : Shape :=
  record
    [required "triggerKind" signed32,
      optional "triggerCharacter" text,
      required "isRetrigger" flag,
      optional "activeSignatureHelp" signatureHint]

/-- A thing in a hierarchy. -/
def hierarchyItem (tags : Shape) : Shape :=
  record
    [required "name" text,
      required "kind" signed32,
      optional "tags" tags,
      optional "detail" text,
      required "uri" url,
      required "range" span,
      required "selectionRange" span,
      keptData]

/-- A question about a thing in a hierarchy. -/
def aboutItem (tags : Shape) : Shape :=
  members (required "item" (hierarchyItem tags) :: tokens)

/-- A color. -/
def color : Shape :=
  record
    [required "red" number, required "green" number, required "blue" number,
      required "alpha" number]

/-- A proposal that an editor got and wants to know more about. -/
def proposal : Shape :=
  record
    [required "label" text,
      optional "labelDetails" (record [optional "detail" text, optional "description" text]),
      optional "kind" signed32,
      optional "detail" text,
      optional "documentation" markup,
      optional "deprecated" flag,
      optional "preselect" flag,
      optional "sortText" text,
      optional "filterText" text,
      optional "insertText" text,
      optional "insertTextFormat" signed32,
      optional "insertTextMode" signed32,
      optional "textEdit" (oneOf [textEdit, insertOrReplace]),
      optional "additionalTextEdits" (list textEdit),
      optional "command" command,
      optional "commitCharacters" (list text),
      keptData,
      optional "tags" (list signed32)]

/-- An action that an editor got and wants to know more about. -/
def action : Shape :=
  record
    [required "title" text,
      optional "kind" text,
      optional "diagnostics" (list diagnostic),
      optional "edit" workspaceEdit,
      optional "command" command,
      optional "isPreferred" flag,
      optional "disabled" (record [required "reason" text]),
      keptData]

/-- A hint inside a line. -/
def inlineHint : Shape :=
  record
    [required "position" position,
      required "label"
        (oneOf
          [text,
            list
              (record
                [required "value" text,
                  optional "tooltip" markup,
                  optional "location" location,
                  optional "command" command])]),
      optional "kind" signed32,
      optional "textEdits" (list textEdit),
      optional "tooltip" markup,
      optional "paddingLeft" flag,
      optional "paddingRight" flag,
      keptData]

/-- A symbol of a workspace. -/
def workspaceSymbol : Shape :=
  record
    [required "name" text,
      required "kind" signed32,
      optional "tags" (list signed32),
      optional "containerName" text,
      required "location" (oneOf [location, documentName]),
      keptData]

/-- Files that something is about to happen to. -/
def files (fields : List Field) : Shape :=
  record [required "files" (list (record fields))]

/-! ## Requests -/

/-- Requests about a document as a whole. -/
def documentRequests : List (String × Shape) :=
  [("textDocument/documentLink", inDocument tokens),
    ("textDocument/codeLens", inDocument tokens),
    ("textDocument/foldingRange", inDocument tokens),
    ("textDocument/documentColor", inDocument tokens),
    ("textDocument/semanticTokens/full", inDocument tokens),
    ("textDocument/semanticTokens/full/delta",
      inDocument (required "previousResultId" text :: tokens)),
    ("textDocument/selectionRange", inDocument (required "positions" (list position) :: tokens)),
    ("textDocument/diagnostic",
      inDocument (optional "identifier" text :: optional "previousResultId" text :: tokens)),
    ("textDocument/willSaveWaitUntil",
      record [required "textDocument" documentName, required "reason" signed32])]

/-- Requests about a place in a document. -/
def placeRequests : List (String × Shape) :=
  [("textDocument/declaration", atPlace tokens),
    ("textDocument/definition", atPlace tokens),
    ("textDocument/typeDefinition", atPlace tokens),
    ("textDocument/implementation", atPlace tokens),
    ("textDocument/documentHighlight", atPlace tokens),
    ("textDocument/moniker", atPlace tokens),
    ("textDocument/references",
      atPlace
        (required "context" (record [required "includeDeclaration" flag]) :: tokens)),
    ("textDocument/prepareCallHierarchy", atPlace [workDone]),
    ("textDocument/prepareTypeHierarchy", atPlace [workDone]),
    ("textDocument/linkedEditingRange", atPlace [workDone]),
    ("textDocument/signatureHelp", atPlace [optional "context" signatureTrigger, workDone]),
    ("textDocument/rename", atPlace [required "newName" text, workDone]),
    ("textDocument/prepareRename",
      record [required "textDocument" documentName, required "position" position]),
    ("textDocument/onTypeFormatting",
      atPlace [required "ch" text, required "options" layout])]

/-- Requests about a span in a document. -/
def spanRequests : List (String × Shape) :=
  [("textDocument/semanticTokens/range", inSpan tokens),
    ("textDocument/inlayHint", inSpan [workDone]),
    ("textDocument/inlineValue",
      inSpan
        [required "context"
          (record [required "frameId" signed32, required "stoppedLocation" span]),
          workDone]),
    ("textDocument/codeAction",
      inSpan
        (required "context"
          (record
            [required "diagnostics" (list diagnostic), optional "only" (list text),
              optional "triggerKind" signed32]) ::
          tokens)),
    ("textDocument/colorPresentation", inSpan (required "color" color :: tokens)),
    ("textDocument/rangeFormatting", inSpan [required "options" layout, workDone])]

/-- Requests about things that were sent to the editor before. -/
def itemRequests : List (String × Shape) :=
  [("callHierarchy/incomingCalls", aboutItem (list signed32)),
    ("callHierarchy/outgoingCalls", aboutItem (list signed32)),
    ("typeHierarchy/supertypes", aboutItem signed32),
    ("typeHierarchy/subtypes", aboutItem signed32),
    ("documentLink/resolve",
      record [required "range" span, optional "target" url, optional "tooltip" text, keptData]),
    ("codeLens/resolve", record [required "range" span, optional "command" command, keptData]),
    ("inlayHint/resolve", inlineHint),
    ("completionItem/resolve", proposal),
    ("codeAction/resolve", action),
    ("workspaceSymbol/resolve", workspaceSymbol)]

/-- Requests about a workspace. -/
def workspaceRequests : List (String × Shape) :=
  [("workspace/symbol", members (required "query" text :: tokens)),
    ("workspace/diagnostic",
      members
        (optional "identifier" text ::
          required "previousResultIds"
            (list (record [required "uri" url, required "value" text])) ::
          tokens)),
    ("workspace/executeCommand",
      members [required "command" text, defaulted "arguments" (list any), workDone]),
    ("workspace/willCreateFiles", files [required "uri" text]),
    ("workspace/willRenameFiles", files [required "oldUri" text, required "newUri" text]),
    ("workspace/willDeleteFiles", files [required "uri" text])]

/-- Requests that are refused whenever they are well formed. -/
def unsupportedRequests : List (String × Shape) :=
  documentRequests ++ placeRequests ++ spanRequests ++ itemRequests ++ workspaceRequests

/-- Notifications that nothing follows from. -/
def unsupportedNotifications : List String :=
  ["textDocument/willSave", "workspace/didChangeConfiguration",
    "workspace/didChangeWorkspaceFolders", "workspace/didCreateFiles",
    "workspace/didRenameFiles", "workspace/didDeleteFiles", "workspace/didChangeWatchedFiles"]

end AlloyAssist.Protocol
