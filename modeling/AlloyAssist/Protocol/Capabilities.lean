import AlloyAssist.Protocol.Parts

/-!
# The first words of an editor

An editor introduces itself and says what it can do. Nothing follows from it, but it
must be said in the right form.
-/

namespace AlloyAssist.Protocol

open Shape

/-! ## Parts of capabilities -/

/-- Capabilities that may be announced later. -/
def dynamic (fields : List Field) : Shape :=
  record (optional "dynamicRegistration" flag :: fields)

/-- The numbers that an editor knows, if it says so. -/
def knownValues : Shape := record [optional "valueSet" (list signed32)]

/-- The numbers that an editor knows. -/
def valueSet (value : Shape) : Shape := record [required "valueSet" (list value)]

/-- The tags that an editor knows, or only whether it knows any. -/
def tagSupport : Field :=
  defaulted "tagSupport" (nullable (oneOf [flag, valueSet signed32]))

/-- The properties that an editor asks for later. -/
def resolveSupport : Field :=
  optional "resolveSupport" (record [required "properties" (list text)])

/-- A view that an editor refreshes when told. -/
def refreshing : Shape := record [optional "refreshSupport" flag]

/-- A jump that an editor may be sent as a link. -/
def linked : Shape := dynamic [optional "linkSupport" flag]

/-- The formats of texts, the preferred ones first. -/
def formats (name : String) : Field := optional name (list markupKind)

/-! ## Capabilities -/

/-- What an editor can do with a whole workspace. -/
def workspaceCapabilities : Shape :=
  record
    [optional "applyEdit" flag,
      optional "workspaceEdit"
        (record
          [optional "documentChanges" flag,
            optional "resourceOperations" (list (keyword ["create", "rename", "delete"])),
            optional "failureHandling"
              (keyword ["abort", "transactional", "textOnlyTransactional", "undo"]),
            optional "normalizesLineEndings" flag,
            optional "changeAnnotationSupport" (record [optional "groupsOnLabel" flag])]),
      optional "didChangeConfiguration" (dynamic []),
      optional "didChangeWatchedFiles" (dynamic [optional "relativePatternSupport" flag]),
      optional "symbol" (dynamic [optional "symbolKind" knownValues, tagSupport, resolveSupport]),
      optional "executeCommand" (dynamic []),
      optional "workspaceFolders" flag,
      optional "configuration" flag,
      optional "semanticTokens" refreshing,
      optional "codeLens" refreshing,
      optional "fileOperations"
        (dynamic
          [optional "didCreate" flag, optional "willCreate" flag, optional "didRename" flag,
            optional "willRename" flag, optional "didDelete" flag, optional "willDelete" flag]),
      optional "inlineValue" refreshing,
      optional "inlayHint" refreshing,
      optional "diagnostic" refreshing]

/-- What an editor can do with proposals. -/
def completionCapabilities : Shape :=
  dynamic
    [optional "completionItem"
      (record
        [optional "snippetSupport" flag,
          optional "commitCharactersSupport" flag,
          formats "documentationFormat",
          optional "deprecatedSupport" flag,
          optional "preselectSupport" flag,
          tagSupport,
          optional "insertReplaceSupport" flag,
          resolveSupport,
          optional "insertTextModeSupport" (valueSet signed32),
          optional "labelDetailsSupport" flag]),
      optional "completionItemKind" knownValues,
      optional "contextSupport" flag,
      optional "insertTextMode" signed32,
      optional "completionList" (record [optional "itemDefaults" (list text)])]

/-- What an editor can do with hints on signatures. -/
def signatureCapabilities : Shape :=
  dynamic
    [optional "signatureInformation"
      (record
        [formats "documentationFormat",
          optional "parameterInformation" (record [optional "labelOffsetSupport" flag]),
          optional "activeParameterSupport" flag]),
      optional "contextSupport" flag]

/-- What an editor can do with actions on code. -/
def actionCapabilities : Shape :=
  dynamic
    [optional "codeActionLiteralSupport" (record [required "codeActionKind" (valueSet text)]),
      optional "isPreferredSupport" flag,
      optional "disabledSupport" flag,
      optional "dataSupport" flag,
      resolveSupport,
      optional "honorsChangeAnnotations" flag]

/-- What an editor can do with folds. -/
def foldingCapabilities : Shape :=
  dynamic
    [optional "rangeLimit" unsigned32,
      optional "lineFoldingOnly" flag,
      optional "foldingRangeKind"
        (record [optional "valueSet" (list (keyword ["comment", "imports", "region"]))]),
      optional "foldingRange" (record [optional "collapsedText" flag])]

/-- What an editor can do with the meaning of words. -/
def semanticCapabilities : Shape :=
  dynamic
    [required "requests"
      (record
        [optional "range" flag,
          optional "full" (oneOf [flag, members [optional "delta" flag]])]),
      required "tokenTypes" (list text),
      required "tokenModifiers" (list text),
      required "formats" (list (keyword ["relative"])),
      optional "overlappingTokenSupport" flag,
      optional "multilineTokenSupport" flag,
      optional "serverCancelSupport" flag,
      optional "augmentsSyntaxTokens" flag]

/-- What an editor can do with a document. -/
def documentCapabilities : Shape :=
  record
    [optional "synchronization"
      (dynamic
        [optional "willSave" flag, optional "willSaveWaitUntil" flag, optional "didSave" flag]),
      optional "completion" completionCapabilities,
      optional "hover" (dynamic [formats "contentFormat"]),
      optional "signatureHelp" signatureCapabilities,
      optional "references" (dynamic []),
      optional "documentHighlight" (dynamic []),
      optional "documentSymbol"
        (dynamic
          [optional "symbolKind" knownValues,
            optional "hierarchicalDocumentSymbolSupport" flag, tagSupport]),
      optional "formatting" (dynamic []),
      optional "rangeFormatting" (dynamic []),
      optional "onTypeFormatting" (dynamic []),
      optional "declaration" linked,
      optional "definition" linked,
      optional "typeDefinition" linked,
      optional "implementation" linked,
      optional "codeAction" actionCapabilities,
      optional "codeLens" (dynamic []),
      optional "documentLink" (dynamic [optional "tooltipSupport" flag]),
      optional "colorProvider" (dynamic []),
      optional "rename"
        (dynamic
          [optional "prepareSupport" flag,
            optional "prepareSupportDefaultBehavior" signed32,
            optional "honorsChangeAnnotations" flag]),
      optional "publishDiagnostics"
        (record
          [optional "relatedInformation" flag, tagSupport, optional "versionSupport" flag,
            optional "codeDescriptionSupport" flag, optional "dataSupport" flag]),
      optional "foldingRange" foldingCapabilities,
      optional "selectionRange" (dynamic []),
      optional "linkedEditingRange" (dynamic []),
      optional "callHierarchy" (dynamic []),
      optional "semanticTokens" semanticCapabilities,
      optional "moniker" (dynamic []),
      optional "typeHierarchy" (dynamic []),
      optional "inlineValue" (dynamic []),
      optional "inlayHint" (dynamic [resolveSupport]),
      optional "diagnostic" (dynamic [optional "relatedDocumentSupport" flag])]

/-- What an editor can show in its window. -/
def windowCapabilities : Shape :=
  record
    [optional "workDoneProgress" flag,
      optional "showMessage"
        (record
          [optional "messageActionItem"
            (record [optional "additionalPropertiesSupport" flag])]),
      optional "showDocument" (record [required "support" flag])]

/-- What an editor can do apart from that. -/
def generalCapabilities : Shape :=
  record
    [optional "regularExpressions" (record [required "engine" text, optional "version" text]),
      optional "markdown"
        (record
          [required "parser" text, optional "version" text,
            optional "allowedTags" (list text)]),
      optional "staleRequestSupport"
        (record [required "cancel" flag, required "retryOnContentModified" (list text)]),
      optional "positionEncodings" (list text)]

/-- What an editor can do. -/
def capabilities : Shape :=
  record
    [optional "workspace" workspaceCapabilities,
      optional "textDocument" documentCapabilities,
      optional "window" windowCapabilities,
      optional "general" generalCapabilities,
      optional "experimental" any]

/-- The first words of an editor. -/
def introduction : Shape :=
  record
    [optional "processId" unsigned32,
      optional "rootPath" text,
      defaulted "rootUri" (nullable url),
      optional "initializationOptions" any,
      required "capabilities" capabilities,
      defaulted "trace" (nullable (keyword ["off", "messages", "verbose"])),
      optional "workspaceFolders" (list (record [required "uri" url, required "name" text])),
      optional "clientInfo" (record [required "name" text, optional "version" text]),
      optional "locale" text]

end AlloyAssist.Protocol
