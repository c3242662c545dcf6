import AlloyAssist.Protocol.Shape

/-!
# Parts of parameters

The shapes that the parameters of many calls are made of: places in documents, tokens,
edits, commands and diagnostics.
-/

namespace AlloyAssist.Protocol

open Shape

/-! ## Places -/

/-- The document that a call is about. -/
def documentName : Shape := record [required "uri" url]

/-- A position in a document. -/
def position : Shape :=
  record [required "line" unsigned32, required "character" unsigned32]

/-- A span in a document. -/
def span : Shape := record [required "start" position, required "end" position]

/-- A span in a document that is named with it. -/
def location : Shape := record [required "uri" url, required "range" span]

/-! ## Tokens -/

/-- A token under which progress could be reported. -/
def token : Shape := oneOf [signed32, text]

/-- The token for reports on how a question gets on. -/
def workDone : Field := optional "workDoneToken" token

/-- The tokens for such reports and for parts of the answer. -/
def tokens : List Field := [workDone, optional "partialResultToken" token]

/-! ## Questions -/

/-- Parameters that are written as an object. -/
def members (fields : List Field) : Shape := object fields any

/-- Parameters that name a document. -/
def inDocument (fields : List Field) : Shape :=
  members (required "textDocument" documentName :: fields)

/-- Parameters that name a place in a document. -/
def atPlace (fields : List Field) : Shape :=
  inDocument (required "position" position :: fields)

/-- Parameters that name a span in a document. -/
def inSpan (fields : List Field) : Shape :=
  inDocument (required "range" span :: fields)

/-- What made an editor ask for completion. -/
def trigger : Shape :=
  record [required "triggerKind" signed32, optional "triggerCharacter" text]

/-- How an editor wants a document laid out. Members without a meaning of their own are
truth values, numbers or texts. -/
def layout : Shape :=
  object
    [required "tabSize" unsigned32,
      required "insertSpaces" flag,
      optional "trimTrailingWhitespace" flag,
      optional "insertFinalNewline" flag,
      optional "trimFinalNewlines" flag]
    (oneOf [flag, signed32, text])

/-! ## Texts and commands -/

/-- The formats of a text. -/
def markupKind : Shape := keyword ["plaintext", "markdown"]

/-- A text, perhaps with its format. -/
def markup : Shape :=
  oneOf [text, record [required "kind" markupKind, required "value" text]]

/-- A value that an editor keeps and sends back. -/
def keptData : Field := optional "data" any

/-- A command that an editor can run. -/
def command : Shape :=
  record [required "title" text, required "command" text, optional "arguments" (list any)]

/-! ## Edits -/

/-- A new text for a span. -/
def textEdit : Shape := record [required "range" span, required "newText" text]

/-- A new text for one of two spans. -/
def insertOrReplace : Shape :=
  record [required "newText" text, required "insert" span, required "replace" span]

/-- New texts for spans of one document. -/
def documentEdit : Shape :=
  record
    [required "textDocument" (record [required "uri" url, optional "version" signed32]),
      required "edits" (list textEdit)]

/-- A note on why a change is made. -/
def annotationName : Field := optional "annotationId" text

/-- What happens to a file that is already there. -/
def replacement : Shape :=
  record [optional "overwrite" flag, optional "ignoreIfExists" flag]

/-- A file that is created, renamed or deleted. -/
def fileChange : Shape :=
  tagged "kind"
    [("create",
        record [required "uri" url, optional "options" replacement, annotationName]),
      ("rename",
        record
          [required "oldUri" url, required "newUri" url, optional "options" replacement,
            annotationName]),
      ("delete",
        record
          [required "uri" url,
            optional "options"
              (record
                [optional "recursive" flag, optional "ignoreIfNotExists" flag,
                  annotationName])])]

/-- Changes of several documents. -/
def workspaceEdit : Shape :=
  record
    [defaulted "changes" (nullable (map true (list textEdit))),
      optional "documentChanges" (list (oneOf [fileChange, documentEdit])),
      optional "changeAnnotations"
        (map false
          (record
            [required "label" text, optional "needsConfirmation" flag,
              optional "description" text]))]

/-! ## Diagnostics -/

/-- Something that is wrong with a document. -/
def diagnostic : Shape :=
  record
    [required "range" span,
      optional "severity" signed32,
      optional "code" (oneOf [signed32, text]),
      optional "codeDescription" (record [required "href" url]),
      optional "source" text,
      required "message" text,
      optional "relatedInformation"
        (list (record [required "location" location, required "message" text])),
      optional "tags" (list signed32),
      keptData]

end AlloyAssist.Protocol
