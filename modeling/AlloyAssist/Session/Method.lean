import AlloyAssist.Protocol.Capabilities
import AlloyAssist.Protocol.Params
import AlloyAssist.Protocol.Unsupported

/-!
# Methods

A method name decides what a call is: part of the session's own lifecycle, a question
that wants an answer, or a note that wants none. Parameters are decoded by the method,
and a call whose parameters do not fit goes no further.
-/

namespace AlloyAssist

open Protocol

/-- What an editor notes without waiting for an answer. -/
inductive Note where
  /-- The editor has taken notice of the greeting. -/
  | ready
  | document (event : DocumentEvent)
  | ignored
  deriving DecidableEq, Repr

/-- What a call is, by its method. -/
inductive Method where
  /-- Begin the session. -/
  | start
  /-- Answer no further questions. -/
  | stop
  /-- Leave. -/
  | leave
  /-- Take back a request. As every request is answered at once, there is none to take
  back, and the note itself wants no reply. -/
  | withdraw
  /-- A question, unless the parameters do not fit. -/
  | question (decode : Json → Option Question)
  /-- A request that is never granted, though its parameters must fit. -/
  | unsupported (fits : Json → Bool)
  /-- A note, unless the parameters do not fit. -/
  | note (decode : Json → Option Note)

namespace Method

/-- A note about a document. -/
def documentNote (decode : Json → Option DocumentEvent) : Method :=
  note fun json => (decode json).map .document

/-- The methods that the session follows. -/
def supported : List (String × Method) :=
  [("initialize", start),
    ("shutdown", stop),
    ("exit", leave),
    ("$/cancelRequest", withdraw),
    ("initialized", note fun json => (ready? json).map fun _ => .ready),
    ("textDocument/didOpen", documentNote opened?),
    ("textDocument/didChange", documentNote changed?),
    ("textDocument/didSave", documentNote saved?),
    ("textDocument/didClose", documentNote closed?),
    ("textDocument/hover", question hover?),
    ("textDocument/completion", question completion?),
    ("textDocument/documentSymbol", question outline?),
    ("textDocument/formatting", question formatting?)]

/-- The method of a name, if the protocol defines it. -/
def ofName? (name : String) : Option Method :=
  (supported.lookup name).or
    (((unsupportedRequests.lookup name).map fun shape => unsupported shape.fits).or
      (if name ∈ unsupportedNotifications then some (note fun _ => some .ignored) else none))

end Method

end AlloyAssist
