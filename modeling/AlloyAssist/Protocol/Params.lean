import AlloyAssist.Protocol.Parts
import AlloyAssist.Workspace.Answer

/-!
# Parameters

What is read from the parameters of each call. They are read only if they have the shape
that goes with the call, also in the parts that do not matter: parameters that do not fit
are refused as a whole.
-/

namespace AlloyAssist.Protocol

open Json

/-- A whole number of 32 bits without sign. -/
def unsigned32? : Json → Option Nat :=
  natUpTo? (Nat.pow 2 32 - 1)

/-- A whole number of 32 bits with sign. -/
def signed32? : Json → Option Int :=
  intBetween? (-Int.pow 2 31) (Int.pow 2 31 - 1)

/-- A URL that can be read. -/
def url? (json : Json) : Option Url :=
  json.string?.bind Url.parse?

/-- The document that a call is about. -/
def documentUrl? (json : Json) : Option Url :=
  (json.record? ["uri"]).bind fun record => record.required? "uri" url?

/-- A position. -/
def position? (json : Json) : Option Position := do
  let record ← json.record? ["line", "character"]
  let line ← record.required? "line" unsigned32?
  let character ← record.required? "character" unsigned32?
  return { line, character }

/-- A span. -/
def span? (json : Json) : Option Span := do
  let record ← json.record? ["start", "end"]
  let start ← record.required? "start" position?
  let stop ← record.required? "end" position?
  return { start, stop }

/-- Read the document that a question is about. -/
def document? (json : Json) : Option Url :=
  (json.member? "textDocument").bind documentUrl?

/-- Read the place that a question is about. -/
def place? (json : Json) : Option (Url × Position) := do
  let url ← document? json
  let position ← (json.member? "position").bind position?
  return (url, position)

/-! ## Questions -/

/-- What the name at a place is. -/
def hover? (json : Json) : Option Question := do
  guard ((atPlace [workDone]).fits json)
  let (url, position) ← place? json
  return .hover url position

/-- What could be typed at a place. -/
def completion? (json : Json) : Option Question := do
  guard ((atPlace (Shape.optional "context" trigger :: tokens)).fits json)
  let url ← document? json
  return .completion url

/-- What a document declares. -/
def outline? (json : Json) : Option Question := do
  guard ((inDocument tokens).fits json)
  let url ← document? json
  return .outline url

/-- How a document should be laid out. The options must be given, though they change
nothing. -/
def formatting? (json : Json) : Option Question := do
  guard ((inDocument [Shape.required "options" layout, workDone]).fits json)
  let url ← document? json
  return .formatting url

/-! ## Events -/

/-- A document that was opened. -/
def opened? (json : Json) : Option DocumentEvent := do
  let record ← json.record? ["textDocument"]
  record.required? "textDocument" fun json => do
    let record ← json.record? ["uri", "languageId", "version", "text"]
    let url ← record.required? "uri" url?
    let languageId ← record.required? "languageId" string?
    let _ ← record.required? "version" signed32?
    let text ← record.required? "text" string?
    return .opened url languageId text

/-- A change of a document. The span it was made in does not matter. -/
def change? (json : Json) : Option String := do
  let record ← json.record? ["range", "rangeLength", "text"]
  let _ ← record.optional? "range" span?
  let _ ← record.optional? "rangeLength" unsigned32?
  record.required? "text" string?

/-- A document that was changed. -/
def changed? (json : Json) : Option DocumentEvent := do
  let record ← json.record? ["textDocument", "contentChanges"]
  let url ← record.required? "textDocument" fun json => do
    let record ← json.record? ["uri", "version"]
    let _ ← record.required? "version" signed32?
    record.required? "uri" url?
  let texts ← record.required? "contentChanges" (listOf? change?)
  return .changed url texts

/-- A document that was saved. -/
def saved? (json : Json) : Option DocumentEvent := do
  let record ← json.record? ["textDocument", "text"]
  let url ← record.required? "textDocument" documentUrl?
  let text ← record.optional? "text" string?
  return .saved url text

/-- A document that was closed. -/
def closed? (json : Json) : Option DocumentEvent := do
  let record ← json.record? ["textDocument"]
  let url ← record.required? "textDocument" documentUrl?
  return .closed url

/-! ## The start of a session -/

/-- The note that an editor is ready, which says nothing else. -/
def ready? (json : Json) : Option Unit :=
  (json.record? []).map fun _ => ()

end AlloyAssist.Protocol
