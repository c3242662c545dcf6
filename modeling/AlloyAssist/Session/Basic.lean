import AlloyAssist.Protocol.Encoding
import AlloyAssist.Session.Method

/-!
# The session with an editor

A session starts when the editor introduces itself, follows notes and answers
questions while it runs, and after it has been stopped only waits for the editor to
leave. `Session.handle` takes one call and says how the session goes on, what is sent
without being asked and what is replied.
-/

namespace AlloyAssist

open Protocol

/-- How far a session has come. -/
inductive Phase where
  /-- The editor has not introduced itself yet. -/
  | fresh
  | running
  /-- No more questions are answered. -/
  | stopped
  /-- The editor has left. -/
  | left
  deriving DecidableEq, Repr

namespace Phase

/-- Why a call fails outside a running session. -/
def fault : Phase → Fault
  | fresh => .notInitialized
  | _ => .invalidRequest

end Phase

/-- A session: how far it has come, and the open documents. -/
structure Session where
  phase : Phase
  workspace : Workspace

/-- What comes of one call. -/
structure Reaction where
  session : Session
  sent : List Notification
  reply : Option Reply

namespace Session

/-- Before the first call. -/
def start : Session := ⟨.fresh, .empty⟩

/-- Nothing comes of a call. -/
def quiet (session : Session) : Reaction :=
  ⟨session, [], none⟩

/-- Only a reply comes of a call, and that only if it wants one. -/
def replying (session : Session) (call : Call) (outcome : Except Fault Answer) : Reaction :=
  ⟨session, [], call.id.map fun id => ⟨id, outcome⟩⟩

/-- Refuse a call. -/
def refusing (session : Session) (call : Call) (fault : Fault) : Reaction :=
  session.replying call (.error fault)

/-- Decode the parameters of a call, which must be there. -/
def decode? {α : Type} (call : Call) (decode : Json → Option α) : Option α :=
  call.params.bind decode

/-- What is logged when the editor is ready. -/
def readyMessage : String := "alloy-language-server initialized"

/-- Introduce the session. A session is begun once, and only by a request. -/
def introduce (session : Session) (call : Call) : Reaction :=
  if session.phase = .fresh then
    if call.id.isNone then session.quiet
    else
      if call.params.any introduction.fits then
        { session with phase := .running }.replying call (.ok .greeting)
      else session.refusing call .invalidParams
  else session.refusing call .invalidRequest

/-- Stop the session. It is stopped even where the call itself is refused for having
parameters, of which it takes none. -/
def halt (session : Session) (call : Call) : Reaction :=
  if session.phase = .running then
    { session with phase := .stopped }.replying call
      (if call.params.isNone then .ok .nothing else .error .invalidParams)
  else session.refusing call session.phase.fault

/-- Answer a question. -/
def answerQuestion (catalog : Catalog) (session : Session) (call : Call)
    (decode : Json → Option Question) : Reaction :=
  if session.phase = .running then
    match decode? call decode with
    | some question =>
        session.replying call (.ok (session.workspace.answer catalog question))
    | none => session.refusing call .invalidParams
  else session.refusing call session.phase.fault

/-- Turn down a request that is never granted. -/
def turnDown (session : Session) (call : Call) (fits : Json → Bool) : Reaction :=
  if session.phase = .running then
    session.refusing call (if call.params.any fits then .methodNotFound else .invalidParams)
  else session.refusing call session.phase.fault

/-- Follow a note. -/
def follow (catalog : Catalog) (session : Session) : Note → Reaction
  | .ready => ⟨session, [.logged readyMessage], none⟩
  | .document event =>
      match session.workspace.apply catalog event with
      | (workspace, publication) =>
          ⟨{ session with workspace }, (publication.map .published).toList, none⟩
  | .ignored => session.quiet

/-- Take a note. One that wants a reply is refused. -/
def takeNote (catalog : Catalog) (session : Session) (call : Call)
    (decode : Json → Option Note) : Reaction :=
  if session.phase = .running then
    if call.id.isSome then session.refusing call .invalidRequest
    else (decode? call decode).elim session.quiet (session.follow catalog)
  else session.refusing call session.phase.fault

/-- Methods whose names start like this may be passed over in silence. -/
def optionalStart : String := "$/"

/-- Turn down a call that the protocol does not define. -/
def turnDownUnknown (session : Session) (call : Call) : Reaction :=
  if optionalStart.toList.isPrefixOf call.method.toList then session.quiet
  else session.refusing call .methodNotFound

/-- Take one call. There is nothing to take once the editor has left. -/
def handle (catalog : Catalog) (session : Session) (call : Call) : Option Reaction :=
  if session.phase = .left then none
  else
    some <|
      match Method.ofName? call.method with
      | none => session.turnDownUnknown call
      | some .start => session.introduce call
      | some .stop => session.halt call
      | some .leave => { session with phase := .left }.quiet
      | some .withdraw => session.refusing call .invalidRequest
      | some (.question decode) => session.answerQuestion catalog call decode
      | some (.unsupported fits) => session.turnDown call fits
      | some (.note decode) => session.takeNote catalog call decode

end Session

end AlloyAssist
