import AlloyAssist.Proofs.Workspace.History

/-!
# Documents do not interfere

Calls about one document make no difference to another. For each document a session can be
cut down to the calls that name it: what is stored for it, what is published for it and
what is replied to these calls stay the same.

The argument compares two sessions, one that takes all calls and one that takes those about
the document only. `Transcript.Agree` holds between them at every point. A call about another
document is taken by the first session alone and is not noticed; a call about the document
is taken by both, and they react alike.
-/

namespace AlloyAssist

open Protocol

/-! ## Where two workspaces agree -/

namespace Question

/-- The document a question is about. -/
def url : Question → Url
  | hover url _ => url
  | completion url => url
  | outline url => url
  | formatting url => url

end Question

namespace Workspace

variable {left right : Workspace} {url : Url}

theorem answer_congr {question : Question}
    (same : left.document? question.url = right.document? question.url) (catalog : Catalog) :
    left.answer catalog question = right.answer catalog question := by
  cases question
  all_goals
    simp only [Question.url] at same
    simp only [answer, same]

theorem publication?_congr (same : left.document? url = right.document? url)
    (catalog : Catalog) : left.publication? catalog url = right.publication? catalog url := by
  rw [publication?, same, publication?]

theorem publication_apply_congr {event : DocumentEvent}
    (same : left.document? event.url = right.document? event.url) (catalog : Catalog) :
    (left.apply catalog event).2 = (right.apply catalog event).2 := by
  -- What is published is made of what is stored behind the event, not before it.
  have later : (left.apply catalog event).1.document? event.url =
      (right.apply catalog event).1.document? event.url := by
    rw [document?_apply, same, document?_apply]
  cases event with
  | opened url languageId text => exact publication?_congr later catalog
  | changed url texts =>
      simp only [apply] at later ⊢
      cases last : texts.getLast? with
      | none => rfl
      | some text =>
          simp only [last] at later
          exact publication?_congr later catalog
  | saved url text => exact publication?_congr later catalog
  | closed url => rfl

end Workspace

/-! ## Calls about documents -/

namespace Method

/-- The methods that tell of a document. -/
def noteNames : List String :=
  ["textDocument/didOpen", "textDocument/didChange", "textDocument/didSave",
    "textDocument/didClose"]

/-- The methods that ask about a document. -/
def questionNames : List String :=
  ["textDocument/hover", "textDocument/completion", "textDocument/formatting",
    "textDocument/documentSymbol"]

end Method

namespace Protocol

theorem subject?_of_document? {json : Json} {url : Url} (read : document? json = some url) :
    subject? json = some url := by
  rcases Option.bind_eq_some_iff.mp read with ⟨document, member, urlRead⟩
  have leading : leadingField? "textDocument" json = some document := by
    cases json with
    | object members => exact member
    | _ => cases member
  rw [subject?, leading]
  exact leadingField?_of_documentUrl? urlRead

theorem subject?_of_hover? {json : Json} {question : Question}
    (read : hover? json = some question) : subject? json = some question.url := by
  rcases Option.bind_eq_some_iff.mp read with ⟨-, -, placeRead⟩
  rcases Option.bind_eq_some_iff.mp placeRead with ⟨place, positioned, built⟩
  rcases Option.bind_eq_some_iff.mp positioned with ⟨url, documentRead, positionRead⟩
  rcases Option.bind_eq_some_iff.mp positionRead with ⟨position, -, placed⟩
  cases placed
  cases built
  exact subject?_of_document? documentRead

/-- The other questions read nothing but the document, and check the rest. -/
theorem subject?_of_guarded {json : Json} {question : Question} {fits : Prop} [Decidable fits]
    (build : Url → Question) (about : ∀ url, (build url).url = url)
    (read : (do guard fits; let url ← document? json; return build url) = some question) :
    subject? json = some question.url := by
  rcases Option.bind_eq_some_iff.mp read with ⟨-, -, rest⟩
  rcases Option.bind_eq_some_iff.mp rest with ⟨url, documentRead, built⟩
  cases built
  rw [about]
  exact subject?_of_document? documentRead

end Protocol

namespace Method

theorem ofName?_of_mem_noteNames {name : String} (note : name ∈ noteNames) :
    ∃ decode, ofName? name = some (documentNote decode) := by
  simp only [noteNames, List.mem_cons, List.not_mem_nil, or_false] at note
  rcases note with rfl | rfl | rfl | rfl
  · exact ⟨opened?, rfl⟩
  · exact ⟨changed?, rfl⟩
  · exact ⟨saved?, rfl⟩
  · exact ⟨closed?, rfl⟩

theorem ofName?_of_mem_questionNames {name : String} (asks : name ∈ questionNames) :
    ∃ decode, ofName? name = some (question decode) ∧
      ∀ json asked, decode json = some asked → subject? json = some asked.url := by
  simp only [questionNames, List.mem_cons, List.not_mem_nil, or_false] at asks
  rcases asks with rfl | rfl | rfl | rfl
  · exact ⟨hover?, rfl, fun _ _ => subject?_of_hover?⟩
  · exact ⟨completion?, rfl, fun _ _ => subject?_of_guarded .completion fun _ => rfl⟩
  · exact ⟨formatting?, rfl, fun _ _ => subject?_of_guarded .formatting fun _ => rfl⟩
  · exact ⟨outline?, rfl, fun _ _ => subject?_of_guarded .outline fun _ => rfl⟩

end Method

namespace Protocol.Call

/-- The call tells of a document or asks about one. -/
def OfDocument (call : Call) : Prop :=
  call.method ∈ Method.noteNames ∨ call.method ∈ Method.questionNames

/-- The event that a call tells. A note that wants a reply tells nothing. -/
def told? (call : Call) : Option DocumentEvent :=
  if call.id.isSome then none else call.event?

/-- What a running session makes of a call about a document: it follows an event, or it
replies and nothing changes. The reply depends on the document that the call names only. -/
inductive Effect (catalog : Catalog) (call : Call) : Prop where
  | tells (event : DocumentEvent) (told : call.told? = some event)
      (named : call.url? = some event.url)
      (handled : ∀ session : Session, session.phase = .running →
        session.handle catalog call = some (session.follow catalog (.document event)))
  | replies (reply : Workspace → Option Reply) (silent : call.told? = none)
      (confined : ∀ url left right, call.url? = some url →
        left.document? url = right.document? url → reply left = reply right)
      (handled : ∀ session : Session, session.phase = .running →
        session.handle catalog call = some ⟨session, [], reply session.workspace⟩)

section

variable {call : Call}

theorem told?_of_requested (requested : call.id.isSome = true) : call.told? = none :=
  if_pos requested

theorem told?_of_not_requested (silent : call.id.isSome = false) : call.told? = call.event? :=
  if_neg (by simp [silent])

theorem event?_of_documentNote {decode : Json → Option DocumentEvent}
    (found : Method.ofName? call.method = some (Method.documentNote decode)) :
    call.event? = call.params.bind decode := by
  have params : call.params.bind (fun json => (decode json).map Note.document) =
      (call.params.bind decode).map .document := Option.map_bind.symm
  simp only [event?, found, Method.documentNote, params]
  cases call.params.bind decode with
  | none => rfl
  | some event => rfl

theorem Effect.ofReply {catalog : Catalog} (reply : Option Reply) (silent : call.told? = none)
    (handled : ∀ session : Session, session.phase = .running →
      session.handle catalog call = some ⟨session, [], reply⟩) : Effect catalog call :=
  .replies (fun _ => reply) silent (fun _ _ _ _ _ => rfl) handled

theorem effect_of_note (note : call.method ∈ Method.noteNames) (catalog : Catalog) :
    Effect catalog call := by
  rcases Method.ofName?_of_mem_noteNames note with ⟨decode, found⟩
  have taken (session : Session) (running : session.phase = .running) :
      session.handle catalog call = some (if call.id.isSome then
        session.refusing call .invalidRequest
      else call.event?.elim session.quiet fun event => session.follow catalog (.document event)) := by
    have params : call.params.bind (fun json => (decode json).map Note.document) =
        call.event?.map .document := by
      rw [event?_of_documentNote found, Option.map_bind]
      rfl
    simp only [Session.handle, running, found, Method.documentNote, Session.takeNote,
      Session.decode?, params, Option.elim_map, if_true, reduceCtorEq, if_false]
    rfl
  cases requested : call.id.isSome with
  | true =>
      apply Effect.ofReply _ (told?_of_requested requested)
      intro session running
      rw [taken session running, if_pos requested]
      rfl
  | false =>
      have told := told?_of_not_requested requested
      cases read : call.event? with
      | none =>
          apply Effect.ofReply none (told.trans read)
          intro session running
          rw [taken session running, if_neg (by simp [requested]), read]
          rfl
      | some event =>
          apply Effect.tells event (told.trans read) (url?_of_event? read)
          intro session running
          rw [taken session running, if_neg (by simp [requested]), read]
          rfl

theorem effect_of_question (asks : call.method ∈ Method.questionNames) (catalog : Catalog) :
    Effect catalog call := by
  rcases Method.ofName?_of_mem_questionNames asks with ⟨decode, found, names⟩
  have silent : call.told? = none := by
    simp [told?, event?, found]
  cases read : call.params.bind decode with
  | none =>
      apply Effect.ofReply _ silent
      intro session running
      simp only [Session.handle, running, found, Session.answerQuestion, Session.decode?, read,
        if_true, reduceCtorEq, if_false]
      rfl
  | some question =>
      rcases Option.bind_eq_some_iff.mp read with ⟨params, given, decoded⟩
      have named : call.url? = some question.url := by
        rw [url?, given]
        exact names params question decoded
      apply Effect.replies (fun workspace =>
        call.id.map fun id => ⟨id, .ok (workspace.answer catalog question)⟩) silent
      · intro url left right own same
        cases named.symm.trans own
        rw [Workspace.answer_congr same]
      · intro session running
        simp only [Session.handle, running, found, Session.answerQuestion, Session.decode?, read,
          if_true, reduceCtorEq, if_false]
        rfl

theorem OfDocument.effect (ofDocument : call.OfDocument) (catalog : Catalog) :
    Effect catalog call := by
  rcases ofDocument with note | asks
  · exact effect_of_note note catalog
  · exact effect_of_question asks catalog

end

end Protocol.Call

/-- What was published for a document, in the order sent. -/
def publicationsFor (url : Url) (sent : List Notification) : List Publication :=
  (publications sent).filter fun publication => publication.url = url

theorem publicationsFor_append (url : Url) (front back : List Notification) :
    publicationsFor url (front ++ back) =
      publicationsFor url front ++ publicationsFor url back := by
  simp only [publicationsFor, publications_append, List.filter_append]

namespace Session

/-- The reply to a call, if there is one. -/
def reply? (catalog : Catalog) (session : Session) (call : Call) : Option Reply :=
  (session.handle catalog call).bind Reaction.reply

theorem publicationsFor_follow_of_ne (catalog : Catalog) (session : Session)
    {event : DocumentEvent} {url : Url} (different : event.url ≠ url) :
    publicationsFor url (session.follow catalog (.document event)).sent = [] := by
  have sent : (session.follow catalog (.document event)).sent =
      ((session.workspace.apply catalog event).2.map Notification.published).toList := rfl
  rw [sent]
  rcases Workspace.apply_cases catalog session.workspace event with
    ⟨silent, -⟩ | ⟨publication, published, about, -⟩
  · rw [silent]
    rfl
  · rw [published]
    simp [publicationsFor, publications, Notification.publication?, about, different]

/-- A question changes nothing, whenever it is asked. -/
theorem session_of_question {catalog : Catalog} {session : Session} {call : Call}
    {reaction : Reaction} (asks : call.method ∈ Method.questionNames)
    (handled : session.handle catalog call = some reaction) : reaction.session = session := by
  rcases Method.ofName?_of_mem_questionNames asks with ⟨decode, found, -⟩
  unfold handle at handled
  split at handled
  · cases handled
  · simp only [found, Option.some.injEq, answerQuestion] at handled
    subst handled
    split
    · split
      · rfl
      · rfl
    · rfl

end Session

/-! ## Two sessions side by side -/

namespace Transcript

/-- The editor has introduced itself and told nothing yet. -/
def begun : Transcript := ⟨⟨.running, .empty⟩, []⟩

example : start.take .builtin .introduction = begun := rfl

/-- Take calls one after the other. -/
def run (catalog : Catalog) (transcript : Transcript) (calls : List Call) : Transcript :=
  calls.foldl (take catalog) transcript

/-- The calls, each with the reply to it. -/
def replies (catalog : Catalog) (transcript : Transcript) : List Call → List (Call × Option Reply)
  | [] => []
  | call :: calls =>
      (call, transcript.session.reply? catalog call) ::
        replies catalog (transcript.take catalog call) calls

variable {catalog : Catalog} {url : Url} {left right : Transcript} {call : Call}

theorem take_of_handle {transcript : Transcript} {reaction : Reaction}
    (handled : transcript.session.handle catalog call = some reaction) :
    transcript.take catalog call = ⟨reaction.session, transcript.sent ++ reaction.sent⟩ := by
  rw [take, handled]

/-- A call of which nothing but a reply comes leaves no trace. -/
theorem take_of_handle_reply {transcript : Transcript} {reply : Option Reply}
    (handled : transcript.session.handle catalog call = some ⟨transcript.session, [], reply⟩) :
    transcript.take catalog call = transcript := by
  rw [take_of_handle handled, List.append_nil]

/-- Two sessions are alike as far as one document is concerned. -/
structure Agree (url : Url) (left right : Transcript) : Prop where
  leftRuns : left.session.phase = .running
  rightRuns : right.session.phase = .running
  document : left.session.workspace.document? url = right.session.workspace.document? url
  published : publicationsFor url left.sent = publicationsFor url right.sent

namespace Agree

theorem refl_begun (url : Url) : Agree url begun begun :=
  ⟨rfl, rfl, rfl, rfl⟩

theorem skip (agree : Agree url left right) (ofDocument : call.OfDocument)
    (other : call.url? ≠ some url) : Agree url (left.take catalog call) right := by
  rcases ofDocument.effect catalog with
    ⟨event, -, named, handled⟩ | ⟨reply, -, -, handled⟩
  · have different : event.url ≠ url := fun same => other (named.trans (congrArg some same))
    rw [take_of_handle (handled left.session agree.leftRuns)]
    refine ⟨agree.leftRuns, agree.rightRuns, ?_, ?_⟩
    · exact (Workspace.document?_apply_of_ne _ _ _ different).trans agree.document
    · rw [publicationsFor_append, Session.publicationsFor_follow_of_ne _ _ different,
        List.append_nil, agree.published]
  · rw [take_of_handle_reply (handled left.session agree.leftRuns)]
    exact agree

theorem take (agree : Agree url left right) (ofDocument : call.OfDocument)
    (own : call.url? = some url) :
    Agree url (left.take catalog call) (right.take catalog call) := by
  rcases ofDocument.effect catalog with
    ⟨event, -, named, handled⟩ | ⟨reply, -, -, handled⟩
  · cases named.symm.trans own
    rw [take_of_handle (handled left.session agree.leftRuns),
      take_of_handle (handled right.session agree.rightRuns)]
    refine ⟨agree.leftRuns, agree.rightRuns, ?_, ?_⟩
    · simp only [Session.follow, Workspace.document?_apply, agree.document]
    · simp only [Session.follow, publicationsFor_append, agree.published,
        Workspace.publication_apply_congr agree.document]
  · rw [take_of_handle_reply (handled left.session agree.leftRuns),
      take_of_handle_reply (handled right.session agree.rightRuns)]
    exact agree

theorem reply?_eq (agree : Agree url left right) (ofDocument : call.OfDocument)
    (own : call.url? = some url) :
    left.session.reply? catalog call = right.session.reply? catalog call := by
  rcases ofDocument.effect catalog with
    ⟨event, -, -, handled⟩ | ⟨reply, -, confined, handled⟩
  · rw [Session.reply?, handled left.session agree.leftRuns, Session.reply?,
      handled right.session agree.rightRuns]
    rfl
  · rw [Session.reply?, handled left.session agree.leftRuns, Session.reply?,
      handled right.session agree.rightRuns]
    exact confined url _ _ own agree.document

/-- One session takes all calls, the other those about the document. -/
theorem run (agree : Agree url left right) {calls : List Call}
    (ofDocuments : ∀ call ∈ calls, call.OfDocument) :
    Agree url (left.run catalog calls)
        (right.run catalog (calls.filter fun call => call.url? = some url)) ∧
      ((left.replies catalog calls).filter fun entry => entry.1.url? = some url) =
        right.replies catalog (calls.filter fun call => call.url? = some url) := by
  induction calls generalizing left right with
  | nil => exact ⟨agree, rfl⟩
  | cons call calls ih =>
      rcases List.forall_mem_cons.mp ofDocuments with ⟨ofDocument, later⟩
      by_cases own : call.url? = some url
      · rcases ih (agree.take ofDocument own) later with ⟨agreeLater, sameReplies⟩
        rw [List.filter_cons_of_pos (by simp [own])]
        refine ⟨agreeLater, ?_⟩
        rw [replies, replies, List.filter_cons_of_pos (by simp [own]),
          agree.reply?_eq ofDocument own, sameReplies]
      · rcases ih (agree.skip ofDocument own) later with ⟨agreeLater, sameReplies⟩
        rw [List.filter_cons_of_neg (by simp [own])]
        refine ⟨agreeLater, ?_⟩
        rw [replies, List.filter_cons_of_neg (by simp [own]), sameReplies]

end Agree

/-- The events about a document that calls tell. -/
def toldOf (url : Url) (calls : List Call) : List DocumentEvent :=
  (calls.filterMap Call.told?).filter fun event => event.url = url

/-- What is stored is what the events told so far leave behind. -/
theorem document?_run {transcript : Transcript} (events : List DocumentEvent)
    (running : transcript.session.phase = .running)
    (stored : transcript.session.workspace.document? url = History.document? events)
    {calls : List Call} (ofDocuments : ∀ call ∈ calls, call.OfDocument) :
    (transcript.run catalog calls).session.workspace.document? url =
      History.document? (events ++ toldOf url calls) := by
  induction calls generalizing transcript events with
  | nil =>
      rw [toldOf, List.filterMap_nil, List.filter_nil, List.append_nil]
      exact stored
  | cons call calls ih =>
      rcases List.forall_mem_cons.mp ofDocuments with ⟨ofDocument, later⟩
      change ((transcript.take catalog call).run catalog calls).session.workspace.document? url = _
      rcases ofDocument.effect catalog with
        ⟨event, told, -, handled⟩ | ⟨reply, silent, -, handled⟩
      · rw [take_of_handle (handled transcript.session running), toldOf,
          List.filterMap_cons_some told]
        -- An event about another document is passed over on both sides.
        by_cases own : event.url = url
        · subst own
          rw [List.filter_cons_of_pos (by simp), List.append_cons]
          refine ih _ running ?_ later
          rw [History.document?_concat, ← stored]
          exact Workspace.document?_apply ..
        · rw [List.filter_cons_of_neg (by simp [own])]
          refine ih _ running ?_ later
          exact (Workspace.document?_apply_of_ne _ _ _ own).trans stored
      · rw [take_of_handle_reply (handled transcript.session running), toldOf,
          List.filterMap_cons_none silent]
        exact ih events running stored later

/-- For each document, all calls come to the same as the calls about it alone: in what is
stored for it, in what is published for it and in what is replied to the calls about it.
What is stored can be read off what was told of it, and questions change nothing. -/
theorem run_restricts_to_document (catalog : Catalog) (calls : List Call)
    (ofDocuments : ∀ call ∈ calls, call.OfDocument) (url : Url) :
    (begun.run catalog calls).session.workspace.document? url =
        (begun.run catalog (calls.filter fun call =>
          call.url? = some url)).session.workspace.document? url ∧
      publicationsFor url (begun.run catalog calls).sent =
        publicationsFor url (begun.run catalog (calls.filter fun call =>
          call.url? = some url)).sent ∧
      ((begun.replies catalog calls).filter fun entry => entry.1.url? = some url) =
        begun.replies catalog (calls.filter fun call => call.url? = some url) ∧
      (begun.run catalog calls).session.workspace.document? url =
        History.document? (toldOf url calls) ∧
      ∀ session call reaction, call.method ∈ Method.questionNames →
        Session.handle catalog session call = some reaction → reaction.session = session := by
  rcases (Agree.refl_begun url).run ofDocuments with ⟨agree, sameReplies⟩
  refine ⟨agree.document, agree.published, sameReplies, ?_, ?_⟩
  · exact document?_run [] rfl (Workspace.document?_empty url) ofDocuments
  · intro session call reaction asks handled
    exact Session.session_of_question asks handled

/-- Two documents are told of in turn. The first is opened, asked about and saved with
another text; the second is changed before it is opened, closed, and saved after that. -/
def interleavedCalls : List Call :=
  [.didOpen "untitled:a" "local.x \"y\" \x7b\x7d\nport =", .didChange "untitled:b" "b",
    .documentSymbol 2 "untitled:a", .didClose "untitled:b",
    .didSave "untitled:a" (some "port = 1"), .didSave "untitled:b" (some "c")]

theorem run_restricts_to_document_interleaved :
    let own : Url := ⟨"untitled", none, "a", none, none⟩
    let other : Url := ⟨"untitled", none, "b", none, none⟩
    let transcript := begun.run .builtin interleavedCalls
    (∀ call ∈ interleavedCalls, call.OfDocument) ∧
      transcript.session.workspace.document? own = some ⟨"port = 1", "alloy"⟩ ∧
      transcript.session.workspace.document? other = none ∧
      publicationsFor own transcript.sent =
        [⟨own, [⟨⟨⟨1, 0⟩, ⟨1, 6⟩⟩, .error, "Attribute 'port' is missing a value"⟩]⟩, ⟨own, []⟩] ∧
      ((begun.replies .builtin interleavedCalls).filter fun entry =>
          entry.1.url? = some own).map Prod.snd =
        [none, some ⟨.number 2, .ok (.outline
          [⟨"local.x \"y\"", none, ⟨⟨0, 0⟩, ⟨0, 14⟩⟩, ⟨⟨0, 0⟩, ⟨0, 14⟩⟩⟩])⟩, none] := by
  intro own other transcript
  have ofDocuments : ∀ call ∈ interleavedCalls, call.OfDocument := by
    simp [interleavedCalls, Call.OfDocument, Method.noteNames, Method.questionNames,
      Call.didOpen, Call.didChange, Call.didSave, Call.didClose, Call.documentSymbol]
  rcases run_restricts_to_document .builtin interleavedCalls ofDocuments own with
    ⟨-, published, replied, stored, -⟩
  rcases run_restricts_to_document .builtin interleavedCalls ofDocuments other with
    ⟨-, -, -, storedOther, -⟩
  let opened : Workspace := Workspace.empty.put own ⟨"local.x \"y\" \x7b\x7d\nport =", "alloy"⟩
  have stands : opened.document? own = some ⟨"local.x \"y\" \x7b\x7d\nport =", "alloy"⟩ := by
    rw [Workspace.document?_put, if_pos rfl]
  refine ⟨ofDocuments, stored.trans rfl, storedOther.trans rfl, published.trans ?_, ?_⟩
  · have sent : (begun.run .builtin (interleavedCalls.filter fun call =>
        call.url? = some own)).sent =
          ((opened.publication? .builtin own).map Notification.published).toList ++ [] ++
            (((opened.updateText own "port = 1").publication? .builtin own).map
              Notification.published).toList := rfl
    rw [sent, Workspace.publication?, Workspace.publication?, Workspace.document?_updateText,
      if_pos rfl, stands]
    decide
  · have restricted : (begun.replies .builtin (interleavedCalls.filter fun call =>
        call.url? = some own)).map Prod.snd =
          [none, some ⟨.number 2, .ok (opened.answer .builtin (.outline own))⟩, none] := rfl
    rw [replied, restricted, Workspace.answer, stands]
    rfl

end Transcript

end AlloyAssist
