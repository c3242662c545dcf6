import AlloyAssist.Proofs.Session.Step

/-!
# What an editor is shown

An editor shows for a document what was last published for it. Along every session this
is what the stored document calls for: the images of its issues if it is checked at all,
and nothing if it is not. For documents that are not stored nothing is shown.

The argument follows one URL. An event about another document touches neither what is
stored under the URL nor what is shown for it; an event about the document itself
publishes anew whatever it changes.
-/

namespace AlloyAssist

open Protocol

/-! ## What is shown -/

/-- The diagnostics that were last published for a document. -/
def lastShown? (url : Url) (sent : List Notification) : Option (List Diagnostic) :=
  ((publications sent).filter fun publication => publication.url = url).getLast?.map
    Publication.diagnostics

theorem lastShown?_append (url : Url) (front back : List Notification) :
    lastShown? url (front ++ back) = (lastShown? url back).or (lastShown? url front) := by
  simp only [lastShown?, publications_append, List.filter_append, List.getLast?_append,
    Option.map_or]

theorem lastShown?_of_publications_eq_nil {sent : List Notification}
    (silent : publications sent = []) (url : Url) : lastShown? url sent = none := by
  rw [lastShown?, silent]
  rfl

theorem lastShown?_published (url : Url) (publication : Publication) :
    lastShown? url [.published publication] =
      if publication.url = url then some publication.diagnostics else none := by
  by_cases own : publication.url = url
  · simp [lastShown?, publications, Notification.publication?, own]
  · simp [lastShown?, publications, Notification.publication?, own]

namespace Workspace

/-- What is shown for a document is what its stored state calls for. -/
def Describes (workspace : Workspace) (catalog : Catalog) (url : Url)
    (shown : Option (List Diagnostic)) : Prop :=
  match workspace.document? url with
  | some document => shown = some (document.diagnostics catalog url)
  | none => shown = none ∨ shown = some []

theorem describes_congr {left right : Workspace} {url : Url}
    (same : left.document? url = right.document? url) (catalog : Catalog)
    (shown : Option (List Diagnostic)) :
    left.Describes catalog url shown ↔ right.Describes catalog url shown := by
  rw [Describes, same, Describes]

/-- For a stored document there is something to publish, and it describes the document. -/
theorem exists_publication {workspace : Workspace} {url : Url} {document : Document}
    (stored : workspace.document? url = some document) (catalog : Catalog) :
    ∃ publication, workspace.publication? catalog url = some publication ∧
      publication.url = url ∧
      workspace.Describes catalog url (some publication.diagnostics) := by
  refine ⟨⟨url, document.diagnostics catalog url⟩, ?_, rfl, ?_⟩
  · rw [publication?, stored, Option.map_some]
  · rw [Describes, stored]

theorem publication?_eq_none {workspace : Workspace} {url : Url}
    (absent : workspace.document? url = none) (catalog : Catalog) :
    workspace.publication? catalog url = none := by
  rw [publication?, absent, Option.map_none]

/-! ## One event -/

theorem document?_setText (workspace : Workspace) (url other : Url) (text : String) :
    (workspace.setText url text).document? other =
      if url = other then
        some ⟨text, ((workspace.document? url).map Document.languageId).getD ""⟩
      else workspace.document? other := by
  unfold setText
  cases workspace.document? url with
  | none => exact document?_put ..
  | some document => exact document?_put ..

theorem document?_updateText (workspace : Workspace) (url other : Url) (text : String) :
    (workspace.updateText url text).document? other =
      if url = other then (workspace.document? url).map fun document =>
        { document with content := text }
      else workspace.document? other := by
  unfold updateText
  cases stored : workspace.document? url with
  | none =>
      by_cases own : url = other
      · rw [if_pos own, ← own, stored, Option.map_none]
      · rw [if_neg own]
  | some document => exact document?_put ..

/-- An event changes what is stored under its own URL only. -/
theorem document?_apply_of_ne (catalog : Catalog) (workspace : Workspace) (event : DocumentEvent)
    {other : Url} (different : event.url ≠ other) :
    (workspace.apply catalog event).1.document? other = workspace.document? other := by
  cases event with
  | opened url languageId text => exact (document?_put ..).trans (if_neg different)
  | changed url texts =>
      simp only [apply]
      cases texts.getLast? with
      | none => rfl
      | some text => exact (document?_setText ..).trans (if_neg different)
  | saved url text =>
      cases text with
      | none => rfl
      | some text => exact (document?_updateText ..).trans (if_neg different)
  | closed url => exact (document?_remove ..).trans (if_neg different)

/-- An event publishes nothing and leaves its document alone, or it publishes what
describes the document from now on. -/
theorem apply_cases (catalog : Catalog) (workspace : Workspace) (event : DocumentEvent) :
    (workspace.apply catalog event).2 = none ∧
        (workspace.apply catalog event).1.document? event.url =
          workspace.document? event.url ∨
      ∃ publication, (workspace.apply catalog event).2 = some publication ∧
        publication.url = event.url ∧
        (workspace.apply catalog event).1.Describes catalog event.url
          (some publication.diagnostics) := by
  cases event with
  | opened url languageId text =>
      have stored := document?_put workspace url url ⟨text, languageId⟩
      rw [if_pos rfl] at stored
      exact .inr (exists_publication stored catalog)
  | changed url texts =>
      simp only [apply]
      cases texts.getLast? with
      | none => exact .inl ⟨rfl, rfl⟩
      | some text =>
          have stored := document?_setText workspace url url text
          rw [if_pos rfl] at stored
          exact .inr (exists_publication stored catalog)
  | saved url text =>
      cases saved : (text.elim workspace (workspace.updateText url)).document? url with
      | some document => exact .inr (exists_publication saved catalog)
      | none =>
          -- A save opens nothing: what is absent behind it was absent before.
          refine .inl ⟨publication?_eq_none saved catalog, ?_⟩
          cases text with
          | none => rfl
          | some text =>
              have absent := saved
              rw [Option.elim_some, document?_updateText, if_pos rfl,
                Option.map_eq_none_iff] at absent
              exact saved.trans absent.symm
  | closed url =>
      have removed := document?_remove workspace url url
      rw [if_pos rfl] at removed
      refine .inr ⟨⟨url, []⟩, rfl, rfl, ?_⟩
      change (workspace.remove url).Describes catalog url (some [])
      rw [Describes, removed]
      exact .inr rfl

/-- What is shown for a document goes on describing it when an event is followed and its
publication is sent. -/
theorem Describes.apply {workspace : Workspace} {catalog : Catalog} {url : Url}
    {shown : Option (List Diagnostic)} (describes : workspace.Describes catalog url shown)
    (event : DocumentEvent) :
    (workspace.apply catalog event).1.Describes catalog url
      ((lastShown? url
        ((workspace.apply catalog event).2.map Notification.published).toList).or shown) := by
  by_cases own : event.url = url
  · subst own
    rcases apply_cases catalog workspace event with ⟨silent, same⟩ | ⟨publication, sent, about, new⟩
    · rw [silent, describes_congr same]
      exact describes
    · rw [sent, Option.map_some, Option.toList_some, lastShown?_published, if_pos about]
      exact new
  · rw [describes_congr (document?_apply_of_ne catalog workspace event own)]
    rcases apply_cases catalog workspace event with ⟨silent, -⟩ | ⟨publication, sent, about, -⟩
    · rw [silent]
      exact describes
    · rw [sent, Option.map_some, Option.toList_some, lastShown?_published,
        if_neg (about ▸ own), Option.none_or]
      exact describes

end Workspace

/-! ## A whole session -/

/-- A session together with all that it has sent so far. -/
structure Transcript where
  session : Session
  sent : List Notification

namespace Transcript

/-- Before the first call. -/
def start : Transcript := ⟨.start, []⟩

/-- Take one call, and write down what is sent. -/
def take (catalog : Catalog) (transcript : Transcript) (call : Call) : Transcript :=
  match transcript.session.handle catalog call with
  | some reaction => ⟨reaction.session, transcript.sent ++ reaction.sent⟩
  | none => transcript

/-- All calls so far, one after the other. -/
def after (catalog : Catalog) (calls : List Call) : Transcript :=
  calls.foldl (take catalog) start

/-- What is shown for every document is what its stored state calls for. -/
def Current (catalog : Catalog) (transcript : Transcript) : Prop :=
  ∀ url, transcript.session.workspace.Describes catalog url (lastShown? url transcript.sent)

theorem current_start (catalog : Catalog) : start.Current catalog := by
  intro url
  rw [Workspace.Describes]
  simp only [start, Session.start, Workspace.document?_empty]
  exact .inl rfl

/-- One call keeps what is shown up to date. -/
theorem Current.take {catalog : Catalog} {transcript : Transcript}
    (current : transcript.Current catalog) (call : Call) :
    (transcript.take catalog call).Current catalog := by
  intro url
  unfold Transcript.take
  cases handled : transcript.session.handle catalog call with
  | none => exact current url
  | some reaction =>
      simp only [lastShown?_append]
      rcases Session.handle_cases handled with ⟨event, -, followed⟩ | idle
      · rw [followed]
        exact (current url).apply event
      · rw [idle.workspace, lastShown?_of_publications_eq_nil idle.publications, Option.none_or]
        exact current url

/-- Whatever calls are taken, what is shown is up to date after each of them. -/
theorem current_after (catalog : Catalog) (calls : List Call) :
    (after catalog calls).Current catalog := by
  suffices ∀ transcript : Transcript, transcript.Current catalog →
      (calls.foldl (Transcript.take catalog) transcript).Current catalog from
    this start (current_start catalog)
  induction calls with
  | nil =>
      intro transcript current
      exact current
  | cons call calls ih =>
      intro transcript current
      exact ih (transcript.take catalog call) (current.take call)

end Transcript

/-- A call publishes at most once, and only for the document that it names. -/
theorem publications_of_handle {catalog : Catalog} {session : Session} {call : Call}
    {reaction : Reaction} (handled : session.handle catalog call = some reaction) :
    (publications reaction.sent).length ≤ 1 ∧
      ∀ publication ∈ publications reaction.sent, call.url? = some publication.url := by
  rcases Session.handle_cases handled with ⟨event, told, followed⟩ | idle
  · subst followed
    have named := Call.url?_of_event? told
    have sent : (session.follow catalog (.document event)).sent =
        ((session.workspace.apply catalog event).2.map Notification.published).toList := rfl
    rw [sent]
    rcases Workspace.apply_cases catalog session.workspace event with
      ⟨silent, -⟩ | ⟨publication, published, about, -⟩
    · rw [silent]
      exact ⟨Nat.zero_le 1, fun _ membership => nomatch membership⟩
    · rw [published]
      constructor
      · exact Nat.le_refl 1
      · intro other membership
        have same : other = publication := List.mem_singleton.mp membership
        rw [same, about]
        exact named
  · rw [idle.publications]
    exact ⟨Nat.zero_le 1, fun _ membership => nomatch membership⟩

theorem Document.diagnostics_eq (document : Document) (catalog : Catalog) (url : Url) :
    document.diagnostics catalog url =
      if document.languageId = "alloy" ∨ ".alloy".toList <:+ url.path.toList then
        (Report.ofText catalog document.content).issues.map (Diagnostic.ofIssue document.lines)
      else [] := by
  have recognized : document.isAlloy url = true ↔
      document.languageId = "alloy" ∨ ".alloy".toList <:+ url.path.toList := by
    simp [isAlloy, Url.pathEndsWith, alloyLanguage, alloyExtension]
  simp only [diagnostics, recognized]

/-- After any calls, what was last published for a stored document is made of the issues of
its text if it is an Alloy document, and is empty if it is not; for a document that is not
stored, it is empty if there was anything. No call publishes more than once, or for another
document than the one that it names. -/
theorem last_publication_describes_document (catalog : Catalog) (calls : List Call) (url : Url) :
    (match (Transcript.after catalog calls).session.workspace.document? url with
      | some document =>
          lastShown? url (Transcript.after catalog calls).sent =
            some (if document.languageId = "alloy" ∨ ".alloy".toList <:+ url.path.toList then
              (Report.ofText catalog document.content).issues.map
                (Diagnostic.ofIssue document.lines)
            else [])
      | none =>
          ∀ shown, lastShown? url (Transcript.after catalog calls).sent = some shown →
            shown = []) ∧
      ∀ session call reaction, Session.handle catalog session call = some reaction →
        (publications reaction.sent).length ≤ 1 ∧
          ∀ publication ∈ publications reaction.sent, call.url? = some publication.url := by
  refine ⟨?_, fun session call reaction => publications_of_handle⟩
  have current := Transcript.current_after catalog calls url
  unfold Workspace.Describes at current
  cases stored : (Transcript.after catalog calls).session.workspace.document? url with
  | some document =>
      rw [stored] at current
      exact current.trans (congrArg some (document.diagnostics_eq catalog url))
  | none =>
      rw [stored] at current
      intro shown last
      rcases current with never | taken
      · cases never.symm.trans last
      · exact (Option.some.inj (taken.symm.trans last)).symm

namespace Protocol.Call

/-- An editor introduces itself. -/
def introduction : Call :=
  ⟨some (.number 1), "initialize", some (.object [("capabilities", .object [])])⟩

/-- How the calls about a document name it. -/
def textDocument (uri : String) : String × Json :=
  ("textDocument", .object [("uri", .string uri), ("version", .int 1)])

def didOpen (uri text : String) : Call :=
  ⟨none, "textDocument/didOpen", some (.object [("textDocument", .object
    [("uri", .string uri), ("languageId", .string "alloy"), ("version", .int 1),
      ("text", .string text)])])⟩

def didChange (uri text : String) : Call :=
  ⟨none, "textDocument/didChange", some (.object [textDocument uri,
    ("contentChanges", .array [.object [("text", .string text)]])])⟩

def didSave (uri : String) (text : Option String) : Call :=
  ⟨none, "textDocument/didSave", some (.object
    (textDocument uri :: (text.map fun text => ("text", .string text)).toList))⟩

def didClose (uri : String) : Call :=
  ⟨none, "textDocument/didClose", some (.object [textDocument uri])⟩

def documentSymbol (id : Int) (uri : String) : Call :=
  ⟨some (.number id), "textDocument/documentSymbol", some (.object [textDocument uri])⟩

end Protocol.Call

/-- A document is opened and then saved without its text. Another is changed that was never
opened, and a third is opened and closed. -/
def strayCalls : List Call :=
  [.introduction, .didOpen "untitled:a" "port =", .didSave "untitled:a" none,
    .didChange "file:///b.alloy" "host =", .didOpen "untitled:c" "a =", .didClose "untitled:c"]

/-- Attributes without a value are shown, both in the document that was opened and in the one that
is known to be of the language by its path only. Nothing is left of the one that was closed. -/
theorem last_publication_missing_value :
    let sent := (Transcript.after .builtin strayCalls).sent
    lastShown? ⟨"untitled", none, "a", none, none⟩ sent =
        some [⟨Span.ofLine 0 "port =".toList, .error, "Attribute 'port' is missing a value"⟩] ∧
      lastShown? ⟨"file", some "", "/b.alloy", none, none⟩ sent =
        some [⟨Span.ofLine 0 "host =".toList, .error, "Attribute 'host' is missing a value"⟩] ∧
      lastShown? ⟨"untitled", none, "c", none, none⟩ sent = some [] := by
  intro sent
  let opened : Url := ⟨"untitled", none, "a", none, none⟩
  let changed : Url := ⟨"file", some "", "/b.alloy", none, none⟩
  let closed : Url := ⟨"untitled", none, "c", none, none⟩
  have followed : (Transcript.after .builtin strayCalls).session.workspace =
      (((Workspace.empty.put opened ⟨"port =", "alloy"⟩).setText changed "host =").put closed
        ⟨"a =", "alloy"⟩).remove closed := rfl
  have shown := fun url => (last_publication_describes_document .builtin strayCalls url).1
  simp only [followed, Workspace.document?_remove, Workspace.document?_put,
    Workspace.document?_setText, Workspace.document?_empty] at shown
  refine ⟨(shown opened).trans (by decide), (shown changed).trans (by decide), ?_⟩
  have published : (lastShown? closed sent).isSome = true := by
    have last : sent = (Transcript.after .builtin (strayCalls.take 5)).sent ++
      [.published ⟨closed, []⟩] := rfl
    rw [last, lastShown?_append, lastShown?_published, if_pos rfl]
    rfl
  rcases Option.isSome_iff_exists.mp published with ⟨diagnostics, last⟩
  rw [last, shown closed diagnostics last]

end AlloyAssist
