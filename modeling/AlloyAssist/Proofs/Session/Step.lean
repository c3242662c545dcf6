import AlloyAssist.Session.Basic
import Mathlib.Data.List.Basic

/-!
# What one call can do

Whatever a call is, it comes to one of two things for the documents of a session: it is
followed as an event about the document that its parameters name, or it leaves all
documents alone and publishes nothing. Everything that holds along a whole session is
derived from this one distinction.
-/

namespace AlloyAssist

open Protocol

/-! ## The document that a call names -/

namespace Protocol

/-- The field that comes first in a record, be it written as an object or as an array. -/
def leadingField? (name : String) : Json → Option Json
  | .object members => Json.lookup? name members
  | .array (value :: _) => some value
  | _ => none

/-- The document that parameters name. -/
def subject? (params : Json) : Option Url :=
  (leadingField? "textDocument" params).bind fun document =>
    (leadingField? "uri" document).bind url?

/-- The document that the parameters of a call name. -/
def Call.url? (call : Call) : Option Url :=
  call.params.bind subject?

theorem lookup?_zip_of_not_mem {name : String} {names : List String} (fresh : name ∉ names)
    (values : List Json) : Json.lookup? name (names.zip values) = none := by
  induction names generalizing values with
  | nil => rfl
  | cons other names ih =>
      simp only [List.mem_cons, not_or] at fresh
      cases values with
      | nil => rfl
      | cons value values =>
          simp only [List.zip_cons_cons, Json.lookup?, ih fresh.2, Option.none_or,
            if_neg (Ne.symm fresh.1)]

/-- A record holds its first field where `leadingField?` finds it. -/
theorem record_apply_leading {json : Json} {name : String} {names : List String}
    {record : Json.Record} (fresh : name ∉ names)
    (read : json.record? (name :: names) = some record) : record name = leadingField? name json := by
  unfold Json.record? at read
  split at read
  next members =>
    cases read
    rfl
  next values =>
    split at read
    next length =>
      cases read
      cases values with
      | nil => cases length
      | cons value values =>
          simp only [List.zip_cons_cons, Json.lookup?, lookup?_zip_of_not_mem fresh,
            Option.none_or, if_true, leadingField?]
    next => cases read
  next => cases read

theorem leadingField?_of_documentUrl? {json : Json} {url : Url}
    (read : documentUrl? json = some url) : (leadingField? "uri" json).bind url? = some url := by
  rcases Option.bind_eq_some_iff.mp read with ⟨record, recordRead, required⟩
  rw [← record_apply_leading List.not_mem_nil recordRead]
  exact required

/-- The parameters of every event start with the document that it is about. -/
theorem subject?_eq_some {json document : Json} {names : List String} {record : Json.Record}
    {url : Url} (fresh : "textDocument" ∉ names)
    (paramsRead : json.record? ("textDocument" :: names) = some record)
    (documentRead : record "textDocument" = some document)
    (named : (leadingField? "uri" document).bind url? = some url) : subject? json = some url := by
  rw [record_apply_leading fresh paramsRead] at documentRead
  rw [subject?, documentRead]
  exact named

theorem subject?_of_opened? {json : Json} {event : DocumentEvent}
    (read : opened? json = some event) : subject? json = some event.url := by
  simp only [opened?, Option.bind_eq_bind, Option.bind_eq_some_iff, Json.Record.required?] at read
  rcases read with
    ⟨record, paramsRead, document, documentRead, fields, fieldsRead, url, ⟨uri, uriRead, urlRead⟩,
      languageId, -, version, -, text, -, built⟩
  cases built
  apply subject?_eq_some List.not_mem_nil paramsRead documentRead
  rw [← record_apply_leading (by decide) fieldsRead, uriRead]
  exact urlRead

theorem subject?_of_changed? {json : Json} {event : DocumentEvent}
    (read : changed? json = some event) : subject? json = some event.url := by
  simp only [changed?, Option.bind_eq_bind, Option.bind_eq_some_iff, Json.Record.required?] at read
  rcases read with
    ⟨record, paramsRead, url,
      ⟨document, documentRead, fields, fieldsRead, version, -, uri, uriRead, urlRead⟩,
      texts, -, built⟩
  cases built
  apply subject?_eq_some (by decide) paramsRead documentRead
  rw [← record_apply_leading (by decide) fieldsRead, uriRead]
  exact urlRead

theorem subject?_of_saved? {json : Json} {event : DocumentEvent}
    (read : saved? json = some event) : subject? json = some event.url := by
  simp only [saved?, Option.bind_eq_bind, Option.bind_eq_some_iff, Json.Record.required?] at read
  rcases read with ⟨record, paramsRead, url, ⟨document, documentRead, urlRead⟩, text, -, built⟩
  cases built
  exact subject?_eq_some (by decide) paramsRead documentRead (leadingField?_of_documentUrl? urlRead)

theorem subject?_of_closed? {json : Json} {event : DocumentEvent}
    (read : closed? json = some event) : subject? json = some event.url := by
  simp only [closed?, Option.bind_eq_bind, Option.bind_eq_some_iff, Json.Record.required?] at read
  rcases read with ⟨record, paramsRead, url, ⟨document, documentRead, urlRead⟩, built⟩
  cases built
  exact subject?_eq_some (by decide) paramsRead documentRead (leadingField?_of_documentUrl? urlRead)

end Protocol

/-! ## The event that a call tells -/

namespace Method

/-- A method reads events only about the document that the parameters name. -/
def NamesSubject : Method → Prop
  | note decode => ∀ json event, decode json = some (.document event) →
      subject? json = some event.url
  | _ => True

theorem namesSubject_documentNote {decode : Json → Option DocumentEvent}
    (names : ∀ json event, decode json = some event → subject? json = some event.url) :
    (documentNote decode).NamesSubject := by
  intro json event read
  rcases Option.map_eq_some_iff.mp read with ⟨other, otherRead, equal⟩
  cases equal
  exact names json event otherRead

theorem namesSubject_of_mem_supported :
    ∀ entry ∈ supported, entry.2.NamesSubject := by
  simp only [supported, List.forall_mem_cons]
  refine ⟨trivial, trivial, trivial, trivial, ?_,
    namesSubject_documentNote fun _ _ => subject?_of_opened?,
    namesSubject_documentNote fun _ _ => subject?_of_changed?,
    namesSubject_documentNote fun _ _ => subject?_of_saved?,
    namesSubject_documentNote fun _ _ => subject?_of_closed?,
    trivial, trivial, trivial, trivial, fun _ membership => nomatch membership⟩
  intro json event read
  rcases Option.map_eq_some_iff.mp read with ⟨_, -, equal⟩
  cases equal

theorem namesSubject_of_ofName? {name : String} {method : Method}
    (found : ofName? name = some method) : method.NamesSubject := by
  rcases Option.or_eq_some_iff.mp found with known | ⟨-, other⟩
  · rcases List.lookup_eq_some_iff.mp known with ⟨front, back, split, -⟩
    exact namesSubject_of_mem_supported (name, method) (by rw [split]; simp)
  · rcases Option.or_eq_some_iff.mp other with request | ⟨-, notification⟩
    · rcases Option.map_eq_some_iff.mp request with ⟨shape, -, rfl⟩
      trivial
    · split at notification
      · cases notification
        intro json event read
        cases read
      · cases notification

end Method

namespace Protocol.Call

/-- The event about a document that a call tells, if it does. -/
def event? (call : Call) : Option DocumentEvent :=
  match Method.ofName? call.method with
  | some (.note decode) =>
      match call.params.bind decode with
      | some (.document event) => some event
      | _ => none
  | _ => none

theorem url?_of_event? {call : Call} {event : DocumentEvent} (told : call.event? = some event) :
    call.url? = some event.url := by
  unfold event? at told
  split at told
  next decode found =>
    split at told
    next other read =>
      cases told
      rcases Option.bind_eq_some_iff.mp read with ⟨params, paramsEq, decoded⟩
      rw [url?, paramsEq]
      exact Method.namesSubject_of_ofName? found params event decoded
    next => cases told
  next => cases told

end Protocol.Call

/-! ## What comes of a call -/

namespace Protocol.Notification

/-- The publication that a notification carries, if it does. -/
def publication? : Notification → Option Publication
  | published publication => some publication
  | logged _ => none

end Protocol.Notification

/-- The publications among notifications, in the order sent. -/
def publications (sent : List Notification) : List Publication :=
  sent.filterMap Notification.publication?

@[simp] theorem publications_append (front back : List Notification) :
    publications (front ++ back) = publications front ++ publications back :=
  List.filterMap_append

namespace Reaction

/-- All documents are left alone, and nothing is published. -/
structure Idle (reaction : Reaction) (session : Session) : Prop where
  workspace : reaction.session.workspace = session.workspace
  publications : publications reaction.sent = []

end Reaction

namespace Session

theorem idle_replying (session : Session) (call : Call) (outcome : Except Fault Answer) :
    (session.replying call outcome).Idle session :=
  ⟨rfl, rfl⟩

theorem idle_introduce (session : Session) (call : Call) :
    (session.introduce call).Idle session := by
  unfold introduce
  split
  · split
    · exact ⟨rfl, rfl⟩
    · split
      · exact ⟨rfl, rfl⟩
      · exact idle_replying ..
  · exact idle_replying ..

theorem idle_halt (session : Session) (call : Call) : (session.halt call).Idle session := by
  unfold halt
  split
  · exact ⟨rfl, rfl⟩
  · exact idle_replying ..

theorem idle_answerQuestion (catalog : Catalog) (session : Session) (call : Call)
    (decode : Json → Option Question) :
    (session.answerQuestion catalog call decode).Idle session := by
  unfold answerQuestion
  split
  · split
    · exact idle_replying ..
    · exact idle_replying ..
  · exact idle_replying ..

theorem idle_turnDown (session : Session) (call : Call) (fits : Json → Bool) :
    (session.turnDown call fits).Idle session := by
  unfold turnDown
  split
  · exact idle_replying ..
  · exact idle_replying ..

theorem idle_turnDownUnknown (session : Session) (call : Call) :
    (session.turnDownUnknown call).Idle session := by
  unfold turnDownUnknown
  split
  · exact ⟨rfl, rfl⟩
  · exact idle_replying ..

/-- A note is followed as an event, or nothing happens to the documents. -/
theorem takeNote_cases (catalog : Catalog) (session : Session) (call : Call)
    (decode : Json → Option Note) :
    (∃ event, call.params.bind decode = some (.document event) ∧
        session.takeNote catalog call decode = session.follow catalog (.document event)) ∨
      (session.takeNote catalog call decode).Idle session := by
  unfold takeNote
  split
  · split
    · exact .inr (idle_replying ..)
    · rw [decode?]
      cases call.params.bind decode with
      | none => exact .inr ⟨rfl, rfl⟩
      | some note =>
          cases note with
          | ready => exact .inr ⟨rfl, rfl⟩
          | document event => exact .inl ⟨event, rfl, rfl⟩
          | ignored => exact .inr ⟨rfl, rfl⟩
  · exact .inr (idle_replying ..)

/-- A call is followed as the event that it tells, or nothing happens to the documents. -/
theorem handle_cases {catalog : Catalog} {session : Session} {call : Call} {reaction : Reaction}
    (handled : session.handle catalog call = some reaction) :
    (∃ event, call.event? = some event ∧
        reaction = session.follow catalog (.document event)) ∨
      reaction.Idle session := by
  unfold handle at handled
  split at handled
  · cases handled
  · simp only [Option.some.injEq] at handled
    subst handled
    cases found : Method.ofName? call.method with
    | none => exact .inr (idle_turnDownUnknown session call)
    | some method =>
        cases method with
        | start => exact .inr (idle_introduce session call)
        | stop => exact .inr (idle_halt session call)
        | leave => exact .inr ⟨rfl, rfl⟩
        | withdraw => exact .inr (idle_replying ..)
        | question decode => exact .inr (idle_answerQuestion catalog session call decode)
        | unsupported fits => exact .inr (idle_turnDown session call fits)
        | note decode =>
            rcases takeNote_cases catalog session call decode with ⟨event, read, followed⟩ | idle
            · exact .inl ⟨event, by simp only [Call.event?, found, read], followed⟩
            · exact .inr idle

end Session

end AlloyAssist
