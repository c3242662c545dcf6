import AlloyAssist.Proofs.Session.Publishing
import Mathlib.Data.List.DropRight

/-!
# What events leave behind

What is stored under a URL depends on the events about that document alone, and it can be
read off them without following one after the other: only events since the last closing
count, and of these only what comes from the opening on. The last text among them is the
content, and the last language that was told is the language.
-/

namespace AlloyAssist

namespace DocumentEvent

/-- The document is stored from now on, be it opened or changed. -/
def opens : DocumentEvent → Bool
  | opened _ _ _ => true
  | changed _ texts => !texts.isEmpty
  | saved _ _ => false
  | closed _ => false

def closes : DocumentEvent → Bool
  | closed _ => true
  | _ => false

/-- The text that the document has now, if the event tells it. -/
def text? : DocumentEvent → Option String
  | opened _ _ text => some text
  | changed _ texts => texts.getLast?
  | saved _ text => text
  | closed _ => none

def language? : DocumentEvent → Option String
  | opened _ languageId _ => some languageId
  | _ => none

/-- What is stored after an event in place of what was stored before. -/
def revise : DocumentEvent → Option Document → Option Document
  | opened _ languageId text, _ => some ⟨text, languageId⟩
  | changed _ texts, stored =>
      match texts.getLast? with
      | some text => some ⟨text, (stored.map Document.languageId).getD ""⟩
      | none => stored
  | saved _ text, stored =>
      match text with
      | some text => stored.map fun document => { document with content := text }
      | none => stored
  | closed _, _ => none

end DocumentEvent

namespace Workspace

theorem document?_apply (catalog : Catalog) (workspace : Workspace) (event : DocumentEvent) :
    (workspace.apply catalog event).1.document? event.url =
      event.revise (workspace.document? event.url) := by
  cases event with
  | opened url languageId text => exact (document?_put ..).trans (if_pos rfl)
  | changed url texts =>
      simp only [apply, DocumentEvent.revise, DocumentEvent.url]
      cases texts.getLast? with
      | none => rfl
      | some text => exact (document?_setText ..).trans (if_pos rfl)
  | saved url text =>
      cases text with
      | none => rfl
      | some text => exact (document?_updateText ..).trans (if_pos rfl)
  | closed url => exact (document?_remove ..).trans (if_pos rfl)

end Workspace

/-! ## The events of one document -/

namespace History

/-- The events since the document was last closed. -/
def sinceClosed (events : List DocumentEvent) : List DocumentEvent :=
  events.rtakeWhile fun event => !event.closes

/-- The events since the document was last opened after being closed. -/
def sinceOpened (events : List DocumentEvent) : List DocumentEvent :=
  (sinceClosed events).dropWhile fun event => !event.opens

/-- The language that was told last, or none. -/
def languageId (events : List DocumentEvent) : String :=
  ((sinceOpened events).filterMap DocumentEvent.language?).getLast?.getD ""

/-- The document that the events about it leave behind. -/
def document? (events : List DocumentEvent) : Option Document :=
  ((sinceOpened events).filterMap DocumentEvent.text?).getLast?.map fun content =>
    ⟨content, languageId events⟩

theorem sinceOpened_concat_of_closes {event : DocumentEvent} (closes : event.closes = true)
    (events : List DocumentEvent) : sinceOpened (events ++ [event]) = [] := by
  simp [sinceOpened, sinceClosed, closes]

/-- An event that does not close the document counts if it opens it or finds it open. -/
theorem sinceOpened_concat {event : DocumentEvent} (stays : event.closes = false)
    (events : List DocumentEvent) :
    sinceOpened (events ++ [event]) =
      if sinceOpened events = [] ∧ event.opens = false then []
      else sinceOpened events ++ [event] := by
  have sinceClosed_concat : sinceClosed (events ++ [event]) = sinceClosed events ++ [event] := by
    simp [sinceClosed, stays]
  simp only [sinceOpened, sinceClosed_concat, List.dropWhile_append, List.isEmpty_iff]
  by_cases absent : (sinceClosed events).dropWhile (fun event => !event.opens) = []
  · cases opens : event.opens with
    | false => simp [absent, opens]
    | true => simp [absent, opens]
  · simp [absent]

theorem exists_text_of_opens {event : DocumentEvent} (opens : event.opens = true) :
    ∃ text, event.text? = some text := by
  cases event with
  | opened url languageId text => exact ⟨text, rfl⟩
  | changed url texts =>
      cases texts with
      | nil => cases opens
      | cons text texts => exact ⟨_, List.getLast?_cons⟩
  | saved url text => cases opens
  | closed url => cases opens

/-- The event that opens a document tells its text, so from there on there is one. -/
theorem document?_eq_none_iff {events : List DocumentEvent} :
    document? events = none ↔ sinceOpened events = [] := by
  rw [document?, Option.map_eq_none_iff, List.getLast?_eq_none_iff]
  constructor
  · intro textless
    cases opened : sinceOpened events with
    | nil => rfl
    | cons event later =>
        have opens := List.head?_dropWhile_not (fun event => !event.opens) (sinceClosed events)
        rw [show (sinceClosed events).dropWhile _ = event :: later from opened] at opens
        rcases exists_text_of_opens (by simpa using opens) with ⟨text, told⟩
        rw [opened, List.filterMap_cons_some told] at textless
        cases textless
  · intro absent
    rw [absent]
    rfl

theorem languageId_of_appended {events : List DocumentEvent} {event : DocumentEvent}
    (appended : sinceOpened (events ++ [event]) = sinceOpened events ++ [event]) :
    languageId (events ++ [event]) = event.language?.getD (languageId events) := by
  rw [languageId, appended, List.filterMap_append, List.getLast?_append]
  cases told : event.language? with
  | none => simp [told, languageId]
  | some language => simp [told]

theorem document?_concat_of_opens {event : DocumentEvent} {text : String}
    (opens : event.opens = true) (stays : event.closes = false) (told : event.text? = some text)
    (events : List DocumentEvent) :
    document? (events ++ [event]) = some ⟨text, event.language?.getD (languageId events)⟩ := by
  have appended : sinceOpened (events ++ [event]) = sinceOpened events ++ [event] := by
    rw [sinceOpened_concat stays, if_neg (by simp [opens])]
  rw [document?, languageId_of_appended appended, appended, List.filterMap_append,
    List.getLast?_append]
  simp [told]

/-- An event that neither opens nor closes a document is lost if there is none. -/
theorem document?_concat_of_not_opens {event : DocumentEvent} (waits : event.opens = false)
    (stays : event.closes = false) (mute : event.language? = none) (events : List DocumentEvent) :
    document? (events ++ [event]) = (document? events).map fun document =>
      { document with content := event.text?.getD document.content } := by
  cases stored : document? events with
  | none =>
      have absent := document?_eq_none_iff.mp stored
      rw [Option.map_none, document?_eq_none_iff, sinceOpened_concat stays, if_pos ⟨absent, waits⟩]
  | some document =>
      have present : sinceOpened events ≠ [] := by
        rw [Ne, ← document?_eq_none_iff, stored]
        exact Option.some_ne_none document
      have appended : sinceOpened (events ++ [event]) = sinceOpened events ++ [event] := by
        rw [sinceOpened_concat stays, if_neg (by simp [present])]
      rcases Option.map_eq_some_iff.mp stored with ⟨content, last, rfl⟩
      rw [document?, languageId_of_appended appended, appended, List.filterMap_append,
        List.getLast?_append, last, mute]
      cases told : event.text? with
      | none => simp [told]
      | some text => simp [told]

theorem languageId_document? (events : List DocumentEvent) :
    ((document? events).map Document.languageId).getD "" = languageId events := by
  cases stored : document? events with
  | none =>
      rw [languageId, document?_eq_none_iff.mp stored]
      rfl
  | some document =>
      rcases Option.map_eq_some_iff.mp stored with ⟨content, -, rfl⟩
      rfl

/-- Following one more event gives what all of them leave behind. -/
theorem document?_concat (events : List DocumentEvent) (event : DocumentEvent) :
    document? (events ++ [event]) = event.revise (document? events) := by
  cases event with
  | closed url =>
      rw [document?, sinceOpened_concat_of_closes rfl]
      rfl
  | opened url language text =>
      rw [document?_concat_of_opens rfl rfl rfl]
      rfl
  | changed url texts =>
      cases last : texts.getLast? with
      | none =>
          rw [List.getLast?_eq_none_iff] at last
          subst last
          rw [document?_concat_of_not_opens rfl rfl rfl]
          exact Option.map_id_apply
      | some text =>
          have opens : (DocumentEvent.changed url texts).opens = true := by
            cases texts with
            | nil => cases last
            | cons first texts => rfl
          rw [document?_concat_of_opens opens rfl last, DocumentEvent.revise, last,
            languageId_document?]
          rfl
  | saved url text =>
      rw [document?_concat_of_not_opens rfl rfl rfl]
      cases text with
      | none => exact Option.map_id_apply
      | some text => rfl

end History

end AlloyAssist
