import AlloyAssist.Catalog.Basic
import AlloyAssist.Toml.Reader

/-!
# Catalog files

A catalog file is a TOML text with two arrays of entries, `components` and
`attributes`; anything else in it is ignored. A file counts as a whole or not at
all: one that is missing, cannot be read or is not of this form adds nothing.
-/

namespace AlloyAssist

open Toml

namespace Entry

/-- Read an entry. It is a table with a name and perhaps a description, or an array
that starts with both; what follows them in an array is not looked at. -/
def ofToml? : Value → Option Entry
  | .table _ entries =>
      if areSoundEntries entries then
        match Entries.get? "name" entries, Entries.get? "description" entries with
        | some (.string name), some (.string description) => some ⟨name, some description⟩
        | some (.string name), none => some ⟨name, none⟩
        | _, _ => none
      else none
  | .array (.string name :: .string description :: _) => some ⟨name, some description⟩
  | _ => none

/-- Read the entries listed under a key. A missing key lists none. -/
def listOfToml? : Option Value → Option (List Entry)
  | none => some []
  | some (.array values) => values.mapM ofToml?
  | some (.tables elements) => elements.mapM fun entries => ofToml? (.table .opened entries)
  | some _ => none

end Entry

namespace Extension

/-- The keys that list entries. -/
def listKeys : List String := ["components", "attributes"]

/-- Read what a TOML tree contributes. -/
def ofToml? (root : Entries) : Option Extension := do
  guard (areSoundEntries (root.filter fun (key, _) => !listKeys.contains key))
  let components ← Entry.listOfToml? (Entries.get? "components" root)
  let attributes ← Entry.listOfToml? (Entries.get? "attributes" root)
  return { components, attributes }

/-- Read what the text of a catalog file contributes. -/
def parse? (text : String) : Option Extension :=
  (Toml.parse? text).bind ofToml?

end Extension

/-- What is found under the path of a catalog file. -/
inductive FileContent where
  | missing
  /-- There is something, but not a text. -/
  | unreadable
  | text (content : String)
  deriving DecidableEq, Repr

namespace FileContent

/-- The content of a file given by its bytes, which must be UTF-8. -/
def ofBytes (bytes : ByteArray) : FileContent :=
  match String.fromUTF8? bytes with
  | some content => text content
  | none => unreadable

/-- What a file contributes, if it is there and `read?` makes something of its text. -/
def extension? (read? : String → Option Extension) : FileContent → Option Extension
  | missing => none
  | unreadable => none
  | text content => read? content

end FileContent

namespace Catalog

/-- The built-in catalog extended by files, in order, whose texts `read?` understands. -/
def loadBy (read? : String → Option Extension) (files : List FileContent) : Catalog :=
  (files.filterMap (FileContent.extension? read?)).foldl Catalog.extend builtin

/-- The built-in catalog extended by files of TOML, in order. -/
def load (files : List FileContent) : Catalog :=
  loadBy Extension.parse? files

end Catalog

end AlloyAssist
