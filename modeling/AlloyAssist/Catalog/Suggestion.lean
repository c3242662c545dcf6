import AlloyAssist.Catalog.Basic

/-!
# Suggestions

Every entry of the catalog is offered for completion, components first. Choosing one
inserts a snippet with places to fill in, numbered in the order of editing.
-/

namespace AlloyAssist

/-- What a suggested name stands for. -/
inductive SuggestionKind where
  | component
  | property
  deriving DecidableEq, Repr

/-- A name offered for completion. -/
structure Suggestion where
  kind : SuggestionKind
  name : String
  description : Option String
  deriving DecidableEq, Repr

namespace Suggestion

/-- The note shown beside the name. -/
def detail (suggestion : Suggestion) : String :=
  match suggestion.kind with
  | .component => "Grafana Alloy Component"
  | .property => "Component Attribute"

/-- What is inserted: a component comes with a label and an open block, an attribute
with its equals sign. -/
def snippet (suggestion : Suggestion) : String :=
  match suggestion.kind with
  | .component => suggestion.name ++ " \"$\x7b1:label\x7d\" \x7b\n  $\x7b2\x7d\n\x7d"
  | .property => suggestion.name ++ " = $\x7b1\x7d"

end Suggestion

namespace Catalog

/-- All suggestions, in catalog order, components first. -/
def suggestions (catalog : Catalog) : List Suggestion :=
  catalog.components.map (fun entry => ⟨.component, entry.name, entry.description⟩) ++
    catalog.attributes.map (fun entry => ⟨.property, entry.name, entry.description⟩)

end Catalog

end AlloyAssist
