/-!
# The component catalog

The catalog lists the component types and attribute names that the editor knows,
in the order in which they are offered. It starts from built-in entries and may
be extended; an extension never removes or reorders an entry, and a name is
listed once.
-/

namespace AlloyAssist

/-- A component type or an attribute name, with a text for readers if there is
one. -/
structure Entry where
  name : String
  description : Option String
  deriving DecidableEq, Repr

namespace Entry

/-- Add an entry to a list. A name that is already listed keeps its place and
only takes over a description that the addition brings. -/
def addTo (addition : Entry) : List Entry → List Entry
  | [] => [addition]
  | entry :: entries =>
      if entry.name = addition.name then
        { entry with description := addition.description.or entry.description } :: entries
      else entry :: addition.addTo entries

/-- Add entries one after the other. -/
def addAll (entries additions : List Entry) : List Entry :=
  additions.foldl (fun entries addition => addition.addTo entries) entries

end Entry

/-- The known component types and attribute names, in the order offered. -/
structure Catalog where
  components : List Entry
  attributes : List Entry
  deriving DecidableEq, Repr

/-- What a catalog file contributes, in file order and as written: a name may
occur more than once. -/
structure Extension where
  components : List Entry
  attributes : List Entry
  deriving DecidableEq, Repr

namespace Catalog

/-- The entries that are known without any catalog file. -/
def builtin : Catalog where
  components :=
    [⟨"prometheus.scrape", some "Scrapes Prometheus metrics from targets."⟩,
      ⟨"prometheus.remote_write", some "Sends Prometheus metrics to a remote endpoint."⟩,
      ⟨"prometheus.exporter.unix", none⟩,
      ⟨"loki.source.file", none⟩,
      ⟨"loki.write", some "Sends logs to a Loki endpoint."⟩,
      ⟨"otelcol.receiver.otlp", none⟩,
      ⟨"otelcol.exporter.otlp", none⟩,
      ⟨"discovery.kubernetes", some "Discovers targets from Kubernetes API."⟩,
      ⟨"discovery.file", none⟩,
      ⟨"local.file", none⟩]
  attributes :=
    [⟨"forward_to", none⟩, ⟨"targets", none⟩, ⟨"endpoint", none⟩, ⟨"url", none⟩,
      ⟨"role", none⟩, ⟨"scrape_interval", none⟩, ⟨"log_level", none⟩]

/-- Add what a catalog file contributes. -/
def extend (catalog : Catalog) (extension : Extension) : Catalog where
  components := Entry.addAll catalog.components extension.components
  attributes := Entry.addAll catalog.attributes extension.attributes

/-- The entry of a component type. -/
def component? (catalog : Catalog) (typeName : String) : Option Entry :=
  catalog.components.find? fun entry => entry.name = typeName

/-- Whether a component type is listed. -/
def isKnown (catalog : Catalog) (typeName : String) : Bool :=
  (catalog.component? typeName).isSome

/-- Types that start like this are taken as known whatever follows. -/
def localStart : String := "local."

/-- Whether a declaration of this type passes without a warning. -/
def accepts (catalog : Catalog) (typeName : String) : Bool :=
  catalog.isKnown typeName || localStart.toList.isPrefixOf typeName.toList

/-- Shown for listed components that have no description of their own. -/
def fallbackDescription : String := "Component for Grafana Alloy configuration."

/-- What to tell a reader about a listed component. -/
def describe? (catalog : Catalog) (typeName : String) : Option String :=
  (catalog.component? typeName).map fun entry => entry.description.getD fallbackDescription

/-- The card shown when the pointer rests on the name of a listed component. -/
def hoverCard? (catalog : Catalog) (word : String) : Option String :=
  (catalog.describe? word).map fun description =>
    "**" ++ word ++ "**\n\nGrafana Alloy component\n\n" ++ description

end Catalog

end AlloyAssist
