import AlloyAssist.Catalog.File
import AlloyAssist.CommandLine.Paths
import Mathlib.Data.List.Basic

/-!
# What a loaded catalog lists

A catalog is put together entry by entry: each addition looks for its name in the list and
either changes a description in place or goes to the end. The result can be told from all
entries at once, built-in ones and those of the files in their order: every name is listed
where it occurs first, with the last description that any of its entries brings.

Names and descriptions are followed separately. `Entry.addTo` has one equation for each,
and `Entry.SumsUp` carries both through any number of additions.
-/

namespace AlloyAssist

namespace Entry

/-- The description that a list holds for a name. -/
def listedDescription? (name : String) (listed : List Entry) : Option String :=
  (listed.find? fun entry => entry.name = name).bind Entry.description

/-- The last description that any entry brings for a name. -/
def lastDescription? (name : String) (entries : List Entry) : Option String :=
  ((entries.filter fun entry => entry.name = name).filterMap Entry.description).getLast?

theorem lastDescription?_append (name : String) (front back : List Entry) :
    lastDescription? name (front ++ back) =
      (lastDescription? name back).or (lastDescription? name front) := by
  simp only [lastDescription?, List.filter_append, List.filterMap_append, List.getLast?_append]

theorem lastDescription?_singleton (name : String) (entry : Entry) :
    lastDescription? name [entry] = if entry.name = name then entry.description else none := by
  unfold lastDescription?
  by_cases own : entry.name = name
  · cases described : entry.description with
    | none => simp [own, described]
    | some description => simp [own, described]
  · simp [own]

/-! ## One addition -/

theorem map_name_addTo (addition : Entry) (listed : List Entry) :
    (addition.addTo listed).map Entry.name =
      if addition.name ∈ listed.map Entry.name then listed.map Entry.name
      else listed.map Entry.name ++ [addition.name] := by
  induction listed with
  | nil => rfl
  | cons entry listed ih =>
      by_cases own : entry.name = addition.name
      · simp [addTo, own]
      · have other : addition.name ≠ entry.name := Ne.symm own
        simp only [addTo, if_neg own, List.map_cons, ih, List.mem_cons, other, false_or]
        split
        · rfl
        · rfl

theorem listedDescription?_addTo (name : String) (addition : Entry) (listed : List Entry) :
    listedDescription? name (addition.addTo listed) =
      if addition.name = name then addition.description.or (listedDescription? name listed)
      else listedDescription? name listed := by
  unfold listedDescription?
  induction listed with
  | nil =>
      by_cases named : addition.name = name
      · simp [addTo, named]
      · simp [addTo, named]
  | cons entry listed ih =>
      by_cases own : entry.name = addition.name
      · by_cases named : addition.name = name
        · simp [addTo, own, named]
        · simp [addTo, own, named]
      · simp only [addTo, if_neg own]
        by_cases first : entry.name = name
        · have notNamed : addition.name ≠ name := by
            intro named
            exact own (first.trans named.symm)
          simp [first, notNamed]
        · rw [List.find?_cons_of_neg (by simpa using first), ih,
            List.find?_cons_of_neg (by simpa using first)]

/-! ## Any number of additions -/

theorem map_name_subset_addAll (listed additions : List Entry) :
    listed.map Entry.name ⊆ (addAll listed additions).map Entry.name := by
  induction additions generalizing listed with
  | nil => exact List.Subset.refl _
  | cons addition additions ih =>
      have step : listed.map Entry.name ⊆ (addition.addTo listed).map Entry.name := by
        rw [map_name_addTo]
        split
        · exact List.Subset.refl _
        · exact List.subset_append_left _ _
      exact List.Subset.trans step (ih (addition.addTo listed))

/-- A list holds every name of some entries once, in the order in which they first occur,
with the last description that is brought for it. -/
structure SumsUp (listed entries : List Entry) : Prop where
  names : listed.map Entry.name = (entries.map Entry.name).eraseDups
  descriptions : ∀ name, listedDescription? name listed = lastDescription? name entries

theorem eraseDups_concat (names : List String) (name : String) :
    (names ++ [name]).eraseDups =
      if name ∈ names then names.eraseDups else names.eraseDups ++ [name] := by
  rw [List.eraseDups_append]
  by_cases known : name ∈ names
  · simp [List.removeAll, known]
  · simp [List.removeAll, known, List.eraseDups_cons]

theorem SumsUp.addTo {listed entries : List Entry} (sums : SumsUp listed entries)
    (addition : Entry) : SumsUp (addition.addTo listed) (entries ++ [addition]) := by
  constructor
  · rw [map_name_addTo, sums.names, List.map_append, List.map_singleton, eraseDups_concat]
    simp only [List.mem_eraseDups]
  · intro name
    rw [listedDescription?_addTo, sums.descriptions name, lastDescription?_append,
      lastDescription?_singleton]
    by_cases own : addition.name = name
    · rw [if_pos own, if_pos own]
    · rw [if_neg own, if_neg own, Option.none_or]

theorem SumsUp.addAll {listed entries : List Entry} (sums : SumsUp listed entries)
    (additions : List Entry) : SumsUp (addAll listed additions) (entries ++ additions) := by
  induction additions generalizing listed entries with
  | nil =>
      rw [List.append_nil]
      exact sums
  | cons addition additions ih =>
      have step := ih (sums.addTo addition)
      rw [List.append_assoc] at step
      exact step

theorem sumsUp_nil : SumsUp [] [] :=
  ⟨rfl, fun _ => rfl⟩

theorem SumsUp.prefix_names {listed base more : List Entry}
    (whole : SumsUp listed (base ++ more)) (own : SumsUp base base) :
    base.map Entry.name <+: listed.map Entry.name := by
  rw [whole.names, List.map_append, List.eraseDups_append, ← own.names]
  exact List.prefix_append _ _

/-- Of three batches of entries the last one decides on a description, if it has one. -/
theorem SumsUp.description_of_three {listed first second third : List Entry}
    (whole : SumsUp listed (first ++ (second ++ third))) (name : String) :
    listedDescription? name listed =
      (lastDescription? name third).or
        ((lastDescription? name second).or (lastDescription? name first)) := by
  rw [whole.descriptions, lastDescription?_append, lastDescription?_append, Option.or_assoc]

end Entry

namespace FileContent

/-- The entries of one of the two lists that a file contributes; a file that cannot be used
has none. -/
def contributed (read? : String → Option Extension) (part : Extension → List Entry)
    (file : FileContent) : List Entry :=
  ((file.extension? read?).map part).getD []

end FileContent

namespace Catalog

/-- The built-in names are all different, so adding the entries to nothing gives them back. -/
theorem sumsUp_builtin :
    Entry.SumsUp builtin.components builtin.components ∧
      Entry.SumsUp builtin.attributes builtin.attributes := by
  have components : Entry.addAll [] builtin.components = builtin.components := rfl
  have attributes : Entry.addAll [] builtin.attributes = builtin.attributes := rfl
  constructor
  · rw [← components]
    exact Entry.sumsUp_nil.addAll builtin.components
  · rw [← attributes]
    exact Entry.sumsUp_nil.addAll builtin.attributes

-- Nothing is assumed of the reader of the files: whatever it makes of a text is what counts.
variable (read? : String → Option Extension)

theorem foldl_extend (catalog : Catalog) (files : List FileContent) :
    (files.filterMap (FileContent.extension? read?)).foldl extend catalog =
      ⟨Entry.addAll catalog.components
          (files.flatMap (FileContent.contributed read? Extension.components)),
        Entry.addAll catalog.attributes
          (files.flatMap (FileContent.contributed read? Extension.attributes))⟩ := by
  induction files generalizing catalog with
  | nil => rfl
  | cons file files ih =>
      cases read : file.extension? read? with
      | none =>
          rw [List.filterMap_cons_none read, ih]
          simp only [List.flatMap_cons, FileContent.contributed, read, Option.map_none,
            Option.getD_none, List.nil_append]
      | some extension =>
          rw [List.filterMap_cons_some read, List.foldl_cons, ih]
          simp only [List.flatMap_cons, FileContent.contributed, read, Option.map_some,
            Option.getD_some, extend, Entry.addAll, List.foldl_append]

theorem sumsUp_loadBy (files : List FileContent) :
    Entry.SumsUp (loadBy read? files).components
        (builtin.components ++
          files.flatMap (FileContent.contributed read? Extension.components)) ∧
      Entry.SumsUp (loadBy read? files).attributes
        (builtin.attributes ++
          files.flatMap (FileContent.contributed read? Extension.attributes)) := by
  rw [loadBy, foldl_extend]
  rcases sumsUp_builtin with ⟨components, attributes⟩
  exact ⟨components.addAll _, attributes.addAll _⟩

/-- A file that cannot be used might as well not be there. -/
theorem loadBy_of_extension?_eq_none {file : FileContent} (unused : file.extension? read? = none)
    (front back : List FileContent) :
    loadBy read? (front ++ file :: back) = loadBy read? (front ++ back) := by
  simp only [loadBy, List.filterMap_append, List.filterMap_cons_none unused]

/-- A loaded catalog sums up the built-in entries and, behind them, those of the files in
their order. In particular a file that cannot be used makes no difference, the built-in
names come first, and a file named on the command line decides over the user's own, if there
is one. -/
theorem load_sums_up_entries (files : List FileContent) :
    (Entry.SumsUp (loadBy read? files).components
        (builtin.components ++
          files.flatMap (FileContent.contributed read? Extension.components)) ∧
      Entry.SumsUp (loadBy read? files).attributes
        (builtin.attributes ++
          files.flatMap (FileContent.contributed read? Extension.attributes))) ∧
    (∀ front file back, files = front ++ file :: back → file.extension? read? = none →
      loadBy read? files = loadBy read? (front ++ back)) ∧
    (builtin.components.map Entry.name <+: (loadBy read? files).components.map Entry.name ∧
      builtin.attributes.map Entry.name <+: (loadBy read? files).attributes.map Entry.name) ∧
    ∀ (options : CommandLine.Options) (environment : CommandLine.Environment)
        (explicit : String) (contentAt : String → FileContent),
      options.catalog = some explicit →
      files = (options.catalogPaths environment).map contentAt →
      let user := environment.userCatalog?.toList.map contentAt
      (∀ name, Entry.listedDescription? name (loadBy read? files).components =
        (Entry.lastDescription? name
            ((contentAt explicit).contributed read? Extension.components)).or
          ((Entry.lastDescription? name
              (user.flatMap (FileContent.contributed read? Extension.components))).or
            (Entry.lastDescription? name builtin.components))) ∧
      ∀ name, Entry.listedDescription? name (loadBy read? files).attributes =
        (Entry.lastDescription? name
            ((contentAt explicit).contributed read? Extension.attributes)).or
          ((Entry.lastDescription? name
              (user.flatMap (FileContent.contributed read? Extension.attributes))).or
            (Entry.lastDescription? name builtin.attributes)) := by
  rcases sumsUp_loadBy read? files with ⟨components, attributes⟩
  rcases sumsUp_builtin with ⟨ownComponents, ownAttributes⟩
  refine ⟨⟨components, attributes⟩, ?_, ⟨components.prefix_names ownComponents,
    attributes.prefix_names ownAttributes⟩, ?_⟩
  · intro front file back split unused
    rw [split, loadBy_of_extension?_eq_none read? unused]
  · intro options environment explicit contentAt named read user
    have order : files = user ++ [contentAt explicit] := by
      rw [read, CommandLine.Options.catalogPaths, named, List.map_append]
      rfl
    rw [order] at components attributes ⊢
    rw [List.flatMap_append, List.flatMap_singleton] at components attributes
    exact ⟨components.description_of_three, attributes.description_of_three⟩

/-- Two files describe a built-in component anew, and the one named on the command line decides.
What only the user's own file describes is kept, and a file that cannot be read changes nothing. -/
theorem load_sums_up_redescribed :
    let own := "[[components]]\nname = \"loki.write\"\ndescription = \"Mine.\"\n" ++
      "[[components]]\nname = \"my.own\"\ndescription = \"Kept.\"\n"
    let extra := "[[components]]\nname = \"loki.write\"\ndescription = \"Ships logs.\"\n"
    let files := [.text own, .text extra]
    load (.unreadable :: files) = load files ∧
      Entry.listedDescription? "loki.write" (load files).components = some "Ships logs." ∧
      Entry.listedDescription? "my.own" (load files).components = some "Kept." := by
  intro own extra files
  let contentAt (path : String) : FileContent :=
    if path = "extra.toml" then .text extra else .text own
  have decided := ((load_sums_up_entries Extension.parse? files).2.2.2
    ⟨some "extra.toml", "info"⟩ ⟨some "/home/user", none⟩ "extra.toml" contentAt rfl rfl).1
  refine ⟨?_, (decided "loki.write").trans (by decide +kernel),
    (decided "my.own").trans (by decide +kernel)⟩
  exact (load_sums_up_entries Extension.parse? (.unreadable :: files)).2.1 [] .unreadable files
    rfl rfl

end Catalog

end AlloyAssist
