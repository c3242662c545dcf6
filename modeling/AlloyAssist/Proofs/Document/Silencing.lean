import AlloyAssist.Proofs.Catalog.Summary
import AlloyAssist.Proofs.Document.Stateless

/-!
# What a catalog silences

While a document is checked, the catalog is asked one thing only: whether the type of a
declaration is listed. The answer decides on one warning and on nothing else; in particular it
does not touch the labels that are carried along. So the issues under any catalog are those
under a catalog that lists nothing, less the warnings about types that are listed. How two
catalogs compare follows from there, without going through the lines again.
-/

namespace AlloyAssist

open Text

/-- The issue warns of a component type that is not listed. -/
def Issue.WarnsOf (issue : Issue) (typeName : String) : Prop :=
  issue.severity = .warning ∧
    issue.message = "Unknown component type: " ++ typeName ++
      ". This may be valid but is not in the common components list."

instance (issue : Issue) (typeName : String) : Decidable (issue.WarnsOf typeName) :=
  inferInstanceAs (Decidable (issue.severity = .warning ∧ issue.message = _))

namespace Catalog

/-- The component types that a catalog lists. -/
def typeNames (catalog : Catalog) : List String :=
  catalog.components.map Entry.name

/-- The issue warns of a type that the catalog lists. -/
def Silences (catalog : Catalog) (issue : Issue) : Prop :=
  ∃ typeName ∈ catalog.typeNames, issue.WarnsOf typeName

instance (catalog : Catalog) (issue : Issue) : Decidable (catalog.Silences issue) :=
  inferInstanceAs (Decidable (∃ typeName ∈ catalog.typeNames, issue.WarnsOf typeName))

/-- What is left of some issues when the catalog has silenced its warnings. -/
def unsilenced (catalog : Catalog) (issues : List Issue) : List Issue :=
  issues.filter fun issue => ¬catalog.Silences issue

/-- A catalog that lists nothing. -/
def bare : Catalog := ⟨[], []⟩

theorem accepts_iff_mem_typeNames {catalog : Catalog} {typeName : String} :
    catalog.accepts typeName = true ↔
      typeName ∈ catalog.typeNames ∨ "local.".toList <+: typeName.toList := by
  rw [accepts_eq_true_iff, typeNames, List.mem_map]

theorem Silences.mono {smaller larger : Catalog} (subset : smaller.typeNames ⊆ larger.typeNames)
    {issue : Issue} (silenced : smaller.Silences issue) : larger.Silences issue := by
  rcases silenced with ⟨typeName, listed, warns⟩
  exact ⟨typeName, subset listed, warns⟩

theorem not_silences_of_error (catalog : Catalog) {issue : Issue}
    (error : issue.severity = .error) : ¬catalog.Silences issue := by
  rintro ⟨typeName, -, warning, -⟩
  rw [error] at warning
  cases warning

@[simp] theorem unsilenced_append (catalog : Catalog) (front back : List Issue) :
    catalog.unsilenced (front ++ back) = catalog.unsilenced front ++ catalog.unsilenced back :=
  List.filter_append front back

theorem unsilenced_singleton {catalog : Catalog} {issue : Issue}
    (heard : ¬catalog.Silences issue) : catalog.unsilenced [issue] = [issue] :=
  List.filter_cons_of_pos (decide_eq_true heard)

/-- A catalog that lists more leaves nothing to silence to one that lists less. -/
theorem unsilenced_unsilenced {smaller larger : Catalog}
    (subset : smaller.typeNames ⊆ larger.typeNames) (issues : List Issue) :
    larger.unsilenced (smaller.unsilenced issues) = larger.unsilenced issues := by
  rw [unsilenced, unsilenced, unsilenced, List.filter_filter]
  apply List.filter_congr
  intro issue membership
  by_cases silenced : smaller.Silences issue
  · simp [silenced, silenced.mono subset]
  · simp [silenced]

theorem filter_error_unsilenced (catalog : Catalog) (issues : List Issue) :
    (catalog.unsilenced issues).filter (fun issue => issue.severity = .error) =
      issues.filter fun issue => issue.severity = .error := by
  rw [unsilenced, List.filter_filter]
  apply List.filter_congr
  intro issue membership
  by_cases error : issue.severity = .error
  · simp [error, catalog.not_silences_of_error error]
  · simp [error]

theorem typeNames_subset_extend (catalog : Catalog) (extension : Extension) :
    catalog.typeNames ⊆ (catalog.extend extension).typeNames :=
  Entry.map_name_subset_addAll catalog.components extension.components

end Catalog

/-! ## Problems -/

namespace Problem

/-- Only an unknown type is not an error. -/
theorem exists_eq_unknownType {problem : Problem} (warning : problem.severity = .warning) :
    ∃ typeName, problem = .unknownType typeName := by
  cases problem with
  | unknownType typeName => exact ⟨typeName, rfl⟩
  | _ => cases warning

/-- The wording tells which type is meant. -/
theorem warnsOf_toIssue_iff {problem : Problem} {index : Nat} {typeName : String} :
    (problem.toIssue index).WarnsOf typeName ↔ problem = .unknownType typeName := by
  constructor
  · rintro ⟨warning, worded⟩
    rcases exists_eq_unknownType warning with ⟨other, rfl⟩
    have same : "Unknown component type: " ++ other ++
        ". This may be valid but is not in the common components list." =
      "Unknown component type: " ++ typeName ++
        ". This may be valid but is not in the common components list." := worded
    rw [String.append_left_inj, String.append_right_inj] at same
    rw [same]
  · rintro rfl
    exact ⟨rfl, rfl⟩

theorem silences_unknownType_iff {catalog : Catalog} {index : Nat} {typeName : String} :
    catalog.Silences ((unknownType typeName).toIssue index) ↔ typeName ∈ catalog.typeNames := by
  constructor
  · rintro ⟨other, listed, warns⟩
    rcases warnsOf_toIssue_iff.mp warns with ⟨⟩
    exact listed
  · intro listed
    exact ⟨typeName, listed, warnsOf_toIssue_iff.mpr rfl⟩

theorem unsilenced_of_listed {catalog : Catalog} {typeName : String}
    (listed : typeName ∈ catalog.typeNames) (index : Nat) :
    catalog.unsilenced [(unknownType typeName).toIssue index] = [] := by
  apply List.filter_cons_of_neg
  simpa using silences_unknownType_iff.mpr listed

theorem unsilenced_of_not_listed {catalog : Catalog} {typeName : String}
    (unlisted : typeName ∉ catalog.typeNames) (index : Nat) :
    catalog.unsilenced [(unknownType typeName).toIssue index] =
      [(unknownType typeName).toIssue index] :=
  Catalog.unsilenced_singleton (mt silences_unknownType_iff.mp unlisted)

theorem unsilenced_error {problem : Problem} (error : problem.severity = .error)
    (catalog : Catalog) (index : Nat) :
    catalog.unsilenced [problem.toIssue index] = [problem.toIssue index] :=
  Catalog.unsilenced_singleton (catalog.not_silences_of_error error)

theorem unsilenced_map_ite {problem : Problem} (error : problem.severity = .error)
    {found : Prop} [Decidable found] (catalog : Catalog) (index : Nat) :
    catalog.unsilenced ((if found then [problem] else []).map (toIssue index)) =
      (if found then [problem] else []).map (toIssue index) := by
  split
  · exact unsilenced_error error catalog index
  · rfl

end Problem

/-! ## Lines -/

namespace Check

/-- A type that is not local is unknown to a catalog that lists nothing, and its warning is
left unless it is listed. -/
theorem unsilenced_unknownType (catalog : Catalog) (index : Nat) (typeName : String) :
    catalog.unsilenced ((if Catalog.bare.accepts typeName then []
        else [Problem.unknownType typeName]).map (Problem.toIssue index)) =
      (if catalog.accepts typeName then []
        else [Problem.unknownType typeName]).map (Problem.toIssue index) := by
  by_cases isLocal : "local.".toList <+: typeName.toList
  · rw [if_pos (Catalog.accepts_iff_mem_typeNames.mpr (.inr isLocal)),
      if_pos (Catalog.accepts_iff_mem_typeNames.mpr (.inr isLocal))]
    rfl
  · have refused : ¬Catalog.bare.accepts typeName = true := by
      rw [Catalog.accepts_iff_mem_typeNames]
      exact not_or.mpr ⟨List.not_mem_nil, isLocal⟩
    rw [if_neg refused, List.map_singleton]
    by_cases listed : typeName ∈ catalog.typeNames
    · rw [Problem.unsilenced_of_listed listed,
        if_pos (Catalog.accepts_iff_mem_typeNames.mpr (.inl listed)), List.map_nil]
    · have refusedToo : ¬catalog.accepts typeName = true := by
        rw [Catalog.accepts_iff_mem_typeNames]
        exact not_or.mpr ⟨listed, isLocal⟩
      rw [Problem.unsilenced_of_not_listed listed, if_neg refusedToo, List.map_singleton]

theorem unsilenced_declarationProblems (catalog : Catalog) (seen : List String) (index : Nat)
    (declaration : Declaration) :
    catalog.unsilenced
        ((declarationProblems .bare seen declaration).map (Problem.toIssue index)) =
      (declarationProblems catalog seen declaration).map (Problem.toIssue index) := by
  simp only [declarationProblems, List.map_append, Catalog.unsilenced_append]
  rw [Problem.unsilenced_map_ite rfl, unsilenced_unknownType, Problem.unsilenced_map_ite rfl]

theorem unsilenced_attributeProblems (catalog : Catalog) (index : Nat) (line : List Char) :
    catalog.unsilenced ((attributeProblems line).map (Problem.toIssue index)) =
      (attributeProblems line).map (Problem.toIssue index) := by
  rw [attributeProblems]
  cases Attribute.read? line with
  | none => rfl
  | some name => exact Problem.unsilenced_map_ite rfl catalog index

theorem unsilenced_lineProblems (catalog : Catalog) (seen : List String) (index : Nat)
    (line : List Char) :
    catalog.unsilenced ((lineProblems .bare seen line).map (Problem.toIssue index)) =
      (lineProblems catalog seen line).map (Problem.toIssue index) := by
  simp only [lineProblems, List.map_append, Catalog.unsilenced_append]
  rw [unsilenced_attributeProblems, quoteProblems, Problem.unsilenced_map_ite rfl]
  congr 2
  cases Declaration.read? line with
  | none => rfl
  | some declaration => exact unsilenced_declarationProblems catalog seen index declaration

theorem unsilenced_balanceProblems (catalog : Catalog) (index : Nat) (balance : Int) :
    catalog.unsilenced ((balanceProblems balance).map (Problem.toIssue index)) =
      (balanceProblems balance).map (Problem.toIssue index) := by
  rw [balanceProblems]
  split
  · exact Problem.unsilenced_error rfl catalog index
  · exact Problem.unsilenced_map_ite rfl catalog index

/-- The labels carried along do not depend on the catalog, so the lines can be gone through
with both at once. -/
theorem unsilenced_lineIssues (catalog : Catalog) (index : Nat) (seen : List String)
    (lines : List (List Char)) :
    catalog.unsilenced (lineIssues .bare index seen lines) =
      lineIssues catalog index seen lines := by
  induction lines generalizing index seen with
  | nil => rfl
  | cons line lines ih =>
      rw [lineIssues, lineIssues]
      cases Line.isCode line with
      | true =>
          rw [if_pos rfl, if_pos rfl, Catalog.unsilenced_append, unsilenced_lineProblems, ih]
      | false =>
          rw [if_neg Bool.false_ne_true, if_neg Bool.false_ne_true, ih]

/-- Every catalog leaves what it does not silence of the issues under the bare one. -/
theorem unsilenced_issues (catalog : Catalog) (lines : List (List Char)) :
    catalog.unsilenced (issues .bare lines) = issues catalog lines := by
  rw [issues, issues, Catalog.unsilenced_append, unsilenced_lineIssues,
    unsilenced_balanceProblems]

end Check

/-! ## Two catalogs -/

namespace Report

/-- The errors among the issues. -/
def errors (report : Report) : List Issue :=
  report.issues.filter fun issue => issue.severity = .error

theorem isValid_eq_isEmpty_errors (report : Report) :
    report.isValid = report.errors.isEmpty := by
  rw [Bool.eq_iff_iff, isValid, List.all_eq_true, List.isEmpty_iff, errors, List.filter_eq_nil_iff]
  simp

theorem issues_ofText_of_subset {smaller larger : Catalog}
    (subset : smaller.typeNames ⊆ larger.typeNames) (text : String) :
    (ofText larger text).issues = larger.unsilenced (ofText smaller text).issues := by
  change Check.issues larger _ = larger.unsilenced (Check.issues smaller _)
  rw [← Check.unsilenced_issues smaller, Catalog.unsilenced_unsilenced subset,
    Check.unsilenced_issues]

theorem errors_ofText (left right : Catalog) (text : String) :
    (ofText left text).errors = (ofText right text).errors := by
  change (Check.issues left _).filter _ = (Check.issues right _).filter _
  rw [← Check.unsilenced_issues left, ← Check.unsilenced_issues right,
    Catalog.filter_error_unsilenced, Catalog.filter_error_unsilenced]

/-- A catalog that lists more types, as an extended one does, silences the warnings about the
types that it lists and changes nothing else. No catalog makes a difference to the errors, nor
to whether a document is valid. -/
theorem larger_catalog_silences_warnings (text : String) :
    (∀ smaller larger : Catalog, smaller.typeNames ⊆ larger.typeNames →
      (ofText larger text).issues =
        (ofText smaller text).issues.filter fun issue => ¬larger.Silences issue) ∧
    (∀ (catalog : Catalog) (extension : Extension),
      (ofText (catalog.extend extension) text).issues =
        (ofText catalog text).issues.filter fun issue =>
          ¬(catalog.extend extension).Silences issue) ∧
    ∀ left right : Catalog,
      (ofText left text).issues.filter (fun issue => issue.severity = .error) =
        (ofText right text).issues.filter (fun issue => issue.severity = .error) ∧
      (ofText left text).isValid = (ofText right text).isValid := by
  refine ⟨?_, ?_, ?_⟩
  · intro smaller larger subset
    exact issues_ofText_of_subset subset text
  · intro catalog extension
    exact issues_ofText_of_subset (catalog.typeNames_subset_extend extension) text
  · intro left right
    have same := errors_ofText left right text
    refine ⟨same, ?_⟩
    rw [isValid_eq_isEmpty_errors, isValid_eq_isEmpty_errors, same]

/-- Of a listed type with an empty label the error is left, and of a type that is still not
listed the warning. -/
theorem larger_catalog_silences_listed :
    let smaller : Catalog := ⟨[⟨"a", none⟩], []⟩
    let larger : Catalog := ⟨[⟨"b", none⟩, ⟨"a", none⟩], []⟩
    let extended := smaller.extend ⟨[⟨"b", some "B."⟩], []⟩
    let text := "a \"x\" \x7b\x7d\nb \" \" \x7b\x7d\nc \"x\" \x7b\x7d"
    smaller.typeNames ⊆ larger.typeNames ∧
      (ofText smaller text).issues.map Issue.line = [1, 1, 2] ∧
      (ofText larger text).issues.map Issue.line = [1, 2] ∧
      (ofText larger text).issues =
        (ofText smaller text).issues.filter (fun issue => ¬larger.Silences issue) ∧
      (ofText extended text).issues.map Issue.line = [1, 2] ∧
      (ofText extended text).issues =
        (ofText smaller text).issues.filter (fun issue => ¬extended.Silences issue) ∧
      (ofText extended text).isValid = false := by
  intro smaller larger extended text
  have subset : smaller.typeNames ⊆ larger.typeNames := by decide
  have invalid : (ofText smaller text).isValid = false := by decide
  rcases larger_catalog_silences_warnings text with ⟨silenced, silencedByExtension, errors⟩
  refine ⟨subset, by decide, by decide, silenced smaller larger subset, by decide, ?_, ?_⟩
  · exact silencedByExtension smaller ⟨[⟨"b", some "B."⟩], []⟩
  · exact (errors extended smaller).2.trans invalid

end Report

end AlloyAssist
