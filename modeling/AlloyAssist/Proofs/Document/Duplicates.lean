import AlloyAssist.Proofs.Document.Problems

/-!
# Which declarations count as duplicates

Declarations are compared by their full labels, a type and a label joined by a dot. Types
and labels may hold dots of their own, so the full label does not tell where the type
ends: `a.b "c"` and `a "b.c"` have the same one. Here it is said exactly which declarations
share a full label, and that a declaration is reported as a duplicate if and only if a code
line above it has one of these.
-/

namespace AlloyAssist

open Text

namespace Declaration

/-- The type of a declaration goes on, behind a dot, with what the label of the other one
starts with, and what is left of that label is its own. -/
def Resumes (declaration other : Declaration) : Prop :=
  ∃ middle : String, declaration.typeName = other.typeName ++ "." ++ middle ∧
    other.label = middle ++ "." ++ declaration.label

theorem toList_fullLabel (declaration : Declaration) :
    declaration.fullLabel.toList = declaration.typeName.toList ++ '.' :: declaration.label.toList := by
  simp [fullLabel]

theorem Resumes.fullLabel_eq {declaration other : Declaration} (resumes : declaration.Resumes other) :
    declaration.fullLabel = other.fullLabel := by
  rcases resumes with ⟨middle, typeName, label⟩
  rw [fullLabel, fullLabel, typeName, label]
  simp only [String.append_assoc]

/-- Two ways to cut one text at a dot: the first cut may come earlier, and then the second
piece of it holds the other cut. -/
theorem resumes_of_append {declaration other : Declaration} {more : List Char}
    (typeName : declaration.typeName.toList = other.typeName.toList ++ more)
    (label : '.' :: other.label.toList = more ++ '.' :: declaration.label.toList) :
    declaration = other ∨ declaration.Resumes other := by
  cases more with
  | nil =>
      left
      rcases declaration with ⟨ownType, ownLabel⟩
      rcases other with ⟨otherType, otherLabel⟩
      simp only [List.append_nil, String.toList_inj] at typeName
      simp only [List.nil_append, List.cons.injEq, true_and, String.toList_inj] at label
      rw [typeName, label]
  | cons dot middle =>
      simp only [List.cons_append, List.cons.injEq] at label
      rcases label with ⟨rfl, label⟩
      right
      refine ⟨String.ofList middle, ?_, ?_⟩
      · apply String.toList_inj.mp
        simp [typeName]
      · apply String.toList_inj.mp
        simp [label]

/-- Declarations share a full label if they are the same or if one resumes the other. -/
theorem fullLabel_eq_iff {declaration other : Declaration} :
    declaration.fullLabel = other.fullLabel ↔
      declaration = other ∨ declaration.Resumes other ∨ other.Resumes declaration := by
  constructor
  · intro same
    have joined := congrArg String.toList same
    rw [toList_fullLabel, toList_fullLabel] at joined
    rcases List.append_eq_append_iff.mp joined with ⟨more, typeName, label⟩ | ⟨more, typeName, label⟩
    · rcases resumes_of_append typeName label with equal | resumes
      · exact .inl equal.symm
      · exact .inr (.inr resumes)
    · rcases resumes_of_append typeName label with equal | resumes
      · exact .inl equal
      · exact .inr (.inl resumes)
  · rintro (rfl | resumes | resumes)
    · rfl
    · exact resumes.fullLabel_eq
    · exact resumes.fullLabel_eq.symm

end Declaration

/-! ## The report -/

namespace Problem

theorem worded_duplicateLabel (fullLabel : String) :
    "Duplicate component label".toList <+: (duplicateLabel fullLabel).message.toList := by
  have wording : "Duplicate component label".toList ++ ": ".toList =
      "Duplicate component label: ".toList := by decide
  change _ <+: ("Duplicate component label: " ++ fullLabel).toList
  rw [String.toList_append, ← wording, List.append_assoc]
  exact List.prefix_append _ _

/-- No other problem is worded like a duplicate: the first letter tells. -/
theorem exists_eq_duplicateLabel {problem : Problem}
    (worded : "Duplicate component label".toList <+: problem.message.toList) :
    ∃ fullLabel, problem = .duplicateLabel fullLabel := by
  have start : some problem.initial = some 'D' := by
    rcases worded with ⟨rest, equal⟩
    rw [← head?_message, ← equal]
    rfl
  cases problem with
  | duplicateLabel fullLabel => exact ⟨fullLabel, rfl⟩
  | _ => simp [initial] at start

end Problem

namespace Check

theorem duplicateLabel_mem_lineProblems_iff {catalog : Catalog} {seen : List String}
    {line : List Char} {fullLabel : String} :
    .duplicateLabel fullLabel ∈ lineProblems catalog seen line ↔
      fullLabel ∈ seen ∧ (Declaration.read? line).map Declaration.fullLabel = some fullLabel := by
  simp only [mem_lineProblems_iff, mem_declarationProblems_iff, mem_attributeProblems_iff,
    mem_quoteProblems_iff, Problem.duplicateLabel.injEq, reduceCtorEq, false_and, exists_false,
    or_false]
  constructor
  · rintro ⟨declaration, read, rfl, known⟩
    exact ⟨known, by rw [read, Option.map_some]⟩
  · rintro ⟨known, labelled⟩
    rcases Option.map_eq_some_iff.mp labelled with ⟨declaration, read, rfl⟩
    exact ⟨declaration, read, rfl, known⟩

end Check

namespace Stateless

theorem duplicate_mem_codeIssues_iff {catalog : Catalog} {above : List (List Char)} {index : Nat}
    {line : List Char} (code : LineKind.classify line = .code) {issue : Issue} :
    (issue ∈ codeIssues catalog above index line ∧
        "Duplicate component label".toList <+: issue.message.toList) ↔
      ∃ fullLabel, issue = (Problem.duplicateLabel fullLabel).toIssue index ∧
        Declares above fullLabel ∧
        (Declaration.read? line).map Declaration.fullLabel = some fullLabel := by
  rcases exists_tracks above with ⟨seen, tracks⟩
  rw [← map_lineProblems tracks catalog index code]
  constructor
  · rintro ⟨membership, worded⟩
    rcases List.mem_map.mp membership with ⟨problem, found, rfl⟩
    rcases Problem.exists_eq_duplicateLabel worded with ⟨fullLabel, rfl⟩
    rcases Check.duplicateLabel_mem_lineProblems_iff.mp found with ⟨known, declared⟩
    exact ⟨fullLabel, rfl, (tracks fullLabel).mp known, declared⟩
  · rintro ⟨fullLabel, rfl, above, declared⟩
    constructor
    · apply List.mem_map_of_mem
      exact Check.duplicateLabel_mem_lineProblems_iff.mpr ⟨(tracks fullLabel).mpr above, declared⟩
    · exact Problem.worded_duplicateLabel fullLabel

theorem duplicate_not_mem_braceIssues {lines : List (List Char)} {issue : Issue}
    (membership : issue ∈ braceIssues lines) :
    ¬"Duplicate component label".toList <+: issue.message.toList := by
  intro worded
  rw [← map_balanceProblems] at membership
  rcases List.mem_map.mp membership with ⟨problem, found, rfl⟩
  rcases Problem.exists_eq_duplicateLabel worded with ⟨fullLabel, rfl⟩
  rcases Check.mem_balanceProblems_iff.mp found with ⟨same, -⟩ | ⟨same, -⟩
  · cases same
  · cases same

theorem declares_take_iff {lines : List (List Char)} {index : Nat} {fullLabel : String} :
    Declares (lines.take index) fullLabel ↔
      ∃ earlier line, earlier < index ∧ lines[earlier]? = some line ∧
        LineKind.classify line = .code ∧
        (Declaration.read? line).map Declaration.fullLabel = some fullLabel := by
  constructor
  · rintro ⟨line, membership, code, declared⟩
    rcases List.mem_iff_getElem?.mp membership with ⟨earlier, here⟩
    rw [List.getElem?_take] at here
    split at here
    · exact ⟨earlier, line, ‹_›, here, code, declared⟩
    · cases here
  · rintro ⟨earlier, line, before, here, code, declared⟩
    refine ⟨line, ?_, code, declared⟩
    apply List.mem_iff_getElem?.mpr
    exact ⟨earlier, (List.getElem?_take_of_lt before).trans here⟩

end Stateless

namespace Report

/-- An error on a line says that its component is declared a second time. -/
def TellsDuplicate (report : Report) (index : Nat) : Prop :=
  ∃ issue ∈ report.issues, issue.line = index ∧ issue.severity = .error ∧
    "Duplicate component label".toList <+: issue.message.toList

theorem tellsDuplicate_iff_declares (catalog : Catalog) (text : String) {index : Nat}
    {line : List Char} {declaration : Declaration}
    (here : (Lines.split text.toList).contents[index]? = some line)
    (code : LineKind.classify line = .code) (declared : Declaration.read? line = some declaration) :
    (Report.ofText catalog text).TellsDuplicate index ↔
      Stateless.Declares ((Lines.split text.toList).contents.take index) declaration.fullLabel := by
  constructor
  · rintro ⟨issue, membership, atIndex, -, worded⟩
    rcases Stateless.mem_issues_iff.mp membership with
      ⟨other, place, found, otherCode, onLine⟩ | onBraces
    · rcases (Stateless.duplicate_mem_codeIssues_iff otherCode).mp ⟨onLine, worded⟩ with
        ⟨fullLabel, rfl, above, declaredThere⟩
      have same : place = index := atIndex
      subst same
      rw [here] at found
      rw [← Option.some.inj found, declared] at declaredThere
      rw [Option.some.inj declaredThere]
      exact above
    · exact absurd worded (Stateless.duplicate_not_mem_braceIssues onBraces)
  · intro above
    have labelled : (Declaration.read? line).map Declaration.fullLabel =
        some declaration.fullLabel := by rw [declared, Option.map_some]
    rcases (Stateless.duplicate_mem_codeIssues_iff code).mpr
      ⟨declaration.fullLabel, rfl, above, labelled⟩ with ⟨onLine, worded⟩
    refine ⟨_, ?_, rfl, rfl, worded⟩
    exact Stateless.mem_issues_iff.mpr (.inl ⟨line, index, here, code, onLine⟩)

/-- A declaration on a code line is reported as a duplicate if and only if a code line above
declares the same type and label, or one of which either resumes the other. -/
theorem tellsDuplicate_iff_exists_earlier (catalog : Catalog) (text : String) {index : Nat}
    {line : List Char} {declaration : Declaration}
    (here : (Lines.split text.toList).contents[index]? = some line)
    (code : LineKind.classify line = .code) (declared : Declaration.read? line = some declaration) :
    (Report.ofText catalog text).TellsDuplicate index ↔
      ∃ earlier other otherDeclaration, earlier < index ∧
        (Lines.split text.toList).contents[earlier]? = some other ∧
        LineKind.classify other = .code ∧ Declaration.read? other = some otherDeclaration ∧
        (otherDeclaration = declaration ∨ otherDeclaration.Resumes declaration ∨
          declaration.Resumes otherDeclaration) := by
  rw [tellsDuplicate_iff_declares catalog text here code declared, Stateless.declares_take_iff]
  constructor
  · rintro ⟨earlier, other, before, found, otherCode, labelled⟩
    rcases Option.map_eq_some_iff.mp labelled with ⟨otherDeclaration, read, same⟩
    exact ⟨earlier, other, otherDeclaration, before, found, otherCode, read,
      Declaration.fullLabel_eq_iff.mp same⟩
  · rintro ⟨earlier, other, otherDeclaration, before, found, otherCode, read, related⟩
    refine ⟨earlier, other, before, found, otherCode, ?_⟩
    rw [read, Option.map_some, Declaration.fullLabel_eq_iff.mpr related]

/-- A declaration is reported behind an equal one, and behind one that resumes it, but not without
either. -/
theorem tellsDuplicate_second :
    let report := Report.ofText .builtin
      "local.a.b \"c\" \x7b\x7d\nlocal.a \"b.c\" \x7b\x7d\nlocal.a \"b.c\" \x7b\x7d"
    ¬report.TellsDuplicate 0 ∧ report.TellsDuplicate 1 ∧ report.TellsDuplicate 2 := by
  let text := "local.a.b \"c\" \x7b\x7d\nlocal.a \"b.c\" \x7b\x7d\nlocal.a \"b.c\" \x7b\x7d"
  let head := "local.a.b \"c\" \x7b\x7d".toList
  let line := "local.a \"b.c\" \x7b\x7d".toList
  have first : (Lines.split text.toList).contents[0]? = some head := by decide
  have second : (Lines.split text.toList).contents[1]? = some line := by decide
  have third : (Lines.split text.toList).contents[2]? = some line := by decide
  have headCode : LineKind.classify head = .code := by decide
  have code : LineKind.classify line = .code := by decide
  have headDeclared : Declaration.read? head = some ⟨"local.a.b", "c"⟩ := by decide
  have declared : Declaration.read? line = some ⟨"local.a", "b.c"⟩ := by decide
  have resumes : Declaration.Resumes ⟨"local.a.b", "c"⟩ ⟨"local.a", "b.c"⟩ :=
    ⟨"b", by decide, by decide⟩
  refine ⟨?_, ?_, ?_⟩
  · intro told
    rcases (tellsDuplicate_iff_exists_earlier .builtin text first headCode headDeclared).mp told with
      ⟨earlier, -, -, before, -⟩
    exact Nat.not_lt_zero earlier before
  · apply (tellsDuplicate_iff_exists_earlier .builtin text second code declared).mpr
    exact ⟨0, head, _, Nat.zero_lt_one, first, headCode, headDeclared, .inr (.inl resumes)⟩
  · apply (tellsDuplicate_iff_exists_earlier .builtin text third code declared).mpr
    exact ⟨1, line, _, Nat.one_lt_two, second, code, declared, .inl rfl⟩

/-- A duplicate need not be of the same type and label: `local.a "b.c"` is reported behind
`local.a.b "c"`. -/
theorem not_forall_tellsDuplicate_iff_same :
    ¬∀ (catalog : Catalog) (text : String) (index : Nat) (line : List Char)
        (declaration : Declaration),
      (Lines.split text.toList).contents[index]? = some line →
      LineKind.classify line = .code →
      Declaration.read? line = some declaration →
      ((Report.ofText catalog text).TellsDuplicate index ↔
        ∃ earlier other, earlier < index ∧
          (Lines.split text.toList).contents[earlier]? = some other ∧
          LineKind.classify other = .code ∧ Declaration.read? other = some declaration) := by
  intro claim
  let text := "local.a.b \"c\" \x7b\n\x7d\nlocal.a \"b.c\" \x7b\n\x7d"
  let line := "local.a \"b.c\" \x7b".toList
  have here : (Lines.split text.toList).contents[2]? = some line := by decide
  have code : LineKind.classify line = .code := by decide
  have declared : Declaration.read? line = some ⟨"local.a", "b.c"⟩ := by decide
  have reported : (Report.ofText .builtin text).TellsDuplicate 2 :=
    (tellsDuplicate_iff_declares .builtin text here code declared).mpr (by decide)
  have fresh : ∀ earlier < 2, (Lines.split text.toList).contents[earlier]?.bind Declaration.read? ≠
      some ⟨"local.a", "b.c"⟩ := by decide
  rcases (claim .builtin text 2 line _ here code declared).mp reported with
    ⟨earlier, other, before, found, -, read⟩
  apply fresh earlier before
  rw [found]
  exact read

end Report

end AlloyAssist
