import AlloyAssist.Proofs.Document.Problems
import AlloyAssist.Proofs.Line.Unambiguous

/-!
# When a value is reported missing

An attribute is reported to miss its value if its line ends with an equals sign, blanks apart. What
is looked at is the end of the line and not what follows the attribute's own equals sign. Where
nothing follows that sign, the two are the same. They are not if the value itself, or a comment
behind it, ends with an equals sign: then a value that is there is reported missing. It is said
here exactly when the report is made, and that these are the only lines on which it is wrong.
-/

namespace AlloyAssist

open Text

namespace Problem

/-- No other problem is worded like a missing value: the first letter tells, and the wording tells
which attribute is meant. -/
theorem message_eq_missingValue_iff {problem : Problem} {name : String} :
    problem.message = (missingValue name).message ↔ problem = .missingValue name := by
  constructor
  · intro worded
    have start : some problem.initial = some 'A' := by
      rw [← head?_message, worded, head?_message]
      rfl
    cases problem with
    | missingValue other =>
        have same : "Attribute '" ++ other ++ "' is missing a value" =
            "Attribute '" ++ name ++ "' is missing a value" := worded
        rw [String.append_left_inj, String.append_right_inj] at same
        rw [same]
    | _ => simp [initial] at start
  · intro same
    rw [same]

end Problem

namespace Check

theorem missingValue_mem_lineProblems_iff {catalog : Catalog} {seen : List String}
    {line : List Char} {name : String} :
    .missingValue name ∈ lineProblems catalog seen line ↔
      Attribute.read? line = some name ∧ (trim line).getLast? = some '=' := by
  simp only [mem_lineProblems_iff, mem_declarationProblems_iff, mem_attributeProblems_iff,
    mem_quoteProblems_iff, Problem.missingValue.injEq, reduceCtorEq, false_and, and_false,
    exists_false, false_or, or_false, exists_eq_left']

end Check

namespace Stateless

theorem missingValue_mem_issues_iff {catalog : Catalog} {lines : List (List Char)} {index : Nat}
    {name : String} :
    (Problem.missingValue name).toIssue index ∈ Check.issues catalog lines ↔
      ∃ line, lines[index]? = some line ∧ LineKind.classify line = .code ∧
        Attribute.read? line = some name ∧ (trim line).getLast? = some '=' := by
  rw [mem_issues_iff_exists_problem]
  constructor
  · rintro (⟨line, seen, problem, here, code, -, found, same⟩ | ⟨problem, found, same⟩)
    · rw [Problem.message_eq_missingValue_iff.mp (congrArg Issue.message same)] at found
      exact ⟨line, here, code, Check.missingValue_mem_lineProblems_iff.mp found⟩
    · rw [Problem.message_eq_missingValue_iff.mp (congrArg Issue.message same)] at found
      rcases Check.mem_balanceProblems_iff.mp found with ⟨same, -⟩ | ⟨same, -⟩
      · cases same
      · cases same
  · rintro ⟨line, here, code, found⟩
    rcases exists_tracks (lines.take index) with ⟨seen, tracks⟩
    left
    exact ⟨line, seen, .missingValue name, here, code, tracks,
      Check.missingValue_mem_lineProblems_iff.mpr found, rfl⟩

end Stateless

/-! ## The value of an attribute -/

namespace Attribute.Reading

/-- A line ends with an equals sign if nothing follows the one that sets its attribute, or if what
follows ends with another. -/
theorem getLast?_trim_iff {line : List Char} (reading : Reading line) :
    (trim line).getLast? = some '=' ↔
      AllBlank reading.rest ∨ (trim reading.rest).getLast? = some '=' := by
  have split : line = (reading.indent ++ (reading.name ++ reading.space)) ++ '=' :: reading.rest := by
    simpa only [List.append_assoc] using reading.spelled
  have ends : (trim line).getLast? = some ((trim reading.rest).getLast?.getD '=') := by
    conv_lhs => rw [split]
    exact getLast?_trim_append_cons rfl _ _
  rw [ends, ← trim_eq_nil_iff, ← List.getLast?_eq_none_iff]
  cases (trim reading.rest).getLast? with
  | none => simp
  | some c => simp

/-- However a line is written as one that sets an attribute, the value is the same. -/
theorem rest_eq {line : List Char} (reading : Reading line) {indent name space value : List Char}
    (indentBlank : AllBlank indent) (isName : Line.IsName Line.isNameChar name)
    (spaceBlank : AllBlank space)
    (spelled : line = indent ++ (name ++ (space ++ '=' :: value))) : reading.rest = value := by
  have spellsName := (Line.isName_iff_spellsName Line.isNameChar_iff).mp isName
  rw [reading.unique ⟨indent, name, space, value, indentBlank, spellsName, spaceBlank, spelled⟩]

end Attribute.Reading

namespace Report

/-- On a code line that sets an attribute, the value is reported missing if nothing but blanks
follows the equals sign, and also if the last solid character that follows is another equals
sign. -/
theorem missingValue_told_iff (catalog : Catalog) (text : String) {index : Nat} {line : List Char}
    {name : String} (here : (Lines.split text.toList).contents[index]? = some line)
    (code : LineKind.classify line = .code) (set : Attribute.read? line = some name) :
    ∃ reading : Attribute.Reading line, reading.target = name ∧
      (⟨index, "Attribute '" ++ name ++ "' is missing a value", .error⟩ ∈
          (Report.ofText catalog text).issues ↔
        AllBlank reading.rest ∨ (trim reading.rest).getLast? = some '=') := by
  rcases Attribute.opens_iff_exists_reading.mp (Attribute.read?_eq_some_iff.mp set) with
    ⟨reading, target⟩
  refine ⟨reading, target, ?_⟩
  rw [← reading.getLast?_trim_iff]
  constructor
  · intro told
    rcases Stateless.missingValue_mem_issues_iff.mp told with ⟨other, there, -, -, ends⟩
    rw [here] at there
    cases there
    exact ends
  · intro ends
    exact Stateless.missingValue_mem_issues_iff.mpr ⟨line, here, code, set, ends⟩

/-- A wide blank is no value. -/
theorem missingValue_told_wide_blank :
    ⟨0, "Attribute 'endpoint' is missing a value", .error⟩ ∈
      (Report.ofText .builtin "endpoint =\u3000").issues := by
  let text := "endpoint =\u3000"
  have here : (Lines.split text.toList).contents[0]? = some text.toList := by decide
  have code : LineKind.classify text.toList = .code := by decide
  have set : Attribute.read? text.toList = some "endpoint" := by decide
  have isName : Line.IsName Line.isNameChar "endpoint".toList :=
    ⟨'e', "ndpoint".toList, rfl, rfl, List.all_eq_true.mp rfl⟩
  have space : AllBlank [' '] := allBlank_cons.mpr ⟨rfl, allBlank_nil⟩
  have wide : AllBlank ['\u3000'] := allBlank_cons.mpr ⟨rfl, allBlank_nil⟩
  rcases missingValue_told_iff .builtin text here code set with ⟨reading, -, told⟩
  have value : reading.rest = ['\u3000'] := reading.rest_eq allBlank_nil isName space (by decide)
  apply told.mpr
  left
  rw [value]
  exact wide

/-- A value need not be missing to be reported so: an equals sign at the end of a comment is
enough. -/
theorem not_forall_missingValue_told_iff_allBlank :
    ¬∀ (catalog : Catalog) (text : String) (index : Nat) (line : List Char) (name : String),
      (Lines.split text.toList).contents[index]? = some line →
      LineKind.classify line = .code →
      Attribute.read? line = some name →
      ∃ reading : Attribute.Reading line, reading.target = name ∧
        (⟨index, "Attribute '" ++ name ++ "' is missing a value", .error⟩ ∈
            (Report.ofText catalog text).issues ↔ AllBlank reading.rest) := by
  intro claim
  let text := "role = \"pod\" // default ="
  have here : (Lines.split text.toList).contents[0]? = some text.toList := by decide
  have code : LineKind.classify text.toList = .code := by decide
  have set : Attribute.read? text.toList = some "role" := by decide
  have isName : Line.IsName Line.isNameChar "role".toList :=
    ⟨'r', "ole".toList, rfl, rfl, List.all_eq_true.mp rfl⟩
  have space : AllBlank [' '] := allBlank_cons.mpr ⟨rfl, allBlank_nil⟩
  have reported : ⟨0, "Attribute 'role' is missing a value", .error⟩ ∈
      (Report.ofText .builtin text).issues := by decide
  rcases claim .builtin text 0 text.toList "role" here code set with ⟨reading, -, told⟩
  have value : reading.rest = " \"pod\" // default =".toList :=
    reading.rest_eq allBlank_nil isName space (by decide)
  have blank := told.mp reported
  rw [value] at blank
  exact absurd (blank 'p' (by decide)) (by decide)

end Report

end AlloyAssist
