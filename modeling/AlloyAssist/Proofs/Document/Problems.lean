import AlloyAssist.Proofs.Document.Stateless

/-!
# What checking can find

Every part of a check finds problems of its own kinds, each under one condition and no other
problem at all. This is said here once for every part, and then of whole documents: behind each
issue there is a problem of the code line that the issue is about, or one of the braces of all
lines. An issue keeps no more than the wording of its problem, so the kinds have to be told apart
by their wordings.
-/

namespace AlloyAssist

open Text

/-! ## Wordings -/

namespace Problem

theorem head?_toList_append {start : String} {c : Char} (head : start.toList.head? = some c)
    (rest : String) : (start ++ rest).toList.head? = some c := by
  rw [String.toList_append, List.head?_append, head, Option.some_or]

/-- The letter that the wording of a problem starts with. -/
def initial : Problem → Char
  | duplicateLabel _ => 'D'
  | emptyLabel => 'C'
  | missingValue _ => 'A'
  | unknownType _ | unclosedString | unclosedBlock | unexpectedClosingBrace => 'U'

theorem head?_message (problem : Problem) :
    problem.message.toList.head? = some problem.initial := by
  cases problem with
  | duplicateLabel fullLabel =>
      have start : "Duplicate component label: ".toList.head? = some 'D' := by decide
      exact head?_toList_append start _
  | unknownType typeName =>
      have start : "Unknown component type: ".toList.head? = some 'U' := by decide
      exact head?_toList_append (head?_toList_append start _) _
  | emptyLabel => decide
  | missingValue name =>
      have start : "Attribute '".toList.head? = some 'A' := by decide
      exact head?_toList_append (head?_toList_append start _) _
  | unclosedString => decide
  | unclosedBlock => decide
  | unexpectedClosingBrace => decide

/-- The wording of an unknown type starts like no other one. -/
theorem message_unknownType_ne {wording : String} (other : ¬"Unk".toList <+: wording.toList)
    (typeName : String) : (unknownType typeName).message ≠ wording := by
  rintro rfl
  apply other
  change _ <+: ("Unknown component type: " ++ typeName ++
    ". This may be valid but is not in the common components list.").toList
  have start : "Unk".toList <+: "Unknown component type: ".toList := by decide
  rw [String.toList_append, String.toList_append, List.append_assoc]
  exact start.trans (List.prefix_append _ _)

end Problem

/-- The issue tells that braces are left open on the lines taken together, or that too many are
closed. -/
def Issue.TellsBraces (issue : Issue) : Prop :=
  issue.message = "Unclosed block (missing closing brace)" ∨
    issue.message = "Unexpected closing brace"

instance (issue : Issue) : Decidable issue.TellsBraces :=
  inferInstanceAs (Decidable (_ ∨ _))

/-- No other problem is worded like one of the braces. -/
theorem Problem.tellsBraces_toIssue_iff {problem : Problem} {index : Nat} :
    (problem.toIssue index).TellsBraces ↔
      problem = .unclosedBlock ∨ problem = .unexpectedClosingBrace := by
  constructor
  · intro told
    have start : some problem.initial = some 'U' := by
      rw [← head?_message]
      rcases told with worded | worded
      · exact congrArg (·.toList.head?) worded
      · exact congrArg (·.toList.head?) worded
    cases problem with
    | unclosedBlock => exact .inl rfl
    | unexpectedClosingBrace => exact .inr rfl
    | unknownType typeName =>
        rcases told with worded | worded
        · exact absurd worded (message_unknownType_ne (by decide) typeName)
        · exact absurd worded (message_unknownType_ne (by decide) typeName)
    | unclosedString =>
        have other : ¬("Unclosed string literal" = "Unclosed block (missing closing brace)" ∨
            "Unclosed string literal" = "Unexpected closing brace") := by decide
        exact absurd told other
    | _ => simp [initial] at start
  · rintro (rfl | rfl)
    · exact .inl rfl
    · exact .inr rfl

/-! ## The parts of a check -/

namespace Check

variable {catalog : Catalog} {seen : List String} {line : List Char} {problem : Problem}

theorem mem_declarationProblems_iff {declaration : Declaration} :
    problem ∈ declarationProblems catalog seen declaration ↔
      problem = .duplicateLabel declaration.fullLabel ∧ declaration.fullLabel ∈ seen ∨
      problem = .unknownType declaration.typeName ∧
        ¬catalog.accepts declaration.typeName = true ∨
      problem = .emptyLabel ∧ trim declaration.label.toList = [] := by
  simp only [declarationProblems, List.mem_append, List.mem_ite_nil_right, List.mem_ite_nil_left,
    List.mem_singleton, and_comm, or_assoc]

theorem mem_attributeProblems_iff :
    problem ∈ attributeProblems line ↔
      ∃ name, problem = .missingValue name ∧ Attribute.read? line = some name ∧
        (trim line).getLast? = some '=' := by
  rw [attributeProblems]
  cases Attribute.read? line with
  | none => simp
  | some name => simp [and_comm]

theorem mem_quoteProblems_iff :
    problem ∈ quoteProblems line ↔
      problem = .unclosedString ∧ Line.quoteCount line % 2 = 1 ∧
        LineKind.classify line ≠ .lineComment := by
  rw [quoteProblems, List.mem_ite_nil_right, List.mem_singleton, and_comm]

theorem mem_lineProblems_iff :
    problem ∈ lineProblems catalog seen line ↔
      (∃ declaration, Declaration.read? line = some declaration ∧
        problem ∈ declarationProblems catalog seen declaration) ∨
      problem ∈ attributeProblems line ∨ problem ∈ quoteProblems line := by
  rw [lineProblems, List.mem_append, List.mem_append, or_assoc]
  cases Declaration.read? line with
  | none => simp
  | some declaration => simp

theorem not_tellsBraces_of_mem_lineProblems (found : problem ∈ lineProblems catalog seen line)
    (index : Nat) : ¬(problem.toIssue index).TellsBraces := by
  have blameless : .unclosedBlock ∉ lineProblems catalog seen line ∧
      .unexpectedClosingBrace ∉ lineProblems catalog seen line := by
    simp [mem_lineProblems_iff, mem_declarationProblems_iff, mem_attributeProblems_iff,
      mem_quoteProblems_iff]
  rw [Problem.tellsBraces_toIssue_iff]
  rintro (rfl | rfl)
  · exact blameless.1 found
  · exact blameless.2 found

theorem mem_balanceProblems_iff {balance : Int} :
    problem ∈ balanceProblems balance ↔
      problem = .unclosedBlock ∧ 0 < balance ∨
      problem = .unexpectedClosingBrace ∧ balance < 0 := by
  rcases Int.lt_trichotomy balance 0 with surplus | rfl | unclosed
  · have below : ¬0 < balance := by omega
    simp [balanceProblems, surplus, below]
  · simp [balanceProblems]
  · have above : ¬balance < 0 := by omega
    simp [balanceProblems, unclosed, above]

theorem not_tellsBraces_of_mem_lineIssues {index : Nat} {lines : List (List Char)} {issue : Issue}
    (found : issue ∈ lineIssues catalog index seen lines) : ¬issue.TellsBraces := by
  induction lines generalizing index seen with
  | nil => cases found
  | cons line lines ih =>
      rw [lineIssues] at found
      split at found
      · rcases List.mem_append.mp found with here | below
        · rcases List.mem_map.mp here with ⟨problem, blamed, rfl⟩
          exact not_tellsBraces_of_mem_lineProblems blamed index
        · exact ih below
      · exact ih found

theorem tellsBraces_of_mem_balanceProblems {balance : Int}
    (found : problem ∈ balanceProblems balance) (index : Nat) :
    (problem.toIssue index).TellsBraces := by
  rw [Problem.tellsBraces_toIssue_iff]
  exact (mem_balanceProblems_iff.mp found).imp And.left And.left

end Check

/-! ## Whole documents -/

namespace Stateless

/-- For any lines above there are labels to carry along. -/
theorem exists_tracks (above : List (List Char)) : ∃ seen, Tracks seen above := by
  induction above using List.reverseRecOn with
  | nil => exact ⟨[], tracks_nil⟩
  | append_singleton above line ih =>
      rcases ih with ⟨seen, tracks⟩
      by_cases code : LineKind.classify line = .code
      · exact ⟨_, tracks.step_code code⟩
      · exact ⟨_, tracks.step_skipped code⟩

/-- An issue comes from a code line, or from the braces of all lines. -/
theorem mem_issues_iff {catalog : Catalog} {lines : List (List Char)} {issue : Issue} :
    issue ∈ Check.issues catalog lines ↔
      (∃ line index, lines[index]? = some line ∧ LineKind.classify line = .code ∧
        issue ∈ codeIssues catalog (lines.take index) index line) ∨ issue ∈ braceIssues lines := by
  have lineIssues : Check.lineIssues catalog 0 [] lines = _ := lineIssues_eq tracks_nil catalog lines
  rw [Check.issues, map_balanceProblems, List.mem_append, lineIssues]
  simp only [List.mem_flatMap, List.mem_filter, List.length_nil, List.nil_append,
    List.mem_zipIdx_iff_getElem?, decide_eq_true_eq, Prod.exists, and_assoc]

/-- Behind every issue there is a problem: one of the code line that the issue is about, or one of
the braces of all lines. -/
theorem mem_issues_iff_exists_problem {catalog : Catalog} {lines : List (List Char)}
    {issue : Issue} :
    issue ∈ Check.issues catalog lines ↔
      (∃ line seen problem, lines[issue.line]? = some line ∧ LineKind.classify line = .code ∧
        Tracks seen (lines.take issue.line) ∧ problem ∈ Check.lineProblems catalog seen line ∧
        problem.toIssue issue.line = issue) ∨
      ∃ problem ∈ Check.balanceProblems (Check.braceBalance lines),
        problem.toIssue (lines.length - 1) = issue := by
  rw [mem_issues_iff, ← map_balanceProblems, List.mem_map]
  apply or_congr_left
  constructor
  · rintro ⟨line, index, here, code, told⟩
    rcases exists_tracks (lines.take index) with ⟨seen, tracks⟩
    rw [← map_lineProblems tracks catalog index code] at told
    rcases List.mem_map.mp told with ⟨problem, found, rfl⟩
    exact ⟨line, seen, problem, here, code, tracks, found, rfl⟩
  · rintro ⟨line, seen, problem, here, code, tracks, found, same⟩
    refine ⟨line, issue.line, here, code, ?_⟩
    rw [← map_lineProblems tracks catalog issue.line code]
    exact List.mem_map.mpr ⟨problem, found, same⟩

end Stateless

end AlloyAssist
