import AlloyAssist.Document.Check
import AlloyAssist.Proofs.Line.Core

/-!
# Checking without state

Checking goes through the lines once and carries the labels it has seen along. Here the
same issues are described line by line, without anything carried along: what a line is
blamed for is a matter of the line and of the lines above it. The two descriptions agree
on every document.
-/

namespace AlloyAssist

open Text

@[simp] theorem Line.isCode_eq_true_iff {line : List Char} :
    Line.isCode line = true ↔ LineKind.classify line = .code := by
  simp [Line.isCode, LineKind.isSkipped]

theorem Catalog.accepts_eq_true_iff {catalog : Catalog} {typeName : String} :
    catalog.accepts typeName = true ↔
      (∃ entry ∈ catalog.components, entry.name = typeName) ∨
        "local.".toList <+: typeName.toList := by
  simp only [Catalog.accepts, Catalog.isKnown, Catalog.component?, Catalog.localStart,
    Bool.or_eq_true, List.find?_isSome, decide_eq_true_eq, List.isPrefixOf_iff_prefix]

namespace Stateless

/-- A code line among these declares a component of the full label. -/
def Declares (lines : List (List Char)) (fullLabel : String) : Prop :=
  ∃ line ∈ lines, LineKind.classify line = .code ∧
    (Declaration.read? line).map Declaration.fullLabel = some fullLabel

instance (lines : List (List Char)) (fullLabel : String) :
    Decidable (Declares lines fullLabel) :=
  inferInstanceAs (Decidable (∃ line ∈ lines, LineKind.classify line = .code ∧
    (Declaration.read? line).map Declaration.fullLabel = some fullLabel))

/-- What a declaration on a line is blamed for, given the lines above. -/
def declarationIssues (catalog : Catalog) (above : List (List Char)) (index : Nat)
    (declaration : Declaration) : List Issue :=
  (if Declares above declaration.fullLabel then
      [⟨index, "Duplicate component label: " ++ declaration.fullLabel, .error⟩]
    else []) ++
    (if (∀ entry ∈ catalog.components, entry.name ≠ declaration.typeName) ∧
        ¬"local.".toList <+: declaration.typeName.toList then
      [⟨index, "Unknown component type: " ++ declaration.typeName ++
        ". This may be valid but is not in the common components list.", .warning⟩]
    else []) ++
    (if AllBlank declaration.label.toList then
      [⟨index, "Component label cannot be empty", .error⟩]
    else [])

/-- What a code line is blamed for, given the lines above. -/
def codeIssues (catalog : Catalog) (above : List (List Char)) (index : Nat)
    (line : List Char) : List Issue :=
  (match Declaration.read? line with
    | some declaration => declarationIssues catalog above index declaration
    | none => []) ++
    (match Attribute.read? line with
    | some name =>
        if (trim line).getLast? = some '=' then
          [⟨index, "Attribute '" ++ name ++ "' is missing a value", .error⟩]
        else []
    | none => []) ++
    (if line.count '"' % 2 = 1 then [⟨index, "Unclosed string literal", .error⟩] else [])

/-- How often a brace occurs on code lines. -/
def braces (brace : Char) (lines : List (List Char)) : Nat :=
  (lines.filter fun line => LineKind.classify line = .code).flatten.count brace

/-- What the braces of a whole document are blamed for, on its last line. -/
def braceIssues (lines : List (List Char)) : List Issue :=
  if braces '{' lines = braces '}' lines then []
  else if braces '}' lines < braces '{' lines then
    [⟨lines.length - 1, "Unclosed block (missing closing brace)", .error⟩]
  else [⟨lines.length - 1, "Unexpected closing brace", .error⟩]

/-- The issues of a document: those of each code line, in line order, and then those of
the braces. -/
def issues (catalog : Catalog) (lines : List (List Char)) : List Issue :=
  ((lines.zipIdx.filter fun (line, _) => LineKind.classify line = .code).flatMap
    fun (line, index) => codeIssues catalog (lines.take index) index line) ++
    braceIssues lines

/-! ## The labels carried along -/

/-- The labels carried along are those that the lines above declare. -/
def Tracks (seen : List String) (above : List (List Char)) : Prop :=
  ∀ fullLabel, fullLabel ∈ seen ↔ Declares above fullLabel

theorem tracks_nil : Tracks [] [] := by
  intro fullLabel
  simp [Declares]

theorem declares_concat {above : List (List Char)} {line : List Char} {fullLabel : String} :
    Declares (above ++ [line]) fullLabel ↔
      Declares above fullLabel ∨ LineKind.classify line = .code ∧
        (Declaration.read? line).map Declaration.fullLabel = some fullLabel := by
  constructor
  · rintro ⟨other, membership, code, declared⟩
    rcases List.mem_append.mp membership with earlier | current
    · exact .inl ⟨other, earlier, code, declared⟩
    · rw [List.mem_singleton.mp current] at code declared
      exact .inr ⟨code, declared⟩
  · rintro (⟨other, membership, code, declared⟩ | ⟨code, declared⟩)
    · exact ⟨other, List.mem_append_left [line] membership, code, declared⟩
    · exact ⟨line, List.mem_append_right above (List.mem_singleton_self line), code, declared⟩

theorem Tracks.step_code {seen : List String} {above : List (List Char)} {line : List Char}
    (tracks : Tracks seen above) (code : LineKind.classify line = .code) :
    Tracks (Check.declaredLabels line ++ seen) (above ++ [line]) := by
  intro fullLabel
  rw [List.mem_append, tracks fullLabel, declares_concat, Check.declaredLabels,
    Option.mem_toList, or_comm, and_iff_right code]

theorem Tracks.step_skipped {seen : List String} {above : List (List Char)} {line : List Char}
    (tracks : Tracks seen above) (skipped : LineKind.classify line ≠ .code) :
    Tracks seen (above ++ [line]) := by
  intro fullLabel
  rw [tracks fullLabel, declares_concat]
  constructor
  · exact .inl
  · rintro (earlier | ⟨code, -⟩)
    · exact earlier
    · exact absurd code skipped

/-! ## One line -/

theorem map_toIssue_ite {found stated : Prop} [Decidable found] [Decidable stated]
    (agree : found ↔ stated) (index : Nat) (problem : Problem) :
    (if found then [problem] else []).map (Problem.toIssue index) =
      if stated then [problem.toIssue index] else [] := by
  by_cases holds : stated
  · rw [if_pos holds, if_pos (agree.mpr holds)]
    rfl
  · rw [if_neg holds, if_neg (mt agree.mp holds)]
    rfl

theorem map_declarationProblems {seen : List String} {above : List (List Char)}
    (tracks : Tracks seen above) (catalog : Catalog) (index : Nat) (declaration : Declaration) :
    (Check.declarationProblems catalog seen declaration).map (Problem.toIssue index) =
      declarationIssues catalog above index declaration := by
  have unknown : (¬catalog.accepts declaration.typeName = true) ↔
      (∀ entry ∈ catalog.components, entry.name ≠ declaration.typeName) ∧
        ¬"local.".toList <+: declaration.typeName.toList := by
    rw [Catalog.accepts_eq_true_iff]
    push Not
    rfl
  rw [Check.declarationProblems, List.map_append, List.map_append,
    ← ite_not (catalog.accepts declaration.typeName = true), map_toIssue_ite (tracks _),
    map_toIssue_ite unknown, map_toIssue_ite trim_eq_nil_iff]
  rfl

theorem map_attributeProblems (index : Nat) (line : List Char) :
    (Check.attributeProblems line).map (Problem.toIssue index) =
      match Attribute.read? line with
      | some name =>
          if (trim line).getLast? = some '=' then
            [⟨index, "Attribute '" ++ name ++ "' is missing a value", .error⟩]
          else []
      | none => [] := by
  rw [Check.attributeProblems]
  cases Attribute.read? line with
  | none => rfl
  | some name => exact map_toIssue_ite Iff.rfl index (.missingValue name)

/-- A code line is no comment, so its quotes always count. -/
theorem map_quoteProblems {line : List Char} (code : LineKind.classify line = .code)
    (index : Nat) :
    (Check.quoteProblems line).map (Problem.toIssue index) =
      if line.count '"' % 2 = 1 then [⟨index, "Unclosed string literal", .error⟩] else [] := by
  have counts : Line.quoteCount line % 2 = 1 ∧ LineKind.classify line ≠ .lineComment ↔
      line.count '"' % 2 = 1 := by
    rw [code]
    exact and_iff_left (by decide)
  exact map_toIssue_ite counts index .unclosedString

theorem map_lineProblems {seen : List String} {above : List (List Char)}
    (tracks : Tracks seen above) (catalog : Catalog) (index : Nat) {line : List Char}
    (code : LineKind.classify line = .code) :
    (Check.lineProblems catalog seen line).map (Problem.toIssue index) =
      codeIssues catalog above index line := by
  rw [Check.lineProblems, List.map_append, List.map_append, map_attributeProblems,
    map_quoteProblems code, codeIssues]
  congr 2
  cases Declaration.read? line with
  | none => rfl
  | some declaration => exact map_declarationProblems tracks catalog index declaration

/-! ## All lines -/

/-- The lines that are still to come, with the lines above them already gone through. -/
theorem lineIssues_eq {seen : List String} {above : List (List Char)}
    (tracks : Tracks seen above) (catalog : Catalog) (lines : List (List Char)) :
    Check.lineIssues catalog above.length seen lines =
      ((lines.zipIdx above.length).filter fun (line, _) =>
        LineKind.classify line = .code).flatMap
        fun (line, index) => codeIssues catalog ((above ++ lines).take index) index line := by
  -- The induction moves one line at a time from `lines` to the end of `above`; the
  -- document `above ++ lines` stays the same.
  induction lines generalizing seen above with
  | nil => rfl
  | cons line lines ih =>
      have shifted : above ++ line :: lines = (above ++ [line]) ++ lines := by simp
      have length : above.length + 1 = (above ++ [line]).length := by simp
      rw [Check.lineIssues, List.zipIdx_cons, length]
      by_cases code : LineKind.classify line = .code
      · rw [if_pos (Line.isCode_eq_true_iff.mpr code),
          List.filter_cons_of_pos (by simpa using code), List.flatMap_cons,
          map_lineProblems tracks catalog _ code, ih (tracks.step_code code), ← shifted]
        simp only [List.take_left']
      · rw [if_neg (mt Line.isCode_eq_true_iff.mp code),
          List.filter_cons_of_neg (by simpa using code), ih (tracks.step_skipped code), ← shifted]

theorem braceBalance_eq (lines : List (List Char)) :
    Check.braceBalance lines = (braces '{' lines : Int) - (braces '}' lines : Int) := by
  induction lines with
  | nil => rfl
  | cons line lines ih =>
      by_cases code : LineKind.classify line = .code
      · simp only [Check.braceBalance, braces, List.filter_cons, Line.isCode_eq_true_iff, code,
          if_true, List.map_cons, List.foldr_cons, List.flatten_cons, List.count_append,
          decide_true, Line.braceDelta] at ih ⊢
        push_cast at ih ⊢
        omega
      · simpa only [Check.braceBalance, braces, List.filter_cons, Line.isCode_eq_true_iff, code,
          if_false, decide_false, Bool.false_eq_true] using ih

theorem map_balanceProblems (lines : List (List Char)) :
    (Check.balanceProblems (Check.braceBalance lines)).map
      (Problem.toIssue (lines.length - 1)) = braceIssues lines := by
  rw [Check.balanceProblems, braceBalance_eq, braceIssues]
  rcases Nat.lt_trichotomy (braces '{' lines) (braces '}' lines) with fewer | equal | more
  · rw [if_neg (by omega), if_pos (by omega), if_neg (by omega), if_neg (by omega)]
    rfl
  · rw [if_neg (by omega), if_neg (by omega), if_pos equal]
    rfl
  · rw [if_pos (by omega), if_neg (by omega), if_pos more]
    rfl

end Stateless

/-- Checking a document finds what the description without state says, in the same
order. -/
theorem Report.issues_ofText_eq_stateless (catalog : Catalog) (text : String) :
    (Report.ofText catalog text).issues =
      Stateless.issues catalog (Lines.split text.toList).contents := by
  have lineIssues := Stateless.lineIssues_eq Stateless.tracks_nil catalog
    (Lines.split text.toList).contents
  have balance := Stateless.map_balanceProblems (Lines.split text.toList).contents
  rw [Report.ofText, Check.issues, balance, Stateless.issues]
  exact congrArg (· ++ _) lineIssues

end AlloyAssist
