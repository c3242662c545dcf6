import AlloyAssist.Proofs.Document.Closing

/-!
# Lines that checking passes over

A blank line or a comment takes part in a document only by the room that it takes: whatever it
holds, be it a brace, a quote or a declaration, the lines around it are blamed for what they were
blamed for without it. What moves are the numbers of the lines behind it, and with them the line
that a verdict on the braces is put on, which is the last one with it as without it.
-/

namespace AlloyAssist

open Text

/-- Put an issue on another line. -/
def Issue.renumber (number : Nat → Nat) (issue : Issue) : Issue :=
  { issue with line := number issue.line }

namespace Check

/-- The number of a line when one more is put in at a place. -/
def makeRoom (place index : Nat) : Nat :=
  if index < place then index else index + 1

variable {catalog : Catalog} {seen : List String} {place index : Nat}

/-- What is wrong with a line does not depend on its number. -/
theorem map_renumber_toIssue (number : Nat → Nat) (index : Nat) (problems : List Problem) :
    (problems.map (Problem.toIssue index)).map (Issue.renumber number) =
      problems.map (Problem.toIssue (number index)) := by
  rw [List.map_map]
  rfl

theorem lineIssues_succ (behind : place ≤ index) (lines : List (List Char)) :
    lineIssues catalog (index + 1) seen lines =
      (lineIssues catalog index seen lines).map (Issue.renumber (makeRoom place)) := by
  induction lines generalizing index seen with
  | nil => rfl
  | cons line lines ih =>
      have moved : makeRoom place index = index + 1 := if_neg (Nat.not_lt.mpr behind)
      have below := Nat.le_succ_of_le behind
      rw [lineIssues, lineIssues]
      split
      · rw [List.map_append, map_renumber_toIssue, moved, ih below]
      · exact ih below

/-- A line that is passed over makes room for itself and does nothing else. -/
theorem lineIssues_insert {skipped : List Char} (noCode : ¬Line.isCode skipped = true)
    (above below : List (List Char)) :
    lineIssues catalog index seen (above ++ [skipped] ++ below) =
      (lineIssues catalog index seen (above ++ below)).map
        (Issue.renumber (makeRoom (index + above.length))) := by
  induction above generalizing index seen with
  | nil =>
      rw [List.nil_append, List.singleton_append, lineIssues, if_neg noCode]
      exact lineIssues_succ (Nat.le_refl index) below
  | cons line above ih =>
      have stays : makeRoom (index + (line :: above).length) index = index := by
        apply if_pos
        rw [List.length_cons]
        omega
      have length : index + 1 + above.length = index + (line :: above).length := by
        rw [List.length_cons]
        omega
      rw [List.cons_append, List.cons_append, List.cons_append, lineIssues, lineIssues]
      split
      · rw [List.map_append, map_renumber_toIssue, stays, ih, length]
      · rw [ih, length]

theorem braceBalance_insert {skipped : List Char} (noCode : ¬Line.isCode skipped = true)
    (above below : List (List Char)) :
    braceBalance (above ++ [skipped] ++ below) = braceBalance (above ++ below) := by
  rw [List.append_assoc, List.singleton_append, braceBalance_append, braceBalance_append,
    braceBalance_cons_of_not_isCode noCode]

theorem length_balanceProblems_le (balance : Int) : (balanceProblems balance).length ≤ 1 := by
  rw [balanceProblems]
  split
  · exact Nat.le_refl 1
  · split
    · exact Nat.le_refl 1
    · exact Nat.zero_le 1

end Check

namespace Report

open Check

/-- With a blank line or a comment put in between, the lines of a document are blamed for the same
in the same order, those behind it under the next number. The verdict on the braces, if there is
one, is the same, on the line that is now the last. -/
theorem skipped_line_renumbers_issues (catalog : Catalog) {text longer : String}
    {above below : List (List Char)} {skipped : List Char}
    (short : (Lines.split text.toList).contents = above ++ below)
    (long : (Lines.split longer.toList).contents = above ++ [skipped] ++ below)
    (noCode : LineKind.classify skipped ≠ .code) :
    ∃ ofLines verdict : List Issue,
      (Report.ofText catalog text).issues = ofLines ++ verdict ∧
      (Report.ofText catalog longer).issues =
        ofLines.map (Issue.renumber fun index =>
          if index < above.length then index else index + 1) ++
        verdict.map (Issue.renumber fun _ => above.length + below.length) ∧
      (∀ issue ∈ ofLines, ¬issue.TellsBraces) ∧
      (∀ issue ∈ verdict, issue.TellsBraces ∧
        issue.line = above.length + below.length - 1) ∧
      verdict.length ≤ 1 := by
  have passed : ¬Line.isCode skipped = true := mt Line.isCode_eq_true_iff.mp noCode
  have shortLength : (above ++ below).length - 1 = above.length + below.length - 1 := by
    rw [List.length_append]
  have longLength : (above ++ [skipped] ++ below).length - 1 = above.length + below.length := by
    simp only [List.length_append, List.length_singleton]
    omega
  refine ⟨lineIssues catalog 0 [] (above ++ below),
    (balanceProblems (braceBalance (above ++ below))).map
      (Problem.toIssue (above.length + below.length - 1)), ?_, ?_, ?_, ?_, ?_⟩
  · rw [Report.ofText, short, Check.issues, shortLength]
  · rw [Report.ofText, long, Check.issues, longLength, braceBalance_insert passed,
      map_renumber_toIssue, lineIssues_insert passed, Nat.zero_add]
    rfl
  · intro issue found
    exact not_tellsBraces_of_mem_lineIssues found
  · intro issue found
    rcases List.mem_map.mp found with ⟨problem, uneven, rfl⟩
    exact ⟨tellsBraces_of_mem_balanceProblems uneven _, rfl⟩
  · rw [List.length_map]
    exact length_balanceProblems_le _

/-- A comment that holds a quote and a brace, between lines that are blamed for their own. -/
theorem skipped_line_renumbers_issues_behind_comment :
    let text := "x =\ny = \"\n\x7b"
    let longer := "x =\n/* y = \" \x7d =\ny = \"\n\x7b"
    (Report.ofText .builtin text).issues.map Issue.line = [0, 1, 2] ∧
      (Report.ofText .builtin longer).issues.map Issue.line = [0, 2, 3] ∧
      ∃ ofLines verdict : List Issue,
        (Report.ofText .builtin text).issues = ofLines ++ verdict ∧
        (Report.ofText .builtin longer).issues =
          ofLines.map (Issue.renumber fun index => if index < 1 then index else index + 1) ++
          verdict.map (Issue.renumber fun _ => 3) ∧
        (∀ issue ∈ ofLines, ¬issue.TellsBraces) ∧
        (∀ issue ∈ verdict, issue.TellsBraces ∧ issue.line = 2) ∧
        verdict.length ≤ 1 := by
  intro text longer
  have short : (Lines.split text.toList).contents =
      ["x =".toList] ++ ["y = \"".toList, "\x7b".toList] := by decide
  have long : (Lines.split longer.toList).contents =
      ["x =".toList] ++ ["/* y = \" \x7d =".toList] ++ ["y = \"".toList, "\x7b".toList] := by decide
  have noCode : LineKind.classify "/* y = \" \x7d =".toList ≠ .code := by decide
  exact ⟨by decide, by decide, skipped_line_renumbers_issues .builtin short long noCode⟩

end Report

end AlloyAssist
