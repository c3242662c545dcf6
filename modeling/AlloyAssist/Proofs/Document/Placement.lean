import AlloyAssist.Document.Diagnostic
import AlloyAssist.Proofs.Document.Cores
import AlloyAssist.Proofs.Text.Column
import AlloyAssist.Proofs.Text.Numbering

/-!
# Where diagnostics are shown

Issues are found from the top of a document down, and what is wrong with its braces is put on its
last line. So their lines never decrease, and all of them are lines of the document. The editor
is shown other lines than those that were checked, but it numbers them the same way. A diagnostic
therefore marks the line of its issue, never the last line in its stead, and reaches to the end
of that line as it is shown. The number of the line and its width are sent in 32 bits each, so that
both have to fit.
-/

namespace AlloyAssist

open Text

namespace Check

/-! ## The lines of issues -/

theorem bounds_of_mem_lineIssues {catalog : Catalog} {index : Nat} {seen : List String}
    {lines : List (List Char)} {issue : Issue}
    (found : issue ∈ lineIssues catalog index seen lines) :
    index ≤ issue.line ∧ issue.line < index + lines.length := by
  induction lines generalizing index seen with
  | nil => cases found
  | cons line lines ih =>
      rw [lineIssues] at found
      rw [List.length_cons]
      split at found
      · rcases List.mem_append.mp found with here | below
        · rcases List.mem_map.mp here with ⟨problem, -, rfl⟩
          change index ≤ index ∧ index < index + (lines.length + 1)
          omega
        · have bounds := ih below
          omega
      · have bounds := ih found
        omega

theorem pairwise_line_lineIssues (catalog : Catalog) (index : Nat) (seen : List String)
    (lines : List (List Char)) :
    (lineIssues catalog index seen lines).Pairwise fun upper lower => upper.line ≤ lower.line := by
  induction lines generalizing index seen with
  | nil => exact .nil
  | cons line lines ih =>
      rw [lineIssues]
      split
      · rw [List.pairwise_append]
        refine ⟨?_, ih _ _, ?_⟩
        · rw [List.pairwise_map]
          exact List.pairwise_of_forall fun _ _ => Nat.le_refl index
        · intro upper here lower below
          rcases List.mem_map.mp here with ⟨problem, -, rfl⟩
          exact Nat.le_of_succ_le (bounds_of_mem_lineIssues below).1
      · exact ih _ _

theorem line_lt_of_mem_issues {catalog : Catalog} {lines : List (List Char)}
    (inhabited : lines ≠ []) {issue : Issue} (found : issue ∈ issues catalog lines) :
    issue.line < lines.length := by
  have positive := List.length_pos_iff.mpr inhabited
  rcases List.mem_append.mp found with ofLine | ofBraces
  · have bounds := bounds_of_mem_lineIssues ofLine
    omega
  · rcases List.mem_map.mp ofBraces with ⟨problem, -, rfl⟩
    exact Nat.sub_one_lt_of_lt positive

theorem pairwise_line_issues (catalog : Catalog) (lines : List (List Char)) :
    (issues catalog lines).Pairwise fun upper lower => upper.line ≤ lower.line := by
  rw [issues, List.pairwise_append]
  refine ⟨pairwise_line_lineIssues catalog 0 [] lines, ?_, ?_⟩
  · rw [List.pairwise_map]
    exact List.pairwise_of_forall fun _ _ => Nat.le_refl (lines.length - 1)
  · intro upper ofLine lower ofBraces
    have bounds := bounds_of_mem_lineIssues ofLine
    rcases List.mem_map.mp ofBraces with ⟨problem, -, rfl⟩
    change upper.line ≤ lines.length - 1
    omega

end Check

/-! ## The lines of diagnostics -/

/-- A line with a number that can be sent, and what is sent of its width. -/
theorem Span.ofLine_of_lt {line : Nat} (numbered : line < UInt32.size) (text : List Char) :
    ofLine line text = ⟨⟨line, 0⟩, ⟨line, columns text % UInt32.size⟩⟩ := by
  rw [ofLine, ofLines, Position.sent_of_lt numbered (by decide), Position.sent,
    Position.wrap_of_lt numbered, Position.wrap_eq_mod]

namespace Diagnostic

theorem ofIssue_eq {lines : List (List Char)} {issue : Issue} {line : List Char}
    (here : lines[issue.line]? = some line) :
    ofIssue lines issue = ⟨Span.ofLine issue.line line, issue.severity, issue.message⟩ := by
  have inside := (List.getElem?_eq_some_iff.mp here).1
  have unclamped : min issue.line (lines.length - 1) = issue.line := by omega
  rw [ofIssue, unclamped, here]
  rfl

end Diagnostic

namespace Document

/-- Every issue is about a line that the editor is shown. -/
theorem line_lt_length_lines {document : Document} {catalog : Catalog} {issue : Issue}
    (found : issue ∈ (Report.ofText catalog document.content).issues) :
    issue.line < document.lines.length := by
  rw [length_lines]
  apply Check.line_lt_of_mem_issues _ found
  rw [Lines.contents_eq_cons]
  exact List.cons_ne_nil _ _

/-- A line that is shown is a piece of the text between line feeds, less one carriage return at
its end. -/
theorem exists_piece_of_lt_length_lines {document : Document} {index : Nat}
    (inside : index < document.lines.length) :
    ∃ piece, (document.content.toList.splitOn '\n')[index]? = some piece ∧
      document.lines[index]? = some (hideReturn piece) := by
  rw [lines, shownLines_eq_splitOn, List.length_map] at inside
  refine ⟨_, List.getElem?_eq_getElem inside, ?_⟩
  rw [lines, shownLines_eq_splitOn, List.getElem?_map, List.getElem?_eq_getElem inside,
    Option.map_some]

/-- Issues are in the order of their lines and about lines that the editor is shown. Each is
published as the diagnostic in its place. If every line has a number that can be sent, the
diagnostic marks that line and nothing else: all of it, if its width can be sent as well, and
otherwise as much as is left of the width. -/
theorem diagnostics_mark_issue_lines (document : Document) (catalog : Catalog) :
    let issues := (Report.ofText catalog document.content).issues
    (issues.map Issue.line).Pairwise (· ≤ ·) ∧
      (∀ issue ∈ issues, issue.line < document.lines.length ∧
        min issue.line (document.lines.length - 1) = issue.line) ∧
      (∀ url, document.isAlloy url = true →
        (document.diagnostics catalog url).length = issues.length) ∧
      ∀ (place : Nat) (issue : Issue), issues[place]? = some issue →
        ∃ piece shown, (document.content.toList.splitOn '\n')[issue.line]? = some piece ∧
          (piece = shown ++ ['\r'] ∨ piece = shown ∧ ¬['\r'] <:+ piece) ∧
          (document.lines.length ≤ UInt32.size →
            Diagnostic.ofIssue document.lines issue =
              ⟨⟨⟨issue.line, 0⟩, ⟨issue.line, columns shown % UInt32.size⟩⟩, issue.severity,
                issue.message⟩) ∧
          (document.lines.length ≤ UInt32.size → columns shown < UInt32.size →
            Diagnostic.ofIssue document.lines issue =
              ⟨⟨⟨issue.line, 0⟩, ⟨issue.line, columns shown⟩⟩, issue.severity, issue.message⟩) ∧
          ∀ url, document.isAlloy url = true →
            (document.diagnostics catalog url)[place]? =
              some (Diagnostic.ofIssue document.lines issue) := by
  intro issues
  have published : ∀ url, document.isAlloy url = true →
      document.diagnostics catalog url = issues.map (Diagnostic.ofIssue document.lines) := by
    intro url alloy
    rw [diagnostics, if_pos alloy]
  refine ⟨List.pairwise_map.mpr (Check.pairwise_line_issues catalog _), ?_, ?_, ?_⟩
  · intro issue found
    have inside := line_lt_length_lines found
    exact ⟨inside, Nat.min_eq_left (Nat.le_sub_one_of_lt inside)⟩
  · intro url alloy
    rw [published url alloy, List.length_map]
  · intro place issue listed
    have inside := line_lt_length_lines (List.mem_of_getElem? listed)
    rcases exists_piece_of_lt_length_lines inside with ⟨piece, here, shown⟩
    have marked : document.lines.length ≤ UInt32.size →
        Diagnostic.ofIssue document.lines issue =
          ⟨⟨⟨issue.line, 0⟩, ⟨issue.line, columns (hideReturn piece) % UInt32.size⟩⟩,
            issue.severity, issue.message⟩ := by
      intro numbered
      rw [Diagnostic.ofIssue_eq shown, Span.ofLine_of_lt (Nat.lt_of_lt_of_le inside numbered)]
    refine ⟨piece, hideReturn piece, here, hideReturn_cases piece, marked, ?_, ?_⟩
    · intro numbered fits
      rw [marked numbered, Nat.mod_eq_of_lt fits]
    · intro url alloy
      rw [published url alloy, List.getElem?_map, listed, Option.map_some]

/-- A character may take two columns, and the carriage return at the end of the last line takes
none. -/
theorem diagnostics_mark_unclosed_string :
    let document : Document := ⟨"\ufeffa =\r\n😀\" \x7b\r", "alloy"⟩
    let url : Url := ⟨"untitled", none, "a", none, none⟩
    let issue : Issue := ⟨1, "Unclosed string literal", .error⟩
    document.isAlloy url = true ∧ document.lines.length ≤ UInt32.size ∧
      (Report.ofText .builtin document.content).issues[1]? = some issue ∧
      (document.diagnostics .builtin url)[1]? =
        some ⟨⟨⟨1, 0⟩, ⟨1, 5⟩⟩, .error, "Unclosed string literal"⟩ := by
  intro document url issue
  have alloy : document.isAlloy url = true := rfl
  have numbered : document.lines.length ≤ UInt32.size := by decide
  have listed : (Report.ofText .builtin document.content).issues[1]? = some issue := by decide
  refine ⟨alloy, numbered, listed, ?_⟩
  rcases (document.diagnostics_mark_issue_lines .builtin).2.2.2 1 issue listed with
    ⟨piece, shown, here, spelled, -, marked, published⟩
  have second : (document.content.toList.splitOn '\n')[1]? = some "😀\" \x7b\r".toList := by decide
  rw [second, Option.some_inj] at here
  have hidden : shown = "😀\" \x7b".toList := by
    rcases spelled with returned | ⟨-, unreturned⟩
    · exact List.append_cancel_right (returned.symm.trans here.symm)
    · rw [← here] at unreturned
      exact absurd (by decide) unreturned
  rw [published url alloy, marked numbered (by rw [hidden]; decide), hidden]
  decide

/-! ## A line wider than can be told -/

/-- A line that misses a value and goes on with blanks. -/
def blankValue (blanks : Nat) : List Char :=
  "a =".toList ++ List.replicate blanks ' '

theorem not_mem_blankValue {c : Char} (other : c ∉ "a =".toList) (blanks : Nat) :
    c ∉ blankValue blanks := by
  intro membership
  apply other
  rcases List.mem_append.mp membership with front | back
  · exact front
  · rw [List.eq_of_mem_replicate back]
    decide

theorem le_columns_blankValue (blanks : Nat) : blanks ≤ columns (blankValue blanks) := by
  have length : (blankValue blanks).length = "a =".length + blanks := by
    rw [blankValue, List.length_append, List.length_replicate, String.length_toList]
  have width := length_le_columns (blankValue blanks)
  omega

theorem issues_blankValue (blanks : Nat) :
    (Report.ofText .builtin (String.ofList (blankValue blanks))).issues =
      [⟨0, "Attribute 'a' is missing a value", .error⟩] := by
  have unmarked : (blankValue blanks).head? ≠ some byteOrderMark := by
    change some 'a' ≠ _
    decide
  have contents : (Lines.split (blankValue blanks)).contents = [blankValue blanks] := by
    rw [Lines.split_of_head?_ne unmarked, Lines.ofUnmarked,
      cut_of_not_mem (not_mem_blankValue (by decide) blanks)]
    rfl
  have cores : [blankValue blanks].map trim = ["a =".toList].map trim := by
    rw [List.map_singleton, blankValue, trim_append (allBlank_replicate_space blanks)]
    rfl
  rw [Report.ofText, String.toList_ofList, contents, Check.issues_congr cores]
  decide

/-- Where there is one line and no carriage return, an issue on it reaches less far than a line
that is too wide. -/
theorem span_ofIssue_ne_of_le_columns {text : List Char} (unbroken : '\n' ∉ text)
    (unreturned : '\r' ∉ text) (wide : UInt32.size ≤ columns text) {issue : Issue}
    (first : issue.line = 0) :
    (Diagnostic.ofIssue (shownLines text) issue).span ≠ ⟨⟨0, 0⟩, ⟨0, columns text⟩⟩ := by
  intro span
  have lines : shownLines text = [text] := by
    rw [shownLines_eq_splitOn, List.splitOn_eq_singleton unbroken, List.map_singleton]
    rcases hideReturn_cases text with returned | ⟨equal, -⟩
    · rw [returned] at unreturned
      exact absurd (List.mem_append_right _ (List.mem_singleton_self _)) unreturned
    · rw [← equal]
  have here : (shownLines text)[issue.line]? = some text := by
    rw [lines, first]
    rfl
  rw [Diagnostic.ofIssue_eq here] at span
  have width : Position.wrap (columns text) = columns text := congrArg (·.stop.character) span
  have fits := Position.wrap_lt (columns text)
  omega

/-- A diagnostic need not reach to the end of its line: of a width that does not fit, only the
rest is sent. -/
theorem not_forall_diagnostics_reach_line_end :
    ¬∀ (document : Document) (catalog : Catalog) (place : Nat) (issue : Issue)
        (piece shown : List Char),
      document.lines.length < UInt32.size →
      (Report.ofText catalog document.content).issues[place]? = some issue →
      (document.content.toList.splitOn '\n')[issue.line]? = some piece →
      (piece = shown ++ ['\r'] ∨ piece = shown ∧ ¬['\r'] <:+ piece) →
      (Diagnostic.ofIssue document.lines issue).span =
        ⟨⟨issue.line, 0⟩, ⟨issue.line, columns shown⟩⟩ := by
  intro claim
  have unbroken : '\n' ∉ blankValue UInt32.size := not_mem_blankValue (by decide) _
  have unreturned : '\r' ∉ blankValue UInt32.size := not_mem_blankValue (by decide) _
  have wide := le_columns_blankValue UInt32.size
  have told := issues_blankValue UInt32.size
  -- From here on it does not matter which line it is.
  generalize blankValue UInt32.size = text at unbroken unreturned wide told
  let document : Document := ⟨String.ofList text, "alloy"⟩
  have pieces : document.content.toList.splitOn '\n' = [text] := by
    rw [String.toList_ofList, List.splitOn_eq_singleton unbroken]
  have numbered : document.lines.length < UInt32.size := by
    rw [lines, shownLines_eq_splitOn, pieces, List.length_map, List.length_singleton]
    decide
  have span := claim document .builtin 0 ⟨0, "Attribute 'a' is missing a value", .error⟩ text text
    numbered (by rw [told]; rfl) (by rw [pieces]; rfl)
    (.inr ⟨rfl, fun suffix => unreturned (suffix.subset (List.mem_singleton_self _))⟩)
  rw [lines, String.toList_ofList] at span
  exact span_ofIssue_ne_of_le_columns unbroken unreturned wide rfl span

end Document

end AlloyAssist
