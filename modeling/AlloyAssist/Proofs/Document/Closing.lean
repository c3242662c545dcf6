import AlloyAssist.Proofs.Document.Nesting
import AlloyAssist.Proofs.Document.Problems

/-!
# Blocks close if a document does

Checking weighs the braces of a whole document once. The outline counts them anew for every block,
from its declaration on, and falls back to the last line where the count never reaches zero. The
two counts differ by what is open above the declaration. If nothing is wrong with the braces of
the document, and no more of them were closed than opened above the block, then the count of the
block cannot stay above zero to the end. So the block ends on the code line where its count first
reaches zero, and the fallback is never taken.
-/

namespace AlloyAssist

open Text

namespace Check

theorem braceBalance_append (front rest : List (List Char)) :
    braceBalance (front ++ rest) = braceBalance front + braceBalance rest := by
  induction front with
  | nil => simp
  | cons line front ih =>
      rw [List.cons_append]
      by_cases code : Line.isCode line = true
      · rw [braceBalance_cons_of_isCode code, braceBalance_cons_of_isCode code, ih, Int.add_assoc]
      · rw [braceBalance_cons_of_not_isCode code, braceBalance_cons_of_not_isCode code, ih]

theorem toIssue_mem_issues_of_balance {catalog : Catalog} {lines : List (List Char)}
    {problem : Problem} (found : problem ∈ balanceProblems (braceBalance lines)) :
    problem.toIssue (lines.length - 1) ∈ issues catalog lines := by
  apply List.mem_append_right
  exact List.mem_map_of_mem found

/-- A document whose issues tell nothing of its braces has as many closing as opening ones. -/
theorem braceBalance_eq_zero_of_untold {catalog : Catalog} {lines : List (List Char)}
    (untold : ∀ issue ∈ issues catalog lines,
      issue.message ≠ "Unclosed block (missing closing brace)" ∧
        issue.message ≠ "Unexpected closing brace") : braceBalance lines = 0 := by
  rcases Int.lt_trichotomy (braceBalance lines) 0 with surplus | even | unclosed
  · have found := mem_balanceProblems_iff.mpr (.inr ⟨rfl, surplus⟩)
    exact absurd rfl (untold _ (toIssue_mem_issues_of_balance found)).2
  · exact even
  · have found := mem_balanceProblems_iff.mpr (.inl ⟨rfl, unclosed⟩)
    exact absurd rfl (untold _ (toIssue_mem_issues_of_balance found)).1

end Check

namespace Outline

open Check

/-! ## How a count goes on -/

/-- As long as no end is found, some brace is open behind every code line. -/
theorem braceBalance_pos {depth : Int} {index : Nat} {lines : List (List Char)}
    (runs : closingLine? depth index lines = none)
    (begun : 0 < depth ∨ ∃ line ∈ lines, Line.isCode line = true) :
    0 < depth + braceBalance lines := by
  induction lines generalizing depth index with
  | nil =>
      rcases begun with opened | ⟨line, membership, -⟩
      · rwa [braceBalance_nil, Int.add_zero]
      · cases membership
  | cons line lines ih =>
      rw [closingLine?] at runs
      by_cases code : Line.isCode line = true
      · rw [if_pos code] at runs
        rw [braceBalance_cons_of_isCode code, ← Int.add_assoc]
        by_cases closed : depth + Line.braceDelta line ≤ 0
        · rw [if_pos closed] at runs
          cases runs
        · rw [if_neg closed] at runs
          exact ih runs (.inl (by omega))
      · rw [if_neg code] at runs
        rw [braceBalance_cons_of_not_isCode code]
        apply ih runs
        rcases begun with opened | ⟨other, membership, otherCode⟩
        · exact .inl opened
        · rcases List.mem_cons.mp membership with rfl | below
          · exact absurd otherCode code
          · exact .inr ⟨other, below, otherCode⟩

theorem closingLine?_take {depth : Int} {index : Nat} {lines : List (List Char)}
    (runs : closingLine? depth index lines = none) (count : Nat) :
    closingLine? depth index (lines.take count) = none := by
  rw [← List.take_append_drop count lines, closingLine?_append, Option.or_eq_none_iff] at runs
  exact runs.1

theorem closingLine?_singleton {depth : Int} {index close : Nat} {line : List Char}
    (closes : closingLine? depth index [line] = some close) :
    Line.isCode line = true ∧ depth + braceBalance [line] ≤ 0 ∧ close = index := by
  rw [closingLine?] at closes
  by_cases code : Line.isCode line = true
  · rw [if_pos code] at closes
    rw [braceBalance_cons_of_isCode code, braceBalance_nil, Int.add_zero]
    by_cases closed : depth + Line.braceDelta line ≤ 0
    · rw [if_pos closed, Option.some_inj] at closes
      exact ⟨code, closed, closes.symm⟩
    · rw [if_neg closed] at closes
      cases closes
  · rw [if_neg code] at closes
    cases closes

/-- The end is a code line behind which no brace is left open, and the first such line. -/
theorem exists_of_closingLine? {depth : Int} {index close : Nat} {lines : List (List Char)}
    (closes : closingLine? depth index lines = some close) :
    ∃ above line below, lines = above ++ line :: below ∧ close = index + above.length ∧
      Line.isCode line = true ∧ depth + braceBalance (above ++ [line]) ≤ 0 ∧
      closingLine? depth index above = none := by
  induction lines generalizing depth index with
  | nil => cases closes
  | cons line lines ih =>
      have step := closingLine?_append depth index [line]
      cases first : closingLine? depth index [line] with
      | some found =>
          rw [← List.singleton_append, step, first, Option.some_or, Option.some_inj] at closes
          rcases closingLine?_singleton first with ⟨code, closed, rfl⟩
          exact ⟨[], line, lines, rfl, closes.symm, code, closed, rfl⟩
      | none =>
          rw [← List.singleton_append, step, first, Option.none_or] at closes
          rcases ih closes with ⟨above, last, below, rfl, rfl, code, closed, runs⟩
          refine ⟨line :: above, last, below, rfl, ?_, code, ?_, ?_⟩
          · rw [List.length_singleton, List.length_cons]
            omega
          · rw [List.cons_append, ← List.singleton_append, braceBalance_append]
            omega
          · rw [← List.singleton_append, step, first, Option.none_or, runs]

/-! ## The block of a declaration -/

variable {lines : List (List Char)} {start : Nat} {line : List Char}

/-- Where as many braces are closed as opened on all lines, and not more on the lines above, the
braces of a block that starts on a code line are closed again. -/
theorem exists_closingLine? (here : lines[start]? = some line) (code : Line.isCode line = true)
    (even : braceBalance lines = 0) (opened : 0 ≤ braceBalance (lines.take start)) :
    ∃ close, closingLine? 0 start (lines.drop start) = some close := by
  apply Option.ne_none_iff_exists'.mp
  intro runs
  have sum : braceBalance (lines.take start) + braceBalance (lines.drop start) = 0 := by
    rw [← braceBalance_append, List.take_append_drop, even]
  have first : line ∈ lines.drop start := by
    apply List.mem_of_head?
    rw [List.head?_drop, here]
  have unclosed := braceBalance_pos runs (.inr ⟨line, first, code⟩)
  omega

/-- The line on which the count of a block reaches zero is a code line, and up to it the count
stays above zero. -/
theorem closes_of_closingLine? (here : lines[start]? = some line) (code : Line.isCode line = true)
    {close : Nat} (closes : closingLine? 0 start (lines.drop start) = some close) :
    (∃ last, lines[close]? = some last ∧ Line.isCode last = true) ∧
      braceBalance ((lines.take (close + 1)).drop start) ≤ 0 ∧
      ∀ index, start ≤ index → index < close →
        0 < braceBalance ((lines.take (index + 1)).drop start) := by
  rcases exists_of_closingLine? closes with ⟨above, last, below, split, rfl, lastCode, closed, runs⟩
  rw [Int.zero_add] at closed
  refine ⟨⟨last, ?_, lastCode⟩, ?_, ?_⟩
  · rw [← List.getElem?_drop, split]
    simp
  · have count : start + above.length + 1 - start = above.length + 1 := by omega
    rwa [List.drop_take, split, count, List.take_length_add_append, List.take_one]
  · intro index le lt
    have short : index + 1 - start ≤ above.length := by omega
    have positive : index + 1 - start ≠ 0 := by omega
    rw [List.drop_take, split, List.take_append_of_le_length short]
    -- The first line of the block is the declaration, a code line, so the count has begun.
    have first : line ∈ above.take (index + 1 - start) := by
      apply List.mem_of_head?
      have front : (lines.drop start).head? = some line := by rw [List.head?_drop, here]
      rw [split, List.head?_append_of_ne_nil] at front
      · rw [List.head?_take, if_neg positive, front]
      · intro gone
        rw [gone, List.length_nil] at short
        omega
    have running := braceBalance_pos (closingLine?_take runs _) (.inr ⟨line, first, code⟩)
    rwa [Int.zero_add] at running

/-- If nothing is wrong with the braces of a document, then every block above which not more
braces are closed than opened ends on the code line where its own braces are first evened out. -/
theorem blocks_close_in_balanced_document (catalog : Catalog) (text : String)
    (untold : ∀ issue ∈ (Report.ofText catalog text).issues,
      issue.message ≠ "Unclosed block (missing closing brace)" ∧
        issue.message ≠ "Unexpected closing brace")
    {symbol : OutlineSymbol} (listed : symbol ∈ Outline.ofText text)
    (opened : 0 ≤ braceBalance ((Lines.split text.toList).contents.take symbol.startLine)) :
    let lines := (Lines.split text.toList).contents
    closingLine? 0 symbol.startLine (lines.drop symbol.startLine) = some symbol.endLine ∧
      (∃ line, lines[symbol.endLine]? = some line ∧ LineKind.classify line = .code) ∧
      braceBalance ((lines.take (symbol.endLine + 1)).drop symbol.startLine) ≤ 0 ∧
      ∀ index, symbol.startLine ≤ index → index < symbol.endLine →
        0 < braceBalance ((lines.take (index + 1)).drop symbol.startLine) := by
  intro lines
  rcases mem_symbols_iff.mp listed with ⟨line, here, isCode, -, stop⟩
  have code := Line.isCode_eq_true_iff.mpr isCode
  have even : braceBalance lines = 0 := braceBalance_eq_zero_of_untold untold
  rcases exists_closingLine? here code even opened with ⟨close, closes⟩
  have ended : symbol.endLine = close := by rw [stop, blockEnd, closes, Option.getD_some]
  rcases closes_of_closingLine? here code closes with ⟨⟨last, there, lastCode⟩, closed, running⟩
  rw [ended]
  exact ⟨closes, ⟨last, there, Line.isCode_eq_true_iff.mp lastCode⟩, closed, running⟩

/-- A line that closes two blocks leaves the count of the inner one below zero. The brace in the
comment above it does not count. -/
theorem blocks_close_two_at_once :
    let text := "local.a \"x\" \x7b\nlocal.b \"y\" \x7b\n// \x7d\n\x7d\x7d"
    let lines := (Lines.split text.toList).contents
    (Report.ofText .builtin text).issues = [] ∧
      ⟨⟨"local.b", "y"⟩, 1, 3⟩ ∈ Outline.ofText text ∧ braceBalance (lines.take 1) = 1 ∧
      closingLine? 0 1 (lines.drop 1) = some 3 ∧
      (∃ line, lines[3]? = some line ∧ LineKind.classify line = .code) ∧
      braceBalance ((lines.take 4).drop 1) ≤ 0 ∧ 0 < braceBalance ((lines.take 3).drop 1) := by
  intro text lines
  have clean : (Report.ofText .builtin text).issues = [] := by decide
  have listed : ⟨⟨"local.b", "y"⟩, 1, 3⟩ ∈ Outline.ofText text := by decide
  have opened : braceBalance (lines.take 1) = 1 := by decide
  have untold : ∀ issue ∈ (Report.ofText .builtin text).issues,
      issue.message ≠ "Unclosed block (missing closing brace)" ∧
        issue.message ≠ "Unexpected closing brace" := by
    rw [clean]
    intro issue membership
    cases membership
  rcases blocks_close_in_balanced_document .builtin text untold listed
    (by rw [opened]; decide) with ⟨closes, code, closed, running⟩
  exact ⟨clean, listed, opened, closes, code, closed, running 2 (by decide) (by decide)⟩

end Outline

end AlloyAssist
