import AlloyAssist.Proofs.Document.Settling

/-!
# What laying out keeps

A document that is laid out again holds the same characters in the same order, blanks aside,
on the same lines with the same endings. Only the blanks around a line change: blank lines and
`//` comments are shown as they were, and every other line is its core behind its margin.

The statement is about the text that comes out, read again from scratch. Its first line may
then be cut short, where a byte order mark has moved to the start of the text and is taken for
the text's own. `Lines.written` counts the mark as part of the first line, and so tells what
stands there either way.
-/

namespace AlloyAssist

open Text

theorem Text.ClosedLine.solids_chars (line : ClosedLine) :
    solids line.chars = solids line.content := by
  have ending : solids line.ending.chars = [] := by
    cases line.ending <;> rfl
  rw [ClosedLine.chars, solids_append, ending, List.append_nil]

namespace Text.Lines

/-- The lines as they stand in the text, with the byte order mark in front of the first. -/
def written (lines : Lines) : List (List Char) :=
  lines.contents.mapIdx fun index line => lines.markAt index ++ line

theorem getElem?_written {lines : Lines} {index : Nat} {line : List Char}
    (here : lines.contents[index]? = some line) :
    lines.written[index]? = some (lines.markAt index ++ line) := by
  rw [written, List.getElem?_mapIdx, here, Option.map_some]

/-- Whether the mark is part of the first line or the text's own, it stands in front. -/
theorem written_absorbMark {lines : Lines} (unmarked : lines.hasMark = false)
    (opened : lines.first.head? = some byteOrderMark) :
    lines.absorbMark.written = lines.written := by
  rcases List.head?_eq_some_iff.mp opened with ⟨rest, first⟩
  rw [written, written, contents_absorbMark, contents_eq_cons lines, List.mapIdx_cons,
    List.mapIdx_cons, first]
  simp [markAt, hasMark_absorbMark, unmarked]

theorem endings_absorbMark (lines : Lines) : lines.absorbMark.endings = lines.endings := by
  rcases lines with ⟨hasMark, closed, last⟩
  cases closed <;> rfl

/-- What a text holds besides blanks is in the cores of its lines. -/
theorem solids_join (lines : Lines) :
    solids lines.join =
      (if lines.hasMark then [byteOrderMark] else []) ++
        (lines.contents.map trim).flatMap solids := by
  have closed : solids (lines.closed.flatMap ClosedLine.chars) =
      lines.closed.flatMap fun line => solids line.content := by
    rw [solids, List.filter_flatMap]
    exact List.flatMap_congr fun line _ => line.solids_chars
  have mark : solids (if lines.hasMark then [byteOrderMark] else []) =
      if lines.hasMark then [byteOrderMark] else [] := by
    split <;> rfl
  rw [join, solids_append, solids_append, mark, closed, contents, List.append_assoc]
  simp only [List.map_append, List.map_map, List.flatMap_append, List.flatMap_map,
    List.map_singleton, List.flatMap_singleton, Function.comp_apply, solids_trim]

end Text.Lines

namespace Indentation

theorem getElem?_placeLines (level index : Nat) (lines : List (List Char)) :
    (placeLines level lines)[index]? =
      lines[index]?.map (place (levelAfter level (lines.take index))) := by
  induction lines generalizing level index with
  | nil => rfl
  | cons line lines ih =>
      cases index with
      | zero => rfl
      | succ index => exact ih (nextLevel level line) index

/-! ## The text that comes out -/

theorem written_split_format (text : String) :
    (Lines.split (format text).toList).written = (layOut (Lines.split text.toList)).written := by
  rcases split_toList_format_cases text with ⟨-, equal⟩ | ⟨unmarked, opened, equal⟩
  · rw [equal]
  · rw [equal, Lines.written_absorbMark unmarked opened]

theorem endings_split_format (text : String) :
    (Lines.split (format text).toList).endings = (Lines.split text.toList).endings := by
  rw [← endings_layOut (Lines.split text.toList)]
  rcases split_toList_format_cases text with ⟨-, equal⟩ | ⟨-, -, equal⟩
  · rw [equal]
  · rw [equal, Lines.endings_absorbMark]

theorem solids_format (text : String) : solids (format text).toList = solids text.toList := by
  rw [format, String.toList_ofList, Lines.solids_join, contents_layOut, map_trim_placeLines]
  conv_rhs => rw [← Lines.join_split text.toList, Lines.solids_join]
  rfl

theorem head?_format {text : String} (marked : (Lines.split text.toList).hasMark = true) :
    (format text).toList.head? = some byteOrderMark := by
  rw [format, String.toList_ofList, Lines.join_eq_body]
  have kept : (layOut (Lines.split text.toList)).hasMark = true := marked
  rw [kept]
  rfl

theorem getElem?_written_format {text : String} {index : Nat} {line : List Char}
    (here : (Lines.split text.toList).contents[index]? = some line) :
    (Lines.split (format text).toList).written[index]? =
      some ((Lines.split text.toList).markAt index ++
        place (levelAfter 0 ((Lines.split text.toList).contents.take index)) line) := by
  have placed : (layOut (Lines.split text.toList)).contents[index]? =
      some (place (levelAfter 0 ((Lines.split text.toList).contents.take index)) line) := by
    rw [contents_layOut, getElem?_placeLines, here, Option.map_some]
  rw [written_split_format, Lines.getElem?_written placed]
  rfl

theorem isKept_eq_true_iff {line : List Char} :
    isKept line = true ↔
      LineKind.classify line = .blank ∨ LineKind.classify line = .lineComment := by
  rw [isKept]
  cases LineKind.classify line <;> simp

theorem isKept_eq_false_iff {line : List Char} :
    isKept line = false ↔
      ¬(LineKind.classify line = .blank ∨ LineKind.classify line = .lineComment) := by
  rw [← isKept_eq_true_iff, Bool.not_eq_true]

/-- Laying a document out loses, adds and reorders nothing but blanks around its lines. -/
theorem format_keeps_content (text : String) :
    solids (format text).toList = solids text.toList ∧
      (Lines.split (format text).toList).endings = (Lines.split text.toList).endings ∧
      ((Lines.split text.toList).hasMark = true →
        (format text).toList.head? = some byteOrderMark) ∧
      ∀ index line, (Lines.split text.toList).contents[index]? = some line →
        (LineKind.classify line = .blank ∨ LineKind.classify line = .lineComment →
          (Lines.split (format text).toList).written[index]? =
            some ((Lines.split text.toList).markAt index ++ line)) ∧
        (¬(LineKind.classify line = .blank ∨ LineKind.classify line = .lineComment) →
          ∃ level, (Lines.split (format text).toList).written[index]? =
            some ((Lines.split text.toList).markAt index ++
              (List.replicate (2 * level) ' ' ++ trim line))) := by
  refine ⟨solids_format text, endings_split_format text, head?_format, ?_⟩
  intro index line here
  rw [← isKept_eq_true_iff, getElem?_written_format here]
  constructor
  · intro kept
    rw [place_of_isKept kept]
  · intro moved
    rw [place_of_not_isKept (Bool.eq_false_iff.mpr moved)]
    exact ⟨_, rfl⟩

/-- A byte order mark in front of the first line, a stray carriage return behind a comment. -/
theorem format_keeps_stray_return :
    let text := "\ufeff\tx \x7b\r\n\t// y\r\r\n z"
    (∃ level, (Lines.split (format text).toList).written[0]? =
        some (byteOrderMark :: (List.replicate (2 * level) ' ' ++ "x \x7b".toList))) ∧
      (Lines.split (format text).toList).written[1]? = some "\t// y\r".toList ∧
      ∃ level, (Lines.split (format text).toList).written[2]? =
        some (List.replicate (2 * level) ' ' ++ ['z']) := by
  intro text
  rcases format_keeps_content text with ⟨-, -, -, lines⟩
  have mark : (Lines.split text.toList).markAt 0 = [byteOrderMark] := by decide
  have core : trim "\tx \x7b".toList = "x \x7b".toList := by decide
  refine ⟨?_, ?_, ?_⟩
  · have first := (lines 0 "\tx \x7b".toList (by decide)).2 (by decide)
    rw [mark, core] at first
    exact first
  · exact (lines 1 "\t// y\r".toList (by decide)).1 (by decide)
  · exact (lines 2 " z".toList (by decide)).2 (by decide)

end Indentation

end AlloyAssist
