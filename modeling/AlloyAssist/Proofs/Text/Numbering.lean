import AlloyAssist.Document.Basic
import AlloyAssist.Proofs.Line.Grammar
import AlloyAssist.Proofs.Text.Splitting

/-!
# What a line number means

Lines are told apart in several ways: checking sets the byte order mark and the endings aside, an
editor is shown lines with the mark and without a carriage return at their end, and places in a
text are counted from one line feed to the next. All of them begin a new line behind every line
feed and nowhere else, so that a line number means the same to each. The common measure is the
list of the text's pieces between line feeds. What a line holds is the same to checking and to the
editor as well, but for the mark and for a carriage return that nothing follows.
-/

namespace AlloyAssist

namespace Text

theorem glue_append (pieces : List (List Char)) (last more : List Char) :
    glue pieces last ++ more = glue pieces (last ++ more) := by
  rw [glue, glue, List.append_assoc]

theorem count_glue {pieces : List (List Char)} {last : List Char}
    (free : ∀ piece ∈ pieces, '\n' ∉ piece) (freeLast : '\n' ∉ last) :
    (glue pieces last).count '\n' = pieces.length := by
  induction pieces with
  | nil => exact List.count_eq_zero_of_not_mem freeLast
  | cons piece pieces ih =>
      rcases List.forall_mem_cons.mp free with ⟨freeFirst, freeRest⟩
      rw [glue_cons, List.count_append, List.count_eq_zero_of_not_mem freeFirst,
        List.count_cons_self, ih freeRest, List.length_cons, Nat.zero_add]

/-- Every line feed closes one piece. -/
theorem length_cut (text : List Char) : (cut text).1.length = text.count '\n' := by
  conv_rhs => rw [← glue_cut text]
  exact (count_glue (cut_free text).1 (cut_free text).2).symm

theorem splitOn_glue {pieces : List (List Char)} (free : ∀ piece ∈ pieces, '\n' ∉ piece)
    (last : List Char) : (glue pieces last).splitOn '\n' = pieces ++ last.splitOn '\n' := by
  induction pieces with
  | nil => rfl
  | cons piece pieces ih =>
      rcases List.forall_mem_cons.mp free with ⟨freeFirst, freeRest⟩
      rw [glue_cons, List.splitOn_append_cons_self_of_not_mem freeFirst, ih freeRest,
        List.cons_append]

theorem splitOn_eq_cut (text : List Char) :
    text.splitOn '\n' = (cut text).1 ++ [(cut text).2] := by
  conv_lhs => rw [← glue_cut text]
  rw [splitOn_glue (cut_free text).1, List.splitOn_eq_singleton (cut_free text).2]

theorem length_splitOn (text : List Char) :
    (text.splitOn '\n').length = text.count '\n' + 1 := by
  rw [splitOn_eq_cut, List.length_append, length_cut, List.length_singleton]

theorem seekPiece?_glue {pieces : List (List Char)} {last : List Char}
    (free : ∀ piece ∈ pieces, '\n' ∉ piece) (freeLast : '\n' ∉ last) (index : Nat) :
    seekPiece? index (glue pieces last) = (pieces ++ [last])[index]? := by
  induction pieces generalizing index with
  | nil =>
      rcases Line.span_until freeLast [] (by simp) with ⟨taken, dropped⟩
      rw [List.append_nil] at taken dropped
      cases index with
      | zero => simp [seekPiece?, taken]
      | succ index => simp [seekPiece?, dropped]
  | cons piece pieces ih =>
      rcases List.forall_mem_cons.mp free with ⟨freeFirst, freeRest⟩
      rcases Line.span_until freeFirst ('\n' :: glue pieces last) (by simp) with ⟨taken, dropped⟩
      cases index with
      | zero => simp [seekPiece?, taken]
      | succ index => simp [seekPiece?, dropped, ih freeRest]

theorem seekPiece?_eq_getElem? (index : Nat) (text : List Char) :
    seekPiece? index text = (text.splitOn '\n')[index]? := by
  rw [splitOn_eq_cut, ← seekPiece?_glue (cut_free text).1 (cut_free text).2, glue_cut]

/-- What is put behind a text continues its last piece and may bring further ones. -/
theorem exists_splitOn_append (front back : List Char) :
    ∃ more rest, (front ++ back).splitOn '\n' =
      (cut front).1 ++ ((cut front).2 ++ more) :: rest := by
  have split : (front ++ back).splitOn '\n' =
      (cut front).1 ++ ((cut front).2 ++ back).splitOn '\n' := by
    conv_lhs => rw [← glue_cut front, glue_append]
    exact splitOn_glue (cut_free front).1 _
  rw [split]
  cases lineFeeds : (cut back).1 with
  | nil =>
      have free : '\n' ∉ (cut front).2 ++ back := by
        rw [← glue_cut back, lineFeeds, glue_nil, List.mem_append, not_or]
        exact ⟨(cut_free front).2, (cut_free back).2⟩
      exact ⟨back, [], by rw [List.splitOn_eq_singleton free]⟩
  | cons more pieces =>
      have free : '\n' ∉ (cut front).2 ++ more := by
        rw [List.mem_append, not_or]
        exact ⟨(cut_free front).2, (cut_free back).1 more (by rw [lineFeeds]; simp)⟩
      refine ⟨more, (glue pieces (cut back).2).splitOn '\n', ?_⟩
      rw [← List.splitOn_append_cons_self_of_not_mem free, List.append_assoc, ← glue_cons,
        ← lineFeeds, glue_cut]

/-- The byte order mark and the endings set aside, there are as many lines as before. -/
theorem Lines.length_contents_split (text : List Char) :
    (Lines.split text).contents.length = (text.splitOn '\n').length := by
  rw [length_splitOn, Lines.length_contents]
  rcases Lines.split_cases text with ⟨rest, rfl, equal⟩ | ⟨-, equal⟩
  · have mark : (byteOrderMark :: rest).count '\n' = rest.count '\n' :=
      List.count_cons_of_ne (by decide)
    rw [equal, Lines.ofUnmarked, List.length_map, length_cut, mark]
  · rw [equal, Lines.ofUnmarked, List.length_map, length_cut]

end Text

namespace Document

open Text

theorem shownLines_eq_splitOn (text : List Char) :
    shownLines text = (text.splitOn '\n').map hideReturn := by
  rw [splitOn_eq_cut]
  rfl

/-- Hiding a carriage return takes away one, and nothing else. -/
theorem hideReturn_cases (line : List Char) :
    line = hideReturn line ++ ['\r'] ∨ line = hideReturn line ∧ ¬['\r'] <:+ line := by
  rw [hideReturn]
  by_cases hidden : line.getLast? = some '\r'
  · left
    rw [if_pos hidden]
    exact (List.dropLast_append_getLast? '\r' hidden).symm
  · right
    rw [if_neg hidden]
    refine ⟨rfl, ?_⟩
    rintro ⟨front, rfl⟩
    exact hidden List.getLast?_concat

theorem length_lines (document : Document) :
    document.lines.length = (Lines.split document.content.toList).contents.length := by
  rw [lines, shownLines_eq_splitOn, List.length_map, Lines.length_contents_split]

theorem content_ofPiece (piece : List Char) :
    (ClosedLine.ofPiece piece).content = hideReturn piece := by
  rw [ClosedLine.ofPiece, hideReturn]
  split
  · rfl
  · rfl

theorem hideReturn_cons_mark (line : List Char) :
    hideReturn (byteOrderMark :: line) = byteOrderMark :: hideReturn line := by
  cases line with
  | nil => rfl
  | cons c line =>
      rw [hideReturn, hideReturn, List.getLast?_cons_cons]
      split
      · rfl
      · rfl

/-- Behind a byte order mark the same lines are shown; the mark joins the first of them. -/
theorem shownLines_cons_mark (text : List Char) :
    shownLines (byteOrderMark :: text) = (shownLines text).modifyHead (byteOrderMark :: ·) := by
  have marked : (byteOrderMark :: text).splitOn '\n' =
      (text.splitOn '\n').modifyHead (byteOrderMark :: ·) :=
    List.splitOn_cons_eq_if_modifyHead byteOrderMark text
  rw [shownLines_eq_splitOn, shownLines_eq_splitOn, marked]
  cases text.splitOn '\n' with
  | nil => rfl
  | cons piece pieces =>
      simp only [List.modifyHead_cons, List.map_cons, hideReturn_cons_mark]

theorem getElem?_shownLines (hasMark : Bool) (text : List Char) (index : Nat) :
    (shownLines text)[index]? =
      (Lines.ofUnmarked hasMark text).contents[index]?.map fun line =>
        if index + 1 = (Lines.ofUnmarked hasMark text).contents.length then hideReturn line
        else line := by
  have checked : (Lines.ofUnmarked hasMark text).contents =
      (cut text).1.map hideReturn ++ [(cut text).2] := by
    simp [Lines.ofUnmarked, Lines.contents, Function.comp_def, content_ofPiece]
  have shown : shownLines text = (cut text).1.map hideReturn ++ [hideReturn (cut text).2] := by
    simp [shownLines]
  rw [checked, shown]
  generalize (cut text).1.map hideReturn = closed
  rcases Nat.lt_trichotomy index closed.length with inside | rfl | behind
  · rw [List.getElem?_append_left inside, List.getElem?_append_left inside]
    simp [Nat.ne_of_lt inside]
  · simp
  · have gone : ∀ last : List Char, (closed ++ [last])[index]? = none := by
      intro last
      apply List.getElem?_eq_none
      rw [List.length_append, List.length_singleton]
      omega
    rw [gone, gone, Option.map_none]

/-- A line is shown as it is checked, with the byte order mark in front of the first one and less
a carriage return at the end of the last one. -/
theorem getElem?_lines (document : Document) (index : Nat) :
    document.lines[index]? =
      (Lines.split document.content.toList).contents[index]?.map fun line =>
        (Lines.split document.content.toList).markAt index ++
          if index + 1 = (Lines.split document.content.toList).contents.length then hideReturn line
          else line := by
  have marked := Lines.hasMark_split document.content.toList
  rcases Lines.split_cases document.content.toList with ⟨rest, text, split⟩ | ⟨unmarked, split⟩
  · rw [text, List.head?_cons, eq_self_iff_true, iff_true, ← text] at marked
    rw [lines, text, shownLines_cons_mark, List.getElem?_modifyHead, getElem?_shownLines true,
      ← split, ← text, Lines.markAt]
    by_cases first : index = 0
    · simp [first, marked]
    · simp [first]
  · rw [lines, getElem?_shownLines false, ← split, Lines.markAt]
    simp [marked, unmarked]

/-- A line that is looked for on its own is the one in the list of all lines. -/
theorem line_eq_getD (document : Document) (index : Nat) :
    document.line index = (document.lines[index]?).getD [] := by
  rw [line, seekPiece?_eq_getElem?, lines, shownLines_eq_splitOn, List.getElem?_map]

/-- The mark is no carriage return, so it does not matter which of them is dealt with first. -/
theorem hideReturn_markAt_append (lines : Lines) (index : Nat) (line : List Char) :
    hideReturn (lines.markAt index ++ line) = lines.markAt index ++ hideReturn line := by
  rw [Lines.markAt]
  split
  · exact hideReturn_cons_mark line
  · rfl

/-- Checking and the editor cut a document into the same number of lines, one more than it has line
feeds. A line that the editor asks for by its number is the one in the list of all lines, and empty
behind the last one. It is the line that is checked, behind the byte order mark if the line is the
first of a document that has one, and less one carriage return at its end if it is the last. -/
theorem lines_match_checked_lines (document : Document) :
    let checked := Lines.split document.content.toList
    document.lines.length = checked.contents.length ∧
      checked.contents.length = document.content.toList.count '\n' + 1 ∧
      (∀ index, document.line index = (document.lines[index]?).getD []) ∧
      (∀ index shown, document.lines[index]? = some shown → document.line index = shown) ∧
      (∀ index, document.lines.length ≤ index → document.line index = []) ∧
      ∀ index content, checked.contents[index]? = some content →
        let whole :=
          (if index = 0 ∧ checked.hasMark = true then [byteOrderMark] else []) ++ content
        document.lines[index]? = some
          (if index + 1 = checked.contents.length ∧ whole.getLast? = some '\r' then whole.dropLast
          else whole) := by
  intro checked
  refine ⟨length_lines document, ?_, line_eq_getD document, ?_, ?_, ?_⟩
  · rw [Lines.length_contents_split, length_splitOn]
  · intro index shown here
    rw [line_eq_getD, here, Option.getD_some]
  · intro index behind
    rw [line_eq_getD, List.getElem?_eq_none behind, Option.getD_none]
  · intro index content here whole
    have shown := document.getElem?_lines index
    rw [here, Option.map_some] at shown
    rw [shown, Option.some_inj]
    by_cases last : index + 1 = checked.contents.length
    · rw [if_pos last, ← hideReturn_markAt_append, hideReturn]
      simp only [last, true_and]
      rfl
    · rw [if_neg last, if_neg (fun both => last both.1)]
      rfl

/-- A document of one line that both starts with a mark and ends with a carriage return, of which
it has two. -/
theorem lines_match_checked_lines_mark_and_return :
    let document : Document := ⟨"\ufeffa\r\r", "alloy"⟩
    document.lines[0]? = some [byteOrderMark, 'a', '\r'] ∧
      document.line 0 = [byteOrderMark, 'a', '\r'] ∧ document.line 1 = [] := by
  intro document
  rcases document.lines_match_checked_lines with ⟨-, -, -, listed, behind, shown⟩
  have first : document.lines[0]? = some [byteOrderMark, 'a', '\r'] :=
    (shown 0 ['a', '\r', '\r'] (by decide)).trans (by decide)
  exact ⟨first, listed 0 _ first, behind 1 (by decide)⟩

end Document

end AlloyAssist
