import AlloyAssist.Text.Lines
import Mathlib.Data.List.Basic

/-!
# Taking a text apart and putting it together

`Lines` can hold more than a text can spell: a line feed inside a line, a carriage
return that would read as part of the ending behind it, a byte order mark that would
read as the text's own. `Lines.WellFormed` rules these out. Taking a text apart gives
well-formed lines and loses nothing, and well-formed lines are read back as they were
written, so texts and well-formed lines are two views of the same thing.
-/

namespace AlloyAssist.Text

/-! ## Cutting at line feeds -/

/-- Pieces and a last one, as written: a line feed closes every piece. -/
def glue (pieces : List (List Char)) (last : List Char) : List Char :=
  pieces.flatMap (fun piece => piece ++ ['\n']) ++ last

@[simp] theorem glue_nil (last : List Char) : glue [] last = last := rfl

@[simp] theorem glue_cons (piece : List Char) (pieces : List (List Char)) (last : List Char) :
    glue (piece :: pieces) last = piece ++ '\n' :: glue pieces last := by
  simp [glue]

theorem cut_of_not_mem {text : List Char} (free : '\n' ∉ text) : cut text = ([], text) := by
  induction text with
  | nil => rfl
  | cons c text ih =>
      simp only [List.mem_cons, not_or] at free
      simp only [cut, ih free.2, if_neg (Ne.symm free.1)]

theorem cut_append {piece : List Char} (free : '\n' ∉ piece) (text : List Char) :
    cut (piece ++ '\n' :: text) = (piece :: (cut text).1, (cut text).2) := by
  induction piece with
  | nil => simp [cut]
  | cons c piece ih =>
      simp only [List.mem_cons, not_or] at free
      simp only [List.cons_append, cut, ih free.2, if_neg (Ne.symm free.1)]

theorem cut_glue {pieces : List (List Char)} {last : List Char}
    (free : ∀ piece ∈ pieces, '\n' ∉ piece) (freeLast : '\n' ∉ last) :
    cut (glue pieces last) = (pieces, last) := by
  induction pieces with
  | nil => exact cut_of_not_mem freeLast
  | cons piece pieces ih =>
      rw [glue_cons, cut_append (free piece (by simp)),
        ih fun piece membership => free piece (by simp [membership])]

/-- Cutting takes out line feeds only. -/
theorem glue_cut (text : List Char) : glue (cut text).1 (cut text).2 = text := by
  induction text with
  | nil => rfl
  | cons c text ih =>
      simp only [cut]
      split
      next lineFeed => rw [lineFeed, glue_cons, ih, List.nil_append]
      next ordinary =>
        split
        next none => rw [none, glue_nil] at ih; rw [glue_nil, ih]
        next piece pieces some =>
          rw [some, glue_cons] at ih
          rw [glue_cons, List.cons_append, ih]

/-- Cutting takes out all line feeds. -/
theorem cut_free (text : List Char) :
    (∀ piece ∈ (cut text).1, '\n' ∉ piece) ∧ '\n' ∉ (cut text).2 := by
  induction text with
  | nil => simp [cut]
  | cons c text ih =>
      rcases ih with ⟨free, freeLast⟩
      simp only [cut]
      split
      next lineFeed => exact ⟨by simpa using free, freeLast⟩
      next ordinary =>
        split
        next none => exact ⟨by simp, by simp [Ne.symm ordinary, freeLast]⟩
        next piece pieces some =>
          rw [some] at free
          simp only [List.mem_cons, forall_eq_or_imp] at free ⊢
          exact ⟨⟨by simp [Ne.symm ordinary, free.1], free.2⟩, freeLast⟩

/-! ## Lines and their endings -/

namespace ClosedLine

/-- What stands in front of the line feed that closes the line. -/
def piece (line : ClosedLine) : List Char :=
  match line.ending with
  | .lf => line.content
  | .crlf => line.content ++ ['\r']

/-- The line is read back as it is written: it holds no line feed, and no carriage
return at its end would be taken for a part of the ending. -/
structure WellFormed (line : ClosedLine) : Prop where
  free : '\n' ∉ line.content
  ending : line.ending = .lf → line.content.getLast? ≠ some '\r'

theorem chars_eq_piece (line : ClosedLine) : line.chars = line.piece ++ ['\n'] := by
  cases line with
  | mk content ending => cases ending <;> simp [chars, piece, Ending.chars]

theorem WellFormed.free_piece {line : ClosedLine} (wellFormed : line.WellFormed) :
    '\n' ∉ line.piece := by
  have free := wellFormed.free
  unfold piece
  split
  · exact free
  · simp [free]

theorem ofPiece_piece {line : ClosedLine} (wellFormed : line.WellFormed) :
    ofPiece line.piece = line := by
  rcases line with ⟨content, ending⟩
  cases ending with
  | lf => exact if_neg (wellFormed.ending rfl)
  | crlf => simp [ofPiece, piece]

theorem piece_ofPiece (text : List Char) : (ofPiece text).piece = text := by
  unfold ofPiece
  split
  next hidden => exact List.dropLast_append_getLast? '\r' hidden
  next shown => rfl

theorem wellFormed_ofPiece {text : List Char} (free : '\n' ∉ text) :
    (ofPiece text).WellFormed := by
  unfold ofPiece
  split
  next hidden =>
    exact ⟨fun membership => free (List.dropLast_subset _ membership), fun equal => by cases equal⟩
  next shown => exact ⟨free, fun _ => shown⟩

end ClosedLine

namespace Lines

/-- The line that the text opens with. -/
def first (lines : Lines) : List Char :=
  (lines.closed.head?.map ClosedLine.content).getD lines.last

/-- The byte order mark, in front of the first line of a text that opens with it. -/
def markAt (lines : Lines) (index : Nat) : List Char :=
  if index = 0 ∧ lines.hasMark = true then [byteOrderMark] else []

theorem contents_eq_cons (lines : Lines) :
    lines.contents = lines.first :: lines.contents.tail := by
  rcases lines with ⟨hasMark, closed, last⟩
  cases closed <;> rfl

theorem ext_of_contents {left right : Lines} (mark : left.hasMark = right.hasMark)
    (contents : left.contents = right.contents) (endings : left.endings = right.endings) :
    left = right := by
  rcases left with ⟨leftMark, leftClosed, leftLast⟩
  rcases right with ⟨rightMark, rightClosed, rightLast⟩
  simp only [Lines.contents, Lines.endings] at mark contents endings
  rcases List.append_inj' contents rfl with ⟨contentsEq, lastEq⟩
  rcases List.append_inj' endings rfl with ⟨endingsEq, -⟩
  have closedEq : leftClosed = rightClosed := by
    have pairs := congrArg₂ List.zip contentsEq endingsEq
    simp only [List.zip_map'] at pairs
    apply List.map_injective_iff.mpr _ pairs
    intro leftLine rightLine equal
    cases leftLine
    cases rightLine
    simpa using equal
  simp_all

/-- The lines are read back as they are written. -/
structure WellFormed (lines : Lines) : Prop where
  closed : ∀ line ∈ lines.closed, line.WellFormed
  last : '\n' ∉ lines.last
  /-- Without a byte order mark of its own the text does not open with one. -/
  mark : lines.hasMark = false → lines.first.head? ≠ some byteOrderMark

/-- The text behind the byte order mark. -/
def body (lines : Lines) : List Char :=
  glue (lines.closed.map ClosedLine.piece) lines.last

theorem join_eq_body (lines : Lines) :
    lines.join = (if lines.hasMark then [byteOrderMark] else []) ++ lines.body := by
  simp only [join, body, glue, List.flatMap_map, List.append_assoc, ← ClosedLine.chars_eq_piece]

theorem ofUnmarked_body {lines : Lines} (wellFormed : lines.WellFormed) :
    ofUnmarked lines.hasMark lines.body = lines := by
  have free : ∀ piece ∈ lines.closed.map ClosedLine.piece, '\n' ∉ piece := by
    intro piece membership
    rcases List.mem_map.mp membership with ⟨line, lineMembership, rfl⟩
    exact (wellFormed.closed line lineMembership).free_piece
  have readBack : (lines.closed.map ClosedLine.piece).map ClosedLine.ofPiece = lines.closed := by
    rw [List.map_map]
    refine (List.map_congr_left ?_).trans (List.map_id _)
    intro line membership
    exact ClosedLine.ofPiece_piece (wellFormed.closed line membership)
  simp only [ofUnmarked, body, cut_glue free wellFormed.last, readBack]

theorem split_of_head?_ne {text : List Char} (unmarked : text.head? ≠ some byteOrderMark) :
    split text = ofUnmarked false text := by
  cases text with
  | nil => rfl
  | cons c text => exact if_neg fun equal => unmarked (by rw [equal]; rfl)

theorem split_cons_mark (text : List Char) :
    split (byteOrderMark :: text) = ofUnmarked true text := rfl

/-- Nothing but the first line can put a byte order mark in front of the body. -/
theorem head?_body_eq_mark_iff (lines : Lines) :
    lines.body.head? = some byteOrderMark ↔ lines.first.head? = some byteOrderMark := by
  rcases lines with ⟨hasMark, closed, last⟩
  cases closed with
  | nil => exact Iff.rfl
  | cons line closed =>
      rcases line with ⟨content, ending⟩
      cases content with
      | nil => cases ending <;> simp [body, first, ClosedLine.piece, byteOrderMark]
      | cons c content => cases ending <;> simp [body, first, ClosedLine.piece]

theorem body_ofUnmarked (hasMark : Bool) (text : List Char) :
    (ofUnmarked hasMark text).body = text := by
  have pieces : ((cut text).1.map ClosedLine.ofPiece).map ClosedLine.piece = (cut text).1 := by
    rw [List.map_map]
    refine (List.map_congr_left ?_).trans (List.map_id _)
    intro piece membership
    exact ClosedLine.piece_ofPiece piece
  simp only [ofUnmarked, body, pieces, glue_cut]

/-- The two ways a text opens, and what is left to take apart. -/
theorem split_cases (text : List Char) :
    (∃ rest, text = byteOrderMark :: rest ∧ split text = ofUnmarked true rest) ∨
      text.head? ≠ some byteOrderMark ∧ split text = ofUnmarked false text := by
  by_cases marked : text.head? = some byteOrderMark
  · rcases List.head?_eq_some_iff.mp marked with ⟨rest, rfl⟩
    exact .inl ⟨rest, rfl, split_cons_mark rest⟩
  · exact .inr ⟨marked, split_of_head?_ne marked⟩

theorem hasMark_split (text : List Char) :
    (split text).hasMark = true ↔ text.head? = some byteOrderMark := by
  rcases split_cases text with ⟨rest, rfl, equal⟩ | ⟨unmarked, equal⟩
  · simp [equal, ofUnmarked]
  · simp [equal, ofUnmarked, unmarked]

/-- Taking a text apart loses nothing. -/
theorem join_split (text : List Char) : (split text).join = text := by
  rw [join_eq_body]
  rcases split_cases text with ⟨rest, rfl, equal⟩ | ⟨-, equal⟩
  · rw [equal, body_ofUnmarked]
    rfl
  · rw [equal, body_ofUnmarked]
    rfl

theorem wellFormed_split (text : List Char) : (split text).WellFormed := by
  have taken : ∃ hasMark rest, split text = ofUnmarked hasMark rest ∧
      (hasMark = false → rest.head? ≠ some byteOrderMark) := by
    rcases split_cases text with ⟨rest, rfl, equal⟩ | ⟨unmarked, equal⟩
    · exact ⟨true, rest, equal, fun absent => nomatch absent⟩
    · exact ⟨false, text, equal, fun _ => unmarked⟩
  rcases taken with ⟨hasMark, rest, equal, unmarked⟩
  rw [equal]
  rcases cut_free rest with ⟨free, freeLast⟩
  refine ⟨?_, freeLast, ?_⟩
  · intro line membership
    rcases List.mem_map.mp membership with ⟨piece, pieceMembership, rfl⟩
    exact ClosedLine.wellFormed_ofPiece (free piece pieceMembership)
  · intro absent opened
    rw [← head?_body_eq_mark_iff, body_ofUnmarked] at opened
    exact unmarked absent opened

/-- Well-formed lines are read back as they are written. -/
theorem split_join {lines : Lines} (wellFormed : lines.WellFormed) :
    split lines.join = lines := by
  rw [join_eq_body]
  cases marked : lines.hasMark with
  | true => exact (marked ▸ ofUnmarked_body wellFormed :)
  | false =>
      have unmarked : lines.body.head? ≠ some byteOrderMark :=
        mt (head?_body_eq_mark_iff lines).mp (wellFormed.mark marked)
      exact (split_of_head?_ne unmarked).trans (marked ▸ ofUnmarked_body wellFormed :)

end Lines

end AlloyAssist.Text
